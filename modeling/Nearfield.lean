import Nearfield.Bench.Directory
import Nearfield.Bench.Drill
import Nearfield.Bench.Recorder
import Nearfield.Config.Json
import Nearfield.Main
import Nearfield.Proofs.Memory
import Nearfield.Proofs.PayloadArea
import Nearfield.Proofs.Channel.Lockstep
import Nearfield.Proofs.LastWrite
import Nearfield.Proofs.Tag.WriteProtection
import Nearfield.Proofs.Channel.Ends
import Nearfield.Proofs.Channel.TagLink
import Nearfield.Proofs.Tag.RandomId
import Nearfield.Proofs.Channel.LinkMap
import Nearfield.Proofs.Conversation.Authenticity
import Nearfield.Proofs.Conversation.Protection
import Nearfield.Proofs.Conversation.Discipline
import Nearfield.Proofs.PayloadArea.Exactness
import Nearfield.Proofs.Channel.LinkErrors
import Nearfield.Proofs.Host.Cancellation
import Nearfield.Proofs.Host.Drills
import Nearfield.Proofs.Engine
import Nearfield.Proofs.ReadModes
import Nearfield.Proofs.NoTrace
import Nearfield.Proofs.Links
import Nearfield.Proofs.Channel.Reactivation
import Nearfield.Proofs.Tag.Refusal
import Nearfield.Proofs.Channel.WriteRange
import Nearfield.Proofs.Channel.ReadRange
import Nearfield.Proofs.KeyTest
import Nearfield.Proofs.Channel.Negatives
import Nearfield.Proofs.MacTexts
import Nearfield.Proofs.Key
import Nearfield.Proofs.Cli.RoundTrip
import Nearfield.Proofs.SessionVectors
import Nearfield.Proofs.Shown
