/-
# A transport that records

The recorder answers every request with the same result, and keeps the
requests and a count of the calls that stop listening.

Key definition: `Recorder`.
-/
import Nearfield.Engine

namespace Nearfield
namespace Bench

structure Recorder where
  outcome : ScanResult
  /-- Newest request first. -/
  received : List Request
  stops : Nat

instance : Transport Recorder where
  scan request r := (r.outcome, { r with received := request :: r.received })
  stopListening r := { r with stops := r.stops + 1 }

end Bench
end Nearfield
