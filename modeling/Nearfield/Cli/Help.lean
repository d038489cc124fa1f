/-
# Help

The texts that answer questions for help, on the program and on each command.
Only reading modes are told about at length, so only the help on `read` is
longer in full than in short.

Key definition: `Help.text`.
-/
import Nearfield.Cli.Arguments

namespace Nearfield
namespace Cli
namespace Help

/-- Lines of text. -/
def lines (texts : List String) : String := String.join (texts.map (· ++ "\n"))

def program : String := lines [
  "Scan Ultralight AES tags with the chipscan engine",
  "",
  "Usage: chipscan [OPTIONS] <COMMAND>",
  "",
  "Commands:",
  "  read       Read UID and payload from the tag",
  "  write      Write a payload to the tag",
  "  test       Check that the tag works with the current keys",
  "  roundtrip  Write a payload and read it back in one session with the tag",
  "  help       Print this message or the help of the given subcommand(s)",
  "",
  "Options:",
  "  -v, --verbose              Trace level output",
  "  -c, --config <CONFIG>      Config file (defaults to ./chipscan.toml when present)",
  "      --key0 <KEY0>          Data protection key (key0), hex encoded",
  "      --key1 <KEY1>          UID retrieval key (key1), hex encoded",
  "      --model <MODEL>        Tag model presented to the field "
    ++ "[possible values: ultralight-aes, ultralight-ev1, ntag215]",
  "      --uid <UID>            Tag UID, 7 bytes hex encoded",
  "      --random-id            Enable random ID on the tag",
  "      --tag-key0 <TAG_KEY0>  Key 0 programmed into the tag, defaults to --key0",
  "      --tag-key1 <TAG_KEY1>  Key 1 programmed into the tag, defaults to --key1",
  "  -h, --help                 Print help",
  "  -V, --version              Print version"]

def read : String := lines [
  "Read UID and payload from the tag",
  "",
  "Usage: chipscan read [OPTIONS]",
  "",
  "Options:",
  "  -m, --mode <MODE>  Read mode, defaults to the configured mode "
    ++ "[possible values: fast, full, full-noauth, full-nocmac]",
  "  -h, --help         Print help (see more with '--help')"]

def readInFull : String := lines [
  "Read UID and payload from the tag",
  "",
  "Usage: chipscan read [OPTIONS]",
  "",
  "Options:",
  "  -m, --mode <MODE>",
  "          Read mode, defaults to the configured mode",
  "",
  "          Possible values:",
  "          - fast:        Anticollision UID only",
  "          - full:        Authenticated, MAC verified read",
  "          - full-noauth: Payload read without authentication",
  "          - full-nocmac: Authenticated read without response MAC checks",
  "",
  "  -h, --help",
  "          Print help (see a summary with '-h')"]

/-- Help on a command that has a payload. -/
def payload (about name : String) : String := lines [
  about,
  "",
  "Usage: chipscan " ++ name ++ " [OPTIONS] <DATA>",
  "",
  "Arguments:",
  "  <DATA>  Payload as hex, or as text with --text",
  "",
  "Options:",
  "      --text  Treat the payload as UTF-8 text",
  "  -h, --help  Print help"]

def test : String := lines [
  "Check that the tag works with the current keys",
  "",
  "Usage: chipscan test",
  "",
  "Options:",
  "  -h, --help  Print help"]

def help : String := lines [
  "Print this message or the help of the given subcommand(s)",
  "",
  "Usage: chipscan help [COMMAND]...",
  "",
  "Arguments:",
  "  [COMMAND]...  Print help for the subcommand(s)"]

def text (topic : Topic) (full : Bool) : String :=
  match topic with
  | .program => program
  | .read => if full then readInFull else read
  | .write => payload "Write a payload to the tag" "write"
  | .test => test
  | .roundtrip =>
    payload "Write a payload and read it back in one session with the tag" "roundtrip"
  | .help => help

end Help
end Cli
end Nearfield
