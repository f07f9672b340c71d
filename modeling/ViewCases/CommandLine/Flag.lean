import ViewCases.Text.Quoted

/-! The flags of the command line, its usage and its help. -/
namespace ViewCases.CommandLine
open Text

inductive Flag
  | help
  | input
  | output
  | config
  | clean
  | verbose
  | version
  deriving DecidableEq, Repr

namespace Flag

def all : List Flag := [.help, .input, .output, .config, .clean, .verbose, .version]

def names : Flag → List Text
  | .help => ["-h", "--help"]
  | .input => ["--input", "-i"]
  | .output => ["--output", "-o"]
  | .config => ["--config"]
  | .clean => ["--clean"]
  | .verbose => ["--verbose", "-v"]
  | .version => ["--version"]

def takesValue : Flag → Bool
  | .input | .output | .config => true
  | _ => false

def table : List (Text × Flag) :=
  all.flatMap fun f => f.names.map (·, f)

def ofName? (name : Text) : Option Flag :=
  table.lookup name

def title (f : Flag) : Text :=
  joinWith "/" f.names

end Flag

def programName : Text := "modifier-swift"

def version : Text := "0.1.0"

def usage : Text :=
  "usage: modifier-swift [-h] --input INPUT [--output OUTPUT] [--config CONFIG]\n" ++
  "                      [--clean] [--verbose] [--version]\n"

def help : Text :=
  let options : List Text := [
    "options:",
    "  -h, --help            show this help message and exit",
    "  --input INPUT, -i INPUT",
    "                        Path to a .swiftinterface or .swift file",
    "  --output OUTPUT, -o OUTPUT",
    "                        Output directory for generated files (overrides",
    "                        settings)",
    "  --config CONFIG       YAML settings file",
    "  --clean               Remove previously generated files from the output",
    "                        directory",
    "  --verbose, -v         Enable debug logging",
    "  --version             show program's version number and exit"]
  usage ++ "\nGenerate type-safe Swift enums from SwiftUI View modifiers\n\n" ++
    options.flatMap (· ++ ['\n'])

inductive UsageError
  | expectsValue (flag : Flag)
  | takesNoValue (flag : Flag) (value : Text)
  | ambiguous (argument : Text) (names : List Text)
  | inputMissing
  | unrecognized (arguments : List Text)
  deriving DecidableEq, Repr

namespace UsageError

def reason : UsageError → Text
  | .expectsValue flag => "argument " ++ flag.title ++ ": expected one argument"
  | .takesNoValue flag value =>
    "argument " ++ flag.title ++ ": ignored explicit argument " ++ quoted value
  | .ambiguous argument names =>
    "ambiguous option: " ++ argument ++ " could match " ++ joinWith ", " names
  | .inputMissing => "the following arguments are required: " ++ Flag.input.title
  | .unrecognized arguments => "unrecognized arguments: " ++ joinWith " " arguments

def message (e : UsageError) : Text :=
  usage ++ programName ++ ": error: " ++ e.reason ++ "\n"

end UsageError
end ViewCases.CommandLine
