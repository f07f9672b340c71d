import ViewCases.Batch
import ViewCases.CommandLine.Arguments
import ViewCases.Interface.Reading
import ViewCases.Output
import ViewCases.Settings.Load

/-! A run of the program: from a file tree, an environment and an argument list to the
tree it leaves, what it prints and the code it exits with. Some faults leave no exit
code; those are errors of the run itself. -/
namespace ViewCases

namespace Batch

def ofFile [Source.Swift.Outliner] (s : Settings) (tree : FileTree) (path : Text) :
    Except InterfaceFault Batch :=
  (Interface.ofFile tree [] path).map fun found =>
    { ofModifiers s path found.modifiers with issues := found.issues }

end Batch

namespace CommandLine
open Text

inductive LogLevel
  | notset
  | debug
  | info
  | warning
  | error
  | critical
  deriving DecidableEq, Repr

inductive LogFault
  | unknown (name : Text)
  | isFormat (format : Text)
  | isTable
  deriving DecidableEq, Repr

namespace LogFault

def message : LogFault → Text
  | .unknown name => "module 'logging' has no attribute '" ++ name ++ "'"
  | .isFormat format => "Unknown level: " ++ quoted format
  | .isTable => "Level not an integer or a valid string"

end LogFault

namespace LogLevel

def names : List (Text × LogLevel) :=
  [("NOTSET", .notset), ("DEBUG", .debug), ("INFO", .info), ("WARN", .warning),
    ("WARNING", .warning), ("ERROR", .error), ("FATAL", .critical), ("CRITICAL", .critical)]

/-- The level of a name, without regard to case. Two names of the same table stand for
something else. -/
def ofName (name : Text) : Except LogFault LogLevel :=
  let name := upper name
  match names.lookup name with
  | some level => .ok level
  | none =>
    if name = "BASIC_FORMAT" then .error (.isFormat "%(levelname)s:%(name)s:%(message)s")
    else if name = "_STYLES" then .error .isTable
    else .error (.unknown name)

end LogLevel

inductive Fault
  | config (fault : ConfigFault)
  | log (fault : LogFault)
  | output (fault : OutputFault)
  deriving DecidableEq, Repr

def Fault.message : Fault → Text
  | .config fault => fault.message
  | .log fault => fault.message
  | .output fault => fault.message

structure Outcome where
  tree : FileTree
  printed : Text := []
  complaints : Text := []
  exit : Except Fault Nat

/-- Exit codes: all files were generated, some were not, or there was nothing to
generate from. -/
def exitDone : Nat := 0
def exitIncomplete : Nat := 1
def exitBadInput : Nat := 2

/-- Whether a configuration fault ends the run with an exit code. Of the faults of a
file those do that come from values which do not exist. -/
def endsOrderly : ConfigFault → Bool
  | .keyIsNoText | .tooLongPath _ => false
  | .unusable (.noSuchValue _) => true
  | .unusable _ => false
  | _ => true

def destination (s : Settings) (a : Arguments) : Destination where
  directory := .ofText (match a.output with
    | some (c :: cs) => c :: cs
    | _ => s.outputDir)
  removesEarlier := a.clean || s.cleanOutput
  fileExtension := s.fileExtension

def warningLines (units : List EnumFile) : Text :=
  units.flatMap fun u => u.warnings.flatMap fun w => "warning: " ++ u.fileName ++ ": " ++ w ++ "\n"

def errorLines (units : List EnumFile) : Text :=
  units.flatMap fun u => u.errors.flatMap fun e => "error: " ++ u.fileName ++ ": " ++ e ++ "\n"

def summary (b : Batch) (d : Destination) (written : List Path) : Text :=
  "\n  Generated " ++ decimal written.length ++ " file(s) in " ++ d.directory.text ++
    "\n  Modifiers: " ++ decimal b.extractedCount ++ " extracted, " ++ decimal b.skipped.length ++
    " skipped\n\n"

def report (tree : FileTree) (d : Destination) (b : Batch) : Outcome :=
  let out := Output.write d tree b.units
  match out.written with
  | .error fault => { tree := out.tree, exit := .error (.output fault) }
  | .ok written =>
    { tree := out.tree
      printed := warningLines b.units ++ summary b d written
      complaints := errorLines b.units
      exit := .ok (if b.isSuccessful then exitDone else exitIncomplete) }

/-- A verbose run ignores the log level of the settings. -/
def checkLogLevel (s : Settings) (a : Arguments) : Except LogFault LogLevel :=
  if a.verbose then .ok .debug else LogLevel.ofName s.logLevel

variable [Source.Swift.Outliner]

def runWith (tree : FileTree) (s : Settings) (input : Text) (a : Arguments) : Outcome :=
  match checkLogLevel s a with
  | .error fault => { tree, exit := .error (.log fault) }
  | .ok _ =>
    match Batch.ofFile s tree input with
    | .error _ => { tree, exit := .ok exitBadInput }
    | .ok batch => report tree (destination s a) batch

/-- The run. What YAML, the values of settings and Swift sources say is left to a loader, a reader
and an outliner. `env` is the environment after a `.env` file has been read into it. -/
def run [Yaml.Loader] [Setting.Reader] (tree : FileTree) (env : Environment)
    (arguments : List Text) : Outcome :=
  match Arguments.parse arguments with
  | .error e => { tree, complaints := e.message, exit := .ok exitBadInput }
  | .ok .help => { tree, printed := help, exit := .ok exitDone }
  | .ok .version =>
    { tree, printed := programName ++ " " ++ version ++ "\n", exit := .ok exitDone }
  | .ok (.run input a) =>
    match Settings.load tree env a.config with
    | .error fault =>
      { tree, exit := if endsOrderly fault then .ok exitBadInput else .error (.config fault) }
    | .ok s => runWith tree s input a

end CommandLine
end ViewCases
