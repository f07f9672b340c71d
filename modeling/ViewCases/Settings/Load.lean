import ViewCases.FileTree.Basic
import ViewCases.Settings.Check
import ViewCases.Yaml.Value

/-! Settings out of a configuration file and the environment. A variable counts more
than the file, and the file more than the defaults. How a file is read and how a value is checked
is left to a loader and a reader. -/
namespace ViewCases
open Text Config

variable [Yaml.Loader] [Setting.Reader]

abbrev Environment := List (Text × Text)

inductive ConfigFault
  | missingFile (path : Text)
  | tooLongPath (path : Path)
  | notUtf8 (fault : Utf8.Fault)
  | unusable (fault : Yaml.Fault)
  | notAMapping (path : Path)
  | keyIsNoText
  | invalid (problems : List Problem)
  deriving DecidableEq, Repr

namespace ConfigFault

def message : ConfigFault → Text
  | .missingFile path => "Config file not found: " ++ path
  | .tooLongPath path => "the path is too long: " ++ path.text
  | .notUtf8 fault => fault.message
  | .unusable fault => fault.message
  | .notAMapping path => path.text ++ " must contain a mapping at the top level"
  | .keyIsNoText => "keywords must be strings"
  | .invalid problems =>
    decimal problems.length ++ " invalid settings: " ++
      joinWith ", " (problems.map fun p => joinWith "." p.place)

end ConfigFault

namespace Settings

/-- The file that is read when no other is named. -/
def defaultFile : Text := "modifierswift.yaml"

/-- The entries of a mapping, if all its keys are texts. A broken text is the key of no setting. -/
def textKeys : List (Value × Value) → Except ConfigFault (List (Text × Value))
  | [] => .ok []
  | (.text k, v) :: rest => ((k, v) :: ·) <$> textKeys rest
  | (.broken _, _) :: rest => textKeys rest
  | _ :: _ => .error .keyIsNoText

/-- The entries that the value of a whole configuration file holds. A value that
counts as missing holds none. -/
def entriesOf (path : Path) (v : Value) : Except ConfigFault (List (Text × Value)) :=
  if v.isVoid then .ok []
  else match v with
    | .map entries => textKeys entries
    | _ => .error (.notAMapping path)

def faultOf : Yaml.LoadFault → ConfigFault
  | .notUtf8 fault => .notUtf8 fault
  | .unusable fault => .unusable fault

/-- The entries that a configuration file holds. Of several faults of the file the one counts
that the loader comes upon. -/
def entriesOfFile (path : Path) (content : List UInt8) :
    Except ConfigFault (List (Text × Value)) := do
  entriesOf path (← (Yaml.Loader.load content).mapError faultOf)

/-- The entries of the configuration file: the one named, which must exist, or else the
default one if it exists. An empty name names none. A path that is too long is no missing
file but a fault of its own. -/
def fileEntries (tree : FileTree) (path : Option Text) : Except ConfigFault (List (Text × Value)) :=
  match path with
  | none | some [] =>
    match tree.content? (.ofText defaultFile) with
    | some content => entriesOfFile (.ofText defaultFile) content
    | none => .ok []
  | some name =>
    let path := Path.ofText name
    match tree.locate path, tree.content? path with
    | .error .tooLong, _ => .error (.tooLongPath path)
    | _, some content => entriesOfFile path content
    | _, none => .error (.missingFile name)

/-- The value of a setting: that of its variable, or else that in the file. -/
def given (env : Environment) (entries : List (Text × Value)) (s : Setting) : Option Value :=
  ((s.variableName?.bind fun name => List.lookup name env).map Value.text).or (valueIn entries s)

def ofSources (env : Environment) (entries : List (Text × Value)) : Except ConfigFault Settings :=
  (ofValues (given env entries)).mapError .invalid

/-- The settings of a run. `env` is the environment after a `.env` file has been read into it. -/
def load (tree : FileTree) (env : Environment) (path : Option Text) :
    Except ConfigFault Settings := do
  ofSources env (← fileEntries tree path)

end Settings

/-- Settings that were loaded, by the name of their file. -/
abbrev SettingsCache := List (Option Text × Settings)

/-- The settings remembered for a name, or those that are loaded and remembered now.
The flag tells whether they were remembered. Failures are not. -/
def SettingsCache.get (cache : SettingsCache) (tree : FileTree) (env : Environment)
    (path : Option Text) : Except ConfigFault (SettingsCache × Settings × Bool) :=
  match cache.lookup path with
  | some s => .ok (cache, s, true)
  | none => (Settings.load tree env path).map fun s => ((path, s) :: cache, s, false)

end ViewCases
