import ViewCases.EnumFile

/-! The settings of a run. -/
namespace ViewCases

/-- What a run is told. `unionNames` names the enums of single categories by their
labels; the other enums have the label and `unionSuffix` as name. -/
structure Settings where
  outputDir : Text := "./Generated"
  logLevel : Text := "INFO"
  fileExtension : Text := ".swift"
  unionSuffix : Text := "Modifier"
  unionNames : List (Text × Text) := []
  skipGenericModifiers : Bool := true
  deduplicateOverloads : Bool := true
  emitDefaultValues : Bool := true
  maxTypeDepth : Nat := 4
  cleanOutput : Bool := false
  maxTypeDepth_pos : 1 ≤ maxTypeDepth := by decide
  deriving DecidableEq, Repr

namespace Settings

def unionName (s : Settings) (label : Text) : Text :=
  (s.unionNames.lookup label).getD (label ++ s.unionSuffix)

def options (s : Settings) : EnumFile.Options where
  emitDefaultValues := s.emitDefaultValues
  maxTypeDepth := s.maxTypeDepth
  fileExtension := s.fileExtension

end Settings

inductive Setting
  | outputDir
  | logLevel
  | fileExtension
  | unionSuffix
  | unionNames
  | skipGenericModifiers
  | deduplicateOverloads
  | emitDefaultValues
  | maxTypeDepth
  | cleanOutput
  deriving DecidableEq, Repr

namespace Setting

/-- All settings, in the order in which they are checked. -/
def all : List Setting :=
  [.outputDir, .logLevel, .fileExtension, .unionSuffix, .unionNames, .skipGenericModifiers,
    .deduplicateOverloads, .emitDefaultValues, .maxTypeDepth, .cleanOutput]

def key : Setting → Text
  | .outputDir => "output_dir"
  | .logLevel => "log_level"
  | .fileExtension => "file_extension"
  | .unionSuffix => "union_suffix"
  | .unionNames => "union_names"
  | .skipGenericModifiers => "skip_generic_modifiers"
  | .deduplicateOverloads => "deduplicate_overloads"
  | .emitDefaultValues => "emit_default_values"
  | .maxTypeDepth => "max_type_depth"
  | .cleanOutput => "clean_output"

/-- Whether one environment variable can hold the setting. -/
def isScalar (s : Setting) : Bool :=
  s ≠ .unionNames

/-- The environment variable that holds the setting, if one can. -/
def variableName? (s : Setting) : Option Text :=
  if s.isScalar then some ("MODIFIERSWIFT_" ++ s.key.map Char.toUpper) else none

theorem mem_all (s : Setting) : s ∈ all := by
  cases s <;> decide

end Setting

abbrev Positive := { n : Nat // 1 ≤ n }

/-- What the settings hold under one of them. -/
abbrev Setting.Content : Setting → Type
  | .outputDir | .logLevel | .fileExtension | .unionSuffix => Text
  | .unionNames => List (Text × Text)
  | .maxTypeDepth => Positive
  | .skipGenericModifiers | .deduplicateOverloads | .emitDefaultValues | .cleanOutput => Bool

namespace Settings

/-- What the settings hold under one of them. -/
def get (s : Settings) : (f : Setting) → f.Content
  | .outputDir => s.outputDir
  | .logLevel => s.logLevel
  | .fileExtension => s.fileExtension
  | .unionSuffix => s.unionSuffix
  | .unionNames => s.unionNames
  | .skipGenericModifiers => s.skipGenericModifiers
  | .deduplicateOverloads => s.deduplicateOverloads
  | .emitDefaultValues => s.emitDefaultValues
  | .maxTypeDepth => ⟨s.maxTypeDepth, s.maxTypeDepth_pos⟩
  | .cleanOutput => s.cleanOutput

def build (outputDir logLevel fileExtension unionSuffix : Text)
    (unionNames : List (Text × Text))
    (skipGenericModifiers deduplicateOverloads emitDefaultValues : Bool)
    (depth : Positive) (cleanOutput : Bool) : Settings :=
  { outputDir, logLevel, fileExtension, unionSuffix, unionNames, skipGenericModifiers,
    deduplicateOverloads, emitDefaultValues, cleanOutput
    maxTypeDepth := depth.1
    maxTypeDepth_pos := depth.2 }

def ofContents (c : (f : Setting) → f.Content) : Settings :=
  build (c .outputDir) (c .logLevel) (c .fileExtension) (c .unionSuffix) (c .unionNames)
    (c .skipGenericModifiers) (c .deduplicateOverloads) (c .emitDefaultValues)
    (c .maxTypeDepth) (c .cleanOutput)

@[simp] theorem get_ofContents (c : (f : Setting) → f.Content) (f : Setting) :
    (ofContents c).get f = c f := by
  cases f <;> rfl

@[simp] theorem ofContents_get (s : Settings) : ofContents s.get = s := rfl

end Settings
end ViewCases
