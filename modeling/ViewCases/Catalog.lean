import ViewCases.Text.Basic

/-! The parts of the generator that are offered by name. -/
namespace ViewCases.Catalog

def names : List Text :=
  ["TypeAnalyzer", "TypeParser", "parse_type", "categorize", "Category", "EnumGenerator",
    "GeneratedCode", "GeneratedCodeWriter", "InterfaceParser", "ModifierInfo", "ParameterInfo"]

structure UnknownName where
  name : Text
  deriving DecidableEq, Repr

def UnknownName.message (e : UnknownName) : Text :=
  "module 'modifierswift.core' has no attribute " ++ e.name

def find (name : Text) : Except UnknownName Text :=
  if names.contains name then .ok name else .error ⟨name⟩

end ViewCases.Catalog
