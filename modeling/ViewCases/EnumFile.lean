import ViewCases.Variant

/-! One generated file: a public enum with a case for each modifier of a group, and
an extension of View that applies a case by calling the modifier. A case declares
and a call passes the external labels; the pattern between them binds the internal
names. Nothing is written unless every modifier has a case of its own. -/
namespace ViewCases
open Text

/-- A generated file, or the record of one that failed. A failed file has errors
and no source. -/
structure EnumFile where
  fileName : Text
  source : Text
  caseCount : Nat
  warnings : List Text
  errors : List Text
  deriving DecidableEq, Repr

namespace EnumFile

def isSuccessful (f : EnumFile) : Bool :=
  f.errors.isEmpty

def hasWarnings (f : EnumFile) : Bool :=
  !f.warnings.isEmpty

def failed (fileName error : Text) : EnumFile :=
  ⟨fileName, [], 0, [], [error]⟩

structure Options where
  emitDefaultValues : Bool := true
  maxTypeDepth : Int := 4
  fileExtension : Text := ".swift"

inductive GenerationError
  | noModifiers (enumName : Text)
  | invalidName (enumName : Text)
  | unsupported (modifier : Text) (obstacle : Obstacle)
  | duplicateCase (enumName tag first second : Text)
  deriving DecidableEq, Repr

def GenerationError.message : GenerationError → Text
  | .noModifiers enumName => "Cannot generate " ++ quoted enumName ++ ": no modifiers provided"
  | .invalidName enumName => "Invalid enum name: " ++ quoted enumName
  | .unsupported modifier obstacle =>
    "Unsupported type " ++ quoted obstacle.typeText ++ " in modifier " ++ quoted modifier ++
      ": " ++ obstacle.reason
  | .duplicateCase enumName tag first second =>
    "Duplicate case '" ++ tag ++ "' in " ++ enumName ++ ": " ++ first ++ " and " ++ second

/-- The first two variants with one tag, the earlier one first; of several such
pairs the one whose second variant comes first. -/
def clash? (seen : List Variant) : List Variant → Option (Variant × Variant)
  | [] => none
  | v :: vs =>
    match seen.find? (·.tag = v.tag) with
    | some u => some (u, v)
    | none => clash? (seen ++ [v]) vs

def indent (depth : Nat) (line : Text) : Text :=
  List.replicate (4 * depth) ' ' ++ line

def headerLines (enumName : Text) (count : Nat) : List Text :=
  ["// " ++ enumName ++ ".swift",
    "// Generated by modifier-swift. Do not edit by hand.",
    "// Variants: " ++ decimal count,
    "",
    "import SwiftUI",
    ""]

/-- The documentation comment of a case: the documentation line by line, then the
availability. -/
def docLines (m : Modifier) : List Text :=
  let documentation := match m.documentation with
    | some d => (lines (strip d)).map fun line => stripEnd (indent 1 ("/// " ++ strip line))
    | none => []
  let availability := match m.availability with
    | some (c :: cs) =>
      (if documentation.isEmpty then [] else [indent 1 "///"]) ++
        [indent 1 ("/// - Availability: " ++ c :: cs)]
    | _ => []
  documentation ++ availability

def caseLine (withDefault : Bool) (v : Variant) : Text :=
  let payload := match v.fields with
    | [] => []
    | fields => "(" ++ joinWith ", " (fields.map (Field.declaration withDefault)) ++ ")"
  indent 1 ("case " ++ v.caseName ++ payload)

def enumLines (withDefault : Bool) (enumName : Text) (vs : List Variant) : List Text :=
  let noun : Text := if vs.length = 1 then "modifier" else "modifiers"
  let top : List Text := ["/// Generated modifier enum `" ++ enumName ++ "`.",
    "///",
    "/// This enum provides type-safe access to " ++ decimal vs.length ++ " SwiftUI " ++ noun ++ ".",
    "/// It is machine-generated; regenerate it instead of editing.",
    "public enum " ++ enumName ++ ": Equatable, Sendable \x7b"]
  top ++ vs.flatMap (fun v => docLines v.modifier ++ [caseLine withDefault v]) ++ [['\x7d']]

/-- The branch of the switch for a case: the pattern and the call. -/
def branchLines (v : Variant) : List Text :=
  let call : Text := "self." ++ Identifier.escape v.modifier.name
  let bindings := joinWith ", " (v.fields.map fun f => "let " ++ f.binding)
  let pattern : Text := match v.fields with
    | [] => []
    | _ => "(" ++ bindings ++ ")"
  [indent 2 ("case ." ++ v.caseName ++ pattern ++ ":"),
    indent 3 (call ++ "(" ++ joinWith ", " (v.fields.map Field.argument) ++ ")")]

def extensionLines (enumName : Text) (vs : List Variant) : List Text :=
  let top : List Text := ["extension View \x7b",
    indent 1 ("/// Applies a `" ++ enumName ++ "` value to this view."),
    indent 1 "@inlinable",
    indent 1 "@ViewBuilder",
    indent 1 ("public func modifier(_ modifier: " ++ enumName ++ ") -> some View \x7b"),
    indent 2 "switch modifier \x7b"]
  top ++ vs.flatMap branchLines ++ [indent 2 "\x7d", indent 1 "\x7d", "\x7d"]

def sourceLines (withDefault : Bool) (enumName : Text) (vs : List Variant) : List Text :=
  headerLines enumName vs.length ++ enumLines withDefault enumName vs ++ [[]] ++
    extensionLines enumName vs

def render (withDefault : Bool) (enumName : Text) (vs : List Variant) : Text :=
  joinWith "\n" (sourceLines withDefault enumName vs) ++ "\n"

def variantOf (maxDepth : Int) (m : Modifier) : Except GenerationError (Variant × List Text) :=
  match Variant.ofModifier maxDepth m with
  | .ok v => .ok v
  | .error obstacle => .error (.unsupported m.name obstacle)

/-- The file for a group of modifiers, in the order given. -/
def generate (options : Options) (enumName : Text) (ms : List Modifier) :
    Except GenerationError EnumFile := do
  if ms.isEmpty then .error (.noModifiers enumName)
  else if !Identifier.isValidTypeName enumName then .error (.invalidName enumName)
  else
    let built ← ms.mapM (variantOf options.maxTypeDepth)
    let vs := built.map (·.1)
    match clash? [] vs with
    | some (first, second) =>
      .error (.duplicateCase enumName second.tag first.modifier.callSignature
        second.modifier.callSignature)
    | none =>
      return {
        fileName := enumName ++ options.fileExtension
        source := render options.emitDefaultValues enumName vs
        caseCount := vs.length
        warnings := built.flatMap (·.2)
        errors := [] }

end EnumFile
end ViewCases
