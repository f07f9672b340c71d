import ViewCases.Batch
import ViewCases.Proofs.TypeExpr.Guarded

/-! A run in which every step may throw. A failed generation and an unreadable type are
caught where the run catches them; everything else goes through to the caller. Since the
reader makes no mistake of its own, nothing does. -/
namespace ViewCases
open Text

namespace Variant

def tryReadType (name t : Text) : Except Thrown TypeExpr :=
  match TypeExpr.tryParse t with
  | .ok e => .ok e
  | .error (.unresolved u) => .error (.generation (.unsupported name (.unreadable t u.reason)))
  | .error other => .error other

def tryField (maxDepth : Int) (m : Modifier) (p : Parameter) :
    Except Thrown (Field × List Text) := do
  let e ← tryReadType m.name p.type
  match PayloadIssue.ofType? e with
  | some issue => .error (.generation (.unsupported m.name (.notStorable p.type issue)))
  | none => .ok (⟨p, e.payloadText⟩, warnings maxDepth m p e)

def tryVariant (maxDepth : Int) (m : Modifier) : Except Thrown (Variant × List Text) := do
  if m.isGeneric then
    .error (.generation (.unsupported m.name (.isGeneric m.genericParameters)))
  else
    let _ ← tryReadType m.name m.returnType
    let fields ← m.parameters.mapM (tryField maxDepth m)
    return (⟨m, Identifier.variantTag m.name, fields.map (·.1)⟩, fields.flatMap (·.2))

/-- The obstacle as the run throws it. -/
def thrown (name : Text) (o : Obstacle) : Thrown := .generation (.unsupported name o)

theorem tryReadType_eq (name t : Text) :
    tryReadType name t = (readType t).mapError (thrown name) := by
  rw [tryReadType, TypeExpr.tryParse_eq, readType]
  cases TypeExpr.parse t with
  | ok e => rfl
  | error u => rfl

theorem tryField_eq (d : Int) (m : Modifier) (p : Parameter) :
    tryField d m p = (fieldOf d m p).mapError (thrown m.name) := by
  rw [tryField, fieldOf, tryReadType_eq]
  cases readType p.type with
  | error o => rfl
  | ok e =>
    simp only [Except.mapError, bind, Except.bind]
    cases PayloadIssue.ofType? e with
    | some issue => rfl
    | none => rfl

theorem tryVariant_eq (d : Int) (m : Modifier) :
    tryVariant d m = (ofModifier d m).mapError (thrown m.name) := by
  rw [tryVariant, ofModifier, tryReadType_eq,
    mapM_mapError fun p _ => tryField_eq d m p]
  cases m.isGeneric with
  | true => rfl
  | false =>
    cases readType m.returnType with
    | error o => rfl
    | ok e =>
      cases m.parameters.mapM (fieldOf d m) with
      | error o => rfl
      | ok fields => rfl

/-- The first parameter with a readable type that cannot be stored. An unreadable type is
passed over. -/
def tryUnstorable : List Parameter → Except Thrown (Option (Parameter × PayloadIssue))
  | [] => .ok none
  | p :: ps =>
    match TypeExpr.tryParse p.type with
    | .error (.unresolved _) => tryUnstorable ps
    | .error other => .error other
    | .ok e =>
      match PayloadIssue.ofType? e with
      | some issue => .ok (some (p, issue))
      | none => tryUnstorable ps

theorem tryUnstorable_eq (m : Modifier) : tryUnstorable m.parameters = .ok (unstorable? m) := by
  unfold unstorable?
  induction m.parameters with
  | nil => rfl
  | cons p ps ih =>
    rw [tryUnstorable, TypeExpr.tryParse_eq, List.findSome?_cons]
    cases TypeExpr.parse p.type with
    | error u => exact ih
    | ok e =>
      simp only [Except.mapError]
      cases PayloadIssue.ofType? e with
      | none => exact ih
      | some issue => rfl

end Variant

namespace EnumFile

def tryGenerate (options : Options) (enumName : Text) (ms : List Modifier) :
    Except Thrown EnumFile := do
  if ms.isEmpty then .error (.generation (.noModifiers enumName))
  else if !Identifier.isValidTypeName enumName then .error (.generation (.invalidName enumName))
  else
    let built ← ms.mapM (Variant.tryVariant options.maxTypeDepth)
    let vs := built.map (·.1)
    match clash? [] vs with
    | some (first, second) =>
      .error (.generation (.duplicateCase enumName second.tag first.modifier.callSignature
        second.modifier.callSignature))
    | none =>
      return {
        fileName := enumName ++ options.fileExtension
        source := render options.emitDefaultValues enumName vs
        caseCount := vs.length
        warnings := built.flatMap (·.2)
        errors := [] }

theorem tryVariant_eq_variantOf (d : Int) (m : Modifier) :
    Variant.tryVariant d m = (variantOf d m).mapError .generation := by
  rw [Variant.tryVariant_eq, variantOf]
  cases Variant.ofModifier d m with
  | ok r => rfl
  | error o => rfl

theorem tryGenerate_eq (options : Options) (name : Text) (ms : List Modifier) :
    tryGenerate options name ms = (generate options name ms).mapError .generation := by
  rw [tryGenerate, generate,
    mapM_mapError fun m _ => tryVariant_eq_variantOf options.maxTypeDepth m]
  cases ms.isEmpty with
  | true => rfl
  | false =>
    cases Identifier.isValidTypeName name with
    | false => rfl
    | true =>
      cases ms.mapM (variantOf options.maxTypeDepth) with
      | error e => rfl
      | ok built =>
        simp only [Bool.false_eq_true, if_false, Bool.not_true, Except.mapError, bind,
          Except.bind]
        cases clash? [] (built.map (·.1)) with
        | some pair => rfl
        | none => rfl

end EnumFile

namespace Batch

def tryUnit (s : Settings) (label : Text) (ms : List Modifier) : Except Thrown EnumFile :=
  let name := s.unionName label
  let failed (message : Text) := EnumFile.failed (name ++ s.fileExtension)
    (label ++ ": " ++ message)
  match EnumFile.tryGenerate s.options name ms with
  | .ok file => .ok file
  | .error (.generation e) => .ok (failed e.message)
  | .error (.unresolved u) => .ok (failed u.message)
  | .error other => .error other

def tryExclusion (m : Modifier) : Except Thrown (Option Exclusion) :=
  if m.isGeneric then .ok (some .isGeneric)
  else do
    return (← Variant.tryUnstorable m.parameters).map fun (p, issue) => .notStorable p issue

def tryFilter : List Modifier → Except Thrown (List Modifier × List Skipped)
  | [] => .ok ([], [])
  | m :: ms => do
    let exclusion ← tryExclusion m
    let (kept, skipped) ← tryFilter ms
    match exclusion with
    | some e => return (kept, ⟨m, e⟩ :: skipped)
    | none => return (m :: kept, skipped)

def tryOfModifiers (s : Settings) (sourcePath : Text) (ms : List Modifier) :
    Except Thrown Batch := do
  let (kept, skipped) ← if s.skipGenericModifiers then tryFilter ms else pure (ms, [])
  let groups := (Category.categorize kept).map fun (c, group) => Group.ofModifiers s c group
  let units ← groups.mapM fun g => tryUnit s g.category.label g.members
  return {
    sourcePath
    units
    extractedCount := ms.length
    skipped := skipped ++ groups.flatMap (·.dropped)
    issues := [] }

theorem tryUnit_eq (s : Settings) (label : Text) (ms : List Modifier) :
    tryUnit s label ms = .ok (unit s label ms) := by
  rw [tryUnit, unit, EnumFile.tryGenerate_eq]
  cases EnumFile.generate s.options (s.unionName label) ms with
  | ok f => rfl
  | error e => rfl

theorem tryExclusion_eq (m : Modifier) : tryExclusion m = .ok (Exclusion.ofModifier? m) := by
  rw [tryExclusion, Exclusion.ofModifier?, Variant.tryUnstorable_eq]
  cases m.isGeneric with
  | true => rfl
  | false => rfl

theorem tryFilter_eq (ms : List Modifier) :
    tryFilter ms = .ok (ms.filter fun m => (Exclusion.ofModifier? m).isNone,
      ms.filterMap Skipped.ofModifier?) := by
  induction ms with
  | nil => rfl
  | cons m ms ih =>
    rw [tryFilter, ih, tryExclusion_eq]
    simp only [List.filter_cons, List.filterMap_cons, Skipped.ofModifier?]
    cases Exclusion.ofModifier? m with
    | none => rfl
    | some e => rfl

theorem tryOfModifiers_eq (s : Settings) (sourcePath : Text) (ms : List Modifier) :
    tryOfModifiers s sourcePath ms = .ok (ofModifiers s sourcePath ms) := by
  have units : ∀ gs : List Group,
      (gs.mapM fun g => tryUnit s g.category.label g.members) =
        .ok (gs.map fun g => unit s g.category.label g.members) := by
    intro gs
    simp only [tryUnit_eq]
    exact List.mapM_pure
  simp only [tryOfModifiers, tryFilter_eq, ofModifiers, groups, candidates, excluded]
  cases s.skipGenericModifiers with
  | true => simp only [if_true, bind, Except.bind, units]; rfl
  | false => simp only [Bool.false_eq_true, if_false, bind, Except.bind, pure, Except.pure, units]

end Batch

end ViewCases
