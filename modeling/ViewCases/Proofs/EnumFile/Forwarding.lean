import ViewCases.Interface.Basic
import ViewCases.Proofs.Generation
import ViewCases.Proofs.Signature.Front
import ViewCases.Proofs.Signature.Names

/-! How a generated call passes on its arguments. A clause of the header becomes a parameter,
the parameter a field of the case, and the field is written three times: in the declaration
of the case, in the pattern of its branch and in the call. -/
namespace ViewCases
open Text Parameter ViewCases.Bracket

namespace FunctionHeader
open Signature

def clauses? (header : Text) : Option (List Text) := do
  let lead ← takeLead? (strip header)
  let (_, rest) ← takeName? lead.rest
  let (_, rest) ← takeGenerics? (stripStart rest)
  let (inner, _) ← takeBracketed? .paren rest
  return splitTopLevel inner

theorem parse?_clauses {header : Text} {h : FunctionHeader} (read : parse? header = some h) :
    ∃ clauses, clauses? header = some clauses ∧
      clauses.mapM Parameter.ofClause? = some h.parameters := by
  rw [parse?_eq_front?] at read
  obtain ⟨⟨f, tail⟩, front, rfl⟩ := Option.map_eq_some_iff.mp read
  unfold front? at front
  simp only [Option.bind_eq_bind, Option.bind_eq_some_iff] at front
  obtain ⟨lead, hlead, ⟨name, behind⟩, hname, ⟨generics, list⟩, hgenerics, ⟨inner, rest⟩, hlist,
    parameters, hparameters, eq⟩ := front
  cases eq
  refine ⟨splitTopLevel inner, ?_, hparameters⟩
  simp [clauses?, hlead, hname, hgenerics, hlist]

end FunctionHeader

namespace Field

def withLabel (external t : Text) : Text :=
  if external = ['_'] then t else external ++ ": " ++ t

theorem labelled_eq {f : Field} {external : Text}
    (h : f.parameter.label = if external = ['_'] then none else some external) (t : Text) :
    f.labelled t = withLabel external t := by
  unfold labelled withLabel
  by_cases low : external = ['_']
  · rw [h, if_pos low, if_pos low]
  · rw [h, if_neg low, if_neg low]

theorem declaration_eq (withDefault : Bool) (f : Field) : ∃ value,
    (value = [] ∨ ∃ d, f.parameter.defaultValue = some d ∧ value = (" = " : Text) ++ d) ∧
      f.declaration withDefault = f.labelled (f.payload ++ value) := by
  have behind : ∀ value, f.labelled f.payload ++ value = f.labelled (f.payload ++ value) := by
    intro value
    unfold labelled
    split <;> simp
  unfold declaration
  split
  · next c cs default =>
    split
    · exact ⟨_, .inr ⟨_, default, rfl⟩, behind _⟩
    · exact ⟨_, .inl rfl, behind _⟩
  · exact ⟨_, .inl rfl, behind _⟩

end Field

theorem Identifier.escape_ne_lowLine {name : Text} (h : name ≠ ['_']) : escape name ≠ ['_'] := by
  unfold escape
  split
  · simp
  · exact h

namespace EnumFile

def listed : List Text → Text
  | [] => []
  | ts => "(" ++ joinWith ", " ts ++ ")"

/-- The source declares a case, and in the switch the pattern of the case stands before the
call: what is declared, bound and passed is listed in the parentheses of each. -/
def HasCase (source caseName function : Text) (declared bound passed : List Text) : Prop :=
  ∃ above between below : List Text, source = joinWith "\n" (above ++
    indent 1 ("case " ++ caseName ++ listed declared) :: (between ++
      indent 2 ("case ." ++ caseName ++ listed (bound.map ("let " ++ ·)) ++ ":") ::
      indent 3 ("self." ++ function ++ "(" ++ joinWith ", " passed ++ ")") :: below)) ++ "\n"

theorem caseLine_eq (withDefault : Bool) (v : Variant) : caseLine withDefault v =
    indent 1 ("case " ++ v.caseName ++ listed (v.fields.map (Field.declaration withDefault))) := by
  unfold caseLine
  cases v.fields <;> rfl

theorem branchLines_eq (v : Variant) : branchLines v =
    [indent 2 ("case ." ++ v.caseName ++
        listed ((v.fields.map Field.binding).map ("let " ++ ·)) ++ ":"),
      indent 3 ("self." ++ Identifier.escape v.modifier.name ++ "(" ++
        joinWith ", " (v.fields.map Field.argument) ++ ")")] := by
  unfold branchLines
  cases v.fields with
  | nil => rfl
  | cons f fs =>
    rw [List.map_map]
    rfl

theorem sourceLines_blocks (withDefault : Bool) (name : Text) (vs : List Variant) :
    ∃ top middle bottom, sourceLines withDefault name vs =
      top ++ vs.flatMap (fun v => docLines v.modifier ++ [caseLine withDefault v]) ++ middle ++
        vs.flatMap branchLines ++ bottom := by
  have regroup : ∀ head top cases close gap lead branches bottom : List Text,
      head ++ (top ++ cases ++ close) ++ gap ++ (lead ++ branches ++ bottom) =
        (head ++ top) ++ cases ++ (close ++ gap ++ lead) ++ branches ++ bottom := by
    simp only [List.append_assoc, implies_true]
  exact ⟨_, _, _, regroup _ _ _ _ _ _ _ _⟩

theorem hasCase_render (withDefault : Bool) (name : Text) {v : Variant} {vs : List Variant}
    (mem : v ∈ vs) :
    HasCase (render withDefault name vs) v.caseName (Identifier.escape v.modifier.name)
      (v.fields.map (Field.declaration withDefault)) (v.fields.map Field.binding)
      (v.fields.map Field.argument) := by
  obtain ⟨top, middle, bottom, blocks⟩ := sourceLines_blocks withDefault name vs
  obtain ⟨l, r, rfl⟩ := List.append_of_mem mem
  let declare (v : Variant) : List Text := docLines v.modifier ++ [caseLine withDefault v]
  refine ⟨top ++ l.flatMap declare ++ docLines v.modifier,
    r.flatMap declare ++ middle ++ l.flatMap branchLines, r.flatMap branchLines ++ bottom, ?_⟩
  rw [render, blocks, ← caseLine_eq]
  congr 2
  simp only [List.flatMap_append, List.flatMap_cons, branchLines_eq v, declare, List.append_assoc,
    List.cons_append, List.nil_append]

variable {options : Options} {name : Text} {ms : List Modifier}

theorem fields_of_variant {depth : Int} {m : Modifier} {r : Variant × List Text}
    (h : Variant.ofModifier depth m = .ok r) :
    r.1.fields.length = m.parameters.length ∧
      ∀ (i : Nat) (p : Parameter), m.parameters[i]? = some p → ∃ e, TypeExpr.parse p.type = .ok e ∧
        r.1.fields[i]? = some ⟨p, e.payloadText⟩ := by
  obtain ⟨-, -, fs, fields, rfl⟩ := Variant.ofModifier_eq_ok h
  refine ⟨by simp [length_mapM fields], ?_⟩
  intro i p here
  obtain ⟨f, there, made⟩ := getElem?_of_map_eq (mapM_eq_ok fields) here
  obtain ⟨e, read, -, eq⟩ := Variant.fieldOf_ok made
  refine ⟨e, read, ?_⟩
  rw [List.getElem?_map, there, Option.map_some, eq]

/-- Every clause of a header that is read gives one argument of the generated call, in its
place. The argument is the name that the pattern binds, behind the external name of the
clause, and the declaration has the stored type behind the same. The low line as the internal
name is bound as it is, which the pattern takes for a wildcard. -/
theorem generate_forwards {header : Text} {h : FunctionHeader} {documentation : Option Text}
    {f : EnumFile} (read : FunctionHeader.parse? header = some h)
    (mem : Modifier.ofHeader h documentation ∈ ms) (made : generate options name ms = .ok f) :
    ∃ clauses declared bound passed, FunctionHeader.clauses? header = some clauses ∧
      declared.length = clauses.length ∧ bound.length = clauses.length ∧
      passed.length = clauses.length ∧
      HasCase f.source (Identifier.escape (Identifier.variantTag h.name))
        (Identifier.escape h.name) declared bound passed ∧
      ∀ (i : Nat) names rest external internal, clauses[i]? = some (names ++ ':' :: rest) →
        Names names external internal →
        bound[i]? = some (Identifier.escape internal) ∧
        (internal ≠ ['_'] →
          Identifier.escape internal ≠ ['_'] ∧
          passed[i]? = some (Field.withLabel external (Identifier.escape internal)) ∧
          ∃ p e value, h.parameters[i]? = some p ∧ TypeExpr.parse p.type = .ok e ∧
            (value = [] ∨ ∃ d, p.defaultValue = some d ∧ value = (" = " : Text) ++ d) ∧
            declared[i]? = some (Field.withLabel external (e.payloadText ++ value))) := by
  obtain ⟨clauses, written, parameters⟩ := FunctionHeader.parse?_clauses read
  obtain ⟨-, -, built, all, -, rfl⟩ := generate_eq_ok_iff.mp made
  obtain ⟨r, inside, one⟩ := ok_of_mem_mapM all _ mem
  have variant := variantOf_eq_ok one
  obtain ⟨modifier, tag, -⟩ := Variant.ofModifier_ok variant
  obtain ⟨count, fields⟩ := fields_of_variant variant
  have counted : r.1.fields.length = clauses.length := by
    have := congrArg List.length (mapM_eq_some parameters)
    simp only [List.length_map] at this
    rw [count, this]
    rfl
  have case :=
    hasCase_render options.emitDefaultValues name (List.mem_map_of_mem (f := (·.1)) inside)
  rw [Variant.caseName, tag, modifier] at case
  refine ⟨clauses, _, _, _, written, ?_, ?_, ?_, case, ?_⟩
  · simp [counted]
  · simp [counted]
  · simp [counted]
  -- Clause, parameter and field stand at one place of three lists of one length.
  intro i names rest external internal here spelled
  obtain ⟨p, there, clause⟩ := getElem?_of_map_eq (mapM_eq_some parameters) here
  obtain ⟨e, readable, field⟩ := fields i p there
  obtain ⟨named, labelled⟩ := Parameter.ofClause?_names spelled clause
  have bind : Field.binding ⟨p, e.payloadText⟩ = Identifier.escape internal := by
    rw [Field.binding, named]
  constructor
  · rw [List.getElem?_map, field, Option.map_some, bind]
  · intro usable
    have label := Field.labelled_eq (f := ⟨p, e.payloadText⟩) (labelled usable)
    obtain ⟨value, default, declaration⟩ :=
      Field.declaration_eq options.emitDefaultValues ⟨p, e.payloadText⟩
    refine ⟨Identifier.escape_ne_lowLine usable, ?_, p, e, value, there, readable, default, ?_⟩
    · rw [List.getElem?_map, field, Option.map_some, Field.argument, label, bind]
    · rw [List.getElem?_map, field, Option.map_some, declaration, label]

theorem generate_forwards_labels :
    let header : Text :=
      "func f(_ x: Int, for `in`: V = a ? 1 : 2, @A(b: 1 = 2) w : Int) -> V"
    ∃ h f declared, FunctionHeader.parse? header = some h ∧
      generate {} "E" [Modifier.ofHeader h none] = .ok f ∧
      HasCase f.source "f" "f" declared ["x", "`in`", "w"]
        ["x", "for: `in`", "w: w"] := by
  intro header
  let h : FunctionHeader := ⟨"f", none,
    [⟨none, "x", "Int", false, none⟩, ⟨some "for", "in", "V", true, some "a ? 1 : 2"⟩,
      ⟨some "w", "w", "Int", false, none⟩], "V", [], [], []⟩
  have read : FunctionHeader.parse? header = some h := by decide +kernel
  have possible : (generate {} "E" [Modifier.ofHeader h none]).toOption.isSome = true := by
    decide +kernel
  cases made : generate {} "E" [Modifier.ofHeader h none] with
  | error e =>
    rw [made] at possible
    cases possible
  | ok f =>
    obtain ⟨clauses, declared, bound, passed, written, -, sizeBound, sizePassed, case, places⟩ :=
      generate_forwards read (List.mem_singleton.mpr rfl) made
    have split : FunctionHeader.clauses? header = some (["_ x: Int",
        "for `in`: V = a ? 1 : 2", "@A(b: 1 = 2) w : Int"] : List Text) := by decide +kernel
    cases written.symm.trans split
    have space : Blank (" " : Text) := blank_space
    have unlabelled : Names (("_" : Text) ++ (" " : Text) ++ (("x" : Text) ++ [])) "_"
        "x" := .two (by decide) (by decide) .bare .bare space (by decide) (by decide)
    have reserved : Names (("for" : Text) ++ (" " : Text) ++ (("`in`" : Text) ++ [])) "for"
        "in" := .two (by decide) (by decide) .bare .ticked space (by decide) (by decide)
    have marked : Names (("@A(b: 1 = 2)" : Text) ++ ((" " : Text) ++ (("w" : Text) ++
        (" " : Text)))) "w" "w" :=
      .marked (.argument "A" "b: 1 = 2" (by decide) (by decide)) space (by decide)
        (.one (by decide) .bare space)
    have first := places 0 "_ x" " Int" "_" "x" rfl unlabelled
    have second := places 1 "for `in`" " V = a ? 1 : 2" "for" "in" rfl reserved
    have third := places 2 "@A(b: 1 = 2) w " " Int" "w" "w" rfl marked
    have three : ∀ {ts : List Text} {a b c : Text}, ts.length = 3 → ts[0]? = some a →
        ts[1]? = some b → ts[2]? = some c → ts = [a, b, c] := by
      intro ts a b c size h0 h1 h2
      match ts, size with
      | [x, y, z], _ => simp_all
    cases three sizeBound first.1 second.1 third.1
    cases three sizePassed (first.2 (by decide)).2.1 (second.2 (by decide)).2.1
      (third.2 (by decide)).2.1
    have called : Identifier.escape (Identifier.variantTag h.name) = "f" ∧
        Identifier.escape h.name = "f" := by decide +kernel
    have names : [Identifier.escape "x", Identifier.escape "in", Identifier.escape "w"] =
        (["x", "`in`", "w"] : List Text) := by decide
    have labels : [Field.withLabel "_" (Identifier.escape "x"),
        Field.withLabel "for" (Identifier.escape "in"),
        Field.withLabel "w" (Identifier.escape "w")] =
        (["x", "for: `in`", "w: w"] : List Text) := by decide
    rw [called.1, called.2, names, labels] at case
    exact ⟨h, f, declared, read, made, case⟩

theorem generate_lowLine :
    let m : Modifier := ⟨"f", [⟨some "_", "_", "Int", false, none⟩], "V", none, none, false, [], []⟩
    (FunctionHeader.parse? "public func f(_: Int) -> V").map (Modifier.ofHeader · none) = some m ∧
      ((generate {} "E" [m]).toOption.any fun f =>
        (["    case f(_: Int)", "        case .f(let _):", "            self.f(_: _)"] :
          List Text).all (· ∈ lines f.source)) = true := by
  decide +kernel

end EnumFile
end ViewCases
