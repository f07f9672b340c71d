import ViewCases.Proofs.EnumFile.Forwarding
import ViewCases.Proofs.TypeExpr.Stored

/-! Where the escaping mark stays in front of a stored type. The mark is an attribute only
before a function type whose arrow is outside brackets. In front of anything else, such as a
function type in parentheses, it belongs to a name, and names are stored as they are. -/
namespace ViewCases
open Text ViewCases.Bracket

theorem prefix_append_cons {mark a : Text} {d : Char} (other : d ∉ mark) (x : Text) :
    mark <+: a ++ d :: x ↔ mark <+: a := by
  constructor
  · intro h
    rcases List.prefix_or_prefix_of_prefix h (List.prefix_append a (d :: x)) with inside | beyond
    · exact inside
    · obtain ⟨k, rfl⟩ := beyond
      have rest := (List.prefix_append_right_inj a).mp h
      cases k with
      | nil => simp
      | cons c cs =>
        obtain ⟨rfl, -⟩ := List.cons_prefix_cons.mp rest
        exact absurd (List.mem_append_right a List.mem_cons_self) other
  · exact fun h => h.trans (List.prefix_append a _)

theorem prefix_stripEnd {mark : Text} (solid : ∀ c ∈ mark, isBlank c = false) (t : Text) :
    mark <+: stripEnd t ↔ mark <+: t := by
  obtain ⟨r, blank, eq⟩ := stripEnd_decompose t
  cases r with
  | nil => rw [← eq.trans (List.append_nil _)]
  | cons d ds =>
    have other : d ∉ mark := by
      intro mem
      have := solid d mem
      rw [blank d List.mem_cons_self] at this
      cases this
    conv_rhs => rw [eq]
    exact (prefix_append_cons other ds).symm

namespace TypeExpr

theorem escapingAttribute_solid : ∀ c ∈ escapingAttribute, isBlank c = false := by decide

theorem not_prefix_paren (x : Text) : ¬escapingAttribute <+: '(' :: x := by
  rintro ⟨r, eq⟩
  cases eq

theorem not_prefix_closure : ¬escapingAttribute <+: ("Closure" : Text) := by decide

theorem prefix_render {t : TypeExpr} (h : t.isClosure = false) :
    escapingAttribute <+: t.render ↔ escapingAttribute <+: t.baseName := by
  induction t using childInduction with
  | simple name => rfl
  | generic name first rest =>
    rw [render_generic, writeArguments]
    exact prefix_append_cons (by decide) _
  | optional w ih =>
    cases closure : w.isClosure with
    | true =>
      have named : w.optional.baseName = "Closure" :=
        (baseName_optional w).trans (baseName_closure closure)
      have grouped : ¬escapingAttribute <+: w.optional.render := by
        rw [render_optional_closure closure]
        exact not_prefix_paren _
      exact iff_of_false grouped (named ▸ not_prefix_closure)
    | false =>
      rw [render_optional closure, prefix_append_cons (by decide) [], ih closure,
        baseName_optional]
  | function => cases h

theorem baseName_stored (t : TypeExpr) : t.stored.baseName = t.baseName := by
  cases t with
  | optional w => cases w <;> rfl
  | simple | generic | function => rfl

theorem prefix_payloadText (t : TypeExpr) :
    escapingAttribute <+: t.payloadText ↔ escapingAttribute <+: t.baseName ∨
      ∃ ts r e a as es, t = .function ts r e (a :: as) es ∧ escapingAttribute <+: a := by
  cases closure : t.isClosure with
  | false =>
    have stored : t.stored.isClosure = false := by
      cases t with
      | function => cases closure
      | simple | generic | optional => rfl
    rw [payloadText, prefix_render stored, baseName_stored]
    refine ⟨.inl, fun h => h.elim id ?_⟩
    rintro ⟨ts, r, e, a, as, es, rfl, -⟩
    cases closure
  | true =>
    cases t with
    | function ts r e as es =>
      have text : (TypeExpr.function ts r e as es).payloadText =
          writeFunction (renderLead false as) (ts.map render) es r.render := render_function ..
      rw [text, writeFunction, renderLead_eq]
      cases as with
      | nil =>
        refine ⟨fun h => absurd h (not_prefix_paren _), ?_⟩
        rintro (named | ⟨ts, r, e, a, as, es, ⟨⟩, -⟩)
        exact absurd named not_prefix_closure
      | cons a as =>
        have front : leadMarks false (a :: as) = a :: as := rfl
        have solid : ' ' ∉ escapingAttribute := by decide
        rw [front, spaced_cons]
        simp only [List.append_assoc, List.cons_append, prefix_append_cons solid]
        refine ⟨fun h => .inr ⟨ts, r, e, a, as, es, rfl, h⟩, ?_⟩
        rintro (named | ⟨ts, r, e, b, bs, es, ⟨⟩, h⟩)
        · exact absurd named not_prefix_closure
        · exact h
    | simple | generic | optional => cases closure

/-- What is left of a text below parentheses and optional marks, and the text itself. -/
inductive Beneath : Text → Text → Prop
  | here (s : Text) : Beneath s (strip s)
  | optional {s body u : Text} : shape s = .ok (.optional body) → Beneath body u → Beneath s u
  | group {s inner u : Text} : shape s = .ok (.group inner) → Beneath inner u → Beneath s u

theorem beneath_iff {s u : Text} {sh : Shape} (shaped : shape s = .ok sh) : Beneath s u ↔
    u = strip s ∨ (∃ body, sh = .optional body ∧ Beneath body u) ∨
      ∃ inner, sh = .group inner ∧ Beneath inner u := by
  constructor
  · intro beneath
    cases beneath with
    | here => exact .inl rfl
    | optional other below =>
      exact .inr (.inl ⟨_, Except.ok.inj (shaped.symm.trans other), below⟩)
    | group other below => exact .inr (.inr ⟨_, Except.ok.inj (shaped.symm.trans other), below⟩)
  · rintro (rfl | ⟨body, rfl, below⟩ | ⟨inner, rfl, below⟩)
    · exact .here s
    · exact .optional shaped below
    · exact .group shaped below

/-- The text begins with the mark at some depth, and has no arrow there. -/
def MarkedBeneath (s : Text) : Prop :=
  ∃ u, Beneath s u ∧ escapingAttribute <+: u ∧ Free .arrow u

theorem markedBeneath_alone {s : Text} {sh : Shape} (shaped : shape s = .ok sh)
    (unmarked : ∀ body, sh ≠ .optional body) (ungrouped : ∀ inner, sh ≠ .group inner) :
    MarkedBeneath s ↔ escapingAttribute <+: strip s ∧ Free .arrow (strip s) := by
  constructor
  · rintro ⟨u, beneath, marked⟩
    rcases (beneath_iff shaped).mp beneath with rfl | ⟨body, eq, -⟩ | ⟨inner, eq, -⟩
    · exact marked
    · exact absurd eq (unmarked body)
    · exact absurd eq (ungrouped inner)
  · exact fun marked => ⟨_, .here s, marked⟩

theorem prefix_strip {t : Text} (start : ∀ c, t.head? = some c → isBlank c = false) :
    escapingAttribute <+: strip t ↔ escapingAttribute <+: t := by
  rw [strip, stripStart_of_head start]
  exact prefix_stripEnd escapingAttribute_solid t

theorem markedBeneath_optional {s body : Text} (shaped : shape s = .ok (.optional body))
    (eq : strip s = body ++ ['?']) : MarkedBeneath s ↔ MarkedBeneath body := by
  constructor
  · rintro ⟨u, beneath, marked, free⟩
    rcases (beneath_iff shaped).mp beneath with rfl | ⟨b, same, below⟩ | ⟨inner, other, -⟩
    · rw [eq, prefix_append_cons (by decide)] at marked
      rw [eq, Free, marks_mark] at free
      have start : ∀ c, body.head? = some c → isBlank c = false := by
        intro c hc
        apply (trimmed_strip s).1 c
        rw [eq, List.head?_append, hc]
        rfl
      exact ⟨_, .here body, (prefix_strip start).mpr marked, free_strip.mpr free⟩
    · cases same
      exact ⟨u, below, marked, free⟩
    · cases other
  · rintro ⟨u, below, marked⟩
    exact ⟨u, .optional shaped below, marked⟩

theorem markedBeneath_group {s inner : Text} (shaped : shape s = .ok (.group inner))
    (eq : strip s = '(' :: inner ++ [')']) : MarkedBeneath s ↔ MarkedBeneath inner := by
  constructor
  · rintro ⟨u, beneath, marked, free⟩
    rcases (beneath_iff shaped).mp beneath with rfl | ⟨body, other, -⟩ | ⟨i, same, below⟩
    · rw [eq] at marked
      exact absurd marked (not_prefix_paren _)
    · cases other
    · cases same
      exact ⟨u, below, marked, free⟩
  · rintro ⟨u, below, marked⟩
    exact ⟨u, .group shaped below, marked⟩

/-- The name at the head of a type begins with the mark if the text does at some depth, and
has no arrow there. -/
theorem prefix_baseName {s : Text} {t : TypeExpr} (read : parse s = .ok t) :
    escapingAttribute <+: t.baseName ↔ MarkedBeneath s := by
  refine readInduction ?_ read
  intro s sh t shaped read ih
  obtain ⟨-, -, shaped'⟩ := shape_ok shaped
  have alone := markedBeneath_alone shaped
  have trim := trimmed_strip s
  have outline := outline_of_shape trim shaped'
  generalize eq : strip s = v at *
  cases outline with
  | name named =>
    cases parse_name shaped read
    have free : Free .arrow v := eq ▸ free_strip.mpr (free_arrow_of_read read rfl)
    rw [alone (by simp) (by simp)]
    exact ⟨fun marked => ⟨marked, free⟩, And.left⟩
  | application base inner first rest text noAngle named free =>
    obtain ⟨t', ts', -, rfl⟩ := parse_application shaped read
    have start : ∀ c, base.head? = some c → isBlank c = false := by
      intro c hc
      apply trim.1 c
      rw [text, List.append_assoc, List.head?_append, hc]
      rfl
    rw [alone (by simp) (by simp), baseName_generic, prefix_strip start, and_iff_left free, text,
      List.append_assoc, List.cons_append, prefix_append_cons (by decide)]
  | optional body text free =>
    obtain ⟨inner, readBody, rfl⟩ := parse_optional shaped read
    rw [markedBeneath_optional shaped (eq.trans text), baseName_optional]
    exact ih body List.mem_cons_self inner readBody
  | group inner text =>
    rw [markedBeneath_group shaped (eq.trans text)]
    rw [parse_eq, shaped] at read
    exact ih inner List.mem_cons_self t read
  | closure before behind _ text closed free formed =>
    subst text
    obtain ⟨ms, head, effects, core, -, -, -, rfl⟩ := closureShape_eq_ok formed
    obtain ⟨ts, r, -, -, rfl⟩ := parse_closure shaped read
    rw [alone (by simp) (by simp)]
    exact ⟨fun named => absurd named not_prefix_closure,
      fun marked => absurd marked.2 (not_free_arrow closed behind)⟩

theorem escapingAttribute_not_mem {s : Text} {ts : List TypeExpr} {r : TypeExpr} {e : Bool}
    {as es : List Text} (read : parse s = .ok (.function ts r e as es)) :
    escapingAttribute ∉ as := by
  obtain ⟨u, sh, trim, -, shaped, read, notGroup⟩ := exists_ungrouped read
  cases outline_of_shape trim shaped with
  | name => cases parse_name shaped read
  | optional =>
    obtain ⟨inner, -, eq⟩ := parse_optional shaped read
    cases eq
  | group inner => exact absurd rfl (notGroup inner)
  | application =>
    obtain ⟨t', ts', -, eq⟩ := parse_application shaped read
    cases eq
  | closure before behind _ text _ _ formed =>
    subst text
    obtain ⟨ms, head, effects, core, -, -, -, rfl⟩ := closureShape_eq_ok formed
    obtain ⟨ts', r', -, -, eq⟩ := parse_closure shaped read
    cases eq
    simp

/-- Why a type is stored with the mark in front: the text begins with it where it is no
function type, or another attribute of a function type begins with the same letters. -/
inductive KeepsMark (s : Text) : TypeExpr → Prop
  | name {t : TypeExpr} : MarkedBeneath s → KeepsMark s t
  | attribute {ts : List TypeExpr} {r : TypeExpr} {e : Bool} {a : Text} {as es : List Text} :
      a ≠ escapingAttribute → escapingAttribute <+: a → KeepsMark s (.function ts r e (a :: as) es)

theorem prefix_payloadText_iff {s : Text} {t : TypeExpr} (read : parse s = .ok t) :
    escapingAttribute <+: t.payloadText ↔ KeepsMark s t := by
  rw [prefix_payloadText, prefix_baseName read]
  constructor
  · rintro (marked | ⟨ts, r, e, a, as, es, rfl, marked⟩)
    · exact .name marked
    · refine .attribute ?_ marked
      rintro rfl
      exact escapingAttribute_not_mem read List.mem_cons_self
  · rintro (marked | ⟨-, marked⟩)
    · exact .inl marked
    · exact .inr ⟨_, _, _, _, _, _, rfl, marked⟩

end TypeExpr

namespace EnumFile
open TypeExpr

/-- A type that was read is stored with the escaping mark in front only if the text has it
before something else than a function type, at any depth below parentheses and optional marks,
or has another attribute that begins with it. The types of the cases of a file are such. -/
theorem generate_escaping (options : Options) (name : Text) (ms : List Modifier) :
    (∀ s t, parse s = .ok t → (escapingAttribute <+: t.payloadText ↔ KeepsMark s t)) ∧
    ∀ f, generate options name ms = .ok f → ∀ m ∈ ms,
      ∃ declared bound passed, declared.length = m.parameters.length ∧
        HasCase f.source (Identifier.escape (Identifier.variantTag m.name))
          (Identifier.escape m.name) declared bound passed ∧
        ∀ (i : Nat) p, m.parameters[i]? = some p → ∃ e value, parse p.type = .ok e ∧
          (value = [] ∨ ∃ d, p.defaultValue = some d ∧ value = (" = " : Text) ++ d) ∧
          declared[i]? = some (Field.labelled ⟨p, e.payloadText⟩ (e.payloadText ++ value)) ∧
          (escapingAttribute <+: e.payloadText ↔ KeepsMark p.type e) := by
  refine ⟨fun s t => prefix_payloadText_iff, ?_⟩
  intro f made m mem
  obtain ⟨-, -, built, all, -, rfl⟩ := generate_eq_ok_iff.mp made
  obtain ⟨r, inside, one⟩ := ok_of_mem_mapM all m mem
  have variant := variantOf_eq_ok one
  obtain ⟨modifier, tag, -⟩ := Variant.ofModifier_ok variant
  obtain ⟨count, fields⟩ := fields_of_variant variant
  have case :=
    hasCase_render options.emitDefaultValues name (List.mem_map_of_mem (f := (·.1)) inside)
  rw [Variant.caseName, tag, modifier] at case
  refine ⟨_, _, _, by rw [List.length_map, count], case, ?_⟩
  intro i p here
  obtain ⟨e, read, field⟩ := fields i p here
  obtain ⟨value, default, declaration⟩ :=
    Field.declaration_eq options.emitDefaultValues ⟨p, e.payloadText⟩
  refine ⟨e, value, read, default, ?_, prefix_payloadText_iff read⟩
  rw [List.getElem?_map, field, Option.map_some, declaration]

theorem generate_escaping_spellings :
    let dropped : Text := "(@Sendable @escaping (A) -> B)?"
    let kept : Text := "(@escaping (() -> Void))?"
    let m : Modifier := ⟨"f", [⟨some "a", "a", dropped, false, none⟩,
      ⟨none, "b", kept, false, none⟩], "V", none, none, false, [], []⟩
    ∃ f declared bound passed t u, generate {} "E" [m] = .ok f ∧
      HasCase f.source "f" "f" declared bound passed ∧
      declared = ["a: (@Sendable (A) -> B)?", "@escaping (() -> Void)?"] ∧
      (parse dropped = .ok t ∧ ¬KeepsMark dropped t) ∧ parse kept = .ok u ∧ KeepsMark kept u := by
  intro dropped kept m
  let t : TypeExpr := .optional (.function [.simple "A"] (.simple "B") true ["@Sendable"] [])
  let u : TypeExpr := .optional (.simple "@escaping (() -> Void)")
  have readT : parse dropped = .ok t := by decide +kernel
  have readU : parse kept = .ok u := by decide +kernel
  have texts : t.payloadText = "(@Sendable (A) -> B)?" ∧
      u.payloadText = "@escaping (() -> Void)?" := by decide +kernel
  have possible : (generate {} "E" [m]).toOption.isSome = true := by decide +kernel
  cases made : generate {} "E" [m] with
  | error e =>
    rw [made] at possible
    cases possible
  | ok f =>
    obtain ⟨declared, bound, passed, size, case, places⟩ :=
      (generate_escaping {} "E" [m]).2 f made m (List.mem_singleton.mpr rfl)
    have called : Identifier.escape (Identifier.variantTag m.name) = "f" ∧
        Identifier.escape m.name = "f" := by decide +kernel
    rw [called.1, called.2] at case
    obtain ⟨e, value, read, plain | ⟨d, ⟨⟩, -⟩, first, unmarked⟩ := places 0 _ rfl
    obtain ⟨e', value', read', plain' | ⟨d, ⟨⟩, -⟩, second, marked⟩ := places 1 _ rfl
    cases readT.symm.trans read
    cases readU.symm.trans read'
    rw [plain, texts.1, List.append_nil] at first
    rw [plain', texts.2, List.append_nil] at second
    have both : declared = ["a: (@Sendable (A) -> B)?", "@escaping (() -> Void)?"] := by
      match declared, size with
      | [x, y], _ =>
        cases first
        cases second
        rfl
    refine ⟨f, declared, bound, passed, t, u, rfl, case, both, ⟨readT, ?_⟩, readU, ?_⟩
    · rw [← unmarked, texts.1]
      decide
    · rw [← marked, texts.2]
      decide

theorem generate_escaping_grouped :
    let s : Text := "@escaping (() -> Void)"
    let m : Modifier := ⟨"f", [⟨none, "action", s, false, none⟩], "V", none, none, false, [], []⟩
    parse s = .ok (.simple s) ∧ escapingAttribute <+: (TypeExpr.simple s).payloadText ∧
      (generate {} "E" [m]).toOption.isSome = true ∧
      ((Variant.ofModifier 4 m).toOption.map fun r => caseLine true r.1) =
        some "    case f(@escaping (() -> Void))" := by
  decide +kernel

end EnumFile
end ViewCases
