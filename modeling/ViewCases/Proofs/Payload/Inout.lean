import ViewCases.Proofs.Bracket.Resumed
import ViewCases.Proofs.Generation
import ViewCases.Proofs.TypeExpr.Composition
import ViewCases.Proofs.TypeExpr.Stored

/-! Types behind a keyword. The keyword stands in front of the name at the head of the type,
whatever the type is, unless an arrow is outside brackets. Then it becomes part of the first
parameter, and the head is a function type. -/
namespace ViewCases
open Text ViewCases.Bracket

namespace TypeExpr

/-- A text that may stand before a type: it begins with something else than white space, and
nothing in it is a bracket or separates. -/
structure Lead (lead : Text) : Prop where
  solid : ∃ c cs, lead = c :: cs ∧ isBlank c = false
  plain : ∀ c ∈ lead, isPlain c = true
  last : lead.getLast? ≠ some '-'

namespace Lead

variable {lead : Text}

theorem ne_nil (h : Lead lead) : lead ≠ [] := by
  obtain ⟨c, cs, rfl, -⟩ := h.solid
  exact List.cons_ne_nil c cs

theorem not_mem (h : Lead lead) {c : Char} (other : isPlain c = false) : c ∉ lead := by
  intro mem
  have := h.plain c mem
  rw [other] at this
  cases this

theorem marks_append (h : Lead lead) (v : Text) : marks (lead ++ v) = marks v :=
  marks_plain_append h.plain (.inl h.last)

theorem head_not_blank (h : Lead lead) : ∀ c, lead.head? = some c → isBlank c = false := by
  obtain ⟨c, cs, rfl, solid⟩ := h.solid
  rintro d ⟨⟩
  exact solid

theorem trimmed_append (h : Lead lead) {v : Text} (trim : Trimmed v) (ne : v ≠ []) :
    Trimmed (lead ++ v) :=
  trimmed_of_ends h.ne_nil ne h.head_not_blank trim.2

theorem strip_ne_nil (h : Lead lead) (t : Text) : strip (lead ++ t) ≠ [] := by
  intro empty
  obtain ⟨c, cs, rfl, solid⟩ := h.solid
  have blank := blank_of_strip empty c List.mem_cons_self
  rw [solid] at blank
  cases blank

end Lead

/-- The shape that a text of shape `sh` has behind a lead. -/
def Shape.behind (lead v : Text) : Shape → Shape
  | .name _ => .name (lead ++ v)
  | .group _ => .name (lead ++ v)
  | .optional body => .optional (lead ++ body)
  | .application _ first rest =>
    .application (strip (lead ++ v.takeWhile (· ≠ '<'))) first rest
  | .closure parameters result escaping attributes effects =>
    .closure parameters result escaping attributes effects

theorem applicationShape_behind {lead v : Text} {sh : Shape} (h : Lead lead)
    (shaped : applicationShape v = .ok sh) :
    applicationShape (lead ++ v) = .ok (sh.behind lead v) := by
  have noAngle : ∀ c ∈ lead, decide (c ≠ '<') = true := by
    intro c hc
    rw [decide_eq_true_eq]
    rintro rfl
    exact h.not_mem (by decide) hc
  have named : (strip (lead ++ v.takeWhile (· ≠ '<'))).isEmpty = false := by
    simpa using h.strip_ne_nil _
  unfold applicationShape at shaped ⊢
  rw [List.takeWhile_append_of_pos noAngle, List.dropWhile_append_of_pos noAngle]
  simp only [named] at shaped ⊢
  split at shaped
  · cases shaped
  · next close partner =>
    split at shaped
    · next more =>
      cases shaped
      rw [if_pos more]
      rfl
    · next all =>
      rw [if_neg all]
      split at shaped
      · cases shaped
      · split at shaped
        · cases shaped
        · cases shaped
        · next first rest parts =>
          cases shaped
          rfl

theorem applicationShape_paren {v : Text} (closed : Closed (marks v)) (angle : '<' ∈ v)
    (last : v.getLast? = some ')') : applicationShape v = .ok (.name v) := by
  obtain ⟨r, tail, whole⟩ := dropWhile_ne_of_mem angle
  have balanced : balancedFrom .angle none 0 (v.takeWhile (· ≠ '<') ++ '<' :: r) = true := by
    rw [← whole]
    exact List.all_eq_true.mp (isBalanced_iff.mpr closed) .angle (mem_all .angle)
  obtain ⟨close, partner⟩ : ∃ i, partner? .angle ('<' :: r) = some i := exists_partner balanced
  have before : close + 1 ≠ ('<' :: r).length := by
    intro all
    have final : close = r.length := by simpa using all
    rw [final] at partner
    obtain ⟨inner, rfl, -⟩ := partner?_eq_last (b := .angle) partner
    rw [whole, ← List.cons_append, ← List.append_assoc, List.getLast?_concat] at last
    cases last
  simp only [applicationShape, tail, partner, if_pos before]

/-- Behind a lead a type without an arrow keeps its optional mark and its arguments, and
parentheses become part of a name. -/
theorem shape_behind {lead v : Text} {sh : Shape} (h : Lead lead) (trim : Trimmed v)
    (free : Free .arrow v) (shaped : shape v = .ok sh) :
    shape (lead ++ v) = .ok (sh.behind lead v) := by
  obtain ⟨ne, closed, -⟩ := shape_ok shaped
  rw [strip_of_trimmed trim] at ne
  have trim' := h.trimmed_append trim ne
  have closed' : Closed (marks (lead ++ v)) := by rwa [h.marks_append]
  have free' : Free .arrow (lead ++ v) := by rwa [Free, h.marks_append]
  have last : (lead ++ v).getLast? = v.getLast? := List.getLast?_append_of_ne_nil lead ne
  have noParens : insideParens? (lead ++ v) = none := by
    apply insideParens?_eq_none trim'
    left
    rw [List.head?_append_of_ne_nil lead h.ne_nil]
    exact fun opens => h.not_mem (by decide) (List.mem_of_head? opens)
  have angles : (lead ++ v).contains '<' = v.contains '<' := by
    have absent : '<' ∉ lead := h.not_mem (by decide)
    simp [absent]
  rw [shape_of_trimmed ne trim closed, findTopLevel_arrow_none closed free] at shaped
  rw [shape_of_trimmed (by simp [ne]) trim' closed', findTopLevel_arrow_none closed' free',
    noParens, last, angles]
  simp only at shaped ⊢
  split at shaped
  · next mark =>
    cases shaped
    rw [if_pos mark, List.dropLast_append_of_ne_nil ne]
    rfl
  · next unmarked =>
    rw [if_neg unmarked]
    -- Behind a lead, parentheses around the rest are part of a name, so two cases come to this.
    have named : ∀ {sh}, (if v.contains '<' then applicationShape v else .ok (.name v)) = .ok sh →
        (if v.contains '<' then applicationShape (lead ++ v) else .ok (.name (lead ++ v))) =
          .ok (sh.behind lead v) := by
      intro sh shaped
      split at shaped
      · next angle =>
        rw [if_pos angle]
        exact applicationShape_behind h shaped
      · next plain =>
        cases shaped
        rw [if_neg plain]
        rfl
    split at shaped
    · next inner inside =>
      split at shaped
      · cases shaped
        have final : v.getLast? = some ')' := by
          have text := insideParens?_eq_some inside
          rw [strip_of_trimmed trim] at text
          rw [text, List.getLast?_concat]
        split
        · next angle =>
          have name := applicationShape_paren closed (List.contains_iff_mem.mp angle) final
          have behind := applicationShape_behind h name
          exact behind
        · rfl
      · exact named shaped
    · exact named shaped

theorem lead_keyword {word gap : Text} (h : WordText word) (blank : Blank gap) :
    Lead (word ++ ' ' :: gap) := by
  have spaces : Blank (' ' :: gap) := List.forall_mem_cons.mpr ⟨rfl, blank⟩
  refine ⟨?_, ?_, ?_⟩
  · obtain ⟨c, cs, rfl, hc⟩ := h.head_isWord
    exact ⟨c, _, rfl, not_isBlank_of_isWord hc⟩
  · intro c hc
    rcases List.mem_append.mp hc with inside | behind
    · exact isPlain_of_isWord (h.chars c inside)
    · exact isPlain_of_isBlank (spaces c behind)
  · rw [List.getLast?_append_of_ne_nil _ (by simp)]
    exact Blank.ne_hyphen_last spaces

theorem keyword_prefix (word gap v : Text) : word ++ [' '] <+: word ++ ' ' :: gap ++ v :=
  ⟨gap ++ v, by simp⟩

theorem keyword_prefix_strip {word gap base : Text} (h : WordText word) (blank : Blank gap)
    (named : strip base ≠ []) : word ++ [' '] <+: strip (word ++ ' ' :: gap ++ base) := by
  obtain ⟨l, r, hl, hr, eq⟩ := strip_decompose base
  have lead : Lead (word ++ ' ' :: (gap ++ l)) :=
    lead_keyword h fun c hc => (List.mem_append.mp hc).elim (blank c) (hl c)
  have whole : word ++ ' ' :: gap ++ base = (word ++ ' ' :: (gap ++ l) ++ strip base) ++ r := by
    conv_lhs => rw [eq]
    simp
  rw [whole, strip_append_right hr,
    strip_of_trimmed (lead.trimmed_append (trimmed_strip base) named)]
  exact keyword_prefix word (gap ++ l) (strip base)

theorem parse_keyword {word s : Text} {t : TypeExpr} (h : WordText word) (read : parse s = .ok t)
    (free : Free .arrow s) {gap : Text} (blank : Blank gap) :
    ∃ u, parse (word ++ ' ' :: (gap ++ s)) = .ok u ∧ word ++ [' '] <+: u.baseName := by
  revert free gap
  -- The induction goes below optional marks only; `gap` takes up the white space in front there.
  refine readInduction ?_ read
  intro s sh t shaped read ih free gap blank
  obtain ⟨ne, -, shaped'⟩ := shape_ok shaped
  obtain ⟨l, r, hl, hr, eq⟩ := strip_decompose s
  have trim := trimmed_strip s
  have freeV : Free .arrow (strip s) := free_strip.mpr free
  have outline := outline_of_shape trim shaped'
  generalize strip s = v at *
  have wide : Blank (gap ++ l) := fun c hc => (List.mem_append.mp hc).elim (blank c) (hl c)
  have lead := lead_keyword h wide
  have text : strip (word ++ ' ' :: (gap ++ s)) = word ++ ' ' :: (gap ++ l) ++ v := by
    have split : word ++ ' ' :: (gap ++ s) = (word ++ ' ' :: (gap ++ l) ++ v) ++ r := by
      rw [eq]
      simp
    rw [split, strip_append_right hr, strip_of_trimmed (lead.trimmed_append trim ne)]
  have behind : shape (word ++ ' ' :: (gap ++ s)) =
      .ok (sh.behind (word ++ ' ' :: (gap ++ l)) v) := by
    apply shape_of_strip
    rw [text]
    exact shape_behind lead trim freeV shaped'
  cases outline with
  | name =>
    refine ⟨.simple (word ++ ' ' :: (gap ++ l) ++ v), ?_, keyword_prefix word (gap ++ l) v⟩
    rw [parse_eq, behind]
    rfl
  | group =>
    refine ⟨.simple (word ++ ' ' :: (gap ++ l) ++ v), ?_, keyword_prefix word (gap ++ l) v⟩
    rw [parse_eq, behind]
    rfl
  | optional body written =>
    obtain ⟨inner, readBody, -⟩ := parse_optional shaped read
    have freeBody : Free .arrow body := by
      rw [written, Free, marks_mark] at freeV
      exact freeV
    obtain ⟨u, readU, named⟩ := ih body List.mem_cons_self inner readBody freeBody wide
    have same : word ++ ' ' :: (gap ++ l) ++ body = word ++ ' ' :: (gap ++ l ++ body) := by simp
    rw [Shape.behind, same] at behind
    exact ⟨.optional u, parse_of_optional behind readU, named⟩
  | application base inner first rest written noAngle named =>
    obtain ⟨t', ts, readAll, -⟩ := parse_application shaped read
    have cut : v.takeWhile (· ≠ '<') = base := by
      rw [written, List.append_assoc]
      exact (takeWhile_append_cons (by simp)
        (fun d hd => by simpa using fun e : d = '<' => noAngle (e ▸ hd)) _).1
    rw [Shape.behind, cut] at behind
    exact ⟨.generic _ t' ts, parse_of_application behind readAll,
      keyword_prefix_strip h wide named⟩
  | closure before after _ written closed =>
    rw [written] at freeV
    exact absurd freeV (not_free_arrow closed after)

theorem isClosure_of_keyword {word s : Text} {u : TypeExpr} (h : WordText word)
    (arrow : ¬Free .arrow s) (read : parse (word ++ ' ' :: s) = .ok u) : u.isClosure = true := by
  by_contra other
  have free := free_arrow_of_read read (Bool.eq_false_iff.mpr other)
  have empty : Blank [] := List.forall_mem_nil _
  have lead : Lead (word ++ [' ']) := lead_keyword h empty
  have split : word ++ ' ' :: s = (word ++ [' ']) ++ s := by simp
  rw [split, Free, lead.marks_append] at free
  exact arrow free

end TypeExpr

namespace PayloadIssue

theorem ofType?_inout {t : TypeExpr} (h : ("inout " : Text) <+: t.baseName) :
    ofType? t = some .isInout := by
  obtain ⟨rest, eq⟩ := h
  rw [ofType?_eq, ← eq]
  rfl

theorem ofType?_function {t : TypeExpr} (h : t.isClosure = true) : ofType? t = none := by
  rw [ofType?_eq, TypeExpr.baseName_closure h]
  rfl

end PayloadIssue

namespace EnumFile
open TypeExpr Variant

/-- A parameter of an `inout` type is reported, and no group with its modifier has a file, if
the type has no arrow outside brackets. With such an arrow nothing is reported, and what can be
read is stored as a function type. -/
theorem generate_inout {m : Modifier} {before after : List Parameter} {p : Parameter} {s : Text}
    {t : TypeExpr} (plain : m.isGeneric = false) (result : ∃ r, parse m.returnType = .ok r)
    (split : m.parameters = before ++ p :: after)
    (others : ∀ q ∈ before ++ after, Storable q) (type : p.type = "inout " ++ s)
    (read : parse s = .ok t) :
    (Free .arrow s →
      unsupportedPayload m = some (unstorableMessage p .isInout) ∧
      ∀ options name, Identifier.isValidTypeName name = true →
        generate options name [m] = .error (.unsupported m.name (.notStorable p.type .isInout)) ∧
        ∀ ms, m ∈ ms → ∃ n o, generate options name ms = .error (.unsupported n o)) ∧
    (¬Free .arrow s →
      unsupportedPayload m = none ∧
      ∀ u, parse p.type = .ok u → u.isClosure = true ∧
        ∀ options name, Identifier.isValidTypeName name = true →
          ∃ f, generate options name [m] = .ok f) := by
  have keyword : WordText "inout" := by decide
  have empty : Blank [] := List.forall_mem_nil _
  constructor
  · intro free
    obtain ⟨u, readU, named⟩ := parse_keyword keyword read free empty
    have readP : parse p.type = .ok u := by
      rw [type]
      exact readU
    have issue : PayloadIssue.ofType? u = some .isInout := PayloadIssue.ofType?_inout named
    have earlier : ∀ q ∈ before, Storable q := fun q mem =>
      others q (List.mem_append_left after mem)
    refine ⟨?_, fun options name valid => ⟨?_, fun ms mem => ?_⟩⟩
    · rw [unsupportedPayload, unstorable?_eq_some split earlier readP issue]
      rfl
    · exact generate_alone_error valid
        (ofModifier_notStorable _ plain result split earlier readP issue)
    · have hinders : Hinders m (.notStorable p.type .isInout) :=
        .notStorable p u .isInout (by simp [split]) readP issue
      obtain ⟨n, -, o, -, failed⟩ := generate_hindered valid mem hinders
      exact ⟨n.name, o, failed⟩
  · intro arrow
    have closure : ∀ u, parse p.type = .ok u → u.isClosure = true := by
      intro u readU
      apply isClosure_of_keyword keyword arrow
      rw [type] at readU
      exact readU
    have cases : ∀ q ∈ m.parameters, q = p ∨ Storable q := by
      intro q mem
      rw [split, List.mem_append, List.mem_cons] at mem
      rcases mem with earlier | here | later
      · exact .inr (others q (List.mem_append_left after earlier))
      · exact .inl here
      · exact .inr (others q (List.mem_append_right before later))
    constructor
    · have none : unstorable? m = none := by
        apply unstorable?_eq_none
        intro q mem e readE
        rcases cases q mem with rfl | storable
        · exact PayloadIssue.ofType?_function (closure e readE)
        · exact storable.issue e readE
      rw [unsupportedPayload, none]
      rfl
    · intro u readU
      refine ⟨closure u readU, fun options name valid => generate_alone valid ?_⟩
      apply not_hinders plain result
      intro q mem
      rcases cases q mem with rfl | storable
      · exact ⟨u, readU, PayloadIssue.ofType?_function (closure u readU)⟩
      · exact storable

theorem generate_inout_functions :
    let m (type : Text) : Modifier := ⟨"f", [⟨none, "n", "Int", false, none⟩,
      ⟨none, "p", type, false, none⟩], "V", none, none, false, [], []⟩
    (unsupportedPayload (m "inout (() -> Array<Int>)?") =
        some "parameter 'p' (inout (() -> Array<Int>)?): inout parameters cannot be stored in an enum" ∧
      generate {} "E" [m "inout (() -> Array<Int>)?"] =
        .error (.unsupported "f" (.notStorable "inout (() -> Array<Int>)?" .isInout))) ∧
    unsupportedPayload (m "inout () -> Void") = none ∧
      ∃ f, generate {} "E" [m "inout () -> Void"] = .ok f := by
  intro m
  let n : Parameter := ⟨none, "n", "Int", false, none⟩
  have storable : ∀ q ∈ [n] ++ [], Storable q :=
    List.forall_mem_singleton.mpr ⟨.simple "Int", by decide +kernel, rfl⟩
  have result : ∃ r, parse "V" = .ok r := ⟨.simple "V", by decide +kernel⟩
  have readT : parse "(() -> Array<Int>)?" = .ok (.optional (.function []
      (.generic "Array" (.simple "Int") []) false [] [])) := by decide +kernel
  have readU : parse "() -> Void" = .ok (.function [] (.simple "Void") false [] []) := by
    decide +kernel
  have readP : parse "inout () -> Void" =
      .ok (.function [.simple "inout ()"] (.simple "Void") false [] []) := by decide +kernel
  have freeT : Free .arrow "(() -> Array<Int>)?" := by unfold Free; decide +kernel
  have arrowU : ¬Free .arrow "() -> Void" := by unfold Free; decide +kernel
  obtain ⟨reported, failed⟩ := (generate_inout (m := m "inout (() -> Array<Int>)?")
    (p := ⟨none, "p", "inout (() -> Array<Int>)?", false, none⟩) rfl result rfl storable rfl
    readT).1 freeT
  obtain ⟨silent, stored⟩ := (generate_inout (m := m "inout () -> Void")
    (p := ⟨none, "p", "inout () -> Void", false, none⟩) rfl result rfl storable rfl readU).2 arrowU
  have valid : Identifier.isValidTypeName "E" = true := by decide
  exact ⟨⟨reported.trans (by decide), (failed {} "E" valid).1⟩, silent,
    (stored _ readP).2 {} "E" valid⟩

theorem generate_inout_stored :
    let s : Text := "() -> Void"
    let m : Modifier := ⟨"f", [⟨none, "p", "inout " ++ s, false, none⟩], "V", none, none, false,
      [], []⟩
    (parse s).toOption.isSome = true ∧ unsupportedPayload m = none ∧
      (generate {} "E" [m]).toOption.isSome = true ∧
      ((Variant.ofModifier 4 m).toOption.map fun r => caseLine true r.1) =
        some "    case f((inout ()) -> Void)" := by
  decide +kernel

end EnumFile
end ViewCases
