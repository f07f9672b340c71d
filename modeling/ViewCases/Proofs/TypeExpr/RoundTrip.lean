import ViewCases.Proofs.TypeExpr.Rendered

/-! Reading back a rendered tree. Well-formedness is a condition on the texts at the nodes,
one node at a time; the shape of the tree is free. Names with marks of their own, such as
tuples, are left out here. -/
namespace ViewCases.TypeExpr
open Text ViewCases.Bracket

structure PlainName (name : Text) : Prop where
  nonempty : name ≠ []
  trimmed : Trimmed name
  chars : ∀ c ∈ name, c ∉ ("<>()[]{},-" : Text)

/-- An attribute of a function type other than the escaping mark. -/
inductive TypeAttribute : Text → Prop
  | word (word : Text) : word ≠ [] → (∀ c ∈ word, isWord c = true) →
      '@' :: word ≠ escapingAttribute → TypeAttribute ('@' :: word)
  | argument (word argument : Text) : word ∈ attributesWithArgument →
      (∀ c ∈ argument, c ∉ ("<>()[]{}-" : Text)) →
        TypeAttribute ('@' :: word ++ '(' :: argument ++ [')'])

theorem plainName_iff {name : Text} :
    PlainName name ↔ name ≠ [] ∧ Trimmed name ∧ ∀ c ∈ name, c ∉ ("<>()[]{},-" : Text) :=
  ⟨fun h => ⟨h.nonempty, h.trimmed, h.chars⟩, fun ⟨ne, trim, chars⟩ => ⟨ne, trim, chars⟩⟩

instance (name : Text) : Decidable (PlainName name) := decidable_of_iff' _ plainName_iff

def WellFormedNode : TypeExpr → Prop
  | .simple name => PlainName name ∧ name.getLast? ≠ some '?'
  | .generic name _ _ => PlainName name
  | .optional _ => True
  | .function _ _ _ attributes effects =>
    (∀ mark ∈ attributes, TypeAttribute mark) ∧ ∀ word ∈ effects, word ∈ effectWords

def WellFormed (t : TypeExpr) : Prop := ∀ n ∈ t.nodes, WellFormedNode n

theorem WellFormed.root {t : TypeExpr} (h : WellFormed t) : WellFormedNode t :=
  h t t.mem_nodes_self

theorem WellFormed.child {t u : TypeExpr} (h : WellFormed t) (mem : u ∈ t.children) :
    WellFormed u := by
  intro n hn
  apply h n
  rw [nodes_eq_cons]
  exact List.mem_cons_of_mem _ (List.mem_flatMap.mpr ⟨u, mem, hn⟩)

theorem PlainName.marks_eq {name : Text} (h : PlainName name) : marks name = [] := by
  have known : ∀ d ∈ ("<>()[]{}," : Text), d ∈ ("<>()[]{},-" : Text) := by decide
  exact marks_of_isPlain fun c hc => isPlain_of_not_mem fun mem => h.chars c hc (known c mem)

theorem PlainName.not_mem {name : Text} (h : PlainName name) {c : Char}
    (forbidden : c ∈ ("<>()[]{},-" : Text)) : c ∉ name :=
  fun mem => h.chars c mem forbidden

theorem PlainName.applicable {name : Text} (h : PlainName name) : Applicable name := by
  refine ⟨h.nonempty, h.trimmed, ?_, ?_, h.not_mem (by simp)⟩
  · rw [h.marks_eq]
    exact closed_nil
  · rw [Free, h.marks_eq]
    exact List.not_mem_nil

theorem PlainName.shape_eq {name : Text} (h : PlainName name) (last : name.getLast? ≠ some '?') :
    shape name = .ok (.name name) := by
  have app := h.applicable
  have outside : insideParens? name = none := by
    apply insideParens?_eq_none h.trimmed
    left
    intro head
    exact h.not_mem (by simp) (List.mem_of_head? head)
  have noAngle : name.contains '<' = false := by simpa using app.noAngle
  rw [shape_of_trimmed h.nonempty h.trimmed app.closed,
    findTopLevel_arrow_none app.closed app.free, outside]
  simp [last, app.noAngle]

structure Quiet (t : Text) : Prop where
  closed : Closed (marks t)
  top : topLevel .flat (marks t) = []

theorem quiet_of_marks {t : Text} (h : marks t = []) : Quiet t := by
  constructor
  · rw [h]
    exact closed_nil
  · rw [h]
    rfl

theorem TypeAttribute.quiet {mark : Text} (h : TypeAttribute mark) : Quiet mark := by
  cases h with
  | word word ne chars other =>
    apply quiet_of_marks
    apply marks_of_isPlain
    intro c hc
    rcases List.mem_cons.mp hc with rfl | hc
    · decide
    · exact isPlain_of_isWord (chars c hc)
  | argument word argument mem chars =>
    have plain : marks ('@' :: word) = [] := by
      simp only [attributesWithArgument, List.mem_cons, List.not_mem_nil, or_false] at mem
      rcases mem with rfl | rfl <;> rfl
    have closed : Closed (marks argument) := closed_of_commas (marksFrom_commas chars none)
    have eq : marks ('@' :: word ++ '(' :: argument ++ [')']) =
        .opens .paren :: marks argument ++ [.closes .paren] := by
      have split : '@' :: word ++ '(' :: argument ++ [')'] =
          ('@' :: word) ++ ('(' :: argument ++ [')']) := by simp
      rw [split, marks_append (.inr (by simp)), plain, List.nil_append, marks_parens]
    constructor
    · rw [eq]
      exact closed.wrap .paren
    · rw [eq]
      exact closed.topLevel_wrap .paren

theorem TypeAttribute.standing {mark : Text} (h : TypeAttribute mark) : Standing mark := by
  cases h with
  | word word ne chars other => exact standing_word ne chars
  | argument word argument mem chars =>
    exact standing_argument mem
      (partner?_wrap .paren (closed_of_commas (marksFrom_commas chars none)) (.inr (by simp)))

theorem TypeAttribute.ne_escaping {mark : Text} (h : TypeAttribute mark) :
    mark ≠ escapingAttribute := by
  cases h with
  | word word ne chars other => exact other
  | argument word argument mem chars =>
    intro eq
    have last := congrArg List.getLast? eq
    rw [List.getLast?_concat] at last
    exact absurd last (by decide)

theorem quiet_spaced {ms : List Text} (h : ∀ m ∈ ms, Quiet m) : Quiet (spaced ms) := by
  suffices flat : Closed (ms.flatMap marks) ∧ topLevel .flat (ms.flatMap marks) = [] by
    rw [← marks_spaced] at flat
    exact ⟨flat.1, flat.2⟩
  induction ms with
  | nil => exact ⟨closed_nil, rfl⟩
  | cons m ms ih =>
    obtain ⟨first, later⟩ := List.forall_mem_cons.mp h
    have others := ih later
    rw [List.flatMap_cons, first.closed.topLevel_append, first.top, others.2]
    exact ⟨first.closed.append others.1, rfl⟩

theorem quiet_lead {attributes : List Text} (h : ∀ m ∈ attributes, TypeAttribute m)
    (escaping : Bool) : Quiet (renderLead escaping attributes) := by
  apply quiet_spaced
  intro m hm
  rcases List.mem_append.mp hm with first | later
  · cases escaping with
    | false => cases first
    | true =>
      cases List.mem_singleton.mp first
      exact quiet_of_marks rfl
  · exact (h m later).quiet

theorem callable_of_wellFormed (escaping : Bool) {attributes effects : List Text}
    (marks : ∀ m ∈ attributes, TypeAttribute m) (words : ∀ w ∈ effects, w ∈ effectWords) :
    Callable escaping attributes effects := by
  have quiet := quiet_lead marks escaping
  refine ⟨fun m hm => (marks m hm).standing, ?_, words, quiet.closed, ?_⟩
  · intro mem
    exact (marks _ mem).ne_escaping rfl
  · rw [Free, quiet.top]
    exact List.not_mem_nil

theorem listed_of_wellFormed (t : TypeExpr) (h : WellFormed t) : Listed t := by
  -- A function type asks of its parameters that they are entries of a list, so both are carried.
  induction t using childInduction with
  | simple name =>
    obtain ⟨plain, last⟩ := h.root
    have app := plain.applicable
    have noHyphen : name.getLast? ≠ some '-' := fun hyphen =>
      plain.not_mem (by simp) (List.mem_of_getLast? hyphen)
    constructor
    · exact rendered_simple app.nonempty app.trimmed app.closed noHyphen (plain.shape_eq last)
    · change Free .comma name
      rw [Free, plain.marks_eq]
      exact List.not_mem_nil
  | generic name first rest ihFirst ihRest =>
    have plain : PlainName name := h.root
    have listed : ∀ t ∈ first :: rest, Listed t := by
      intro t mem
      have good : WellFormed t := h.child mem
      rcases List.mem_cons.mp mem with rfl | mem
      · exact ihFirst good
      · exact ihRest t mem good
    have free : Free .comma name := by
      rw [Free, plain.marks_eq]
      exact List.not_mem_nil
    exact ⟨rendered_generic plain.applicable listed, free_generic plain.applicable listed free⟩
  | optional wrapped ih =>
    have inner := ih (h.child List.mem_cons_self)
    exact ⟨rendered_optional inner.1 fun _ => inner.2, free_optional inner.1 inner.2⟩
  | function parameters result escaping attributes effects ihParameters ihResult =>
    obtain ⟨marks, words⟩ := h.root
    have call := callable_of_wellFormed escaping marks words
    have listed : ∀ t ∈ parameters, Listed t := fun t mem =>
      ihParameters t mem (h.child (List.mem_append_left _ mem))
    have res := ihResult (h.child (List.mem_append_right _ List.mem_cons_self))
    have lead : Free .comma (renderLead escaping attributes) := by
      rw [Free, (quiet_lead marks escaping).top]
      exact List.not_mem_nil
    exact ⟨rendered_function call listed res.1, free_function call listed lead res.2⟩

/-- A well-formed tree is what its rendering reads as. -/
theorem parse_render {t : TypeExpr} (h : WellFormed t) : parse t.render = .ok t :=
  (listed_of_wellFormed t h).1.reads

theorem parse_render_nested :
    let t : TypeExpr := .optional (.function
      [.generic "Map" (.simple "Key")
        [.function [] (.optional (.simple "Value")) false [] ["async", "throws"]]]
      (.function [.simple "A"] (.simple "B") false [] ["rethrows"])
      true ["@Sendable", "@convention(c, cType: x)"] [])
    WellFormed t ∧ parse t.render = .ok t := by
  intro t
  have sendable : TypeAttribute "@Sendable" :=
    .word "Sendable" (by decide) (by decide) (by decide)
  have convention : TypeAttribute "@convention(c, cType: x)" :=
    .argument "convention" "c, cType: x" (by decide) (by decide)
  have names : ∀ name ∈ (["Map", "Key", "Value", "A", "B"] : List Text), PlainName name := by
    decide
  have good : WellFormed t := by
    simp_all [t, WellFormed, nodes, nodesAll, WellFormedNode, effectWords]
  exact ⟨good, parse_render good⟩

end ViewCases.TypeExpr
