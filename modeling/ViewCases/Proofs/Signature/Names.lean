import ViewCases.Proofs.Attribute
import ViewCases.Signature.Parameter

/-! The names of a parameter clause: one or two, with or without backticks, in any white
space, and attributes before them. Whatever stands behind the colon, the clause is split at
the colon that follows its names. -/
namespace ViewCases.Parameter
open Text ViewCases.Bracket

/-- The characters that no name has: the marks of the clauses around it. -/
def clauseMarks : Text := "`@:=<>()[]{},"

structure ClauseName (name : Text) : Prop where
  nonempty : name ≠ []
  chars : ∀ c ∈ name, isBlank c = false ∧ c ∉ clauseMarks

theorem clauseName_iff {name : Text} : ClauseName name ↔
    name ≠ [] ∧ ∀ c ∈ name, isBlank c = false ∧ c ∉ clauseMarks :=
  ⟨fun h => ⟨h.nonempty, h.chars⟩, fun ⟨ne, chars⟩ => ⟨ne, chars⟩⟩

instance : DecidablePred ClauseName := fun _ => decidable_of_iff' _ clauseName_iff

inductive Spelled (name : Text) : Text → Prop
  | bare : Spelled name name
  | ticked : Spelled name ('`' :: name ++ ['`'])

/-- What stands before the colon of a clause with an external and an internal name. -/
inductive Names : Text → Text → Text → Prop
  | one {name w gap : Text} : ClauseName name → Spelled name w → Blank gap →
      Names (w ++ gap) name name
  | two {external internal v between w gap : Text} : ClauseName external →
      ClauseName internal → Spelled external v → Spelled internal w → Blank between →
      between ≠ [] → Blank gap → Names (v ++ between ++ (w ++ gap)) external internal
  | marked {mark gap t external internal : Text} : Attribute.Written mark → Blank gap →
      gap ≠ [] → Names t external internal → Names (mark ++ (gap ++ t)) external internal

def isQuiet (c : Char) : Bool := isPlain c && c != ':' && c != '='

theorem isQuiet_of_not_mem {c : Char} (h : c ∉ clauseMarks) : isQuiet c = true := by
  have brackets : ∀ d ∈ ("<>()[]{}," : Text), d ∈ clauseMarks := by decide
  have plain : isPlain c = true := isPlain_of_not_mem fun mem => h (brackets c mem)
  have colon : c ≠ ':' := by
    rintro rfl
    exact h (by decide)
  have equals : c ≠ '=' := by
    rintro rfl
    exact h (by decide)
  simp [isQuiet, plain, colon, equals]

theorem isQuiet_of_isBlank {c : Char} (h : isBlank c = true) : isQuiet c = true := by
  apply isQuiet_of_not_mem
  intro mem
  have none : ∀ d ∈ clauseMarks, isBlank d = false := by decide
  rw [none c mem] at h
  cases h

theorem Spelled.isQuiet {name w : Text} (h : Spelled name w) (clause : ClauseName name) :
    ∀ c ∈ w, isQuiet c = true := by
  have bare : ∀ c ∈ name, Parameter.isQuiet c = true :=
    fun c hc => isQuiet_of_not_mem (clause.chars c hc).2
  cases h with
  | bare => exact bare
  | ticked =>
    intro c hc
    simp only [List.cons_append, List.mem_cons, List.mem_append, List.not_mem_nil, or_false] at hc
    rcases hc with rfl | hc | rfl
    · rfl
    · exact bare c hc
    · rfl

theorem Spelled.word {name w : Text} (h : Spelled name w) (clause : ClauseName name) :
    w ≠ [] ∧ ∀ c ∈ w, isBlank c = false := by
  have bare : ∀ c ∈ name, isBlank c = false := fun c hc => (clause.chars c hc).1
  cases h with
  | bare => exact ⟨clause.nonempty, bare⟩
  | ticked =>
    refine ⟨by simp, ?_⟩
    intro c hc
    simp only [List.cons_append, List.mem_cons, List.mem_append, List.not_mem_nil, or_false] at hc
    rcases hc with rfl | hc | rfl
    · rfl
    · exact bare c hc
    · rfl

theorem Spelled.head {name w : Text} (h : Spelled name w) (clause : ClauseName name) :
    w.head? ≠ some '@' := by
  cases h with
  | bare =>
    intro head
    exact (clause.chars '@' (List.mem_of_head? head)).2 (by decide)
  | ticked => simp

theorem bareName_spelled {name w : Text} (h : Spelled name w) (clause : ClauseName name) :
    bareName w = name := by
  have front : ∀ {t : Text} (u : Text), t ≠ [] → (∀ c ∈ t, c ≠ '`') →
      (t ++ u).dropWhile (· = '`') = t ++ u := by
    intro t u ne none
    cases t with
    | nil => exact absurd rfl ne
    | cons c cs =>
      have := none c List.mem_cons_self
      simp [this]
  have none : ∀ c ∈ name, c ≠ '`' := by
    rintro c hc rfl
    exact (clause.chars '`' hc).2 (by decide)
  have ne := clause.nonempty
  have back : ∀ c ∈ name.reverse, c ≠ '`' := fun c hc => none c (List.mem_reverse.mp hc)
  have neBack : name.reverse ≠ [] := by simpa using ne
  have whole := front [] ne none
  have wholeBack := front [] neBack back
  rw [List.append_nil] at whole wholeBack
  cases h with
  | bare => rw [bareName, whole, wholeBack, List.reverse_reverse]
  | ticked =>
    have ticks : ('`' :: name ++ ['`']).dropWhile (· = '`') = name ++ ['`'] := by
      rw [List.cons_append, List.dropWhile_cons_of_pos (by decide), front _ ne none]
    rw [bareName, ticks, List.reverse_append, List.reverse_singleton, List.singleton_append,
      List.dropWhile_cons_of_pos (by decide), wholeBack, List.reverse_reverse]

def Inert (x : Char) (t : Text) : Prop :=
  ∀ prev, walk .flat (marksFrom prev t) = some .flat ∧ ∀ u, Misses [x] prev .flat t u

theorem Inert.append {x : Char} {a b : Text} (ha : Inert x a) (hb : Inert x b) :
    Inert x (a ++ b) := by
  intro prev
  constructor
  · rw [marksFrom_append, walk_append, (ha prev).1]
    exact (hb _).1
  · intro u
    exact misses_append (ha prev).1 ((ha prev).2 _) ((hb _).2 u)

theorem inert_of_quiet {x : Char} (hx : isQuiet x = false) {t : Text}
    (h : ∀ c ∈ t, isQuiet c = true) : Inert x t := by
  intro prev
  constructor
  · have plain : ∀ c ∈ t, isPlain c = true := by
      intro c hc
      have quiet := h c hc
      simp only [isQuiet, Bool.and_eq_true] at quiet
      exact quiet.1.1
    rw [marksFrom_of_isPlain plain]
    rfl
  · intro u
    apply misses_of_not_mem
    intro mem
    rw [h x mem] at hx
    cases hx

theorem inert_of_written {x : Char} (other : x ∉ ("@()" : Text)) (word : isWord x = false)
    {mark : Text} (h : Attribute.Written mark) : Inert x mark := by
  intro prev
  constructor
  · rw [marksFrom_eq_marks (.inr (by simp [h.head]))]
    exact h.closed
  · exact h.misses other word prev

theorem Names.inert {x : Char} (hx : x ∈ [':', '=']) {t external internal : Text}
    (h : Names t external internal) : Inert x t := by
  have quiet : isQuiet x = false := by
    revert x
    decide
  have other : x ∉ ("@()" : Text) ∧ isWord x = false := by
    revert x
    decide
  have blank : ∀ {gap : Text}, Blank gap → Inert x gap :=
    fun h => inert_of_quiet quiet fun c hc => isQuiet_of_isBlank (h c hc)
  have spelled : ∀ {name w : Text}, Spelled name w → ClauseName name → Inert x w :=
    fun h clause => inert_of_quiet quiet (h.isQuiet clause)
  induction h with
  | one clause h gap => exact (spelled h clause).append (blank gap)
  | two outer inner h k between _ gap =>
    exact ((spelled h outer).append (blank between)).append ((spelled k inner).append (blank gap))
  | marked mark gap _ _ ih =>
    exact (inert_of_written other.1 other.2 mark).append ((blank gap).append ih)

theorem splitNames_names {t external internal : Text} (h : Names t external internal) :
    ∃ label, splitNames t = some (label, internal) ∧
      (internal ≠ ['_'] → label = if external = ['_'] then none else some external) := by
  have start : ∀ {name w : Text} (u : Text), Spelled name w → ClauseName name →
      Attribute.takeAll (w ++ u) = ([], w ++ u) := by
    intro name w u h clause
    obtain ⟨ne, visible⟩ := h.word clause
    apply Attribute.takeAll_none
    · rw [List.head?_append_of_ne_nil _ ne]
      exact fun c hc => visible c (List.mem_of_head? hc)
    · rw [List.head?_append_of_ne_nil _ ne]
      exact h.head clause
  have last : ∀ {name w gap : Text}, Spelled name w → ClauseName name → Blank gap →
      words (w ++ gap) = [w] := by
    intro name w gap h clause blank
    obtain ⟨ne, visible⟩ := h.word clause
    have := words_append (t := []) ne visible blank (.inr rfl)
    rwa [List.append_nil] at this
  induction h with
  | @one name w gap clause h blank =>
    refine ⟨some name, ?_, fun named => by rw [if_neg named]⟩
    rw [splitNames, start gap h clause, last h clause blank]
    simp [bareName_spelled h clause]
  | @two external internal v between w gap outer inner h k blank ne blankGap =>
    obtain ⟨neV, visible⟩ := h.word outer
    refine ⟨if external = ['_'] then none else some external, ?_, fun _ => rfl⟩
    rw [splitNames, List.append_assoc, start _ h outer, ← List.append_assoc,
      words_append neV visible blank (.inl ne), last k inner blankGap]
    simp [bareName_spelled h outer, bareName_spelled k inner]
  | @marked mark gap t external internal mark' blank ne names ih =>
    have same : splitNames (mark ++ (gap ++ t)) = splitNames t := by
      simp only [splitNames, Attribute.takeAll_written mark' blank ne]
    rw [same]
    exact ih

theorem splitDefault_names {t external internal : Text} (h : Names t external internal)
    (rest : Text) : ∃ type value, splitDefault (t ++ ':' :: rest) = (t ++ ':' :: type, value) := by
  have inert := h.inert (x := '=') (by decide) none
  unfold splitDefault
  cases found : findTopLevel ['='] (t ++ ':' :: rest) with
  | none => exact ⟨rest, none, rfl⟩
  | some i =>
    -- The names are passed, and the colon behind them is no equals sign.
    have behind : t.length + 1 ≤ i := by
      rw [findTopLevel_zero, findFrom_append inert.1 (inert.2 _)] at found
      have step : ∀ prev pos, findFrom ['='] false prev Nest.flat.total pos (':' :: rest) =
          findFrom ['='] false (some ':') 0 (pos + 1) rest := by
        intro prev pos
        simp [findFrom, Nest.total, Nest.flat, isOpener, isCloser, all, opener, closer]
      rw [step] at found
      have := findFrom_bounds found
      omega
    have cut : (t ++ ':' :: rest).take i = t ++ ':' :: rest.take (i - t.length - 1) := by
      obtain ⟨k, rfl⟩ := Nat.exists_eq_add_of_le behind
      rw [List.take_append, List.take_of_length_le (by omega)]
      have left : t.length + 1 + k - t.length = k + 1 := by omega
      rw [left, List.take_succ_cons]
      simp
    exact ⟨_, _, congrArg (·, _) cut⟩

/-- The parameter of a clause has the names that stand before its colon. The low line as the
external name means that there is no label, but not where it is the internal name too. -/
theorem ofClause?_names {t external internal rest : Text} (h : Names t external internal)
    {p : Parameter} (read : ofClause? (t ++ ':' :: rest) = some p) :
    p.name = internal ∧
      (internal ≠ ['_'] → p.label = if external = ['_'] then none else some external) := by
  obtain ⟨type, value, split⟩ := splitDefault_names h rest
  obtain ⟨label, names, labelled⟩ := splitNames_names h
  have inert := h.inert (x := ':') (by decide) none
  have found : findTopLevel [':'] (t ++ ':' :: type) = some t.length :=
    findTopLevel_of_misses inert.1 (inert.2 _) fun eq => absurd eq (by decide)
  rw [ofClause?, split] at read
  simp only [found, List.take_left, names] at read
  cases given : strip ((t ++ ':' :: type).drop (t.length + 1)) with
  | nil =>
    rw [given] at read
    cases read
  | cons c cs =>
    rw [given] at read
    cases read
    exact ⟨rfl, labelled⟩

end ViewCases.Parameter
