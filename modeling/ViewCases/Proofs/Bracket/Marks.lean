import ViewCases.Bracket.Scan

/-! Nesting seen apart from the other characters. The marks of a text are its brackets,
arrows and commas in order, and a walk along them counts what is open. Every kind keeps
its own count, so marks of different kinds may cross; nothing here pairs brackets. -/
namespace ViewCases.Bracket

inductive Mark
  | opens (b : Bracket)
  | closes (b : Bracket)
  | arrow
  | comma
  deriving DecidableEq, Repr

/-- The mark that a character is, given the character before it. -/
def mark? (prev : Option Char) (c : Char) : Option Mark :=
  if arrowHead prev c then some .arrow
  else if c = ',' then some .comma
  else match all.find? fun b => c == b.opener with
    | some b => some (.opens b)
    | none => (all.find? fun b => c == b.closer).map .closes

def marksFrom (prev : Option Char) : Text → List Mark
  | [] => []
  | c :: cs => (mark? prev c).toList ++ marksFrom (some c) cs

def marks (t : Text) : List Mark := marksFrom none t

def lastOf (prev : Option Char) : Text → Option Char
  | [] => prev
  | c :: cs => lastOf (some c) cs

abbrev Nest := Bracket → Nat

namespace Nest

def flat : Nest := fun _ => 0

def opened (d : Nest) (b : Bracket) : Nest := fun k => if k = b then d k + 1 else d k

def closed (d : Nest) (b : Bracket) : Nest := fun k => if k = b then d k - 1 else d k

def plus (k d : Nest) : Nest := fun b => k b + d b

def total (d : Nest) : Nat := d .angle + d .paren + d .square + d .brace

end Nest

/-- What is open behind the marks, unless one closes a bracket that is not open. -/
def walk (d : Nest) : List Mark → Option Nest
  | [] => some d
  | .opens b :: ms => walk (d.opened b) ms
  | .closes b :: ms => if d b = 0 then none else walk (d.closed b) ms
  | .arrow :: ms | .comma :: ms => walk d ms

/-- The arrows and commas that stand outside all brackets. -/
def topLevel (d : Nest) : List Mark → List Mark
  | [] => []
  | .opens b :: ms => topLevel (d.opened b) ms
  | .closes b :: ms => topLevel (d.closed b) ms
  | m :: ms => if d.total = 0 then m :: topLevel d ms else topLevel d ms

def Closed (ms : List Mark) : Prop := walk .flat ms = some .flat

/-- The mark `m` stands nowhere in the text outside brackets. -/
def Free (m : Mark) (t : Text) : Prop := m ∉ topLevel .flat (marks t)

@[simp] theorem closer_ne_opener (k b : Bracket) : k.closer ≠ b.opener :=
  (opener_ne_closer b k).symm

theorem closer_ne_closer {k b : Bracket} (h : b ≠ k) : k.closer ≠ b.closer := by
  revert h
  cases b <;> cases k <;> simp [closer]

@[simp] theorem isOpener_opener (b : Bracket) : isOpener b.opener = true := by cases b <;> rfl

@[simp] theorem isOpener_closer (b : Bracket) : isOpener b.closer = false := by cases b <;> rfl

@[simp] theorem isCloser_closer (b : Bracket) : isCloser b.closer = true := by cases b <;> rfl

inductive Role (prev : Option Char) : Char → Prop
  | opens (b : Bracket) : Role prev b.opener
  | closes (b : Bracket) : arrowHead prev b.closer = false → Role prev b.closer
  | other (c : Char) : isBracket prev c = false → Role prev c

theorem role (prev : Option Char) (c : Char) : Role prev c := by
  by_cases ho : isOpener c = true
  · obtain ⟨b, _, eq⟩ := List.any_eq_true.mp ho
    cases eq_of_beq eq
    exact .opens b
  · by_cases hc : isCloser c = true ∧ arrowHead prev c = false
    · obtain ⟨b, _, eq⟩ := List.any_eq_true.mp hc.1
      cases eq_of_beq eq
      exact .closes b hc.2
    · refine .other c ?_
      cases h : isCloser c <;> simp_all [isBracket]

theorem ne_of_not_bracket {prev : Option Char} {c : Char} (h : isBracket prev c = false)
    (b : Bracket) : c ≠ b.opener ∧ b.closes prev c = false := by
  simp only [isBracket, isOpener, isCloser, Bool.or_eq_false_iff, List.any_eq_false] at h
  constructor
  · intro eq
    exact h.1 b (mem_all b) (by simp [eq])
  · unfold closes
    by_cases eq : c = b.closer
    · have member : all.any (fun k => c == k.closer) = true :=
        List.any_eq_true.mpr ⟨b, mem_all b, by simp [eq]⟩
      have head := h.2
      rw [member, Bool.true_and] at head
      rw [head, Bool.and_false]
    · simp [eq]

theorem mark?_opener (prev : Option Char) (b : Bracket) :
    mark? prev b.opener = some (.opens b) := by
  cases b <;> rfl

theorem mark?_closer {prev : Option Char} {b : Bracket} (h : arrowHead prev b.closer = false) :
    mark? prev b.closer = some (.closes b) := by
  unfold mark?
  rw [h]
  cases b <;> rfl

theorem mark?_of_not_bracket {prev : Option Char} {c : Char} (h : isBracket prev c = false) :
    mark? prev c =
      if arrowHead prev c then some .arrow else if c = ',' then some .comma else none := by
  have noOpener : all.find? (fun b => c == b.opener) = none := by
    apply List.find?_eq_none.mpr
    intro b _
    simpa using (ne_of_not_bracket h b).1
  unfold mark?
  split
  · rfl
  · next head =>
    have noCloser : all.find? (fun b => c == b.closer) = none := by
      apply List.find?_eq_none.mpr
      intro b _
      have := (ne_of_not_bracket h b).2
      simpa [closes, head] using this
    rw [noOpener, noCloser]
    rfl

theorem mark?_eq_none_left {prev : Option Char} {c : Char} (h : prev ≠ some '-' ∨ c ≠ '>') :
    mark? prev c = mark? none c := by
  have head : arrowHead prev c = arrowHead none c := by
    rcases h with h | h <;> simp [arrowHead, h]
  unfold mark?
  rw [head]

namespace Nest

theorem plus_opened (k d : Nest) (b : Bracket) : k.plus (d.opened b) = (k.plus d).opened b := by
  funext j
  by_cases h : j = b <;> simp [plus, opened, h, Nat.add_assoc]

theorem plus_closed {k d : Nest} {b : Bracket} (h : d b ≠ 0) :
    k.plus (d.closed b) = (k.plus d).closed b := by
  funext j
  by_cases hj : j = b
  · subst hj
    simp only [plus, closed, if_true]
    omega
  · simp [plus, closed, hj]

@[simp] theorem closed_opened (d : Nest) (b : Bracket) : (d.opened b).closed b = d := by
  funext j
  by_cases h : j = b <;> simp [opened, closed, h]

@[simp] theorem opened_self (d : Nest) (b : Bracket) : d.opened b b = d b + 1 := by
  simp [opened]

theorem total_opened (d : Nest) (b : Bracket) : (d.opened b).total = d.total + 1 := by
  cases b <;> simp [total, opened] <;> omega

theorem total_closed {d : Nest} {b : Bracket} (h : d b ≠ 0) :
    (d.closed b).total + 1 = d.total := by
  cases b <;> simp [total, closed] <;> omega

theorem le_total (d : Nest) (b : Bracket) : d b ≤ d.total := by
  cases b <;> simp only [total] <;> omega

theorem total_eq_zero {d : Nest} : d.total = 0 ↔ d = flat := by
  constructor
  · intro h
    funext b
    have := d.le_total b
    exact Nat.le_zero.mp (h ▸ this)
  · rintro rfl
    rfl

theorem total_plus_ne_zero {k : Nest} (h : k ≠ flat) (d : Nest) : (k.plus d).total ≠ 0 := by
  intro zero
  apply h
  funext b
  have := (k.plus d).le_total b
  simp only [plus] at this
  simp only [flat]
  omega

end Nest

theorem walk_append (d : Nest) (ms ns : List Mark) :
    walk d (ms ++ ns) = (walk d ms).bind fun e => walk e ns := by
  induction ms generalizing d with
  | nil => rfl
  | cons m ms ih =>
    cases m with
    | opens b => simp [walk, ih]
    | closes b =>
      by_cases h : d b = 0 <;> simp [walk, h, ih]
    | arrow => simp [walk, ih]
    | comma => simp [walk, ih]

theorem walk_plus (k : Nest) {d e : Nest} {ms : List Mark} (h : walk d ms = some e) :
    walk (k.plus d) ms = some (k.plus e) := by
  induction ms generalizing d with
  | nil => simpa [walk] using congrArg (Option.map k.plus) h
  | cons m ms ih =>
    cases m with
    | opens b =>
      rw [walk, ← Nest.plus_opened]
      exact ih h
    | closes b =>
      by_cases hd : d b = 0
      · simp [walk, hd] at h
      · rw [walk, if_neg hd] at h
        have pos : k.plus d b ≠ 0 := by simp only [Nest.plus]; omega
        rw [walk, if_neg pos, ← Nest.plus_closed hd]
        exact ih h
    | arrow => exact ih h
    | comma => exact ih h

theorem Closed.walk {ms : List Mark} (h : Closed ms) (d : Nest) : Bracket.walk d ms = some d :=
  walk_plus d h

theorem closed_nil : Closed [] := rfl

theorem Closed.append {ms ns : List Mark} (hm : Closed ms) (hn : Closed ns) :
    Closed (ms ++ ns) := by
  unfold Closed
  rw [walk_append, hm.walk]
  exact hn

theorem Closed.wrap {ms : List Mark} (h : Closed ms) (b : Bracket) :
    Closed (.opens b :: ms ++ [.closes b]) := by
  unfold Closed
  rw [List.cons_append, Bracket.walk, walk_append, h.walk]
  simp [Bracket.walk]

theorem Closed.of_append_right {ms ns : List Mark} (h : Closed (ms ++ ns)) (hn : Closed ns) :
    Closed ms := by
  unfold Closed at h ⊢
  rw [walk_append] at h
  cases hw : Bracket.walk .flat ms with
  | none => simp [hw] at h
  | some e =>
    rw [hw, Option.bind_some, hn.walk] at h
    exact h

theorem Closed.of_append_left {ms ns : List Mark} (h : Closed (ms ++ ns)) (hm : Closed ms) :
    Closed ns := by
  unfold Closed at h
  rw [walk_append, hm.walk] at h
  exact h

theorem topLevel_append {d e : Nest} {ms : List Mark} (h : walk d ms = some e) (ns : List Mark) :
    topLevel d (ms ++ ns) = topLevel d ms ++ topLevel e ns := by
  induction ms generalizing d with
  | nil =>
    cases Option.some.inj h
    rfl
  | cons m ms ih =>
    cases m with
    | opens b => exact ih h
    | closes b =>
      by_cases hd : d b = 0
      · simp [walk, hd] at h
      · rw [walk, if_neg hd] at h
        exact ih h
    | arrow =>
      by_cases hd : d.total = 0
      · simp [topLevel, hd, ih h]
      · simp [topLevel, hd, ih h]
    | comma =>
      by_cases hd : d.total = 0
      · simp [topLevel, hd, ih h]
      · simp [topLevel, hd, ih h]

theorem topLevel_plus {k : Nest} (hk : k ≠ .flat) {d e : Nest} {ms : List Mark}
    (h : walk d ms = some e) : topLevel (k.plus d) ms = [] := by
  induction ms generalizing d with
  | nil => rfl
  | cons m ms ih =>
    cases m with
    | opens b =>
      rw [topLevel, ← Nest.plus_opened]
      exact ih h
    | closes b =>
      by_cases hd : d b = 0
      · simp [walk, hd] at h
      · rw [walk, if_neg hd] at h
        rw [topLevel, ← Nest.plus_closed hd]
        exact ih h
    | arrow =>
      rw [topLevel, if_neg (Nest.total_plus_ne_zero hk d)]
      · exact ih h
      all_goals simp
    | comma =>
      rw [topLevel, if_neg (Nest.total_plus_ne_zero hk d)]
      · exact ih h
      all_goals simp

theorem Closed.topLevel_append {ms : List Mark} (h : Closed ms) (ns : List Mark) :
    topLevel .flat (ms ++ ns) = topLevel .flat ms ++ topLevel .flat ns :=
  Bracket.topLevel_append h ns

theorem Closed.topLevel_wrap {ms : List Mark} (h : Closed ms) (b : Bracket) :
    topLevel .flat (.opens b :: ms ++ [.closes b]) = [] := by
  have inside : Nest.opened .flat b ≠ .flat := by
    intro eq
    have := congrFun eq b
    simp [Nest.opened, Nest.flat] at this
  rw [List.cons_append, topLevel, Bracket.topLevel_append (h.walk _)]
  rw [show topLevel (Nest.opened .flat b) ms = [] from topLevel_plus inside h]
  rfl

theorem walk_opener (d : Nest) (prev : Option Char) (b : Bracket) (cs : Text) :
    walk d (marksFrom prev (b.opener :: cs)) =
      walk (d.opened b) (marksFrom (some b.opener) cs) := by
  rw [marksFrom, mark?_opener]
  rfl

theorem walk_closer (d : Nest) {prev : Option Char} {b : Bracket}
    (h : arrowHead prev b.closer = false) (cs : Text) :
    walk d (marksFrom prev (b.closer :: cs)) =
      if d b = 0 then none else walk (d.closed b) (marksFrom (some b.closer) cs) := by
  rw [marksFrom, mark?_closer h]
  rfl

theorem walk_closer_eq_some {d e : Nest} {prev : Option Char} {b : Bracket} {cs : Text}
    (head : arrowHead prev b.closer = false)
    (h : walk d (marksFrom prev (b.closer :: cs)) = some e) :
    d b ≠ 0 ∧ walk (d.closed b) (marksFrom (some b.closer) cs) = some e := by
  rw [walk_closer d head] at h
  split at h
  · cases h
  · next hd => exact ⟨hd, h⟩

theorem walk_other (d : Nest) {prev : Option Char} {c : Char} (h : isBracket prev c = false)
    (cs : Text) : walk d (marksFrom prev (c :: cs)) = walk d (marksFrom (some c) cs) := by
  rw [marksFrom, mark?_of_not_bracket h]
  split
  · rfl
  · split <;> rfl

theorem topLevel_opener (d : Nest) (prev : Option Char) (b : Bracket) (cs : Text) :
    topLevel d (marksFrom prev (b.opener :: cs)) =
      topLevel (d.opened b) (marksFrom (some b.opener) cs) := by
  rw [marksFrom, mark?_opener]
  rfl

theorem topLevel_closer (d : Nest) {prev : Option Char} {b : Bracket}
    (h : arrowHead prev b.closer = false) (cs : Text) :
    topLevel d (marksFrom prev (b.closer :: cs)) =
      topLevel (d.closed b) (marksFrom (some b.closer) cs) := by
  rw [marksFrom, mark?_closer h]
  rfl

theorem topLevel_other (d : Nest) {prev : Option Char} {c : Char} (h : isBracket prev c = false)
    (cs : Text) : topLevel d (marksFrom prev (c :: cs)) =
      (if d.total = 0 then (mark? prev c).toList else []) ++
        topLevel d (marksFrom (some c) cs) := by
  rw [marksFrom, mark?_of_not_bracket h]
  split
  · by_cases hd : d.total = 0 <;> simp [topLevel, hd]
  · split
    · by_cases hd : d.total = 0 <;> simp [topLevel, hd]
    · by_cases hd : d.total = 0 <;> simp [hd]

theorem lastOf_append (prev : Option Char) (a b : Text) :
    lastOf prev (a ++ b) = lastOf (lastOf prev a) b := by
  induction a generalizing prev with
  | nil => rfl
  | cons c cs ih => exact ih (some c)

theorem lastOf_some (c : Char) (a : Text) : lastOf (some c) a = (c :: a).getLast? := by
  induction a generalizing c with
  | nil => rfl
  | cons d ds ih => simpa [lastOf] using ih d

theorem lastOf_none (a : Text) : lastOf none a = a.getLast? := by
  cases a with
  | nil => rfl
  | cons c cs => exact lastOf_some c cs

theorem marksFrom_append (prev : Option Char) (a b : Text) :
    marksFrom prev (a ++ b) = marksFrom prev a ++ marksFrom (lastOf prev a) b := by
  induction a generalizing prev with
  | nil => rfl
  | cons c cs ih => simp [marksFrom, lastOf, ih]

theorem marksFrom_eq_marks {prev : Option Char} {t : Text}
    (h : prev ≠ some '-' ∨ t.head? ≠ some '>') : marksFrom prev t = marks t := by
  cases t with
  | nil => rfl
  | cons c cs =>
    have eq : mark? prev c = mark? none c := by
      apply mark?_eq_none_left
      simpa using h
    simp only [marks, marksFrom, eq]

theorem marks_append {a b : Text} (h : a.getLast? ≠ some '-' ∨ b.head? ≠ some '>') :
    marks (a ++ b) = marks a ++ marks b := by
  rw [marks, marksFrom_append, lastOf_none, marksFrom_eq_marks h]
  rfl

/-- A character that is no mark, wherever it stands. -/
def isPlain (c : Char) : Bool := !isOpener c && !isCloser c && c != ','

theorem isPlain_of_not_mem {c : Char} (h : c ∉ ("<>()[]{}," : Text)) : isPlain c = true := by
  simp only [isPlain, isOpener, isCloser, all, opener, closer, List.any_cons, List.any_nil]
  simp_all

theorem isPlain_of_class {p : Char → Bool} (apart : ∀ d ∈ ("<>()[]{}," : Text), p d = false)
    {c : Char} (h : p c = true) : isPlain c = true := by
  apply isPlain_of_not_mem
  intro mem
  rw [apart c mem] at h
  cases h

theorem not_isBracket_of_isPlain {c : Char} (h : isPlain c = true) (prev : Option Char) :
    isBracket prev c = false := by
  simp only [isPlain, Bool.and_eq_true, Bool.not_eq_true'] at h
  simp [isBracket, h.1]

theorem mark?_of_isPlain {c : Char} (h : isPlain c = true) (prev : Option Char) :
    mark? prev c = none := by
  have notHead : arrowHead prev c = false := by
    cases head : arrowHead prev c with
    | false => rfl
    | true =>
      have eq : c = '>' := by
        simp only [arrowHead, Bool.and_eq_true, beq_iff_eq] at head
        exact head.1
      subst eq
      cases h
  have notComma : c ≠ ',' := by
    rintro rfl
    cases h
  rw [mark?_of_not_bracket (not_isBracket_of_isPlain h prev), notHead]
  simp [notComma]

theorem marksFrom_of_isPlain {t : Text} (h : ∀ c ∈ t, isPlain c = true) (prev : Option Char) :
    marksFrom prev t = [] := by
  induction t generalizing prev with
  | nil => rfl
  | cons c cs ih =>
    rw [marksFrom, mark?_of_isPlain (h c List.mem_cons_self)]
    exact ih (fun d hd => h d (List.mem_cons_of_mem _ hd)) _

theorem head_of_isPlain {t : Text} (h : ∀ c ∈ t, isPlain c = true) : t.head? ≠ some '>' := by
  intro head
  exact absurd (h '>' (List.mem_of_head? head)) (by decide)

theorem marks_of_isPlain {t : Text} (h : ∀ c ∈ t, isPlain c = true) : marks t = [] :=
  marksFrom_of_isPlain h none

theorem marks_append_plain (a : Text) {b : Text} (h : ∀ c ∈ b, isPlain c = true) :
    marks (a ++ b) = marks a := by
  rw [marks_append (.inr (head_of_isPlain h)), marks_of_isPlain h, List.append_nil]

theorem marks_plain_append {a b : Text} (h : ∀ c ∈ a, isPlain c = true)
    (seam : a.getLast? ≠ some '-' ∨ b.head? ≠ some '>') : marks (a ++ b) = marks b := by
  rw [marks_append seam, marks_of_isPlain h, List.nil_append]

theorem marks_cons {c : Char} (h : c ≠ '-') (t : Text) :
    marks (c :: t) = (mark? none c).toList ++ marks t := by
  rw [marks, marksFrom, marksFrom_eq_marks]
  exact .inl (by simpa using h)

theorem marks_arrow (t : Text) : marks ('-' :: '>' :: t) = .arrow :: marks t := by
  have step : marks ('-' :: '>' :: t) = .arrow :: marksFrom (some '>') t := rfl
  rw [step, marksFrom_eq_marks (.inl (by simp))]

theorem marks_opener_cons (b : Bracket) (t : Text) :
    marks (b.opener :: t) = .opens b :: marks t := by
  rw [marks_cons (by cases b <;> decide), mark?_opener]
  rfl

theorem marks_append_closer {b : Bracket} {a : Text} (h : a.getLast? ≠ some '-' ∨ b ≠ .angle) :
    marks (a ++ [b.closer]) = marks a ++ [.closes b] := by
  have plainHead : arrowHead none b.closer = false := by simp [arrowHead]
  rw [marks_append, marks, marks, marksFrom, mark?_closer plainHead]
  · rfl
  · rcases h with h | h
    · exact .inl h
    · right
      cases b <;> simp_all [closer]

theorem marks_wrap {b : Bracket} {a : Text} (h : a.getLast? ≠ some '-' ∨ b ≠ .angle) :
    marks (b.opener :: a ++ [b.closer]) = .opens b :: marks a ++ [.closes b] := by
  rw [List.cons_append, marks_opener_cons, marks_append_closer h]
  rfl

theorem marksFrom_commas {t : Text} (h : ∀ c ∈ t, c ∉ ("<>()[]{}-" : Text)) (prev : Option Char) :
    ∀ m ∈ marksFrom prev t, m = .comma := by
  induction t generalizing prev with
  | nil => simp [marksFrom]
  | cons c cs ih =>
    obtain ⟨here, later⟩ := List.forall_mem_cons.mp h
    intro m mem
    rcases List.mem_append.mp mem with first | behind
    · by_cases comma : c = ','
      · subst comma
        have mark : mark? prev ',' = some .comma := by
          rw [mark?_eq_none_left (.inr (by decide))]
          rfl
        rw [mark] at first
        simpa using first
      · have plain : isPlain c = true := by
          apply isPlain_of_not_mem
          intro inside
          have split : c ∈ ("<>()[]{}" : Text) ++ [','] := inside
          rcases List.mem_append.mp split with bracket | last
          · have stop : c ∈ ("<>()[]{}" : Text) ++ ['-'] := List.mem_append_left _ bracket
            exact here stop
          · exact comma (List.mem_singleton.mp last)
        rw [mark?_of_isPlain plain] at first
        cases first
    · exact ih later _ m behind

theorem closed_of_commas {ms : List Mark} (h : ∀ m ∈ ms, m = .comma) : Closed ms := by
  induction ms with
  | nil => exact closed_nil
  | cons m ms ih =>
    obtain ⟨rfl, later⟩ := List.forall_mem_cons.mp h
    exact ih later

theorem arrow_not_mem_of_commas {ms : List Mark} (h : ∀ m ∈ ms, m = .comma) :
    .arrow ∉ topLevel .flat ms := by
  induction ms with
  | nil => simp [topLevel]
  | cons m ms ih =>
    obtain ⟨rfl, later⟩ := List.forall_mem_cons.mp h
    have step : topLevel .flat (.comma :: ms) = .comma :: topLevel .flat ms := rfl
    rw [step]
    simpa using ih later

end ViewCases.Bracket
