import Mathlib.Data.List.Forall2
import ViewCases.Proofs.Interface.Functions
import ViewCases.Proofs.Member.Order
import ViewCases.Proofs.Signature.Guarded

/-! What comes of a body text, whatever it is. Every function in it is a modifier, an issue or
not exported, in the order of the text, and an issue has the line on which its function
begins. -/
namespace ViewCases.Findings
open Text Member FunctionHeader

def tryOfHeader (filePath header : Text) (documentation : Option Text) (line : Nat) :
    Except Misstep Findings := do
  match ← tryParse? header with
  | none => return ⟨[], [⟨filePath, line, .unreadableSignature header⟩]⟩
  | some h => return if h.isExported then ⟨[Modifier.ofHeader h documentation], []⟩ else {}

def tryOfMember (filePath inside : Text) (row : Nat) (m : Member) : Except Misstep Findings :=
  if m.keyword = "func" then
    tryOfHeader filePath m.header (DocComment.text? m.comments)
      (row + 1 + countNewlines (inside.take m.offset))
  else .ok {}

/-- What the functions of a body text give, up to the first mistake. -/
def tryOfBody (filePath : Text) (row : Nat) (body : Text) : Except Misstep Findings :=
  let inside := insideBraces body
  (Member.split inside).foldlM
    (fun f m => do return f.append (← tryOfMember filePath inside row m)) {}

theorem tryOfMember_eq (filePath inside : Text) (row : Nat) (m : Member) :
    tryOfMember filePath inside row m = .ok (ofMember filePath inside row m) := by
  unfold tryOfMember ofMember tryOfHeader ofHeader
  rw [tryParse?_eq]
  split
  · cases parse? m.header <;> rfl
  · rfl

theorem tryOfBody_eq (filePath : Text) (row : Nat) (body : Text) :
    tryOfBody filePath row body = .ok (ofBody filePath row body) := by
  unfold tryOfBody ofBody
  simp only [tryOfMember_eq]
  exact List.foldlM_pure

def insideStart (t : Text) : Nat := if t.head? = some '\x7b' then 1 else 0

theorem prefix_insideBraces (t : Text) : insideBraces t <+: t.drop (insideStart t) := by
  have opened : (if t.head? = some '\x7b' then t.drop 1 else t) = t.drop (insideStart t) := by
    unfold insideStart
    split <;> rfl
  simp only [insideBraces, opened]
  split
  · exact List.dropLast_prefix _
  · exact List.prefix_rfl

theorem countNewlines_take_insideStart (t : Text) :
    countNewlines (t.take (insideStart t)) = 0 := by
  unfold insideStart
  split
  · next opened =>
    obtain ⟨cs, rfl⟩ := List.head?_eq_some_iff.mp opened
    rfl
  · rfl

/-- The line on which a member begins; `row` counts the lines before the body. -/
def lineOf (row : Nat) (body : Text) (m : Member) : Nat :=
  row + 1 + countNewlines (body.take (insideStart body + m.offset))

theorem lineOf_eq (row : Nat) {body : Text} {m : Member}
    (located : Located (insideBraces body) m) :
    lineOf row body m = row + 1 + countNewlines ((insideBraces body).take m.offset) := by
  obtain ⟨behind, whole⟩ := prefix_insideBraces body
  have start := countNewlines_take_insideStart body
  unfold countNewlines at start
  rw [lineOf, List.take_add, ← whole, List.take_append_of_le_length (Nat.le_of_lt located.offset_lt),
    countNewlines, countNewlines, List.count_append, start, Nat.zero_add]

theorem lineOf_le (row : Nat) (body : Text) (m : Member) :
    lineOf row body m ≤ row + 1 + countNewlines body :=
  Nat.add_le_add_left ((List.take_sublist _ _).count_le _) _

theorem lineOf_mono (row : Nat) (body : Text) {m n : Member} (h : m.offset ≤ n.offset) :
    lineOf row body m ≤ lineOf row body n := by
  have shorter : body.take (insideStart body + m.offset) <+:
      body.take (insideStart body + n.offset) :=
    List.take_prefix_take_left (Nat.add_le_add_left h _)
  exact Nat.add_le_add_left (shorter.sublist.count_le _) _

/-- What a function comes to. -/
inductive Outcome
  | modifier (m : Modifier)
  | issue (i : Issue)
  | unexported

namespace Outcome

def modifier? : Outcome → Option Modifier
  | .modifier m => some m
  | _ => none

def issue? : Outcome → Option Issue
  | .issue i => some i
  | _ => none

inductive Of (filePath : Text) (line : Nat) (m : Member) : Outcome → Prop
  | modifier (h : FunctionHeader) : parse? m.header = some h → h.isExported = true →
      Of filePath line m (.modifier (Modifier.ofHeader h (DocComment.text? m.comments)))
  | unexported (h : FunctionHeader) : parse? m.header = some h → h.isExported = false →
      Of filePath line m .unexported
  | issue : parse? m.header = none →
      Of filePath line m (.issue ⟨filePath, line, .unreadableSignature m.header⟩)

theorem Of.line_of_issue {filePath : Text} {line : Nat} {m : Member} {o : Outcome} {i : Issue}
    (h : Of filePath line m o) (issue : o.issue? = some i) : i.line = line := by
  cases h with
  | modifier => cases issue
  | unexported => cases issue
  | issue =>
    cases issue
    rfl

end Outcome

theorem exists_outcome (filePath : Text) (row : Nat) {body : Text} {m : Member}
    (located : Located (insideBraces body) m) (function : m.keyword = "func") :
    ∃ o, Outcome.Of filePath (lineOf row body m) m o ∧
      ofMember filePath (insideBraces body) row m = ⟨o.modifier?.toList, o.issue?.toList⟩ := by
  rw [ofMember_func _ _ _ function, ← lineOf_eq row located]
  cases read : parse? m.header with
  | none => exact ⟨_, .issue read, by rw [ofHeader, read]; rfl⟩
  | some h =>
    rw [ofHeader_eq read]
    cases exported : h.isExported with
    | true => exact ⟨_, .modifier h read exported, rfl⟩
    | false => exact ⟨_, .unexported h read exported, rfl⟩

def functions (inside : Text) : List Member :=
  (Member.split inside).filter (·.keyword = "func")

theorem exists_outcomes (filePath : Text) (row : Nat) {body : Text} {ms : List Member}
    (located : ∀ m ∈ ms, Located (insideBraces body) m) :
    ∃ os, List.Forall₂ (fun m => Outcome.Of filePath (lineOf row body m) m)
        (ms.filter (·.keyword = "func")) os ∧
      (ms.flatMap fun m => (ofMember filePath (insideBraces body) row m).modifiers) =
        os.filterMap (·.modifier?) ∧
      (ms.flatMap fun m => (ofMember filePath (insideBraces body) row m).issues) =
        os.filterMap (·.issue?) := by
  induction ms with
  | nil => exact ⟨[], .nil, rfl, rfl⟩
  | cons m ms ih =>
    obtain ⟨first, later⟩ := List.forall_mem_cons.mp located
    obtain ⟨os, each, modifiers, issues⟩ := ih later
    by_cases function : m.keyword = "func"
    · obtain ⟨o, outcome, found⟩ := exists_outcome filePath row first function
      refine ⟨o :: os, ?_, ?_, ?_⟩
      · rw [List.filter_cons_of_pos (by simpa using function)]
        exact .cons outcome each
      · rw [List.flatMap_cons, found, modifiers]
        cases o <;> rfl
      · rw [List.flatMap_cons, found, issues]
        cases o <;> rfl
    · have none : ofMember filePath (insideBraces body) row m = {} := if_neg function
      refine ⟨os, ?_, ?_, ?_⟩
      · rwa [List.filter_cons_of_neg (by simpa using function)]
      · rw [List.flatMap_cons, none, modifiers]
        rfl
      · rw [List.flatMap_cons, none, issues]
        rfl

theorem issueLines_sublist {filePath : Text} {row : Nat} {body : Text} {ms : List Member}
    {os : List Outcome}
    (h : List.Forall₂ (fun m => Outcome.Of filePath (lineOf row body m) m) ms os) :
    ((os.filterMap (·.issue?)).map (·.line)).Sublist (ms.map (lineOf row body)) := by
  induction h with
  | nil => exact .slnil
  | @cons m o ms os outcome _ ih =>
    rw [List.filterMap_cons, List.map_cons]
    cases issue : o.issue? with
    | none => exact ih.cons _
    | some i =>
      rw [List.map_cons, outcome.line_of_issue issue]
      exact ih.cons_cons _

theorem pairwise_lineOf (row : Nat) (body : Text) :
    ((functions (insideBraces body)).map (lineOf row body)).Pairwise (· ≤ ·) := by
  have apart := (Member.split_ordered (insideBraces body)).1
  rw [List.pairwise_map] at apart ⊢
  exact (apart.sublist List.filter_sublist).imp fun before =>
    lineOf_mono row body (Nat.le_of_lt before)

/-- The reading of a body text ends, whatever the text is: each step passes over some of it and
together they pass over all of it. No step is a mistake. The members begin one behind the other,
each where its own text stands. Each function is exactly one of a modifier, an issue or not
exported, the modifiers and the issues are in the order of the functions, and an issue has the
line on which its function begins: the lines do not decrease, and they are lines of the body. -/
theorem ofBody_total (filePath : Text) (row : Nat) (body : Text) :
    let inside := insideBraces body
    let found := ofBody filePath row body
    let pieces := Piece.scan 0 true inside
    (pieces.flatMap Piece.text = inside ∧ ∀ p ∈ pieces, p.text ≠ []) ∧
    tryOfBody filePath row body = .ok found ∧
    (((Member.split inside).map (·.offset)).Pairwise (· < ·) ∧ ∀ m ∈ Member.split inside,
      m.header ≠ [] ∧ m.header <+: body.drop (insideStart body + m.offset)) ∧
    (∃ outcomes,
      List.Forall₂ (fun m => Outcome.Of filePath (lineOf row body m) m) (functions inside)
        outcomes ∧
      found.modifiers = outcomes.filterMap (·.modifier?) ∧
      found.issues = outcomes.filterMap (·.issue?)) ∧
    (found.issues.map (·.line)).Pairwise (· ≤ ·) ∧
    ∀ i ∈ found.issues, row + 1 ≤ i.line ∧ i.line ≤ row + 1 + countNewlines body := by
  intro inside found pieces
  obtain ⟨apart, located⟩ := Member.split_ordered inside
  obtain ⟨outcomes, each, modifiers, issues⟩ := exists_outcomes filePath row located
  have all : found = ⟨outcomes.filterMap (·.modifier?), outcomes.filterMap (·.issue?)⟩ := by
    rw [← modifiers, ← issues]
    exact foldl_append _ _ _
  have lines := issueLines_sublist each
  rw [all]
  refine ⟨⟨Piece.flatMap_scan 0 true inside, fun p mem => (Piece.sound_of_mem_scan p mem).inhabited⟩,
    (tryOfBody_eq filePath row body).trans (congrArg _ all), ⟨apart, ?_⟩,
    ⟨outcomes, each, rfl, rfl⟩, (pairwise_lineOf row body).sublist lines, ?_⟩
  · intro m mem
    have there := (located m mem).place.trans ((prefix_insideBraces body).drop m.offset)
    rw [List.drop_drop] at there
    exact ⟨(located m mem).inhabited, there⟩
  · intro i mem
    obtain ⟨m, -, line⟩ := List.mem_map.mp (lines.subset (List.mem_map_of_mem mem))
    rw [← line]
    exact ⟨Nat.le_add_right _ _, lineOf_le row body m⟩

end ViewCases.Findings
