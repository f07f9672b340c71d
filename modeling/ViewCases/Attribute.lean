import ViewCases.Bracket.Scan
import ViewCases.Text.Property

/-! Attributes at the start of a declaration: an at sign, a word, and an argument in
parentheses if one follows directly. An argument that is never closed extends to
the end of the text. -/
namespace ViewCases.Attribute
open Text ViewCases.Bracket

/-- The word behind an at sign at the start of the text, and what follows it. -/
def name? : Text → Option (Text × Text)
  | '@' :: rest =>
    if (rest.takeWhile isWord).isEmpty then none
    else some (rest.takeWhile isWord, rest.dropWhile isWord)
  | _ => none

theorem name?_eq_some {t name rest : Text} (h : name? t = some (name, rest)) :
    name ≠ [] ∧ t = '@' :: name ++ rest := by
  unfold name? at h
  split at h
  · split at h
    · simp at h
    · next hn =>
      simp only [Option.some.injEq, Prod.mk.injEq] at h
      obtain ⟨rfl, rfl⟩ := h
      exact ⟨by simpa using hn, by simp [List.takeWhile_append_dropWhile]⟩
  · simp at h

/-- The argument in parentheses at the start of the text, if there is one, and
what follows it. -/
def takeArgument (t : Text) : Text × Text :=
  if t.head? = some '(' then
    match partner? .paren t with
    | some close => (t.take (close + 1), t.drop (close + 1))
    | none => (t, [])
  else ([], t)

def take? (t : Text) : Option (Text × Text) :=
  match name? t with
  | none => none
  | some (name, rest) => some ('@' :: name ++ (takeArgument rest).1, (takeArgument rest).2)

theorem takeArgument_append (t : Text) : (takeArgument t).1 ++ (takeArgument t).2 = t := by
  unfold takeArgument
  split
  · split <;> simp
  · simp

theorem take?_eq_some {t mark rest : Text} (h : take? t = some (mark, rest)) :
    mark ≠ [] ∧ t = mark ++ rest := by
  unfold take? at h
  split at h
  · simp at h
  · next name r hn =>
    simp only [Option.some.injEq, Prod.mk.injEq] at h
    obtain ⟨rfl, rfl⟩ := h
    have := (name?_eq_some hn).2
    simp [this, takeArgument_append]

def takeAll (t : Text) : List Text × Text :=
  match _h : take? (stripStart t) with
  | none => ([], stripStart t)
  | some (mark, rest) =>
    let (marks, rest) := takeAll rest
    (mark :: marks, rest)
termination_by t.length
decreasing_by
  obtain ⟨hne, he⟩ := take?_eq_some _h
  have := List.length_pos_iff.2 hne
  have := length_stripStart_le t
  have := congrArg List.length he
  simp at this
  omega

def isAvailability (mark : Text) : Bool :=
  ("@available" : Text).isPrefixOf mark

/-- The availability attributes among `marks` as one text. -/
def availability (marks : List Text) : Option Text :=
  match marks.filter isAvailability with
  | [] => none
  | found => some (joinWith " " found)

end ViewCases.Attribute
