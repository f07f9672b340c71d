import ViewCases.Attribute

/-! The header of an extension: every character before its body. -/
namespace ViewCases.ExtensionHeader
open Text

/-- The text without the blanks at its start, of which there must be one. -/
def skipBlanks? (t : Text) : Option Text :=
  if t.head?.any isBlank then some (stripStart t) else none

def isTypeNameChar (c : Char) : Bool :=
  isWord c || c == '.'

/-- The type name behind the keyword with which the text begins. -/
def namedType? (t : Text) : Option Text := do
  let rest ← skipBlanks? (← dropLead? "extension" t)
  let name := rest.takeWhile isTypeNameChar
  if name.isEmpty then none else some name

/-- The text behind an argument in parentheses, if one begins here. The argument ends
at the first closing parenthesis. -/
def skipArgument (t : Text) : Text :=
  match t with
  | '(' :: rest =>
    match rest.dropWhile (· ≠ ')') with
    | _ :: behind => behind
    | [] => t
  | _ => t

/-- The text behind the attribute or word with which it begins and the blanks that
follow. -/
def skipItem? (t : Text) : Option Text :=
  match Attribute.name? t with
  | some (_, rest) => skipBlanks? (skipArgument rest)
  | none =>
    if (t.takeWhile isWord).isEmpty then none else skipBlanks? (t.dropWhile isWord)

theorem length_skipBlanks? {t rest : Text} (h : skipBlanks? t = some rest) :
    rest.length ≤ t.length := by
  unfold skipBlanks? at h
  split at h
  · simp only [Option.some.injEq] at h
    exact h ▸ length_stripStart_le t
  · simp at h

theorem length_skipArgument (t : Text) : (skipArgument t).length ≤ t.length := by
  unfold skipArgument
  split
  · next rest =>
    split
    · next d behind he =>
      have := length_dropWhile_le (fun c => decide (c ≠ ')')) rest
      rw [he] at this
      simp at this ⊢
      omega
    · simp
  · simp

theorem length_skipItem? {t rest : Text} (h : skipItem? t = some rest) :
    rest.length < t.length := by
  unfold skipItem? at h
  split at h
  · next name r hn =>
    have h1 := length_skipBlanks? h
    have h2 := length_skipArgument r
    rw [(Attribute.name?_eq_some hn).2]
    simp
    omega
  · split at h
    · simp at h
    · next hne =>
      have h1 := length_skipBlanks? h
      have h2 := List.length_pos_iff.2 (show t.takeWhile isWord ≠ [] by simpa using hne)
      have h3 := congrArg List.length (List.takeWhile_append_dropWhile (p := isWord) (l := t))
      rw [List.length_append] at h3
      omega

/-- The type behind the first keyword that only attributes and words precede. -/
def typeFrom? (t : Text) : Option Text :=
  match namedType? t with
  | some name => some name
  | none =>
    match _h : skipItem? t with
    | some rest => typeFrom? rest
    | none => none
termination_by t.length
decreasing_by exact length_skipItem? _h

def extendedType? (header : Text) : Option Text :=
  typeFrom? (strip header)

/-- The availability that the extension states for its members. -/
def availability (header : Text) : Option Text :=
  Attribute.availability (Attribute.takeAll header).1

/-- The names under which extensions extend View. -/
def receiverNames : List Text := ["View", "SwiftUI.View"]

def extendsView (header : Text) : Bool :=
  (extendedType? header).any receiverNames.contains

end ViewCases.ExtensionHeader
