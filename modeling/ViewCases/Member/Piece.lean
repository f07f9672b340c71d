import ViewCases.Signature.Name
import ViewCases.Text.Blank

/-! The pieces of a declaration body. Comments, string literals, directive lines and
words are one piece each; the pieces in order are the text, whatever the text is. A
line that begins with a number sign is a directive outside brackets only. -/
namespace ViewCases
open Text Signature

inductive Piece
  | comment (text : Text)
  | literal (text : Text)
  | directive (text : Text)
  | opening (c : Char)
  | closing (c : Char)
  | mark (text : Text)
  | word (name backtick : Text)
  | other (c : Char)
  deriving DecidableEq, Repr

namespace Piece

def text : Piece → Text
  | .comment t | .literal t | .directive t | .mark t => t
  | .word name backtick => name ++ backtick
  | .opening c | .closing c | .other c => [c]

/-- What belongs to a block comment whose start has been read, and what follows it.
Block comments do not nest here. -/
def throughBlockEnd : Text → Text × Text
  | [] => ([], [])
  | '*' :: '/' :: rest => (['*', '/'], rest)
  | c :: cs =>
    let (inside, rest) := throughBlockEnd cs
    (c :: inside, rest)

/-- What belongs to a string literal whose opening quote has been read, and what
follows it. A backslash takes the next character with it. -/
def throughQuote (quote : Text) : Text → Text × Text
  | [] => ([], [])
  | '\\' :: c :: cs =>
    let (inside, rest) := throughQuote quote cs
    ('\\' :: c :: inside, rest)
  | c :: cs =>
    match dropLead? quote (c :: cs) with
    | some rest => (quote, rest)
    | none =>
      let (inside, rest) := throughQuote quote cs
      (c :: inside, rest)

/-- The string literal at the start of the text `'"' :: cs`. -/
def takeLiteral (cs : Text) : Text × Text :=
  let quote : Text := match cs with
    | '"' :: '"' :: _ => ['"', '"', '"']
    | _ => ['"']
  let (inside, rest) := throughQuote quote (cs.drop (quote.length - 1))
  (quote ++ inside, rest)

def takeWord (c : Char) (cs : Text) : Piece × Text :=
  if isNameStart c then
    let (backtick, rest) := takeBacktick (cs.dropWhile isNamePart)
    (.word (c :: cs.takeWhile isNamePart) backtick, rest)
  else (.word [c] [], cs)

/-- The piece at the start of the text `c :: cs`, and what follows it. `fresh` says
that only white space stands before it on its line. -/
def next (depth : Nat) (fresh : Bool) (c : Char) (cs : Text) : Piece × Text :=
  if c = '/' ∧ cs.head? = some '/' then
    (.comment (c :: cs.takeWhile (· ≠ '\n')), cs.dropWhile (· ≠ '\n'))
  else if c = '/' ∧ cs.head? = some '*' then
    let (inside, rest) := throughBlockEnd cs.tail
    (.comment ('/' :: '*' :: inside), rest)
  else if c = '"' then
    (.literal (takeLiteral cs).1, (takeLiteral cs).2)
  else if c = '#' ∧ depth = 0 ∧ fresh then
    (.directive (c :: cs.takeWhile (· ≠ '\n')), cs.dropWhile (· ≠ '\n'))
  else if c = '(' ∨ c = '[' ∨ c = '\x7b' then (.opening c, cs)
  else if c = ')' ∨ c = ']' ∨ c = '\x7d' then (.closing c, cs)
  else if c = '@' then (.mark ('@' :: cs.takeWhile isWord), cs.dropWhile isWord)
  else if isLetter c ∨ c = '_' then takeWord c cs
  else (.other c, cs)

/-- The bracket depth behind a piece. It never falls below zero. -/
def depthAfter (depth : Nat) : Piece → Nat
  | .opening _ => depth + 1
  | .closing _ => depth - 1
  | _ => depth

/-- Whether only white space stands behind the last newline. -/
def freshAfter (fresh : Bool) (t : Text) : Bool :=
  t.foldl (fun f c => if c = '\n' then true else f && isBlank c) fresh

theorem throughBlockEnd_append (t : Text) : (throughBlockEnd t).1 ++ (throughBlockEnd t).2 = t := by
  fun_induction throughBlockEnd t <;> simp_all

theorem throughQuote_append (quote t : Text) :
    (throughQuote quote t).1 ++ (throughQuote quote t).2 = t := by
  fun_induction throughQuote quote t with
  | case1 => rfl
  | case2 => simp_all
  | case3 c cs _ rest h => simp [eq_append_of_dropLead? h]
  | case4 => simp_all

theorem takeLiteral_append (cs : Text) : (takeLiteral cs).1 ++ (takeLiteral cs).2 = '"' :: cs := by
  unfold takeLiteral
  split <;> simp [throughQuote_append]

theorem takeLiteral_fst_ne_nil (cs : Text) : (takeLiteral cs).1 ≠ [] := by
  unfold takeLiteral
  split <;> simp

theorem next_append (depth : Nat) (fresh : Bool) (c : Char) (cs : Text) :
    (next depth fresh c cs).1.text ++ (next depth fresh c cs).2 = c :: cs := by
  unfold next
  split
  · simp [text, List.takeWhile_append_dropWhile]
  split
  · next h =>
    obtain ⟨rfl, h⟩ := h
    cases cs with
    | nil => simp at h
    | cons d ds =>
      simp at h
      simp [text, throughBlockEnd_append, h]
  split
  · next h => simp [text, takeLiteral_append, h]
  split
  · simp [text, List.takeWhile_append_dropWhile]
  split
  · simp [text]
  split
  · simp [text]
  split
  · next h => simp [text, h, List.takeWhile_append_dropWhile]
  split
  · unfold takeWord
    split
    · simp [text, takeBacktick_append, List.takeWhile_append_dropWhile]
    · simp [text]
  · simp [text]

theorem text_next_ne_nil (depth : Nat) (fresh : Bool) (c : Char) (cs : Text) :
    (next depth fresh c cs).1.text ≠ [] := by
  unfold next takeWord
  repeat' split
  all_goals simp [text, takeLiteral_fst_ne_nil]

theorem length_next (depth : Nat) (fresh : Bool) (c : Char) (cs : Text) :
    (next depth fresh c cs).2.length < (c :: cs).length := by
  have := congrArg List.length (next_append depth fresh c cs)
  have := List.length_pos_iff.2 (text_next_ne_nil depth fresh c cs)
  simp at *
  omega

/-- The pieces of a text that begins at bracket depth `depth`. -/
def scan (depth : Nat) (fresh : Bool) : Text → List Piece
  | [] => []
  | c :: cs =>
    match _h : next depth fresh c cs with
    | (p, rest) => p :: scan (depthAfter depth p) (freshAfter fresh p.text) rest
termination_by t => t.length
decreasing_by simpa [_h] using length_next depth fresh c cs

end Piece
end ViewCases
