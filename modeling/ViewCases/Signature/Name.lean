import ViewCases.Text.Property

/-! The characters of declared names. A name begins with an ASCII letter, the low
line or the dollar sign; letters of other scripts may follow. -/
namespace ViewCases.Signature
open Text

def isNameStart (c : Char) : Bool :=
  isAsciiLetter c || c == '_' || c == '$'

def isNamePart (c : Char) : Bool :=
  isWord c || c == '$'

/-- A backtick at the start of the text, if there is one, and what follows it. -/
def takeBacktick : Text → Text × Text
  | '`' :: rest => (['`'], rest)
  | t => ([], t)

theorem takeBacktick_append (t : Text) : (takeBacktick t).1 ++ (takeBacktick t).2 = t := by
  unfold takeBacktick
  split <;> rfl

end ViewCases.Signature
