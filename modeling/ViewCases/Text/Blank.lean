import ViewCases.Text.Basic

/-! White space of all scripts, trimming, words and lines. The zero width space
U+200B and the byte order mark U+FEFF are not white space. -/
namespace ViewCases.Text

def isBlank (c : Char) : Bool :=
  let n := c.toNat
  (9 ≤ n && n ≤ 13) || (28 ≤ n && n ≤ 32) || n == 0x85 || n == 0xA0 || n == 0x1680 ||
    (0x2000 ≤ n && n ≤ 0x200A) || n == 0x2028 || n == 0x2029 || n == 0x202F ||
    n == 0x205F || n == 0x3000

/-- The characters at which a line ends. -/
def isLineBreak (c : Char) : Bool :=
  let n := c.toNat
  (10 ≤ n && n ≤ 13) || (28 ≤ n && n ≤ 30) || n == 0x85 || n == 0x2028 || n == 0x2029

def stripStart (t : Text) : Text :=
  t.dropWhile isBlank

def stripEnd (t : Text) : Text :=
  (t.reverse.dropWhile isBlank).reverse

def strip (t : Text) : Text :=
  stripEnd (stripStart t)

/-- The maximal runs of characters that are not white space. -/
def words (t : Text) : List Text :=
  (splitBy isBlank t).filter fun w => !w.isEmpty

/-- Carriage returns, alone or before a newline, become newlines. -/
def unifyNewlines : Text → Text
  | [] => []
  | '\r' :: '\n' :: rest => '\n' :: unifyNewlines rest
  | c :: rest => (if c = '\r' then '\n' else c) :: unifyNewlines rest

/-- The lines of a text without their ends; the end of the last line opens no
further one. -/
def lines (t : Text) : List Text :=
  let parts := splitBy isLineBreak (unifyNewlines t)
  if parts.getLast? = some [] then parts.dropLast else parts

theorem length_dropWhile_le (p : Char → Bool) (t : Text) :
    (t.dropWhile p).length ≤ t.length :=
  (List.dropWhile_suffix p).length_le

theorem length_stripStart_le (t : Text) : (stripStart t).length ≤ t.length :=
  length_dropWhile_le _ _

theorem length_stripEnd_le (t : Text) : (stripEnd t).length ≤ t.length := by
  have := length_dropWhile_le isBlank t.reverse
  simpa [stripEnd] using this

theorem length_strip_le (t : Text) : (strip t).length ≤ t.length :=
  Nat.le_trans (length_stripEnd_le _) (length_stripStart_le _)

/-- Trimmed text begins with no white space. -/
theorem head_stripStart_not_blank {t : Text} {c : Char} {rest : Text}
    (h : stripStart t = c :: rest) : isBlank c = false := by
  induction t with
  | nil => simp [stripStart] at h
  | cons d ds ih =>
    by_cases hd : isBlank d = true
    · simp only [stripStart, List.dropWhile_cons, hd, if_true] at h
      exact ih h
    · simp only [stripStart, List.dropWhile_cons, hd] at h
      simp at h
      simpa [h.1] using hd

end ViewCases.Text
