import ViewCases.Text.Casing

/-! Names in generated code: the case name that a modifier name yields, the
escaping of reserved words, and the names that can name a type. -/
namespace ViewCases.Identifier
open Text

def declarationWords : List Text :=
  ["associatedtype", "class", "deinit", "enum", "extension", "fileprivate", "func", "import",
    "init", "inout", "internal", "let", "open", "operator", "private", "precedencegroup",
    "protocol", "public", "rethrows", "static", "struct", "subscript", "typealias", "var"]

def statementWords : List Text :=
  ["break", "case", "catch", "continue", "default", "defer", "do", "else", "fallthrough",
    "for", "guard", "if", "in", "repeat", "return", "throw", "switch", "where", "while", "as",
    "false", "is", "nil", "self", "Self", "super", "throws", "true", "try", "Any"]

/-- The words that need escaping as names. -/
def reservedWords : List Text :=
  declarationWords ++ statementWords

/-- The word for a character that cannot start a name. -/
def leadWord (c : Char) : Text :=
  if isDigit c then "digit" ++ [c]
  else if c = '_' then "underscore"
  else if c = '$' then "dollar"
  else "symbol"

/-- Every character that is no word character becomes the low line. -/
def sanitize (t : Text) : Text :=
  t.map fun c => if isWord c then c else '_'

/-- The case name for a modifier name. Each character before the first letter
becomes a word; the first word keeps its lower case and what follows is
capitalised. The empty name has a name of its own. -/
def variantTag (name : Text) : Text :=
  let rest := sanitize (name.dropWhile (!isLetter ·))
  match (name.takeWhile (!isLetter ·)).map leadWord with
  | [] => if rest.isEmpty then "unnamed" else rest
  | first :: others => first ++ others.flatMap capitalize ++ capitalize rest

/-- A reserved word in backticks, any other name as it is. -/
def escape (name : Text) : Text :=
  if reservedWords.contains name then "`" ++ name ++ "`" else name

def isValidTypeName : Text → Bool
  | [] => false
  | c :: cs => (isLetter c || c == '_') && (c :: cs).all isWord

end ViewCases.Identifier
