import ViewCases.Text.Blank

/-! Documentation out of the comments before a declaration. Lines with three slashes
and blocks with two stars document; any other comment discards what stands before
it. -/
namespace ViewCases.DocComment
open Text

/-- The lines of a documenting block without the stars in front of them; empty lines
are left out. -/
def blockLines (comment : Text) : List Text :=
  let behind := comment.drop 3
  let body := if endsWith comment "*/" then behind.dropLast.dropLast else behind
  ((lines body).map fun line => strip ((strip line).dropWhile (· = '*'))).filter
    fun line => !line.isEmpty

/-- The lines collected so far, after one more comment. -/
def collect (found : List Text) (comment : Text) : List Text :=
  let c := strip comment
  if ("///" : Text).isPrefixOf c then found ++ [strip (c.drop 3)]
  else if ("/**" : Text).isPrefixOf c then found ++ blockLines c
  else []

/-- The documentation text, if the comments hold any line of it. -/
def text? (comments : List Text) : Option Text :=
  match comments.foldl collect [] with
  | [] => none
  | found => some (joinWith "\n" found)

end ViewCases.DocComment
