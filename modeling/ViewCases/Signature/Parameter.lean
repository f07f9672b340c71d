import ViewCases.Attribute
import ViewCases.Modifier

/-! One parameter clause of a declaration: attributes, one or two names, a colon,
a type and perhaps a default value. A single name is label and name at once, and
the low line in front of a name means that there is no label. -/
namespace ViewCases.Parameter
open Text ViewCases.Bracket

def bareName (t : Text) : Text :=
  ((t.dropWhile (· = '`')).reverse.dropWhile (· = '`')).reverse

/-- The clause before its default value, and that value trimmed. -/
def splitDefault (clause : Text) : Text × Option Text :=
  match findTopLevel ['='] clause with
  | none => (clause, none)
  | some i => (clause.take i, some (strip (clause.drop (i + 1))))

def splitNames (t : Text) : Option (Option Text × Text) :=
  match ((words (Attribute.takeAll t).2).map bareName) with
  | [] => none
  | [name] => some (some name, name)
  | label :: name :: _ => some (if label = ['_'] then none else some label, name)

/-- The parameter that a clause declares. There is none without a colon, without a
name or without a type. -/
def ofClause? (clause : Text) : Option Parameter :=
  let (declaration, default) := splitDefault clause
  match findTopLevel [':'] declaration with
  | none => none
  | some colon =>
    match splitNames (declaration.take colon), strip (declaration.drop (colon + 1)) with
    | none, _ => none
    | some _, [] => none
    | some (label, name), type => some {
        label, name, type
        hasDefault := default.isSome
        defaultValue := default.filter fun value => !value.isEmpty }

end ViewCases.Parameter
