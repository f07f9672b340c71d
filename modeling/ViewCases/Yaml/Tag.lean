import ViewCases.Text.Basic

/-! The tags of YAML 1.1 for plain data, and the tag of a plain scalar by its text:
`yes` and `off` are truth values, `0x10` and `1_000` are integers, and `1:30` counts in
sixties. -/
namespace ViewCases.Yaml

/-- What a node is. A node of any other tag than these has no plain value. -/
inductive Tag
  | null
  | bool
  | int
  | real
  | moment
  | bytes
  | text
  | list
  | map
  | set
  | orderedMap
  | pairs
  | merge
  | default
  | other
  deriving DecidableEq, Repr

namespace Tag

/-- The names of the tags behind their common beginning. -/
def names : List (Text × Tag) :=
  [("null", .null), ("bool", .bool), ("int", .int), ("float", .real), ("timestamp", .moment),
    ("binary", .bytes), ("str", .text), ("seq", .list), ("map", .map), ("set", .set),
    ("omap", .orderedMap), ("pairs", .pairs), ("merge", .merge), ("value", .default)]

def lead : Text := "tag:yaml.org,2002:"

def ofName (name : Text) : Tag :=
  ((Text.dropLead? lead name).bind fun rest => names.lookup rest).getD .other

def isDec (c : Char) : Bool := '0' ≤ c && c ≤ '9'
def isDecOrGap (c : Char) : Bool := isDec c || c == '_'
def isHexOrGap (c : Char) : Bool := isDecOrGap c || ('a' ≤ c && c ≤ 'f') || ('A' ≤ c && c ≤ 'F')

def unsigned : Text → Text
  | '-' :: t | '+' :: t => t
  | t => t

def isRun (p : Char → Bool) (t : Text) : Bool :=
  !t.isEmpty && t.all p

/-- One or two digits below sixty. -/
def isSixtieth : Text → Bool
  | [a] => isDec a
  | [a, b] => '0' ≤ a && a ≤ '5' && isDec b
  | _ => false

def isInt (t : Text) : Bool :=
  match unsigned t with
  | '0' :: 'b' :: rest => isRun (fun c => c == '0' || c == '1' || c == '_') rest
  | '0' :: 'x' :: rest => isRun isHexOrGap rest
  | ['0'] => true
  | '0' :: rest => isRun (fun c => ('0' ≤ c && c ≤ '7') || c == '_') rest
  | c :: rest =>
    match Text.splitBy (· = ':') rest with
    | [] => false
    | whole :: parts => '1' ≤ c && c ≤ '9' && whole.all isDecOrGap && parts.all isSixtieth
  | [] => false

def isExponent : Text → Bool
  | [] => true
  | e :: sign :: digits =>
    (e == 'e' || e == 'E') && (sign == '-' || sign == '+') && isRun isDec digits
  | _ => false

def isReal (t : Text) : Bool :=
  let body := unsigned t
  let special : Bool :=
    ([".inf", ".Inf", ".INF"] : List Text).contains body ||
      ([".nan", ".NaN", ".NAN"] : List Text).contains t
  let pointed : Bool := match body with
    | c :: rest =>
      let behind := rest.dropWhile isDecOrGap
      match behind with
      | '.' :: places => isDec c && isExponent (places.dropWhile isDecOrGap)
      | _ => false
    | [] => false
  let leading : Bool := match t with
    | '.' :: c :: rest => isDec c && isExponent (rest.dropWhile isDecOrGap)
    | _ => false
  let sixties : Bool := match body with
    | c :: rest =>
      match Text.splitBy (· = ':') rest with
      | whole :: part :: parts =>
        let final := (part :: parts).getLast (by simp)
        let places := final.dropWhile (· ≠ '.')
        isDec c && whole.all isDecOrGap && (part :: parts).dropLast.all isSixtieth &&
          isSixtieth (final.takeWhile (· ≠ '.')) && !places.isEmpty && places.tail.all isDecOrGap
      | _ => false
    | [] => false
  special || pointed || leading || sixties

/-- A number of `least` to `most` digits and the text behind it. -/
def takeDigits? (least most : Nat) (t : Text) : Option (Text × Text) :=
  let digits := (t.take most).takeWhile isDec
  if digits.length < least then none else some (digits, t.drop digits.length)

/-- Whether the text is a date of full width, or a date of any width with a time. -/
def isMoment (t : Text) : Bool :=
  isDate t || isTime t
where
  isGap (c : Char) : Bool := c == ' ' || c == '\t'
  take? (least most : Nat) (next : Char) (t : Text) : Option Text :=
    match takeDigits? least most t with
    | some (_, c :: rest) => if c = next then some rest else none
    | _ => none
  isZone (t : Text) : Bool :=
    t.isEmpty || match t.dropWhile isGap with
    | ['Z'] => true
    | sign :: rest =>
      (sign == '-' || sign == '+') && match takeDigits? 1 2 rest with
        | some (_, []) => true
        | some (_, ':' :: minutes) => minutes.length = 2 && minutes.all isDec
        | _ => false
    | [] => false
  isClock (t : Text) : Bool :=
    match ((take? 1 2 ':' t).bind (take? 2 2 ':' ·)).bind (takeDigits? 2 2 ·) with
    | some (_, '.' :: rest) => isZone (rest.dropWhile isDec)
    | some (_, rest) => isZone rest
    | none => false
  isDate (t : Text) : Bool :=
    ((take? 4 4 '-' t).bind (take? 2 2 '-' ·)).any fun day => day.length = 2 && day.all isDec
  isTime (t : Text) : Bool :=
    match ((take? 4 4 '-' t).bind (take? 1 2 '-' ·)).bind (takeDigits? 1 2 ·) with
    | some (_, c :: rest) =>
      if c = 'T' ∨ c = 't' then isClock rest else isGap c && isClock (rest.dropWhile isGap)
    | _ => false

def nullTexts : List Text := ["~", "null", "Null", "NULL"]

def boolTexts : List Text :=
  ["yes", "Yes", "YES", "no", "No", "NO", "true", "True", "TRUE", "false", "False", "FALSE",
    "on", "On", "ON", "off", "Off", "OFF"]

def ofLine (t : Text) : Tag :=
  if nullTexts.contains t then .null
  else if boolTexts.contains t then .bool
  else if isReal t then .real
  else if isInt t then .int
  else if isMoment t then .moment
  else if t = "<<" then .merge
  else if t = "=" then .default
  else if ([['!'], ['&'], ['*']] : List Text).contains t then .other
  else .text

/-- The tag of a scalar whose text decides. A newline at the end counts for nothing,
but a text without anything else is a text. -/
def ofPlain (t : Text) : Tag :=
  if t.isEmpty then .null
  else if t.getLast? = some '\n' then ofLine t.dropLast
  else ofLine t

end Tag
end ViewCases.Yaml
