import ViewCases.CommandLine.Flag
import ViewCases.Text.Digit

/-! The meaning of an argument list. A long flag may be cut short where that names one
flag only; short flags may stand together; a value may follow behind an equals sign,
or directly behind a short flag. The last value given for a flag counts. -/
namespace ViewCases.CommandLine
open Text

/-- What one argument is. In `flag`, `short` tells that its name has one hyphen, and
`value` is what follows the name in the same argument. -/
inductive Argument
  | plain
  | unknown
  | flag (flag : Flag) (short : Bool) (value : Option Text)
  deriving DecidableEq, Repr

namespace Argument

def isShort (name : Text) : Bool :=
  name[1]? != some '-'

/-- The text before the first equals sign, and the text behind it if there is one. -/
def splitEquals (t : Text) : Text × Option Text :=
  match t.dropWhile (· ≠ '=') with
  | _ :: value => (t.takeWhile (· ≠ '='), some value)
  | [] => (t, none)

def candidates (t : Text) : List (Text × Argument) :=
  if isShort t then
    (Flag.table.filter fun e => e.1 = t.take 2).map fun e =>
      (e.1, .flag e.2 true (some (t.drop 2)))
  else
    let (lead, value) := splitEquals t
    (Flag.table.filter fun e => lead.isPrefixOf e.1).map fun e =>
      (e.1, .flag e.2 (isShort e.1) value)

/-- Whether the text is a negative number: digits of any script, or a point with digits
behind it. One newline may follow. -/
def isNegativeNumber (t : Text) : Bool :=
  let t := if t.getLast? = some '\n' then t.dropLast else t
  match t with
  | '-' :: number =>
    let whole := number.takeWhile isDecimal
    match number.dropWhile isDecimal with
    | [] => !whole.isEmpty
    | '.' :: places => !places.isEmpty && places.all isDecimal
    | _ => false
  | _ => false

/-- What an argument is that begins with a hyphen and is no full spelling of a flag. -/
def ofOther (t : Text) : Except UsageError Argument :=
  match candidates t with
  | [e] => .ok e.2
  | [] => .ok (if isNegativeNumber t || t.contains ' ' then .plain else .unknown)
  | several => .error (.ambiguous t (several.map (·.1)))

def ofText (t : Text) : Except UsageError Argument :=
  if t.head? ≠ some '-' then .ok .plain
  else match Flag.ofName? t with
  | some f => .ok (.flag f (isShort t) none)
  | none =>
    if t.length = 1 then .ok .plain
    else match splitEquals t with
    | (name, some value) =>
      match Flag.ofName? name with
      | some f => .ok (.flag f (isShort name) (some value))
      | none => ofOther t
    | (_, none) => ofOther t

/-- The arguments with what they are. A double hyphen and all that follows it are
neither flags nor values. -/
def classify : List Text → Except UsageError (List (Text × Argument))
  | [] => .ok []
  | t :: ts =>
    if t = ['-', '-'] then .ok ((t :: ts).map (·, .unknown))
    else do
      let a ← ofText t
      let rest ← classify ts
      return (t, a) :: rest

end Argument

/-- Flags that stand in one argument, the last one with its value if it has one there;
and the flag that expects its value in the next argument. -/
structure Cluster where
  flags : List (Flag × Text)
  expectsValue : Option Flag := none
  deriving DecidableEq, Repr

namespace Cluster

def cons (f : Flag) (c : Cluster) : Cluster :=
  { c with flags := (f, []) :: c.flags }

def single (f : Flag) : Cluster :=
  if f.takesValue then ⟨[], some f⟩ else ⟨[(f, [])], none⟩

/-- The flags that begin with the short or long flag `f`, which a text follows. The text
is its value, or else it begins with a further short flag. An equals sign among short flags is no
sign of a value here but a part of it: `-vi=x` gives the value `=x`, and a letter that is no
flag is refused at once. -/
def ofValue (f : Flag) (short : Bool) : Text → Except UsageError Cluster
  | [] => if f.takesValue then .ok ⟨[(f, [])], none⟩ else .error (.takesNoValue f [])
  | c :: cs =>
    if f.takesValue then .ok ⟨[(f, c :: cs)], none⟩
    else if !short then .error (.takesNoValue f (c :: cs))
    else match Flag.ofName? ['-', c] with
    | none => .error (.takesNoValue f (c :: cs))
    | some g => cons f <$> if cs.isEmpty then .ok (single g) else ofValue g true cs

/-- The flags in one argument. -/
def ofFlag (f : Flag) (short : Bool) : Option Text → Except UsageError Cluster
  | some value => ofValue f short value
  | none => .ok (single f)

end Cluster

structure Arguments where
  input : Option Text := none
  output : Option Text := none
  config : Option Text := none
  clean : Bool := false
  verbose : Bool := false
  unrecognized : List Text := []
  deriving DecidableEq, Repr

inductive Request
  | run (input : Text) (arguments : Arguments)
  | help
  | version
  deriving DecidableEq, Repr

namespace Arguments

/-- The arguments with one flag more, or the request that it is. -/
def set (a : Arguments) (f : Flag) (value : Text) : Request ⊕ Arguments :=
  match f with
  | .help => .inl .help
  | .version => .inl .version
  | .input => .inr { a with input := some value }
  | .output => .inr { a with output := some value }
  | .config => .inr { a with config := some value }
  | .clean => .inr { a with clean := true }
  | .verbose => .inr { a with verbose := true }

def setAll (a : Arguments) : List (Flag × Text) → Request ⊕ Arguments
  | [] => .inr a
  | (f, value) :: rest =>
    match a.set f value with
    | .inl request => .inl request
    | .inr a => setAll a rest

def reject (t : Text) (a : Arguments) : Arguments :=
  { a with unrecognized := a.unrecognized ++ [t] }

/-- The request behind the last argument. -/
def finish (a : Arguments) : Except UsageError Request :=
  match a.input with
  | none => .error .inputMissing
  | some input =>
    if a.unrecognized.isEmpty then .ok (.run input a) else .error (.unrecognized a.unrecognized)

/-- The request of the arguments that are left. A value is taken from the next argument
only if that is plain. -/
def read (a : Arguments) : List (Text × Argument) → Except UsageError Request
  | [] => a.finish
  | (_, .flag f short value) :: rest => do
    let c ← Cluster.ofFlag f short value
    match c.expectsValue, rest with
    | none, rest =>
      match a.setAll c.flags with
      | .inl request => return request
      | .inr a => a.read rest
    | some g, (t, .plain) :: rest =>
      match a.setAll (c.flags ++ [(g, t)]) with
      | .inl request => return request
      | .inr a => a.read rest
    | some g, _ => .error (.expectsValue g)
  | (t, _) :: rest => (a.reject t).read rest

/-- What the argument list asks for. -/
def parse (ts : List Text) : Except UsageError Request := do
  Arguments.read {} (← Argument.classify ts)

end Arguments
end ViewCases.CommandLine
