import ViewCases.Signature.Name
import ViewCases.Signature.Parameter

/-! The header of a function declaration: every character before its body, taken
apart by scans that respect brackets, so that type texts stay exactly as written.
Attributes are consumed whole, and the word `func` inside one is not the keyword. -/
namespace ViewCases
open Text ViewCases.Bracket

inductive Visibility
  | isPublic
  | isOpen
  | isPackage
  | isInternal
  | isFileprivate
  | isPrivate
  deriving DecidableEq, Repr

namespace Visibility

def all : List Visibility :=
  [.isPublic, .isOpen, .isPackage, .isInternal, .isFileprivate, .isPrivate]

def word : Visibility → Text
  | .isPublic => "public"
  | .isOpen => "open"
  | .isPackage => "package"
  | .isInternal => "internal"
  | .isFileprivate => "fileprivate"
  | .isPrivate => "private"

def ofWord? (w : Text) : Option Visibility :=
  all.find? fun v => v.word = w

def isExported (v : Visibility) : Bool :=
  v = .isPublic || v = .isOpen

end Visibility

structure FunctionHeader where
  name : Text
  visibility : Option Visibility
  parameters : List Parameter
  returnType : Text
  attributes : List Text
  genericParameters : List Text
  genericConstraints : List Text
  deriving DecidableEq, Repr

namespace FunctionHeader
open Signature

def isExported (h : FunctionHeader) : Bool :=
  h.visibility.any Visibility.isExported

def availability (h : FunctionHeader) : Option Text :=
  Attribute.availability h.attributes

/-- What stands before the keyword, and the text behind it. -/
structure Lead where
  attributes : List Text
  words : List Text
  rest : Text
  deriving DecidableEq, Repr

/-- A word of the lead ends at white space or at an at sign. -/
def isLeadWord (c : Char) : Bool :=
  !isBlank c && c != '@'

/-- The attributes and words before `func`, if the text has that keyword. A word
counts without an argument in parentheses, and an at sign that begins no attribute
counts for nothing. -/
def takeLead? : Text → Option Lead
  | [] => none
  | c :: cs =>
    if c = '@' then
      match _h : Attribute.take? (c :: cs) with
      | some (mark, rest) =>
        (takeLead? (stripStart rest)).map fun l => { l with attributes := mark :: l.attributes }
      | none => takeLead? (stripStart cs)
    else
      let word := c :: cs.takeWhile isLeadWord
      let rest := stripStart (cs.dropWhile isLeadWord)
      if word = "func" then some ⟨[], [], rest⟩
      else (takeLead? rest).map fun l => { l with words := word.takeWhile (· ≠ '(') :: l.words }
termination_by t => t.length
decreasing_by
  · obtain ⟨hne, he⟩ := Attribute.take?_eq_some _h
    have := List.length_pos_iff.2 hne
    have := length_stripStart_le rest
    have := congrArg List.length he
    simp at this ⊢
    omega
  · have := length_stripStart_le cs
    simp
    omega
  · have := length_stripStart_le (cs.dropWhile isLeadWord)
    have := length_dropWhile_le isLeadWord cs
    simp
    omega

/-- The function name at the start of the text, with or without backticks, and what
follows it. A name begins with an ASCII character. -/
def takeName? (t : Text) : Option (Text × Text) :=
  match (takeBacktick t).2 with
  | [] => none
  | c :: cs =>
    if isNameStart c then
      some (c :: cs.takeWhile isNamePart, (takeBacktick (cs.dropWhile isNamePart)).2)
    else none

/-- The text inside the bracket of kind `b` with which the text begins, and what
follows the closing bracket. -/
def takeBracketed? (b : Bracket) (t : Text) : Option (Text × Text) :=
  if t.head? = some b.opener then
    (b.partner? t).map fun close => ((t.take close).drop 1, t.drop (close + 1))
  else none

/-- The names of the generic clauses, and those clauses that constrain a name. -/
def genericClauses (t : Text) : List Text × List Text :=
  let clauses := splitTopLevel t
  (clauses.map fun clause => strip (clause.takeWhile (· ≠ ':')),
    clauses.filter fun clause => clause.contains ':')

/-- The text before and the text behind the first `word` that stands as a whole
word, given the character before the text. -/
def splitAtWord? (word : Text) (prev : Option Char) : Text → Option (Text × Text)
  | [] => none
  | c :: cs =>
    let here := match dropLead? word (c :: cs) with
      | some rest => if prev.any isWord || rest.head?.any isWord then none else some rest
      | none => none
    match here with
    | some rest => some ([], rest)
    | none => (splitAtWord? word (some c) cs).map fun (before, behind) => (c :: before, behind)

/-- The return type and the constraints behind the parameters. Without an arrow the
return type is `Void`. -/
def splitTail (t : Text) : Text × List Text :=
  let (result, constraints) := match splitAtWord? "where" none t with
    | some (before, behind) => (before, splitTopLevel behind)
    | none => (t, [])
  match findTopLevel ['-', '>'] result with
  | some arrow => (strip (result.drop (arrow + 2)), constraints)
  | none => ("Void", constraints)

def takeGenerics? (t : Text) : Option ((List Text × List Text) × Text) :=
  if t.head? = some '<' then
    (takeBracketed? .angle t).map fun (inner, rest) => (genericClauses inner, stripStart rest)
  else some (([], []), t)

/-- The header that the text of a declaration spells, if it is a named function with
a parameter list in parentheses whose clauses can all be read. -/
def parse? (header : Text) : Option FunctionHeader := do
  let lead ← takeLead? (strip header)
  let (name, rest) ← takeName? lead.rest
  let ((genericParameters, clauseConstraints), rest) ← takeGenerics? (stripStart rest)
  let (inner, tail) ← takeBracketed? .paren rest
  let parameters ← (splitTopLevel inner).mapM Parameter.ofClause?
  let (returnType, whereConstraints) := splitTail tail
  return {
    name, parameters, returnType, genericParameters
    visibility := lead.words.findSome? Visibility.ofWord?
    attributes := lead.attributes
    genericConstraints := (clauseConstraints ++ whereConstraints).filter fun c => !c.isEmpty }

end FunctionHeader
end ViewCases
