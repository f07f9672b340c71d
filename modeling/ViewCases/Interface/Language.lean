import ViewCases.Text.Casing

/-! The language of an interface, by name or by the extension of its file. -/
namespace ViewCases
open Text

inductive Language
  | swift
  deriving DecidableEq, Repr

namespace Language

def all : List Language := [.swift]

def name : Language → Text
  | .swift => "swift"

def extensions : Language → List Text
  | .swift => [".swift", ".swiftinterface"]

/-- The extension of a file name: the last point and what follows it, unless only
points stand before it. -/
def extensionOf (path : Text) : Text :=
  let name := (path.reverse.takeWhile (· ≠ '/')).reverse
  let stem := name.dropWhile (· = '.')
  if stem.contains '.' then '.' :: (stem.reverse.takeWhile (· ≠ '.')).reverse else []

/-- The language of a file by its extension, without regard to case. -/
def ofPath? (path : Text) : Option Language :=
  all.find? fun l => l.extensions.contains (Text.lower (extensionOf path))

def ofName? (name : Text) : Option Language :=
  all.find? fun l => l.name = name

/-- Files whose extension says nothing are read as Swift. -/
def ofPath (path : Text) : Language :=
  (ofPath? path).getD .swift

end Language

end ViewCases
