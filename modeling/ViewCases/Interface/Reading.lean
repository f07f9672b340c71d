import ViewCases.FileTree.Basic
import ViewCases.Interface.Basic
import ViewCases.Interface.ExtensionHeader
import ViewCases.Interface.Language
import ViewCases.Source.Swift.Parser

/-! The modifiers of an interface: the exported functions of the extensions of View. An
extension in which something is not well-formed is read as text, every other one function by
function. -/
namespace ViewCases
open Text Source Swift

structure Interface where
  filePath : Text
  language : Language
  lineCount : Nat
  modifiers : List Modifier
  issues : List Issue
  deriving DecidableEq, Repr

inductive InterfaceFault
  | unsupportedLanguage (name : Text)
  | missingFile (path : Text)
  | notUtf8 (path : Text) (fault : Utf8.Fault)
  | notOneSource
  deriving DecidableEq, Repr

def InterfaceFault.message : InterfaceFault → Text
  | .unsupportedLanguage name =>
    "Unsupported language: " ++ name ++ ". Supported: [" ++
      joinWith ", " (Language.all.map fun l => quoted l.name) ++ "]"
  | .missingFile path => "Interface file not found: " ++ path
  | .notUtf8 path fault => path ++ " is not UTF-8 text: " ++ fault.message
  | .notOneSource => "Provide exactly one of file_path or source"

namespace Interface

/-- What the functions among the members of a body give. `comments` are the comments right before
the first member. -/
def ofMembers (filePath : Text) (source : Parsed) : List Text → List Outline → Findings
  | _, [] => {}
  | comments, o :: rest =>
    if isComment o then ofMembers filePath source (comments ++ [source.textOf o]) rest
    else if isFunction o then
      (Findings.ofHeader filePath (source.header o (functionBody? o)) (DocComment.text? comments)
        (o.part.start.rows + 1)).append (ofMembers filePath source [] rest)
    else ofMembers filePath source [] rest

/-- What an extension of View gives, its own availability included. -/
def ofExtension (filePath : Text) (source : Parsed) (header : Text) (body : Outline) : Findings :=
  let found :=
    if body.part.isFaulty then
      Findings.ofBody filePath body.part.start.rows (source.textOf body)
    else ofMembers filePath source [] body.children
  found.withAvailability (ExtensionHeader.availability header)

/-- What a declaration of a type gives; only extensions of View have modifiers. -/
def ofDeclaration (filePath : Text) (source : Parsed) (o : Outline) : Findings :=
  match typeBody? o with
  | none => {}
  | some body =>
    let header := source.header o (some body)
    if ExtensionHeader.extendsView header then ofExtension filePath source header body else {}

/-- The issue of a source that is not well-formed. -/
def malformed (filePath : Text) (root : Outline) : List Issue :=
  if root.part.isFaulty then
    [⟨filePath, (root.firstFault.getD root.part).start.rows + 1, .malformedSource⟩]
  else []

/-- A last line counts with or without its newline. -/
def countLines (source : Text) : Nat :=
  countNewlines source +
    if source.isEmpty || source.getLast? = some '\n' then 0 else 1

def unnamed : Text := "<source>"

variable [Outliner]

def ofSource (language : Language) (filePath source : Text) : Interface :=
  let parsed := Outliner.outline source
  let found := (typeDeclarations parsed.root).map (ofDeclaration filePath parsed)
  { filePath, language
    lineCount := countLines source
    modifiers := found.flatMap (·.modifiers)
    issues := malformed filePath parsed.root ++ found.flatMap (·.issues) }

def languageNamed (name : Text) : Except InterfaceFault Language :=
  match Language.ofName? name with
  | some l => .ok l
  | none => .error (.unsupportedLanguage name)

/-- The interface that a text holds, in the language named, or else in that of its
path. -/
def read (language : Option Text) (filePath source : Text) : Except InterfaceFault Interface := do
  let l ← match language with
    | none => pure (Language.ofPath filePath)
    | some name => languageNamed name
  return ofSource l filePath source

/-- A path as seen from a project's root. -/
def relativePath (root path : Text) : Text :=
  match dropLead? root path with
  | some rest => if root.isEmpty then path else rest.dropWhile (· = '/')
  | none => path

def ofFile (tree : FileTree) (root path : Text) : Except InterfaceFault Interface :=
  match tree.contentAt? path with
  | none => .error (.missingFile path)
  | some content =>
    match FileTree.textOf content with
    | .error fault => .error (.notUtf8 path fault)
    | .ok source => .ok (ofSource (.ofPath path) (relativePath root path) source)

/-- The modifiers in the file or in the source; exactly one of them must be given. -/
def modifiersOf (tree : FileTree) (path source : Option Text) :
    Except InterfaceFault (List Modifier) :=
  match path, source with
  | some p, none => (ofFile tree [] p).map (·.modifiers)
  | none, some s => .ok (ofSource .swift unnamed s).modifiers
  | _, _ => .error .notOneSource

end Interface
end ViewCases
