import ViewCases.Member.Piece
import ViewCases.Signature.Header

/-! Members of a declaration body whose text is all there is. Most members of an
interface have no body of their own, so a member ends where its braces close or
where the next declaration keyword starts; attributes and modifier words before a
keyword belong to the member it starts. A directive line ends a member and is
otherwise passed over. -/
namespace ViewCases
open Text

/-- A member: its keyword, its text up to its body, the position of its first
character, and the comments before it. -/
structure Member where
  keyword : Text
  header : Text
  offset : Nat
  comments : List Text
  deriving DecidableEq, Repr

namespace Member

def declarationWords : List Text :=
  ["func", "var", "let", "init", "deinit", "subscript", "typealias", "associatedtype",
    "struct", "enum", "protocol", "actor", "extension", "macro"]

def modifierWords : List Text :=
  let others : List Text := ["static", "class", "final", "override", "nonisolated", "mutating", "nonmutating", "dynamic",
    "optional", "required", "convenience", "lazy", "weak", "unowned", "indirect", "prefix",
    "postfix", "infix", "isolated", "consuming", "borrowing"]
  Visibility.all.map Visibility.word ++ others

/-- A member whose end has not been reached; `bodyStart` is where its body opens. -/
structure Started where
  keyword : Text
  offset : Nat
  comments : List Text
  bodyStart : Option Nat
  deriving DecidableEq, Repr

/-- The state of the reading: what is finished, the comments that wait for a member,
the member under way, and where the attributes and modifier words began that wait
for a keyword. -/
structure Reading where
  members : List Member := []
  comments : List Text := []
  current : Option Started := none
  leadStart : Option Nat := none
  depth : Nat := 0
  deriving DecidableEq, Repr

namespace Reading

/-- Ends the member under way at `stop`, or where its body opened. -/
def close (source : Text) (stop : Nat) (r : Reading) : Reading :=
  match r.current with
  | none => r
  | some m =>
    let header := strip (slice source m.offset (m.bodyStart.getD stop))
    { r with
      members := r.members ++ [⟨m.keyword, header, m.offset, m.comments⟩]
      current := none }

def openBody (pos : Nat) (r : Reading) : Reading :=
  match r.current with
  | some m => if m.bodyStart.isNone then { r with current := some { m with bodyStart := pos } } else r
  | none => r

def inBody (r : Reading) : Bool :=
  r.current.any (·.bodyStart.isSome)

def startLead (pos : Nat) (r : Reading) : Reading :=
  { r with leadStart := some (r.leadStart.getD pos) }

/-- A word outside all brackets: a keyword starts a member, a modifier word may
belong to the next one, and any other word belongs to none. -/
def readWord (source : Text) (pos : Nat) (word : Text) (r : Reading) : Reading :=
  if declarationWords.contains word then
    let start := r.leadStart.getD pos
    { r.close source start with
      current := some ⟨word, start, r.comments, none⟩
      comments := []
      leadStart := none }
  else if modifierWords.contains word then r.startLead pos
  else { r with leadStart := none }

/-- The state behind the piece `p` that begins at `pos`. -/
def step (source : Text) (pos : Nat) (r : Reading) : Piece → Reading
  | .comment t => if r.depth = 0 then { r with comments := r.comments ++ [t] } else r
  | .directive _ => { r.close source pos with leadStart := none }
  | .opening c =>
    let r := if c = '\x7b' ∧ r.depth = 0 then r.openBody pos else r
    { r with depth := r.depth + 1 }
  | .closing c =>
    let r := { r with depth := r.depth - 1 }
    if c = '\x7d' ∧ r.depth = 0 ∧ r.inBody then r.close source (pos + 1) else r
  | .mark _ => if r.depth = 0 then r.startLead pos else r
  | .word name _ => if r.depth = 0 then r.readWord source pos name else r
  | .literal _ | .other _ => r

/-- The state behind all pieces, and the position there. -/
def run (source : Text) (pos : Nat) (r : Reading) : List Piece → Reading
  | [] => r.close source pos
  | p :: ps => run source (pos + p.text.length) (r.step source pos p) ps

end Reading

/-- The members of a body text, in order. -/
def split (t : Text) : List Member :=
  (Reading.run t 0 {} (Piece.scan 0 true t)).members

end Member
end ViewCases
