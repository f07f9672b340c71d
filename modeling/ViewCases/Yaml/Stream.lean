import ViewCases.Text.Blank
import ViewCases.Yaml.Fault

/-! A file as a reader of YAML gets it. Bytes are fetched in pieces and characters are taken in
pages, each when the first character of the page is asked for. A piece that is no UTF-8 and a
character that no YAML text may hold count from there on, and not before. -/
namespace ViewCases.Yaml
open Text

/-- Characters that a YAML text may hold. -/
def isAllowed (c : Char) : Bool :=
  let n := c.toNat
  n == 9 || n == 10 || n == 13 || (0x20 ≤ n && n ≤ 0x7E) || n == 0x85 ||
    (0xA0 ≤ n && n ≤ 0xFFFD) || 0x10000 ≤ n

structure TextFile where
  bytes : List UInt8
  /-- The first bytes of a character whose other bytes were not fetched. -/
  begun : List UInt8 := []
  /-- Whether a carriage return was fetched last. -/
  atReturn : Bool := false
  /-- Characters that were fetched and not taken. -/
  ready : Text := []
  ended : Bool := false
  /-- The numbers of bytes and of characters in the last piece. -/
  lastBytes : Nat := 0
  lastChars : Nat := 0

namespace TextFile

/-- The number of bytes to fetch where `count` more characters are wanted. The last piece tells
how many bytes a character takes. -/
def pieceSize (f : TextFile) (count : Nat) : Nat :=
  max 8192 (if f.lastChars = 0 then count else count * max f.lastBytes f.lastChars / f.lastChars)

/-- Whether the bytes are only at fault for want of more bytes. Two bytes that begin half of a
pair of surrogates are held to be so. -/
def isBegun (bytes : List UInt8) (fault : Utf8.Fault) : Bool :=
  match fault.reason, bytes.drop fault.start with
  | .truncated, _ => true
  | .badContinuation, [a, b] => a = 0xED && 0xA0 ≤ b && b ≤ 0xBF
  | _, _ => false

/-- The characters that bytes spell, and the first bytes of one more. At the end of a file there
may be none of those. -/
def spell (atEnd : Bool) (bytes : List UInt8) : Except Utf8.Fault (Text × List UInt8) :=
  match Utf8.decode bytes with
  | .ok t => .ok (t, [])
  | .error fault =>
    if !atEnd && isBegun bytes fault then
      (·, bytes.drop fault.start) <$> Utf8.decode (bytes.take fault.start)
    else .error fault

/-- Fetches one piece; an empty one is the end of the file. -/
def fetch (f : TextFile) (count : Nat) : Except Utf8.Fault TextFile := do
  let size := f.pieceSize count
  let piece := f.bytes.take size
  let ended := piece.isEmpty
  let (t, begun) ← spell ended (f.begun ++ piece)
  let goesOn := f.atReturn && (ended || !t.isEmpty)
  let t := if goesOn then '\r' :: t else t
  let atReturn := !ended && t.getLast? = some '\r'
  let lines := unifyNewlines (if atReturn then t.dropLast else t)
  return {
    bytes := f.bytes.drop size
    begun, ended
    atReturn := atReturn || (f.atReturn && !goesOn)
    ready := f.ready ++ lines
    lastBytes := piece.length
    lastChars := lines.length }

/-- Takes `count` characters, or all if there are no more. -/
def take (count : Nat) : Nat → TextFile → Except Utf8.Fault (Text × TextFile)
  | 0, f => .ok (f.ready, { f with ready := [] })
  | fuel + 1, f =>
    if count ≤ f.ready.length || f.ended then
      .ok (f.ready.take count, { f with ready := f.ready.drop count })
    else do take count fuel (← f.fetch (count - f.ready.length))

def pageSize : Nat := 4096

def takePages : Nat → TextFile → Except Utf8.Fault (Text × TextFile)
  | 0, f => .ok ([], f)
  | n + 1, f => do
    let (page, f) ← f.take pageSize (f.bytes.length + 2)
    let (pages, f) ← takePages n f
    return (page ++ pages, f)

end TextFile

/-- What can be had of a file: its characters up to the first page that cannot be had, and what
is wrong with that page. -/
structure Stream where
  text : Text := []
  fault? : Option LoadFault := none

namespace Stream

/-- Two pages are taken before the first character is looked at, then one at a time. -/
def ofFile (pages : Nat) : Nat → TextFile → Stream
  | 0, _ => {}
  | fuel + 1, file =>
    match file.takePages pages with
    | .error fault => { fault? := some (.notUtf8 fault) }
    | .ok ([], _) => {}
    | .ok (text, file) =>
      if text.all isAllowed then
        let later := ofFile 1 fuel file
        { later with text := text ++ later.text }
      else { fault? := some (.unusable .unreadable) }

def ofBytes (content : List UInt8) : Stream :=
  ofFile 2 (content.length + 1) { bytes := content }

/-- What comes of a reading that stops. -/
def faultOf (s : Stream) : Stop → LoadFault
  | .fault fault => .unusable fault
  | .cut => s.fault?.getD (.unusable .unreadable)

end Stream
end ViewCases.Yaml
