/-! Text as a list of characters, so that scanners are structural recursions and
positions are counts of code points. String literals stand for their characters. -/
namespace ViewCases

abbrev Text := List Char

instance : Coe String Text := ⟨String.toList⟩

namespace Text

/-- The parts with `sep` between neighbours. -/
def joinWith (sep : Text) : List Text → Text
  | [] => []
  | [t] => t
  | t :: u :: rest => t ++ sep ++ joinWith sep (u :: rest)

/-- The runs between the characters that satisfy `p`; there is always one. -/
def splitBy (p : Char → Bool) : Text → List Text
  | [] => [[]]
  | c :: cs =>
    if p c then [] :: splitBy p cs
    else match splitBy p cs with
      | [] => [[c]]
      | run :: runs => (c :: run) :: runs

def slice (t : Text) (start stop : Nat) : Text :=
  (t.take stop).drop start

def endsWith (t suffix : Text) : Bool :=
  suffix.isSuffixOf t

/-- The rest of the text behind `lead`, if the text begins with it. -/
def dropLead? : Text → Text → Option Text
  | [], t => some t
  | _ :: _, [] => none
  | p :: ps, c :: cs => if p = c then dropLead? ps cs else none

/-- Whether the first text is the second one or comes before it, by code points. -/
def atMost : Text → Text → Bool
  | [], _ => true
  | _ :: _, [] => false
  | a :: as, b :: bs => a.toNat < b.toNat || (a = b && atMost as bs)

def countNewlines (t : Text) : Nat :=
  t.count '\n'

def decimal (n : Nat) : Text :=
  Nat.toDigits 10 n

def integer (n : Int) : Text :=
  if n < 0 then '-' :: decimal n.natAbs else decimal n.natAbs

theorem joinWith_cons_cons (sep t u : Text) (rest : List Text) :
    joinWith sep (t :: u :: rest) = t ++ sep ++ joinWith sep (u :: rest) := rfl

theorem dropLead?_append (lead t : Text) : dropLead? lead (lead ++ t) = some t := by
  induction lead with
  | nil => cases t <;> rfl
  | cons p ps ih => simp [dropLead?, ih]

theorem eq_append_of_dropLead? {lead t rest : Text} (h : dropLead? lead t = some rest) :
    t = lead ++ rest := by
  induction lead generalizing t with
  | nil => simp [dropLead?] at h; simp [h]
  | cons p ps ih =>
    cases t with
    | nil => simp [dropLead?] at h
    | cons c cs =>
      unfold dropLead? at h
      split at h
      · next hp => simp [hp, ih h]
      · simp at h

end Text
end ViewCases
