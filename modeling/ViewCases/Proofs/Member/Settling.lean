import ViewCases.Proofs.Member.Header

/-! Tails that settle. A word that may stand before a keyword is taken for the lead of the
next member, also where it is a name or part of a type, and the next ordinary word takes
this back. A tail settles if there is nothing to take back at its end. -/
namespace ViewCases.Member
open Text Signature ViewCases.Bracket

structure Lone (c : Char) : Prop where
  apart : c ∉ ("/\"#([\x7b)]\x7d@_" : Text)
  noLetter : isLetter c = false

instance : DecidablePred Lone := fun _ =>
  decidable_of_iff (_ ∧ _) ⟨fun h => ⟨h.1, h.2⟩, fun h => ⟨h.apart, h.noLetter⟩⟩

/-- What may follow a keyword up to the body without leaving a lead behind; `waits` tells
whether one is open at the start. -/
inductive Settling : (waits : Bool) → Text → Prop
  | nil : Settling false []
  | lone (c : Char) {waits : Bool} {t : Text} : Lone c → Settling waits t →
      Settling waits (c :: t)
  | name (w : Text) {waits : Bool} {t : Text} : IsName w → w ∉ declarationWords →
      w ∉ modifierWords → Stops t → Settling false t → Settling waits (w ++ t)
  | modifier (w : Text) {waits : Bool} {t : Text} : w ∈ modifierWords → Stops t →
      Settling true t → Settling waits (w ++ t)
  | mark (w : Text) {waits : Bool} {t : Text} : WordText w → Stops t → Settling true t →
      Settling waits ('@' :: w ++ t)
  | group (b : Bracket) (u : Text) {waits : Bool} {t : Text} : b = .paren ∨ b = .square →
      Interior u → Settling waits t → Settling waits (b.opener :: u ++ b.closer :: t)

theorem stops_append {t rest : Text} (h : Stops t) (behind : Stops rest) : Stops (t ++ rest) := by
  cases t with
  | nil => exact behind
  | cons c cs => exact fun d hd => h d hd

def Reading.settle (r : Reading) : Reading := { r with leadStart := none }

theorem Reading.settle_of_none {r : Reading} (h : r.leadStart = none) : r.settle = r := by
  rw [settle, ← h]

theorem readWord_name {source : Text} {pos : Nat} {w : Text} {r : Reading}
    (h : w ∉ declarationWords) (h' : w ∉ modifierWords) : r.readWord source pos w = r.settle := by
  have no : declarationWords.contains w = false := by simpa using h
  have no' : modifierWords.contains w = false := by simpa using h'
  simp only [Reading.readWord, no, no']
  rfl

theorem leads_settling (source : Text) {waits : Bool} {t : Text} (h : Settling waits t)
    {r : Reading} (flat : r.depth = 0) (lead : waits = false → r.leadStart = none) {rest : Text}
    (stops : Stops rest) (pos : Nat) : Leads source pos r r.settle t rest := by
  induction h generalizing r pos with
  | nil =>
    rw [Reading.settle_of_none (lead rfl)]
    exact .nil _ _ _ _
  | lone c other _ ih =>
    exact (leads_other source other.apart other.noLetter pos _).append (ih flat lead _)
  | name w word notKeyword notModifier stop _ ih =>
    have first := leads_name source flat word (stops_append stop stops) pos
    rw [readWord_name notKeyword notModifier] at first
    exact first.append (ih (r := r.settle) flat (fun _ => rfl) _)
  | modifier w known stop _ ih =>
    obtain ⟨start, chars⟩ := isIdentifier_of_known w (List.mem_append_right _ known)
    have first := leads_identifier source flat ⟨start, chars⟩ (stops_append stop stops) pos
    rw [readWord_modifier known] at first
    exact first.append (ih (r := r.startLead pos) flat nofun _)
  | mark w word stop _ ih =>
    have ends : ∀ c, (_ ++ rest).head? = some c → isWord c = false := fun c hc => by
      have := (stops_append stop stops c hc).1
      simp only [isNamePart, Bool.or_eq_false_iff] at this
      exact this.1
    have first := leads_mark source flat word ends pos
    exact first.append (ih (r := r.startLead pos) flat nofun _)
  | group b u kind inside _ ih =>
    rename_i t _
    have split : b.opener :: u ++ b.closer :: t = (b.opener :: u ++ [b.closer]) ++ t := by simp
    rw [split]
    exact (leads_group source kind inside pos (t ++ rest)).append (ih flat lead _)

namespace Written

structure Settles (m : Written) : Prop where
  parts : ∀ x ∈ m.lead, x.1.Legible
  gaps : ∀ x ∈ m.lead, x.2 ≠ [] ∧ Blank x.2
  keyword : m.keyword ∈ declarationWords
  tail : Settling false m.tail
  tailStart : Stops m.tail
  tailEnd : ∀ c, m.tail.getLast? = some c → isBlank c = false
  body : ∀ gap inside, m.body = some (gap, inside) → Blank gap ∧ Interior inside

theorem Settles.trimmed {m : Written} (h : m.Settles) : Trimmed m.header :=
  trimmed_written h.parts h.keyword h.tailEnd

theorem Settles.leads {m : Written} (h : m.Settles) (source : Text) {r : Reading}
    (flat : r.depth = 0) (lead : r.leadStart = none) {rest : Text} (stops : Stops rest)
    (pos : Nat) : Leads source pos r (r.start source pos m.keyword) m.header rest := by
  have tail := leads_settling source h.tail (r := r.start source pos m.keyword)
    (by rw [Reading.start_depth, flat]) (fun _ => rfl) stops
  rw [Reading.settle_of_none rfl] at tail
  rw [header, ← List.append_assoc]
  exact (leads_front source flat lead h.parts h.gaps h.keyword
    (stops_append h.tailStart stops) pos).append (tail _)

end Written

end ViewCases.Member
