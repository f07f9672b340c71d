import ViewCases.Proofs.Attribute
import ViewCases.Proofs.Member.Settling
import ViewCases.Proofs.Signature.Lead

/-! The lead of a member as the header scan reads it: the attributes and the modifier words
that were written, in their order. -/
namespace ViewCases.Member
open Text Signature ViewCases.Bracket FunctionHeader

section
variable (prev : Option Char) (n pos : Nat) (cs : Text)

theorem partnerFrom_open : partnerFrom .paren prev n pos ('(' :: cs) =
    partnerFrom .paren (some '(') (n + 1) (pos + 1) cs := by
  simp [partnerFrom, opener]

theorem partnerFrom_close (h : 0 < n) : partnerFrom .paren prev (n + 1) pos (')' :: cs) =
    partnerFrom .paren (some ')') n (pos + 1) cs := by
  have deeper : n ≠ 0 := by omega
  simp [partnerFrom, opener, closes, closer, arrowHead, deeper]

theorem partnerFrom_other {c : Char} (opens : c ≠ '(') (shuts : c ≠ ')') :
    partnerFrom .paren prev n pos (c :: cs) = partnerFrom .paren (some c) n (pos + 1) cs := by
  simp [partnerFrom, opener, closes, closer, opens, shuts]

end

theorem partnerFrom_nesting {stack stack' : List Bracket} {u : Text}
    (nests : nesting stack u = some stack') (noQuote : '"' ∉ u) {k : Nat} (inside : 0 < k)
    (prev : Option Char) (pos : Nat) (t : Text) :
    partnerFrom .paren prev (k + stack.count .paren) pos (u ++ t) =
      partnerFrom .paren (lastOf prev u) (k + stack'.count .paren) (pos + u.length) t := by
  induction u generalizing stack prev pos with
  | nil =>
    cases nests
    rfl
  | cons c cs ih =>
    have later := fun {inner : List Bracket} (h : nesting inner cs = some stack') =>
      ih h (mt (List.mem_cons_of_mem _) noQuote) (some c) (pos + 1)
    have place : pos + (c :: cs).length = pos + 1 + cs.length := by
      simp only [List.length_cons]
      omega
    rw [place, lastOf, List.cons_append]
    have plain : c ≠ '"' := fun eq => noQuote (eq ▸ List.mem_cons_self)
    rcases block_cases plain with ⟨b, mem, rfl⟩ | ⟨b, mem, rfl⟩ | inert
    · -- The stack counts every bracket and the scan only parentheses.
      rw [nesting_opener mem] at nests
      rw [← later nests]
      by_cases paren : b = .paren
      · subst paren
        rw [List.count_cons_self, ← Nat.add_assoc]
        exact partnerFrom_open _ _ _ _
      · rw [List.count_cons_of_ne paren]
        exact partnerFrom_other _ _ _ _ (by revert paren; cases b <;> decide) (by cases b <;> decide)
    · rw [nesting_closer mem] at nests
      cases stack with
      | nil => simp at nests
      | cons e rest =>
        by_cases same : e = b
        · simp only [List.head?_cons, same, if_true, List.tail_cons] at nests
          subst same
          rw [← later nests]
          by_cases paren : e = .paren
          · subst paren
            rw [List.count_cons_self, ← Nat.add_assoc]
            exact partnerFrom_close _ _ _ _ (by omega)
          · rw [List.count_cons_of_ne paren]
            exact partnerFrom_other _ _ _ _ (by cases e <;> decide)
              (by revert paren; cases e <;> decide)
        · simp [same] at nests
    · rw [nesting_inert inert] at nests
      rw [← later nests]
      have mem : Bracket.paren ∈ blocks := by simp [blocks]
      exact partnerFrom_other _ _ _ _ (inert.noOpener _ mem) (inert.noCloser _ mem)

theorem partner?_interior {a : Text} (h : Interior a) (t : Text) :
    partner? .paren ('(' :: a ++ ')' :: t) = some (a.length + 1) := by
  have passed := partnerFrom_nesting h.nests h.noQuote (k := 1) (by decide) (some '(') 1
    (')' :: t)
  rw [partner?, List.cons_append, partnerFrom_open]
  refine passed.trans ?_
  simp [partnerFrom, opener, closes, closer, arrowHead, Nat.add_comm]

def LeadPart.mark? : LeadPart → Option Text
  | .mark word argument => some (write (.mark word argument))
  | .modifier _ => none

def LeadPart.word? : LeadPart → Option Text
  | .mark _ _ => none
  | .modifier word => some word

namespace Written

def words (m : Written) : List Text := m.lead.filterMap (·.1.word?)

def marks (m : Written) : List Text := m.lead.filterMap (·.1.mark?)

end Written

theorem take?_mark {word : Text} {argument : Option Text} (h : (LeadPart.mark word argument).Legible)
    {gap t : Text} (ne : gap ≠ []) (blank : Blank gap) :
    Attribute.take? ((LeadPart.mark word argument).write ++ (gap ++ t)) =
      some ((LeadPart.mark word argument).write, gap ++ t) := by
  obtain ⟨text, interior⟩ := h
  cases gap with
  | nil => exact absurd rfl ne
  | cons d ds =>
    have stop : isWord d = false := not_isWord_of_isBlank (blank d List.mem_cons_self)
    have noParen : d ≠ '(' := by
      rintro rfl
      exact absurd (blank '(' List.mem_cons_self) (by decide)
    cases argument with
    | none => exact Attribute.take?_word text stop noParen (ds ++ t)
    | some a => exact Attribute.take?_argument text (partner?_interior (interior a rfl) _)

theorem takeLead?_writeLead {lead : List (LeadPart × Text)} (parts : ∀ x ∈ lead, x.1.Legible)
    (gaps : ∀ x ∈ lead, x.2 ≠ [] ∧ Blank x.2) {t : Text}
    (start : ∀ c, t.head? = some c → isBlank c = false) :
    takeLead? (Written.writeLead lead ++ t) = (takeLead? t).map fun l =>
      { l with
        attributes := lead.filterMap (·.1.mark?) ++ l.attributes
        words := lead.filterMap (·.1.word?) ++ l.words } := by
  induction lead with
  | nil => simp [Written.writeLead]
  | cons x xs ih =>
    obtain ⟨part, gap⟩ := x
    obtain ⟨legible, partsLater⟩ := List.forall_mem_cons.mp parts
    obtain ⟨⟨ne, blank⟩, gapsLater⟩ := List.forall_mem_cons.mp gaps
    have split : Written.writeLead ((part, gap) :: xs) ++ t =
        part.write ++ (gap ++ (Written.writeLead xs ++ t)) := by simp [Written.writeLead]
    have begins := lead_head partsLater start
    have others := ih partsLater gapsLater
    rw [split]
    cases part with
    | mark word argument =>
      have taken := take?_mark legible (t := Written.writeLead xs ++ t) ne blank
      obtain ⟨cs, write⟩ : ∃ cs, (LeadPart.mark word argument).write = '@' :: cs := by
        cases argument <;> exact ⟨_, rfl⟩
      rw [write, List.cons_append] at taken
      rw [write, List.cons_append, takeLead?_mark taken, stripStart_gap blank begins, others,
        Option.map_map, ← write]
      rfl
    | modifier w =>
      have known : w ∈ modifierWords := legible
      have notKeyword : w ≠ "func" := fun eq => func_not_mem_modifierWords (eq ▸ known)
      have read := takeLead?_spaced (wordText_of_modifierWords w known) ne blank begins
      rw [if_neg notKeyword, others] at read
      rw [LeadPart.write, read, Option.map_map]
      rfl

namespace Written

/-- A function whose name stands apart from its keyword. -/
structure IsFunction (m : Written) : Prop where
  keyword : m.keyword = "func"
  spaced : m.tail.head?.any isBlank = true

instance : DecidablePred IsFunction := fun _ =>
  decidable_of_iff (_ ∧ _) ⟨fun h => ⟨h.1, h.2⟩, fun h => ⟨h.keyword, h.spaced⟩⟩

theorem takeLead?_header {m : Written} (settles : m.Settles) (h : m.IsFunction) :
    takeLead? m.header = some ⟨m.marks, m.words, stripStart m.tail⟩ := by
  have word : WordText "func" := by decide
  have begins : ∀ c, (m.keyword ++ m.tail).head? = some c → isBlank c = false := by
    rw [h.keyword]
    rintro c ⟨⟩
    decide
  have gapped : m.tail = m.tail.takeWhile isBlank ++ stripStart m.tail :=
    List.takeWhile_append_dropWhile.symm
  have ne : m.tail.takeWhile isBlank ≠ [] := by
    obtain ⟨c, head, blank⟩ := (Option.any_eq_true _ _).mp h.spaced
    cases tail : m.tail with
    | nil => simp [tail] at head
    | cons d ds =>
      rw [tail] at head
      cases head
      simp [blank]
  have blank : Blank (m.tail.takeWhile isBlank) := fun c hc =>
    List.all_eq_true.mp List.all_takeWhile c hc
  have read := takeLead?_spaced word ne blank (head_stripStart m.tail)
  rw [if_pos rfl, ← gapped, ← h.keyword] at read
  rw [header, takeLead?_writeLead settles.parts settles.gaps begins, read]
  simp [marks, words]

theorem visibility_of_parse? {m : Written} (settles : m.Settles) (h : m.IsFunction)
    {f : FunctionHeader} (read : parse? m.header = some f) :
    f.visibility = m.words.findSome? Visibility.ofWord? := by
  rw [parse?, strip_of_trimmed settles.trimmed, takeLead?_header settles h] at read
  simp only [Option.bind_eq_bind, Option.bind_some, Option.bind_eq_some_iff] at read
  obtain ⟨_, _, _, _, _, _, _, _, eq⟩ := read
  cases eq
  rfl

theorem exported_words {m : Written} (settles : m.Settles) (h : m.IsFunction)
    {f : FunctionHeader} (read : parse? m.header = some f) (exported : f.isExported = true) :
    ("public" : Text) ∈ m.words ∨ ("open" : Text) ∈ m.words := by
  obtain ⟨v, visible, isExported⟩ := (Option.any_eq_true _ _).mp exported
  rw [visibility_of_parse? settles h read] at visible
  obtain ⟨w, mem, named⟩ := List.exists_of_findSome?_eq_some visible
  have word : v.word = w := by simpa [Visibility.ofWord?] using List.find?_some named
  rw [← word] at mem
  cases v with
  | isPublic => exact .inl mem
  | isOpen => exact .inr mem
  | isPackage | isInternal | isFileprivate | isPrivate => cases isExported

end Written

end ViewCases.Member
