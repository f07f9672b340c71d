import ViewCases.Member.Basic
import ViewCases.Proofs.Text.Word

/-! The scan of what stands before `func`, one step at a time. -/
namespace ViewCases.FunctionHeader
open Text Signature

theorem takeLead?_mark {cs mark rest : Text} (h : Attribute.take? ('@' :: cs) = some (mark, rest)) :
    takeLead? ('@' :: cs) = (takeLead? (stripStart rest)).map fun l =>
      { l with attributes := mark :: l.attributes } := by
  rw [takeLead?, if_pos rfl]
  split
  · next mark' rest' found =>
    rw [h] at found
    cases found
    rfl
  · next none =>
    rw [h] at none
    cases none

theorem takeLead?_noMark {cs : Text} (h : Attribute.take? ('@' :: cs) = none) :
    takeLead? ('@' :: cs) = takeLead? (stripStart cs) := by
  rw [takeLead?, if_pos rfl]
  split
  · next mark rest found =>
    rw [h] at found
    cases found
  · rfl

theorem takeLead?_word {c : Char} (noMark : c ≠ '@') (cs : Text) :
    takeLead? (c :: cs) =
      let word := c :: cs.takeWhile isLeadWord
      let rest := stripStart (cs.dropWhile isLeadWord)
      if word = "func" then some ⟨[], [], rest⟩
      else (takeLead? rest).map fun l => { l with words := word.takeWhile (· ≠ '(') :: l.words } := by
  rw [takeLead?, if_neg noMark]

theorem wordText_of_modifierWords : ∀ w ∈ Member.modifierWords, WordText w := by decide

theorem func_not_mem_modifierWords : ("func" : Text) ∉ Member.modifierWords := by decide

theorem isLeadWord_of_isWord {c : Char} (h : isWord c = true) : isLeadWord c = true := by
  have notAt : c ≠ '@' := ne_of_isWord h (by decide)
  simp [isLeadWord, not_isBlank_of_isWord h, notAt]

theorem stripStart_gap {gap t : Text} (blank : Blank gap)
    (start : ∀ c, t.head? = some c → isBlank c = false) : stripStart (gap ++ t) = t :=
  (stripStart_append blank t).trans (stripStart_of_head start)

theorem takeLead?_spaced {w gap rest : Text} (h : WordText w) (ne : gap ≠ []) (blank : Blank gap)
    (start : ∀ c, rest.head? = some c → isBlank c = false) :
    takeLead? (w ++ (gap ++ rest)) =
      if w = "func" then some ⟨[], [], rest⟩
      else (takeLead? rest).map fun l => { l with words := w :: l.words } := by
  obtain ⟨c, cs, rfl, hc⟩ := h.head_isWord
  have notAt : c ≠ '@' := ne_of_isWord hc (by decide)
  have chars : ∀ d ∈ cs, isLeadWord d = true := fun d hd =>
    isLeadWord_of_isWord (h.chars d (List.mem_cons_of_mem _ hd))
  have cut : (cs ++ (gap ++ rest)).takeWhile isLeadWord = cs ∧
      (cs ++ (gap ++ rest)).dropWhile isLeadWord = gap ++ rest := by
    cases gap with
    | nil => exact absurd rfl ne
    | cons d ds =>
      have stop : isLeadWord d = false := by
        simp [isLeadWord, blank d List.mem_cons_self]
      exact takeWhile_append_cons stop chars _
  have whole : (c :: cs).takeWhile (· ≠ '(') = c :: cs :=
    (takeWhile_of_all fun d hd => by
      simpa using ne_of_isWord (h.chars d hd) (show isWord '(' = false by decide)).1
  rw [List.cons_append, takeLead?_word notAt]
  simp only [cut.1, cut.2, stripStart_gap blank start, whole]

end ViewCases.FunctionHeader
