import ViewCases.Text.Casing

/-! Upper case forms of letters. They consist of word characters, except for the letters that
exist with their mark in lower case only: the form of such a letter is a plain letter with
combining marks behind it, and combining marks are no word characters. -/
namespace ViewCases.Text

/-- The letters whose upper case form has a combining mark. -/
def markedLetters : List Nat :=
  [0x1F0, 0x390, 0x3B0, 0x1E96, 0x1E97, 0x1E98, 0x1E99, 0x1F50, 0x1F52, 0x1F54, 0x1F56, 0x1FB6,
    0x1FB7, 0x1FC6, 0x1FC7, 0x1FD2, 0x1FD3, 0x1FD6, 0x1FD7, 0x1FE2, 0x1FE3, 0x1FE4, 0x1FE6, 0x1FE7,
    0x1FF6, 0x1FF7]

def covers (ranges : List (Nat × Nat)) (first last : Nat) : Bool :=
  ranges.any fun r => Nat.ble r.1 first && Nat.ble last r.2

def avoids (ranges : List (Nat × Nat)) (first last : Nat) : Bool :=
  ranges.all fun r => Nat.blt r.2 first || Nat.blt last r.1

theorem not_inRanges_of_avoids {ranges : List (Nat × Nat)} {first last : Nat}
    (h : avoids ranges first last = true) {c : Char} (low : first ≤ c.toNat)
    (high : c.toNat ≤ last) : inRanges ranges c = false := by
  apply List.any_eq_false.mpr
  intro r mem
  have apart := List.all_eq_true.mp h r mem
  simp only [Bool.or_eq_true, Nat.blt_eq] at apart
  simp only [Bool.and_eq_true, decide_eq_true_eq]
  omega

theorem letterRanges_bounds :
    ∀ r ∈ letterRanges, 128 ≤ r.1 ∧ (r.2 < 0xD800 ∨ 0xDFFF < r.1 ∧ r.2 < 0x110000) := by
  decide +kernel

theorem isWord_of_covers {first last : Nat} (h : covers letterRanges first last = true) {n : Nat}
    (low : first ≤ n) (high : n ≤ last) : isWord (Char.ofNat n) = true := by
  obtain ⟨r, mem, inside⟩ := List.any_eq_true.mp h
  simp only [Bool.and_eq_true, Nat.ble_eq] at inside
  obtain ⟨above, valid⟩ := letterRanges_bounds r mem
  have scalar : n.isValidChar := by
    unfold Nat.isValidChar
    omega
  have code : (Char.ofNat n).toNat = n := by
    rw [Char.ofNat, dif_pos scalar]
    rfl
  have held : inRanges letterRanges (Char.ofNat n) = true := by
    apply List.any_eq_true.mpr
    refine ⟨r, mem, ?_⟩
    simp only [code, Bool.and_eq_true, decide_eq_true_eq]
    omega
  rw [isWord, code, if_neg (by omega), held, Bool.true_or]

theorem upperShift_cases (n : Nat) (runs : List (Nat × Nat × Nat × Int)) :
    upperShift n runs = 0 ∨ ∃ first last step, (first, last, step, upperShift n runs) ∈ runs ∧
      first ≤ n ∧ n ≤ last ∧ (n - first) % step = 0 := by
  induction runs with
  | nil => exact .inl rfl
  | cons run runs ih =>
    obtain ⟨first, last, step, shift⟩ := run
    rw [upperShift]
    split
    · next inside => exact .inr ⟨first, last, step, List.mem_cons_self, inside⟩
    · rcases ih with none | ⟨first, last, step, mem, inside⟩
      · exact .inl none
      · exact .inr ⟨first, last, step, List.mem_cons_of_mem _ mem, inside⟩

/-- Where a run leads to: into the letters as a whole, or to a word character from each place, if
it has letters at all. -/
def leadsToWord : Nat × Nat × Nat × Int → Bool
  | (first, last, step, shift) =>
    covers letterRanges (Int.toNat (first + shift)) (Int.toNat (last + shift)) ||
      avoids letterRanges first last ||
      (List.range ((last - first) / step + 1)).all fun k =>
        isWord (Char.ofNat (Int.toNat ((first + step * k : Nat) + shift)))

theorem leadsToWord_upperRuns : ∀ run ∈ upperRuns, leadsToWord run = true ∧ 128 ≤ run.1 := by
  decide +kernel

theorem isWord_upperShift {c : Char} (letter : isLetter c = true) :
    isWord (Char.ofNat (Int.toNat (c.toNat + upperShift c.toNat upperRuns))) = true := by
  rcases upperShift_cases c.toNat upperRuns with none | ⟨first, last, step, mem, low, high, even⟩
  · rw [none, Int.add_zero, Int.toNat_natCast, Char.ofNat_toNat]
    exact isWord_of_isLetter letter
  · generalize upperShift c.toNat upperRuns = shift at mem
    obtain ⟨leads, above⟩ := leadsToWord_upperRuns _ mem
    simp only [leadsToWord, Bool.or_eq_true] at leads
    rcases leads with (held | foreign) | each
    · exact isWord_of_covers held (by omega) (by omega)
    · rw [isLetter, if_neg (by omega), not_inRanges_of_avoids foreign low high] at letter
      cases letter
    · have place : first + step * ((c.toNat - first) / step) = c.toNat := by
        have := Nat.mul_div_cancel' (Nat.dvd_of_mod_eq_zero even)
        omega
      have inside : (c.toNat - first) / step ∈ List.range ((last - first) / step + 1) :=
        List.mem_range.mpr (Nat.lt_succ_of_le (Nat.div_le_div_right (by omega)))
      have word := List.all_eq_true.mp each _ inside
      rwa [place] at word

theorem upperChar_ascii : ∀ n < 128, isLetter (Char.ofNat n) = true →
    ∀ d ∈ upperChar (Char.ofNat n), isWord d = true := by
  decide +kernel

theorem upperExpansions_word : ∀ e ∈ upperExpansions,
    (∀ n ∈ e.2, isWord (Char.ofNat n) = true) ↔ e.1 ∉ markedLetters := by
  decide +kernel

theorem markedLetters_expanded :
    ∀ n ∈ markedLetters, 128 ≤ n ∧ (upperExpansions.find? (·.1 == n)).isSome = true := by
  decide +kernel

/-- The upper case form of a letter consists of word characters exactly if the letter is none of
those that lose their mark. -/
theorem isWord_upperChar_iff {c : Char} (letter : isLetter c = true) :
    (∀ d ∈ upperChar c, isWord d = true) ↔ c.toNat ∉ markedLetters := by
  by_cases ascii : c.toNat < 128
  · have plain := upperChar_ascii c.toNat ascii
    rw [Char.ofNat_toNat] at plain
    refine iff_of_true (plain letter) fun mem => ?_
    have := (markedLetters_expanded _ mem).1
    omega
  · rw [upperChar, if_neg ascii]
    cases expanded : upperExpansions.find? (·.1 == c.toNat) with
    | none =>
      refine iff_of_true ?_ fun mem => ?_
      · exact List.forall_mem_singleton.mpr (isWord_upperShift letter)
      · have := (markedLetters_expanded _ mem).2
        rw [expanded] at this
        cases this
    | some e =>
      have key : e.1 = c.toNat := by simpa using List.find?_some expanded
      have word := upperExpansions_word e (List.mem_of_find?_eq_some expanded)
      rw [key] at word
      rw [← word]
      exact List.forall_mem_map

end ViewCases.Text
