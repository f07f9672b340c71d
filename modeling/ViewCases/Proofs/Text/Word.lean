import ViewCases.Proofs.Text.Trim
import ViewCases.Text.Property

/-! Words. A text of word characters has no white space in it and is taken whole by each
scan that stops at a character of another class. -/
namespace ViewCases.Text

def blankCodes : List Nat :=
  [9, 10, 11, 12, 13, 28, 29, 30, 31, 32, 0x85, 0xA0, 0x1680, 0x2000, 0x2001, 0x2002, 0x2003,
    0x2004, 0x2005, 0x2006, 0x2007, 0x2008, 0x2009, 0x200A, 0x2028, 0x2029, 0x202F, 0x205F, 0x3000]

theorem mem_blankCodes {c : Char} (h : isBlank c = true) : c.toNat ∈ blankCodes := by
  have ranges : blankCodes = List.range' 9 5 ++ List.range' 28 5 ++ [0x85, 0xA0, 0x1680] ++
      List.range' 0x2000 11 ++ [0x2028, 0x2029, 0x202F, 0x205F, 0x3000] := rfl
  simp only [isBlank, Bool.or_eq_true, Bool.and_eq_true, decide_eq_true_eq, beq_iff_eq] at h
  simp only [ranges, List.mem_append, List.mem_range'_1, List.mem_cons, List.not_mem_nil, or_false]
  omega

theorem isWord_blankCodes : ∀ n ∈ blankCodes, isWord (Char.ofNat n) = false := by
  decide +kernel

theorem not_isBlank_of_isWord {c : Char} (h : isWord c = true) : isBlank c = false := by
  rw [Bool.eq_false_iff]
  intro blank
  have := isWord_blankCodes c.toNat (mem_blankCodes blank)
  rw [Char.ofNat_toNat, h] at this
  cases this

theorem not_isWord_of_isBlank {c : Char} (h : isBlank c = true) : isWord c = false := by
  rw [Bool.eq_false_iff]
  intro word
  rw [not_isBlank_of_isWord word] at h
  cases h

theorem ne_of_isWord {c d : Char} (h : isWord c = true) (other : isWord d = false) : c ≠ d := by
  rintro rfl
  rw [h] at other
  cases other

structure WordText (w : Text) : Prop where
  nonempty : w ≠ []
  chars : ∀ c ∈ w, isWord c = true

theorem wordText_iff {w : Text} : WordText w ↔ w ≠ [] ∧ ∀ c ∈ w, isWord c = true :=
  ⟨fun h => ⟨h.nonempty, h.chars⟩, fun ⟨ne, chars⟩ => ⟨ne, chars⟩⟩

instance (w : Text) : Decidable (WordText w) := decidable_of_iff' _ wordText_iff

namespace WordText

variable {w : Text}

theorem not_mem (h : WordText w) {d : Char} (other : isWord d = false) : d ∉ w :=
  fun mem => ne_of_isWord (h.chars d mem) other rfl

theorem trimmed (h : WordText w) : Trimmed w :=
  ⟨fun c hc => not_isBlank_of_isWord (h.chars c (List.mem_of_head? hc)),
    fun c hc => not_isBlank_of_isWord (h.chars c (List.mem_of_getLast? hc))⟩

theorem head_isWord (h : WordText w) : ∃ c cs, w = c :: cs ∧ isWord c = true := by
  cases w with
  | nil => exact absurd rfl h.nonempty
  | cons c cs => exact ⟨c, cs, rfl, h.chars c List.mem_cons_self⟩

end WordText

theorem takeWhile_append_cons {p : Char → Bool} {name : Text} {c : Char} (hc : p c = false)
    (h : ∀ d ∈ name, p d = true) (t : Text) :
    (name ++ c :: t).takeWhile p = name ∧ (name ++ c :: t).dropWhile p = c :: t := by
  induction name with
  | nil => simp [hc]
  | cons d ds ih =>
    obtain ⟨hd, later⟩ := List.forall_mem_cons.mp h
    have ih := ih later
    simp [hd, ih]

theorem takeWhile_of_all {p : Char → Bool} {name : Text} (h : ∀ d ∈ name, p d = true) :
    name.takeWhile p = name ∧ name.dropWhile p = [] := by
  induction name with
  | nil => exact ⟨rfl, rfl⟩
  | cons d ds ih =>
    obtain ⟨hd, later⟩ := List.forall_mem_cons.mp h
    have ih := ih later
    simp [hd, ih]

def spaced (ts : List Text) : Text := ts.flatMap (· ++ [' '])

theorem spaced_cons (t : Text) (ts : List Text) : spaced (t :: ts) = t ++ ' ' :: spaced ts := by
  simp [spaced]

theorem splitBy_of_none {p : Char → Bool} {w : Text} (h : ∀ c ∈ w, p c = false) :
    splitBy p w = [w] := by
  induction w with
  | nil => rfl
  | cons c cs ih =>
    obtain ⟨hc, later⟩ := List.forall_mem_cons.mp h
    have ih := ih later
    simp [splitBy, hc, ih]

theorem splitBy_append {p : Char → Bool} {w : Text} (h : ∀ c ∈ w, p c = false) {d : Char}
    (hd : p d = true) (t : Text) : splitBy p (w ++ d :: t) = w :: splitBy p t := by
  induction w with
  | nil => simp [splitBy, hd]
  | cons c cs ih =>
    obtain ⟨hc, later⟩ := List.forall_mem_cons.mp h
    have ih := ih later
    simp [splitBy, hc, ih]

theorem WordText.not_blank {w : Text} (h : WordText w) : ∀ c ∈ w, isBlank c = false :=
  fun c hc => not_isBlank_of_isWord (h.chars c hc)

theorem words_blank_append {gap : Text} (h : Blank gap) (t : Text) :
    words (gap ++ t) = words t := by
  induction gap with
  | nil => rfl
  | cons c cs ih =>
    obtain ⟨blank, later⟩ := List.forall_mem_cons.mp h
    rw [List.cons_append, ← ih later]
    simp [words, splitBy, blank]

theorem words_append {w gap t : Text} (ne : w ≠ []) (h : ∀ c ∈ w, isBlank c = false)
    (blank : Blank gap) (apart : gap ≠ [] ∨ t = []) : words (w ++ gap ++ t) = w :: words t := by
  have full : w.isEmpty = false := by simpa using ne
  cases gap with
  | nil =>
    rcases apart with apart | rfl
    · exact absurd rfl apart
    · simp [words, splitBy_of_none h, full, splitBy]
  | cons c cs =>
    obtain ⟨first, later⟩ := List.forall_mem_cons.mp blank
    rw [← words_blank_append later t, List.append_assoc, List.cons_append]
    simp [words, splitBy_append h first, full]

theorem words_one {w : Text} (h : WordText w) : words w = [w] := by
  have := @words_append w [] [] h.nonempty h.not_blank (by simp [Blank]) (.inr rfl)
  rwa [List.append_nil, List.append_nil] at this

theorem words_two {v w : Text} (hv : WordText v) (hw : WordText w) :
    words (v ++ ' ' :: w) = [v, w] := by
  have := words_append (t := w) hv.nonempty hv.not_blank blank_space (.inl (by simp))
  rwa [words_one hw, List.append_assoc] at this

end ViewCases.Text
