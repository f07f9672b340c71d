import ViewCases.Proofs.Attribute
import ViewCases.Signature.Parameter

/-! Parameter clauses as they are written: the names, a colon, the type and perhaps a
default. A default may hold equals signs and colons of its own; a type only colons. -/
namespace ViewCases.Parameter
open Text ViewCases.Bracket

def writeNames (p : Parameter) : Text :=
  match p.label with
  | none => "_ " ++ p.name
  | some label => if label = p.name then p.name else label ++ ' ' :: p.name

def writeDefault : Option Text → Text
  | none => []
  | some value => " = " ++ value

def write (p : Parameter) : Text :=
  p.writeNames ++ ':' :: ' ' :: p.type ++ writeDefault p.defaultValue

/-- The parameters that a clause can spell. -/
structure Legible (p : Parameter) : Prop where
  label : ∀ label, p.label = some label → WordText label ∧ label ≠ ['_']
  name : WordText p.name ∧ p.name ≠ ['_']
  type : Atom p.type
  noEquals : '=' ∉ p.type
  default : ∀ value, p.defaultValue = some value → Atom value
  flag : p.hasDefault = p.defaultValue.isSome

theorem wordText_lowLine : WordText ['_'] := ⟨by decide, by decide⟩

theorem bareName_word {w : Text} (h : WordText w) : bareName w = w := by
  have front : ∀ {t : Text}, (∀ c ∈ t, isWord c = true) → t.dropWhile (· = '`') = t := by
    intro t chars
    cases t with
    | nil => rfl
    | cons c cs =>
      have := ne_of_isWord (chars c List.mem_cons_self) (show isWord '`' = false by decide)
      simp [this]
  rw [bareName, front h.chars, front fun c hc => h.chars c (List.mem_reverse.mp hc),
    List.reverse_reverse]

theorem splitNames_write {p : Parameter} (h : p.Legible) :
    splitNames p.writeNames = some (p.label, p.name) := by
  have name := h.name.1
  unfold writeNames
  cases eq : p.label with
  | none =>
    have taken := Attribute.takeAll_word wordText_lowLine (' ' :: p.name)
    change splitNames (['_'] ++ ' ' :: p.name) = _
    rw [splitNames, taken, words_two wordText_lowLine name]
    simp [bareName_word wordText_lowLine, bareName_word name]
  | some label =>
    obtain ⟨word, other⟩ := h.label label eq
    by_cases same : label = p.name
    · have taken := Attribute.takeAll_word name []
      rw [List.append_nil] at taken
      simp only [if_pos same]
      rw [splitNames, taken, words_one name]
      simp [bareName_word name, same]
    · have taken := Attribute.takeAll_word word (' ' :: p.name)
      simp only [if_neg same]
      rw [splitNames, taken, words_two word name]
      simp [bareName_word word, bareName_word name, other]

theorem writeNames_chars {p : Parameter} (h : p.Legible) :
    ∀ c ∈ p.writeNames, isWord c = true ∨ c = ' ' := by
  have two : ∀ {v w : Text}, WordText v → WordText w →
      ∀ c ∈ v ++ ' ' :: w, isWord c = true ∨ c = ' ' := by
    intro v w hv hw c hc
    rcases List.mem_append.mp hc with hc | hc
    · exact .inl (hv.chars c hc)
    · rcases List.mem_cons.mp hc with rfl | hc
      · exact .inr rfl
      · exact .inl (hw.chars c hc)
  unfold writeNames
  cases eq : p.label with
  | none => exact two wordText_lowLine h.name.1
  | some label =>
    by_cases same : label = p.name
    · simp only [if_pos same]
      exact fun c hc => .inl (h.name.1.chars c hc)
    · simp only [if_neg same]
      exact two (h.label label eq).1 h.name.1

theorem writeNames_not_mem {p : Parameter} (h : p.Legible) {d : Char} (other : isWord d = false)
    (space : d ≠ ' ') : d ∉ p.writeNames := by
  intro mem
  rcases writeNames_chars h d mem with word | eq
  · exact ne_of_isWord word other rfl
  · exact space eq

theorem writeNames_head {p : Parameter} (h : p.Legible) :
    ∃ c cs, p.writeNames = c :: cs ∧ isWord c = true := by
  unfold writeNames
  cases eq : p.label with
  | none => exact ⟨'_', _, rfl, by decide⟩
  | some label =>
    by_cases same : label = p.name
    · simp only [if_pos same]
      exact h.name.1.head_isWord
    · obtain ⟨c, cs, rfl, hc⟩ := (h.label label eq).1.head_isWord
      simp only [if_neg same]
      exact ⟨c, _, rfl, hc⟩

theorem label_isPlain {p : Parameter} (h : p.Legible) :
    ∀ c ∈ p.writeNames ++ [':', ' '], isPlain c = true := by
  intro c hc
  rcases List.mem_append.mp hc with hc | hc
  · rcases writeNames_chars h c hc with word | rfl
    · exact isPlain_of_isWord word
    · rfl
  · have punctuation : ∀ d ∈ ([':', ' '] : Text), isPlain d = true := by decide
    exact punctuation c hc

theorem marks_declaration {p : Parameter} (h : p.Legible) (t : Text) :
    marks (p.writeNames ++ ':' :: ' ' :: t) = marks t := by
  have split : p.writeNames ++ ':' :: ' ' :: t = (p.writeNames ++ [':', ' ']) ++ t := by simp
  rw [split, marks_plain_append (label_isPlain h) (.inl (by simp [List.getLast?_append]))]

theorem marks_write {p : Parameter} (h : p.Legible) :
    marks p.write = marks p.type ++ (p.defaultValue.map marks).getD [] := by
  rw [write, List.append_assoc, List.cons_append, List.cons_append, marks_declaration h]
  cases p.defaultValue with
  | none => simp [writeDefault]
  | some value =>
    have split : p.type ++ writeDefault (some value) = (p.type ++ [' ', '=', ' ']) ++ value := by
      simp [writeDefault]
    rw [split, marks_append (.inl (by simp [List.getLast?_append])),
      marks_append_plain p.type (by decide)]
    rfl

theorem segment_write {p : Parameter} (h : p.Legible) : Segment p.write := by
  obtain ⟨c, cs, names, word⟩ := writeNames_head h
  have type := atom_iff_segment.mp h.type
  have marked := marks_write h
  constructor
  · simp [write]
  · constructor
    · intro d hd
      rw [write, names] at hd
      cases hd
      exact not_isBlank_of_isWord word
    · cases eq : p.defaultValue with
      | none =>
        have split : p.write = (p.writeNames ++ [':', ' ']) ++ p.type := by
          simp [write, eq, writeDefault]
        rw [split, List.getLast?_append_of_ne_nil _ type.nonempty]
        exact type.trimmed.2
      | some value =>
        have default := atom_iff_segment.mp (h.default value eq)
        rw [write, eq, writeDefault, ← List.append_assoc,
          List.getLast?_append_of_ne_nil _ default.nonempty]
        exact default.trimmed.2
  · rw [marked]
    cases eq : p.defaultValue with
    | none => simpa using type.closed
    | some value => exact type.closed.append (atom_iff_segment.mp (h.default value eq)).closed
  · rw [Free, marked]
    cases eq : p.defaultValue with
    | none => simpa [Free] using type.single
    | some value =>
      intro mem
      rw [Option.map_some, Option.getD_some, type.closed.topLevel_append] at mem
      rcases List.mem_append.mp mem with first | later
      · exact type.single first
      · exact (atom_iff_segment.mp (h.default value eq)).single later

theorem splitDefault_write {p : Parameter} (h : p.Legible) :
    ∃ gap, Blank gap ∧ splitDefault p.write =
      (p.writeNames ++ ':' :: ' ' :: p.type ++ gap, p.defaultValue) := by
  have type := atom_iff_segment.mp h.type
  have closed : Closed (marks (p.writeNames ++ ':' :: ' ' :: p.type)) := by
    rw [marks_declaration h]
    exact type.closed
  have absent : '=' ∉ p.writeNames ++ ':' :: ' ' :: p.type := by
    simp only [List.mem_append, List.mem_cons, not_or]
    exact ⟨writeNames_not_mem h (by decide) (by decide), by decide, by decide, h.noEquals⟩
  cases eq : p.defaultValue with
  | none =>
    refine ⟨[], by simp [Blank], ?_⟩
    rw [write, eq, writeDefault, splitDefault, List.append_nil,
      findTopLevel_char_none closed absent]
  | some value =>
    have default := atom_iff_segment.mp (h.default value eq)
    have split : p.write = (p.writeNames ++ ':' :: ' ' :: p.type ++ [' ']) ++
        '=' :: ' ' :: value := by
      rw [write, eq, writeDefault]
      simp
    have closedGap : Closed (marks (p.writeNames ++ ':' :: ' ' :: p.type ++ [' '])) := by
      rw [marks_append_plain _ (by decide)]
      exact closed
    have absentGap : '=' ∉ p.writeNames ++ ':' :: ' ' :: p.type ++ [' '] := by
      rw [List.mem_append, not_or]
      exact ⟨absent, by decide⟩
    have found := findTopLevel_char (r := ' ' :: value) closedGap absentGap
      fun _ => ⟨by simp, by rw [List.getLast?_concat]; rfl⟩
    refine ⟨[' '], blank_space, ?_⟩
    have behind : ((p.writeNames ++ ':' :: ' ' :: p.type ++ [' ']) ++ '=' :: ' ' :: value).drop
        ((p.writeNames ++ ':' :: ' ' :: p.type ++ [' ']).length + 1) = ' ' :: value := by
      rw [List.drop_append, List.drop_of_length_le (by omega), Nat.add_sub_cancel_left]
      rfl
    have trim : strip (' ' :: value) = value :=
      (strip_append_left blank_space value).trans (strip_of_trimmed default.trimmed)
    rw [split, splitDefault, found]
    simp only [behind, trim, List.take_left]

theorem ofClause?_write {p : Parameter} (h : p.Legible) : ofClause? p.write = some p := by
  obtain ⟨gap, blank, split⟩ := splitDefault_write h
  have type := atom_iff_segment.mp h.type
  have absent : ':' ∉ p.writeNames := writeNames_not_mem h (by decide) (by decide)
  have plain : ∀ c ∈ p.writeNames, isPlain c = true :=
    fun c hc => label_isPlain h c (List.mem_append_left _ hc)
  have closed : Closed (marks p.writeNames) := by
    rw [marks_of_isPlain plain]
    exact closed_nil
  have whole : p.writeNames ++ ':' :: ' ' :: p.type ++ gap =
      p.writeNames ++ ':' :: (' ' :: p.type ++ gap) := by simp
  have found := findTopLevel_char (x := ':') (r := ' ' :: p.type ++ gap) closed absent
    fun eq => absurd eq (by decide)
  have behind : (p.writeNames ++ ':' :: (' ' :: p.type ++ gap)).drop (p.writeNames.length + 1) =
      ' ' :: p.type ++ gap := by
    rw [List.drop_append, List.drop_of_length_le (by omega), Nat.add_sub_cancel_left]
    rfl
  have trim : strip (' ' :: p.type ++ gap) = p.type :=
    strip_surround (l := [' ']) blank_space type.trimmed blank
  have value : p.defaultValue.filter (fun value => !value.isEmpty) = p.defaultValue := by
    cases eq : p.defaultValue with
    | none => rfl
    | some value =>
      have := (atom_iff_segment.mp (h.default value eq)).nonempty
      simp [Option.filter, this]
  rw [ofClause?, split]
  simp only [whole, found, List.take_left, splitNames_write h, behind, trim]
  cases eq : p.type with
  | nil => exact absurd eq type.nonempty
  | cons c cs =>
    simp only [value, ← h.flag, ← eq]

end ViewCases.Parameter
