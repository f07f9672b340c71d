import ViewCases.Proofs.Attribute
import ViewCases.Proofs.TypeExpr.Written

/-! Function types as they are written: attributes with a space behind each, parameters in
parentheses, effects with a space before each, the arrow and the result. What an attribute
may hold is left open here; it only has to be read up to the space behind it. -/
namespace ViewCases.TypeExpr
open Text ViewCases.Bracket

theorem mem_effectWords {w : Text} :
    w ∈ effectWords ↔ w = ("async" : Text) ∨ w = ("throws" : Text) ∨ w = ("rethrows" : Text) := by
  simp [effectWords]

theorem isWord_space : isWord ' ' = false := by decide

theorem trailingEffect?_word {w : Text} (h : w ∈ effectWords) (x : Text) :
    trailingEffect? (x ++ ' ' :: w) = some (w, stripEnd x) := by
  have behind : isWord 'e' = true := by decide
  have trim : stripEnd (x ++ [' ']) = stripEnd x := stripEnd_append blank_space x
  rcases mem_effectWords.mp h with rfl | rfl | rfl
  · simp [trailingEffect?, effectWords, dropTrailingWord?, dropLead?, isWord_space, trim]
  · simp [trailingEffect?, effectWords, dropTrailingWord?, dropLead?, isWord_space, trim]
  · -- As text it ends with `throws` as well, but not as a word.
    simp [trailingEffect?, effectWords, dropTrailingWord?, dropLead?, isWord_space, behind, trim]

theorem trailingEffect?_paren (x : Text) : trailingEffect? (x ++ [')']) = none := by
  simp [trailingEffect?, effectWords, dropTrailingWord?, dropLead?]

theorem effect_ne_nil {w : Text} (h : w ∈ effectWords) : w ≠ [] := by
  rcases mem_effectWords.mp h with rfl | rfl | rfl <;> decide

theorem effect_trimmed {w : Text} (h : w ∈ effectWords) : Trimmed w := by
  rcases mem_effectWords.mp h with rfl | rfl | rfl <;>
    exact ⟨by rintro c ⟨⟩; rfl, by rintro c ⟨⟩; rfl⟩

theorem effect_plain {w : Text} (h : w ∈ effectWords) : ∀ c ∈ ' ' :: w, isPlain c = true := by
  apply List.all_eq_true.mp
  rcases mem_effectWords.mp h with rfl | rfl | rfl <;> rfl

def writeEffects (effects : List Text) : Text := effects.flatMap (' ' :: ·)

theorem writeEffects_plain {effects : List Text} (h : ∀ w ∈ effects, w ∈ effectWords) :
    ∀ c ∈ writeEffects effects, isPlain c = true := by
  intro c hc
  obtain ⟨w, mem, inside⟩ := List.mem_flatMap.mp hc
  exact effect_plain (h w mem) c inside

theorem trimmed_writeEffects {x : Text} (ne : x ≠ []) (trim : Trimmed x) {effects : List Text}
    (h : ∀ w ∈ effects, w ∈ effectWords) : Trimmed (x ++ writeEffects effects) := by
  induction effects generalizing x with
  | nil => simpa [writeEffects] using trim
  | cons w rest ih =>
    obtain ⟨word, others⟩ := List.forall_mem_cons.mp h
    have first : Trimmed ((x ++ [' ']) ++ w) := by
      refine trimmed_of_ends (by simp) (effect_ne_nil word) ?_ (effect_trimmed word).2
      rw [List.head?_append_of_ne_nil _ ne]
      exact trim.1
    have := ih (by simp) first others
    simpa [writeEffects] using this

theorem splitEffects_reverse {x : Text} (last : x.getLast? = some ')') (effects : List Text)
    (h : ∀ w ∈ effects, w ∈ effectWords) :
    splitEffects (x ++ writeEffects effects.reverse) = (x, effects.reverse) := by
  obtain ⟨y, rfl⟩ := List.getLast?_eq_some_iff.mp last
  induction effects with
  | nil =>
    rw [List.reverse_nil, show writeEffects [] = [] from rfl, List.append_nil, splitEffects]
    split
    · rfl
    · next found =>
      rw [trailingEffect?_paren] at found
      cases found
  | cons w rest ih =>
    obtain ⟨word, others⟩ := List.forall_mem_cons.mp h
    have ends : stripEnd (y ++ [')'] ++ writeEffects rest.reverse) =
        y ++ [')'] ++ writeEffects rest.reverse := by
      apply stripEnd_of_last
      have alone : Trimmed (([')'] : Text) ++ writeEffects rest.reverse) :=
        trimmed_writeEffects (by simp) (trimmed_singleton rfl)
          fun v hv => others v (List.mem_reverse.mp hv)
      rw [List.append_assoc, List.getLast?_append_of_ne_nil _ (by simp)]
      exact alone.2
    have split : y ++ [')'] ++ writeEffects (w :: rest).reverse =
        (y ++ [')'] ++ writeEffects rest.reverse) ++ ' ' :: w := by
      simp [writeEffects]
    rw [split, splitEffects]
    split
    · next found =>
      rw [trailingEffect?_word word] at found
      cases found
    · next word' before found =>
      rw [trailingEffect?_word word, ends] at found
      cases found
      rw [ih others, List.reverse_cons]

theorem splitEffects_write {x : Text} (last : x.getLast? = some ')') {effects : List Text}
    (h : ∀ w ∈ effects, w ∈ effectWords) :
    splitEffects (x ++ writeEffects effects) = (x, effects) := by
  have := splitEffects_reverse last effects.reverse fun w hw => h w (List.mem_reverse.mp hw)
  rwa [List.reverse_reverse] at this

theorem mem_effectWords_of_splitEffects (t : Text) :
    ∀ w ∈ (splitEffects t).2, w ∈ effectWords := by
  fun_induction splitEffects t with
  | case1 => simp
  | case2 t word rest found before effects eq ih =>
    rw [eq] at ih
    intro w hw
    rcases List.mem_append.mp hw with earlier | here
    · exact ih w earlier
    · cases List.mem_singleton.mp here
      obtain ⟨v, mem, taken⟩ := List.exists_of_findSome?_eq_some found
      obtain ⟨r, -, pair⟩ := Option.map_eq_some_iff.mp taken
      cases pair
      exact mem

def Standing (mark : Text) : Prop :=
  ∀ rest, takeAttribute (mark ++ ' ' :: rest) = .ok (mark, ' ' :: rest)

theorem head_of_takeAttribute {head mark rest : Text}
    (h : takeAttribute head = .ok (mark, rest)) : mark.head? = some '@' := by
  unfold takeAttribute at h
  split at h
  · cases h
  · split at h
    · split at h
      · cases h
      · cases h
        rfl
    · cases h
      rfl

theorem Standing.head {mark : Text} (h : Standing mark) : mark.head? = some '@' :=
  head_of_takeAttribute (h [])

theorem standing_word {word : Text} (ne : word ≠ []) (chars : ∀ c ∈ word, isWord c = true) :
    Standing ('@' :: word) := by
  intro rest
  rw [takeAttribute, Attribute.name?_word ⟨ne, chars⟩ isWord_space]
  simp

theorem word_of_attributesWithArgument {word : Text} (mem : word ∈ attributesWithArgument) :
    WordText word := by
  simp only [attributesWithArgument, List.mem_cons, List.not_mem_nil, or_false] at mem
  rcases mem with rfl | rfl <;> decide

theorem standing_argument {word argument : Text} (mem : word ∈ attributesWithArgument)
    (partner : ∀ rest, partner? .paren ('(' :: argument ++ ')' :: rest) =
      some (argument.length + 1)) :
    Standing ('@' :: word ++ '(' :: argument ++ [')']) := by
  intro rest
  have known := word_of_attributesWithArgument mem
  have shape : '@' :: word ++ '(' :: argument ++ [')'] ++ ' ' :: rest =
      '@' :: word ++ '(' :: (argument ++ ')' :: ' ' :: rest) := by simp
  have takes : attributesWithArgument.contains word = true := List.contains_iff_mem.mpr mem
  have partner := partner (' ' :: rest)
  rw [takeAttribute, shape, Attribute.name?_word known (by decide)]
  rw [List.cons_append] at partner
  simp only [takes, List.head?_cons, and_self, if_true, partner]
  simp [List.take_append, List.drop_append, List.take_of_length_le]

theorem standing_escaping : Standing escapingAttribute := by
  have word : WordText "escaping" := by decide
  exact standing_word word.nonempty word.chars

theorem marks_spaced (ms : List Text) : marks (spaced ms) = ms.flatMap marks := by
  induction ms with
  | nil => rfl
  | cons m ms ih =>
    have space : marks (m ++ [' ']) = marks m := by
      rw [marks_append (.inr (by simp)), show marks [' '] = [] from rfl, List.append_nil]
    have step : spaced (m :: ms) = m ++ [' '] ++ spaced ms := rfl
    rw [step, marks_append (.inl (by rw [List.getLast?_concat]; decide)), space, ih]
    rfl

theorem spaced_head {ms : List Text} (h : ∀ m ∈ ms, Standing m) (x : Text) {c : Char}
    (hc : (spaced ms ++ '(' :: x).head? = some c) : c = '@' ∨ c = '(' := by
  cases ms with
  | nil => exact .inr (by simpa [spaced] using hc.symm)
  | cons m ms =>
    have at' := (h m List.mem_cons_self).head
    rw [spaced_cons, List.append_assoc, List.head?_append, at'] at hc
    exact .inl (by simpa using hc.symm)

theorem spaced_head_not_blank {ms : List Text} (h : ∀ m ∈ ms, Standing m) (x : Text) :
    ∀ c, (spaced ms ++ '(' :: x).head? = some c → isBlank c = false := by
  intro c hc
  rcases spaced_head h x hc with rfl | rfl
  · rfl
  · rfl

theorem takeAttributes_spaced {ms : List Text} (h : ∀ m ∈ ms, Standing m) (x : Text) :
    takeAttributes (spaced ms ++ '(' :: x) = .ok (ms, '(' :: x) := by
  induction ms with
  | nil =>
    rw [takeAttributes]
    simp [spaced]
  | cons m ms ih =>
    obtain ⟨standing, others⟩ := List.forall_mem_cons.mp h
    have head : (m ++ ' ' :: (spaced ms ++ '(' :: x)).head? = some '@' := by
      rw [List.head?_append, standing.head]
      rfl
    have next : stripStart (' ' :: (spaced ms ++ '(' :: x)) = spaced ms ++ '(' :: x :=
      (stripStart_append blank_space _).trans
        (stripStart_of_head (spaced_head_not_blank others x))
    rw [spaced_cons, List.append_assoc, List.cons_append, takeAttributes, if_pos head]
    split
    · next taken =>
      rw [standing] at taken
      cases taken
    · next mark rest taken =>
      rw [standing] at taken
      cases taken
      rw [next, ih others]

def leadMarks (escaping : Bool) (attributes : List Text) : List Text :=
  (if escaping then [escapingAttribute] else []) ++ attributes

theorem renderLead_eq (escaping : Bool) (attributes : List Text) :
    renderLead escaping attributes = spaced (leadMarks escaping attributes) := rfl

theorem leadMarks_standing {attributes : List Text} (h : ∀ m ∈ attributes, Standing m)
    (escaping : Bool) : ∀ m ∈ leadMarks escaping attributes, Standing m := by
  intro m hm
  rcases List.mem_append.mp hm with first | later
  · cases escaping with
    | false => cases first
    | true =>
      cases List.mem_singleton.mp first
      exact standing_escaping
  · exact h m later

theorem leadMarks_contains {attributes : List Text} (h : escapingAttribute ∉ attributes)
    (escaping : Bool) : (leadMarks escaping attributes).contains escapingAttribute = escaping := by
  cases escaping with
  | false => simpa [leadMarks] using h
  | true => simp [leadMarks]

theorem leadMarks_filter {attributes : List Text} (h : escapingAttribute ∉ attributes)
    (escaping : Bool) :
    (leadMarks escaping attributes).filter (· ≠ escapingAttribute) = attributes := by
  have keep : attributes.filter (· ≠ escapingAttribute) = attributes := by
    apply List.filter_eq_self.mpr
    intro m hm
    simpa using fun e : m = escapingAttribute => h (e ▸ hm)
  cases escaping with
  | false => simpa [leadMarks] using keep
  | true => simpa [leadMarks] using keep

/-- The parts of a function type that stand on their own before its arrow. -/
structure Callable (escaping : Bool) (attributes effects : List Text) : Prop where
  standing : ∀ m ∈ attributes, Standing m
  plainly : escapingAttribute ∉ attributes
  effects : ∀ w ∈ effects, w ∈ effectWords
  closed : Closed (marks (renderLead escaping attributes))
  free : Free .arrow (renderLead escaping attributes)

theorem marks_beforeArrow {effects : List Text} (h : ∀ w ∈ effects, w ∈ effectWords)
    (lead u : Text) :
    marks (lead ++ ('(' :: u ++ [')']) ++ writeEffects effects ++ [' ']) =
      marks lead ++ (.opens .paren :: marks u ++ [.closes .paren]) := by
  have space : ∀ c ∈ ([' '] : Text), isPlain c = true := by decide
  rw [marks_append_plain _ space, marks_append_plain _ (writeEffects_plain h),
    marks_append (.inr (by simp)), marks_parens]

theorem closureShape_write {escaping : Bool} {attributes effects us : List Text} {result : Text}
    (call : Callable escaping attributes effects) (segs : ∀ u ∈ us, Segment u)
    (ne : result ≠ []) (trim : Trimmed result) (head : Text)
    (eq : head = renderLead escaping attributes ++ ('(' :: joinWith [',', ' '] us ++ [')']) ++
      writeEffects effects) :
    closureShape (head ++ [' '] ++ '-' :: '>' :: ' ' :: result) (head ++ [' ']).length =
      .ok (.closure us result escaping attributes effects) := by
  have marksStanding := leadMarks_standing call.standing escaping
  have resultText : strip ((head ++ [' '] ++ '-' :: '>' :: ' ' :: result).drop
      ((head ++ [' ']).length + 2)) = result := by
    rw [List.drop_append, List.drop_of_length_le (by omega), List.nil_append,
      Nat.add_sub_cancel_left]
    exact (strip_append_left blank_space result).trans (strip_of_trimmed trim)
  have headTrimmed : Trimmed head := by
    constructor
    · rw [eq, renderLead_eq, List.append_assoc, List.cons_append, List.cons_append]
      exact spaced_head_not_blank marksStanding _
    · have core : Trimmed (('(' :: joinWith [',', ' '] us ++ [')']) ++ writeEffects effects) :=
        trimmed_writeEffects (by simp) (trimmed_between rfl rfl _) call.effects
      rw [eq, List.append_assoc, List.getLast?_append_of_ne_nil _ (by simp)]
      exact core.2
  have headText : strip ((head ++ [' '] ++ '-' :: '>' :: ' ' :: result).take
      (head ++ [' ']).length) = head := by
    rw [List.take_left, strip_append_right blank_space, strip_of_trimmed headTrimmed]
  have taken : takeAttributes head = .ok (leadMarks escaping attributes,
      ('(' :: joinWith [',', ' '] us ++ [')']) ++ writeEffects effects) := by
    rw [eq, renderLead_eq, List.append_assoc]
    exact takeAttributes_spaced marksStanding _
  have effectsRead := splitEffects_write (x := '(' :: joinWith [',', ' '] us ++ [')'])
    List.getLast?_concat call.effects
  have inside := insideParens?_wrap (closed_join fun u hu => (segs u hu).closed)
  have full : result.isEmpty = false := by simpa using ne
  simp only [closureShape, resultText, headText, taken, effectsRead, inside, full,
    Option.getD_some, listParts_join segs, leadMarks_contains call.plainly,
    leadMarks_filter call.plainly]
  rfl

theorem getLast?_writeFunction {lead result : Text} {us effects : List Text} (ne : result ≠ []) :
    (writeFunction lead us effects result).getLast? = result.getLast? := by
  have arrow : ' ' :: '-' :: '>' :: ' ' :: result = [' ', '-', '>', ' '] ++ result := rfl
  rw [writeFunction, arrow, ← List.append_assoc, List.getLast?_append_of_ne_nil _ ne]

theorem trimmed_writeFunction {escaping : Bool} {attributes effects us : List Text} {result : Text}
    (standing : ∀ m ∈ attributes, Standing m) (ne : result ≠ []) (trim : Trimmed result) :
    Trimmed (writeFunction (renderLead escaping attributes) us effects result) := by
  constructor
  · rw [writeFunction, renderLead_eq]
    simp only [List.append_assoc, List.cons_append]
    exact spaced_head_not_blank (leadMarks_standing standing escaping) _
  · rw [getLast?_writeFunction ne]
    exact trim.2

theorem writeFunction_eq {escaping : Bool} {attributes effects us : List Text} {result : Text} :
    writeFunction (renderLead escaping attributes) us effects result =
      renderLead escaping attributes ++ ('(' :: joinWith [',', ' '] us ++ [')']) ++
        writeEffects effects ++ [' '] ++ '-' :: '>' :: ' ' :: result := by
  rw [writeFunction, writeEffects]
  simp

theorem marks_function {escaping : Bool} {attributes effects us : List Text} {result : Text}
    (h : ∀ w ∈ effects, w ∈ effectWords) :
    marks (writeFunction (renderLead escaping attributes) us effects result) =
      marks (renderLead escaping attributes) ++
        (.opens .paren :: marks (joinWith [',', ' '] us) ++ [.closes .paren]) ++
          .arrow :: marks result := by
  have space : marks (' ' :: result) = marks result := marks_cons (by decide) result
  rw [writeFunction_eq, marks_append (.inr (by simp)), marks_arrow, space, marks_beforeArrow h]

theorem shape_function {escaping : Bool} {attributes effects us : List Text} {result : Text}
    (call : Callable escaping attributes effects) (segs : ∀ u ∈ us, Segment u)
    (ne : result ≠ []) (trim : Trimmed result) (closed : Closed (marks result)) :
    shape (writeFunction (renderLead escaping attributes) us effects result) =
      .ok (.closure us result escaping attributes effects) := by
  have joined := closed_join fun u hu => (segs u hu).closed
  have before := marks_beforeArrow call.effects (renderLead escaping attributes)
    (joinWith [',', ' '] us)
  have closedWhole : Closed (marks (writeFunction (renderLead escaping attributes) us effects
      result)) := by
    rw [marks_function call.effects]
    exact (call.closed.append (joined.wrap .paren)).append closed
  have trimWhole : Trimmed (writeFunction (renderLead escaping attributes) us effects result) :=
    trimmed_writeFunction call.standing ne trim
  have neWhole : writeFunction (renderLead escaping attributes) us effects result ≠ [] := by
    simp [writeFunction]
  generalize headEq : renderLead escaping attributes ++
    ('(' :: joinWith [',', ' '] us ++ [')']) ++ writeEffects effects = head at before
  have closedBefore : Closed (marks (head ++ [' '])) := by
    rw [before]
    exact call.closed.append (joined.wrap .paren)
  have freeBefore : Free .arrow (head ++ [' ']) := by
    rw [Free, before, call.closed.topLevel_append, joined.topLevel_wrap, List.append_nil]
    exact call.free
  rw [shape_of_trimmed neWhole trimWhole closedWhole, writeFunction_eq, headEq,
    findTopLevel_arrow closedBefore freeBefore]
  exact closureShape_write call segs ne trim head headEq.symm

end ViewCases.TypeExpr
