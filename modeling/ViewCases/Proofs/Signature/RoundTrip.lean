import ViewCases.Member.Basic
import ViewCases.Proofs.Signature.Clause
import ViewCases.Proofs.Signature.Lead
import ViewCases.Proofs.Signature.Tail

/-! Reading back a function header that was put together from its parts. The parts are as
wide as the scans allow; every text in them that stands between separators is an atom, and
the return type is free except for the word that opens the constraints. -/
namespace ViewCases.FunctionHeader
open Text ViewCases.Bracket Signature

structure Declaration where
  attributes : List Text
  words : List Text
  name : Text
  generics : List (Text × Option Text)
  parameters : List Parameter
  result : Option Text
  constraints : List Text
  deriving DecidableEq, Repr

namespace Declaration

def writeGeneric : Text × Option Text → Text
  | (name, none) => name
  | (name, some constraint) => name ++ ": " ++ constraint

def writeGenerics (generics : List (Text × Option Text)) : Text :=
  if generics.isEmpty then [] else '<' :: joinWith ", " (generics.map writeGeneric) ++ ['>']

def writeParameters (parameters : List Parameter) : Text :=
  '(' :: joinWith ", " (parameters.map Parameter.write) ++ [')']

def writeBody (d : Declaration) : Text :=
  d.name ++ (writeGenerics d.generics ++ (writeParameters d.parameters ++
    (writeResult d.result ++ writeConstraints d.constraints)))

def write (d : Declaration) : Text :=
  spaced d.attributes ++ (spaced d.words ++ ("func " ++ d.writeBody))

def header (d : Declaration) : FunctionHeader where
  name := d.name
  visibility := d.words.findSome? Visibility.ofWord?
  parameters := d.parameters
  returnType := d.result.getD "Void"
  attributes := d.attributes
  genericParameters := d.generics.map Prod.fst
  genericConstraints :=
    (d.generics.filter (·.2.isSome)).map writeGeneric ++ d.constraints

def IsName (name : Text) : Prop :=
  name.head?.any isNameStart = true ∧ ∀ c ∈ name, isNamePart c = true

instance : DecidablePred IsName := fun _ => inferInstanceAs (Decidable (_ ∧ _))

/-- The declarations that a header can spell. -/
structure Legible (d : Declaration) : Prop where
  attributes : ∀ mark ∈ d.attributes, Attribute.Written mark
  words : ∀ word ∈ d.words, word ∈ Member.modifierWords
  name : IsName d.name
  genericNames : ∀ g ∈ d.generics, WordText g.1
  genericAtoms : ∀ g ∈ d.generics, ∀ c, g.2 = some c → Atom c ∧ c.getLast? ≠ some '-'
  parameters : ∀ p ∈ d.parameters, p.Legible
  result : ∀ r, d.result = some r → r ≠ [] ∧ Trimmed r ∧ ¬HasWord "where" r
  constraints : ∀ c ∈ d.constraints, Atom c

end Declaration

theorem takeLead?_attribute {mark rest : Text} (h : Attribute.Written mark)
    (start : ∀ c, rest.head? = some c → isBlank c = false) :
    takeLead? (mark ++ ' ' :: rest) =
      (takeLead? rest).map fun l => { l with attributes := mark :: l.attributes } := by
  have taken := Attribute.take?_written h (d := ' ') (by decide) (by decide) rest
  have head := h.head
  cases mark with
  | nil => cases head
  | cons c cs =>
    cases Option.some.inj head
    rw [List.cons_append] at taken ⊢
    have behind : stripStart (' ' :: rest) = rest := stripStart_gap blank_space start
    rw [takeLead?_mark taken, behind]

theorem words_head {words : List Text} (h : ∀ w ∈ words, w ∈ Member.modifierWords) (rest : Text) :
    ∀ c, (spaced words ++ ("func " ++ rest)).head? = some c → isBlank c = false := by
  intro c hc
  cases words with
  | nil =>
    cases hc
    rfl
  | cons w ws =>
    obtain ⟨d, ds, rfl, hd⟩ :=
      (wordText_of_modifierWords w (h w List.mem_cons_self)).head_isWord
    rw [spaced_cons] at hc
    cases hc
    exact not_isBlank_of_isWord hd

theorem takeLead?_words {words : List Text} (h : ∀ w ∈ words, w ∈ Member.modifierWords)
    {rest : Text} (start : ∀ c, rest.head? = some c → isBlank c = false) :
    takeLead? (spaced words ++ ("func " ++ rest)) = some ⟨[], words, rest⟩ := by
  induction words with
  | nil =>
    have := takeLead?_spaced (w := "func") (by decide) (by simp) blank_space start
    rw [if_pos rfl] at this
    exact this
  | cons w ws ih =>
    obtain ⟨word, others⟩ := List.forall_mem_cons.mp h
    have notKeyword : w ≠ "func" := fun eq => func_not_mem_modifierWords (eq ▸ word)
    have read := takeLead?_spaced (wordText_of_modifierWords w word) (by simp) blank_space
      (words_head others rest)
    rw [if_neg notKeyword, ih others] at read
    rw [spaced_cons, List.append_assoc, List.cons_append]
    exact read

theorem lead_head {attributes words : List Text} (marks : ∀ m ∈ attributes, Attribute.Written m)
    (h : ∀ w ∈ words, w ∈ Member.modifierWords) (rest : Text) :
    ∀ c, (spaced attributes ++ (spaced words ++ ("func " ++ rest))).head? = some c →
      isBlank c = false := by
  cases attributes with
  | nil => exact words_head h rest
  | cons m ms =>
    intro c hc
    rw [spaced_cons, List.append_assoc, List.head?_append,
      (marks m List.mem_cons_self).head] at hc
    cases hc
    rfl

theorem takeLead?_write {attributes words : List Text}
    (marks : ∀ m ∈ attributes, Attribute.Written m) (h : ∀ w ∈ words, w ∈ Member.modifierWords)
    {rest : Text} (start : ∀ c, rest.head? = some c → isBlank c = false) :
    takeLead? (spaced attributes ++ (spaced words ++ ("func " ++ rest))) =
      some ⟨attributes, words, rest⟩ := by
  induction attributes with
  | nil => exact takeLead?_words h start
  | cons m ms ih =>
    obtain ⟨first, others⟩ := List.forall_mem_cons.mp marks
    rw [spaced_cons, List.append_assoc, List.cons_append,
      takeLead?_attribute first (lead_head others h rest), ih others]
    rfl

theorem not_isBlank_of_isNameStart {c : Char} (h : isNameStart c = true) : isBlank c = false := by
  have none : ∀ n ∈ blankCodes, isNameStart (Char.ofNat n) = false := by decide
  rw [Bool.eq_false_iff]
  intro blank
  have := none c.toNat (mem_blankCodes blank)
  rw [Char.ofNat_toNat, h] at this
  cases this

theorem takeName?_write {name : Text} (h : Declaration.IsName name) {d : Char}
    (stop : isNamePart d = false) (notTick : d ≠ '`') (t : Text) :
    takeName? (name ++ d :: t) = some (name, d :: t) := by
  obtain ⟨start, chars⟩ := h
  cases name with
  | nil => cases start
  | cons c cs =>
    have first : isNameStart c = true := start
    have cNotTick : c ≠ '`' := by
      rintro rfl
      exact absurd first (by decide)
    have cut := takeWhile_append_cons stop (fun e he => chars e (List.mem_cons_of_mem _ he)) t
    have front : takeBacktick (c :: cs ++ d :: t) = ([], c :: cs ++ d :: t) := by
      simp [takeBacktick, cNotTick]
    have back : takeBacktick (d :: t) = ([], d :: t) := by simp [takeBacktick, notTick]
    rw [takeName?, front]
    simp only [List.cons_append, first, if_true, cut.1, cut.2, back]

theorem takeBracketed?_wrap (b : Bracket) {u : Text} (closed : Closed (marks u))
    (last : u.getLast? ≠ some '-' ∨ b ≠ .angle) (t : Text) :
    takeBracketed? b (b.opener :: u ++ b.closer :: t) = some (u, t) := by
  have partner := partner?_wrap b closed last t
  rw [List.cons_append] at partner ⊢
  simp [takeBracketed?, partner, List.drop_append, List.drop_of_length_le]

theorem segment_generic {g : Text × Option Text} (name : WordText g.1)
    (atom : ∀ c, g.2 = some c → Atom c) : Segment (Declaration.writeGeneric g) := by
  obtain ⟨n, constraint⟩ := g
  have plain : ∀ d ∈ n, isPlain d = true := fun d hd => isPlain_of_isWord (name.chars d hd)
  cases constraint with
  | none =>
    refine ⟨name.nonempty, name.trimmed, ?_, ?_⟩
    · rw [Declaration.writeGeneric, marks_of_isPlain plain]
      exact closed_nil
    · rw [Free, Declaration.writeGeneric, marks_of_isPlain plain]
      exact List.not_mem_nil
  | some c =>
    have seg := atom_iff_segment.mp (atom c rfl)
    have colon : marks (n ++ ": " ++ c) = marks c := by
      have front : ∀ d ∈ n ++ (": " : Text), isPlain d = true := by
        intro d hd
        rcases List.mem_append.mp hd with hd | hd
        · exact plain d hd
        · have punctuation : ∀ e ∈ (": " : Text), isPlain e = true := by decide
          exact punctuation d hd
      exact marks_plain_append front (.inl (by simp [List.getLast?_append]))
    have trim : Trimmed (n ++ ": " ++ c) := by
      refine trimmed_of_ends (by simp) seg.nonempty ?_ seg.trimmed.2
      rw [List.head?_append_of_ne_nil _ name.nonempty]
      exact name.trimmed.1
    refine ⟨by simp [Declaration.writeGeneric], trim, ?_, ?_⟩
    · rw [Declaration.writeGeneric, colon]
      exact seg.closed
    · rw [Free, Declaration.writeGeneric, colon]
      exact seg.single

theorem generic_last {g : Text × Option Text} (name : WordText g.1)
    (atom : ∀ c, g.2 = some c → Atom c ∧ c.getLast? ≠ some '-') :
    (Declaration.writeGeneric g).getLast? ≠ some '-' := by
  obtain ⟨n, constraint⟩ := g
  cases constraint with
  | none => exact fun last => name.not_mem (by decide) (List.mem_of_getLast? last)
  | some c =>
    obtain ⟨whole, last⟩ := atom c rfl
    rw [Declaration.writeGeneric,
      List.getLast?_append_of_ne_nil _ (atom_iff_segment.mp whole).nonempty]
    exact last

theorem generic_name {g : Text × Option Text} (name : WordText g.1) :
    strip ((Declaration.writeGeneric g).takeWhile (· ≠ ':')) = g.1 := by
  obtain ⟨n, constraint⟩ := g
  have chars : ∀ d ∈ n, decide (d ≠ ':') = true := fun d hd => by
    simpa using ne_of_isWord (name.chars d hd) (show isWord ':' = false by decide)
  have kept : (Declaration.writeGeneric (n, constraint)).takeWhile (· ≠ ':') = n := by
    cases constraint with
    | none => exact (takeWhile_of_all chars).1
    | some c =>
      have text : Declaration.writeGeneric (n, some c) = n ++ ':' :: ' ' :: c := by
        simp [Declaration.writeGeneric]
      rw [text]
      exact (takeWhile_append_cons (by simp) chars _).1
  rw [kept, strip_of_trimmed name.trimmed]

theorem generic_constrained {g : Text × Option Text} (name : WordText g.1) :
    (Declaration.writeGeneric g).contains ':' = g.2.isSome := by
  obtain ⟨n, constraint⟩ := g
  cases constraint with
  | none => simpa [Declaration.writeGeneric] using name.not_mem (show isWord ':' = false by decide)
  | some c => simp [Declaration.writeGeneric]

theorem genericClauses_write {generics : List (Text × Option Text)}
    (names : ∀ g ∈ generics, WordText g.1)
    (atoms : ∀ g ∈ generics, ∀ c, g.2 = some c → Atom c) :
    genericClauses (joinWith [',', ' '] (generics.map Declaration.writeGeneric)) =
      (generics.map Prod.fst, (generics.filter (·.2.isSome)).map Declaration.writeGeneric) := by
  have segs : ∀ u ∈ generics.map Declaration.writeGeneric, Segment u := by
    intro u hu
    obtain ⟨g, mem, rfl⟩ := List.mem_map.mp hu
    exact segment_generic (names g mem) (atoms g mem)
  rw [genericClauses, splitTopLevel_join segs, List.map_map, List.filter_map]
  congr 1
  · exact List.map_congr_left fun g mem => generic_name (names g mem)
  · congr 1
    exact List.filter_congr fun g mem => generic_constrained (names g mem)

theorem takeGenerics?_write {generics : List (Text × Option Text)}
    (names : ∀ g ∈ generics, WordText g.1)
    (atoms : ∀ g ∈ generics, ∀ c, g.2 = some c → Atom c ∧ c.getLast? ≠ some '-') (t : Text) :
    takeGenerics? (Declaration.writeGenerics generics ++ '(' :: t) =
      some ((generics.map Prod.fst,
        (generics.filter (·.2.isSome)).map Declaration.writeGeneric), '(' :: t) := by
  have parts := genericClauses_write names fun g mem c eq => (atoms g mem c eq).1
  cases generics with
  | nil => simp [Declaration.writeGenerics, takeGenerics?]
  | cons g gs =>
    have closed :
        Closed (marks (joinWith [',', ' '] ((g :: gs).map Declaration.writeGeneric))) := by
      apply closed_join
      intro u hu
      obtain ⟨h, mem, rfl⟩ := List.mem_map.mp hu
      exact (segment_generic (names h mem) fun c eq => (atoms h mem c eq).1).closed
    have last : (joinWith [',', ' '] ((g :: gs).map Declaration.writeGeneric)).getLast? ≠
        some '-' := by
      apply join_getLast
      intro u hu
      obtain ⟨h, mem, rfl⟩ := List.mem_map.mp hu
      exact generic_last (names h mem) (atoms h mem)
    have taken := takeBracketed?_wrap .angle closed (.inl last) ('(' :: t)
    change takeBracketed? .angle ('<' :: joinWith [',', ' '] _ ++ '>' :: '(' :: t) = _ at taken
    have text : Declaration.writeGenerics (g :: gs) ++ '(' :: t =
        '<' :: joinWith [',', ' '] ((g :: gs).map Declaration.writeGeneric) ++
          '>' :: '(' :: t := by
      simp [Declaration.writeGenerics]
    have head : ('<' :: joinWith [',', ' '] ((g :: gs).map Declaration.writeGeneric) ++
        '>' :: '(' :: t).head? = some '<' := rfl
    rw [text, takeGenerics?, if_pos head, taken]
    simp only [Option.map_some, parts]
    rw [stripStart_of_head (by rintro c ⟨⟩; rfl)]

theorem mapM_ofClause? {parameters : List Parameter} (h : ∀ p ∈ parameters, p.Legible) :
    (parameters.map Parameter.write).mapM Parameter.ofClause? = some parameters := by
  induction parameters with
  | nil => rfl
  | cons p ps ih =>
    obtain ⟨first, later⟩ := List.forall_mem_cons.mp h
    simp only [List.map_cons, List.mapM_cons, Parameter.ofClause?_write first, ih later]
    rfl

namespace Declaration

variable {d : Declaration}

theorem writeBody_head (h : d.Legible) : ∀ c, d.writeBody.head? = some c → isBlank c = false := by
  obtain ⟨start, -⟩ := h.name
  intro c hc
  rw [writeBody] at hc
  cases eq : d.name with
  | nil =>
    rw [eq] at start
    cases start
  | cons e es =>
    rw [eq] at start hc
    cases hc
    exact not_isBlank_of_isNameStart start

theorem tail_last (h : d.Legible) :
    ∀ c, ([')'] ++ (writeResult d.result ++ writeConstraints d.constraints)).getLast? = some c →
      isBlank c = false := by
  cases eq : d.constraints with
  | nil =>
    rw [writeConstraints, List.isEmpty_nil, if_pos rfl, List.append_nil]
    cases res : d.result with
    | none =>
      rintro c ⟨⟩
      rfl
    | some r =>
      obtain ⟨ne, trim, -⟩ := h.result r res
      rw [writeResult, ← List.append_assoc, List.getLast?_append_of_ne_nil _ ne]
      exact trim.2
  | cons u us =>
    have segs : ∀ v ∈ u :: us, Segment v := fun v hv =>
      atom_iff_segment.mp (h.constraints v (eq ▸ hv))
    obtain ⟨ne, trim⟩ := trimmed_join (by simp) segs
    have text : writeConstraints (u :: us) = " where " ++ joinWith [',', ' '] (u :: us) := rfl
    rw [text, ← List.append_assoc, ← List.append_assoc, List.getLast?_append_of_ne_nil _ ne]
    exact trim.2

theorem trimmed_write (h : d.Legible) : Trimmed d.write := by
  refine ⟨lead_head h.attributes h.words _, ?_⟩
  have split : d.write = spaced d.attributes ++ spaced d.words ++ "func " ++ d.name ++
      writeGenerics d.generics ++ ('(' :: joinWith ", " (d.parameters.map Parameter.write)) ++
        ([')'] ++ (writeResult d.result ++ writeConstraints d.constraints)) := by
    simp [write, writeBody, writeParameters]
  rw [split, List.getLast?_append_of_ne_nil _ (by simp)]
  exact tail_last h

theorem takeName?_body (h : d.Legible) : takeName? d.writeBody =
    some (d.name, writeGenerics d.generics ++ (writeParameters d.parameters ++
      (writeResult d.result ++ writeConstraints d.constraints))) := by
  rw [writeBody]
  cases eq : d.generics with
  | nil => exact takeName?_write h.name (by decide) (by decide) _
  | cons g gs => exact takeName?_write h.name (by decide) (by decide) _

theorem segments_parameters (h : d.Legible) :
    ∀ u ∈ d.parameters.map Parameter.write, Segment u := by
  intro u hu
  obtain ⟨p, mem, rfl⟩ := List.mem_map.mp hu
  exact Parameter.segment_write (h.parameters p mem)

theorem constraints_kept (h : d.Legible) :
    d.header.genericConstraints.filter (fun c => !c.isEmpty) = d.header.genericConstraints := by
  apply List.filter_eq_self.mpr
  intro c hc
  have ne : c ≠ [] := by
    rcases List.mem_append.mp hc with generic | constraint
    · obtain ⟨g, mem, rfl⟩ := List.mem_map.mp generic
      have := (List.mem_filter.mp mem).1
      exact (segment_generic (h.genericNames g this)
        fun c eq => (h.genericAtoms g this c eq).1).nonempty
    · exact (atom_iff_segment.mp (h.constraints c constraint)).nonempty
  simpa using ne

/-- A header is read as the declaration from which it was written. -/
theorem parse?_write (h : d.Legible) : FunctionHeader.parse? d.write = some d.header := by
  generalize inner : joinWith [',', ' '] (d.parameters.map Parameter.write) = list
  generalize rest : writeResult d.result ++ writeConstraints d.constraints = tail
  have lead : takeLead? d.write = some ⟨d.attributes, d.words, d.writeBody⟩ :=
    takeLead?_write h.attributes h.words (writeBody_head h)
  have parens : writeParameters d.parameters ++ tail = '(' :: list ++ ')' :: tail := by
    rw [writeParameters, ← inner]
    simp
  have name : takeName? d.writeBody =
      some (d.name, writeGenerics d.generics ++ ('(' :: list ++ ')' :: tail)) := by
    rw [takeName?_body h, rest, parens]
  have bracket : stripStart (writeGenerics d.generics ++ ('(' :: list ++ ')' :: tail)) =
      writeGenerics d.generics ++ ('(' :: list ++ ')' :: tail) := by
    apply stripStart_of_head
    cases d.generics <;> rintro c ⟨⟩ <;> rfl
  have generics := takeGenerics?_write h.genericNames h.genericAtoms (list ++ ')' :: tail)
  have segs := segments_parameters h
  have closed : Closed (marks list) := inner ▸ closed_join fun u hu => (segs u hu).closed
  have taken : takeBracketed? .paren ('(' :: list ++ ')' :: tail) = some (list, tail) :=
    takeBracketed?_wrap .paren closed (.inr (by simp)) tail
  have parameters : (splitTopLevel list).mapM Parameter.ofClause? = some d.parameters := by
    rw [← inner, splitTopLevel_join segs, mapM_ofClause? h.parameters]
  have behind := splitTail_write (fun r eq => (h.result r eq).2.1)
    (fun r eq => (h.result r eq).2.2) h.constraints
  rw [rest] at behind
  have kept := constraints_kept h
  rw [header] at kept
  rw [List.cons_append] at name bracket taken
  simp only [FunctionHeader.parse?, strip_of_trimmed (trimmed_write h), lead, name, bracket,
    generics, taken, parameters, behind, kept, Option.bind_eq_bind, Option.bind_some]
  rfl

theorem parse?_write_nested :
    let d : Declaration := {
      attributes := ["@available(*, x: \"func\")", "@inlinable"]
      words := ["nonisolated", "public"]
      name := "on$"
      generics := [("V", some "P<(A) -> B>"), ("T", none)]
      parameters := [⟨none, "e", "[K: V]", true, some "[:]"⟩,
        ⟨some "by", "f", "(A, B) -> C", true, some "{ a == b }"⟩,
        ⟨some "g", "g", "T?", false, none⟩]
      result := some "(V -> wherever"
      constraints := ["V.A == T", "T: Q"] }
    d.Legible ∧ FunctionHeader.parse? d.write = some d.header := by
  intro d
  have legible : d.Legible := by
    constructor
    · have available : Attribute.Written "@available(*, x: \"func\")" :=
        .argument "available" "*, x: \"func\"" (by decide) (by decide)
      have inlinable : Attribute.Written "@inlinable" := .word "inlinable" (by decide)
      simpa [d] using ⟨available, inlinable⟩
    · decide
    · decide
    · decide
    · simp [d]
      decide
    · have edges : Parameter.Legible ⟨none, "e", "[K: V]", true, some "[:]"⟩ :=
        ⟨by simp, by decide, by decide, by decide, by simp; decide, rfl⟩
      have closure :
          Parameter.Legible ⟨some "by", "f", "(A, B) -> C", true, some "{ a == b }"⟩ :=
        ⟨by simp; decide, by decide, by decide, by decide, by simp; decide, rfl⟩
      have single : Parameter.Legible ⟨some "g", "g", "T?", false, none⟩ :=
        ⟨by simp; decide, by decide, by decide, by decide, by simp, rfl⟩
      simpa [d] using ⟨edges, closure, single⟩
    · rintro r ⟨⟩
      exact ⟨by decide, by decide, not_hasWord (by decide) (by decide)⟩
    · decide
  exact ⟨legible, parse?_write legible⟩

end Declaration

end ViewCases.FunctionHeader
