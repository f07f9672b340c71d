import ViewCases.Proofs.Literal.Clause

/-! String literals in a header. The scans of a header know brackets, commas and words, and no
quotes: the text of a literal is read as if it were code. Contents that close the parentheses
they open, and that have no comma where the parameters are cut, change nothing but the text
that holds the literal; others can end the attribute or the parameter in which they stand. -/
namespace ViewCases.FunctionHeader
open Text Signature ViewCases.Bracket

def Lead.behind (marks words : List Text) (l : Lead) : Lead :=
  { l with attributes := marks ++ l.attributes, words := words ++ l.words }

def Front.behind (marks words : List Text) (f : Front) : Front :=
  { f with attributes := marks ++ f.attributes, words := words ++ f.words }

/-- The scan of the lead comes from one text to another. -/
inductive LeadsTo : Text → Text → Prop
  | here (t : Text) : LeadsTo t t
  | mark {cs mark rest u : Text} : Attribute.take? ('@' :: cs) = some (mark, rest) →
      LeadsTo (stripStart rest) u → LeadsTo ('@' :: cs) u
  | noMark {cs u : Text} : Attribute.take? ('@' :: cs) = none → LeadsTo (stripStart cs) u →
      LeadsTo ('@' :: cs) u
  | word {c : Char} {cs u : Text} : c ≠ '@' → c :: cs.takeWhile isLeadWord ≠ "func" →
      LeadsTo (stripStart (cs.dropWhile isLeadWord)) u → LeadsTo (c :: cs) u

theorem LeadsTo.ne_nil {t u : Text} (h : LeadsTo t u) (ne : u ≠ []) : t ≠ [] := by
  cases h with
  | here => exact ne
  | mark => exact List.cons_ne_nil _ _
  | noMark => exact List.cons_ne_nil _ _
  | word => exact List.cons_ne_nil _ _

theorem LeadsTo.takeLead?_append {t u : Text} (h : LeadsTo t u) (ne : u ≠ []) :
    ∃ marks words, ∀ x, takeLead? (t ++ x) = (takeLead? (u ++ x)).map (Lead.behind marks words) := by
  induction h with
  | here t =>
    refine ⟨[], [], fun x => ?_⟩
    cases takeLead? (t ++ x) <;> rfl
  | @mark cs mark rest u found later ih =>
    obtain ⟨marks, words, eq⟩ := ih ne
    refine ⟨mark :: marks, words, fun x => ?_⟩
    have behind : stripStart rest ≠ [] := later.ne_nil ne
    have inhabited : rest ≠ [] := by
      rintro rfl
      exact behind rfl
    have longer := take?_local _ _ _ found inhabited x
    rw [List.cons_append] at longer ⊢
    rw [takeLead?_mark longer, stripStart_append_of_ne behind, eq, Option.map_map]
    rfl
  | @noMark cs u found later ih =>
    obtain ⟨marks, words, eq⟩ := ih ne
    refine ⟨marks, words, fun x => ?_⟩
    have behind : stripStart cs ≠ [] := later.ne_nil ne
    have inhabited : cs ≠ [] := by
      rintro rfl
      exact behind rfl
    rw [List.cons_append, takeLead?_noMark (take?_none_append inhabited found x),
      stripStart_append_of_ne behind, eq]
  | @word c cs u other noFunc later ih =>
    obtain ⟨marks, words, eq⟩ := ih ne
    refine ⟨marks, (c :: cs.takeWhile isLeadWord).takeWhile (· ≠ '(') :: words, fun x => ?_⟩
    have behind : stripStart (cs.dropWhile isLeadWord) ≠ [] := later.ne_nil ne
    obtain ⟨taken, left⟩ := run_append (dropWhile_ne_of_stripStart behind) x
    rw [List.cons_append, takeLead?_word other]
    simp only [taken, left, if_neg noFunc, stripStart_append_of_ne behind, eq, Option.map_map]
    rfl

theorem front?_behind {t u : Text} {marks words : List Text}
    (h : takeLead? t = (takeLead? u).map (Lead.behind marks words)) :
    front? t = (front? u).map fun (f, tail) => (f.behind marks words, tail) := by
  simp only [front?, h, Option.bind_eq_bind, Option.map_eq_bind, Option.bind_assoc,
    Option.bind_some, Option.pure_def, Function.comp_apply]
  rfl

theorem front?_mark {t word a : Text} (leads : LeadsTo t ('@' :: word ++ '(' :: a))
    (h : Attribute.LeavesOpen word a) (y : Text) :
    (∀ z, ParensClosed z → front? (t ++ (literal z ++ y)) = none) ∨
      ∃ (f : Front) (tail l r : Text) (before behind : List Text), ∀ z, ParensClosed z →
        front? (t ++ (literal z ++ y)) =
          some ({ f with attributes := before ++ (l ++ literal z ++ r) :: behind }, tail) := by
  obtain ⟨marks, words, eq⟩ := leads.takeLead?_append (by simp)
  rcases Attribute.take?_literal h y with all | ⟨b, r, ends⟩
  · left
    intro z closed
    obtain ⟨mark, taken⟩ := all z closed
    have nothing : takeLead? ('@' :: word ++ '(' :: a ++ (literal z ++ y)) = none := by
      simp only [List.cons_append] at taken ⊢
      rw [takeLead?_mark taken]
      have empty : stripStart [] = [] := rfl
      rw [empty, takeLead?]
      rfl
    unfold front?
    rw [eq, nothing]
    rfl
  · have led : ∀ z, ParensClosed z → front? (t ++ (literal z ++ y)) =
        (front? (stripStart r)).map fun (f, tail) =>
          (f.behind (marks ++ ['@' :: word ++ '(' :: a ++ (literal z ++ b)]) words, tail) := by
      intro z closed
      have taken := ends z closed
      apply front?_behind
      rw [eq]
      simp only [List.cons_append] at taken ⊢
      rw [takeLead?_mark taken, Option.map_map]
      congr 1
      funext l
      simp [Lead.behind]
    cases read : front? (stripStart r) with
    | none =>
      left
      intro z closed
      rw [led z closed, read]
      rfl
    | some found =>
      obtain ⟨f, tail⟩ := found
      right
      refine ⟨f.behind [] words, tail, '@' :: word ++ '(' :: a, b, marks, f.attributes, ?_⟩
      intro z closed
      rw [led z closed, read]
      simp [Front.behind]

theorem takeBracketed?_literal {list : Text} (opens : partner? .paren ('(' :: list) = none)
    (y : Text) :
    (∀ z, ParensClosed z → takeBracketed? .paren ('(' :: list ++ (literal z ++ y)) = none) ∨
      ∃ b r, ∀ z, ParensClosed z → takeBracketed? .paren ('(' :: list ++ (literal z ++ y)) =
        some (list ++ (literal z ++ b), r) := by
  have head : ∀ t, ('(' :: list ++ t).head? = some Bracket.paren.opener := fun _ => rfl
  rcases partner?_literal opens y with never | ⟨b, r, rfl, closes⟩
  · left
    intro z closed
    rw [takeBracketed?, if_pos (head _), never z closed]
    rfl
  · right
    refine ⟨b, r, fun z closed => ?_⟩
    have whole : '(' :: list ++ (literal z ++ (b ++ ')' :: r)) =
        ('(' :: (list ++ (literal z ++ b))) ++ ')' :: r := by simp
    have len : 1 + list.length + (literal z).length + b.length =
        ('(' :: (list ++ (literal z ++ b))).length := by simp; omega
    rw [takeBracketed?, if_pos (head _), closes z closed, Option.map_some, len, whole,
      List.take_left, List.drop_length_add_append]
    rfl

theorem mapM_clause {clause : Text → Text} {admits : Text → Prop} {found : Option Parameter}
    {hold : Text → Parameter → Parameter}
    (read : ∀ z, admits z → Parameter.ofClause? (clause z) = found.map (hold z))
    (done others : List Text) :
    (∀ z, admits z → (done ++ clause z :: others).mapM Parameter.ofClause? = none) ∨
      ∃ p before behind, ∀ z, admits z →
        (done ++ clause z :: others).mapM Parameter.ofClause? =
          some (before ++ hold z p :: behind) := by
  have step : ∀ z, admits z → (done ++ clause z :: others).mapM Parameter.ofClause? =
      (done.mapM Parameter.ofClause?).bind fun before => (found.map (hold z)).bind fun p =>
        (others.mapM Parameter.ofClause?).map fun behind => before ++ p :: behind := by
    intro z admitted
    rw [List.mapM_append, List.mapM_cons, read z admitted]
    cases done.mapM Parameter.ofClause? with
    | none => rfl
    | some before =>
      cases found with
      | none => rfl
      | some p => cases others.mapM Parameter.ofClause? <;> rfl
  cases first : done.mapM Parameter.ofClause? with
  | none => exact .inl fun z admitted => by rw [step z admitted, first]; rfl
  | some before =>
    cases found with
    | none => exact .inl fun z admitted => by rw [step z admitted, first]; rfl
    | some p =>
      cases last : others.mapM Parameter.ofClause? with
      | none => exact .inl fun z admitted => by rw [step z admitted, first, last]; rfl
      | some behind =>
        exact .inr ⟨p, before, behind, fun z admitted => by rw [step z admitted, first, last]; rfl⟩

theorem front?_parameter {t list clause : Text} {o : Opening} {done : List Text}
    {part : Parameter.Part} (opening : opening? t = some (o, '(' :: list))
    (opens : partner? .paren ('(' :: list) = none)
    (cut : segments none {} list = done ++ [clause])
    (slot : Parameter.Slot (stripStart clause) part) (y : Text) :
    (∀ z, Whole (levelsAfter none {} list) z → front? (t ++ (literal z ++ y)) = none) ∨
      ∃ (f : Front) (tail l r : Text) (p : Parameter) (before behind : List Parameter),
        ∀ z, Whole (levelsAfter none {} list) z → front? (t ++ (literal z ++ y)) =
          some ({ f with parameters := before ++ p.holding (l ++ literal z ++ r) part :: behind },
            tail) := by
  have read := front?_of_opening opening (List.cons_ne_nil '(' list)
  rcases takeBracketed?_literal opens y with never | ⟨b, tail, closes⟩
  · left
    intro z whole
    rw [read, never z (parensClosed_of_isBalanced whole.1)]
    rfl
  · obtain ⟨s, ss, segmented⟩ := splitTopLevel_literal cut b
    obtain ⟨found, l, r, clauseRead⟩ := Parameter.ofClause?_literal slot (stripEnd s)
    have within : ∀ z, Whole (levelsAfter none {} list) z → front? (t ++ (literal z ++ y)) =
        ((done.map strip ++ (stripStart clause ++ (literal z ++ stripEnd s)) :: ss.map strip).mapM
          Parameter.ofClause?).map fun ps => (o.front ps, tail) := by
      intro z whole
      rw [read, closes z (parensClosed_of_isBalanced whole.1)]
      simp only [Option.bind_some, segmented z whole]
    have inList : ∀ z, Whole (levelsAfter none {} list) z →
        Parameter.ofClause? (stripStart clause ++ (literal z ++ stripEnd s)) =
          found.map (·.holding (l ++ literal z ++ r) part) := fun z whole => clauseRead z whole.1
    rcases mapM_clause inList (done.map strip) (ss.map strip) with none | ⟨p, before, behind, some⟩
    · left
      intro z whole
      rw [within z whole, none z whole]
      rfl
    · right
      refine ⟨o.front [], tail, l, r, p, before, behind, fun z whole => ?_⟩
      rw [within z whole, some z whole]
      rfl

inductive Part
  | mark
  | parameter (part : Parameter.Part)
  deriving DecidableEq, Repr

/-- The headers that are the same but for the text that holds the literal. -/
inductive Carries : Part → (Text → FunctionHeader) → Prop
  | mark (h : FunctionHeader) (before behind : List Text) (l r : Text) :
      Carries .mark fun z => { h with attributes := before ++ (l ++ literal z ++ r) :: behind }
  | parameter (part : Parameter.Part) (h : FunctionHeader) (p : Parameter)
      (before behind : List Parameter) (l r : Text) :
      Carries (.parameter part) fun z =>
        { h with parameters := before ++ p.holding (l ++ literal z ++ r) part :: behind }

/-- Where the reader of a header is when a literal begins, and the contents with which it goes
on behind the literal as it was before. -/
inductive Slot (before : Text) : Part → (Text → Prop) → Prop
  | mark {word argument : Text} (leads : LeadsTo (stripStart before) ('@' :: word ++ '(' :: argument))
      (opens : Attribute.LeavesOpen word argument) : Slot before .mark ParensClosed
  | parameter {list clause : Text} {o : Opening} {done : List Text} {part : Parameter.Part}
      (opening : opening? (stripStart before) = some (o, '(' :: list))
      (opens : partner? .paren ('(' :: list) = none)
      (cut : segments none {} list = done ++ [clause])
      (slot : Parameter.Slot (stripStart clause) part) :
      Slot before (.parameter part) (Whole (levelsAfter none {} list))

/-- A header with a string literal is read or not whatever the contents are, and what is read
is the same but for the text that holds the literal, as long as the contents close the brackets
they open and, in a parameter, have no comma outside all brackets of the list. -/
theorem parse?_literal {before : Text} {part : Part} {admits : Text → Prop}
    (slot : Slot before part admits) (behind : Text) :
    (∀ z, admits z → parse? (before ++ (literal z ++ behind)) = none) ∨
      ∃ header, Carries part header ∧
        ∀ z, admits z → parse? (before ++ (literal z ++ behind)) = some (header z) := by
  have read : ∀ z, parse? (before ++ (literal z ++ behind)) =
      (front? (stripStart before ++ (literal z ++ stripEnd behind))).map
        fun (f, tail) => f.header tail := by
    intro z
    rw [parse?_eq_front?, strip_literal]
  cases slot with
  | mark leads opens =>
    rcases front?_mark leads opens (stripEnd behind) with none | ⟨f, tail, l, r, ms, ns, some⟩
    · left
      intro z closed
      rw [read, none z closed]
      rfl
    · right
      refine ⟨_, .mark (f.header tail) ms ns l r, fun z closed => ?_⟩
      rw [read, some z closed]
      rfl
  | parameter opening opens cut slot =>
    rcases front?_parameter opening opens cut slot (stripEnd behind)
      with none | ⟨f, tail, l, r, p, ps, qs, some⟩
    · left
      intro z whole
      rw [read, none z whole]
      rfl
    · right
      refine ⟨_, .parameter _ (f.header tail) p ps qs l r, fun z whole => ?_⟩
      rw [read, some z whole]
      rfl

theorem parse?_literal_parts :
    Slot "@available(*, message: " .mark ParensClosed ∧
    Slot "public func f(a: String = " (.parameter .defaultValue) (Whole {}) ∧
    (∃ header, Carries .mark header ∧ ∀ z ∈ ["old", "use func g(a, b)"],
      parse? ("@available(*, message: " ++ (literal z ++ ")\npublic func f()")) =
        some (header z)) ∧
    ∃ header, Carries (.parameter .defaultValue) header ∧ ∀ z ∈ ["x", "@a: func g(b, c)"],
      parse? ("public func f(a: String = " ++ (literal z ++ ", b: Int)")) = some (header z) := by
  have mark : Slot "@available(*, message: " .mark ParensClosed :=
    @Slot.mark _ "available" "*, message: " (.here _) ⟨by decide, by decide⟩
  have value : Slot "public func f(a: String = " (.parameter .defaultValue) (Whole {}) :=
    @Slot.parameter _ "a: String = " "a: String = " ⟨[], ["public"], "f", [], []⟩ [] _
      (by decide +kernel) (by decide) (by decide) (@Parameter.Slot.defaultValue _ 10 (by decide))
  refine ⟨mark, value, ?_, ?_⟩
  · rcases parse?_literal mark ")\npublic func f()" with none | ⟨header, carries, read⟩
    · exact absurd (none "old" (by decide)) (by decide +kernel)
    · exact ⟨header, carries, fun z mem => read z (by revert z mem; decide)⟩
  · rcases parse?_literal value ", b: Int)" with none | ⟨header, carries, read⟩
    · exact absurd (none "x" (by decide)) (by decide +kernel)
    · exact ⟨header, carries, fun z mem => read z (by revert z mem; decide)⟩

/-- A parenthesis in a message makes the header unreadable, or what follows it in the message
is read as the declaration; a comma in a default value cuts the parameter there. -/
theorem parse?_literal_counted :
    (∀ z ∈ (["old", "a(", ") func g()", "x", ","] : List Text), ∀ c ∈ z,
      c ≠ '"' ∧ c ≠ '\\' ∧ c ≠ '\n') ∧
    (parse? ("@available(*, message: " ++ (literal "old" ++ ")\npublic func f()"))).map
      (·.name) = some "f" ∧
    parse? ("@available(*, message: " ++ (literal "a(" ++ ")\npublic func f()")) = none ∧
    (parse? ("@available(*, message: " ++ (literal ") func g()" ++ ")\npublic func f()"))).map
      (·.name) = some "g" ∧
    (parse? ("public func f(a: String = " ++ (literal "x" ++ ", b: Int)"))).map
      (·.parameters.length) = some 2 ∧
    parse? ("public func f(a: String = " ++ (literal "," ++ ", b: Int)")) = none := by
  decide +kernel

end ViewCases.FunctionHeader
