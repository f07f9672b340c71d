import ViewCases.Proofs.Member.Resume

/-! A member up to its body, as it is written and as the reading passes it. The lead marks
where the member begins, the keyword starts it there, and the tail has no say: it holds no
known word and no brace outside other brackets. -/
namespace ViewCases.Member
open Text Signature ViewCases.Bracket

inductive LeadPart
  | mark (word : Text) (argument : Option Text)
  | modifier (word : Text)
  deriving DecidableEq, Repr

def LeadPart.write : LeadPart → Text
  | .mark word none => '@' :: word
  | .mark word (some argument) => '@' :: word ++ '(' :: argument ++ [')']
  | .modifier word => word

def LeadPart.Legible : LeadPart → Prop
  | .mark word argument => WordText word ∧ ∀ a, argument = some a → Interior a
  | .modifier word => word ∈ modifierWords

instance : DecidablePred LeadPart.Legible
  | .mark word argument => inferInstanceAs (Decidable (WordText word ∧ ∀ a ∈ argument, Interior a))
  | .modifier word => inferInstanceAs (Decidable (word ∈ modifierWords))

def isIdentifierStart (c : Char) : Bool := isAsciiLetter c || c == '_'

def isIdentifierPart (c : Char) : Bool := isIdentifierStart c || isAsciiDigit c

structure IsIdentifier (w : Text) : Prop where
  start : w.head?.any isIdentifierStart = true
  chars : ∀ c ∈ w, isIdentifierPart c = true

/-- What may follow a keyword up to the body: white space, punctuation, identifiers other
than the known words, and groups in parentheses or square brackets. -/
inductive Tail : Text → Prop
  | nil : Tail []
  | space (c : Char) {t : Text} : isBlank c = true → Tail t → Tail (c :: t)
  | punctuation (c : Char) {t : Text} : c ∈ (".,:<>=&?!-" : Text) → Tail t → Tail (c :: t)
  | identifier (w : Text) {t : Text} : IsIdentifier w → w ∉ declarationWords →
      w ∉ modifierWords → (∀ c, t.head? = some c → isIdentifierPart c = false) → Tail t →
      Tail (w ++ t)
  | group (b : Bracket) (u : Text) {t : Text} : b = .paren ∨ b = .square → Interior u →
      Tail t → Tail (b.opener :: u ++ b.closer :: t)

/-- A member before it is written: each part of the lead with the white space behind it,
and the body with the white space before it. -/
structure Written where
  lead : List (LeadPart × Text)
  keyword : Text
  tail : Text
  body : Option (Text × Text)
  deriving DecidableEq, Repr

namespace Written

def writeLead (lead : List (LeadPart × Text)) : Text :=
  lead.flatMap fun (part, gap) => part.write ++ gap

def header (m : Written) : Text := writeLead m.lead ++ (m.keyword ++ m.tail)

def writeBody : Option (Text × Text) → Text
  | none => []
  | some (gap, inside) => gap ++ ('\x7b' :: inside ++ ['\x7d'])

def write (m : Written) : Text := m.header ++ writeBody m.body

structure Legible (m : Written) : Prop where
  parts : ∀ x ∈ m.lead, x.1.Legible
  gaps : ∀ x ∈ m.lead, x.2 ≠ [] ∧ Blank x.2
  keyword : m.keyword ∈ declarationWords
  tail : Tail m.tail
  tailStart : ∀ c, m.tail.head? = some c → isIdentifierPart c = false
  tailEnd : ∀ c, m.tail.getLast? = some c → isBlank c = false
  body : ∀ gap inside, m.body = some (gap, inside) → Blank gap ∧ Interior inside

end Written

def Stops (t : Text) : Prop := ∀ c, t.head? = some c → isNamePart c = false ∧ c ≠ '`'

instance : DecidablePred Stops
  | [] => .isTrue (by simp [Stops])
  | c :: _ => decidable_of_iff (isNamePart c = false ∧ c ≠ '`') (by simp [Stops])

theorem not_isNamePart_of_isBlank {c : Char} (h : isBlank c = true) :
    isNamePart c = false ∧ c ≠ '`' := by
  have dollar : c ≠ '$' := by
    rintro rfl
    exact absurd h (by decide)
  constructor
  · simp [isNamePart, not_isWord_of_isBlank h, dollar]
  · rintro rfl
    exact absurd h (by decide)

theorem stops_blank {gap t : Text} (ne : gap ≠ []) (blank : Blank gap) : Stops (gap ++ t) := by
  cases gap with
  | nil => exact absurd rfl ne
  | cons d ds =>
    rintro c ⟨⟩
    exact not_isNamePart_of_isBlank (blank d List.mem_cons_self)

theorem next_other {depth : Nat} {c : Char} (h : c ∉ ("/\"#([\x7b)]\x7d@_" : Text))
    (noLetter : isLetter c = false) (fresh : Bool) (cs : Text) :
    Piece.next depth fresh c cs = (.other c, cs) := by
  have ne : ∀ d ∈ ("/\"#([\x7b)]\x7d@_" : Text), c ≠ d := fun d mem eq => h (eq ▸ mem)
  simp [Piece.next, ne '/' (by decide), ne '"' (by decide), ne '#' (by decide),
    ne '(' (by decide), ne '[' (by decide), ne '\x7b' (by decide), ne ')' (by decide),
    ne ']' (by decide), ne '\x7d' (by decide), ne '@' (by decide), ne '_' (by decide), noLetter]

theorem leads_other (source : Text) {r : Reading} {c : Char}
    (h : c ∉ ("/\"#([\x7b)]\x7d@_" : Text)) (noLetter : isLetter c = false) (pos : Nat)
    (t : Text) : Leads source pos r r [c] t :=
  leads_of_next source pos (w := []) (p := .other c) (fun fresh => next_other h noLetter fresh t)
    rfl

theorem leads_blank (source : Text) {r : Reading} {gap : Text} (blank : Blank gap) (pos : Nat)
    (t : Text) : Leads source pos r r gap t := by
  induction gap generalizing pos with
  | nil => exact .nil _ _ _ _
  | cons c cs ih =>
    obtain ⟨hc, later⟩ := List.forall_mem_cons.mp blank
    have apart : c ∉ ("/\"#([\x7b)]\x7d@_" : Text) := by
      have none : ∀ d ∈ ("/\"#([\x7b)]\x7d@_" : Text), isBlank d = false := by decide
      intro mem
      rw [none c mem] at hc
      cases hc
    have noLetter : isLetter c = false := by
      rw [Bool.eq_false_iff]
      intro letter
      have := not_isWord_of_isBlank hc
      rw [isWord_of_isLetter letter] at this
      cases this
    exact (leads_other source apart noLetter pos (cs ++ t)).append
      (ih later (pos + [c].length))

theorem ascii_of_isAsciiLetter {c : Char} (h : isAsciiLetter c = true) : c.toNat < 128 := by
  simp only [isAsciiLetter, Bool.or_eq_true, Bool.and_eq_true, decide_eq_true_eq,
    Char.le_def] at h
  rcases h with ⟨_, h⟩ | ⟨_, h⟩
  · exact Nat.lt_of_le_of_lt h (by decide)
  · exact Nat.lt_of_le_of_lt h (by decide)

theorem ascii_of_isAsciiDigit {c : Char} (h : isAsciiDigit c = true) : c.toNat < 128 := by
  simp only [isAsciiDigit, Bool.and_eq_true, decide_eq_true_eq, Char.le_def] at h
  exact Nat.lt_of_le_of_lt h.2 (by decide)

theorem isWord_of_isIdentifierPart {c : Char} (h : isIdentifierPart c = true) :
    isWord c = true := by
  have ascii : c.toNat < 128 := by
    simp only [isIdentifierPart, isIdentifierStart, Bool.or_eq_true, beq_iff_eq] at h
    rcases h with (letter | rfl) | digit
    · exact ascii_of_isAsciiLetter letter
    · decide
    · exact ascii_of_isAsciiDigit digit
  simp only [isWord, ascii, if_true]
  simpa [isIdentifierPart, isIdentifierStart, Bool.or_right_comm] using h

structure IsName (w : Text) : Prop where
  start : w.head?.any isIdentifierStart = true
  chars : ∀ c ∈ w, isIdentifierPart c = true ∨ c = '$'

instance : DecidablePred IsName := fun _ =>
  decidable_of_iff (_ ∧ _) ⟨fun h => ⟨h.1, h.2⟩, fun h => ⟨h.start, h.chars⟩⟩

theorem isName_of_isIdentifier {w : Text} (h : IsIdentifier w) : IsName w :=
  ⟨h.start, fun c hc => .inl (h.chars c hc)⟩

theorem isNamePart_of_isIdentifierPart {c : Char} (h : isIdentifierPart c = true ∨ c = '$') :
    isNamePart c = true := by
  rcases h with part | rfl
  · exact isNamePart_of_isWord (isWord_of_isIdentifierPart part)
  · decide

theorem next_name (depth : Nat) {w t : Text} (h : IsName w) (stops : Stops t) :
    ∃ c cs, w = c :: cs ∧
      ∀ fresh, Piece.next depth fresh c (cs ++ t) = (.word w [], t) := by
  obtain ⟨start, chars⟩ := h
  cases w with
  | nil => cases start
  | cons c cs =>
    refine ⟨c, cs, rfl, ?_⟩
    intro fresh
    have start : isIdentifierStart c = true := start
    have word : isWord c = true := isWord_of_isIdentifierPart (by simp [isIdentifierPart, start])
    have parts : ∀ d ∈ cs, isNamePart d = true := fun d hd =>
      isNamePart_of_isIdentifierPart (chars d (List.mem_cons_of_mem _ hd))
    have cut : (cs ++ t).takeWhile isNamePart = cs ∧ (cs ++ t).dropWhile isNamePart = t := by
      cases t with
      | nil => rw [List.append_nil]; exact takeWhile_of_all parts
      | cons d ds => exact takeWhile_append_cons (stops d rfl).1 parts ds
    have tick : takeBacktick t = ([], t) := by
      cases t with
      | nil => rfl
      | cons d ds =>
        have := (stops d rfl).2
        simp [takeBacktick, this]
    have other : ∀ d : Char, isWord d = false → c ≠ d := fun d hd => ne_of_isWord word hd
    have nameStart : isNameStart c = true := by
      simp only [isIdentifierStart] at start
      simp [isNameStart, start]
    have letter : isLetter c = true ∨ c = '_' := by
      simp only [isIdentifierStart, Bool.or_eq_true, beq_iff_eq] at start
      rcases start with letter | low
      · left
        simp [isLetter, ascii_of_isAsciiLetter letter, letter]
      · exact .inr low
    simp [Piece.next, Piece.takeWord, other '/' (by decide), other '"' (by decide),
      other '#' (by decide), other '(' (by decide), other '[' (by decide),
      other '\x7b' (by decide), other ')' (by decide), other ']' (by decide),
      other '\x7d' (by decide), other '@' (by decide), letter, nameStart, cut.1, cut.2, tick]

theorem leads_name (source : Text) {r : Reading} (flat : r.depth = 0) {w t : Text}
    (h : IsName w) (stops : Stops t) (pos : Nat) :
    Leads source pos r (r.readWord source pos w) w t := by
  obtain ⟨c, cs, rfl, next⟩ := next_name r.depth h stops
  have := leads_of_next source pos (p := .word (c :: cs) []) next
    (by simp [Piece.text])
  simpa [Reading.step, flat] using this

theorem leads_identifier (source : Text) {r : Reading} (flat : r.depth = 0) {w t : Text}
    (h : IsIdentifier w) (stops : Stops t) (pos : Nat) :
    Leads source pos r (r.readWord source pos w) w t :=
  leads_name source flat (isName_of_isIdentifier h) stops pos

theorem leads_group (source : Text) {r : Reading} {b : Bracket} (kind : b = .paren ∨ b = .square)
    {u : Text} (h : Interior u) (pos : Nat) (t : Text) :
    Leads source pos r r (b.opener :: u ++ [b.closer]) t := by
  have mem : b ∈ blocks := by rcases kind with rfl | rfl <;> simp [blocks]
  have notBrace : b.opener ≠ '\x7b' ∧ b.closer ≠ '\x7d' := by
    rcases kind with rfl | rfl <;> decide
  have deeper : r.step source pos (.opening b.opener) = { r with depth := r.depth + 1 } := by
    simp [Reading.step, notBrace.1]
  have first := leads_opener source pos r mem (u ++ [b.closer] ++ t)
  rw [deeper] at first
  have behind : ([b.closer] ++ t).head? ≠ some '/' ∧ ([b.closer] ++ t).head? ≠ some '*' := by
    rcases kind with rfl | rfl <;> simp [closer]
  have inside := leads_interior source (r := { r with depth := r.depth + 1 })
    (t := [b.closer] ++ t) (by simp) h behind (pos + [b.opener].length)
  have last := leads_closer source (pos + [b.opener].length + u.length)
    { r with depth := r.depth + 1 } mem t
  have back : ({ r with depth := r.depth + 1 } : Reading).step source
      (pos + [b.opener].length + u.length) (.closing b.closer) = r := by
    simp [Reading.step, notBrace.2]
  rw [back] at last
  exact first.append (inside.append last)

theorem stops_tail {t rest : Text} (h : Tail t)
    (start : ∀ c, t.head? = some c → isIdentifierPart c = false) (stops : Stops rest) :
    Stops (t ++ rest) := by
  cases h with
  | nil => exact stops
  | space c blank =>
    rintro d ⟨⟩
    exact not_isNamePart_of_isBlank blank
  | punctuation c mem =>
    rintro d ⟨⟩
    have known : ∀ e ∈ (".,:<>=&?!-" : Text), isNamePart e = false ∧ e ≠ '`' := by decide
    exact known _ mem
  | identifier w word =>
    obtain ⟨first, chars⟩ := word
    cases w with
    | nil => cases first
    | cons c cs =>
      have := start c rfl
      rw [chars c List.mem_cons_self] at this
      cases this
  | group b u kind =>
    rintro d ⟨⟩
    rcases kind with rfl | rfl <;> decide

theorem readWord_other {source : Text} {pos : Nat} {w : Text} {r : Reading}
    (h : w ∉ declarationWords) (h' : w ∉ modifierWords) (lead : r.leadStart = none) :
    r.readWord source pos w = r := by
  have no : declarationWords.contains w = false := by simpa using h
  have no' : modifierWords.contains w = false := by simpa using h'
  simp only [Reading.readWord, no, no', ← lead]
  rfl

theorem leads_tail (source : Text) {r : Reading} (flat : r.depth = 0) (lead : r.leadStart = none)
    {t rest : Text} (h : Tail t) (stops : Stops rest) (pos : Nat) :
    Leads source pos r r t rest := by
  induction h generalizing pos with
  | nil => exact .nil _ _ _ _
  | space c blank _ ih =>
    have one : Blank [c] := by
      intro d hd
      cases List.mem_singleton.mp hd
      exact blank
    exact (leads_blank source one pos _).append (ih _)
  | punctuation c mem _ ih =>
    have apart : ∀ d ∈ (".,:<>=&?!-" : Text),
        d ∉ ("/\"#([\x7b)]\x7d@_" : Text) ∧ isLetter d = false := by decide
    obtain ⟨none, noLetter⟩ := apart c mem
    exact (leads_other source none noLetter pos _).append (ih _)
  | identifier w word notKeyword notModifier start tail ih =>
    have first := leads_identifier source flat word (stops_tail tail start stops) pos
    rw [readWord_other notKeyword notModifier lead] at first
    exact first.append (ih _)
  | group b u kind inside tail ih =>
    rename_i t
    have split : b.opener :: u ++ b.closer :: t = (b.opener :: u ++ [b.closer]) ++ t := by simp
    rw [split]
    exact (leads_group source kind inside pos (t ++ rest)).append (ih _)

theorem isIdentifier_of_known :
    ∀ w ∈ declarationWords ++ modifierWords, w.head?.any isIdentifierStart = true ∧
      ∀ c ∈ w, isIdentifierPart c = true := by decide

theorem modifierWords_apart : ∀ w ∈ modifierWords, w ∉ declarationWords := by decide

theorem readWord_modifier {source : Text} {pos : Nat} {w : Text} {r : Reading}
    (h : w ∈ modifierWords) : r.readWord source pos w = r.startLead pos := by
  have no : declarationWords.contains w = false := by simpa using modifierWords_apart w h
  have yes : modifierWords.contains w = true := List.contains_iff_mem.mpr h
  rw [Reading.readWord, no, yes]
  rfl

theorem leads_mark (source : Text) {r : Reading} (flat : r.depth = 0) {word t : Text}
    (h : WordText word) (stop : ∀ c, t.head? = some c → isWord c = false) (pos : Nat) :
    Leads source pos r (r.startLead pos) ('@' :: word) t := by
  have cut : (word ++ t).takeWhile isWord = word ∧ (word ++ t).dropWhile isWord = t := by
    cases t with
    | nil => rw [List.append_nil]; exact takeWhile_of_all h.chars
    | cons d ds => exact takeWhile_append_cons (stop d rfl) h.chars ds
  have next : ∀ fresh, Piece.next r.depth fresh '@' (word ++ t) = (.mark ('@' :: word), t) := by
    intro fresh
    simp [Piece.next, cut.1, cut.2]
  have := leads_of_next source pos next rfl
  simpa [Reading.step, flat] using this

theorem leads_part (source : Text) {r : Reading} (flat : r.depth = 0) {part : LeadPart}
    (h : part.Legible) {gap t : Text} (ne : gap ≠ []) (blank : Blank gap) (pos : Nat) :
    Leads source pos r (r.startLead pos) part.write (gap ++ t) := by
  have stops := stops_blank (t := t) ne blank
  cases part with
  | modifier w =>
    have known : w ∈ modifierWords := h
    obtain ⟨start, chars⟩ := isIdentifier_of_known w (List.mem_append_right _ known)
    have read := leads_identifier source flat ⟨start, chars⟩ stops pos
    rwa [readWord_modifier known] at read
  | mark word argument =>
    obtain ⟨text, interior⟩ := h
    cases argument with
    | none =>
      refine leads_mark source flat text (fun c hc => ?_) pos
      have := (stops c hc).1
      simp only [isNamePart, Bool.or_eq_false_iff] at this
      exact this.1
    | some a =>
      have split : LeadPart.write (.mark word (some a)) =
          ('@' :: word) ++ ('(' :: a ++ [')']) := by simp [LeadPart.write]
      have group := leads_group source (r := r.startLead pos) (.inl rfl)
        (interior a rfl) (pos + ('@' :: word).length) (gap ++ t)
      rw [split]
      refine (leads_mark source flat text ?_ pos).append group
      rintro c ⟨⟩
      decide

theorem startLead_startLead (r : Reading) (p q : Nat) :
    (r.startLead p).startLead q = r.startLead p := rfl

theorem leads_lead (source : Text) {r : Reading} (flat : r.depth = 0)
    {lead : List (LeadPart × Text)} (parts : ∀ x ∈ lead, x.1.Legible)
    (gaps : ∀ x ∈ lead, x.2 ≠ [] ∧ Blank x.2) (first pos : Nat) (t : Text) :
    Leads source pos (r.startLead first) (r.startLead first) (Written.writeLead lead) t := by
  induction lead generalizing pos with
  | nil => exact .nil _ _ _ _
  | cons x xs ih =>
    obtain ⟨part, gap⟩ := x
    obtain ⟨legible, partsLater⟩ := List.forall_mem_cons.mp parts
    obtain ⟨⟨ne, blank⟩, gapsLater⟩ := List.forall_mem_cons.mp gaps
    have others := ih partsLater gapsLater
    have head := leads_part source (r := r.startLead first) (t := Written.writeLead xs ++ t)
      flat legible ne blank pos
    rw [startLead_startLead] at head
    have split : Written.writeLead ((part, gap) :: xs) =
        part.write ++ (gap ++ Written.writeLead xs) := by simp [Written.writeLead]
    rw [split]
    apply Leads.append
    · rw [List.append_assoc]
      exact head
    · exact (leads_blank source blank _ _).append (others _)

namespace Reading

/-- A member begun at `pos`, what was under way closed there. -/
def start (source : Text) (pos : Nat) (keyword : Text) (r : Reading) : Reading :=
  { r.close source pos with
    current := some ⟨keyword, pos, r.comments, none⟩
    comments := []
    leadStart := none }

theorem start_depth (source : Text) (pos : Nat) (keyword : Text) (r : Reading) :
    (r.start source pos keyword).depth = r.depth := close_depth source pos r

theorem readWord_keyword {source : Text} {pos : Nat} {keyword : Text} {r : Reading}
    (h : keyword ∈ declarationWords) (lead : r.leadStart = none) :
    r.readWord source pos keyword = r.start source pos keyword := by
  have yes : declarationWords.contains keyword = true := List.contains_iff_mem.mpr h
  simp only [readWord, yes, if_true, lead]
  rfl

theorem readWord_keyword_lead {source : Text} {pos first : Nat} {keyword : Text} {r : Reading}
    (h : keyword ∈ declarationWords) (lead : r.leadStart = none) :
    (r.startLead first).readWord source pos keyword = r.start source first keyword := by
  have yes : declarationWords.contains keyword = true := List.contains_iff_mem.mpr h
  simp only [readWord, yes, if_true, startLead, lead, start, close]
  cases r.current <;> rfl

end Reading

theorem leads_front (source : Text) {r : Reading} (flat : r.depth = 0)
    (lead : r.leadStart = none) {m : Written} (parts : ∀ x ∈ m.lead, x.1.Legible)
    (gaps : ∀ x ∈ m.lead, x.2 ≠ [] ∧ Blank x.2) (known : m.keyword ∈ declarationWords)
    {rest : Text} (stops : Stops rest) (pos : Nat) :
    Leads source pos r (r.start source pos m.keyword) (Written.writeLead m.lead ++ m.keyword)
      rest := by
  have keyword : IsIdentifier m.keyword := by
    obtain ⟨start, chars⟩ := isIdentifier_of_known m.keyword (List.mem_append_left _ known)
    exact ⟨start, chars⟩
  cases eq : m.lead with
  | nil =>
    have word := leads_identifier source flat keyword stops pos
    rwa [Reading.readWord_keyword known lead] at word
  | cons x xs =>
    obtain ⟨part, gap⟩ := x
    have mem : (part, gap) ∈ m.lead := by rw [eq]; exact List.mem_cons_self
    have sub : ∀ y ∈ xs, y ∈ m.lead := fun y hy => by rw [eq]; exact List.mem_cons_of_mem _ hy
    obtain ⟨ne, blank⟩ := gaps _ mem
    have split : Written.writeLead ((part, gap) :: xs) =
        part.write ++ (gap ++ Written.writeLead xs) := by simp [Written.writeLead]
    have others := leads_lead source flat (fun y hy => parts y (sub y hy))
      (fun y hy => gaps y (sub y hy)) pos
    have word := fun place => leads_identifier source (r := r.startLead pos) flat
      keyword stops place
    simp only [Reading.readWord_keyword_lead known lead] at word
    have first := leads_part source (r := r)
      (t := Written.writeLead xs ++ m.keyword ++ rest) flat (parts _ mem) ne blank pos
    rw [split, List.append_assoc, List.append_assoc]
    apply Leads.append
    · simpa [List.append_assoc] using first
    · exact (leads_blank source blank _ _).append ((others _ _).append (word _))

theorem leads_header (source : Text) {r : Reading} (flat : r.depth = 0)
    (lead : r.leadStart = none) {m : Written} (h : m.Legible) {rest : Text} (stops : Stops rest)
    (pos : Nat) : Leads source pos r (r.start source pos m.keyword) m.header rest := by
  have tail := leads_tail source (r := r.start source pos m.keyword)
    (by rw [Reading.start_depth, flat]) rfl h.tail stops
  rw [Written.header, ← List.append_assoc]
  exact (leads_front source flat lead h.parts h.gaps h.keyword
    (stops_tail h.tail h.tailStart stops) pos).append (tail _)

theorem lead_head {lead : List (LeadPart × Text)} (parts : ∀ x ∈ lead, x.1.Legible) {t : Text}
    (start : ∀ c, t.head? = some c → isBlank c = false) :
    ∀ c, (Written.writeLead lead ++ t).head? = some c → isBlank c = false := by
  cases lead with
  | nil => exact start
  | cons x xs =>
    obtain ⟨part, gap⟩ := x
    have legible := parts (part, gap) List.mem_cons_self
    intro c hc
    cases part with
    | mark word argument =>
      cases argument with
      | none =>
        have eq : '@' = c := by simpa [Written.writeLead, LeadPart.write] using hc
        exact eq ▸ rfl
      | some a =>
        have eq : '@' = c := by simpa [Written.writeLead, LeadPart.write] using hc
        exact eq ▸ rfl
    | modifier w =>
      have known : w ∈ modifierWords := legible
      obtain ⟨startW, charsW⟩ := isIdentifier_of_known w (List.mem_append_right _ known)
      cases w with
      | nil => cases startW
      | cons d ds =>
        have eq : d = c := by simpa [Written.writeLead, LeadPart.write] using hc
        have word := isWord_of_isIdentifierPart (charsW d List.mem_cons_self)
        exact eq ▸ not_isBlank_of_isWord word

theorem trimmed_written {m : Written} (parts : ∀ x ∈ m.lead, x.1.Legible)
    (known : m.keyword ∈ declarationWords)
    (tailEnd : ∀ c, m.tail.getLast? = some c → isBlank c = false) : Trimmed m.header := by
  obtain ⟨start, chars⟩ := isIdentifier_of_known m.keyword (List.mem_append_left _ known)
  have words : ∀ c ∈ m.keyword, isBlank c = false := fun c hc =>
    not_isBlank_of_isWord (isWord_of_isIdentifierPart (chars c hc))
  have ne : m.keyword ≠ [] := by
    intro empty
    rw [empty] at start
    cases start
  constructor
  · apply lead_head parts
    intro c hc
    rw [List.head?_append_of_ne_nil _ ne] at hc
    exact words c (List.mem_of_head? hc)
  · unfold Written.header
    cases tail : m.tail with
    | nil =>
      rw [List.append_nil, List.getLast?_append_of_ne_nil _ ne]
      exact fun c hc => words c (List.mem_of_getLast? hc)
    | cons d ds =>
      rw [List.getLast?_append_of_ne_nil _ (by simp), List.getLast?_append_of_ne_nil _ (by simp),
        ← tail]
      exact tailEnd

theorem trimmed_header {m : Written} (h : m.Legible) : Trimmed m.header :=
  trimmed_written h.parts h.keyword h.tailEnd

end ViewCases.Member
