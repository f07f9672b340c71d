import Mathlib.Data.List.TakeWhile
import ViewCases.Interface.ExtensionHeader
import ViewCases.Proofs.Attribute
import ViewCases.Proofs.Bracket.Literal
import ViewCases.Proofs.Signature.Front

/-! The two readers of the header of an extension. The one for the availability ends the
argument of an attribute at its own parenthesis, the one for the type at the first closing
parenthesis. They agree as long as no argument holds parentheses. Behind a nested argument
the reader of the type goes on inside of it, and never comes out. -/
namespace ViewCases.ExtensionHeader
open Text ViewCases.Bracket

def IsGap (gap : Text) : Prop := gap ≠ [] ∧ Blank gap

instance : DecidablePred IsGap := fun _ => inferInstanceAs (Decidable (_ ∧ _))

structure Mark where
  word : Text
  argument : Option Text
  gap : Text
  deriving DecidableEq, Repr

namespace Mark

def writeArgument : Option Text → Text
  | none => []
  | some argument => '(' :: argument ++ [')']

def text (m : Mark) : Text := '@' :: m.word ++ writeArgument m.argument

def write (m : Mark) : Text := m.text ++ m.gap

structure Legible (m : Mark) : Prop where
  word : WordText m.word
  argument : ∀ argument ∈ m.argument, ParensClosed argument
  gap : IsGap m.gap

/-- Nothing in the argument closes a parenthesis, so nothing in it opens one. -/
def Flat (m : Mark) : Prop := ∀ argument ∈ m.argument, ')' ∉ argument

end Mark

/-- The parts of a header. Every word has the white space behind it. -/
structure Declaration where
  marks : List Mark
  words : List (Text × Text)
  gap : Text
  type : Text
  tail : Text
  deriving DecidableEq, Repr

namespace Declaration

def writeMarks (marks : List Mark) : Text := marks.flatMap Mark.write

def writeWords (words : List (Text × Text)) : Text := words.flatMap fun w => w.1 ++ w.2

def write (d : Declaration) : Text :=
  writeMarks d.marks ++ (writeWords d.words ++ ("extension" ++ (d.gap ++ (d.type ++ d.tail))))

/-- The headers that have these parts. Any words may stand before the keyword; the type
ends where its characters do. -/
structure Legible (d : Declaration) : Prop where
  marks : ∀ m ∈ d.marks, m.Legible
  words : ∀ w ∈ d.words, WordText w.1 ∧ w.1 ≠ "extension" ∧ IsGap w.2
  gap : IsGap d.gap
  typed : d.type ≠ [] ∧ ∀ c ∈ d.type, isTypeNameChar c = true
  tail : ∀ c, d.tail.head? = some c → isTypeNameChar c = false

end Declaration

theorem IsGap.cons {gap : Text} (h : IsGap gap) : ∃ c cs, gap = c :: cs ∧ isBlank c = true := by
  cases gap with
  | nil => exact absurd rfl h.1
  | cons c cs => exact ⟨c, cs, rfl, h.2 c List.mem_cons_self⟩

theorem partner?_parensClosed {argument : Text} (h : ParensClosed argument) (t : Text) :
    partner? .paren ('(' :: argument ++ ')' :: t) = some (argument.length + 1) := by
  have inside : balancedFrom .paren (some '(') 0 argument = true := by
    rw [balancedFrom_eq_none (by decide)]
    exact h
  have pass := partnerFrom_balanced inside (Nat.le_refl 1) 1 (')' :: t)
  have ends : ∀ prev, Bracket.paren.closes prev ')' = true := by
    intro prev
    simp [closes, closer, arrowHead]
  rw [Nat.add_zero] at pass
  rw [List.cons_append, partner?, partnerFrom, if_pos (by rfl), pass, partnerFrom,
    if_neg (by decide), if_pos (ends _), if_pos rfl, Nat.add_comm]

theorem Mark.take?_text {m : Mark} (h : m.Legible) (t : Text) :
    Attribute.take? (m.text ++ (m.gap ++ t)) = some (m.text, m.gap ++ t) := by
  obtain ⟨word, argument, gap⟩ := m
  obtain ⟨c, cs, rfl, blank⟩ := h.gap.cons
  cases argument with
  | none =>
    have paren : c ≠ '(' := by
      rintro rfl
      cases blank
    rw [text, writeArgument, List.append_nil]
    exact Attribute.take?_word h.word (not_isWord_of_isBlank blank) paren _
  | some argument =>
    have partner := partner?_parensClosed (h.argument argument rfl) (c :: cs ++ t)
    have whole := Attribute.take?_argument h.word partner
    rw [List.append_assoc ('@' :: word)] at whole
    exact whole

theorem takeAll_write {marks : List Mark} (h : ∀ m ∈ marks, m.Legible) {t : Text}
    (unmarked : (Attribute.takeAll t).1 = []) :
    (Attribute.takeAll (Declaration.writeMarks marks ++ t)).1 = marks.map Mark.text := by
  induction marks with
  | nil => exact unmarked
  | cons m ms ih =>
    obtain ⟨legible, others⟩ := List.forall_mem_cons.mp h
    have start : ∀ u, stripStart (m.text ++ u) = m.text ++ u := by
      intro u
      apply stripStart_of_head
      rintro c ⟨⟩
      decide
    have first := Mark.take?_text legible (Declaration.writeMarks ms ++ t)
    rw [← start] at first
    have text : Declaration.writeMarks (m :: ms) ++ t =
        m.text ++ (m.gap ++ (Declaration.writeMarks ms ++ t)) := by
      simp [Declaration.writeMarks, Mark.write]
    rw [text, Attribute.takeAll_of_take? first, Attribute.takeAll_blank legible.gap.2, ih others]
    rfl

theorem typeFrom?_eq (t : Text) :
    typeFrom? t = (namedType? t).or ((skipItem? t).bind typeFrom?) := by
  conv_lhs => rw [typeFrom?]
  split
  · next name named => rw [named, Option.some_or]
  · next unnamed =>
    rw [unnamed, Option.none_or]
    split
    · next rest skipped => rw [skipped, Option.bind_some]
    · next stuck => rw [stuck, Option.bind_none]

theorem skipBlanks?_gap {gap : Text} (h : IsGap gap) (t : Text) :
    skipBlanks? (gap ++ t) = some (stripStart t) := by
  obtain ⟨c, cs, rfl, blank⟩ := h.cons
  have first : ((c :: cs ++ t).head?.any isBlank) = true := blank
  rw [skipBlanks?, if_pos first, stripStart_append h.2]

theorem skipItem?_attribute {word : Text} (h : WordText word) {d : Char} (stop : isWord d = false)
    (t : Text) : skipItem? ('@' :: word ++ d :: t) = skipBlanks? (skipArgument (d :: t)) := by
  rw [skipItem?, Attribute.name?_word h stop]

theorem skipArgument_first {x : Text} (flat : ')' ∉ x) (t : Text) :
    skipArgument ('(' :: x ++ ')' :: t) = t := by
  have chars : ∀ c ∈ x, decide (c ≠ ')') = true := fun c hc =>
    decide_eq_true fun eq => flat (eq ▸ hc)
  have cut := (takeWhile_append_cons (c := ')') (by simp) chars t).2
  rw [List.cons_append, skipArgument]
  simp only [cut]

theorem skipArgument_of_head {t : Text} (h : t.head? ≠ some '(') : skipArgument t = t := by
  unfold skipArgument
  split
  · exact absurd rfl h
  · rfl

theorem namedType?_of_lead {t rest : Text} (h : dropLead? "extension" t = some rest) :
    namedType? t =
      ((skipBlanks? rest).map (·.takeWhile isTypeNameChar)).filter fun name => !name.isEmpty := by
  rw [namedType?, h]
  simp only [Option.bind_eq_bind, Option.bind_some]
  cases skipBlanks? rest with
  | none => rfl
  | some start =>
    simp only [Option.bind_some, Option.map_some]
    cases start.takeWhile isTypeNameChar <;> rfl

theorem namedType?_attribute (t : Text) : namedType? ('@' :: t) = none := rfl

def Solid (t : Text) : Prop := ∃ c cs, t = c :: cs ∧ isBlank c = false

theorem Solid.append {t : Text} (h : Solid t) (u : Text) : Solid (t ++ u) := by
  obtain ⟨c, cs, rfl, solid⟩ := h
  exact ⟨c, cs ++ u, rfl, solid⟩

theorem Solid.head {t : Text} (h : Solid t) : ∀ c, t.head? = some c → isBlank c = false := by
  obtain ⟨c, cs, rfl, solid⟩ := h
  rintro d ⟨⟩
  exact solid

theorem solid_flatten {parts : List Text} (h : ∀ part ∈ parts, Solid part) {t : Text}
    (start : Solid t) : Solid (parts.flatten ++ t) := by
  cases parts with
  | nil => exact start
  | cons part parts =>
    rw [List.flatten_cons, List.append_assoc]
    exact (h part List.mem_cons_self).append _

theorem solid_keyword (t : Text) : Solid ("extension" ++ t) := ⟨_, _, rfl, by decide⟩

theorem Mark.solid_text (m : Mark) : Solid m.text := ⟨_, _, rfl, by decide⟩

/-- A part of a header that says nothing about the type. -/
structure Skipped (part : Text) : Prop where
  solid : Solid part
  unnamed : ∀ t, namedType? (part ++ t) = none
  passed : ∀ t, skipItem? (part ++ t) = some (stripStart t)

theorem typeFrom?_skipped {parts : List Text} (h : ∀ part ∈ parts, Skipped part) {t : Text}
    (start : Solid t) : typeFrom? (parts.flatten ++ t) = typeFrom? t := by
  induction parts with
  | nil => rfl
  | cons part parts ih =>
    obtain ⟨first, others⟩ := List.forall_mem_cons.mp h
    have solid := solid_flatten (fun part mem => (others part mem).solid) start
    rw [List.flatten_cons, List.append_assoc, typeFrom?_eq, first.unnamed, first.passed,
      Option.none_or, Option.bind_some, stripStart_of_head solid.head, ih others]

theorem Mark.skipped {m : Mark} (h : m.Legible) (flat : m.Flat) : Skipped m.write := by
  refine ⟨m.solid_text.append m.gap, fun t => namedType?_attribute _, fun t => ?_⟩
  obtain ⟨word, argument, gap⟩ := m
  obtain ⟨c, cs, rfl, blank⟩ := h.gap.cons
  cases argument with
  | none =>
    have noParen : (c :: cs ++ t).head? ≠ some '(' := by
      rintro ⟨⟩
      cases blank
    have skip := skipItem?_attribute h.word (not_isWord_of_isBlank blank) (cs ++ t)
    rw [← List.cons_append, skipArgument_of_head noParen, skipBlanks?_gap h.gap] at skip
    rw [write, text, writeArgument, List.append_nil, List.append_assoc]
    exact skip
  | some argument =>
    have skip := skipItem?_attribute h.word (d := '(') (by decide) (argument ++ ')' :: (c :: cs ++ t))
    rw [← List.cons_append, skipArgument_first (flat argument rfl), skipBlanks?_gap h.gap] at skip
    rw [← skip]
    simp [write, text, writeArgument]

theorem namedType?_word {w gap : Text} (h : WordText w) (other : w ≠ "extension") (apart : IsGap gap)
    (t : Text) : namedType? (w ++ (gap ++ t)) = none := by
  obtain ⟨c, cs, rfl, blank⟩ := apart.cons
  have run := (takeWhile_append_cons (not_isWord_of_isBlank blank) h.chars (cs ++ t)).1
  cases lead : dropLead? "extension" (w ++ (c :: cs ++ t)) with
  | none => rw [namedType?, lead]; rfl
  | some rest =>
    have text := eq_append_of_dropLead? lead
    have keyword : ∀ c ∈ ("extension" : Text), isWord c = true := by decide
    -- The keyword ends inside of the word, so a character of the word follows it.
    have longer : w = "extension" ++ rest.takeWhile isWord := by
      rw [← run, ← List.cons_append, text, List.takeWhile_append_of_pos keyword]
    have unspaced : skipBlanks? rest = none := by
      cases rest with
      | nil => exact absurd longer (by simpa using other)
      | cons d ds =>
        cases word : isWord d with
        | true => simp [skipBlanks?, not_isBlank_of_isWord word]
        | false => exact absurd longer (by simpa [word] using other)
    rw [namedType?_of_lead lead, unspaced]
    rfl

theorem skipped_word {w gap : Text} (h : WordText w) (other : w ≠ "extension") (apart : IsGap gap) :
    Skipped (w ++ gap) := by
  obtain ⟨d, ds, rfl, word⟩ := h.head_isWord
  refine ⟨⟨d, _, rfl, not_isBlank_of_isWord word⟩, fun t => ?_, fun t => ?_⟩
  · rw [List.append_assoc]
    exact namedType?_word h other apart t
  · obtain ⟨c, cs, eq, blank⟩ := apart.cons
    have unmarked : Attribute.name? (d :: ds ++ (gap ++ t)) = none := by
      have noMark : d ≠ '@' := ne_of_isWord word (by decide)
      simp [Attribute.name?, noMark]
    have run := takeWhile_append_cons (not_isWord_of_isBlank blank) h.chars (cs ++ t)
    rw [← List.cons_append, ← eq] at run
    rw [List.append_assoc, skipItem?, unmarked]
    simp only [run.1, run.2, skipBlanks?_gap apart]
    rfl

theorem not_isBlank_of_isTypeNameChar {c : Char} (h : isTypeNameChar c = true) :
    isBlank c = false := by
  rcases Bool.or_eq_true_iff.mp h with word | dot
  · exact not_isBlank_of_isWord word
  · rw [eq_of_beq dot]
    decide

theorem namedType?_keyword {gap type tail : Text} (apart : IsGap gap) (ne : type ≠ [])
    (chars : ∀ c ∈ type, isTypeNameChar c = true)
    (ends : ∀ c, tail.head? = some c → isTypeNameChar c = false) :
    namedType? ("extension" ++ (gap ++ (type ++ tail))) = some type := by
  have start : stripStart (type ++ tail) = type ++ tail := by
    apply stripStart_of_head
    rw [List.head?_append_of_ne_nil type ne]
    exact fun c hc => not_isBlank_of_isTypeNameChar (chars c (List.mem_of_head? hc))
  have name : (type ++ tail).takeWhile isTypeNameChar = type := by
    cases tail with
    | nil =>
      rw [List.append_nil]
      exact (takeWhile_of_all chars).1
    | cons c cs => exact (takeWhile_append_cons (ends c rfl) chars cs).1
  rw [namedType?_of_lead (dropLead?_append _ _), skipBlanks?_gap apart, start, Option.map_some,
    name]
  simp [ne]

def Overclosed (t : Text) : Prop := t.count '(' < t.count ')'

theorem Overclosed.mem {t : Text} (h : Overclosed t) : ')' ∈ t :=
  List.count_pos_iff.mp (Nat.zero_lt_of_lt h)

theorem Overclosed.behind {front t : Text} (h : Overclosed (front ++ t)) (flat : ')' ∉ front) :
    Overclosed t := by
  have none := List.count_eq_zero.mpr flat
  simp only [Overclosed, List.count_append] at h ⊢
  omega

theorem Overclosed.dropWhile {t : Text} (h : Overclosed t) {p : Char → Bool} (stop : p ')' = false) :
    Overclosed (t.dropWhile p) := by
  rw [← List.takeWhile_append_dropWhile (p := p) (l := t)] at h
  refine h.behind fun mem => ?_
  have := List.mem_takeWhile_imp mem
  rw [stop] at this
  cases this

theorem dropWhile_ne_nil {p : Char → Bool} {t : Text} {d : Char} (mem : d ∈ t)
    (stop : p d = false) : t.dropWhile p ≠ [] := by
  intro all
  have := List.dropWhile_eq_nil_iff.mp all d mem
  rw [stop] at this
  cases this

theorem Overclosed.skipBlanks? {t rest : Text} (h : Overclosed t)
    (skip : skipBlanks? t = some rest) : Overclosed rest := by
  unfold ExtensionHeader.skipBlanks? at skip
  split at skip
  · cases skip
    exact h.dropWhile (by decide)
  · cases skip

theorem skipBlanks?_append {t : Text} (mem : ')' ∈ t) (u : Text) :
    skipBlanks? (t ++ u) = (skipBlanks? t).map (· ++ u) := by
  have more := FunctionHeader.stripStart_append_of_ne (dropWhile_ne_nil mem (by decide)) u
  rw [skipBlanks?, skipBlanks?, List.head?_append_of_ne_nil t (List.ne_nil_of_mem mem), more]
  split <;> rfl

theorem dropLead?_append_of_mem {lead t : Text} {d : Char} (mem : d ∈ t) (other : d ∉ lead)
    (u : Text) : dropLead? lead (t ++ u) = (dropLead? lead t).map (· ++ u) := by
  induction lead generalizing t with
  | nil => cases t <;> rfl
  | cons p ps ih =>
    have notLater : d ∉ ps := fun later => other (List.mem_cons_of_mem p later)
    cases t with
    | nil => cases mem
    | cons c cs =>
      rw [List.cons_append, dropLead?, dropLead?]
      split
      · next same =>
        subst same
        have notHere : d ≠ p := fun eq => other (eq ▸ List.mem_cons_self)
        exact ih ((List.mem_cons.mp mem).resolve_left notHere) notLater
      · rfl

theorem namedType?_append {t : Text} (h : Overclosed t) (u : Text) :
    namedType? (t ++ u) = namedType? t := by
  have longer : dropLead? "extension" (t ++ u) = (dropLead? "extension" t).map (· ++ u) :=
    dropLead?_append_of_mem h.mem (by decide) u
  cases lead : dropLead? "extension" t with
  | none =>
    rw [lead] at longer
    rw [namedType?, namedType?, lead, longer]
    rfl
  | some rest =>
    rw [lead, Option.map_some] at longer
    have inside : Overclosed rest := by
      rw [eq_append_of_dropLead? lead] at h
      exact h.behind (by decide)
    rw [namedType?_of_lead lead, namedType?_of_lead longer, skipBlanks?_append inside.mem]
    cases blanks : skipBlanks? rest with
    | none => rfl
    | some start =>
      have ends : start.dropWhile isTypeNameChar ≠ [] :=
        dropWhile_ne_nil (inside.skipBlanks? blanks).mem (by decide)
      simp only [Option.map_some, (FunctionHeader.run_append ends u).1]

theorem skipArgument_append {t : Text} (h : Overclosed t) (u : Text) :
    skipArgument (t ++ u) = skipArgument t ++ u ∧ Overclosed (skipArgument t) := by
  by_cases opens : t.head? = some '('
  · obtain ⟨rest, rfl⟩ := List.head?_eq_some_iff.mp opens
    have inside : ')' ∈ rest := (List.mem_cons.mp h.mem).resolve_left (by decide)
    obtain ⟨x, y, rfl, flat⟩ := List.eq_append_cons_of_mem inside
    have fewer : Overclosed y := by
      have none := List.count_eq_zero.mpr flat
      simp [Overclosed, none] at h ⊢
      omega
    have text : '(' :: (x ++ ')' :: y) ++ u = '(' :: x ++ ')' :: (y ++ u) := by simp
    rw [text, skipArgument_first flat, ← List.cons_append, skipArgument_first flat]
    exact ⟨rfl, fewer⟩
  · have longer : (t ++ u).head? ≠ some '(' := by
      rwa [List.head?_append_of_ne_nil t (List.ne_nil_of_mem h.mem)]
    rw [skipArgument_of_head opens, skipArgument_of_head longer]
    exact ⟨rfl, h⟩

theorem name?_append {t : Text} (mem : ')' ∈ t) (u : Text) :
    Attribute.name? (t ++ u) = (Attribute.name? t).map fun (name, rest) => (name, rest ++ u) := by
  cases t with
  | nil => cases mem
  | cons c cs =>
    by_cases mark : c = '@'
    · subst mark
      have inside : ')' ∈ cs := (List.mem_cons.mp mem).resolve_left (by decide)
      have run := FunctionHeader.run_append (dropWhile_ne_nil (p := isWord) inside (by decide)) u
      simp only [List.cons_append, Attribute.name?, run]
      split <;> rfl
    · simp [Attribute.name?, mark]

theorem Overclosed.name? {t name rest : Text} (h : Overclosed t)
    (named : Attribute.name? t = some (name, rest)) : Overclosed rest := by
  unfold Attribute.name? at named
  split at named
  · next word =>
    split at named
    · cases named
    · cases named
      have inside : Overclosed word := @Overclosed.behind ['@'] word h (by decide)
      exact inside.dropWhile (by decide)
  · cases named

theorem skipItem?_append {t : Text} (h : Overclosed t) (u : Text) :
    skipItem? (t ++ u) = (skipItem? t).map (· ++ u) ∧
      ∀ rest, skipItem? t = some rest → Overclosed rest := by
  have longer := name?_append h.mem u
  cases named : Attribute.name? t with
  | none =>
    have behind : Overclosed (t.dropWhile isWord) := h.dropWhile (by decide)
    have run := FunctionHeader.run_append (dropWhile_ne_nil (p := isWord) h.mem (by decide)) u
    rw [named] at longer
    simp only [skipItem?, named, longer, Option.map_none, run]
    split
    · exact ⟨rfl, fun rest skip => nomatch skip⟩
    · exact ⟨skipBlanks?_append behind.mem u, fun rest skip => behind.skipBlanks? skip⟩
  | some found =>
    obtain ⟨name, rest⟩ := found
    have behind : Overclosed rest := h.name? named
    obtain ⟨further, inside⟩ := skipArgument_append behind u
    rw [named] at longer
    simp only [skipItem?, named, longer, Option.map_some, further]
    exact ⟨skipBlanks?_append inside.mem u, fun rest skip => inside.skipBlanks? skip⟩

/-- The reader never comes out of a text that closes more than it opens. -/
theorem typeFrom?_append {t : Text} (h : Overclosed t) (u : Text) :
    typeFrom? (t ++ u) = typeFrom? t := by
  obtain ⟨longer, kept⟩ := skipItem?_append h u
  rw [typeFrom?_eq, typeFrom?_eq t, namedType?_append h, longer]
  cases skip : skipItem? t with
  | none => rfl
  | some rest =>
    have onward := typeFrom?_append (kept rest skip) u
    rw [Option.map_some, Option.bind_some, Option.bind_some, onward]
termination_by t.length
decreasing_by exact length_skipItem? skip

theorem skipBlanks?_suffix {t rest : Text} (h : skipBlanks? t = some rest) : rest <:+ t := by
  unfold skipBlanks? at h
  split at h
  · cases h
    exact List.dropWhile_suffix isBlank
  · cases h

theorem skipItem?_suffix {t rest : Text} (h : skipItem? t = some rest) : rest <:+ t := by
  have argument : ∀ u : Text, skipArgument u <:+ u := by
    intro u
    unfold skipArgument
    split
    · next inside =>
      split
      · next d behind eq =>
        have tail : behind <:+ inside.dropWhile (· ≠ ')') := eq ▸ List.suffix_cons d behind
        exact (tail.trans (List.dropWhile_suffix _)).trans (List.suffix_cons '(' inside)
      · exact List.suffix_rfl
    · exact List.suffix_rfl
  unfold skipItem? at h
  split at h
  · next name behind named =>
    have text := (Attribute.name?_eq_some named).2
    rw [text]
    exact ((skipBlanks?_suffix h).trans (argument behind)).trans (List.suffix_append _ _)
  · split at h
    · cases h
    · exact (skipBlanks?_suffix h).trans (List.dropWhile_suffix isWord)

theorem spells_keyword {t name : Text} (h : typeFrom? t = some name) :
    ("extension" : Text) <:+: t := by
  rw [typeFrom?_eq] at h
  cases lead : dropLead? "extension" t with
  | some rest =>
    rw [eq_append_of_dropLead? lead]
    exact (List.prefix_append _ rest).isInfix
  | none =>
    have unnamed : namedType? t = none := by
      rw [namedType?, lead]
      rfl
    rw [unnamed, Option.none_or] at h
    obtain ⟨rest, skip, behind⟩ := Option.bind_eq_some_iff.mp h
    exact (spells_keyword behind).trans (skipItem?_suffix skip).isInfix
termination_by t.length
decreasing_by exact length_skipItem? skip

theorem count_balancedFrom {prev : Option Char} {depth : Nat} {t : Text}
    (h : balancedFrom .paren prev depth t = true) : t.count ')' = depth + t.count '(' := by
  induction t generalizing prev depth with
  | nil =>
    have zero : depth = 0 := by simpa [balancedFrom] using h
    rw [zero]
    rfl
  | cons c cs ih =>
    simp only [balancedFrom] at h
    split at h
    · next opens =>
      have rest := ih h
      rw [opens]
      simp [opener, rest]
      omega
    · next other =>
      have noOpener : c ≠ '(' := other
      split at h
      · next shut =>
        have closer : c = ')' := eq_of_beq (Bool.and_eq_true_iff.mp shut).1
        cases depth with
        | zero => cases h
        | succ depth =>
          have rest := ih h
          simp [closer, rest]
          omega
      · next plain =>
        have noCloser : c ≠ ')' := by
          rintro rfl
          simp [closes, closer, arrowHead] at plain
        rw [List.count_cons_of_ne noCloser, List.count_cons_of_ne noOpener]
        exact ih h

theorem count_parensClosed {x y : Text} (h : ParensClosed (x ++ y)) :
    y.count '(' ≤ y.count ')' := by
  obtain ⟨prev, depth, rest⟩ := balancedFrom_behind h
  rw [count_balancedFrom rest]
  exact Nat.le_add_left _ _

/-- The reader goes on behind the first parenthesis that a nested argument closes. What it
has before it there is overclosed. -/
theorem Mark.skipItem?_nested {m : Mark} (h : m.Legible) (nested : ¬m.Flat) :
    ∃ x y, m.argument = some (x ++ ')' :: y) ∧ Overclosed (y ++ [')']) ∧
      ∀ u, skipItem? (m.text ++ u) = skipBlanks? (y ++ [')'] ++ u) := by
  obtain ⟨word, argument, gap⟩ := m
  simp only [Flat, Classical.not_forall, Classical.not_not] at nested
  obtain ⟨inside, rfl, mem⟩ := nested
  obtain ⟨x, y, rfl, flat⟩ := List.eq_append_cons_of_mem mem
  refine ⟨x, y, rfl, ?_, fun u => ?_⟩
  · have closed := h.argument _ rfl
    rw [List.append_cons] at closed
    have fewer := count_parensClosed closed
    simp [Overclosed]
    omega
  · have skip := skipItem?_attribute h.word (d := '(') (by decide) (x ++ ')' :: (y ++ [')'] ++ u))
    rw [← List.cons_append, skipArgument_first flat] at skip
    rw [← skip]
    simp [text, writeArgument]

theorem Mark.typeFrom?_nested {m : Mark} (h : m.Legible) (nested : ¬m.Flat) (u : Text) :
    typeFrom? (m.text ++ u) = typeFrom? m.text := by
  obtain ⟨x, y, -, surplus, skip⟩ := skipItem?_nested h nested
  have read : ∀ v, typeFrom? (m.text ++ v) = (skipBlanks? (y ++ [')'])).bind typeFrom? := by
    intro v
    have unnamed : namedType? (m.text ++ v) = none := namedType?_attribute _
    rw [typeFrom?_eq, unnamed, Option.none_or, skip, skipBlanks?_append surplus.mem]
    cases rest : ExtensionHeader.skipBlanks? (y ++ [')']) with
    | none => rfl
    | some rest => exact typeFrom?_append (surplus.skipBlanks? rest) v
  have alone := read []
  rw [List.append_nil] at alone
  rw [read, alone]

theorem Mark.spells_keyword {m : Mark} (h : m.Legible) (nested : ¬m.Flat) {name : Text}
    (read : typeFrom? m.text = some name) :
    ∃ argument ∈ m.argument, ("extension" : Text) <:+: argument := by
  obtain ⟨x, y, written, -, skip⟩ := skipItem?_nested h nested
  have unnamed : namedType? m.text = none := namedType?_attribute _
  have skip := skip []
  rw [List.append_nil, List.append_nil] at skip
  rw [typeFrom?_eq, unnamed, Option.none_or, skip] at read
  obtain ⟨rest, blanks, behind⟩ := Option.bind_eq_some_iff.mp read
  obtain ⟨front, back, split⟩ :=
    (ExtensionHeader.spells_keyword behind).trans (skipBlanks?_suffix blanks).isInfix
  refine ⟨_, written, ?_⟩
  rcases List.eq_nil_or_concat back with rfl | ⟨back, c, rfl⟩
  · have last := congrArg List.getLast? split
    rw [List.append_nil, List.getLast?_append_of_ne_nil front (by decide),
      List.getLast?_concat] at last
    exact absurd last (by decide)
  · have inside : front ++ "extension" ++ back = y := by
      rw [List.concat_eq_append, ← List.append_assoc] at split
      exact (List.append_inj' split rfl).1
    exact ⟨x ++ ')' :: front, back, by simp [← inside]⟩

namespace Declaration

def parts (d : Declaration) : List Text :=
  d.marks.map Mark.write ++ d.words.map fun w => w.1 ++ w.2

theorem write_eq_parts (d : Declaration) : d.write =
    (d.parts.flatten ++ ("extension" ++ (d.gap ++ d.type))) ++ d.tail := by
  simp [write, parts, writeMarks, writeWords, List.flatMap_def]

theorem solid_parts {d : Declaration} (h : d.Legible) : ∀ part ∈ d.parts, Solid part := by
  intro part mem
  rcases List.mem_append.mp mem with mem | mem
  · obtain ⟨m, -, rfl⟩ := List.mem_map.mp mem
    exact ⟨_, _, rfl, by decide⟩
  · obtain ⟨w, inside, rfl⟩ := List.mem_map.mp mem
    obtain ⟨word, other, apart⟩ := h.words w inside
    exact (skipped_word word other apart).solid

theorem strip_write {d : Declaration} (h : d.Legible) : strip d.write =
    d.parts.flatten ++ ("extension" ++ (d.gap ++ (d.type ++ stripEnd d.tail))) := by
  have solid : Solid (d.parts.flatten ++ ("extension" ++ (d.gap ++ d.type))) :=
    solid_flatten (solid_parts h) (solid_keyword _)
  have last : ∀ c, (d.parts.flatten ++ ("extension" ++ (d.gap ++ d.type))).getLast? = some c →
      isBlank c = false := by
    rw [← List.append_assoc, ← List.append_assoc, List.getLast?_append_of_ne_nil _ h.typed.1]
    exact fun c hc => not_isBlank_of_isTypeNameChar (h.typed.2 c (List.mem_of_getLast? hc))
  have ne : d.parts.flatten ++ (("extension" : Text) ++ (d.gap ++ d.type)) ≠ [] := by simp
  rw [write_eq_parts, strip_append_trimmed ⟨solid.head, last⟩ ne]
  simp only [List.append_assoc]

theorem availability_write {d : Declaration} (h : d.Legible) :
    availability d.write = Attribute.availability (d.marks.map Mark.text) := by
  have unmarked : (Attribute.takeAll (writeWords d.words ++
      ("extension" ++ (d.gap ++ (d.type ++ d.tail))))).1 = [] := by
    cases written : d.words with
    | nil => exact congrArg Prod.fst (Attribute.takeAll_word (w := "extension") (by decide) _)
    | cons w ws =>
      have word := (h.words w (by simp [written])).1
      have text : writeWords (w :: ws) ++ ("extension" ++ (d.gap ++ (d.type ++ d.tail))) =
          w.1 ++ (w.2 ++ (writeWords ws ++ ("extension" ++ (d.gap ++ (d.type ++ d.tail))))) := by
        simp [writeWords]
      rw [text, Attribute.takeAll_word word]
  rw [availability, write, takeAll_write h.marks unmarked]

theorem extendedType?_flat {d : Declaration} (h : d.Legible) (flat : ∀ m ∈ d.marks, m.Flat) :
    extendedType? d.write = some d.type := by
  have skipped : ∀ part ∈ d.parts, Skipped part := by
    intro part mem
    rcases List.mem_append.mp mem with mem | mem
    · obtain ⟨m, inside, rfl⟩ := List.mem_map.mp mem
      exact Mark.skipped (h.marks m inside) (flat m inside)
    · obtain ⟨w, inside, rfl⟩ := List.mem_map.mp mem
      obtain ⟨word, other, apart⟩ := h.words w inside
      exact skipped_word word other apart
  have ends : ∀ c, (stripEnd d.tail).head? = some c → isTypeNameChar c = false :=
    fun c hc => h.tail c (stripEnd_head hc)
  have named := namedType?_keyword h.gap h.typed.1 h.typed.2 ends
  rw [extendedType?, strip_write h, typeFrom?_skipped skipped (solid_keyword _),
    typeFrom?_eq, named, Option.some_or]

theorem extendedType?_nested {d : Declaration} (h : d.Legible) {before after : List Mark} {m : Mark}
    (marks : d.marks = before ++ m :: after) (flat : ∀ n ∈ before, n.Flat) (nested : ¬m.Flat) :
    extendedType? d.write = typeFrom? m.text ∧
      extendedType? (writeMarks before ++ m.text) = typeFrom? m.text := by
  have legible : ∀ n ∈ before, n.Legible := fun n mem => h.marks n (by simp [marks, mem])
  have first := h.marks m (by simp [marks])
  have skipped : ∀ part ∈ before.map Mark.write, Skipped part := by
    intro part mem
    obtain ⟨n, inside, rfl⟩ := List.mem_map.mp mem
    exact Mark.skipped (legible n inside) (flat n inside)
  have read : ∀ u, typeFrom? (writeMarks before ++ (m.text ++ u)) = typeFrom? m.text := by
    intro u
    rw [writeMarks, List.flatMap_def, typeFrom?_skipped skipped (m.solid_text.append u),
      Mark.typeFrom?_nested first nested]
  constructor
  · have text : d.parts.flatten ++ ("extension" ++ (d.gap ++ (d.type ++ stripEnd d.tail))) =
        writeMarks before ++ (m.text ++ (m.gap ++ (writeMarks after ++ (writeWords d.words ++
          ("extension" ++ (d.gap ++ (d.type ++ stripEnd d.tail))))))) := by
      simp [parts, marks, writeMarks, writeWords, List.flatMap_def, Mark.write]
    rw [extendedType?, strip_write h, text, read]
  · have trimmed : Trimmed (writeMarks before ++ m.text) := by
      have start := solid_flatten (fun part mem => (skipped part mem).solid) m.solid_text
      refine ⟨start.head, ?_⟩
      obtain ⟨x, y, written, -⟩ := Mark.skipItem?_nested first nested
      have last : (writeMarks before ++ m.text).getLast? = some ')' := by
        rw [Mark.text, written, Mark.writeArgument, ← List.append_assoc, ← List.append_assoc,
          List.getLast?_concat]
      rw [last]
      rintro c ⟨⟩
      decide
    have alone := read []
    rw [List.append_nil] at alone
    rw [extendedType?, strip_of_trimmed trimmed, alone]

/-- The availability of a header is what its attributes state. Its type is read if no argument
holds parentheses; otherwise nothing behind the first argument that does is read, and the header
has no type unless that argument spells the keyword. -/
theorem read_write {d : Declaration} (h : d.Legible) :
    availability d.write = Attribute.availability (d.marks.map Mark.text) ∧
    ((∀ m ∈ d.marks, m.Flat) → extendedType? d.write = some d.type) ∧
    ∀ before m after, d.marks = before ++ m :: after → (∀ n ∈ before, n.Flat) → ¬m.Flat →
      extendedType? d.write = extendedType? (writeMarks before ++ m.text) ∧
      ((∀ argument ∈ m.argument, ¬("extension" : Text) <:+: argument) →
        extendedType? d.write = none) := by
  refine ⟨availability_write h, extendedType?_flat h, ?_⟩
  intro before m after marks flat nested
  obtain ⟨read, cut⟩ := extendedType?_nested h marks flat nested
  refine ⟨read.trans cut.symm, fun silent => ?_⟩
  rw [read, Option.eq_none_iff_forall_ne_some]
  intro name typed
  have first := h.marks m (by simp [marks])
  obtain ⟨argument, written, spelled⟩ := Mark.spells_keyword first nested typed
  exact silent argument written spelled

theorem read_write_message :
    let version : Mark := ⟨"available", some "iOS 15, *", "\n"⟩
    let message : Mark := ⟨"available", some ("*, message: " ++ literal "use frame(width:)"), " "⟩
    extendedType? (write ⟨[version], [("public", " ")], " ", "View", " where Self: P "⟩) =
      some "View" ∧
    extendedType? (write ⟨[version, message], [], " ", "View", []⟩) = none := by
  intro version message
  have plain : Legible ⟨[version], [("public", " ")], " ", "View", " where Self: P "⟩ :=
    ⟨List.forall_mem_singleton.mpr ⟨by decide, by decide, by decide⟩, by decide, by decide,
      by decide, by rintro c ⟨⟩; decide⟩
  have called : Legible ⟨[version, message], [], " ", "View", []⟩ :=
    ⟨List.forall_mem_cons.mpr ⟨⟨by decide, by decide, by decide⟩,
      List.forall_mem_singleton.mpr ⟨by decide, by decide, by decide⟩⟩, by decide, by decide,
      by decide, by rintro c ⟨⟩⟩
  have flat : ∀ m ∈ [version], m.Flat := List.forall_mem_singleton.mpr (by unfold Mark.Flat; decide)
  have nested : ¬message.Flat := by unfold Mark.Flat; decide
  have silent : ∀ argument ∈ message.argument, ¬("extension" : Text) <:+: argument := by
    rintro argument ⟨⟩ spelled
    have x : 'x' ∈ ("extension" : Text) := by decide
    exact absurd (spelled.subset x) (by decide)
  exact ⟨(read_write plain).2.1 flat,
    ((read_write called).2.2 [version] message [] rfl flat nested).2 silent⟩

theorem read_write_dropped :
    let message : Mark := ⟨"available", some ("*, message: " ++ literal "use frame(width:)"), " "⟩
    let header := write ⟨[message], [], " ", "View", []⟩
    (WordText message.word ∧ (∀ argument ∈ message.argument, ParensClosed argument)) ∧
    availability header = some message.text ∧
    extendedType? header ≠ some "View" ∧ extendsView header = false := by
  decide +kernel

end Declaration

end ViewCases.ExtensionHeader
