import Mathlib.Data.List.Infix
import ViewCases.Member.Basic
import ViewCases.Proofs.Bracket.Segments

/-! Reading a body text from any place in it. Inside brackets the pieces do not matter: the
reading goes on as if each character were passed by itself, as long as no comment and no
string literal begins there. -/
namespace ViewCases.Member
open Text Signature ViewCases.Bracket

namespace Reading

theorem close_depth (source : Text) (stop : Nat) (r : Reading) :
    (r.close source stop).depth = r.depth := by
  unfold close
  split <;> rfl

theorem openBody_depth (pos : Nat) (r : Reading) : (r.openBody pos).depth = r.depth := by
  unfold openBody
  split
  · split <;> rfl
  · rfl

theorem readWord_depth (source : Text) (pos : Nat) (word : Text) (r : Reading) :
    (r.readWord source pos word).depth = r.depth := by
  unfold readWord
  split
  · exact close_depth _ _ _
  · split <;> rfl

theorem step_depth (source : Text) (pos : Nat) (r : Reading) (p : Piece) :
    (r.step source pos p).depth = Piece.depthAfter r.depth p := by
  cases p with
  | comment t => simp only [step]; split <;> rfl
  | directive t => exact close_depth source pos r
  | opening c =>
    simp only [step, Piece.depthAfter]
    split
    · rw [openBody_depth]
    · rfl
  | closing c =>
    simp only [step, Piece.depthAfter]
    split
    · exact close_depth _ _ _
    · rfl
  | mark t => simp only [step]; split <;> rfl
  | word name tick =>
    simp only [step]
    split
    · exact readWord_depth _ _ _ _
    · rfl
  | literal t => rfl
  | other c => rfl

end Reading

/-- The state at the end of the text when the rest of it begins at `pos` in state `r`. -/
def resume (source : Text) (pos : Nat) (r : Reading) (fresh : Bool) (t : Text) : Reading :=
  Reading.run source pos r (Piece.scan r.depth fresh t)

theorem resume_nil (source : Text) (pos : Nat) (r : Reading) (fresh : Bool) :
    resume source pos r fresh [] = r.close source pos := by
  rw [resume, Piece.scan]
  rfl

theorem resume_next {source : Text} {pos : Nat} {r : Reading} {fresh : Bool} {c : Char}
    {cs rest : Text} {p : Piece} (h : Piece.next r.depth fresh c cs = (p, rest)) :
    resume source pos r fresh (c :: cs) =
      resume source (pos + p.text.length) (r.step source pos p)
        (Piece.freshAfter fresh p.text) rest := by
  have scanned : Piece.scan r.depth fresh (c :: cs) =
      p :: Piece.scan (Piece.depthAfter r.depth p) (Piece.freshAfter fresh p.text) rest := by
    rw [Piece.scan]
    split
    next q u eq =>
      rw [h] at eq
      cases eq
      rfl
  rw [resume, scanned, Reading.run, resume, Reading.step_depth]

theorem freshAfter_append (fresh : Bool) (a b : Text) :
    Piece.freshAfter fresh (a ++ b) = Piece.freshAfter (Piece.freshAfter fresh a) b :=
  List.foldl_append

/-- From state `r` the text `a` leads to state `r'`, whatever of `t` follows. -/
def Leads (source : Text) (pos : Nat) (r r' : Reading) (a t : Text) : Prop :=
  ∀ fresh, resume source pos r fresh (a ++ t) =
    resume source (pos + a.length) r' (Piece.freshAfter fresh a) t

theorem Leads.nil (source : Text) (pos : Nat) (r : Reading) (t : Text) :
    Leads source pos r r [] t := fun _ => rfl

theorem Leads.append {source : Text} {pos : Nat} {r s u : Reading} {a b t : Text}
    (first : Leads source pos r s a (b ++ t)) (second : Leads source (pos + a.length) s u b t) :
    Leads source pos r u (a ++ b) t := by
  intro fresh
  rw [List.append_assoc, first fresh, second, List.length_append, Nat.add_assoc,
    freshAfter_append]

theorem leads_of_next (source : Text) (pos : Nat) {r : Reading} {c : Char} {w t : Text} {p : Piece}
    (h : ∀ fresh, Piece.next r.depth fresh c (w ++ t) = (p, t)) (text : p.text = c :: w) :
    Leads source pos r (r.step source pos p) (c :: w) t := by
  intro fresh
  rw [List.cons_append, resume_next (h fresh), text]

def NoComment (c : Char) (cs : Text) : Prop :=
  c = '/' → cs.head? ≠ some '/' ∧ cs.head? ≠ some '*'

def blocks : List Bracket := [.paren, .square, .brace]

theorem next_opener {depth : Nat} (fresh : Bool) {b : Bracket} (h : b ∈ blocks) (cs : Text) :
    Piece.next depth fresh b.opener cs = (.opening b.opener, cs) := by
  simp only [blocks, List.mem_cons, List.not_mem_nil, or_false] at h
  rcases h with rfl | rfl | rfl <;> simp [Piece.next, opener]

theorem next_closer {depth : Nat} (fresh : Bool) {b : Bracket} (h : b ∈ blocks) (cs : Text) :
    Piece.next depth fresh b.closer cs = (.closing b.closer, cs) := by
  simp only [blocks, List.mem_cons, List.not_mem_nil, or_false] at h
  rcases h with rfl | rfl | rfl <;> simp [Piece.next, closer]

theorem leads_opener (source : Text) (pos : Nat) (r : Reading) {b : Bracket} (h : b ∈ blocks)
    (t : Text) : Leads source pos r (r.step source pos (.opening b.opener)) [b.opener] t :=
  leads_of_next source pos (w := []) (fun fresh => next_opener fresh h t) rfl

theorem leads_closer (source : Text) (pos : Nat) (r : Reading) {b : Bracket} (h : b ∈ blocks)
    (t : Text) : Leads source pos r (r.step source pos (.closing b.closer)) [b.closer] t :=
  leads_of_next source pos (w := []) (fun fresh => next_closer fresh h t) rfl

structure Inert (c : Char) : Prop where
  noOpener : ∀ b ∈ blocks, c ≠ b.opener
  noCloser : ∀ b ∈ blocks, c ≠ b.closer
  noQuote : c ≠ '"'

theorem isNamePart_of_isWord {c : Char} (h : isWord c = true) : isNamePart c = true := by
  simp [isNamePart, h]

/-- What a piece at an inert character inside brackets does. -/
structure Passive (depth : Nat) (c : Char) (cs : Text) (p : Piece) (rest : Text) : Prop where
  still : ∀ source pos (r : Reading), r.depth = depth → r.step source pos p = r
  text : ∃ w, p.text = c :: w ∧ cs = w ++ rest ∧ ∀ d ∈ w, isNamePart d = true ∨ d = '`'

theorem passive_next {depth : Nat} (deep : depth ≠ 0) (fresh : Bool) {c : Char} (inert : Inert c)
    {cs : Text} (noComment : NoComment c cs) :
    Passive depth c cs (Piece.next depth fresh c cs).1 (Piece.next depth fresh c cs).2 := by
  have noLine : ¬(c = '/' ∧ cs.head? = some '/') := fun ⟨eq, head⟩ => (noComment eq).1 head
  have noBlock : ¬(c = '/' ∧ cs.head? = some '*') := fun ⟨eq, head⟩ => (noComment eq).2 head
  have noDirective : ¬(c = '#' ∧ depth = 0 ∧ fresh = true) := fun ⟨_, zero, _⟩ => deep zero
  have noOpening : ¬(c = '(' ∨ c = '[' ∨ c = '\x7b') := by
    have round := inert.noOpener .paren (by simp [blocks])
    have square := inert.noOpener .square (by simp [blocks])
    have brace := inert.noOpener .brace (by simp [blocks])
    simp only [opener] at round square brace
    simp [round, square, brace]
  have noClosing : ¬(c = ')' ∨ c = ']' ∨ c = '\x7d') := by
    have round := inert.noCloser .paren (by simp [blocks])
    have square := inert.noCloser .square (by simp [blocks])
    have brace := inert.noCloser .brace (by simp [blocks])
    simp only [closer] at round square brace
    simp [round, square, brace]
  rw [Piece.next, if_neg noLine, if_neg noBlock, if_neg inert.noQuote, if_neg noDirective,
    if_neg noOpening, if_neg noClosing]
  -- A word, a mark and any other character differ only in how far they reach.
  split
  · next eq =>
    constructor
    · rintro source pos r rfl
      simp [Reading.step, deep]
    · refine ⟨cs.takeWhile isWord, by simp [Piece.text, eq],
        List.takeWhile_append_dropWhile.symm, ?_⟩
      intro d hd
      exact .inl (isNamePart_of_isWord (List.all_eq_true.mp List.all_takeWhile d hd))
  · split
    · unfold Piece.takeWord
      split
      · constructor
        · rintro source pos r rfl
          simp [Reading.step, deep]
        · refine ⟨cs.takeWhile isNamePart ++ (takeBacktick (cs.dropWhile isNamePart)).1,
            by simp [Piece.text], ?_, ?_⟩
          · rw [List.append_assoc, takeBacktick_append, List.takeWhile_append_dropWhile]
          · intro d hd
            rcases List.mem_append.mp hd with name | tick
            · exact .inl (List.all_eq_true.mp List.all_takeWhile d name)
            · unfold takeBacktick at tick
              split at tick
              · exact .inr (List.mem_singleton.mp tick)
              · cases tick
      · constructor
        · rintro source pos r rfl
          simp [Reading.step, deep]
        · exact ⟨[], rfl, rfl, by simp⟩
    · constructor
      · rintro source pos r rfl
        rfl
      · exact ⟨[], rfl, rfl, by simp⟩

theorem inert_of_part {d : Char} (h : isNamePart d = true ∨ d = '`') : Inert d ∧ d ≠ '/' := by
  have other : ∀ e : Char, isNamePart e = false → e ≠ '`' → d ≠ e := by
    rintro e part tick rfl
    rcases h with name | eq
    · rw [part] at name
      cases name
    · exact tick eq
  refine ⟨⟨?_, ?_, other '"' (by decide) (by decide)⟩, other '/' (by decide) (by decide)⟩
  · intro b _
    cases b <;> exact other _ (by decide) (by decide)
  · intro b _
    cases b <;> exact other _ (by decide) (by decide)

theorem leads_each {source : Text} {r : Reading} {v t : Text}
    (each : ∀ u d w, v = u ++ d :: w → ∀ pos, Leads source pos r r [d] (w ++ t)) (pos : Nat) :
    Leads source pos r r v t := by
  induction v generalizing pos with
  | nil => exact .nil _ _ _ _
  | cons d v ih =>
    have first := each [] d v rfl pos
    have others := ih (fun u e w eq => each (d :: u) e w (by rw [eq]; rfl)) (pos + [d].length)
    exact first.append others

/-- Inside brackets an inert character can be passed on its own. The induction is on the
length of the text, because the piece at the character may reach further. -/
theorem leads_inert {source : Text} {r : Reading} (deep : r.depth ≠ 0) {c : Char} (inert : Inert c)
    {cs : Text} (noComment : NoComment c cs) (pos : Nat) : Leads source pos r r [c] cs := by
  induction len : cs.length using Nat.strongRecOn generalizing c cs pos with
  | _ n ih =>
    subst len
    intro fresh
    obtain ⟨still, w, text, split, parts⟩ := passive_next deep fresh inert noComment
    cases next : Piece.next r.depth fresh c cs with
    | mk p rest =>
      rw [next] at still text split
      -- The rest of the piece is passed one character at a time, in shorter texts.
      have walked : Leads source (pos + [c].length) r r w rest := by
        apply leads_each
        intro u d v eq place
        obtain ⟨inertD, noSlash⟩ := inert_of_part (parts d (by simp [eq]))
        have shorter : (v ++ rest).length < cs.length := by
          simp only [split, eq, List.length_append, List.length_cons]
          omega
        exact ih _ shorter inertD (fun slash => absurd slash noSlash) place rfl
      have whole : resume source pos r fresh (c :: cs) =
          resume source (pos + (c :: w).length) r (Piece.freshAfter fresh (c :: w)) rest := by
        rw [resume_next next, still source pos r rfl, text]
      have back := walked (Piece.freshAfter fresh [c])
      rw [← split, ← freshAfter_append, Nat.add_assoc, ← List.length_append] at back
      exact whole.trans back.symm

/-- The blocks that are open behind the text, the innermost first, unless a closing bracket
meets another kind. -/
def nesting (stack : List Bracket) : Text → Option (List Bracket)
  | [] => some stack
  | c :: cs =>
    match blocks.find? fun b => c == b.opener with
    | some b => nesting (b :: stack) cs
    | none =>
      match blocks.find? fun b => c == b.closer with
      | some b => if stack.head? = some b then nesting stack.tail cs else none
      | none => nesting stack cs

theorem nesting_opener {b : Bracket} (h : b ∈ blocks) (stack : List Bracket) (cs : Text) :
    nesting stack (b.opener :: cs) = nesting (b :: stack) cs := by
  simp only [blocks, List.mem_cons, List.not_mem_nil, or_false] at h
  rcases h with rfl | rfl | rfl <;> rfl

theorem nesting_closer {b : Bracket} (h : b ∈ blocks) (stack : List Bracket) (cs : Text) :
    nesting stack (b.closer :: cs) =
      if stack.head? = some b then nesting stack.tail cs else none := by
  simp only [blocks, List.mem_cons, List.not_mem_nil, or_false] at h
  rcases h with rfl | rfl | rfl <;> rfl

theorem nesting_inert {c : Char} (h : Inert c) (stack : List Bracket) (cs : Text) :
    nesting stack (c :: cs) = nesting stack cs := by
  have noOpener : blocks.find? (fun b => c == b.opener) = none := by
    apply List.find?_eq_none.mpr
    intro b mem
    simpa using h.noOpener b mem
  have noCloser : blocks.find? (fun b => c == b.closer) = none := by
    apply List.find?_eq_none.mpr
    intro b mem
    simpa using h.noCloser b mem
  rw [nesting, noOpener, noCloser]

theorem block_cases {c : Char} (noQuote : c ≠ '"') :
    (∃ b ∈ blocks, c = b.opener) ∨ (∃ b ∈ blocks, c = b.closer) ∨ Inert c := by
  by_cases opens : ∃ b ∈ blocks, c = b.opener
  · exact .inl opens
  · by_cases closes : ∃ b ∈ blocks, c = b.closer
    · exact .inr (.inl closes)
    · exact .inr (.inr ⟨fun b mem eq => opens ⟨b, mem, eq⟩,
        fun b mem eq => closes ⟨b, mem, eq⟩, noQuote⟩)

/-- Text that can stand inside brackets: its blocks nest, and neither a string literal nor
a comment begins in it. -/
structure Interior (t : Text) : Prop where
  nests : nesting [] t = some []
  noQuote : '"' ∉ t
  noLine : ¬['/', '/'] <:+: t
  noBlock : ¬['/', '*'] <:+: t

instance : DecidablePred Interior := fun _ =>
  decidable_of_iff (_ ∧ _ ∧ _ ∧ _) ⟨fun h => ⟨h.1, h.2.1, h.2.2.1, h.2.2.2⟩,
    fun h => ⟨h.nests, h.noQuote, h.noLine, h.noBlock⟩⟩

theorem interior_of_not_mem {t : Text} (nests : nesting [] t = some []) (noQuote : '"' ∉ t)
    (noSlash : '/' ∉ t) : Interior t :=
  ⟨nests, noQuote, fun h => noSlash (h.subset List.mem_cons_self),
    fun h => noSlash (h.subset List.mem_cons_self)⟩

theorem noComment_of_lacks {c : Char} {cs t : Text} (line : ¬['/', '/'] <:+: c :: cs)
    (block : ¬['/', '*'] <:+: c :: cs)
    (behind : t.head? ≠ some '/' ∧ t.head? ≠ some '*') : NoComment c (cs ++ t) := by
  rintro rfl
  cases cs with
  | nil => exact behind
  | cons d ds =>
    constructor
    · intro eq
      cases Option.some.inj eq
      exact line ⟨[], ds, rfl⟩
    · intro eq
      cases Option.some.inj eq
      exact block ⟨[], ds, rfl⟩

theorem not_infix_tail {s : Text} {c : Char} {cs : Text} (h : ¬s <:+: c :: cs) : ¬s <:+: cs :=
  fun inside => h (inside.trans (List.suffix_cons c cs).isInfix)

theorem Reading.step_opening_deep {source : Text} {pos : Nat} {r : Reading} (deep : r.depth ≠ 0)
    (c : Char) : r.step source pos (.opening c) = { r with depth := r.depth + 1 } := by
  simp [Reading.step, deep]

theorem Reading.step_closing_deep {source : Text} {pos : Nat} {r : Reading} {d : Nat}
    (deep : d ≠ 0) (c : Char) :
    ({ r with depth := d + 1 } : Reading).step source pos (.closing c) = { r with depth := d } := by
  simp [Reading.step, deep]

theorem leads_nesting {source : Text} {r : Reading} {d : Nat} (deep : d ≠ 0) {u t : Text}
    (behind : t.head? ≠ some '/' ∧ t.head? ≠ some '*') {stack stack' : List Bracket}
    (nests : nesting stack u = some stack') (noQuote : '"' ∉ u) (noLine : ¬['/', '/'] <:+: u)
    (noBlock : ¬['/', '*'] <:+: u) (pos : Nat) :
    Leads source pos { r with depth := d + stack.length }
      { r with depth := d + stack'.length } u t := by
  induction u generalizing stack pos with
  | nil =>
    cases nests
    exact .nil _ _ _ _
  | cons c cs ih =>
    have later : ∀ {inner : List Bracket}, nesting inner cs = some stack' →
        Leads source (pos + [c].length) { r with depth := d + inner.length }
          { r with depth := d + stack'.length } cs t := fun h =>
      ih h (mt (List.mem_cons_of_mem _) noQuote) (not_infix_tail noLine) (not_infix_tail noBlock) _
    have plain : c ≠ '"' := fun eq => noQuote (eq ▸ List.mem_cons_self)
    rcases block_cases plain with ⟨b, mem, rfl⟩ | ⟨b, mem, rfl⟩ | inert
    · rw [nesting_opener mem] at nests
      have first := leads_opener source pos { r with depth := d + stack.length } mem (cs ++ t)
      rw [Reading.step_opening_deep (by simp; omega)] at first
      exact first.append (later nests)
    · rw [nesting_closer mem] at nests
      cases stack with
      | nil => simp at nests
      | cons e rest =>
        by_cases same : e = b
        · simp only [List.head?_cons, same, if_true, List.tail_cons] at nests
          have first :=
            leads_closer source pos { r with depth := d + (e :: rest).length } mem (cs ++ t)
          rw [List.length_cons, ← Nat.add_assoc, Reading.step_closing_deep (by omega)] at first
          exact first.append (later nests)
        · simp [same] at nests
    · rw [nesting_inert inert] at nests
      have first : Leads source pos { r with depth := d + stack.length }
          { r with depth := d + stack.length } [c] (cs ++ t) :=
        leads_inert (by simp; omega) inert (noComment_of_lacks noLine noBlock behind) pos
      exact first.append (later nests)

theorem leads_interior (source : Text) {r : Reading} (deep : r.depth ≠ 0) {u t : Text}
    (h : Interior u) (behind : t.head? ≠ some '/' ∧ t.head? ≠ some '*') (pos : Nat) :
    Leads source pos r r u t :=
  leads_nesting (r := r) deep behind h.nests h.noQuote h.noLine h.noBlock pos

end ViewCases.Member
