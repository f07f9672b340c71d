import Mathlib.Data.List.Forall2
import ViewCases.Proofs.Member.Order

/-! What a member has of its text, whatever the text is. Its header is a trimmed stretch that
begins at its position and holds its keyword, and its comments stand before that keyword. A
comment outside brackets waits for the next keyword, so the comments of all members are, in
order, those that have been met so far; the ones behind the last keyword belong to none. -/
namespace ViewCases.Member
open Text Piece

structure Span where
  start : Nat
  text : Text
  deriving DecidableEq, Repr

def Span.stop (u : Span) : Nat := u.start + u.text.length

def comment? : Piece → Option Text
  | .comment t => some t
  | _ => none

def keyword? : Piece → Option Text
  | .word name _ => if declarationWords.contains name then some name else none
  | _ => none

def outerSpan (pick : Piece → Option Text) (pos depth : Nat) (p : Piece) : List Span :=
  if depth = 0 then ((pick p).map (Span.mk pos)).toList else []

def outerSpans (pick : Piece → Option Text) (pos depth : Nat) : List Piece → List Span
  | [] => []
  | p :: ps => outerSpan pick pos depth p ++
    outerSpans pick (pos + p.text.length) (depthAfter depth p) ps

def outerComments (t : Text) : List Span := outerSpans comment? 0 0 (scan 0 true t)

def outerKeywords (t : Text) : List Span := outerSpans keyword? 0 0 (scan 0 true t)

/-- The keyword of a member, which stands in its header, and the comments that the member has,
which stand before the keyword. -/
structure Owns (m : Member) (part : Span × List Span) : Prop where
  trimmed : Trimmed m.header
  keyword : part.1.text = m.keyword
  behind : m.offset ≤ part.1.start
  within : part.1.stop ≤ m.offset + m.header.length
  comments : part.2.map (·.text) = m.comments
  before : ∀ c ∈ part.2, c.stop ≤ part.1.start

theorem slice_of_front {source u : Text} {i : Nat} (h : u <+: source.drop i) :
    slice source i (i + u.length) = u := by
  obtain ⟨rest, eq⟩ := h
  rw [slice, List.drop_take, ← eq, Nat.add_sub_cancel_left]
  exact List.take_left

theorem prefix_of_comment? {p : Piece} {u : Text} (h : comment? p = some u) : u <+: p.text := by
  unfold comment? at h
  split at h
  · cases h
    exact List.prefix_rfl
  · cases h

theorem prefix_of_keyword? {p : Piece} {u : Text} (h : keyword? p = some u) : u <+: p.text := by
  unfold keyword? at h
  split at h
  · split at h
    · cases h
      exact List.prefix_append _ _
    · cases h
  · cases h

section
variable {pick : Piece → Option Text}

theorem mem_outerSpan {pos depth : Nat} {p : Piece} {u : Span} :
    u ∈ outerSpan pick pos depth p ↔ depth = 0 ∧ pick p = some u.text ∧ u.start = pos := by
  unfold outerSpan
  split
  · next flat =>
    rw [Option.mem_toList, Option.map_eq_some_iff]
    constructor
    · rintro ⟨t, picked, rfl⟩
      exact ⟨flat, picked, rfl⟩
    · rintro ⟨-, picked, rfl⟩
      exact ⟨u.text, picked, rfl⟩
  · next deep => simp [deep]

theorem outerSpan_none {p : Piece} (h : pick p = none) (pos depth : Nat) :
    outerSpan pick pos depth p = [] := by
  simp [outerSpan, h]

theorem pairwise_outerSpan (pos depth : Nat) (p : Piece) :
    (outerSpan pick pos depth p).Pairwise (fun u v => u.stop ≤ v.start) := by
  unfold outerSpan
  split
  · cases pick p with
    | none => exact .nil
    | some t => exact List.pairwise_singleton _ _
  · exact .nil

theorem outerSpans_place (leads : ∀ p u, pick p = some u → u <+: p.text) {source : Text}
    {pos : Nat} (depth : Nat) {ps : List Piece} (text : source.drop pos = ps.flatMap Piece.text) :
    (outerSpans pick pos depth ps).Pairwise (fun u v => u.stop ≤ v.start) ∧
      ∀ u ∈ outerSpans pick pos depth ps, pos ≤ u.start ∧ u.text <+: source.drop u.start := by
  induction ps generalizing pos depth with
  | nil => exact ⟨.nil, List.forall_mem_nil _⟩
  | cons p ps ih =>
    obtain ⟨front, rest⟩ := text_of_pieces text
    have here : ∀ u ∈ outerSpan pick pos depth p, u.start = pos ∧ u.text <+: p.text := by
      intro u mem
      obtain ⟨-, picked, start⟩ := mem_outerSpan.mp mem
      exact ⟨start, leads p u.text picked⟩
    obtain ⟨apart, later⟩ := ih (depthAfter depth p) rest
    rw [outerSpans]
    constructor
    · rw [List.pairwise_append]
      refine ⟨pairwise_outerSpan pos depth p, apart, fun u first v second => ?_⟩
      obtain ⟨start, inside⟩ := here u first
      have size := inside.length_le
      have behind := (later v second).1
      rw [Span.stop]
      omega
    · intro u mem
      rcases List.mem_append.mp mem with first | behind
      · obtain ⟨start, inside⟩ := here u first
        refine ⟨Nat.le_of_eq start.symm, ?_⟩
        rw [start]
        exact inside.trans front
      · obtain ⟨start, there⟩ := later u behind
        exact ⟨by omega, there⟩

end

theorem declarationWords_last : ∀ w ∈ declarationWords, w ≠ [] ∧
    ∀ c, w.getLast? = some c → isBlank c = false := by
  have known : ∀ w ∈ declarationWords, w.getLast?.any (fun c => !isBlank c) = true := by decide
  intro w mem
  have last := known w mem
  constructor
  · rintro rfl
    cases last
  · intro c eq
    rw [eq] at last
    simpa using last

theorem length_of_prefix_drop {source w : Text} {k : Nat} (ne : w ≠ [])
    (text : w <+: source.drop k) : k + w.length ≤ source.length := by
  have size := text.length_le
  have := List.length_pos_iff.mpr ne
  rw [List.length_drop] at size
  omega

theorem le_length_strip_slice {source w : Text} {start k stop : Nat} (solid : Solid source start)
    (ne : w ≠ []) (last : ∀ c, w.getLast? = some c → isBlank c = false)
    (text : w <+: source.drop k) (behind : start ≤ k) (before : k + w.length ≤ stop) :
    k + w.length ≤ start + (strip (slice source start stop)).length := by
  obtain ⟨z, whole⟩ := text
  have inside := length_of_prefix_drop ne ⟨z, whole⟩
  let y := (source.drop start).take (k - start)
  have length : y.length = k - start := by
    simp only [y, List.length_take, List.length_drop]
    omega
  have cut : source.drop start = (y ++ w) ++ z := by
    have place : start + (k - start) = k := by omega
    rw [List.append_assoc, whole, ← place, ← List.drop_drop, List.take_append_drop]
  have full : y ++ w ≠ [] := by simp [ne]
  have trimmed : Trimmed (y ++ w) := by
    constructor
    · intro c head
      obtain ⟨d, ds, eq, visible⟩ := solid
      rw [cut] at eq
      have first := congrArg List.head? eq
      rw [List.head?_append_of_ne_nil _ full, head] at first
      cases first
      exact visible
    · intro c end_
      rw [List.getLast?_append_of_ne_nil _ ne] at end_
      exact last c end_
  have stretch : slice source start stop = (y ++ w) ++ z.take (stop - (k + w.length)) := by
    have size : stop - start = (y ++ w).length + (stop - (k + w.length)) := by
      rw [List.length_append, length]
      omega
    rw [slice, List.drop_take, cut, size, List.take_length_add_append]
  rw [stretch, strip_append_trimmed trimmed full, List.length_append, List.length_append, length]
  omega

namespace Reading

/-- The member under way has the keyword `w`, and reaches over it if it ends at `stop`. -/
structure Heads (source : Text) (s : Started) (w : Span) (stop : Nat) : Prop where
  known : s.keyword ∈ declarationWords
  keyword : w.text = s.keyword
  text : w.text <+: source.drop w.start
  behind : s.offset ≤ w.start
  before : w.stop ≤ s.bodyStart.getD stop

/-- The keyword of the member under way, if there is one, with the comments that it has. -/
inductive Under (source : Text) (stop : Nat) : Option Started → List (Span × List Span) → Prop
  | none : Under source stop none []
  | some {s : Started} {w : Span} {own : List Span} : Heads source s w stop →
      own.map (·.text) = s.comments → (∀ c ∈ own, c.stop ≤ w.start) →
      Under source stop (some s) [(w, own)]

/-- The comments met so far are, in order, those of the finished members, those of the member
under way and those that wait, and the keywords met so far are those of the members. The member
under way ends no earlier than the lead of the next one begins. -/
structure Attached (source : Text) (pos : Nat) (words met : List Span) (r : Reading) : Prop where
  passed : ∀ c ∈ met, c.stop ≤ pos
  shares : ∃ parts last waiting, words = (parts ++ last).map Prod.fst ∧
    met = (parts ++ last).flatMap Prod.snd ++ waiting ∧ List.Forall₂ Owns r.members parts ∧
    Under source (r.leadStart.getD pos) r.current last ∧ waiting.map (·.text) = r.comments

variable {source : Text} {pos stop : Nat} {words met : List Span} {r : Reading}

theorem attached_start (source : Text) : Attached source 0 [] [] {} :=
  ⟨List.forall_mem_nil _, [], [], [], rfl, rfl, .nil, .none, rfl⟩

theorem Under.later {current : Option Started} {last : List (Span × List Span)}
    (h : Under source pos current last) (behind : pos ≤ stop) :
    Under source stop current last := by
  cases h with
  | none => exact .none
  | @some s w own heads comments before =>
    have reach := heads.before
    have further : w.stop ≤ s.bodyStart.getD stop := by
      cases body : s.bodyStart with
      | none =>
        rw [body, Option.getD_none] at reach
        exact Nat.le_trans reach behind
      | some b =>
        rw [body] at reach
        exact reach
    exact .some { heads with before := further } comments before

theorem lead_le (ordered : Ordered source pos r) : r.leadStart.getD pos ≤ pos := by
  cases lead : r.leadStart with
  | none => exact Nat.le_refl pos
  | some i => exact Nat.le_of_lt (ordered.below i (by simp [places, lead]))

namespace Attached

theorem advance (h : Attached source pos words met r) (behind : pos ≤ stop) :
    Attached source stop words met r := by
  obtain ⟨passed, parts, last, waiting, keywords, comments, members, under, wait⟩ := h
  have bound : r.leadStart.getD pos ≤ r.leadStart.getD stop := by
    cases r.leadStart with
    | none => exact behind
    | some i => exact Nat.le_refl i
  exact ⟨fun c mem => Nat.le_trans (passed c mem) behind, parts, last, waiting, keywords, comments,
    members, under.later bound, wait⟩

theorem aside (h : Attached source pos words met r) (depth : Nat) :
    Attached source pos words met { r with depth := depth } :=
  ⟨h.passed, h.shares⟩

theorem forget (h : Attached source pos words met r) (ordered : Ordered source pos r) :
    Attached source pos words met { r with leadStart := none } := by
  obtain ⟨passed, parts, last, waiting, keywords, comments, members, under, wait⟩ := h
  exact ⟨passed, parts, last, waiting, keywords, comments, members,
    under.later (lead_le ordered), wait⟩

theorem startLead (h : Attached source pos words met r) :
    Attached source pos words met (r.startLead pos) :=
  ⟨h.passed, h.shares⟩

end Attached

theorem owns_close {s : Started} {w : Span} {own : List Span} (solid : Solid source s.offset)
    (heads : Heads source s w stop) (comments : own.map (·.text) = s.comments)
    (before : ∀ c ∈ own, c.stop ≤ w.start) :
    Owns ⟨s.keyword, strip (slice source s.offset (s.bodyStart.getD stop)), s.offset, s.comments⟩
      (w, own) := by
  obtain ⟨ne, last⟩ := declarationWords_last s.keyword heads.known
  have text := heads.text
  have reach := heads.before
  rw [Span.stop] at reach
  rw [heads.keyword] at text reach
  have within := le_length_strip_slice solid ne last text heads.behind reach
  refine ⟨trimmed_strip _, heads.keyword, heads.behind, ?_, comments, before⟩
  rw [Span.stop, heads.keyword]
  exact within

theorem Attached.ended (h : Attached source pos words met r) (ordered : Ordered source pos r)
    (behind : r.leadStart.getD pos ≤ stop) :
    ∃ parts waiting, words = parts.map Prod.fst ∧ met = parts.flatMap Prod.snd ++ waiting ∧
      List.Forall₂ Owns (r.close source stop).members parts ∧
      waiting.map (·.text) = r.comments := by
  obtain ⟨-, parts, last, waiting, keywords, comments, members, under, wait⟩ := h
  refine ⟨parts ++ last, waiting, keywords, comments, ?_, wait⟩
  have under := under.later behind
  unfold Reading.close
  cases current : r.current with
  | none =>
    rw [current] at under
    cases under
    rw [List.append_nil]
    exact members
  | some s =>
    rw [current] at under
    cases under with
    | some heads shared before =>
      have solid := ordered.solid _ (mem_places_current current)
      exact List.rel_append members (.cons (owns_close solid heads shared before) .nil)

theorem current_close (source : Text) (stop : Nat) (r : Reading) :
    (r.close source stop).current = none := by
  unfold Reading.close
  cases current : r.current with
  | none => exact current
  | some s => rfl

theorem comments_close (source : Text) (stop : Nat) (r : Reading) :
    (r.close source stop).comments = r.comments := by
  unfold Reading.close
  cases r.current <;> rfl

namespace Attached

theorem close (h : Attached source pos words met r) (ordered : Ordered source pos r)
    (behind : r.leadStart.getD pos ≤ stop) :
    Attached source pos words met (r.close source stop) := by
  obtain ⟨parts, waiting, keywords, comments, members, wait⟩ := h.ended ordered behind
  rw [← comments_close source stop] at wait
  refine ⟨h.passed, parts, [], waiting, ?_, ?_, members, ?_, wait⟩
  · rw [List.append_nil]
    exact keywords
  · rw [List.append_nil]
    exact comments
  · rw [current_close]
    exact .none

theorem readWord (h : Attached source pos words met r) (ordered : Ordered source pos r)
    {name : Text} (text : name <+: source.drop pos) (backtick : Text) :
    Attached source (pos + (Piece.word name backtick).text.length)
      (words ++ ((keyword? (.word name backtick)).map (Span.mk pos)).toList) met
      (r.readWord source pos name) := by
  have onward : pos ≤ pos + (Piece.word name backtick).text.length := Nat.le_add_right _ _
  simp only [Reading.readWord, keyword?]
  split
  · next keyword =>
    obtain ⟨parts, waiting, keywords, comments, members, wait⟩ := h.ended ordered (Nat.le_refl _)
    have inside : pos + name.length ≤ pos + (Piece.word name backtick).text.length := by
      simp [Piece.text]
    have heads : Heads source ⟨name, r.leadStart.getD pos, r.comments, none⟩ ⟨pos, name⟩
        (pos + (Piece.word name backtick).text.length) :=
      ⟨List.contains_iff_mem.mp keyword, rfl, text, lead_le ordered, inside⟩
    have before : ∀ c ∈ waiting, c.stop ≤ pos := fun c mem =>
      h.passed c (by rw [comments]; exact List.mem_append_right _ mem)
    refine ⟨fun c mem => Nat.le_trans (h.passed c mem) onward, parts, [(⟨pos, name⟩, waiting)], [],
      ?_, ?_, members, .some heads wait before, rfl⟩
    · rw [List.map_append, keywords]
      rfl
    · simpa using comments
  · rw [Option.map_none, Option.toList_none, List.append_nil]
    split
    · exact h.startLead.advance onward
    · exact (h.forget ordered).advance onward

theorem openBody (h : Attached source pos words met r) (ordered : Ordered source pos r) :
    Attached source pos words met (r.openBody pos) := by
  unfold Reading.openBody
  cases current : r.current with
  | none => exact h
  | some s =>
    simp only
    split
    · next noBody =>
      obtain ⟨passed, parts, last, waiting, keywords, comments, members, under, wait⟩ := h
      rw [current] at under
      cases under with
      | @some _ w _ heads shared before =>
        have reach := heads.before
        rw [Option.isNone_iff_eq_none.mp noBody, Option.getD_none] at reach
        have opened : Heads source { s with bodyStart := some pos } w (r.leadStart.getD pos) :=
          { heads with before := Nat.le_trans reach (lead_le ordered) }
        exact ⟨passed, parts, _, waiting, keywords, comments, members,
          .some opened shared before, wait⟩
    · exact h

theorem quiet (h : Attached source pos words met r) {p : Piece} (noWord : keyword? p = none)
    (noComment : comment? p = none) (start depth : Nat) :
    Attached source pos (words ++ outerSpan keyword? start depth p)
      (met ++ outerSpan comment? start depth p) r := by
  rw [outerSpan_none noWord, outerSpan_none noComment, List.append_nil, List.append_nil]
  exact h

theorem step (h : Attached source pos words met r) (ordered : Ordered source pos r)
    {p : Piece} (text : p.text <+: source.drop pos) :
    Attached source (pos + p.text.length) (words ++ outerSpan keyword? pos r.depth p)
      (met ++ outerSpan comment? pos r.depth p) (r.step source pos p) := by
  have onward : pos ≤ pos + p.text.length := Nat.le_add_right _ _
  have lead := lead_le ordered
  -- Comments and keywords outside brackets are what is picked. The other pieces can only move the
  -- place at which the member under way ends.
  cases p with
  | comment t =>
    have noWord : outerSpan keyword? pos r.depth (.comment t) = [] := outerSpan_none rfl _ _
    rw [noWord, List.append_nil]
    simp only [Reading.step, outerSpan]
    split
    · obtain ⟨passed, parts, last, waiting, keywords, comments, members, under, wait⟩ :=
        h.advance onward
      refine ⟨?_, parts, last, waiting ++ [⟨pos, t⟩], keywords, ?_, members, under, ?_⟩
      · rw [List.forall_mem_append]
        exact ⟨passed, by simp [comment?, Span.stop, Piece.text]⟩
      · rw [comments, List.append_assoc]
        rfl
      · rw [List.map_append, wait]
        rfl
    · rw [List.append_nil]
      exact h.advance onward
  | word name backtick =>
    have noComment : outerSpan comment? pos r.depth (.word name backtick) = [] :=
      outerSpan_none rfl _ _
    rw [noComment, List.append_nil]
    simp only [Reading.step, outerSpan]
    split
    · exact h.readWord ordered ((List.prefix_append _ _).trans text) backtick
    · rw [List.append_nil]
      exact h.advance onward
  | directive t =>
    have still := ordered.close fun s current => ordered.below _ (mem_places_current current)
    exact (((h.close ordered lead).forget still).advance onward).quiet rfl rfl pos r.depth
  | opening c =>
    apply quiet _ rfl rfl
    simp only [Reading.step]
    split
    · exact ((h.openBody ordered).aside _).advance onward
    · exact (h.aside _).advance onward
  | closing c =>
    apply quiet _ rfl rfl
    simp only [Reading.step]
    have shallower := h.aside (r.depth - 1)
    split
    · exact (shallower.close (ordered.aside _ _) (Nat.le_succ_of_le lead)).advance onward
    · exact shallower.advance onward
  | mark t =>
    apply quiet _ rfl rfl
    simp only [Reading.step]
    split
    · exact h.startLead.advance onward
    · exact h.advance onward
  | literal t => exact (h.advance onward).quiet rfl rfl pos r.depth
  | other c => exact (h.advance onward).quiet rfl rfl pos r.depth

theorem run {ps : List Piece} (h : Attached source pos words met r)
    (ordered : Ordered source pos r) (sound : ∀ p ∈ ps, p.Sound)
    (text : source.drop pos = ps.flatMap Piece.text) :
    ∃ parts, words ++ outerSpans keyword? pos r.depth ps = parts.map Prod.fst ∧
      parts.flatMap Prod.snd <+: met ++ outerSpans comment? pos r.depth ps ∧
      List.Forall₂ Owns (r.run source pos ps).members parts := by
  induction ps generalizing pos words met r with
  | nil =>
    obtain ⟨parts, waiting, keywords, comments, members, -⟩ := h.ended ordered (lead_le ordered)
    refine ⟨parts, ?_, ⟨waiting, ?_⟩, members⟩
    · rw [outerSpans, List.append_nil, keywords]
    · rw [outerSpans, List.append_nil, comments]
  | cons p ps ih =>
    obtain ⟨first, later⟩ := List.forall_mem_cons.mp sound
    obtain ⟨here, rest⟩ := text_of_pieces text
    obtain ⟨parts, keywords, front, members⟩ :=
      ih (h.step ordered here) (ordered.step first (solid_of_leads first here)) later rest
    rw [step_depth, List.append_assoc] at keywords front
    exact ⟨parts, keywords, front, members⟩

end Attached

end Reading

theorem Owns.keyword_infix {source : Text} {m : Member} {part : Span × List Span}
    (h : Owns m part) (located : Located source m) (text : part.1.text <+: source.drop part.1.start) :
    m.keyword <:+: m.header := by
  obtain ⟨-, keyword, behind, within, -, -⟩ := h
  have rest : m.header.drop (part.1.start - m.offset) <+: source.drop part.1.start := by
    have place : m.offset + (part.1.start - m.offset) = part.1.start := by omega
    have tail := located.place.drop (part.1.start - m.offset)
    rwa [List.drop_drop, place] at tail
  have front : part.1.text <+: m.header.drop (part.1.start - m.offset) := by
    apply List.prefix_of_prefix_length_le text rest
    rw [Span.stop] at within
    rw [List.length_drop]
    omega
  rw [← keyword]
  exact front.isInfix.trans (List.drop_suffix _ _).isInfix

theorem exists_part {ms : List Member} {parts : List (Span × List Span)}
    (h : List.Forall₂ Owns ms parts) : ∀ m ∈ ms, ∃ part ∈ parts, Owns m part := by
  induction h with
  | nil => exact List.forall_mem_nil _
  | @cons m part ms parts owns _ ih =>
    refine List.forall_mem_cons.mpr ⟨⟨part, List.mem_cons_self, owns⟩, fun n mem => ?_⟩
    obtain ⟨other, inside, owned⟩ := ih n mem
    exact ⟨other, List.mem_cons_of_mem _ inside, owned⟩

theorem comments_of_parts {ms : List Member} {parts : List (Span × List Span)}
    (h : List.Forall₂ Owns ms parts) :
    ms.flatMap (·.comments) = (parts.flatMap Prod.snd).map (·.text) := by
  induction h with
  | nil => rfl
  | cons owns _ ih =>
    rw [List.flatMap_cons, List.flatMap_cons, List.map_append, ih, owns.comments]

/-- The members of a body text begin one behind the other inside it. The header of each is a
trimmed stretch that begins at the position of the member and has its keyword in it. Keywords and
comments outside brackets stand apart in the text. There is one member for each such keyword, and
the comments of the members are the first of those comments, in order, each before the keyword
of its member. -/
theorem split_attached (t : Text) :
    ((split t).map (·.offset)).Pairwise (· < ·) ∧
    (∀ m ∈ split t, m.offset < t.length ∧ m.header ≠ [] ∧ Trimmed m.header ∧
      slice t m.offset (m.offset + m.header.length) = m.header ∧ m.keyword <:+: m.header) ∧
    (∀ spans ∈ [outerComments t, outerKeywords t],
      spans.Pairwise (fun u v => u.stop ≤ v.start) ∧
      ∀ u ∈ spans, slice t u.start u.stop = u.text) ∧
    (split t).flatMap (·.comments) <+: (outerComments t).map (·.text) ∧
    ∃ parts, outerKeywords t = parts.map Prod.fst ∧
      parts.flatMap Prod.snd <+: outerComments t ∧ List.Forall₂ Owns (split t) parts := by
  obtain ⟨increasing, located⟩ := split_ordered t
  have text : t.drop 0 = (scan 0 true t).flatMap Piece.text := (flatMap_scan 0 true t).symm
  have comments := outerSpans_place (fun _ _ => prefix_of_comment?) 0 text
  have keywords := outerSpans_place (fun _ _ => prefix_of_keyword?) 0 text
  -- Where members stand is known from their order; the run adds what belongs to which of them.
  obtain ⟨parts, words, front, members⟩ :=
    (Reading.attached_start t).run (Reading.ordered_start t) sound_of_mem_scan text
  have shared : (split t).flatMap (·.comments) = (parts.flatMap Prod.snd).map (·.text) :=
    comments_of_parts members
  refine ⟨increasing, ?_, ?_, ?_, parts, words, front, members⟩
  · intro m mem
    obtain ⟨part, inside, owns⟩ := exists_part members m mem
    have there := located m mem
    have picked : part.1 ∈ outerKeywords t := by
      rw [show outerKeywords t = parts.map Prod.fst from words]
      exact List.mem_map_of_mem inside
    exact ⟨there.offset_lt, there.inhabited, owns.trimmed, slice_of_front there.place,
      owns.keyword_infix there (keywords.2 part.1 picked).2⟩
  · simp only [List.forall_mem_cons, List.not_mem_nil, false_implies, implies_true, and_true]
    exact ⟨⟨comments.1, fun u mem => slice_of_front (comments.2 u mem).2⟩,
      ⟨keywords.1, fun u mem => slice_of_front (keywords.2 u mem).2⟩⟩
  · rw [shared]
    exact front.map _

end ViewCases.Member
