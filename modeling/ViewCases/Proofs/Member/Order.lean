import ViewCases.Proofs.Member.Resume

/-! Where the members of a body text begin. The reading passes over the text piece by piece; the
positions that it keeps, those of finished members, of the member under way and of the lead of
the next one, lie one behind the other and before the piece that is read. So the members are in
the order of the text, and each begins with the text that is kept of it. -/
namespace ViewCases
open Text

namespace Piece

theorem flatMap_scan (depth : Nat) (fresh : Bool) (t : Text) :
    (scan depth fresh t).flatMap text = t := by
  fun_induction scan depth fresh t with
  | case1 => rfl
  | case2 depth fresh c cs p rest found ih =>
    have whole := next_append depth fresh c cs
    rw [found] at whole
    rw [List.flatMap_cons, ih]
    exact whole

def Leads : Piece → Prop
  | .mark _ | .word _ _ => True
  | _ => False

structure Sound (p : Piece) : Prop where
  inhabited : p.text ≠ []
  solid : p.Leads → ∀ c, p.text.head? = some c → isBlank c = false

theorem solid_next {depth : Nat} {fresh : Bool} {c : Char} {cs : Text}
    (h : (next depth fresh c cs).1.Leads) : isBlank c = false := by
  unfold next at h
  split at h
  · cases h
  split at h
  · cases h
  split at h
  · cases h
  split at h
  · cases h
  split at h
  · cases h
  split at h
  · cases h
  split at h
  · next mark =>
    subst mark
    decide
  split at h
  · next letter =>
    apply not_isBlank_of_isWord
    rcases letter with letter | rfl
    · exact isWord_of_isLetter letter
    · decide
  · cases h

theorem sound_next (depth : Nat) (fresh : Bool) (c : Char) (cs : Text) :
    Sound (next depth fresh c cs).1 := by
  have inhabited := text_next_ne_nil depth fresh c cs
  refine ⟨inhabited, ?_⟩
  intro leads d head
  have whole := congrArg List.head? (next_append depth fresh c cs)
  rw [List.head?_append_of_ne_nil _ inhabited, head] at whole
  cases whole
  exact solid_next leads

theorem sound_of_mem_scan {depth : Nat} {fresh : Bool} {t : Text} :
    ∀ p ∈ scan depth fresh t, Sound p := by
  fun_induction scan depth fresh t with
  | case1 => exact List.forall_mem_nil _
  | case2 depth fresh c cs p rest found ih =>
    have first := sound_next depth fresh c cs
    rw [found] at first
    exact List.forall_mem_cons.mpr ⟨first, ih⟩

end Piece

namespace Member
open Piece

def Solid (source : Text) (i : Nat) : Prop :=
  ∃ c cs, source.drop i = c :: cs ∧ isBlank c = false

theorem solid_of_leads {source : Text} {pos : Nat} {p : Piece} (sound : p.Sound)
    (text : p.text <+: source.drop pos) (leads : p.Leads) : Solid source pos := by
  obtain ⟨c, cs, eq⟩ := List.exists_cons_of_ne_nil sound.inhabited
  obtain ⟨rest, whole⟩ := text
  exact ⟨c, cs ++ rest, by rw [← whole, eq, List.cons_append], sound.solid leads c (by rw [eq]; rfl)⟩

theorem text_of_pieces {source : Text} {pos : Nat} {p : Piece} {ps : List Piece}
    (text : source.drop pos = (p :: ps).flatMap Piece.text) :
    p.text <+: source.drop pos ∧ source.drop (pos + p.text.length) = ps.flatMap Piece.text := by
  rw [List.flatMap_cons] at text
  refine ⟨⟨_, text.symm⟩, ?_⟩
  rw [← List.drop_drop, text, List.drop_left]

/-- The text of a member is what stands at its position. -/
structure Located (source : Text) (m : Member) : Prop where
  inhabited : m.header ≠ []
  place : m.header <+: source.drop m.offset

theorem Located.offset_lt {source : Text} {m : Member} (h : Located source m) :
    m.offset < source.length := by
  have size := h.place.length_le
  have := List.length_pos_iff.mpr h.inhabited
  rw [List.length_drop] at size
  omega

theorem strip_slice {source : Text} {start stop : Nat} (solid : Solid source start)
    (behind : start < stop) :
    strip (slice source start stop) ≠ [] ∧ strip (slice source start stop) <+: source.drop start := by
  obtain ⟨c, cs, eq, notBlank⟩ := solid
  obtain ⟨k, rfl⟩ := Nat.exists_eq_add_of_lt behind
  have text : slice source start (start + k + 1) = c :: cs.take k := by
    rw [slice, List.drop_take, eq, Nat.add_assoc, Nat.add_sub_cancel_left, List.take_succ_cons]
  have still : stripStart (c :: cs.take k) = c :: cs.take k :=
    stripStart_of_head (by rintro d ⟨⟩; exact notBlank)
  rw [text]
  constructor
  · intro none
    have blank := blank_of_strip none c List.mem_cons_self
    rw [notBlank] at blank
    cases blank
  · obtain ⟨r, -, cut⟩ := stripEnd_decompose (c :: cs.take k)
    rw [strip, still, eq]
    have front : stripEnd (c :: cs.take k) <+: c :: cs.take k := ⟨r, cut.symm⟩
    exact front.trans (List.cons_prefix_cons.mpr ⟨rfl, List.take_prefix k cs⟩)

namespace Reading

def places (r : Reading) : List Nat :=
  r.members.map (·.offset) ++ (r.current.map (·.offset)).toList ++ r.leadStart.toList

/-- The positions increase and lie before the place of the reading. A member can begin at each
of them, and the finished members do. -/
structure Ordered (source : Text) (pos : Nat) (r : Reading) : Prop where
  increasing : r.places.Pairwise (· < ·)
  below : ∀ i ∈ r.places, i < pos
  solid : ∀ i ∈ r.places, Solid source i
  located : ∀ m ∈ r.members, Located source m
  body : ∀ s b, r.current = some s → s.bodyStart = some b → s.offset < b

theorem ordered_start (source : Text) : Ordered source 0 {} where
  increasing := .nil
  below := List.forall_mem_nil _
  solid := List.forall_mem_nil _
  located := List.forall_mem_nil _
  body := by rintro s b ⟨⟩

variable {source : Text} {pos stop : Nat} {r : Reading}

theorem mem_places_current {s : Started} (h : r.current = some s) : s.offset ∈ r.places := by
  simp [places, h]

theorem Ordered.advance (h : Ordered source pos r) (behind : pos ≤ stop) :
    Ordered source stop r :=
  { h with below := fun i mem => Nat.lt_of_lt_of_le (h.below i mem) behind }

theorem Ordered.aside (h : Ordered source pos r) (comments : List Text) (depth : Nat) :
    Ordered source pos { r with comments := comments, depth := depth } :=
  ⟨h.increasing, h.below, h.solid, h.located, h.body⟩

theorem offsets_close (source : Text) (stop : Nat) (r : Reading) :
    (r.close source stop).members.map (·.offset) =
      r.members.map (·.offset) ++ (r.current.map (·.offset)).toList := by
  unfold close
  cases current : r.current with
  | none => simp
  | some s => simp

theorem places_close (source : Text) (stop : Nat) (r : Reading) :
    (r.close source stop).places = r.places := by
  unfold close
  cases current : r.current with
  | none => rfl
  | some s => simp [places, current]

theorem Ordered.close (h : Ordered source pos r)
    (behind : ∀ s, r.current = some s → s.offset < stop) :
    Ordered source pos (r.close source stop) := by
  have same := places_close source stop r
  refine ⟨by rw [same]; exact h.increasing, by rw [same]; exact h.below,
    by rw [same]; exact h.solid, ?_, ?_⟩
  · unfold Reading.close
    cases current : r.current with
    | none => exact h.located
    | some s =>
      have solid := h.solid _ (mem_places_current current)
      have ends : s.offset < s.bodyStart.getD stop := by
        cases body : s.bodyStart with
        | none => exact behind s current
        | some b => exact h.body s b current body
      obtain ⟨inhabited, place⟩ := strip_slice solid ends
      intro m mem
      rcases List.mem_append.mp mem with old | new
      · exact h.located m old
      · rw [List.mem_singleton.mp new]
        exact ⟨inhabited, place⟩
  · unfold Reading.close
    cases current : r.current with
    | none => exact fun s b started => absurd started (by simp [current])
    | some s => rintro s' b ⟨⟩

theorem Ordered.forget (h : Ordered source pos r) :
    Ordered source pos { r with leadStart := none } := by
  have sub : ({ r with leadStart := none } : Reading).places.Sublist r.places := by
    simp only [places, Option.toList_none, List.append_nil]
    exact List.sublist_append_left _ _
  exact { h with
    increasing := h.increasing.sublist sub
    below := fun i mem => h.below i (sub.subset mem)
    solid := fun i mem => h.solid i (sub.subset mem) }

theorem Ordered.startLead (h : Ordered source pos r) (solid : Solid source pos)
    (behind : pos < stop) : Ordered source stop (r.startLead pos) := by
  cases lead : r.leadStart with
  | some i =>
    have same : r.startLead pos = r := by
      rw [Reading.startLead, lead, Option.getD_some, ← lead]
    rw [same]
    exact h.advance (Nat.le_of_lt behind)
  | none =>
    have longer : (r.startLead pos).places = r.places ++ [pos] := by
      simp [places, Reading.startLead, lead]
    refine ⟨?_, ?_, ?_, h.located, h.body⟩
    · rw [longer, List.pairwise_append]
      refine ⟨h.increasing, List.pairwise_singleton _ _, ?_⟩
      rintro i mem j last
      rw [List.mem_singleton.mp last]
      exact h.below i mem
    · rw [longer, List.forall_mem_append]
      exact ⟨fun i mem => Nat.lt_trans (h.below i mem) behind, by simpa using behind⟩
    · rw [longer, List.forall_mem_append]
      exact ⟨h.solid, by simpa using solid⟩

theorem Ordered.readWord (h : Ordered source pos r) (solid : Solid source pos)
    (behind : pos < stop) (word : Text) : Ordered source stop (r.readWord source pos word) := by
  have lead := h.startLead solid behind
  unfold Reading.readWord
  split
  · have start : (r.startLead pos).places = r.members.map (·.offset) ++
        (r.current.map (·.offset)).toList ++ [r.leadStart.getD pos] := rfl
    have ends : ∀ s, r.current = some s → s.offset < r.leadStart.getD pos := by
      intro s current
      have apart := lead.increasing
      rw [start, List.pairwise_append] at apart
      exact apart.2.2 _ (by simp [current]) _ List.mem_cons_self
    have same : ({ r.close source (r.leadStart.getD pos) with
        current := some ⟨word, r.leadStart.getD pos, r.comments, none⟩
        comments := []
        leadStart := none } : Reading).places = (r.startLead pos).places := by
      rw [start, ← offsets_close source (r.leadStart.getD pos)]
      exact List.append_nil _
    refine ⟨by rw [same]; exact lead.increasing, by rw [same]; exact lead.below,
      by rw [same]; exact lead.solid, (h.close ends).located, ?_⟩
    rintro s b ⟨⟩ ⟨⟩
  · split
    · exact lead
    · exact (h.advance (Nat.le_of_lt behind)).forget

theorem Ordered.openBody (h : Ordered source pos r) : Ordered source pos (r.openBody pos) := by
  unfold Reading.openBody
  cases current : r.current with
  | none => exact h
  | some s =>
    simp only
    split
    · have same : ({ r with current := some { s with bodyStart := some pos } } : Reading).places =
          r.places := by
        simp [places, current]
      have below := h.below _ (mem_places_current current)
      refine ⟨by rw [same]; exact h.increasing, by rw [same]; exact h.below,
        by rw [same]; exact h.solid, h.located, ?_⟩
      rintro s' b ⟨⟩ ⟨⟩
      exact below
    · exact h

theorem Ordered.step (h : Ordered source pos r) {p : Piece} (sound : p.Sound)
    (solid : p.Leads → Solid source pos) :
    Ordered source (pos + p.text.length) (r.step source pos p) := by
  have behind : pos < pos + p.text.length :=
    Nat.lt_add_of_pos_right (List.length_pos_iff.mpr sound.inhabited)
  have onward := Nat.le_of_lt behind
  have below : ∀ s, r.current = some s → s.offset < pos := fun s current =>
    h.below _ (mem_places_current current)
  -- Whatever ends the member under way stands behind its first character, which is `below`.
  cases p with
  | comment t =>
    simp only [Reading.step]
    split
    · exact (h.aside _ _).advance onward
    · exact h.advance onward
  | directive t => exact (h.close below).forget.advance onward
  | opening c =>
    simp only [Reading.step]
    split
    · exact (h.openBody.aside _ _).advance onward
    · exact (h.aside _ _).advance onward
  | closing c =>
    have shallower := h.aside r.comments (r.depth - 1)
    simp only [Reading.step]
    split
    · exact (shallower.close fun s current => Nat.lt_succ_of_lt (below s current)).advance onward
    · exact shallower.advance onward
  | mark t =>
    simp only [Reading.step]
    split
    · exact h.startLead (solid trivial) behind
    · exact h.advance onward
  | word name backtick =>
    simp only [Reading.step]
    split
    · exact h.readWord (solid trivial) behind name
    · exact h.advance onward
  | literal t => exact h.advance onward
  | other c => exact h.advance onward

theorem Ordered.run {ps : List Piece} (h : Ordered source pos r) (sound : ∀ p ∈ ps, p.Sound)
    (text : source.drop pos = ps.flatMap Piece.text) :
    Ordered source (pos + (ps.flatMap Piece.text).length) (r.run source pos ps) := by
  induction ps generalizing pos r with
  | nil => exact h.close fun s current => h.below _ (mem_places_current current)
  | cons p ps ih =>
    obtain ⟨first, later⟩ := List.forall_mem_cons.mp sound
    obtain ⟨here, rest⟩ := text_of_pieces text
    have others := ih (h.step first (solid_of_leads first here)) later rest
    rwa [Nat.add_assoc, ← List.length_append] at others

end Reading

theorem split_ordered (t : Text) :
    ((split t).map (·.offset)).Pairwise (· < ·) ∧ ∀ m ∈ split t, Located t m := by
  have final := (Reading.ordered_start t).run sound_of_mem_scan (flatMap_scan 0 true t).symm
  exact ⟨(List.pairwise_append.mp (List.pairwise_append.mp final.increasing).1).1, final.located⟩

end Member

end ViewCases
