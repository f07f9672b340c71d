import ViewCases.Proofs.Member.Header

/-! Members read back from the text in which they were written one behind the other. A
member without a body ends only where the next keyword confirms the attributes and words
before it, so the state between two members is described by what closing it would give. -/
namespace ViewCases.Member
open Text Signature ViewCases.Bracket

/-- Members with the white space before each. -/
def layout (items : List (Text × Written)) : Text :=
  items.flatMap fun (gap, m) => gap ++ m.write

def laidOut (pos : Nat) : List (Text × Written) → List Member
  | [] => []
  | (gap, m) :: rest =>
    ⟨m.keyword, m.header, pos + gap.length, []⟩ ::
      laidOut (pos + gap.length + m.write.length) rest

structure Legible (items : List (Text × Written)) : Prop where
  gaps : ∀ x ∈ items, Blank x.1
  apart : ∀ x ∈ items.tail, x.1 ≠ []
  members : ∀ x ∈ items, x.2.Legible

theorem slice_middle (a b c : Text) :
    slice (a ++ b ++ c) a.length (a.length + b.length) = b := by
  have front : (a ++ b ++ c).take (a.length + b.length) = a ++ b := by
    rw [← List.length_append, List.take_left]
  rw [slice, front, List.drop_left]

/-- Closing the member under way behind any white space at `pos` yields `done`. -/
structure Settled (source : Text) (pos : Nat) (done : List Member) (r : Reading) : Prop where
  flat : r.depth = 0
  lead : r.leadStart = none
  comments : r.comments = []
  ends : ∀ gap rest, Blank gap → source.drop pos = gap ++ rest →
    (r.close source (pos + gap.length)).members = done

theorem settled_start (source : Text) : Settled source 0 [] {} :=
  ⟨rfl, rfl, rfl, fun _ _ _ _ => rfl⟩

theorem close_none {source : Text} {stop : Nat} {r : Reading} (h : r.current = none) :
    r.close source stop = r := by
  simp [Reading.close, h]

theorem close_some {source : Text} {stop : Nat} {r : Reading} {s : Started}
    (h : r.current = some s) : (r.close source stop).members =
      r.members ++ [⟨s.keyword, strip (slice source s.offset (s.bodyStart.getD stop)), s.offset,
        s.comments⟩] := by
  simp [Reading.close, h]

theorem leads_body (source : Text) {r : Reading} (flat : r.depth = 0) {keyword : Text} {p : Nat}
    {comments : List Text} (under : r.current = some ⟨keyword, p, comments, none⟩)
    {gap inside : Text} (blank : Blank gap) (h : Interior inside) (pos : Nat) (t : Text) :
    Leads source pos r
      { r with
        members := r.members ++ [⟨keyword, strip (slice source p (pos + gap.length)), p, comments⟩]
        current := none }
      (gap ++ ('\x7b' :: inside ++ ['\x7d'])) t := by
  have mem : Bracket.brace ∈ blocks := by simp [blocks]
  have opened : r.step source (pos + gap.length) (.opening '\x7b') =
      { r with
        current := some ⟨keyword, p, comments, some (pos + gap.length)⟩
        depth := 1 } := by
    simp [Reading.step, flat, Reading.openBody, under]
  have first := leads_opener source (pos + gap.length) r mem (inside ++ ['\x7d'] ++ t)
  change Leads source (pos + gap.length) r (r.step source _ (.opening '\x7b')) ['\x7b'] _ at first
  rw [opened] at first
  generalize deep : ({ r with
    current := some ⟨keyword, p, comments, some (pos + gap.length)⟩
    depth := 1 } : Reading) = s at first
  have depth : s.depth = 1 := by rw [← deep]
  have within := leads_interior source (r := s) (t := ['\x7d'] ++ t)
    (by rw [depth]; decide) h (by simp) (pos + gap.length + 1)
  have last := leads_closer source (pos + gap.length + 1 + inside.length) s mem t
  have shut : s.step source (pos + gap.length + 1 + inside.length) (.closing '\x7d') =
      { r with
        members := r.members ++ [⟨keyword, strip (slice source p (pos + gap.length)), p, comments⟩]
        current := none } := by
    rw [← deep]
    simp [Reading.step, Reading.inBody, Reading.close, flat]
  change Leads source _ s (s.step source _ (.closing '\x7d')) ['\x7d'] _ at last
  rw [shut] at last
  exact (leads_blank source blank pos _).append (first.append (within.append last))

theorem strip_header {m : Written} (h : m.Legible) {gap : Text} (blank : Blank gap) :
    strip (m.header ++ gap) = m.header := by
  rw [strip_append_right blank, strip_of_trimmed (trimmed_header h)]

section
variable {source before gap rest : Text} {m : Written} {done : List Member} {r : Reading}

theorem slice_member (place : source = before ++ (gap ++ m.write) ++ rest) {x y : Text}
    (eq : m.write ++ rest = x ++ y) :
    slice source (before.length + gap.length) (before.length + gap.length + x.length) = x := by
  have whole : source = (before ++ gap) ++ x ++ y := by
    rw [place, List.append_assoc (before ++ gap), ← eq]
    simp
  rw [whole, ← List.length_append]
  exact slice_middle _ _ _

theorem Settled.started (settled : Settled source before.length done r) (blank : Blank gap)
    (place : source = before ++ (gap ++ m.write) ++ rest) :
    (r.start source (before.length + gap.length) m.keyword).depth = 0 ∧
      (r.start source (before.length + gap.length) m.keyword).current =
        some ⟨m.keyword, before.length + gap.length, [], none⟩ ∧
      (r.start source (before.length + gap.length) m.keyword).members = done := by
  have behind : source.drop before.length = gap ++ (m.write ++ rest) := by
    rw [place]
    simp
  refine ⟨?_, ?_, settled.ends gap _ blank behind⟩
  · rw [Reading.start_depth, settled.flat]
  · rw [Reading.start, settled.comments]

theorem settled_bodyless (settled : Settled source before.length done r) (blank : Blank gap)
    (h : m.Legible) (place : source = before ++ (gap ++ m.write) ++ rest)
    (noBody : m.write = m.header) :
    Settled source (before ++ (gap ++ m.write)).length
      (done ++ [⟨m.keyword, m.header, before.length + gap.length, []⟩])
      (r.start source (before.length + gap.length) m.keyword) := by
  obtain ⟨flat, under, earlier⟩ := settled.started blank place
  refine ⟨flat, rfl, rfl, ?_⟩
  intro next after blankNext eq
  have behind : rest = next ++ after := by
    rw [place, List.drop_left] at eq
    exact eq
  have stop : (before ++ (gap ++ m.write)).length + next.length =
      before.length + gap.length + (m.header ++ next).length := by
    simp only [noBody, List.length_append]
    omega
  have text := slice_member place (x := m.header ++ next) (y := after)
    (by rw [noBody, behind, List.append_assoc])
  rw [close_some under, earlier, stop]
  simp only [Option.getD_none, text, strip_header h blankNext]

theorem leads_bodyless (settled : Settled source before.length done r) (blank : Blank gap)
    (h : m.Legible) (stops : Stops rest) :
    Leads source before.length r (r.start source (before.length + gap.length) m.keyword)
      (gap ++ m.header) rest :=
  (leads_blank source blank _ _).append (leads_header source settled.flat settled.lead h stops _)

theorem leads_member_body (settled : Settled source before.length done r) (blank : Blank gap)
    (h : m.Legible) (place : source = before ++ (gap ++ m.write) ++ rest) {space inside : Text}
    (body : m.body = some (space, inside)) :
    Leads source before.length r
      { r.start source (before.length + gap.length) m.keyword with
        members := done ++ [⟨m.keyword, m.header, before.length + gap.length, []⟩]
        current := none }
      (gap ++ m.write) rest := by
  obtain ⟨flat, under, earlier⟩ := settled.started blank place
  obtain ⟨blankSpace, interior⟩ := h.body space inside body
  have whole : m.write = m.header ++ (space ++ ('\x7b' :: inside ++ ['\x7d'])) := by
    rw [Written.write, body]
    rfl
  have stops : Stops ((space ++ ('\x7b' :: inside ++ ['\x7d'])) ++ rest) := by
    cases space with
    | nil =>
      rintro c ⟨⟩
      decide
    | cons d ds =>
      rw [List.append_assoc]
      exact stops_blank (by simp) blankSpace
  have header := leads_header source settled.flat settled.lead h stops
    (before.length + gap.length)
  have closed := leads_body source flat under blankSpace interior
    (before.length + gap.length + m.header.length) rest
  have text := slice_member place (x := m.header ++ space)
    (y := '\x7b' :: inside ++ ['\x7d'] ++ rest) (by rw [whole]; simp)
  rw [List.length_append, ← Nat.add_assoc] at text
  rw [text, strip_header h blankSpace, earlier] at closed
  rw [whole]
  exact (leads_blank source blank _ _).append (header.append closed)

theorem settled_member (settled : Settled source before.length done r) (blank : Blank gap)
    (h : m.Legible) (stops : Stops rest) (place : source = before ++ (gap ++ m.write) ++ rest) :
    ∃ r', Leads source before.length r r' (gap ++ m.write) rest ∧
      Settled source (before ++ (gap ++ m.write)).length
        (done ++ [⟨m.keyword, m.header, before.length + gap.length, []⟩]) r' := by
  cases body : m.body with
  | none =>
    have noBody : m.write = m.header := by simp [Written.write, body, Written.writeBody]
    have leads := leads_bodyless settled blank h stops
    rw [← noBody] at leads
    exact ⟨_, leads, settled_bodyless settled blank h place noBody⟩
  | some parts =>
    have flat := (settled.started blank place).1
    exact ⟨_, leads_member_body settled blank h place body, flat, rfl, rfl,
      fun _ _ _ _ => by rw [close_none rfl]⟩

end

theorem stops_layout {items : List (Text × Written)} (gaps : ∀ x ∈ items, Blank x.1)
    (apart : ∀ x ∈ items, x.1 ≠ []) {trail : Text} (blank : Blank trail) :
    Stops (layout items ++ trail) := by
  cases items with
  | nil =>
    intro c hc
    exact not_isNamePart_of_isBlank (blank c (List.mem_of_head? hc))
  | cons x xs =>
    obtain ⟨gap, m⟩ := x
    have split : layout ((gap, m) :: xs) ++ trail = gap ++ (m.write ++ (layout xs ++ trail)) := by
      simp [layout]
    rw [split]
    exact stops_blank (apart _ List.mem_cons_self) (gaps _ List.mem_cons_self)

theorem run_layout {items : List (Text × Written)} (h : Legible items) {before trail : Text}
    (blank : Blank trail) {done : List Member} {r : Reading}
    (settled : Settled (before ++ (layout items ++ trail)) before.length done r) (fresh : Bool) :
    (resume (before ++ (layout items ++ trail)) before.length r fresh
      (layout items ++ trail)).members = done ++ laidOut before.length items := by
  induction items generalizing before done r fresh with
  | nil =>
    have passed := leads_blank (before ++ trail) (r := r) blank before.length [] fresh
    rw [List.append_nil, resume_nil] at passed
    change (resume (before ++ trail) before.length r fresh trail).members = done ++ []
    rw [passed, List.append_nil]
    exact settled.ends trail [] blank (by simp [layout])
  | cons x xs ih =>
    obtain ⟨gap, m⟩ := x
    obtain ⟨blankGap, gaps⟩ := List.forall_mem_cons.mp h.gaps
    obtain ⟨legible, members⟩ := List.forall_mem_cons.mp h.members
    have stops := stops_layout gaps h.apart blank
    have split : layout ((gap, m) :: xs) ++ trail = (gap ++ m.write) ++ (layout xs ++ trail) := by
      simp [layout]
    have source_eq : before ++ (layout ((gap, m) :: xs) ++ trail) =
        before ++ (gap ++ m.write) ++ (layout xs ++ trail) := by
      rw [split, List.append_assoc before]
    rw [source_eq] at settled ⊢
    obtain ⟨r', leads, settled'⟩ := settled_member settled blankGap legible stops rfl
    have later : Legible xs :=
      ⟨gaps, fun y hy => h.apart y (List.mem_of_mem_tail hy), members⟩
    have others := ih later settled' (Piece.freshAfter fresh (gap ++ m.write))
    rw [split, leads fresh, ← List.length_append, others, List.append_assoc]
    simp [laidOut, Nat.add_assoc]

/-- A layout is split into the members that were laid out, each with its own header and
place and no comments. -/
theorem split_layout {items : List (Text × Written)} (h : Legible items) {trail : Text}
    (blank : Blank trail) : split (layout items ++ trail) = laidOut 0 items := by
  have start : Settled ([] ++ (layout items ++ trail)) ([] : Text).length [] {} := settled_start _
  exact run_layout h blank start true

theorem split_layout_braces :
    let items : List (Text × Written) :=
      [([], ⟨[(.mark "a" (some "func { b }"), [' ']), (.modifier "public", ['\n'])], "func",
        " f(x: { y })", none⟩),
       (['\n'], ⟨[(.modifier "static", [' '])], "var", " p: Q", some ([' '], " get { } ")⟩)]
    Legible items ∧ Blank ['\n'] ∧ split (layout items ++ ['\n']) = laidOut 0 items := by
  intro items
  have known : ("public" : Text) ∈ modifierWords ∧ ("static" : Text) ∈ modifierWords := by decide
  have space : ∀ c ∈ ([' ', '\n'] : Text), isBlank c = true := by decide
  have blank : ∀ c ∈ ([' ', '\n'] : Text), Blank [c] := fun c hc d hd =>
    (List.mem_singleton.mp hd) ▸ space c hc
  have name : ∀ w ∈ (["f", "p", "Q"] : List Text),
      IsIdentifier w ∧ w ∉ declarationWords ∧ w ∉ modifierWords := by
    intro w hw
    have all : ∀ v ∈ (["f", "p", "Q"] : List Text), (v.head?.any isIdentifierStart = true ∧
        ∀ c ∈ v, isIdentifierPart c = true) ∧ v ∉ declarationWords ∧ v ∉ modifierWords := by
      decide
    obtain ⟨⟨start, chars⟩, apart⟩ := all w hw
    exact ⟨⟨start, chars⟩, apart⟩
  have f := name "f" (by decide)
  have p := name "p" (by decide)
  have q := name "Q" (by decide)
  have blankSpace : isBlank ' ' = true := by decide
  have group : Tail ('(' :: "x: { y }" ++ [')']) :=
    .group .paren "x: { y }" (.inl rfl)
      (interior_of_not_mem (by decide) (by decide) (by decide)) .nil
  have first : Tail (' ' :: (['f'] ++ ('(' :: "x: { y }" ++ [')']))) :=
    .space ' ' blankSpace (.identifier "f" f.1 f.2.1 f.2.2 (by rintro c ⟨⟩; rfl) group)
  have last : Tail (['Q'] ++ []) := .identifier "Q" q.1 q.2.1 q.2.2 (by simp) .nil
  have second : Tail (' ' :: (['p'] ++ ':' :: ' ' :: (['Q'] ++ []))) :=
    .space ' ' blankSpace (.identifier "p" p.1 p.2.1 p.2.2 (by rintro c ⟨⟩; rfl)
      (.punctuation ':' (by decide) (.space ' ' blankSpace last)))
  have legible : Legible items := by
    constructor
    · simp [items, Blank, space]
    · simp [items]
    · simp only [items, List.forall_mem_cons]
      refine ⟨?_, ?_, by simp⟩
      · refine ⟨?_, ?_, by decide, first, by rintro c ⟨⟩; rfl, by rintro c ⟨⟩; rfl, by simp⟩
        · simp only [List.forall_mem_cons]
          refine ⟨⟨by decide, ?_⟩, known.1, by simp⟩
          rintro a ⟨⟩
          exact interior_of_not_mem (by decide) (by decide) (by decide)
        · simp [blank]
      · refine ⟨?_, ?_, by decide, second, by rintro c ⟨⟩; rfl, by rintro c ⟨⟩; rfl, ?_⟩
        · simp only [List.forall_mem_cons]
          exact ⟨known.2, by simp⟩
        · simp [blank]
        · rintro gap inside ⟨⟩
          exact ⟨blank ' ' (by decide), interior_of_not_mem (by decide) (by decide) (by decide)⟩
  exact ⟨legible, blank '\n' (by decide), split_layout legible (blank '\n' (by decide))⟩

end ViewCases.Member
