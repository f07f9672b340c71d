import ViewCases.Proofs.Member.Recovery
import ViewCases.Proofs.Member.Settling

/-! Members with remarks between them. A remark outside brackets goes to the member that
follows. The member before it, if it has no body, is still under way, and its text is taken
up to the next member: the remark is in it as well. -/
namespace ViewCases.Member
open Text Signature ViewCases.Bracket

inductive Remark
  | line (text : Text)
  | block (text : Text)
  deriving DecidableEq, Repr

def Remark.write : Remark → Text
  | .line text => '/' :: '/' :: text
  | .block text => '/' :: '*' :: text ++ ['*', '/']

def Remark.Legible : Remark → Prop
  | .line text => '\n' ∉ text
  | .block text => ¬['*', '/'] <:+: text

instance : DecidablePred Remark.Legible
  | .line text => inferInstanceAs (Decidable ('\n' ∉ text))
  | .block text => inferInstanceAs (Decidable ¬['*', '/'] <:+: text)

/-- White space and remarks, each with the white space behind it. -/
structure Gap where
  space : Text
  remarks : List (Remark × Text)
  deriving DecidableEq, Repr

namespace Gap

def writeRemarks (remarks : List (Remark × Text)) : Text :=
  remarks.flatMap fun (remark, space) => remark.write ++ space

def write (g : Gap) : Text := g.space ++ writeRemarks g.remarks

def comments (g : Gap) : List Text := g.remarks.map (·.1.write)

structure Legible (g : Gap) : Prop where
  space : Blank g.space
  remarks : ∀ x ∈ g.remarks, x.1.Legible ∧ Blank x.2
  lines : ∀ text space, (.line text, space) ∈ g.remarks → space.head? = some '\n'

theorem legible_plain {space : Text} (h : Blank space) : Legible ⟨space, []⟩ :=
  ⟨h, by simp, by simp⟩

end Gap

/-- Members with the gap before each, and a gap behind them all. -/
def noted : List (Gap × Written) → Gap → Text
  | [], last => last.write
  | (gap, m) :: rest, last => gap.write ++ m.write ++ noted rest last

def firstGap : List (Gap × Written) → Gap → Gap
  | [], last => last
  | (gap, _) :: _, _ => gap

/-- The text of a member with `behind` between it and the next one. -/
def Written.headerBefore (m : Written) (behind : Text) : Text :=
  if m.body.isNone then strip (m.header ++ behind) else m.header

theorem Written.headerBefore_none {m : Written} (h : m.body = none) (behind : Text) :
    m.headerBefore behind = strip (m.header ++ behind) := by
  simp [headerBefore, h]

theorem Written.headerBefore_isSome {m : Written} (h : m.body.isSome = true) (behind : Text) :
    m.headerBefore behind = m.header := by
  obtain ⟨body, eq⟩ := Option.isSome_iff_exists.mp h
  simp [headerBefore, eq]

def notedMembers (pos : Nat) : List (Gap × Written) → Gap → List Member
  | [], _ => []
  | (gap, m) :: rest, last =>
    ⟨m.keyword, m.headerBefore (firstGap rest last).write, pos + gap.write.length, gap.comments⟩ ::
      notedMembers (pos + gap.write.length + m.write.length) rest last

structure Noted (items : List (Gap × Written)) (last : Gap) : Prop where
  gaps : ∀ x ∈ items, x.1.Legible
  apart : ∀ x ∈ items.tail, x.1.write ≠ []
  members : ∀ x ∈ items, x.2.Settles
  last : last.Legible

theorem throughBlockEnd_block {u : Text} (h : ¬['*', '/'] <:+: u) (t : Text) :
    Piece.throughBlockEnd (u ++ '*' :: '/' :: t) = (u ++ ['*', '/'], t) := by
  induction u with
  | nil => rfl
  | cons c cs ih =>
    have noEnd : ∀ rest, c = '*' → cs ++ '*' :: '/' :: t = '/' :: rest → False := by
      rintro rest rfl eq
      cases cs with
      | nil => cases eq
      | cons d ds =>
        cases eq
        exact h ⟨[], ds, rfl⟩
    rw [List.cons_append, Piece.throughBlockEnd]
    · rw [ih (not_infix_tail h)]
      rfl
    · exact noEnd

def Reading.note (r : Reading) (comments : List Text) : Reading :=
  { r with comments := r.comments ++ comments }

theorem next_line {depth : Nat} {text : Text} (h : '\n' ∉ text) (fresh : Bool) (t : Text) :
    Piece.next depth fresh '/' ('/' :: text ++ '\n' :: t) =
      (.comment ('/' :: '/' :: text), '\n' :: t) := by
  have inside : ∀ c ∈ '/' :: text, decide (c ≠ '\n') = true := by
    intro c hc
    rcases List.mem_cons.mp hc with rfl | later
    · decide
    · simpa using fun eq : c = '\n' => h (eq ▸ later)
  obtain ⟨taken, left⟩ := takeWhile_append_cons (c := '\n') (by simp) inside t
  rw [List.cons_append] at taken left ⊢
  simp only [Piece.next, taken, left, List.head?_cons, and_self, if_true]

theorem next_block {depth : Nat} {text : Text} (h : ¬['*', '/'] <:+: text) (fresh : Bool)
    (t : Text) : Piece.next depth fresh '/' ('*' :: (text ++ '*' :: '/' :: t)) =
      (.comment ('/' :: '*' :: text ++ ['*', '/']), t) := by
  simp [Piece.next, throughBlockEnd_block h]

theorem leads_remark (source : Text) {r : Reading} (flat : r.depth = 0) {remark : Remark}
    (h : remark.Legible) {t : Text}
    (stop : ∀ text, remark = .line text → t.head? = some '\n') (pos : Nat) :
    Leads source pos r (r.note [remark.write]) remark.write t := by
  have noted : r.step source pos (.comment remark.write) = r.note [remark.write] := by
    simp [Reading.step, flat, Reading.note]
  rw [← noted]
  cases remark with
  | line text =>
    cases t with
    | nil => cases stop text rfl
    | cons c cs =>
      cases stop text rfl
      exact leads_of_next source pos (fun fresh => next_line h fresh cs) rfl
  | block text =>
    refine leads_of_next source pos (fun fresh => ?_) rfl
    have split : '*' :: text ++ ['*', '/'] ++ t = '*' :: (text ++ '*' :: '/' :: t) := by simp
    exact split ▸ next_block h fresh t

theorem leads_remarks (source : Text) {r : Reading} (flat : r.depth = 0)
    {remarks : List (Remark × Text)} (h : ∀ x ∈ remarks, x.1.Legible ∧ Blank x.2)
    (lines : ∀ text space, (.line text, space) ∈ remarks → space.head? = some '\n')
    (pos : Nat) (t : Text) :
    Leads source pos r (r.note (remarks.map (·.1.write))) (Gap.writeRemarks remarks) t := by
  induction remarks generalizing r pos with
  | nil =>
    have same : r.note [] = r := by simp [Reading.note]
    rw [List.map_nil, same]
    exact .nil _ _ _ _
  | cons x xs ih =>
    obtain ⟨remark, space⟩ := x
    obtain ⟨⟨legible, blank⟩, later⟩ := List.forall_mem_cons.mp h
    have split : Gap.writeRemarks ((remark, space) :: xs) =
        remark.write ++ (space ++ Gap.writeRemarks xs) := by simp [Gap.writeRemarks]
    have first := leads_remark source flat legible (t := space ++ Gap.writeRemarks xs ++ t)
      (fun text eq => by
        have newline := lines text space (eq ▸ List.mem_cons_self)
        rw [List.append_assoc, List.head?_append, newline]
        rfl) pos
    have others := ih (r := r.note [remark.write]) flat later
      (fun text space mem => lines text space (List.mem_cons_of_mem _ mem))
    have both : (r.note [remark.write]).note (xs.map (·.1.write)) =
        r.note (((remark, space) :: xs).map (·.1.write)) := by simp [Reading.note]
    rw [split, ← both]
    exact first.append ((leads_blank source blank _ _).append (others _))

theorem leads_gap (source : Text) {r : Reading} (flat : r.depth = 0) {g : Gap} (h : g.Legible)
    (pos : Nat) (t : Text) : Leads source pos r (r.note g.comments) g.write t :=
  (leads_blank source h.space pos _).append (leads_remarks source flat h.remarks h.lines _ _)

/-- Closing the member under way behind any text yields `done` of that text. -/
structure Ready (source : Text) (pos : Nat) (done : Text → List Member) (r : Reading) : Prop where
  flat : r.depth = 0
  lead : r.leadStart = none
  comments : r.comments = []
  ends : ∀ behind rest, source.drop pos = behind ++ rest →
    (r.close source (pos + behind.length)).members = done behind

theorem ready_start (source : Text) : Ready source 0 (fun _ => []) {} :=
  ⟨rfl, rfl, rfl, fun _ _ _ => rfl⟩

theorem close_note (source : Text) (stop : Nat) (r : Reading) (comments : List Text) :
    ((r.note comments).close source stop).members = (r.close source stop).members := by
  unfold Reading.close Reading.note
  cases r.current <;> rfl

section
variable {source before rest : Text} {gap : Gap} {m : Written} {done : Text → List Member}
  {r : Reading}

theorem Ready.started (ready : Ready source before.length done r)
    (place : source = before ++ (gap.write ++ m.write) ++ rest) :
    let s := (r.note gap.comments).start source (before.length + gap.write.length) m.keyword
    s.depth = 0 ∧
      s.current = some ⟨m.keyword, before.length + gap.write.length, gap.comments, none⟩ ∧
      s.members = done gap.write := by
  have behind : source.drop before.length = gap.write ++ (m.write ++ rest) := by
    rw [place]
    simp
  refine ⟨?_, ?_, ?_⟩
  · rw [Reading.start_depth]
    exact ready.flat
  · simp [Reading.start, Reading.note, ready.comments]
  · exact (close_note _ _ _ _).trans (ready.ends gap.write _ behind)

theorem Ready.leads (ready : Ready source before.length done r) (h : gap.Legible)
    (settles : m.Settles) (stops : Stops rest) :
    Leads source before.length r
      ((r.note gap.comments).start source (before.length + gap.write.length) m.keyword)
      (gap.write ++ m.header) rest :=
  (leads_gap source ready.flat h _ _).append
    (settles.leads source (r := r.note gap.comments) ready.flat ready.lead stops _)

theorem ready_bodyless (ready : Ready source before.length done r) (noBody : m.body = none)
    (place : source = before ++ (gap.write ++ m.write) ++ rest) :
    Ready source (before ++ (gap.write ++ m.write)).length
      (fun behind => done gap.write ++ [⟨m.keyword, m.headerBefore behind,
        before.length + gap.write.length, gap.comments⟩])
      ((r.note gap.comments).start source (before.length + gap.write.length) m.keyword) := by
  obtain ⟨flat, under, earlier⟩ := ready.started place
  have whole : m.write = m.header := by simp [Written.write, noBody, Written.writeBody]
  refine ⟨flat, rfl, rfl, ?_⟩
  intro behind after eq
  have next : rest = behind ++ after := by
    rw [place, List.drop_left] at eq
    exact eq
  -- Whatever closes the member stands behind `behind`, which its text then takes in.
  have stop : (before ++ (gap.write ++ m.write)).length + behind.length =
      before.length + gap.write.length + (m.header ++ behind).length := by
    simp only [whole, List.length_append]
    omega
  have text := slice_member place (x := m.header ++ behind) (y := after)
    (by rw [whole, next, List.append_assoc])
  rw [close_some under, earlier, stop]
  simp only [Option.getD_none, text, Written.headerBefore_none noBody]

theorem leads_bodied (ready : Ready source before.length done r) (h : gap.Legible)
    (settles : m.Settles) (place : source = before ++ (gap.write ++ m.write) ++ rest)
    {space inside : Text} (body : m.body = some (space, inside)) :
    Leads source before.length r
      { (r.note gap.comments).start source (before.length + gap.write.length) m.keyword with
        members := done gap.write ++
          [⟨m.keyword, m.header, before.length + gap.write.length, gap.comments⟩]
        current := none }
      (gap.write ++ m.write) rest := by
  obtain ⟨flat, under, earlier⟩ := ready.started place
  obtain ⟨blankSpace, interior⟩ := settles.body space inside body
  have whole : m.write = m.header ++ (space ++ ('\x7b' :: inside ++ ['\x7d'])) := by
    rw [Written.write, body]
    rfl
  have stops : Stops ((space ++ ('\x7b' :: inside ++ ['\x7d'])) ++ rest) := by
    cases space with
    | nil =>
      rintro c ⟨⟩
      decide
    | cons d ds =>
      rw [List.append_assoc]
      exact stops_blank (by simp) blankSpace
  have header := ready.leads h settles stops
  have closed := leads_body source flat under blankSpace interior
    (before.length + (gap.write ++ m.header).length) rest
  have text := slice_member place (x := m.header ++ space)
    (y := '\x7b' :: inside ++ ['\x7d'] ++ rest) (by rw [whole]; simp)
  have stop : before.length + (gap.write ++ m.header).length + space.length =
      before.length + gap.write.length + (m.header ++ space).length := by
    simp only [List.length_append]
    omega
  rw [stop, text, strip_append_right blankSpace, strip_of_trimmed settles.trimmed, earlier]
    at closed
  rw [whole, ← List.append_assoc]
  exact header.append closed

theorem ready_member (ready : Ready source before.length done r) (h : gap.Legible)
    (settles : m.Settles) (stops : Stops rest)
    (place : source = before ++ (gap.write ++ m.write) ++ rest) :
    ∃ r', Leads source before.length r r' (gap.write ++ m.write) rest ∧
      Ready source (before ++ (gap.write ++ m.write)).length
        (fun behind => done gap.write ++ [⟨m.keyword, m.headerBefore behind,
          before.length + gap.write.length, gap.comments⟩]) r' := by
  cases body : m.body with
  | none =>
    have noBody : m.write = m.header := by simp [Written.write, body, Written.writeBody]
    have leads := ready.leads h settles stops
    rw [← noBody] at leads
    exact ⟨_, leads, ready_bodyless ready body place⟩
  | some parts =>
    have flat := (ready.started place).1
    refine ⟨_, leads_bodied ready h settles place body, flat, rfl, rfl, ?_⟩
    intro behind _ _
    rw [close_none rfl, Written.headerBefore_isSome (by rw [body]; rfl)]

end

theorem stops_gap {g : Gap} (h : g.Legible) : Stops g.write := by
  obtain ⟨space, remarks⟩ := g
  have opens : ∀ remark : Remark, remark.write.head? = some '/' := by
    intro remark
    cases remark <;> rfl
  cases space with
  | cons c cs =>
    rintro d ⟨⟩
    exact not_isNamePart_of_isBlank (h.space c List.mem_cons_self)
  | nil =>
    cases remarks with
    | nil =>
      intro c hc
      cases hc
    | cons x xs =>
      intro c hc
      have slash : c = '/' := by
        simpa [Gap.write, Gap.writeRemarks, List.head?_append, opens, eq_comm] using hc
      subst slash
      decide

theorem stops_noted {items : List (Gap × Written)} {last : Gap} (gaps : ∀ x ∈ items, x.1.Legible)
    (apart : ∀ x ∈ items, x.1.write ≠ []) (h : last.Legible) : Stops (noted items last) := by
  cases items with
  | nil => exact stops_gap h
  | cons x xs =>
    obtain ⟨gap, m⟩ := x
    have ne := apart _ List.mem_cons_self
    intro c hc
    rw [noted, List.append_assoc, List.head?_append_of_ne_nil _ ne] at hc
    exact stops_gap (gaps _ List.mem_cons_self) c hc

theorem run_noted {items : List (Gap × Written)} {last : Gap} (h : Noted items last)
    {before : Text} {done : Text → List Member} {r : Reading}
    (ready : Ready (before ++ noted items last) before.length done r) (fresh : Bool) :
    (resume (before ++ noted items last) before.length r fresh (noted items last)).members =
      done (firstGap items last).write ++ notedMembers before.length items last := by
  induction items generalizing before done r fresh with
  | nil =>
    -- The remarks at the end wait for a member that does not come.
    have passed := leads_gap (before ++ last.write) ready.flat h.last before.length [] fresh
    rw [List.append_nil, resume_nil] at passed
    change (resume (before ++ last.write) before.length r fresh last.write).members =
      done last.write ++ []
    rw [passed, close_note, List.append_nil]
    exact ready.ends last.write [] (by simp [noted])
  | cons x xs ih =>
    obtain ⟨gap, m⟩ := x
    obtain ⟨legible, gaps⟩ := List.forall_mem_cons.mp h.gaps
    obtain ⟨settles, members⟩ := List.forall_mem_cons.mp h.members
    have source_eq : before ++ noted ((gap, m) :: xs) last =
        before ++ (gap.write ++ m.write) ++ noted xs last := by
      simp [noted]
    rw [source_eq] at ready ⊢
    obtain ⟨r', leads, ready'⟩ :=
      ready_member ready legible settles (stops_noted gaps h.apart h.last) rfl
    have later : Noted xs last :=
      ⟨gaps, fun y hy => h.apart y (List.mem_of_mem_tail hy), members, h.last⟩
    have others := ih later ready' (Piece.freshAfter fresh (gap.write ++ m.write))
    rw [noted, leads fresh, ← List.length_append, others, List.append_assoc]
    simp [notedMembers, firstGap, Nat.add_assoc]

theorem split_noted {items : List (Gap × Written)} {last : Gap} (h : Noted items last) :
    split (noted items last) = notedMembers 0 items last := by
  have start : Ready ([] ++ noted items last) ([] : Text).length (fun _ => []) {} :=
    ready_start _
  exact run_noted h start true

end ViewCases.Member
