import ViewCases.Proofs.Bracket.Scans
import ViewCases.Proofs.Text.Word

/-! Segments between top-level commas. Where a text is cut depends on its marks alone: the split
counts levels along them, which are the nests of a walk where nothing is closed too early. Texts
that are closed and have no top-level comma come back from a split of their join, and what a split
yields has none. -/
namespace ViewCases.Bracket
open Text

def Nest.levels (d : Nest) : Levels := ⟨d .angle, d .paren, d .square, d .brace⟩

theorem Nest.isFlat_levels (d : Nest) : d.levels.isFlat = (d.total == 0) := by
  rw [Bool.eq_iff_iff]
  simp only [levels, Levels.isFlat, total, Bool.and_eq_true, beq_iff_eq]
  omega

theorem Levels.step_of_not_bracket (l : Levels) {prev : Option Char} {c : Char}
    (h : isBracket prev c = false) : l.step prev c = l := by
  have ne := ne_of_not_bracket h
  simp [Levels.step, Levels.ofKind, (ne _).1, (ne _).2]

theorem ofKind_step (l : Levels) (prev : Option Char) (c : Char) (b : Bracket) :
    (l.step prev c).ofKind b =
      l.ofKind b + if c = b.opener then 1 else if b.closes prev c then -1 else 0 := by
  cases b <;> rfl

theorem Levels.ext_ofKind {l m : Levels} (h : ∀ b, l.ofKind b = m.ofKind b) : l = m := by
  have angle := h .angle
  have paren := h .paren
  have square := h .square
  have brace := h .brace
  cases l
  cases m
  simp_all [ofKind]

def Mark.shift (b : Bracket) : Mark → Int
  | .opens k => if k = b then 1 else 0
  | .closes k => if k = b then -1 else 0
  | .arrow | .comma => 0

def Levels.after (l : Levels) (m : Mark) : Levels :=
  ⟨l.angle + m.shift .angle, l.paren + m.shift .paren, l.square + m.shift .square,
    l.brace + m.shift .brace⟩

def Levels.along (l : Levels) (ms : List Mark) : Levels := ms.foldl Levels.after l

theorem Levels.ofKind_after (l : Levels) (m : Mark) (b : Bracket) :
    (l.after m).ofKind b = l.ofKind b + m.shift b := by
  cases b <;> rfl

theorem Levels.step_eq_after (l : Levels) (prev : Option Char) (c : Char) :
    l.step prev c = (mark? prev c).elim l l.after := by
  apply Levels.ext_ofKind
  intro b
  cases role prev c with
  | opens k =>
    rw [mark?_opener, Option.elim_some, ofKind_step, ofKind_after]
    cases b <;> cases k <;> simp [Mark.shift, closes, opener, closer]
  | closes k head =>
    rw [mark?_closer head, Option.elim_some, ofKind_step, ofKind_after, closes, head]
    cases b <;> cases k <;> simp [Mark.shift, opener, closer]
  | other c plain =>
    rw [step_of_not_bracket l plain, mark?_of_not_bracket plain]
    split
    · simp [ofKind_after, Mark.shift]
    · split
      · simp [ofKind_after, Mark.shift]
      · rfl

theorem walk_cons {d e : Nest} {m : Mark} {ms : List Mark} (h : walk d (m :: ms) = some e) :
    ∃ f : Nest, walk f ms = some e ∧ ∀ b, (f b : Int) = d b + m.shift b := by
  cases m with
  | opens k =>
    refine ⟨d.opened k, h, fun b => ?_⟩
    by_cases same : k = b
    · simp [Nest.opened, Mark.shift, same]
    · simp [Nest.opened, Mark.shift, same, Ne.symm same]
  | closes k =>
    rw [walk] at h
    split at h
    · cases h
    · next open_ =>
      refine ⟨d.closed k, h, fun b => ?_⟩
      by_cases same : k = b
      · subst same
        simp only [Nest.closed, Mark.shift, if_true]
        omega
      · simp [Nest.closed, Mark.shift, same, Ne.symm same]
  | arrow => exact ⟨d, h, fun b => by simp [Mark.shift]⟩
  | comma => exact ⟨d, h, fun b => by simp [Mark.shift]⟩

theorem Levels.ofKind_along {d e : Nest} {ms : List Mark} (h : walk d ms = some e) (l : Levels)
    (b : Bracket) : (l.along ms).ofKind b + d b = l.ofKind b + e b := by
  induction ms generalizing d l with
  | nil =>
    cases Option.some.inj h
    rfl
  | cons m ms ih =>
    obtain ⟨f, rest, moved⟩ := walk_cons h
    have behind := ih rest (l.after m)
    have here := moved b
    rw [Levels.ofKind_after] at behind
    change ((l.after m).along ms).ofKind b + d b = _
    omega

theorem Nest.ofKind_levels (d : Nest) (b : Bracket) : d.levels.ofKind b = d b := by
  cases b <;> rfl

theorem Nest.along_levels {d e : Nest} {ms : List Mark} (h : walk d ms = some e) :
    d.levels.along ms = e.levels := by
  apply Levels.ext_ofKind
  intro b
  have moved := Levels.ofKind_along h d.levels b
  rw [Nest.ofKind_levels] at moved ⊢
  omega

theorem Closed.along {ms : List Mark} (h : Closed ms) (l : Levels) : l.along ms = l := by
  apply Levels.ext_ofKind
  intro b
  have moved := Levels.ofKind_along h l b
  omega

/-- No comma stands where all kinds are level. -/
def Uncut : Levels → List Mark → Prop
  | _, [] => True
  | l, m :: ms => ¬(m = .comma ∧ l.isFlat = true) ∧ Uncut (l.after m) ms

theorem uncut_iff {d e : Nest} {ms : List Mark} (h : walk d ms = some e) :
    Uncut d.levels ms ↔ .comma ∉ topLevel d ms := by
  induction ms generalizing d with
  | nil => simp [Uncut, topLevel]
  | cons m ms ih =>
    have after : ∀ f : Nest, walk d [m] = some f → d.levels.after m = f.levels := fun f step =>
      Nest.along_levels step
    cases m with
    | opens k => simp [Uncut, topLevel, after _ rfl, ih h]
    | closes k =>
      rw [walk] at h
      split at h
      · cases h
      · next open_ =>
        have step : walk d [.closes k] = some (d.closed k) := by rw [walk, if_neg open_, walk]
        simp [Uncut, topLevel, after _ step, ih h]
    | arrow => by_cases zero : d.total = 0 <;> simp [Uncut, topLevel, after _ rfl, zero, ih h]
    | comma =>
      by_cases zero : d.total = 0 <;>
        simp [Uncut, topLevel, after _ rfl, zero, ih h, Nest.isFlat_levels]

def prepend (a : Text) : List Text → List Text
  | [] => [a]
  | s :: ss => (a ++ s) :: ss

def segments (prev : Option Char) (l : Levels) (t : Text) : List Text :=
  segmentsFrom (· == ',') prev l t

theorem segments_ne_nil (prev : Option Char) (l : Levels) (t : Text) : segments prev l t ≠ [] :=
  segmentsFrom_ne_nil _ _ _ _

theorem segments_nil (prev : Option Char) (l : Levels) : segments prev l [] = [[]] := rfl

def cuts (prev : Option Char) (l : Levels) (c : Char) : Bool :=
  !isBracket prev c && c == ',' && l.isFlat

theorem segments_of_cuts {prev : Option Char} {l : Levels} {c : Char}
    (h : cuts prev l c = true) (cs : Text) :
    segments prev l (c :: cs) = [] :: segments (some c) l cs := by
  unfold cuts at h
  unfold segments
  rw [segmentsFrom, if_pos h]

theorem segments_of_not_cuts {prev : Option Char} {l : Levels} {c : Char}
    (h : cuts prev l c = false) (cs : Text) :
    segments prev l (c :: cs) = prepend [c] (segments (some c) (l.step prev c) cs) := by
  unfold cuts at h
  unfold segments
  rw [segmentsFrom, if_neg (Bool.eq_false_iff.mp h)]
  generalize segmentsFrom (· == ',') (some c) (l.step prev c) cs = ss
  cases ss <;> rfl

theorem cuts_iff {prev : Option Char} {l : Levels} {c : Char} :
    cuts prev l c = true ↔ mark? prev c = some .comma ∧ l.isFlat = true := by
  cases role prev c with
  | opens b => simp [cuts, isBracket, mark?_opener]
  | closes b head => simp [cuts, isBracket, head, mark?_closer head]
  | other c plain =>
    rw [mark?_of_not_bracket plain]
    simp only [cuts, plain, Bool.not_false, Bool.true_and, Bool.and_eq_true, beq_iff_eq]
    by_cases comma : c = ','
    · subst comma
      simp [arrowHead]
    · simp [comma]

theorem along_cons (l : Levels) (prev : Option Char) (c : Char) (t : Text) :
    l.along (marksFrom prev (c :: t)) = (l.step prev c).along (marksFrom (some c) t) := by
  rw [marksFrom, Levels.step_eq_after]
  cases mark? prev c <;> rfl

theorem uncut_cons {prev : Option Char} {l : Levels} {c : Char} {t : Text} :
    Uncut l (marksFrom prev (c :: t)) ↔
      cuts prev l c = false ∧ Uncut (l.step prev c) (marksFrom (some c) t) := by
  rw [← Bool.not_eq_true, cuts_iff, marksFrom, Levels.step_eq_after]
  cases mark? prev c with
  | none => simp
  | some m => simp [Uncut]

theorem prepend_nil {ss : List Text} (ne : ss ≠ []) : prepend [] ss = ss := by
  cases ss with
  | nil => exact absurd rfl ne
  | cons s ss => rfl

theorem prepend_prepend (a b : Text) {ss : List Text} (ne : ss ≠ []) :
    prepend a (prepend b ss) = prepend (a ++ b) ss := by
  cases ss with
  | nil => exact absurd rfl ne
  | cons s ss => simp [prepend]

theorem segments_uncut {prev : Option Char} {l : Levels} {u : Text}
    (h : Uncut l (marksFrom prev u)) (t : Text) : segments prev l (u ++ t) =
      prepend u (segments (lastOf prev u) (l.along (marksFrom prev u)) t) := by
  induction u generalizing prev l with
  | nil => exact (prepend_nil (segments_ne_nil _ _ _)).symm
  | cons c cs ih =>
    obtain ⟨whole, later⟩ := uncut_cons.mp h
    rw [List.cons_append, segments_of_not_cuts whole, ih later, along_cons, lastOf,
      prepend_prepend _ _ (segments_ne_nil _ _ _)]
    rfl

theorem Levels.eq_of_isFlat {l : Levels} (h : l.isFlat = true) : l = {} := by
  simp only [Levels.isFlat, Bool.and_eq_true, beq_iff_eq] at h
  obtain ⟨⟨⟨ha, hp⟩, hs⟩, hb⟩ := h
  cases l
  simp_all

theorem segments_cases (prev : Option Char) (l : Levels) (t : Text) :
    (segments prev l t = [t] ∧ Uncut l (marksFrom prev t)) ∨
      ∃ u r, t = u ++ ',' :: r ∧ segments prev l t = u :: segments (some ',') {} r ∧
        Uncut l (marksFrom prev u) ∧ l.along (marksFrom prev u) = {} := by
  induction t generalizing prev l with
  | nil => exact .inl ⟨rfl, trivial⟩
  | cons c cs ih =>
    cases cut : cuts prev l c with
    | true =>
      rw [segments_of_cuts cut]
      simp only [cuts, Bool.and_eq_true, beq_iff_eq] at cut
      obtain ⟨⟨-, rfl⟩, level⟩ := cut
      obtain rfl : l = {} := Levels.eq_of_isFlat level
      exact .inr ⟨[], cs, rfl, rfl, trivial, rfl⟩
    | false =>
      rw [segments_of_not_cuts cut]
      rcases ih (some c) (l.step prev c) with ⟨one, uncut⟩ | ⟨u, r, rfl, more, uncut, level⟩
      · rw [one]
        exact .inl ⟨rfl, uncut_cons.mpr ⟨cut, uncut⟩⟩
      · rw [more]
        rw [← along_cons] at level
        exact .inr ⟨c :: u, r, rfl, rfl, uncut_cons.mpr ⟨cut, uncut⟩, level⟩

/-- The marks of the parts of a text: each part but the last ends where all kinds are level, and
none has a comma there. -/
def Parted : Levels → List (List Mark) → Prop
  | _, [] => False
  | l, [ms] => Uncut l ms
  | l, ms :: more => Uncut l ms ∧ l.along ms = {} ∧ Parted {} more

theorem parted_segments {prev : Option Char} (start : prev ≠ some '-') (l : Levels) (t : Text) :
    Parted l ((segments prev l t).map marks) := by
  generalize parts : segments prev l t = us
  induction us generalizing prev l t with
  | nil => exact absurd parts (segments_ne_nil _ _ _)
  | cons u us ih =>
    have first : marksFrom prev u = marks u := marksFrom_eq_marks (.inl start)
    rcases segments_cases prev l t with ⟨one, uncut⟩ | ⟨v, r, -, more, uncut, level⟩
    · rw [parts] at one
      cases one
      rw [first] at uncut
      exact uncut
    · rw [parts] at more
      obtain ⟨rfl, rest⟩ := List.cons.inj more
      rw [first] at uncut level
      have later := ih (by simp) {} r rest.symm
      cases us with
      | nil => exact absurd rest.symm (segments_ne_nil _ _ _)
      | cons w ws => exact ⟨uncut, level, later⟩

theorem Parted.uncut {mss : List (List Mark)} (h : Parted {} mss) : ∀ ms ∈ mss, Uncut {} ms := by
  induction mss with
  | nil => exact h.elim
  | cons ms more ih =>
    cases more with
    | nil => exact List.forall_mem_singleton.mpr h
    | cons ns more =>
      obtain ⟨first, -, later⟩ := h
      exact List.forall_mem_cons.mpr ⟨first, ih later⟩

theorem segments_of_parted {prev : Option Char} (start : prev ≠ some '-') {l : Levels}
    {us : List Text} (h : Parted l (us.map marks)) : segments prev l (joinWith [','] us) = us := by
  induction us generalizing prev l with
  | nil => exact h.elim
  | cons u us ih =>
    have first : marksFrom prev u = marks u := marksFrom_eq_marks (.inl start)
    cases us with
    | nil =>
      have uncut : Uncut l (marksFrom prev u) := by
        rw [first]
        exact h
      have whole := segments_uncut uncut []
      rw [List.append_nil, segments_nil] at whole
      simpa [joinWith, prepend] using whole
    | cons v us =>
      obtain ⟨uncut, level, later⟩ := h
      rw [← first] at uncut level
      have cut : cuts (lastOf prev u) {} ',' = true := by
        rw [cuts_iff, mark?_eq_none_left (.inr (by decide))]
        exact ⟨rfl, rfl⟩
      rw [joinWith_cons_cons, List.append_assoc, segments_uncut uncut, level,
        List.singleton_append, segments_of_cuts cut, ih (by simp) later]
      simp [prepend]

theorem uncut_of_free {ms : List Mark} (h : Closed ms) (free : .comma ∉ topLevel .flat ms) :
    Uncut {} ms :=
  (uncut_iff h).mpr free

theorem segments_of_free {t : Text} (h : Closed (marks t)) (free : Free .comma t) :
    segments none {} t = [t] := by
  have whole := segments_uncut (uncut_of_free h free) []
  rw [List.append_nil] at whole
  rw [whole, segments_nil]
  simp [prepend]

/-- The texts that can be one entry of a list: trimmed, closed, without a top-level comma. -/
structure Segment (u : Text) : Prop where
  nonempty : u ≠ []
  trimmed : Trimmed u
  closed : Closed (marks u)
  single : Free .comma u

theorem Segment.strip_ne_nil {u : Text} (h : Segment u) : strip u ≠ [] := by
  rw [strip_of_trimmed h.trimmed]
  exact h.nonempty

theorem map_strip_prepend_space (ss : List Text) (h : ss ≠ []) :
    (prepend [' '] ss).map strip = ss.map strip := by
  cases ss with
  | nil => exact absurd rfl h
  | cons s ss => rw [prepend, List.map_cons, strip_append_left blank_space, List.map_cons]

theorem parted_of_closed {mss : List (List Mark)} (ne : mss ≠ [])
    (h : ∀ ms ∈ mss, Closed ms ∧ .comma ∉ topLevel .flat ms) : Parted {} mss := by
  induction mss with
  | nil => exact absurd rfl ne
  | cons ms more ih =>
    obtain ⟨⟨closed, free⟩, later⟩ := List.forall_mem_cons.mp h
    have uncut := uncut_of_free closed free
    cases more with
    | nil => exact uncut
    | cons ns more => exact ⟨uncut, closed.along {}, ih (by simp) later⟩

theorem segments_joinWith {us : List Text} (ne : us ≠ [])
    (h : ∀ u ∈ us, Closed (marks u) ∧ Free .comma u) (prev : Option Char)
    (start : prev ≠ some '-') : segments prev {} (joinWith [','] us) = us := by
  apply segments_of_parted start
  apply parted_of_closed (by simpa using ne)
  simpa [Free] using h

theorem joinWith_space (u : Text) (rest : List Text) :
    joinWith [',', ' '] (u :: rest) = joinWith [','] (u :: rest.map (' ' :: ·)) := by
  induction rest generalizing u with
  | nil => rfl
  | cons v rest ih =>
    rw [List.map_cons, joinWith_cons_cons, joinWith_cons_cons, ih v]
    cases rest <;> simp [joinWith]

theorem segments_join {us : List Text} (ne : us ≠ []) (h : ∀ u ∈ us, Segment u)
    (prev : Option Char) (start : prev ≠ some '-') :
    (segments prev {} (joinWith [',', ' '] us)).map strip = us := by
  cases us with
  | nil => exact absurd rfl ne
  | cons u rest =>
    obtain ⟨first, later⟩ := List.forall_mem_cons.mp h
    have spaced : ∀ v : Text, marks (' ' :: v) = marks v := fun v => marks_cons (by decide) v
    have parts : ∀ v ∈ u :: rest.map (' ' :: ·), Closed (marks v) ∧ Free .comma v := by
      rw [List.forall_mem_cons]
      refine ⟨⟨first.closed, first.single⟩, fun v mem => ?_⟩
      obtain ⟨w, inside, rfl⟩ := List.mem_map.mp mem
      rw [Free, spaced]
      exact ⟨(later w inside).closed, (later w inside).single⟩
    have trim : ∀ v ∈ rest, strip (' ' :: v) = v := fun v mem =>
      (strip_append_left blank_space v).trans (strip_of_trimmed (later v mem).trimmed)
    rw [joinWith_space, segments_joinWith (by simp) parts prev start, List.map_cons,
      strip_of_trimmed first.trimmed, List.map_map]
    exact congrArg (u :: ·) ((List.map_congr_left trim).trans (List.map_id rest))

theorem joinWith_cons_ne_nil (u : Text) {us : List Text} (h : us ≠ []) :
    joinWith [',', ' '] (u :: us) = u ++ ',' :: ' ' :: joinWith [',', ' '] us := by
  cases us with
  | nil => exact absurd rfl h
  | cons v rest => rw [joinWith_cons_cons, List.append_assoc]; rfl

theorem trimmed_join {us : List Text} (ne : us ≠ []) (h : ∀ u ∈ us, Segment u) :
    joinWith [',', ' '] us ≠ [] ∧ Trimmed (joinWith [',', ' '] us) := by
  induction us with
  | nil => exact absurd rfl ne
  | cons u rest ih =>
    obtain ⟨first, others⟩ := List.forall_mem_cons.mp h
    by_cases only : rest = []
    · subst only
      exact ⟨first.nonempty, first.trimmed⟩
    · obtain ⟨full, trim⟩ := ih only others
      have split : joinWith [',', ' '] (u :: rest) =
          (u ++ [',', ' ']) ++ joinWith [',', ' '] rest := by
        rw [joinWith_cons_ne_nil u only]
        simp
      rw [split]
      refine ⟨by simp, trimmed_of_ends (by simp) full ?_ trim.2⟩
      rw [List.head?_append_of_ne_nil _ first.nonempty]
      exact first.trimmed.1

theorem strip_join_ne_nil {us : List Text} (ne : us ≠ []) (h : ∀ u ∈ us, Segment u) :
    strip (joinWith [',', ' '] us) ≠ [] := by
  obtain ⟨full, trim⟩ := trimmed_join ne h
  rwa [strip_of_trimmed trim]

theorem splitTopLevel_join {us : List Text} (h : ∀ u ∈ us, Segment u) :
    splitTopLevel (joinWith [',', ' '] us) = us := by
  unfold splitTopLevel splitTopLevelBy
  cases us with
  | nil => rfl
  | cons u rest =>
    rw [if_neg (mt all_isBlank_iff.mp (strip_join_ne_nil (by simp) h))]
    exact segments_join (by simp) h _ (by simp)

theorem splitTopLevel_space_join {us : List Text} (h : ∀ u ∈ us, Segment u) :
    splitTopLevel (' ' :: joinWith [',', ' '] us) = us := by
  unfold splitTopLevel splitTopLevelBy
  cases us with
  | nil => rfl
  | cons u rest =>
    have nonblank : strip (' ' :: joinWith [',', ' '] (u :: rest)) ≠ [] := by
      have := strip_append_left blank_space (joinWith [',', ' '] (u :: rest))
      rw [List.singleton_append] at this
      rw [this]
      exact strip_join_ne_nil (by simp) h
    rw [if_neg (mt all_isBlank_iff.mp nonblank)]
    change (segments none {} _).map strip = _
    rw [segments_of_not_cuts (by rfl), map_strip_prepend_space _ (segments_ne_nil _ _ _)]
    exact segments_join (by simp) h _ (by simp)

theorem closed_join {us : List Text} (h : ∀ u ∈ us, Closed (marks u)) :
    Closed (marks (joinWith [',', ' '] us)) := by
  induction us with
  | nil => exact closed_nil
  | cons u rest ih =>
    obtain ⟨first, others⟩ := List.forall_mem_cons.mp h
    by_cases ne : rest = []
    · subst ne
      exact first
    · have tail := ih others
      have mark : marks (',' :: ' ' :: joinWith [',', ' '] rest) =
          .comma :: marks (joinWith [',', ' '] rest) := by
        rw [marks_cons (by decide), marks_cons (by decide)]
        rfl
      rw [joinWith_cons_ne_nil u ne, marks_append (.inr (by simp)), mark]
      exact first.append tail

theorem join_getLast {us : List Text} (h : ∀ u ∈ us, u.getLast? ≠ some '-') :
    (joinWith [',', ' '] us).getLast? ≠ some '-' := by
  induction us with
  | nil => simp [joinWith]
  | cons u rest ih =>
    obtain ⟨first, others⟩ := List.forall_mem_cons.mp h
    by_cases ne : rest = []
    · subst ne
      exact first
    · have tail := ih others
      rw [joinWith_cons_ne_nil u ne, List.getLast?_append]
      cases eq : joinWith [',', ' '] rest with
      | nil => simp
      | cons c cs =>
        rw [eq] at tail
        simpa using tail

inductive Joined : List Text → Text → Prop
  | one (u : Text) : Joined [u] u
  | more (u : Text) {us : List Text} {t : Text} : Joined us t → Joined (u :: us) (u ++ ',' :: t)

theorem Joined.prepend_char {us : List Text} {t : Text} (h : Joined us t) (c : Char) :
    Joined (prepend [c] us) (c :: t) := by
  cases h with
  | one u => exact .one _
  | more u h => exact .more (c :: u) h

theorem joined_segments (prev : Option Char) (l : Levels) (t : Text) :
    Joined (segments prev l t) t := by
  induction t generalizing prev l with
  | nil => exact .one []
  | cons c cs ih =>
    cases h : cuts prev l c with
    | false =>
      rw [segments_of_not_cuts h]
      exact (ih _ _).prepend_char c
    | true =>
      rw [segments_of_cuts h]
      simp only [cuts, Bool.and_eq_true, beq_iff_eq] at h
      rw [h.1.2]
      exact .more [] (ih _ _)

theorem free_of_mem_segments {t u : Text} (h : u ∈ segments none {} t)
    (closed : Closed (marks u)) : Free .comma u := by
  have start : (none : Option Char) ≠ some '-' := by simp
  have parted := parted_segments start {} t
  exact (uncut_iff closed).mp (parted.uncut _ (List.mem_map_of_mem h))

theorem Joined.closed {us : List Text} {t : Text} (h : Joined us t)
    (closed : ∀ u ∈ us, Closed (marks u)) : Closed (marks t) := by
  induction h with
  | one u => exact closed u List.mem_cons_self
  | more u h ih =>
    rename_i us t
    obtain ⟨first, later⟩ := List.forall_mem_cons.mp closed
    have rest := ih later
    have comma : marks (',' :: t) = .comma :: marks t := marks_cons (by decide) t
    rw [marks_append (.inr (by simp)), comma]
    exact first.append rest

theorem joined_joinWith {us : List Text} (ne : us ≠ []) : Joined us (joinWith [','] us) := by
  induction us with
  | nil => exact absurd rfl ne
  | cons u rest ih =>
    cases rest with
    | nil => exact .one u
    | cons v rest =>
      rw [joinWith_cons_cons, List.append_assoc]
      exact .more u (ih (by simp))

theorem closed_joinWith {us : List Text} (h : ∀ u ∈ us, Closed (marks u)) :
    Closed (marks (joinWith [','] us)) := by
  by_cases none : us = []
  · subst none
    exact closed_nil
  · exact (joined_joinWith none).closed h

theorem splitTopLevel_joinWith {us : List Text} (h : ∀ u ∈ us, Closed (marks u) ∧ Free .comma u)
    (full : ∀ u ∈ us, strip u ≠ []) : splitTopLevel (joinWith [','] us) = us.map strip := by
  unfold splitTopLevel splitTopLevelBy
  cases us with
  | nil => rfl
  | cons u rest =>
    have visible : ¬(joinWith [','] (u :: rest)).all isBlank = true := by
      intro blank
      apply full u List.mem_cons_self
      apply strip_of_blank
      intro c hc
      apply List.all_eq_true.mp blank
      cases rest with
      | nil => exact hc
      | cons v rest =>
        rw [joinWith_cons_cons, List.append_assoc]
        exact List.mem_append_left _ hc
    rw [if_neg visible]
    exact congrArg (List.map strip) (segments_joinWith (by simp) h _ (by simp))

theorem isPlain_of_isBlank {c : Char} (h : isBlank c = true) : isPlain c = true :=
  isPlain_of_class (by decide) h

theorem isPlain_of_isWord {c : Char} (h : isWord c = true) : isPlain c = true :=
  isPlain_of_class (by decide) h

theorem Blank.ne_hyphen_last {t : Text} (h : Blank t) : t.getLast? ≠ some '-' := by
  intro last
  exact absurd (h '-' (List.mem_of_getLast? last)) (by decide)

theorem Blank.ne_head {t : Text} (h : Blank t) : t.head? ≠ some '>' := by
  intro head
  exact absurd (h '>' (List.mem_of_head? head)) (by decide)

theorem marks_of_blank {t : Text} (h : Blank t) : marks t = [] :=
  marks_of_isPlain fun c hc => isPlain_of_isBlank (h c hc)

theorem marks_strip (t : Text) : marks (strip t) = marks t := by
  obtain ⟨l, r, hl, hr, eq⟩ := strip_decompose t
  have whole := congrArg marks eq
  rw [marks_append (.inr (Blank.ne_head hr)), marks_append (.inl (Blank.ne_hyphen_last hl)),
    marks_of_blank hl, marks_of_blank hr, List.nil_append, List.append_nil] at whole
  exact whole.symm

theorem free_strip {m : Mark} {t : Text} : Free m (strip t) ↔ Free m t := by
  simp only [Free, marks_strip]

theorem free_of_mem_splitTopLevel {t u : Text} (h : u ∈ splitTopLevel t)
    (closed : Closed (marks u)) : Free .comma u := by
  unfold splitTopLevel splitTopLevelBy at h
  split at h
  · simp at h
  · obtain ⟨v, mem, rfl⟩ := List.mem_map.mp h
    rw [marks_strip] at closed
    exact free_strip.mpr (free_of_mem_segments mem closed)

theorem trimmed_of_mem_splitTopLevel {t u : Text} (h : u ∈ splitTopLevel t) : Trimmed u := by
  unfold splitTopLevel splitTopLevelBy at h
  split at h
  · simp at h
  · obtain ⟨v, _, rfl⟩ := List.mem_map.mp h
    exact trimmed_strip v

theorem closed_of_splitTopLevel {t : Text}
    (h : ∀ u ∈ splitTopLevel t, Closed (marks u)) : Closed (marks t) := by
  unfold splitTopLevel splitTopLevelBy at h
  split at h
  · next blank =>
    rw [marks_of_blank (fun c hc => List.all_eq_true.mp blank c hc)]
    exact closed_nil
  · apply (joined_segments none {} t).closed
    intro v hv
    rw [← marks_strip]
    exact h (strip v) (List.mem_map_of_mem hv)

theorem splitTopLevel_of_free {t : Text} (h : Closed (marks t)) (free : Free .comma t)
    (ne : strip t ≠ []) : splitTopLevel t = [strip t] := by
  unfold splitTopLevel splitTopLevelBy
  rw [if_neg (mt all_isBlank_iff.mp ne)]
  change (segments none {} t).map strip = [strip t]
  rw [segments_of_free h free]
  rfl

theorem free_of_length_splitTopLevel {t : Text} (h : Closed (marks t))
    (one : (splitTopLevel t).length = 1) : Free .comma t := by
  obtain ⟨u, eq⟩ := List.length_eq_one_iff.mp one
  unfold splitTopLevel splitTopLevelBy at eq
  split at eq
  · simp at eq
  · change (segments none {} t).map strip = [u] at eq
    obtain ⟨v, segs, -⟩ := List.map_eq_singleton_iff.mp eq
    have joined := joined_segments none {} t
    rw [segs] at joined
    cases joined with
    | one v => exact free_of_mem_segments (by rw [segs]; exact List.mem_singleton.mpr rfl) h
    | more v none => cases none

/-- A balanced text that a split leaves whole. -/
def Atom (x : Text) : Prop := isBalanced x = true ∧ splitTopLevel x = [x]

instance : DecidablePred Atom := fun x =>
  inferInstanceAs (Decidable (isBalanced x = true ∧ splitTopLevel x = [x]))

theorem atom_iff_segment {x : Text} : Atom x ↔ Segment x := by
  constructor
  · rintro ⟨balanced, whole⟩
    have closed := isBalanced_iff.mp balanced
    refine ⟨?_, ?_, closed, free_of_length_splitTopLevel closed (by rw [whole]; rfl)⟩
    · rintro rfl
      cases whole
    · exact trimmed_of_mem_splitTopLevel (t := x) (by rw [whole]; exact List.mem_singleton.mpr rfl)
  · intro h
    refine ⟨isBalanced_iff.mpr h.closed, ?_⟩
    rw [splitTopLevel_of_free h.closed h.single h.strip_ne_nil, strip_of_trimmed h.trimmed]

end ViewCases.Bracket
