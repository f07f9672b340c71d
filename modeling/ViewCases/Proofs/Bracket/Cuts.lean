import ViewCases.Proofs.Bracket.Segments

/-! The search for a token and the split at commas. One counts all brackets together and never
below zero, the other counts each kind and may go below; on a balanced text both find the same
places outside brackets, and a cut there leaves balanced parts. Nothing is said of texts that
are not balanced, where the two can differ. -/
namespace ViewCases.Bracket
open Text

theorem findFrom_eq_some {token : Text} (other : token ≠ ['=']) {prev : Option Char} {d e : Nest}
    {pos i : Nat} {t : Text} (walked : walk d (marksFrom prev t) = some e)
    (found : findFrom token false prev d.total pos t = some i) :
    ∃ a r, t = a ++ token ++ r ∧ i = pos + a.length ∧ walk d (marksFrom prev a) = some .flat := by
  induction t generalizing prev d pos with
  | nil => cases found
  | cons c cs ih =>
    rw [findFrom] at found
    simp only [Bool.false_eq_true, if_false, other, false_and] at found
    split at found
    · next here =>
      cases found
      obtain ⟨ground, begins⟩ := here
      obtain ⟨r, eq⟩ := List.isPrefixOf_iff_prefix.mp begins
      exact ⟨[], r, eq.symm, rfl, congrArg some (Nest.total_eq_zero.mp ground)⟩
    · -- The token stands further on, from a nest that the character leads to.
      have further : ∀ f : Nest,
          (∀ u, walk d (marksFrom prev (c :: u)) = walk f (marksFrom (some c) u)) →
          findFrom token false (some c) f.total (pos + 1) cs = some i →
          ∃ a r, c :: cs = a ++ token ++ r ∧ i = pos + a.length ∧
            walk d (marksFrom prev a) = some .flat := by
        intro f step found
        rw [step] at walked
        obtain ⟨a, r, rfl, rfl, ground⟩ := ih walked found
        exact ⟨c :: a, r, rfl, by simp; omega, (step a).trans ground⟩
      cases role prev c with
      | opens b =>
        rw [if_pos (isOpener_opener b), ← Nest.total_opened] at found
        exact further _ (walk_opener d prev b) found
      | closes b head =>
        obtain ⟨hd, -⟩ := walk_closer_eq_some head walked
        have down : d.total - 1 = (d.closed b).total := by
          have := Nest.total_closed hd
          omega
        simp only [isOpener_closer, isCloser_closer, head, Bool.false_eq_true, if_false,
          Bool.not_false, Bool.and_true, if_true, down] at found
        exact further _ (fun u => by rw [walk_closer d head, if_neg hd]) found
      | other c plain =>
        have step := walk_other d plain
        simp only [isBracket, Bool.or_eq_false_iff] at plain
        simp only [plain.1, plain.2, Bool.false_eq_true, if_false] at found
        exact further d step found

/-- A token that opens and closes nothing, and after which an angle bracket closes. -/
structure Separates (token : Text) : Prop where
  level : ∀ prev, walk .flat (marksFrom prev token) = some .flat
  last : ∀ prev, lastOf prev token ≠ some '-'

theorem separates_comma : Separates [','] := ⟨fun _ => rfl, fun _ => by simp [lastOf]⟩

theorem separates_colon : Separates [':'] := ⟨fun _ => rfl, fun _ => by simp [lastOf]⟩

theorem separates_arrow : Separates ['-', '>'] := ⟨fun _ => rfl, fun _ => by simp [lastOf]⟩

theorem closed_around {token : Text} (separates : Separates token) (other : token ≠ ['='])
    {t : Text} (closed : Closed (marks t)) {i : Nat} (found : findTopLevel token t = some i) :
    ∃ a r, t = a ++ token ++ r ∧ i = a.length ∧ Closed (marks a) ∧ Closed (marks r) := by
  rw [findTopLevel_zero] at found
  obtain ⟨a, r, rfl, rfl, before⟩ := findFrom_eq_some other closed found
  refine ⟨a, r, rfl, Nat.zero_add _, before, ?_⟩
  rw [marks, List.append_assoc, marksFrom_append, marksFrom_append,
    marksFrom_eq_marks (.inl (separates.last _))] at closed
  exact (closed.of_append_left before).of_append_left (separates.level _)

theorem misses_comma {prev : Option Char} {d : Nest} {a : Text}
    (free : .comma ∉ topLevel d (marksFrom prev a)) (t : Text) : Misses [','] prev d a t := by
  rintro u v rfl ne ground
  cases v with
  | nil => exact absurd rfl ne
  | cons c v =>
    have notHere : ',' ≠ c := by
      rintro rfl
      apply free
      rw [marksFrom_append, topLevel_append ground]
      exact List.mem_append_right _ List.mem_cons_self
    simp [List.isPrefixOf, notHere]

theorem free_of_one_segment {prev : Option Char} {t u : Text}
    (closed : walk .flat (marksFrom prev t) = some .flat) (one : segments prev {} t = [u]) :
    u = t ∧ .comma ∉ topLevel .flat (marksFrom prev t) := by
  rcases segments_cases prev {} t with ⟨whole, uncut⟩ | ⟨v, r, -, more, -, -⟩
  · rw [one] at whole
    cases whole
    exact ⟨rfl, (uncut_iff closed).mp uncut⟩
  · rw [one] at more
    exact absurd (List.cons.inj more).2.symm (segments_ne_nil _ _ _)

theorem cut_of_segments {prev : Option Char} {t u v : Text} {us : List Text}
    (closed : walk .flat (marksFrom prev t) = some .flat)
    (several : segments prev {} t = u :: v :: us) :
    ∃ r, t = u ++ ',' :: r ∧ walk .flat (marksFrom prev u) = some .flat ∧
      .comma ∉ topLevel .flat (marksFrom prev u) ∧
      walk .flat (marksFrom (some ',') r) = some .flat ∧
      segments (some ',') {} r = v :: us := by
  rcases segments_cases prev {} t with ⟨whole, -⟩ | ⟨w, r, rfl, more, uncut, level⟩
  · rw [several] at whole
    cases whole
  · rw [several] at more
    obtain ⟨rfl, rest⟩ := List.cons.inj more
    rw [marksFrom_append, walk_append] at closed
    obtain ⟨e, first, behind⟩ := Option.bind_eq_some_iff.mp closed
    obtain rfl : e = .flat := by
      have same : e.levels = {} := (Nest.along_levels first).symm.trans level
      apply Nest.total_eq_zero.mp
      rw [← beq_iff_eq, ← Nest.isFlat_levels, same]
      rfl
    exact ⟨r, rfl, first, (uncut_iff first).mp uncut, behind, rest.symm⟩

theorem closed_of_mem_segments {prev : Option Char} (start : prev ≠ some '-') {t : Text}
    (closed : walk .flat (marksFrom prev t) = some .flat) :
    ∀ u ∈ segments prev {} t, Closed (marks u) := by
  generalize parts : segments prev {} t = us
  induction us generalizing prev t with
  | nil => simp
  | cons u us ih =>
    cases us with
    | nil =>
      obtain ⟨rfl, -⟩ := free_of_one_segment closed parts
      rw [marksFrom_eq_marks (.inl start)] at closed
      exact List.forall_mem_singleton.mpr closed
    | cons v us =>
      obtain ⟨r, rfl, first, -, behind, rest⟩ := cut_of_segments closed parts
      rw [marksFrom_eq_marks (.inl start)] at first
      exact List.forall_mem_cons.mpr ⟨first, ih (by simp) behind rest⟩

/-- The text from `start` on, cut at each comma that a search from there finds, and trimmed. -/
def pieces (t : Text) (start : Nat) : List Text :=
  match _h : findTopLevel [','] t start with
  | none => [strip (t.drop start)]
  | some i => strip (slice t start i) :: pieces t (i + 1)
termination_by t.length - start
decreasing_by
  have := findTopLevel_lt _h
  omega

theorem findTopLevel_behind (token a r : Text) : findTopLevel token (a ++ r) a.length =
    findFrom token false a.getLast? Nest.flat.total a.length r := by
  simp [findTopLevel, Nest.total, Nest.flat]

theorem pieces_of_none {t : Text} {start : Nat} (h : findTopLevel [','] t start = none) :
    pieces t start = [strip (t.drop start)] := by
  rw [pieces]
  split
  · rfl
  · next found => exact absurd (h.symm.trans found) (by simp)

theorem pieces_of_some {t : Text} {start i : Nat} (h : findTopLevel [','] t start = some i) :
    pieces t start = strip (slice t start i) :: pieces t (i + 1) := by
  rw [pieces]
  split
  · next missed => exact absurd (h.symm.trans missed) (by simp)
  · next found =>
    cases h.symm.trans found
    rfl

theorem pieces_eq_segments (a : Text) {r : Text}
    (closed : walk .flat (marksFrom a.getLast? r) = some .flat) :
    pieces (a ++ r) a.length = (segments a.getLast? {} r).map strip := by
  generalize parts : segments a.getLast? {} r = us
  induction us generalizing a r with
  | nil => exact absurd parts (segments_ne_nil _ _ _)
  | cons u us ih =>
    cases us with
    | nil =>
      obtain ⟨rfl, free⟩ := free_of_one_segment closed parts
      have missed : findTopLevel [','] (a ++ u) a.length = none := by
        have pass := findFrom_append closed (misses_comma free []) a.length
        rw [List.append_nil] at pass
        rw [findTopLevel_behind, pass]
        rfl
      rw [pieces_of_none missed, List.drop_left]
      rfl
    | cons v us =>
      obtain ⟨r, rfl, first, free, behind, rest⟩ := cut_of_segments closed parts
      have found : findTopLevel [','] (a ++ (u ++ ',' :: r)) a.length =
          some (a.length + u.length) := by
        rw [findTopLevel_behind, findFrom_append first (misses_comma free _)]
        simp [findFrom, Nest.total, Nest.flat, List.isPrefixOf]
      have last : (a ++ u ++ [',']).getLast? = some ',' := List.getLast?_concat
      have text : a ++ (u ++ ',' :: r) = (a ++ u ++ [',']) ++ r := by simp
      have place : a.length + u.length + 1 = (a ++ u ++ [',']).length := by
        simp [Nat.add_assoc]
      have piece : slice (a ++ (u ++ ',' :: r)) a.length (a.length + u.length) = u := by
        rw [slice, List.take_length_add_append, List.drop_left, List.take_left]
      have later := ih (a ++ u ++ [',']) (by rw [last]; exact behind) (by rw [last]; exact rest)
      rw [pieces_of_some found, piece, text, place, later]
      rfl

/-- On a balanced text the split at commas is the repeated search for a comma, each segment is
balanced, and so are the two parts on either side of a comma, a colon or an arrow that is found
outside brackets. -/
theorem splitTopLevel_agrees {t : Text} (balanced : isBalanced t = true) :
    (strip t ≠ [] → splitTopLevel t = pieces t 0) ∧
    (∀ u ∈ splitTopLevel t, isBalanced u = true) ∧
    ∀ token ∈ ([",", ":", "->"] : List Text), ∀ i, findTopLevel token t = some i →
      t = t.take i ++ token ++ t.drop (i + token.length) ∧
        isBalanced (t.take i) = true ∧ isBalanced (t.drop (i + token.length)) = true := by
  have closed := isBalanced_iff.mp balanced
  refine ⟨fun visible => ?_, fun u mem => ?_, fun token mem i found => ?_⟩
  · rw [splitTopLevel, splitTopLevelBy, if_neg (mt all_isBlank_iff.mp visible)]
    exact (pieces_eq_segments [] closed).symm
  · unfold splitTopLevel splitTopLevelBy at mem
    split at mem
    · cases mem
    · obtain ⟨v, inside, rfl⟩ := List.mem_map.mp mem
      rw [isBalanced_iff, marks_strip]
      exact closed_of_mem_segments (by simp) closed v inside
  · have separates : Separates token ∧ token ≠ ['='] := by
      simp only [List.mem_cons, List.not_mem_nil, or_false] at mem
      rcases mem with rfl | rfl | rfl
      · exact ⟨separates_comma, by decide⟩
      · exact ⟨separates_colon, by decide⟩
      · exact ⟨separates_arrow, by decide⟩
    obtain ⟨a, r, rfl, rfl, before, behind⟩ := closed_around separates.1 separates.2 closed found
    have left : (a ++ token ++ r).take a.length = a := by simp
    have right : (a ++ token ++ r).drop (a.length + token.length) = r := by
      rw [← List.length_append, List.drop_left]
    rw [left, right]
    exact ⟨rfl, isBalanced_iff.mpr before, isBalanced_iff.mpr behind⟩

theorem splitTopLevel_agrees_crossing :
    let t : Text := "a: (b, [c) -> d], e ->, f<g -> h, i>"
    isBalanced t = true ∧
      (strip t ≠ [] ∧ splitTopLevel t = pieces t 0) ∧
      (∀ u ∈ splitTopLevel t, isBalanced u = true) ∧
      findTopLevel "->" t = some 20 ∧ isBalanced (t.take 20) = true ∧
        isBalanced (t.drop 22) = true := by
  intro t
  have balanced : isBalanced t = true := by decide +kernel
  have visible : strip t ≠ [] := by decide +kernel
  have found : findTopLevel "->" t = some 20 := by decide +kernel
  obtain ⟨split, parts, around⟩ := splitTopLevel_agrees balanced
  obtain ⟨-, before, behind⟩ := around "->" (by decide) 20 found
  exact ⟨balanced, ⟨visible, split visible⟩, parts, found, before, behind⟩

end ViewCases.Bracket
