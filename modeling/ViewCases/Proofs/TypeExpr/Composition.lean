import ViewCases.Proofs.TypeExpr.NormalForm

/-! Reading follows the way a text is put together. The parts may be any texts that are read,
not only renderings: arrows, commas, marks and brackets inside them are closed in, and the
scans of the whole pass over them. What stands in a list has to be one entry of it. -/
namespace ViewCases.TypeExpr
open Text ViewCases.Bracket

def Padded (s u : Text) : Prop := ∃ l r, Blank l ∧ Blank r ∧ u = l ++ s ++ r

theorem Padded.strip_eq {s u : Text} (h : Padded s u) : strip u = strip s := by
  obtain ⟨l, r, hl, hr, rfl⟩ := h
  rw [strip_append_right hr, strip_append_left hl]

theorem shape_of_strip {s : Text} {sh : Shape} (h : shape (strip s) = .ok sh) :
    shape s = .ok sh := by
  obtain ⟨ne, closed, -⟩ := shape_ok h
  have trimmed := strip_of_trimmed (trimmed_strip s)
  have notEmpty : (strip s).isEmpty = false := by
    rw [trimmed] at ne
    simpa using ne
  have balanced : isBalanced (strip s) = true := isBalanced_iff.mpr closed
  rw [← h]
  simp only [shape, trimmed, notEmpty, balanced]
  rfl

theorem parse_of_strip_eq {s u : Text} {t : TypeExpr} (h : parse s = .ok t)
    (same : strip u = strip s) : parse u = .ok t := by
  obtain ⟨sh, shaped⟩ := exists_shape h
  obtain ⟨-, -, shaped'⟩ := shape_ok shaped
  rw [← same] at shaped'
  rw [parse_eq, shaped] at h
  rw [parse_eq, shape_of_strip shaped']
  exact h

/-- The text is read as the tree, and is one entry where it stands in a list. -/
structure Part (s : Text) (t : TypeExpr) : Prop where
  reads : parse s = .ok t
  single : (splitTopLevel s).length = 1

theorem part_iff {s : Text} {t : TypeExpr} :
    Part s t ↔ parse s = .ok t ∧ (splitTopLevel s).length = 1 :=
  ⟨fun h => ⟨h.reads, h.single⟩, fun ⟨reads, single⟩ => ⟨reads, single⟩⟩

instance (s : Text) (t : TypeExpr) : Decidable (Part s t) := decidable_of_iff' _ part_iff

namespace Part

variable {s : Text} {t : TypeExpr}

theorem closed (h : Part s t) : Closed (marks s) := closed_of_parse h.reads

theorem free (h : Part s t) : Free .comma s := free_of_length_splitTopLevel h.closed h.single

theorem visible (h : Part s t) : strip s ≠ [] := by
  obtain ⟨sh, shaped⟩ := exists_shape h.reads
  exact (shape_ok shaped).1

theorem of_strip_eq (h : Part s t) {u : Text} (same : strip u = strip s) : Part u t := by
  have reads := parse_of_strip_eq h.reads same
  refine ⟨reads, ?_⟩
  have free : Free .comma u := by
    rw [← free_strip, same, free_strip]
    exact h.free
  rw [splitTopLevel_of_free (closed_of_parse reads) free (same ▸ h.visible)]
  rfl

end Part

theorem parts_padded {ss us : List Text} {ts : List TypeExpr} (parts : List.Forall₂ Part ss ts)
    (pads : List.Forall₂ Padded ss us) : List.Forall₂ Part us ts := by
  induction parts generalizing us with
  | nil =>
    cases pads
    exact .nil
  | cons part _ ih =>
    cases pads with
    | cons pad pads => exact .cons (part.of_strip_eq pad.strip_eq) (ih pads)

theorem exists_part {us : List Text} {ts : List TypeExpr} (h : List.Forall₂ Part us ts) :
    ∀ u ∈ us, ∃ t, Part u t := by
  induction h with
  | nil => simp
  | cons part _ ih =>
    rw [List.forall_mem_cons]
    exact ⟨⟨_, part⟩, ih⟩

theorem mapM_strip {us : List Text} {ts : List TypeExpr} (h : List.Forall₂ Part us ts) :
    (us.map strip).mapM parse = .ok ts := by
  induction h with
  | nil => rfl
  | cons part _ ih =>
    have first := parse_of_strip_eq part.reads (strip_of_trimmed (trimmed_strip _))
    rw [List.map_cons, List.mapM_cons, first, ih]
    rfl

section
variable {us : List Text} {ts : List TypeExpr}

theorem closed_list (h : List.Forall₂ Part us ts) : Closed (marks (joinWith [','] us)) := by
  apply closed_joinWith
  intro u mem
  obtain ⟨t, part⟩ := exists_part h u mem
  exact part.closed

theorem listParts_joinWith (h : List.Forall₂ Part us ts) :
    listParts (joinWith [','] us) = .ok (us.map strip) := by
  have part := exists_part h
  have split : splitTopLevel (joinWith [','] us) = us.map strip := by
    apply splitTopLevel_joinWith
    · intro u mem
      obtain ⟨t, part⟩ := part u mem
      exact ⟨part.closed, part.free⟩
    · intro u mem
      obtain ⟨t, part⟩ := part u mem
      exact part.visible
  have full : (us.map strip).any List.isEmpty = false := by
    rw [List.any_eq_false]
    intro v mem
    obtain ⟨u, inside, rfl⟩ := List.mem_map.mp mem
    obtain ⟨t, part⟩ := part u inside
    simpa using part.visible
  simp only [listParts, split, full]
  rfl

end

theorem parse_group {s : Text} {t : TypeExpr} (h : Part s t) :
    parse ('(' :: s ++ [')']) = .ok t := by
  rw [parse_eq, shape_group h.closed h.free h.visible]
  exact h.reads

theorem parse_group_optional {s : Text} {t : TypeExpr} (h : Part s t) :
    parse (('(' :: s ++ [')']) ++ ['?']) = .ok (.optional t) := by
  have marked := shape_optional (by simp) (trimmed_between rfl rfl s) (closed_parens h.closed)
    (free_parens h.closed .arrow)
  exact parse_of_optional marked (parse_group h)

theorem shape_parameters {list result : Text} {us : List Text} (closed : Closed (marks list))
    (parts : listParts list = .ok us) (closedResult : Closed (marks result))
    (ne : strip result ≠ []) :
    shape (('(' :: list ++ [')']) ++ ' ' :: '-' :: '>' :: ' ' :: result) =
      .ok (.closure us (strip result) false [] []) := by
  let head := '(' :: list ++ [')']
  have text : strip (head ++ ' ' :: '-' :: '>' :: ' ' :: result) =
      (head ++ [' ']) ++ '-' :: '>' :: stripEnd (' ' :: result) := by
    have front : Trimmed (head ++ [' ', '-', '>']) :=
      trimmed_of_ends (a := head) (by simp [head]) (by simp) (trimmed_between rfl rfl list).1
        (by rintro c ⟨⟩; rfl)
    have := strip_append_trimmed front (by simp) (' ' :: result)
    simpa using this
  have behind : strip (stripEnd (' ' :: result)) = strip result := by
    obtain ⟨r, blank, eq⟩ := stripEnd_decompose (' ' :: result)
    have spaced : strip (' ' :: result) = strip result := strip_append_left blank_space result
    rw [← spaced]
    conv_rhs => rw [eq]
    exact (strip_append_right blank _).symm
  have closedHead : Closed (marks (head ++ [' '])) := by
    rw [marks_append_plain _ (by decide)]
    exact closed_parens closed
  have freeHead : Free .arrow (head ++ [' ']) := by
    rw [Free, marks_append_plain _ (by decide)]
    exact free_parens closed .arrow
  have closedText : Closed (marks (strip (head ++ ' ' :: '-' :: '>' :: ' ' :: result))) := by
    rw [text, marks_append (.inr (by simp)), marks_arrow, ← marks_strip (stripEnd _), behind,
      marks_strip]
    exact closedHead.append closedResult
  have visible : strip (head ++ ' ' :: '-' :: '>' :: ' ' :: result) ≠ [] := by
    rw [text]
    simp
  -- The arrow behind the parentheses is the first one outside brackets, and there are no effects.
  apply shape_of_strip
  rw [shape_of_trimmed visible (trimmed_strip _) closedText, text,
    findTopLevel_arrow closedHead freeHead]
  have resultText : strip ((head ++ [' '] ++ '-' :: '>' :: stripEnd (' ' :: result)).drop
      ((head ++ [' ']).length + 2)) = strip result := by
    rw [List.drop_append, List.drop_of_length_le (by omega), List.nil_append,
      Nat.add_sub_cancel_left]
    exact behind
  have headText : strip ((head ++ [' '] ++ '-' :: '>' :: stripEnd (' ' :: result)).take
      (head ++ [' ']).length) = head := by
    rw [List.take_left, strip_append_right blank_space]
    exact strip_of_trimmed (trimmed_between rfl rfl list)
  have taken : takeAttributes head = .ok ([], head) :=
    takeAttributes_spaced (List.forall_mem_nil Standing) (list ++ [')'])
  have effects : splitEffects head = (head, []) := by
    have last : head.getLast? = some ')' := List.getLast?_concat
    simpa [writeEffects] using splitEffects_write last (List.forall_mem_nil (· ∈ effectWords))
  have full : (strip result).isEmpty = false := by simpa using ne
  have open_ : head.isEmpty = false := rfl
  simp only [closureShape, resultText, headText, taken, effects, full, open_,
    insideParens?_wrap closed, head, Option.getD_some, parts]
  rfl

theorem parse_parameters {us : List Text} {ts : List TypeExpr} {result : Text} {q : TypeExpr}
    (h : List.Forall₂ Part us ts) (read : parse result = .ok q) :
    parse (('(' :: joinWith [','] us ++ [')']) ++ ' ' :: '-' :: '>' :: ' ' :: result) =
      .ok (.function ts q false [] []) := by
  obtain ⟨sh, shaped⟩ := exists_shape read
  obtain ⟨visible, -⟩ := shape_ok shaped
  have behind := parse_of_strip_eq read (strip_of_trimmed (trimmed_strip _))
  rw [parse_eq, shape_parameters (closed_list h) (listParts_joinWith h) (closed_of_parse read)
    visible]
  simp only [mapM_strip h, behind]
  rfl

def nameStops : Text := "<>()[]{}-"

theorem parse_arguments {name n : Text} (ne : name ≠ []) (trim : Trimmed name)
    (chars : ∀ c ∈ name, c ∉ nameStops) (pad : Padded name n) {us : List Text}
    {first : TypeExpr} {rest : List TypeExpr} (h : List.Forall₂ Part us (first :: rest))
    (last : (joinWith [','] us).getLast? ≠ some '-') :
    parse (n ++ ('<' :: joinWith [','] us ++ ['>'])) = .ok (.generic name first rest) := by
  obtain ⟨l, r, hl, hr, rfl⟩ := pad
  have commas := marksFrom_commas chars none
  have closedName : Closed (marks name) := closed_of_commas commas
  have freeName : Free .arrow name := arrow_not_mem_of_commas commas
  have padded : marks (name ++ r) = marks name :=
    marks_append_plain name fun c hc => isPlain_of_isBlank (hr c hc)
  have noAngle : '<' ∉ name ++ r := by
    intro mem
    rcases List.mem_append.mp mem with inside | behind
    · exact chars '<' inside (by decide)
    · exact absurd (hr '<' behind) (by decide)
  have start : ∀ c, (name ++ r).head? = some c → isBlank c = false := by
    rw [List.head?_append_of_ne_nil _ ne]
    exact trim.1
  have lists := listParts_joinWith h
  have read := mapM_strip h
  obtain ⟨u, us', rfl⟩ : ∃ u us', us = u :: us' := by
    cases h with
    | cons => exact ⟨_, _, rfl⟩
  have shaped := shape_application start (by simp [ne]) (padded ▸ closedName)
    (by rw [Free, padded]; exact freeName) noAngle (closed_list h) last lists
  have named : strip (name ++ r) = name := by
    rw [strip_append_right hr, strip_of_trimmed trim]
  rw [named] at shaped
  have whole : strip (l ++ name ++ r ++ ('<' :: joinWith [','] (u :: us') ++ ['>'])) =
      strip (name ++ r ++ ('<' :: joinWith [','] (u :: us') ++ ['>'])) := by
    rw [List.append_assoc l, List.append_assoc l, strip_append_left hl]
  apply parse_of_strip_eq _ whole
  exact parse_of_application shaped read

theorem Padded.last {s u : Text} (h : Padded s u) (ne : s ≠ []) (last : s.getLast? ≠ some '-') :
    u.getLast? ≠ some '-' := by
  obtain ⟨l, r, -, hr, rfl⟩ := h
  by_cases bare : r = []
  · subst bare
    rw [List.append_nil, List.getLast?_append_of_ne_nil _ ne]
    exact last
  · rw [List.getLast?_append_of_ne_nil _ bare]
    exact Blank.ne_hyphen_last hr

theorem last_joinWith {ss us : List Text} (pads : List.Forall₂ Padded ss us)
    (full : ∀ s ∈ ss, s ≠ []) (last : ∀ s, ss.getLast? = some s → s.getLast? ≠ some '-') :
    (joinWith [','] us).getLast? ≠ some '-' := by
  induction pads with
  | nil => simp [joinWith]
  | cons pad pads ih =>
    obtain ⟨ne, later⟩ := List.forall_mem_cons.mp full
    cases pads with
    | nil => exact pad.last ne (last _ rfl)
    | cons pad' pads =>
      have tail := ih later fun s hs => last s (by rw [List.getLast?_cons_cons]; exact hs)
      rw [joinWith_cons_cons, List.getLast?_append]
      cases eq : (joinWith [','] (_ :: _)).getLast? with
      | none => simp
      | some c =>
        rw [eq] at tail
        simpa using tail

/-- Accepted texts, with any white space around them, are read as what they are read as alone
when they stand in parentheses, under an optional mark, as the parameters and the result of a
function type and as the arguments of an application. Outside a result a part must be one
entry of a list, and a last argument must not end in a hyphen, which would make an arrow of
the bracket behind it. -/
theorem parse_compose {s u result v : Text} {parts us : List Text} {t q : TypeExpr}
    {ts : List TypeExpr} (part : Part s t) (pad : Padded s u)
    (list : List.Forall₂ Part parts ts) (pads : List.Forall₂ Padded parts us)
    (reads : parse result = .ok q) (padResult : Padded result v) :
    parse (("(" : Text) ++ u ++ ")") = .ok t ∧
    parse (("(" : Text) ++ u ++ ")?") = .ok (.optional t) ∧
    parse (("(" : Text) ++ joinWith "," us ++ ") -> " ++ v) =
      .ok (.function ts q false [] []) ∧
    ∀ name n first rest, name ≠ [] → Trimmed name → (∀ c ∈ name, c ∉ nameStops) →
      Padded name n → ts = first :: rest →
      (∀ w, parts.getLast? = some w → w.getLast? ≠ some '-') →
      parse (n ++ "<" ++ joinWith "," us ++ ">") = .ok (.generic name first rest) := by
  have inside := part.of_strip_eq pad.strip_eq
  have listed := parts_padded list pads
  have group : ('(' :: u ++ [')']) ++ ['?'] = ("(" : Text) ++ u ++ ")?" := by
    rw [List.append_assoc]
    rfl
  have function : ('(' :: joinWith [','] us ++ [')']) ++ ' ' :: '-' :: '>' :: ' ' :: v =
      ("(" : Text) ++ joinWith "," us ++ ") -> " ++ v := by
    simp
  refine ⟨parse_group inside, ?_, ?_, ?_⟩
  · rw [← group]
    exact parse_group_optional inside
  · rw [← function]
    exact parse_parameters listed (parse_of_strip_eq reads padResult.strip_eq)
  · rintro name n first rest ne trim chars padName rfl last
    have full : ∀ w ∈ parts, w ≠ [] := by
      rintro w mem rfl
      obtain ⟨t, part⟩ := exists_part list [] mem
      exact part.visible rfl
    have application := parse_arguments ne trim chars padName listed
      (last_joinWith pads full last)
    have text : n ++ ('<' :: joinWith [','] us ++ ['>']) =
        n ++ "<" ++ joinWith "," us ++ ">" := by
      simp
    rwa [text] at application

theorem parse_compose_crossing :
    let s : Text := "A -> (b, c)?"
    let parts : List Text := ["@A (x) -> P<q>", "x[(y])"]
    let t : TypeExpr := .function [.simple "A"] (.optional (.simple "(b, c)")) false [] []
    let f : TypeExpr := .function [.simple "x"] (.generic "P" (.simple "q") []) false ["@A"] []
    let g : TypeExpr := .simple "x[(y])"
    (Part s t ∧ List.Forall₂ Part parts [f, g] ∧ parse "V, W" = .ok (.simple "V, W")) ∧
      parse "( A -> (b, c)?)" = .ok t ∧ parse "( A -> (b, c)?)?" = .ok (.optional t) ∧
      parse "(@A (x) -> P<q> ,x[(y])) -> \n V, W" =
        .ok (.function [f, g] (.simple "V, W") false [] []) ∧
      parse "Map <@A (x) -> P<q> ,x[(y])>" = .ok (.generic "Map" f [g]) := by
  intro s parts t f g
  have part : Part s t := by decide +kernel
  have first : Part "@A (x) -> P<q>" f := by decide +kernel
  have second : Part "x[(y])" g := by decide +kernel
  have list : List.Forall₂ Part parts [f, g] := .cons first (.cons second .nil)
  have result : parse "V, W" = .ok (.simple "V, W") := by decide +kernel
  have space : ∀ x : Text, Padded x (x ++ [' ']) := fun x => ⟨[], [' '], by simp [Blank],
    blank_space, by simp⟩
  have same : ∀ x : Text, Padded x x := fun x => ⟨[], [], by simp [Blank], by simp [Blank],
    by simp⟩
  have pad : Padded s (' ' :: s) := ⟨[' '], [], blank_space, by simp [Blank], by simp⟩
  have lines : Padded "V, W" "\n V, W" := ⟨['\n', ' '], [], by decide, by decide, by simp⟩
  have whole := parse_compose part pad list (.cons (space _) (.cons (same _) .nil)) result lines
  refine ⟨⟨part, list, result⟩, whole.1, whole.2.1, whole.2.2.1, ?_⟩
  exact whole.2.2.2 "Map" "Map " f [g] (by decide) (by decide) (by decide) (space _) rfl
    (by decide)

end ViewCases.TypeExpr
