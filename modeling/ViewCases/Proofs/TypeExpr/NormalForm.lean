import ViewCases.Proofs.Outcome
import ViewCases.Proofs.TypeExpr.Rendered

/-! What is read is in normal form: every node of it renders to a text that reads as that
node again. The text that was read may be of any kind that has a shape; only a hyphen
outside an arrow is ruled out, since in front of a closing angle bracket it would make a new
arrow. The rendering itself need not be the text. -/
namespace ViewCases.TypeExpr
open Text ViewCases.Bracket

def HyphensInArrows (t : Text) : Prop :=
  ∀ before behind, t = before ++ '-' :: behind → behind.head? = some '>'

theorem hyphensInArrows_nil : HyphensInArrows [] := by
  intro before behind eq
  simp at eq

theorem hyphensInArrows_cons {c : Char} {cs : Text} :
    HyphensInArrows (c :: cs) ↔ (c = '-' → cs.head? = some '>') ∧ HyphensInArrows cs := by
  constructor
  · intro h
    refine ⟨?_, fun before behind eq => h (c :: before) behind (congrArg (c :: ·) eq)⟩
    rintro rfl
    exact h [] cs rfl
  · rintro ⟨first, later⟩ before behind eq
    cases before with
    | nil =>
      cases eq
      exact first rfl
    | cons d ds =>
      cases eq
      exact later ds behind rfl

instance : (t : Text) → Decidable (HyphensInArrows t)
  | [] => isTrue hyphensInArrows_nil
  | _ :: cs =>
    have := instDecidableHyphensInArrows cs
    decidable_of_iff' _ hyphensInArrows_cons

theorem HyphensInArrows.front {a r : Text} (h : HyphensInArrows (a ++ r))
    (seam : a.getLast? ≠ some '-' ∨ r.head? ≠ some '>') : HyphensInArrows a := by
  rintro before behind rfl
  have next := h before (behind ++ r) (by simp)
  cases behind with
  | nil =>
    rcases seam with last | head
    · exact absurd List.getLast?_concat last
    · exact absurd next head
  | cons c cs => exact next

theorem HyphensInArrows.behind {a r : Text} (h : HyphensInArrows (a ++ r)) :
    HyphensInArrows r := by
  rintro before behind rfl
  exact h (a ++ before) behind (by simp)

theorem HyphensInArrows.strip {t : Text} (h : HyphensInArrows t) :
    HyphensInArrows (Text.strip t) := by
  obtain ⟨l, r, hl, hr, eq⟩ := strip_decompose t
  rw [eq] at h
  exact (h.front (.inr (Blank.ne_head hr))).behind

theorem HyphensInArrows.last {t : Text} (h : HyphensInArrows t) : t.getLast? ≠ some '-' := by
  intro last
  obtain ⟨before, rfl⟩ := List.getLast?_eq_some_iff.mp last
  have := h before [] rfl
  simp at this

theorem HyphensInArrows.joined {us : List Text} {t : Text} (h : HyphensInArrows t)
    (joined : Joined us t) : ∀ u ∈ us, HyphensInArrows u := by
  induction joined with
  | one u =>
    intro v hv
    cases List.mem_singleton.mp hv
    exact h
  | more u rest ih =>
    intro v hv
    rcases List.mem_cons.mp hv with rfl | hv
    · exact h.front (.inr (by simp))
    · have tail := h.behind
      exact ih (tail.behind (a := [','])) v hv

theorem HyphensInArrows.segment {t u : Text} (h : HyphensInArrows t)
    (mem : u ∈ splitTopLevel t) : HyphensInArrows u := by
  unfold splitTopLevel splitTopLevelBy at mem
  split at mem
  · simp at mem
  · obtain ⟨v, inside, rfl⟩ := List.mem_map.mp mem
    exact (h.joined (joined_segments none {} t) v inside).strip

theorem exists_shape {s : Text} {t : TypeExpr} (h : parse s = .ok t) : ∃ sh, shape s = .ok sh := by
  cases shaped : shape s with
  | error e =>
    rw [parse_eq, shaped] at h
    cases h
  | ok sh => exact ⟨sh, rfl⟩

theorem parse_name {s name : Text} {t : TypeExpr} (shaped : shape s = .ok (.name name))
    (h : parse s = .ok t) : t = .simple name := by
  rw [parse_eq, shaped] at h
  cases h
  rfl

theorem parse_optional {s body : Text} {t : TypeExpr} (shaped : shape s = .ok (.optional body))
    (h : parse s = .ok t) : ∃ inner, parse body = .ok inner ∧ t = .optional inner := by
  rw [parse_eq, shaped] at h
  cases read : parse body with
  | error e => simp only [read] at h; cases h
  | ok inner =>
    simp only [read] at h
    cases h
    exact ⟨inner, rfl, rfl⟩

theorem parse_application {s name first : Text} {rest : List Text} {t : TypeExpr}
    (shaped : shape s = .ok (.application name first rest)) (h : parse s = .ok t) :
    ∃ t' ts, (first :: rest).mapM parse = .ok (t' :: ts) ∧ t = .generic name t' ts := by
  rw [parse_eq, shaped] at h
  cases one : parse first with
  | error e => simp only [one] at h; cases h
  | ok t' =>
    cases others : rest.mapM parse with
    | error e => simp only [one, others] at h; cases h
    | ok ts =>
      simp only [one, others] at h
      cases h
      refine ⟨t', ts, ?_, rfl⟩
      rw [List.mapM_cons, one, others]
      rfl

theorem parse_of_optional {s body : Text} {t : TypeExpr} (shaped : shape s = .ok (.optional body))
    (h : parse body = .ok t) : parse s = .ok (.optional t) := by
  rw [parse_eq, shaped]
  simp only [h]
  rfl

theorem parse_of_application {s name first : Text} {rest : List Text} {t : TypeExpr}
    {ts : List TypeExpr} (shaped : shape s = .ok (.application name first rest))
    (h : (first :: rest).mapM parse = .ok (t :: ts)) : parse s = .ok (.generic name t ts) := by
  rw [List.mapM_cons] at h
  rw [parse_eq, shaped]
  cases one : parse first with
  | error e =>
    rw [one] at h
    cases h
  | ok t' =>
    cases others : rest.mapM parse with
    | error e =>
      rw [one, others] at h
      cases h
    | ok ts' =>
      rw [one, others] at h
      cases h
      simp only [one, others]
      rfl

/-- What holds of a text if it holds of the parts of its shape holds of every accepted text. -/
@[elab_as_elim]
theorem readInduction {motive : Text → TypeExpr → Prop}
    (step : ∀ (s : Text) (sh : Shape) (t : TypeExpr), shape s = .ok sh → parse s = .ok t →
      (∀ u ∈ sh.parts, ∀ v, parse u = .ok v → motive u v) → motive s t)
    {s : Text} {t : TypeExpr} (read : parse s = .ok t) : motive s t := by
  induction len : s.length using Nat.strongRecOn generalizing s t with
  | _ n ih =>
    subst len
    obtain ⟨sh, shaped⟩ := exists_shape read
    exact step s sh t shaped read fun u mem v readU =>
      ih u.length (length_of_mem_shape shaped mem) readU rfl

theorem closed_of_parse {s : Text} {t : TypeExpr} (h : parse s = .ok t) : Closed (marks s) := by
  obtain ⟨sh, shaped⟩ := exists_shape h
  exact (shape_ok shaped).2.1

theorem closed_of_mapM_parse {us : List Text} {ts : List TypeExpr} (h : us.mapM parse = .ok ts) :
    ∀ u ∈ us, Closed (marks u) := by
  intro u mem
  obtain ⟨t, -, read⟩ := ok_of_mem_mapM h u mem
  exact closed_of_parse read

/-- What reading a text to a tree says of the tree. Commas matter only where the text can
be an entry of a list, or where parentheses would keep its function type together. -/
structure Normal (s : Text) (t : TypeExpr) : Prop where
  rendered : Rendered t
  listed : Free .comma s → Free .comma t.render
  grouped : t.isClosure = true → Free .arrow s → Free .comma t.render
  nodes : ∀ n ∈ t.nodes, parse n.render = .ok n

theorem nodes_normal {t : TypeExpr} (h : Rendered t)
    (children : ∀ u ∈ t.children, ∀ n ∈ u.nodes, parse n.render = .ok n) :
    ∀ n ∈ t.nodes, parse n.render = .ok n := by
  intro n mem
  rw [nodes_eq_cons] at mem
  rcases List.mem_cons.mp mem with rfl | below
  · exact h.reads
  · obtain ⟨u, child, inside⟩ := List.mem_flatMap.mp below
    exact children u child n inside

def PartsNormal (us : List Text) : Prop :=
  ∀ u ∈ us, ∀ t, HyphensInArrows u → parse u = .ok t → Normal u t

theorem listed_of_parts {text : Text} {ts : List TypeExpr} (arrows : HyphensInArrows text)
    (parts : PartsNormal (splitTopLevel text)) (read : (splitTopLevel text).mapM parse = .ok ts) :
    ∀ t ∈ ts, Listed t ∧ ∀ n ∈ t.nodes, parse n.render = .ok n := by
  intro t mem
  obtain ⟨u, inside, eq⟩ := mem_of_mapM read t mem
  have normal := parts u inside t (arrows.segment inside) eq
  have free := free_of_mem_splitTopLevel inside (closed_of_parse eq)
  exact ⟨⟨normal.rendered, normal.listed free⟩, normal.nodes⟩

theorem normal_name {u : Text} (trim : Trimmed u) (arrows : HyphensInArrows u)
    (shaped : shape u = .ok (.name u)) : Normal u (.simple u) := by
  obtain ⟨ne, closed, -⟩ := shape_ok shaped
  rw [strip_of_trimmed trim] at ne
  have rendered := rendered_simple ne trim closed arrows.last shaped
  refine ⟨rendered, id, ?_, nodes_normal rendered ?_⟩
  · exact fun closure => absurd closure Bool.false_ne_true
  · simp [children]

theorem normal_optional {body : Text} {inner : TypeExpr} (free : Free .arrow (body ++ ['?']))
    (h : Normal body inner) : Normal (body ++ ['?']) (.optional inner) := by
  rw [Free, marks_mark] at free
  have rendered := rendered_optional h.rendered fun closure => h.grouped closure free
  refine ⟨rendered, ?_, ?_, nodes_normal rendered ?_⟩
  · intro single
    rw [Free, marks_mark] at single
    exact free_optional h.rendered (h.listed single)
  · exact fun closure => absurd closure Bool.false_ne_true
  · intro u hu
    cases List.mem_singleton.mp hu
    exact h.nodes

theorem normal_group {inner : Text} {t : TypeExpr} (closed : Closed (marks inner))
    (one : (splitTopLevel inner).length = 1) (h : Normal inner t) :
    Normal ('(' :: inner ++ [')']) t := by
  have single := h.listed (free_of_length_splitTopLevel closed one)
  exact ⟨h.rendered, fun _ => single, fun _ _ => single, h.nodes⟩

theorem normal_application {base inner : Text} {first : TypeExpr} {rest : List TypeExpr}
    (closed : Closed (marks (base ++ '<' :: inner ++ ['>']))) (noAngle : '<' ∉ base)
    (ne : strip base ≠ []) (free : Free .arrow (base ++ '<' :: inner ++ ['>']))
    (last : inner.getLast? ≠ some '-') (arrows : HyphensInArrows inner)
    (parts : PartsNormal (splitTopLevel inner))
    (read : (splitTopLevel inner).mapM parse = .ok (first :: rest)) :
    Normal (base ++ '<' :: inner ++ ['>']) (.generic (strip base) first rest) := by
  have closedInner := closed_of_splitTopLevel (closed_of_mapM_parse read)
  have arguments : marks ('<' :: inner ++ ['>']) = .opens .angle :: marks inner ++
      [.closes .angle] := marks_wrap (b := .angle) (.inl last)
  have eq : marks (base ++ '<' :: inner ++ ['>']) = marks base ++ (.opens .angle :: marks inner ++
      [.closes .angle]) := by
    rw [List.append_assoc, marks_append (.inr (by simp)), arguments]
  have closedBase : Closed (marks base) := by
    rw [eq] at closed
    exact closed.of_append_right (closedInner.wrap .angle)
  have top : ∀ {m}, Free m (base ++ '<' :: inner ++ ['>']) → Free m (strip base) := by
    intro m h
    rw [Free, eq, closedBase.topLevel_append, closedInner.topLevel_wrap, List.append_nil] at h
    exact free_strip.mpr h
  have app : Applicable (strip base) := by
    refine ⟨ne, trimmed_strip base, by rw [marks_strip]; exact closedBase, top free, ?_⟩
    intro mem
    obtain ⟨l, r, -, -, whole⟩ := strip_decompose base
    apply noAngle
    rw [whole]
    simp [mem]
  have listed := listed_of_parts arrows parts read
  have rendered := rendered_generic app fun t mem => (listed t mem).1
  refine ⟨rendered, ?_, ?_, ?_⟩
  · intro single
    exact free_generic app (fun t mem => (listed t mem).1) (top single)
  · exact fun closure => absurd closure Bool.false_ne_true
  · exact nodes_normal rendered fun t mem => (listed t mem).2

theorem head_of_closure {before head core : Text} {ms effects : List Text}
    {ts : List TypeExpr} (closed : Closed (marks before)) (free : Free .arrow before)
    (taken : takeAttributes (strip before) = .ok (ms, head))
    (split : splitEffects head = (core, effects))
    (read : (splitTopLevel ((insideParens? core).getD core)).mapM parse = .ok ts) :
    Callable (ms.contains escapingAttribute) (ms.filter (· ≠ escapingAttribute)) effects ∧
      (Free .comma before → Free .comma (renderLead (ms.contains escapingAttribute)
        (ms.filter (· ≠ escapingAttribute)))) := by
  obtain ⟨standing, eq, -⟩ := takeAttributes_eq_ok taken
  obtain ⟨tail, plain, text⟩ := splitEffects_eq head
  rw [split] at text
  have closedList := closed_of_splitTopLevel (closed_of_mapM_parse read)
  have closedCore : Closed (marks core) := by
    cases inside : insideParens? core with
    | none =>
      rw [inside] at closedList
      exact closedList
    | some inner =>
      rw [inside] at closedList
      rw [← marks_strip, insideParens?_eq_some inside, marks_parens]
      exact closedList.wrap .paren
  have closedHead : Closed (marks head) := by
    rw [text, marks_append_plain core plain]
    exact closedCore
  rw [marks_strip] at eq
  have closedLead : Closed (ms.flatMap marks) := by
    rw [eq] at closed
    exact closed.of_append_right closedHead
  have top : ∀ {m}, Free m before → m ∉ topLevel .flat (ms.flatMap marks) := by
    intro m h mem
    apply h
    rw [eq, closedLead.topLevel_append]
    exact List.mem_append_left _ mem
  constructor
  · refine ⟨fun m mem => standing m (List.mem_filter.mp mem).1, ?_, ?_, ?_, ?_⟩
    · intro mem
      simpa using (List.mem_filter.mp mem).2
    · have := mem_effectWords_of_splitEffects head
      rwa [split] at this
    · rw [marks_lead]
      exact closedLead
    · rw [Free, marks_lead]
      exact top free
  · intro single
    rw [Free, marks_lead]
    exact top single

theorem arrows_of_closure {before head core : Text} {ms effects : List Text}
    (arrows : HyphensInArrows before)
    (taken : takeAttributes (strip before) = .ok (ms, head))
    (split : splitEffects head = (core, effects)) :
    HyphensInArrows ((insideParens? core).getD core) := by
  obtain ⟨-, -, front, eq⟩ := takeAttributes_eq_ok taken
  obtain ⟨tail, plain, text⟩ := splitEffects_eq head
  rw [split] at text
  have arrowsHead : HyphensInArrows head := by
    have := arrows.strip
    rw [eq] at this
    exact this.behind
  have arrowsCore : HyphensInArrows core := by
    rw [text] at arrowsHead
    exact arrowsHead.front (.inr (head_of_isPlain plain))
  cases inside : insideParens? core with
  | none => exact arrowsCore
  | some inner =>
    have whole := arrowsCore.strip
    rw [insideParens?_eq_some inside] at whole
    have opened : HyphensInArrows (inner ++ [')']) := whole.behind (a := ['('])
    exact opened.front (.inr (by simp))

theorem normal_closure {before behind : Text} {ms effects : List Text} {head core : Text}
    {ts : List TypeExpr} {r : TypeExpr} (closed : Closed (marks before))
    (free : Free .arrow before) (arrows : HyphensInArrows before)
    (taken : takeAttributes (strip before) = .ok (ms, head))
    (split : splitEffects head = (core, effects))
    (parts : PartsNormal (splitTopLevel ((insideParens? core).getD core)))
    (read : (splitTopLevel ((insideParens? core).getD core)).mapM parse = .ok ts)
    (result : Normal (strip behind) r) :
    Normal (before ++ '-' :: '>' :: behind) (.function ts r (ms.contains escapingAttribute)
      (ms.filter (· ≠ escapingAttribute)) effects) := by
  obtain ⟨call, lead⟩ := head_of_closure closed free taken split read
  have listed := listed_of_parts (arrows_of_closure arrows taken split) parts read
  have rendered := rendered_function call (fun t mem => (listed t mem).1) result.rendered
  have eq : topLevel .flat (marks (before ++ '-' :: '>' :: behind)) =
      topLevel .flat (marks before) ++ .arrow :: topLevel .flat (marks behind) := by
    rw [marks_append (.inr (by simp)), marks_arrow, closed.topLevel_append]
    rfl
  refine ⟨rendered, ?_, ?_, nodes_normal rendered ?_⟩
  · intro single
    rw [Free, eq] at single
    apply free_function call (fun t mem => (listed t mem).1)
    · exact lead fun mem => single (List.mem_append_left _ mem)
    · apply result.listed
      rw [free_strip]
      exact fun mem => single (List.mem_append_right _ (List.mem_cons_of_mem _ mem))
  · exact fun _ noArrow => absurd noArrow (not_free_arrow closed behind)
  · intro t mem
    rcases List.mem_append.mp mem with param | res
    · exact (listed t param).2
    · cases List.mem_singleton.mp res
      exact result.nodes

theorem normal_step {u : Text} {sh : Shape} {t : TypeExpr} (trim : Trimmed u)
    (arrows : HyphensInArrows u) (shaped : shape u = .ok sh) (read : parse u = .ok t)
    (parts : PartsNormal sh.parts) : Normal u t := by
  have closed := (shape_ok shaped).2.1
  -- One lemma for each form. Each part must keep its hyphens in arrows for the hypothesis on it.
  cases outline_of_shape trim shaped with
  | name named =>
    cases parse_name shaped read
    exact normal_name trim arrows named
  | optional body eq free =>
    subst eq
    obtain ⟨inner, readBody, rfl⟩ := parse_optional shaped read
    exact normal_optional free
      (parts body List.mem_cons_self inner (arrows.front (.inr (by simp))) readBody)
  | group inner eq one =>
    subst eq
    have readInner : parse inner = .ok t := by
      rw [parse_eq, shaped] at read
      exact read
    have arrowsInner : HyphensInArrows inner := by
      have opened : HyphensInArrows (inner ++ [')']) := arrows.behind (a := ['('])
      exact opened.front (.inr (by simp))
    exact normal_group (closed_of_parse readInner) one
      (parts inner List.mem_cons_self t arrowsInner readInner)
  | application base inner first rest eq noAngle ne free last split =>
    subst eq
    obtain ⟨t', ts, readAll, rfl⟩ := parse_application shaped read
    have arrowsInner : HyphensInArrows inner := by
      have opened : HyphensInArrows (base ++ ['<'] ++ (inner ++ ['>'])) := by simpa using arrows
      exact opened.behind.front (.inl last)
    rw [← split] at readAll
    have partsInner : PartsNormal (splitTopLevel inner) := by
      rw [split]
      exact parts
    exact normal_application closed noAngle ne free last arrowsInner partsInner readAll
  | closure before behind sh' eq closedBefore free formed =>
    subst eq
    obtain ⟨ms, head, effects, core, taken, split, -, rfl⟩ := closureShape_eq_ok formed
    obtain ⟨ts, r, readAll, readResult, rfl⟩ := parse_closure shaped read
    have arrowsBehind : HyphensInArrows behind :=
      HyphensInArrows.behind (a := before ++ ['-', '>']) (by simpa using arrows)
    exact normal_closure closedBefore free (arrows.front (.inr (by simp))) taken split
      (fun u mem => parts u (List.mem_append_left _ mem)) readAll
      (parts _ (List.mem_append_right _ List.mem_cons_self) r arrowsBehind.strip readResult)

theorem normal_of_strip {s : Text} {t : TypeExpr} (h : Normal (strip s) t) : Normal s t :=
  ⟨h.rendered, fun free => h.listed (free_strip.mpr free),
    fun closure free => h.grouped closure (free_strip.mpr free), h.nodes⟩

theorem normal_of_parse {s : Text} {t : TypeExpr} (arrows : HyphensInArrows s)
    (read : parse s = .ok t) : Normal s t := by
  revert arrows
  refine readInduction ?_ read
  intro s sh t shaped read ih arrows
  obtain ⟨-, -, shaped'⟩ := shape_ok shaped
  have read' : parse (strip s) = .ok t := by
    rw [parse_eq, shaped] at read
    rw [parse_eq, shaped']
    exact read
  apply normal_of_strip
  apply normal_step (trimmed_strip s) arrows.strip shaped' read'
  intro u mem v arrowsU readU
  exact ih u mem v readU arrowsU

/-- Every node of a tree that was read is what its rendering reads as. -/
theorem parse_render_of_parse {s : Text} {t : TypeExpr} (arrows : HyphensInArrows s)
    (read : parse s = .ok t) : ∀ n ∈ t.nodes, parse n.render = .ok n :=
  (normal_of_parse arrows read).nodes

theorem parse_render_of_parse_names :
    let s : Text := " P<(a->b)c, x[(y]) >?"
    let t : TypeExpr := .optional (.generic "P" (.simple "(a->b)c") [.simple "x[(y])"])
    HyphensInArrows s ∧ parse s = .ok t ∧ ∀ n ∈ t.nodes, parse n.render = .ok n := by
  intro s t
  have arrows : HyphensInArrows s := by decide
  have first : parse "(a->b)c" = .ok (.simple "(a->b)c") := by cbv
  have second : parse "x[(y])" = .ok (.simple "x[(y])") := by cbv
  have outer : shape s = .ok (.optional "P<(a->b)c, x[(y]) >") := by rfl
  have body : shape "P<(a->b)c, x[(y]) >" = .ok (.application "P" "(a->b)c" ["x[(y])"]) := by rfl
  have read : parse s = .ok t := by
    rw [parse_eq, outer]
    simp only [parse_eq "P<(a->b)c, x[(y]) >", body, first, List.mapM_cons, second]
    rfl
  exact ⟨arrows, read, parse_render_of_parse arrows read⟩

end ViewCases.TypeExpr
