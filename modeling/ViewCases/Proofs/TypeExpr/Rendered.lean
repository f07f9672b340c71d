import ViewCases.Proofs.TypeExpr.Accepted

/-! Trees whose rendering reads back, put together from such trees. A part of a list also
has no comma outside its brackets; a function type under an optional mark needs that too,
since it stands in parentheses there. -/
namespace ViewCases.TypeExpr
open Text ViewCases.Bracket

/-- What a rendering has to be for the renderings around it to read back. -/
structure Rendered (t : TypeExpr) : Prop where
  nonempty : t.render ≠ []
  trimmed : Trimmed t.render
  closed : Closed (marks t.render)
  noHyphen : t.render.getLast? ≠ some '-'
  reads : parse t.render = .ok t

theorem Rendered.segment {t : TypeExpr} (h : Rendered t) (single : Free .comma t.render) :
    Segment t.render := ⟨h.nonempty, h.trimmed, h.closed, single⟩

def Listed (t : TypeExpr) : Prop := Rendered t ∧ Free .comma t.render

theorem segments_of_listed {ts : List TypeExpr} (h : ∀ t ∈ ts, Listed t) :
    ∀ u ∈ ts.map render, Segment u := by
  intro u hu
  obtain ⟨t, mem, rfl⟩ := List.mem_map.mp hu
  exact (h t mem).1.segment (h t mem).2

theorem noHyphen_of_listed {ts : List TypeExpr} (h : ∀ t ∈ ts, Listed t) :
    ∀ u ∈ ts.map render, u.getLast? ≠ some '-' := by
  intro u hu
  obtain ⟨t, mem, rfl⟩ := List.mem_map.mp hu
  exact (h t mem).1.noHyphen

theorem mapM_parse {ts : List TypeExpr} (h : ∀ t ∈ ts, parse t.render = .ok t) :
    (ts.map render).mapM parse = .ok ts := by
  induction ts with
  | nil => rfl
  | cons t ts ih =>
    obtain ⟨first, later⟩ := List.forall_mem_cons.mp h
    have others := ih later
    simp only [List.map_cons, List.mapM_cons, first, others]
    rfl

theorem mapM_listed {ts : List TypeExpr} (h : ∀ t ∈ ts, Listed t) :
    (ts.map render).mapM parse = .ok ts := mapM_parse fun t mem => (h t mem).1.reads

theorem rendered_simple {name : Text} (ne : name ≠ []) (trim : Trimmed name)
    (closed : Closed (marks name)) (noHyphen : name.getLast? ≠ some '-')
    (named : shape name = .ok (.name name)) : Rendered (.simple name) := by
  refine ⟨ne, trim, closed, noHyphen, ?_⟩
  change parse name = .ok (.simple name)
  rw [parse_eq, named]

theorem rendered_generic {name : Text} {first : TypeExpr} {rest : List TypeExpr}
    (app : Applicable name) (listed : ∀ t ∈ first :: rest, Listed t) :
    Rendered (.generic name first rest) := by
  have segs := segments_of_listed listed
  have last := noHyphen_of_listed listed
  have written := render_generic name first rest
  constructor
  · rw [written]
    simp [writeArguments]
  · rw [written]
    exact trimmed_append app.trimmed (trimmed_between rfl rfl _) app.nonempty (by simp)
  · rw [written, marks_arguments name last]
    exact app.closed.append ((closed_join fun u hu => (segs u hu).closed).wrap .angle)
  · rw [written, writeArguments, List.getLast?_append, List.getLast?_concat, Option.some_or]
    decide
  · have args := mapM_listed fun t mem => listed t (List.mem_cons_of_mem _ mem)
    have parts : shape (writeArguments name (first.render :: rest.map render)) =
        .ok (.application name first.render (rest.map render)) :=
      shape_arguments app segs last
    rw [written, parse_eq, List.map_cons, parts]
    simp only [(listed first List.mem_cons_self).1.reads, args]
    rfl

theorem free_generic {m : Mark} {name : Text} {first : TypeExpr} {rest : List TypeExpr}
    (app : Applicable name) (listed : ∀ t ∈ first :: rest, Listed t) (free : Free m name) :
    Free m (render (.generic name first rest)) := by
  have joined := closed_join fun u hu => (segments_of_listed listed u hu).closed
  rw [Free, render_generic, marks_arguments name (noHyphen_of_listed listed),
    app.closed.topLevel_append, joined.topLevel_wrap, List.append_nil]
  exact free

theorem parse_closure {s result : Text} {us attributes effects : List Text} {escaping : Bool}
    {t : TypeExpr} (shaped : shape s = .ok (.closure us result escaping attributes effects))
    (h : parse s = .ok t) :
    ∃ ts r, us.mapM parse = .ok ts ∧ parse result = .ok r ∧
      t = .function ts r escaping attributes effects := by
  rw [parse_eq, shaped] at h
  cases params : us.mapM parse with
  | error e => simp only [params] at h; cases h
  | ok ts =>
    cases res : parse result with
    | error e => simp only [params, res] at h; cases h
    | ok r =>
      simp only [params, res] at h
      cases h
      exact ⟨ts, r, rfl, rfl, rfl⟩

/-- A text with an arrow outside its brackets can only be read as a function type. -/
theorem free_arrow_of_parse {s : Text} {t : TypeExpr} (ne : s ≠ []) (trim : Trimmed s)
    (closed : Closed (marks s)) (accepted : parse s = .ok t) (other : t.isClosure = false) :
    Free .arrow s := by
  rcases findTopLevel_arrow_cases closed with ⟨-, free⟩ | ⟨a, r, rfl, found, -⟩
  · exact free
  · exfalso
    have shaped : shape (a ++ '-' :: '>' :: r) = closureShape (a ++ '-' :: '>' :: r) a.length := by
      rw [shape_of_trimmed ne trim closed, found]
    cases formed : closureShape (a ++ '-' :: '>' :: r) a.length with
    | error e =>
      rw [parse_eq, shaped, formed] at accepted
      cases accepted
    | ok sh =>
      obtain ⟨ms, head, effects, core, -, -, -, rfl⟩ := closureShape_eq_ok formed
      obtain ⟨ts, result, -, -, rfl⟩ := parse_closure (shaped.trans formed) accepted
      cases other

theorem marks_optional_closure {t : TypeExpr} (closure : t.isClosure = true) :
    marks (render (.optional t)) = .opens .paren :: marks t.render ++ [.closes .paren] := by
  rw [render_optional_closure closure, marks_mark, marks_parens]

theorem rendered_optional {t : TypeExpr} (h : Rendered t)
    (single : t.isClosure = true → Free .comma t.render) : Rendered (.optional t) := by
  cases closure : t.isClosure with
  | false =>
    have written := render_optional closure
    have free := free_arrow_of_parse h.nonempty h.trimmed h.closed h.reads closure
    constructor
    · rw [written]; simp
    · rw [written]
      exact trimmed_append h.trimmed (trimmed_singleton rfl) h.nonempty (by simp)
    · rw [written, marks_mark]; exact h.closed
    · rw [written, List.getLast?_concat]; decide
    · rw [written, parse_eq, shape_optional h.nonempty h.trimmed h.closed free]
      simp only [h.reads]
      rfl
  | true =>
    have written := render_optional_closure closure
    have group := shape_group h.closed (single closure)
      (by rw [strip_of_trimmed h.trimmed]; exact h.nonempty)
    have inner : parse ('(' :: t.render ++ [')']) = .ok t := by
      rw [parse_eq, group]
      exact h.reads
    constructor
    · rw [written]; simp
    · rw [written]
      exact trimmed_append (trimmed_between rfl rfl _) (trimmed_singleton rfl) (by simp) (by simp)
    · rw [marks_optional_closure closure]; exact h.closed.wrap .paren
    · rw [written, List.getLast?_concat]; decide
    · rw [written, parse_eq, shape_optional (by simp) (trimmed_between rfl rfl _)
        (closed_parens h.closed) (free_parens h.closed .arrow)]
      simp only [inner]
      rfl

theorem free_optional {t : TypeExpr} (h : Rendered t) (single : Free .comma t.render) :
    Free .comma (render (.optional t)) := by
  cases closure : t.isClosure with
  | false =>
    rw [Free, render_optional closure, marks_mark]
    exact single
  | true =>
    rw [Free, marks_optional_closure closure, h.closed.topLevel_wrap]
    exact List.not_mem_nil

theorem rendered_function {parameters : List TypeExpr} {result : TypeExpr} {escaping : Bool}
    {attributes effects : List Text} (call : Callable escaping attributes effects)
    (listed : ∀ t ∈ parameters, Listed t) (res : Rendered result) :
    Rendered (.function parameters result escaping attributes effects) := by
  have segs := segments_of_listed listed
  have written := render_function parameters result escaping attributes effects
  constructor
  · rw [written]
    simp [writeFunction]
  · rw [written]
    exact trimmed_writeFunction call.standing res.nonempty res.trimmed
  · rw [written, marks_function call.effects]
    exact (call.closed.append ((closed_join fun u hu => (segs u hu).closed).wrap .paren)).append
      res.closed
  · rw [written, getLast?_writeFunction res.nonempty]
    exact res.noHyphen
  · have params := mapM_listed listed
    rw [written, parse_eq, shape_function call segs res.nonempty res.trimmed res.closed]
    simp only [params, res.reads]
    rfl

theorem free_function {parameters : List TypeExpr} {result : TypeExpr} {escaping : Bool}
    {attributes effects : List Text} (call : Callable escaping attributes effects)
    (listed : ∀ t ∈ parameters, Listed t) (lead : Free .comma (renderLead escaping attributes))
    (res : Free .comma result.render) :
    Free .comma (render (.function parameters result escaping attributes effects)) := by
  have joined := closed_join fun u hu => (segments_of_listed listed u hu).closed
  have zero : Nest.flat.total = 0 := rfl
  rw [Free, render_function, marks_function call.effects, List.append_assoc,
    call.closed.topLevel_append, (joined.wrap .paren).topLevel_append, joined.topLevel_wrap,
    topLevel, if_pos zero]
  · intro mem
    rcases List.mem_append.mp mem with first | later
    · exact lead first
    · rw [List.nil_append] at later
      rcases List.mem_cons.mp later with arrow | behind
      · cases arrow
      · exact res behind
  all_goals simp

end ViewCases.TypeExpr
