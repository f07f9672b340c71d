import ViewCases.Proofs.Bracket.Segments
import ViewCases.TypeExpr.Parse

/-! Types as they are written. Each way of writing a type from texts of its parts is read
back as that shape with those parts. What the parts are to be is stated here once; that
rendered trees have such parts is not. -/
namespace ViewCases.TypeExpr
open Text ViewCases.Bracket

@[elab_as_elim]
theorem childInduction {motive : TypeExpr → Prop}
    (simple : ∀ name, motive (.simple name))
    (generic : ∀ name first rest, motive first → (∀ u ∈ rest, motive u) →
      motive (.generic name first rest))
    (optional : ∀ wrapped, motive wrapped → motive (.optional wrapped))
    (function : ∀ parameters result escaping attributes effects,
      (∀ u ∈ parameters, motive u) → motive result →
        motive (.function parameters result escaping attributes effects))
    (t : TypeExpr) : motive t :=
  @TypeExpr.rec motive (fun ts => ∀ u ∈ ts, motive u) simple generic optional
    (fun parameters result escaping attributes effects ps r =>
      function parameters result escaping attributes effects ps r)
    (by simp) (fun _ _ first rest => by simpa using ⟨first, rest⟩) t

theorem baseName_generic (name : Text) (first : TypeExpr) (rest : List TypeExpr) :
    (generic name first rest).baseName = name := rfl

theorem baseName_optional (w : TypeExpr) : w.optional.baseName = w.baseName := rfl

theorem baseName_closure {t : TypeExpr} (h : t.isClosure = true) : t.baseName = "Closure" := by
  cases t with
  | function => rfl
  | simple | generic | optional => cases h

def writeArguments (name : Text) (us : List Text) : Text :=
  name ++ ('<' :: joinWith [',', ' '] us ++ ['>'])

def writeFunction (lead : Text) (us effects : List Text) (result : Text) : Text :=
  lead ++ ('(' :: joinWith [',', ' '] us ++ [')']) ++ effects.flatMap (' ' :: ·) ++
    ' ' :: '-' :: '>' :: ' ' :: result

theorem render_generic (name : Text) (first : TypeExpr) (rest : List TypeExpr) :
    render (.generic name first rest) = writeArguments name ((first :: rest).map render) := by
  simp only [render, renderAll_eq_map, writeArguments, List.map_cons]
  rw [List.append_assoc, List.append_assoc]
  rfl

theorem render_optional {t : TypeExpr} (h : t.isClosure = false) :
    render (.optional t) = t.render ++ ['?'] := by
  rw [render, h]
  rfl

theorem render_optional_closure {t : TypeExpr} (h : t.isClosure = true) :
    render (.optional t) = ('(' :: t.render ++ [')']) ++ ['?'] := by
  rw [render, h]
  simp

theorem render_function (parameters : List TypeExpr) (result : TypeExpr) (escaping : Bool)
    (attributes effects : List Text) :
    render (.function parameters result escaping attributes effects) =
      writeFunction (renderLead escaping attributes) (parameters.map render) effects
        result.render := by
  simp only [render, renderAll_eq_map, writeFunction]
  simp only [List.append_assoc]
  rfl

theorem shape_of_trimmed {s : Text} (ne : s ≠ []) (trim : Trimmed s)
    (closed : Closed (marks s)) :
    shape s = match findTopLevel ['-', '>'] s with
      | some arrow => closureShape s arrow
      | none =>
        if s.getLast? = some '?' then .ok (.optional s.dropLast)
        else match insideParens? s with
          | some inner =>
            if (splitTopLevel inner).length = 1 then .ok (.group inner)
            else if s.contains '<' then applicationShape s else .ok (.name s)
          | none => if s.contains '<' then applicationShape s else .ok (.name s) := by
  have notEmpty : s.isEmpty = false := by simpa using ne
  simp only [shape, strip_of_trimmed trim, notEmpty, isBalanced_iff.mpr closed]
  rfl

theorem trimmed_singleton {c : Char} (h : isBlank c = false) : Trimmed [c] :=
  ⟨by rintro d ⟨⟩; exact h, by rintro d ⟨⟩; exact h⟩

theorem trimmed_between {a b : Char} (ha : isBlank a = false) (hb : isBlank b = false)
    (t : Text) : Trimmed (a :: t ++ [b]) := by
  constructor
  · rintro c ⟨⟩
    exact ha
  · intro c hc
    rw [List.getLast?_append] at hc
    cases hc
    exact hb

theorem marks_mark (u : Text) : marks (u ++ ['?']) = marks u :=
  marks_append_plain u (by decide)

theorem shape_optional {u : Text} (ne : u ≠ []) (trim : Trimmed u) (closed : Closed (marks u))
    (free : Free .arrow u) : shape (u ++ ['?']) = .ok (.optional u) := by
  have same := marks_mark u
  have trim' : Trimmed (u ++ ['?']) := trimmed_append trim (trimmed_singleton rfl) ne (by simp)
  have closed' : Closed (marks (u ++ ['?'])) := same ▸ closed
  have free' : Free .arrow (u ++ ['?']) := by rw [Free, same]; exact free
  rw [shape_of_trimmed (by simp) trim' closed', findTopLevel_arrow_none closed' free']
  simp

theorem insideParens?_wrap {u : Text} (closed : Closed (marks u)) :
    insideParens? ('(' :: u ++ [')']) = some u := by
  have partner := partner?_wrap .paren closed (.inr (by simp)) []
  change partner? .paren ('(' :: u ++ [')']) = some (u.length + 1) at partner
  rw [insideParens?, strip_of_trimmed (trimmed_between rfl rfl u)]
  simp only [List.cons_append] at partner ⊢
  simp [partner]

theorem insideParens?_eq_some {t inner : Text} (h : insideParens? t = some inner) :
    strip t = '(' :: inner ++ [')'] := by
  unfold insideParens? at h
  split at h
  · next rest eq =>
    split at h
    · next partner =>
      cases Option.some.inj h
      obtain ⟨a, rfl, -⟩ := partner?_eq_last (b := .paren) partner
      rw [eq, List.dropLast_concat]
      rfl
    · simp at h
  · simp at h

theorem insideParens?_eq_none {t : Text} (trim : Trimmed t)
    (ends : t.head? ≠ some '(' ∨ t.getLast? ≠ some ')') : insideParens? t = none := by
  cases found : insideParens? t with
  | none => rfl
  | some inner =>
    have whole := insideParens?_eq_some found
    rw [strip_of_trimmed trim] at whole
    rcases ends with head | last
    · exact absurd (by rw [whole]; rfl) head
    · exact absurd (by rw [whole, List.getLast?_concat]) last

theorem marks_parens (u : Text) :
    marks ('(' :: u ++ [')']) = .opens .paren :: marks u ++ [.closes .paren] :=
  marks_wrap (b := .paren) (.inr (by simp))

theorem closed_parens {u : Text} (closed : Closed (marks u)) :
    Closed (marks ('(' :: u ++ [')'])) := by
  rw [marks_parens]
  exact closed.wrap .paren

theorem free_parens {u : Text} (closed : Closed (marks u)) (m : Mark) :
    Free m ('(' :: u ++ [')']) := by
  rw [Free, marks_parens, closed.topLevel_wrap]
  exact List.not_mem_nil

theorem shape_group {u : Text} (closed : Closed (marks u)) (free : Free .comma u)
    (ne : strip u ≠ []) : shape ('(' :: u ++ [')']) = .ok (.group u) := by
  have one : (splitTopLevel u).length = 1 := by rw [splitTopLevel_of_free closed free ne]; rfl
  have last : ('(' :: u ++ [')']).getLast? ≠ some '?' := by
    rw [List.getLast?_append]
    simp
  rw [shape_of_trimmed (by simp) (trimmed_between rfl rfl u) (closed_parens closed),
    findTopLevel_arrow_none (closed_parens closed) (free_parens closed .arrow),
    insideParens?_wrap closed]
  simp only [if_neg last, if_pos one]

theorem listParts_join {us : List Text} (h : ∀ u ∈ us, Segment u) :
    listParts (joinWith [',', ' '] us) = .ok us := by
  have full : us.any List.isEmpty = false := by
    rw [List.any_eq_false]
    intro u hu
    simpa using (h u hu).nonempty
  rw [listParts, splitTopLevel_join h]
  simp only [full]
  rfl

/-- What may stand before the arguments of an application. -/
structure Applicable (name : Text) : Prop where
  nonempty : name ≠ []
  trimmed : Trimmed name
  closed : Closed (marks name)
  free : Free .arrow name
  noAngle : '<' ∉ name

theorem marks_arguments (name : Text) {us : List Text}
    (last : ∀ u ∈ us, u.getLast? ≠ some '-') :
    marks (writeArguments name us) =
      marks name ++ (.opens .angle :: marks (joinWith [',', ' '] us) ++ [.closes .angle]) := by
  rw [writeArguments, marks_append (.inr (by simp))]
  exact congrArg _ (marks_wrap (b := .angle) (.inl (join_getLast last)))

theorem applicationShape_arguments {base inner first : Text} {rest : List Text}
    (noAngle : '<' ∉ base) (named : strip base ≠ []) (closed : Closed (marks inner))
    (last : inner.getLast? ≠ some '-') (parts : listParts inner = .ok (first :: rest)) :
    applicationShape (base ++ ('<' :: inner ++ ['>'])) =
      .ok (.application (strip base) first rest) := by
  have partner := partner?_wrap .angle closed (.inl last) []
  change partner? .angle ('<' :: inner ++ ['>']) = some (inner.length + 1) at partner
  have cut := takeWhile_append_cons (p := (· ≠ '<')) (c := '<') (by simp)
    (fun d hd => by simpa using fun e : d = '<' => noAngle (e ▸ hd)) (inner ++ ['>'])
  have nonempty : (strip base).isEmpty = false := by simpa using named
  rw [List.cons_append] at partner
  simp only [applicationShape, List.cons_append, cut.1, cut.2, partner, nonempty]
  simp [parts]

theorem shape_application {base inner first : Text} {rest : List Text}
    (start : ∀ c, base.head? = some c → isBlank c = false) (ne : base ≠ [])
    (closed : Closed (marks base)) (free : Free .arrow base) (noAngle : '<' ∉ base)
    (closedInner : Closed (marks inner)) (last : inner.getLast? ≠ some '-')
    (parts : listParts inner = .ok (first :: rest)) :
    shape (base ++ ('<' :: inner ++ ['>'])) = .ok (.application (strip base) first rest) := by
  have named : strip base ≠ [] := by
    intro empty
    cases base with
    | nil => exact ne rfl
    | cons c cs =>
      have blank := blank_of_strip empty c List.mem_cons_self
      rw [start c rfl] at blank
      cases blank
  have marked : marks (base ++ ('<' :: inner ++ ['>'])) =
      marks base ++ (.opens .angle :: marks inner ++ [.closes .angle]) := by
    rw [marks_append (.inr (by simp))]
    exact congrArg _ (marks_wrap (b := .angle) (.inl last))
  have closedWhole : Closed (marks (base ++ ('<' :: inner ++ ['>']))) := by
    rw [marked]
    exact closed.append (closedInner.wrap .angle)
  have freeWhole : Free .arrow (base ++ ('<' :: inner ++ ['>'])) := by
    rw [Free, marked, closed.topLevel_append, closedInner.topLevel_wrap, List.append_nil]
    exact free
  have trim : Trimmed (base ++ ('<' :: inner ++ ['>'])) :=
    trimmed_of_ends ne (by simp) start (trimmed_between rfl rfl inner).2
  have final : (base ++ ('<' :: inner ++ ['>'])).getLast? = some '>' := by
    rw [List.getLast?_append, List.getLast?_append]
    rfl
  have angle : (base ++ ('<' :: inner ++ ['>'])).contains '<' = true :=
    List.contains_iff_mem.mpr (List.mem_append_right _ List.mem_cons_self)
  have outside : insideParens? (base ++ ('<' :: inner ++ ['>'])) = none :=
    insideParens?_eq_none trim (.inr (by rw [final]; decide))
  rw [shape_of_trimmed (by simp) trim closedWhole,
    findTopLevel_arrow_none closedWhole freeWhole, outside, final]
  simp only [angle, applicationShape_arguments noAngle named closedInner last parts]
  rfl

theorem shape_arguments {name first : Text} {rest : List Text} (app : Applicable name)
    (segs : ∀ u ∈ first :: rest, Segment u)
    (last : ∀ u ∈ first :: rest, u.getLast? ≠ some '-') :
    shape (writeArguments name (first :: rest)) = .ok (.application name first rest) := by
  have joined := closed_join fun u hu => (segs u hu).closed
  have shaped := shape_application app.trimmed.1 app.nonempty app.closed app.free app.noAngle
    joined (join_getLast last) (listParts_join segs)
  rwa [strip_of_trimmed app.trimmed] at shaped

end ViewCases.TypeExpr
