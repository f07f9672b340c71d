import ViewCases.Payload
import ViewCases.Proofs.TypeExpr.NormalForm

/-! The stored form of a type that was read. Taking the escaping mark off a function type
changes nothing but the text in front of it, so the rest reads as before; the marks of
function types further inside stay. -/
namespace ViewCases.TypeExpr
open Text ViewCases.Bracket

theorem parse_strip {s : Text} {sh : Shape} (shaped : shape s = .ok sh) :
    parse (strip s) = parse s := by
  obtain ⟨-, -, shaped'⟩ := shape_ok shaped
  rw [parse_eq, shaped', parse_eq s, shaped]

theorem free_arrow_of_read {s : Text} {t : TypeExpr} (read : parse s = .ok t)
    (other : t.isClosure = false) : Free .arrow s := by
  obtain ⟨sh, shaped⟩ := exists_shape read
  obtain ⟨ne, closed, -⟩ := shape_ok shaped
  rw [← marks_strip] at closed
  rw [← parse_strip shaped] at read
  exact free_strip.mp (free_arrow_of_parse ne (trimmed_strip s) closed read other)

/-- The tree of a text is the tree of some part of it that is not all in parentheses. -/
theorem exists_ungrouped {s : Text} {t : TypeExpr} (read : parse s = .ok t) :
    ∃ u sh, Trimmed u ∧ (HyphensInArrows s → HyphensInArrows u) ∧ shape u = .ok sh ∧
      parse u = .ok t ∧ ∀ inner, sh ≠ .group inner := by
  refine readInduction ?_ read
  intro s sh t shaped read ih
  obtain ⟨-, -, shaped'⟩ := shape_ok shaped
  by_cases grouped : ∃ inner, sh = .group inner
  · obtain ⟨inner, rfl⟩ := grouped
    rw [parse_eq, shaped] at read
    obtain ⟨u, sh, trim, kept, found⟩ := ih inner List.mem_cons_self t read
    refine ⟨u, sh, trim, fun arrows => kept ?_, found⟩
    cases outline_of_shape (trimmed_strip s) shaped' with
    | group _ eq _ =>
      have inside : HyphensInArrows ('(' :: inner ++ [')']) := eq ▸ arrows.strip
      have opened : HyphensInArrows (inner ++ [')']) := inside.behind (a := ['('])
      exact opened.front (.inr (by simp))
    | closure before behind _ eq _ _ formed =>
      rw [eq] at formed
      obtain ⟨ms, head, effects, core, -, -, -, other⟩ := closureShape_eq_ok formed
      cases other
  · refine ⟨strip s, sh, trimmed_strip s, HyphensInArrows.strip, shaped', ?_, ?_⟩
    · rw [parse_strip shaped, read]
    · exact fun inner eq => grouped ⟨inner, eq⟩

theorem parts_of_parse_function {s : Text} {ts : List TypeExpr} {r : TypeExpr} {e : Bool}
    {as es : List Text} (arrows : HyphensInArrows s)
    (read : parse s = .ok (.function ts r e as es)) :
    Callable e as es ∧ (∀ t ∈ ts, Listed t) ∧ Rendered r := by
  obtain ⟨u, sh, trim, kept, shaped, read, notGroup⟩ := exists_ungrouped read
  have arrows := kept arrows
  cases outline_of_shape trim shaped with
  | name => cases parse_name shaped read
  | optional =>
    obtain ⟨inner, -, eq⟩ := parse_optional shaped read
    cases eq
  | group inner => exact absurd rfl (notGroup inner)
  | application =>
    obtain ⟨t', ts', -, eq⟩ := parse_application shaped read
    cases eq
  | closure before behind _ eq closed free formed =>
    subst eq
    obtain ⟨ms, head, effects, core, taken, split, -, rfl⟩ := closureShape_eq_ok formed
    obtain ⟨ts', r', readAll, readResult, eq⟩ := parse_closure shaped read
    cases eq
    have arrowsBefore : HyphensInArrows before := arrows.front (.inr (by simp))
    have arrowsBehind : HyphensInArrows behind :=
      HyphensInArrows.behind (a := before ++ ['-', '>']) (by simpa using arrows)
    have listed := listed_of_parts (arrows_of_closure arrowsBefore taken split)
      (fun _ _ _ => normal_of_parse) readAll
    exact ⟨(head_of_closure closed free taken split readAll).1, fun t mem => (listed t mem).1,
      (normal_of_parse arrowsBehind.strip readResult).rendered⟩

theorem wrapped_of_parse_optional {s : Text} {w : TypeExpr} (arrows : HyphensInArrows s)
    (read : parse s = .ok (.optional w)) :
    ∃ body, HyphensInArrows body ∧ parse body = .ok w ∧ Free .arrow body := by
  obtain ⟨u, sh, trim, kept, shaped, read, notGroup⟩ := exists_ungrouped read
  have arrows := kept arrows
  cases outline_of_shape trim shaped with
  | name => cases parse_name shaped read
  | optional body eq free =>
    subst eq
    obtain ⟨inner, readBody, eq⟩ := parse_optional shaped read
    cases eq
    rw [Free, marks_mark] at free
    exact ⟨body, arrows.front (.inr (by simp)), readBody, free⟩
  | group inner => exact absurd rfl (notGroup inner)
  | application =>
    obtain ⟨t', ts', -, eq⟩ := parse_application shaped read
    cases eq
  | closure before behind _ eq _ _ formed =>
    subst eq
    obtain ⟨ms, head, effects, core, -, -, -, rfl⟩ := closureShape_eq_ok formed
    obtain ⟨ts', r', -, -, eq⟩ := parse_closure shaped read
    cases eq

theorem marks_renderLead (e : Bool) (as : List Text) :
    marks (renderLead e as) = marks (renderLead false as) := by
  have plain : marks escapingAttribute = [] := by rfl
  cases e with
  | false => rfl
  | true => simp [renderLead_eq, marks_spaced, leadMarks, plain]

theorem Callable.withoutEscaping {e : Bool} {as es : List Text} (h : Callable e as es) :
    Callable false as es := by
  refine ⟨h.standing, h.plainly, h.effects, ?_, ?_⟩
  · rw [← marks_renderLead e]
    exact h.closed
  · rw [Free, ← marks_renderLead e]
    exact h.free

theorem rendered_withoutEscaping {s : Text} {t : TypeExpr} (arrows : HyphensInArrows s)
    (read : parse s = .ok t) :
    Rendered t.withoutEscaping ∧ marks t.withoutEscaping.render = marks t.render := by
  cases t with
  | function ts r e as es =>
    obtain ⟨call, listed, result⟩ := parts_of_parse_function arrows read
    refine ⟨rendered_function call.withoutEscaping listed result, ?_⟩
    simp only [withoutEscaping, render_function, marks_function call.effects, marks_renderLead e]
  | simple name => exact ⟨(normal_of_parse arrows read).rendered, rfl⟩
  | generic name first rest => exact ⟨(normal_of_parse arrows read).rendered, rfl⟩
  | optional w => exact ⟨(normal_of_parse arrows read).rendered, rfl⟩

theorem isClosure_withoutEscaping (t : TypeExpr) :
    t.withoutEscaping.isClosure = t.isClosure := by
  cases t <;> rfl

theorem withoutEscaping_of_not_closure {t : TypeExpr} (h : t.isClosure = false) :
    t.withoutEscaping = t := by
  cases t with
  | function => cases h
  | simple | generic | optional => rfl

theorem parse_stored {s : Text} {t : TypeExpr} (arrows : HyphensInArrows s)
    (read : parse s = .ok t) : parse t.stored.render = .ok t.stored := by
  cases t with
  | optional w =>
    obtain ⟨body, arrowsBody, readBody, free⟩ := wrapped_of_parse_optional arrows read
    obtain ⟨rendered, same⟩ := rendered_withoutEscaping arrowsBody readBody
    have single : w.withoutEscaping.isClosure = true → Free .comma w.withoutEscaping.render := by
      intro closure
      rw [isClosure_withoutEscaping] at closure
      rw [Free, same]
      exact (normal_of_parse arrowsBody readBody).grouped closure free
    exact (rendered_optional rendered single).reads
  | simple | generic | function => exact (rendered_withoutEscaping arrows read).1.reads

/-- The text of the stored form denotes the tree with the escaping mark cleared at the root,
or right under an optional mark there, and with nothing else changed. -/
theorem parse_payloadText {s : Text} {t : TypeExpr} (arrows : HyphensInArrows s)
    (read : parse s = .ok t) :
    (∀ ts r e as es, t = .function ts r e as es →
      parse t.payloadText = .ok (.function ts r false as es)) ∧
    (∀ ts r e as es, t = .optional (.function ts r e as es) →
      parse t.payloadText = .ok (.optional (.function ts r false as es))) ∧
    (t.isClosure = false → (∀ w, t = .optional w → w.isClosure = false) →
      parse t.payloadText = .ok t) := by
  have stored : parse t.payloadText = .ok t.stored := parse_stored arrows read
  refine ⟨?_, ?_, ?_⟩
  · rintro ts r e as es rfl
    exact stored
  · rintro ts r e as es rfl
    exact stored
  · intro plain below
    cases t with
    | optional w =>
      have same := withoutEscaping_of_not_closure (below w rfl)
      rwa [TypeExpr.stored, same] at stored
    | simple | generic => exact stored
    | function => cases plain

theorem parse_payloadText_nested :
    let s : Text := "((@Sendable @escaping (@escaping (A) -> B) async -> P<@escaping () -> C>)?)"
    let f : TypeExpr := .function [.simple "A"] (.simple "B") true [] []
    let g : TypeExpr := .function [] (.simple "C") true [] []
    let t : TypeExpr := .optional (.function [f] (.generic "P" g []) true ["@Sendable"] ["async"])
    (HyphensInArrows s ∧ parse s = .ok t) ∧ parse t.payloadText =
      .ok (.optional (.function [f] (.generic "P" g []) false ["@Sendable"] ["async"])) := by
  intro s f g t
  have arrows : HyphensInArrows s := by decide +kernel
  have read : parse s = .ok t := by decide +kernel
  exact ⟨⟨arrows, read⟩, (parse_payloadText arrows read).2.1 _ _ _ _ _ rfl⟩

end ViewCases.TypeExpr
