import Mathlib.Tactic.Choose
import ViewCases.Settings.Check

/-! Settings field by field. Each setting is checked apart from the others, on the value given
for it or with its default, and the settings that are made hold exactly what these checks give.
If one of them fails, all that is wrong is told, in the order of the settings. What a check of one
value says is left to the reader. -/
namespace ViewCases
open Text Config

namespace Checked

variable {α β : Type}

def problems : Checked α → List Problem
  | .ok _ => []
  | .error ps => ps

@[simp] theorem problems_ok (a : α) : problems (.ok a) = [] := rfl

@[simp] theorem problems_both (f : Checked (α → β)) (x : Checked α) :
    (both f x).problems = f.problems ++ x.problems := by
  cases f <;> cases x <;> simp [both, problems]

@[simp] theorem isOk_both (f : Checked (α → β)) (x : Checked α) :
    (both f x).isOk = (f.isOk && x.isOk) := by
  cases f <;> cases x <;> rfl

end Checked

def Setting.accepts [Setting.Reader] (f : Setting) (v : Value) : Bool :=
  (Setting.Reader.read f v).isOk

namespace Settings
open Checked

variable [Setting.Reader] {given : Setting → Option Value}

theorem isOk_check (given : Setting → Option Value) (f : Setting) :
    (check given f).isOk = (given f).all f.accepts := by
  unfold check
  cases given f <;> rfl

theorem problems_check (given : Setting → Option Value) (f : Setting) :
    (check given f).problems =
      (given f).elim [] fun v => (Setting.Reader.read f v).problems := by
  unfold check
  cases given f <;> rfl

theorem ofValues_of_check {c : (f : Setting) → f.Content} (h : ∀ f, check given f = .ok (c f)) :
    ofValues given = .ok (ofContents c) := by
  simp only [ofValues, h, both, ofContents]

theorem problems_ofValues (given : Setting → Option Value) :
    (ofValues given).problems = Setting.all.flatMap fun f => (check given f).problems := by
  simp only [ofValues, problems_both, problems_ok, Setting.all, List.flatMap_cons,
    List.flatMap_nil, List.append_nil, List.nil_append, List.append_assoc]

theorem isOk_ofValues (given : Setting → Option Value) :
    (ofValues given).isOk = Setting.all.all fun f => (check given f).isOk := by
  simp only [ofValues, isOk_both, Setting.all, List.all_cons, List.all_nil, Bool.and_true,
    Bool.and_assoc]
  rfl

theorem ofValues_eq_error_iff :
    (∃ problems, ofValues given = .error problems) ↔
      ∃ f v, given f = some v ∧ f.accepts v = false := by
  have refused : (∃ problems, ofValues given = .error problems) ↔
      (ofValues given).isOk = false := by
    cases ofValues given with
    | ok s => exact ⟨nofun, nofun⟩
    | error problems => exact ⟨fun _ => rfl, fun _ => ⟨problems, rfl⟩⟩
  rw [refused, isOk_ofValues, List.all_eq_false]
  simp only [isOk_check]
  constructor
  · rintro ⟨f, -, bad⟩
    cases there : given f with
    | none => simp [there] at bad
    | some v => exact ⟨f, v, there, by simpa [there] using bad⟩
  · rintro ⟨f, v, there, bad⟩
    exact ⟨f, Setting.mem_all f, by simp [there, bad]⟩

theorem ofValues_eq_ok_iff {s : Settings} :
    ofValues given = .ok s ↔ ∀ f, check given f = .ok (s.get f) := by
  constructor
  · intro made f
    have good : ∀ f, ∃ c, check given f = .ok c := by
      intro f
      have ok : (check given f).isOk = true := by
        have all := isOk_ofValues given
        rw [made] at all
        exact List.all_eq_true.mp all.symm f (Setting.mem_all f)
      cases checked : check given f with
      | ok c => exact ⟨c, rfl⟩
      | error ps =>
        rw [checked] at ok
        cases ok
    choose c checked using good
    have same : ofContents c = s := by
      have := ofValues_of_check checked
      rw [made] at this
      exact (Except.ok.inj this).symm
    rw [checked, ← same, get_ofContents]
  · intro checked
    rw [ofValues_of_check checked, ofContents_get]

theorem ofValues_eq_error_iff_problems {ps : List Problem} :
    ofValues given = .error ps ↔ (∃ f v, given f = some v ∧ f.accepts v = false) ∧
      ps = Setting.all.flatMap fun f => (check given f).problems := by
  rw [← ofValues_eq_error_iff, ← problems_ofValues]
  cases ofValues given with
  | ok s => exact ⟨nofun, nofun⟩
  | error qs =>
    constructor
    · intro eq
      cases eq
      exact ⟨⟨_, rfl⟩, rfl⟩
    · rintro ⟨-, rfl⟩
      rfl

end Settings
end ViewCases
