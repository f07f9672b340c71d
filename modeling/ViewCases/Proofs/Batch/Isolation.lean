import ViewCases.Proofs.Batch.Conservation
import ViewCases.Proofs.Batch.Guarded

/-! The categories of a run do not see one another. The filter looks at one modifier at a
time, so it can be moved behind the division by category, and everything after the division
is done for each category alone. -/
namespace ViewCases.Batch
open Text

def unitOf? (s : Settings) (ms : List Modifier) (c : Category) : Option EnumFile :=
  ((groups s ms).find? fun g => g.category = c).map fun g => unit s g.category.label g.members

theorem group_group (c d : Category) (ms : List Modifier) :
    d.group (c.group ms) = if d = c then c.group ms else [] := by
  unfold Category.group
  rw [List.filter_filter]
  split
  · next same =>
    subst same
    simp
  · next other =>
    apply List.filter_eq_nil_iff.mpr
    intro m _ both
    simp only [Bool.and_eq_true, decide_eq_true_eq] at both
    exact other (both.1.symm.trans both.2)

section
variable (s : Settings)

theorem group_candidates (c : Category) (ms : List Modifier) :
    c.group (candidates s ms) = candidates s (c.group ms) := by
  unfold candidates Category.group
  split
  · rw [List.filter_filter, List.filter_filter]
    exact List.filter_congr fun m _ => Bool.and_comm _ _
  · rfl

def groupOf? (c : Category) (own : List Modifier) : Option Group :=
  if (candidates s own).isEmpty then none else some (Group.ofModifiers s c (candidates s own))

theorem category_of_groupOf? {c : Category} {own : List Modifier} {g : Group}
    (h : groupOf? s c own = some g) : g.category = c := by
  unfold groupOf? at h
  split at h
  · cases h
  · cases h
    exact ofModifiers_category s c _

theorem groups_eq (ms : List Modifier) :
    groups s ms = Category.all.filterMap fun c => groupOf? s c (c.group ms) := by
  unfold groups Category.categorize
  generalize Category.all = cs
  induction cs with
  | nil => rfl
  | cons c cs ih =>
    simp only [List.map_cons, List.filter_cons, List.filterMap_cons, groupOf?,
      group_candidates] at ih ⊢
    cases (candidates s (c.group ms)).isEmpty with
    | true => simpa using ih
    | false => simpa using ih

theorem find?_groups (ms : List Modifier) (c : Category) :
    (groups s ms).find? (fun g => g.category = c) = groupOf? s c (c.group ms) := by
  have search : ∀ cs : List Category,
      (cs.filterMap fun d => groupOf? s d (d.group ms)).find? (fun g => g.category = c) =
        if c ∈ cs then groupOf? s c (c.group ms) else none := by
    intro cs
    induction cs with
    | nil => rfl
    | cons d ds ih =>
      rw [List.filterMap_cons]
      cases made : groupOf? s d (d.group ms) with
      | none =>
        by_cases here : c = d
        · subst here
          simp [ih, made]
        · simp [ih, here]
      | some g =>
        have category := category_of_groupOf? s made
        by_cases here : c = d
        · subst here
          simp [category, made]
        · simp [category, ih, here, Ne.symm here]
  rw [groups_eq, search, if_pos (Category.mem_all c)]

theorem unitOf?_eq (ms : List Modifier) (c : Category) :
    unitOf? s ms c =
      (groupOf? s c (c.group ms)).map fun g => unit s g.category.label g.members := by
  rw [unitOf?, find?_groups]

theorem units_eq (sourcePath : Text) (ms : List Modifier) :
    (ofModifiers s sourcePath ms).units = Category.all.filterMap (unitOf? s ms) := by
  have each : unitOf? s ms = fun c =>
      (groupOf? s c (c.group ms)).map fun g => unit s g.category.label g.members :=
    funext (unitOf?_eq s ms)
  rw [each]
  simp only [ofModifiers, groups_eq, List.map_filterMap]

theorem unitOf?_group (ms : List Modifier) (c d : Category) :
    unitOf? s (c.group ms) d = if d = c then unitOf? s ms c else none := by
  rw [unitOf?_eq, unitOf?_eq, group_group]
  split
  · next same =>
    subst same
    rfl
  · have none : groupOf? s d [] = none := by
      unfold groupOf? candidates
      split <;> rfl
    rw [none]
    rfl

theorem filterMap_single (c : Category) (found : Option EnumFile) :
    (Category.all.filterMap fun d => if d = c then found else none) = found.toList := by
  cases found with
  | none => simp
  | some u => cases c <;> rfl

theorem units_group (sourcePath : Text) (ms : List Modifier) (c : Category) :
    (ofModifiers s sourcePath (c.group ms)).units = (unitOf? s ms c).toList := by
  have each : unitOf? s (c.group ms) = fun d => if d = c then unitOf? s ms c else none :=
    funext (unitOf?_group s ms c)
  rw [units_eq, each, filterMap_single]

theorem unitOf?_congr {ms ms' : List Modifier} {c : Category} (same : c.group ms' = c.group ms) :
    unitOf? s ms' c = unitOf? s ms c := by
  rw [unitOf?_eq, unitOf?_eq, same]

end

/-- Every run ends with its units in the order of the categories. The unit of a category, or
its absence, is that of the run over the modifiers of the category alone, and the same in
every run with these modifiers, whatever the modifiers of other categories are. -/
theorem tryOfModifiers_isolates (s : Settings) (sourcePath : Text) (ms : List Modifier) :
    ∃ b, tryOfModifiers s sourcePath ms = .ok b ∧
      b.units = Category.all.filterMap (unitOf? s ms) ∧
      ∀ c : Category,
        (∃ own, tryOfModifiers s sourcePath (c.group ms) = .ok own ∧
          own.units = (unitOf? s ms c).toList) ∧
        unitOf? s (c.group ms) c = unitOf? s ms c ∧
        ∀ ms', c.group ms' = c.group ms → unitOf? s ms' c = unitOf? s ms c := by
  refine ⟨_, tryOfModifiers_eq s sourcePath ms, units_eq s sourcePath ms, ?_⟩
  intro c
  refine ⟨⟨_, tryOfModifiers_eq s sourcePath (c.group ms), units_group s sourcePath ms c⟩, ?_, ?_⟩
  · rw [unitOf?_group, if_pos rfl]
  · intro ms' same
    exact unitOf?_congr s same

theorem tryOfModifiers_isolates_broken :
    let m : Text → Text → Modifier := fun name result =>
      ⟨name, [], result, none, none, false, [], []⟩
    let ms := [m "font" "V", m "bold" "V", m "frame" "V"]
    let ms' := [m "frame" "A<", { m "blur" "V" with isGeneric := true }, m "font" "V", m "bold" "V"]
    (Category.group .text ms' = Category.group .text ms ∧
      (unitOf? {} ms' .layout).map (·.isSuccessful) = some false ∧
      (unitOf? {} ms' .text).map (·.caseCount) = some 2) ∧
      unitOf? {} ms' .text = unitOf? {} ms .text := by
  intro m ms ms'
  have ran : Category.group .text ms' = Category.group .text ms ∧
      (unitOf? {} ms' .layout).map (·.isSuccessful) = some false ∧
      (unitOf? {} ms' .text).map (·.caseCount) = some 2 := by decide +kernel
  obtain ⟨b, -, -, each⟩ := tryOfModifiers_isolates {} "f" ms
  exact ⟨ran, (each .text).2.2 ms' ran.1⟩

end ViewCases.Batch
