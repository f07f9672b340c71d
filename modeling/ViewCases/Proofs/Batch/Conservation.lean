import ViewCases.Proofs.Batch.Overload
import ViewCases.Proofs.Category

/-! No modifier is lost or counted twice on the way from the input to the files. Each step
divides what it is given: into the excluded ones and the candidates, then by category, then
into first ones and overloads. -/
namespace ViewCases.Batch
open Text EnumFile ViewCases.Group

theorem length_categorize (ms : List Modifier) :
    ((Category.categorize ms).flatMap (·.2)).length = ms.length :=
  (Category.perm_categorize ms).length_eq

section
variable (s : Settings)

theorem mem_categorize {ms : List Modifier} {c : Category} {group : List Modifier}
    (h : (c, group) ∈ Category.categorize ms) : group = c.group ms ∧ group ≠ [] := by
  obtain ⟨mem, inhabited⟩ := List.mem_filter.mp h
  obtain ⟨d, -, eq⟩ := List.mem_map.mp mem
  cases eq
  exact ⟨rfl, by simpa using inhabited⟩

theorem ofModifiers_category (c : Category) (ms : List Modifier) :
    (Group.ofModifiers s c ms).category = c := by
  unfold Group.ofModifiers
  split <;> rfl

theorem ofModifiers_members (c : Category) (ms : List Modifier) :
    (Group.ofModifiers s c ms).members = if s.deduplicateOverloads then firsts ms else ms := by
  unfold Group.ofModifiers
  split
  · rw [deduplicate_eq]
  · rfl

theorem ofModifiers_dropped (c : Category) (ms : List Modifier) :
    (Group.ofModifiers s c ms).dropped =
      if s.deduplicateOverloads then overloads c ms else [] := by
  unfold Group.ofModifiers
  split
  · rw [deduplicate_eq]
  · rfl

theorem ofModifiers_length (c : Category) (ms : List Modifier) :
    (Group.ofModifiers s c ms).members.length + (Group.ofModifiers s c ms).dropped.length =
      ms.length := by
  unfold Group.ofModifiers
  split
  · exact length_deduplicate c [] ms
  · rfl

theorem ofModifiers_ne_nil (c : Category) {ms : List Modifier} (h : ms ≠ []) :
    (Group.ofModifiers s c ms).members ≠ [] := by
  unfold Group.ofModifiers
  split
  · exact deduplicate_ne_nil c h
  · exact h

theorem mem_groups {ms : List Modifier} {g : Group} (h : g ∈ groups s ms) :
    g = Group.ofModifiers s g.category (g.category.group (candidates s ms)) ∧
      g.category.group (candidates s ms) ≠ [] := by
  obtain ⟨⟨c, group⟩, mem, rfl⟩ := List.mem_map.mp h
  obtain ⟨rfl, inhabited⟩ := mem_categorize mem
  rw [ofModifiers_category]
  exact ⟨rfl, inhabited⟩

theorem map_category_groups (ms : List Modifier) :
    (groups s ms).map (·.category) =
      Category.all.filter fun c => !(c.group (candidates s ms)).isEmpty := by
  have categories : ∀ entry : Category × List Modifier,
      (Group.ofModifiers s entry.1 entry.2).category = entry.1 := fun entry =>
    ofModifiers_category s entry.1 entry.2
  rw [groups, Category.categorize, List.map_map, List.filter_map, List.map_map]
  simp only [Function.comp_def, categories, List.map_id']

theorem length_groups (ms : List Modifier) :
    ((groups s ms).flatMap (·.members)).length + ((groups s ms).flatMap (·.dropped)).length =
      (candidates s ms).length := by
  have each : ∀ entries : List (Category × List Modifier),
      let made := entries.map fun entry => Group.ofModifiers s entry.1 entry.2
      (made.flatMap (·.members)).length + (made.flatMap (·.dropped)).length =
        (entries.flatMap (·.2)).length := by
    intro entries
    induction entries with
    | nil => rfl
    | cons entry entries ih =>
      have here := ofModifiers_length s entry.1 entry.2
      simp only [List.map_cons, List.flatMap_cons, List.length_append] at ih ⊢
      omega
  rw [← length_categorize (candidates s ms)]
  exact each _

theorem length_candidates (ms : List Modifier) :
    (excluded s ms).length + (candidates s ms).length = ms.length := by
  unfold excluded candidates
  split
  · induction ms with
    | nil => rfl
    | cons m ms ih =>
      cases exclusion : Exclusion.ofModifier? m with
      | none =>
        simp only [List.filterMap_cons, List.filter_cons, Skipped.ofModifier?, exclusion,
          Option.map_none, Option.isNone_none, if_true, List.length_cons] at ih ⊢
        omega
      | some e =>
        simp only [List.filterMap_cons, List.filter_cons, Skipped.ofModifier?, exclusion,
          Option.map_some, Option.isNone_some, Bool.false_eq_true, if_false,
          List.length_cons] at ih ⊢
        omega
  · exact Nat.zero_add _

theorem unit_cases (label : Text) (ms : List Modifier) :
    (∃ f, generate s.options (s.unionName label) ms = .ok f ∧ unit s label ms = f) ∨
      ∃ e, generate s.options (s.unionName label) ms = .error e ∧
        unit s label ms =
          .failed (s.unionName label ++ s.fileExtension) (label ++ ": " ++ e.message) := by
  cases made : generate s.options (s.unionName label) ms with
  | ok f => exact .inl ⟨f, rfl, by simp only [unit, made]⟩
  | error e => exact .inr ⟨e, rfl, by simp only [unit, made]⟩

theorem unit_caseCount {label : Text} {ms : List Modifier}
    (h : (unit s label ms).isSuccessful = true) : (unit s label ms).caseCount = ms.length := by
  rcases unit_cases s label ms with ⟨f, made, eq⟩ | ⟨e, -, eq⟩
  · rw [eq]
    exact (generate_ok made).1
  · rw [eq] at h
    cases h

theorem caseCount_units {gs : List Group}
    (h : ∀ g ∈ gs, (unit s g.category.label g.members).isSuccessful = true) :
    ((gs.map fun g => unit s g.category.label g.members).map (·.caseCount)).foldr (· + ·) 0 =
      (gs.flatMap (·.members)).length := by
  induction gs with
  | nil => rfl
  | cons g gs ih =>
    obtain ⟨first, later⟩ := List.forall_mem_cons.mp h
    simp only [List.map_cons, List.foldr_cons, List.flatMap_cons, List.length_append, ih later,
      unit_caseCount s first]

end

/-- The count of the input is the count of what was skipped and of what was handed over, and
in a run without failures also of the cases. Of the candidates of a category the first ones
of every case name are handed over, and each of the others is skipped once. -/
theorem ofModifiers_conserves (s : Settings) (sourcePath : Text) (ms : List Modifier) :
    let b := ofModifiers s sourcePath ms
    let handed := groups s ms
    let candidatesOf : Category → List Modifier := fun c => c.group (candidates s ms)
    b.extractedCount = ms.length ∧
    b.units = handed.map (fun g => unit s g.category.label g.members) ∧
    b.extractedCount = b.skipped.length + (handed.flatMap (·.members)).length ∧
    handed.map (·.category) = Category.all.filter (fun c => !(candidatesOf c).isEmpty) ∧
    (∀ g ∈ handed, g.members ≠ []) ∧
    (∀ g ∈ handed, g.members =
      if s.deduplicateOverloads then firsts (candidatesOf g.category)
      else candidatesOf g.category) ∧
    b.skipped = excluded s ms ++
      (if s.deduplicateOverloads then
        handed.flatMap fun g => overloads g.category (candidatesOf g.category) else []) ∧
    (b.isSuccessful = true → b.caseCount + b.skipped.length = b.extractedCount) := by
  intro b handed candidatesOf
  have total : b.skipped.length + (handed.flatMap (·.members)).length = ms.length := by
    have grouped := length_groups s ms
    have divided := length_candidates s ms
    simp only [b, handed, ofModifiers, List.length_append]
    omega
  have skipped : ∀ g ∈ handed, g.dropped =
      if s.deduplicateOverloads then overloads g.category (candidatesOf g.category) else [] := by
    intro g hg
    obtain ⟨made, -⟩ := mem_groups s hg
    exact (congrArg Group.dropped made).trans (ofModifiers_dropped s _ _)
  refine ⟨rfl, rfl, total.symm, map_category_groups s ms, ?_, ?_, ?_, ?_⟩
  · intro g hg
    obtain ⟨made, inhabited⟩ := mem_groups s hg
    rw [made]
    exact ofModifiers_ne_nil s _ inhabited
  · intro g hg
    obtain ⟨made, -⟩ := mem_groups s hg
    exact (congrArg Group.members made).trans (ofModifiers_members s _ _)
  · have dropped : handed.flatMap (·.dropped) = handed.flatMap fun g =>
        if s.deduplicateOverloads then overloads g.category (candidatesOf g.category)
        else [] := by
      rw [List.flatMap_def, List.flatMap_def, List.map_congr_left skipped]
    change excluded s ms ++ handed.flatMap (·.dropped) = _
    rw [dropped]
    split <;> simp
  · intro successful
    have each : ∀ g ∈ handed, (unit s g.category.label g.members).isSuccessful = true := by
      intro g hg
      have none : b.failedUnits = [] := by simpa [isSuccessful] using successful
      have := List.filter_eq_nil_iff.mp none _ (List.mem_map_of_mem hg)
      simpa using this
    have cases : b.caseCount = (handed.flatMap (·.members)).length := caseCount_units s each
    rw [cases, Nat.add_comm]
    exact total

theorem ofModifiers_conserves_overloads :
    let m : Text → Modifier := fun name => ⟨name, [], "V", none, none, false, [], []⟩
    let ms := [m "a-b", m "frame", m "a+b", { m "g" with isGeneric := true }]
    let b := ofModifiers {} "f" ms
    (b.isSuccessful = true ∧ b.skipped.map Skipped.message =
      [("g(): generic modifier" : Text), "a+b(): overload of a-b() in Other"]) ∧
      b.caseCount + b.skipped.length = b.extractedCount := by
  intro m ms b
  have ran : b.isSuccessful = true ∧ b.skipped.map Skipped.message =
      [("g(): generic modifier" : Text), "a+b(): overload of a-b() in Other"] := by
    decide +kernel
  obtain ⟨-, -, -, -, -, -, -, counted⟩ := ofModifiers_conserves {} "f" ms
  exact ⟨ran, counted ran.1⟩

end ViewCases.Batch
