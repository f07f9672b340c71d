import ViewCases.Category

/-! The division of modifiers by category. One pass puts every modifier behind those of its
category that came before it, and meets the categories in the order of the input; the groups
are then given out in the order of the categories. Nothing here depends on how a name decides
its category. -/
namespace ViewCases.Category

def place (c : Category) (m : Modifier) :
    List (Category × List Modifier) → List (Category × List Modifier)
  | [] => [(c, [m])]
  | (d, group) :: entries =>
    if d = c then (d, group ++ [m]) :: entries else (d, group) :: place c m entries

/-- The groups of a list of modifiers, in the order in which the categories are met. -/
def collect (ms : List Modifier) : List (Category × List Modifier) :=
  ms.foldl (fun entries m => place (classify m.name) m entries) []

def arranged (entries : List (Category × List Modifier)) : List (Text × List Modifier) :=
  all.filterMap fun c => (entries.lookup c).map (c.label, ·)

def extended (found : Option (List Modifier)) (more : List Modifier) : Option (List Modifier) :=
  if more = [] then found else some (found.getD [] ++ more)

theorem extended_nil (found : Option (List Modifier)) : extended found [] = found := by
  simp [extended]

theorem extended_extended (found : Option (List Modifier)) (m : Modifier) (ms : List Modifier) :
    extended (extended found [m]) ms = extended found (m :: ms) := by
  cases ms with
  | nil => simp [extended]
  | cons n ns => simp [extended]

theorem lookup_entry {α β : Type} [BEq α] [LawfulBEq α] [DecidableEq α] (key a : α) (b : β)
    (entries : List (α × β)) : ((a, b) :: entries).lookup key =
      if key = a then some b else entries.lookup key := by
  rw [List.lookup_cons]
  by_cases here : key = a
  · simp [here]
  · simp [here, beq_eq_false_iff_ne.mpr here]

theorem lookup_place (c d : Category) (m : Modifier) (entries : List (Category × List Modifier)) :
    (place c m entries).lookup d =
      if d = c then extended (entries.lookup d) [m] else entries.lookup d := by
  induction entries with
  | nil => simp [place, lookup_entry, extended]
  | cons entry entries ih =>
    obtain ⟨e, group⟩ := entry
    unfold place
    by_cases here : e = c
    · subst here
      by_cases same : d = e <;> simp [lookup_entry, extended, same]
    · rw [if_neg here, lookup_entry, lookup_entry, ih]
      by_cases first : d = e
      · subst first
        simp [here]
      · simp [first]

theorem group_cons (c : Category) (m : Modifier) (ms : List Modifier) :
    c.group (m :: ms) = if classify m.name = c then m :: c.group ms else c.group ms := by
  simp only [group, List.filter_cons, decide_eq_true_eq]

theorem lookup_foldl_place (c : Category) (ms : List Modifier)
    (entries : List (Category × List Modifier)) :
    (ms.foldl (fun entries m => place (classify m.name) m entries) entries).lookup c =
      extended (entries.lookup c) (c.group ms) := by
  induction ms generalizing entries with
  | nil => exact (extended_nil _).symm
  | cons m ms ih =>
    rw [List.foldl_cons, ih, lookup_place, group_cons]
    by_cases own : classify m.name = c
    · rw [if_pos own.symm, if_pos own, extended_extended]
    · rw [if_neg (Ne.symm own), if_neg own]

theorem lookup_collect (c : Category) (ms : List Modifier) :
    (collect ms).lookup c = if c.group ms = [] then none else some (c.group ms) :=
  lookup_foldl_place c ms []

theorem label_injective {c d : Category} (h : c.label = d.label) : c = d := by
  have each : ∀ c ∈ all, ∀ d ∈ all, c.label = d.label → c = d := by decide
  exact each c (mem_all c) d (mem_all d) h

theorem lookup_arranged (entries : List (Category × List Modifier)) (label : Text) :
    (arranged entries).lookup label =
      (all.find? fun c => c.label = label).bind fun c => entries.lookup c := by
  unfold arranged
  induction all with
  | nil => rfl
  | cons c cs ih =>
    by_cases here : c.label = label
    · cases found : entries.lookup c with
      | some group => simp [found, here]
      | none =>
        -- No later category has this label, so a missing group is not made up for.
        have absent : (cs.find? fun d => d.label = label).bind (fun d => entries.lookup d) =
            none := by
          rw [Option.bind_eq_none_iff]
          intro d later
          have same : d.label = label := by simpa using List.find?_some later
          rw [label_injective (same.trans here.symm), found]
        simp [found, here, ih, absent]
    · cases found : entries.lookup c with
      | some group => simp [found, here, lookup_entry, Ne.symm here, ih]
      | none => simp [found, here, ih]

def byLabel (ms : List Modifier) : List (Text × List Modifier) :=
  (categorize ms).map fun entry => (entry.1.label, entry.2)

theorem arranged_collect (ms : List Modifier) : arranged (collect ms) = byLabel ms := by
  unfold arranged byLabel categorize
  simp only [lookup_collect]
  induction all with
  | nil => rfl
  | cons c cs ih =>
    by_cases empty : c.group ms = []
    · simp [empty, ih]
    · simp [empty, ih]

def labelled (label : Text) (ms : List Modifier) : List Modifier :=
  ms.filter fun m => (classify m.name).label = label

theorem labelled_label (c : Category) (ms : List Modifier) : labelled c.label ms = c.group ms := by
  apply List.filter_congr
  intro m _
  exact decide_eq_decide.mpr ⟨label_injective, congrArg label⟩

theorem lookup_byLabel (ms : List Modifier) (label : Text) :
    (byLabel ms).lookup label =
      if labelled label ms = [] then none else some (labelled label ms) := by
  rw [← arranged_collect, lookup_arranged]
  cases found : all.find? fun c => c.label = label with
  | some c =>
    have here : c.label = label := by simpa using List.find?_some found
    rw [← here, labelled_label]
    exact lookup_collect c ms
  | none =>
    have none : labelled label ms = [] := by
      apply List.filter_eq_nil_iff.mpr
      intro m _
      exact List.find?_eq_none.mp found _ (mem_all _)
    rw [if_pos none]
    rfl

theorem labels_byLabel (ms : List Modifier) :
    (byLabel ms).map Prod.fst = (all.map label).filter fun l => !(labelled l ms).isEmpty := by
  rw [byLabel, categorize, List.map_map, List.filter_map, List.map_map, List.filter_map]
  simp only [Function.comp_def, labelled_label]

theorem count_group (c : Category) (m : Modifier) (ms : List Modifier) :
    (c.group ms).count m = if classify m.name = c then ms.count m else 0 := by
  split
  · next own => exact List.count_filter (by simpa using own)
  · next other =>
    apply List.count_eq_zero.mpr
    intro mem
    exact other (by simpa using (List.mem_filter.mp mem).2)

theorem perm_groups (ms : List Modifier) : (all.flatMap fun c => c.group ms).Perm ms := by
  rw [List.perm_iff_count]
  intro m
  rw [List.count_flatMap]
  simp only [Function.comp_def, count_group]
  cases classify m.name <;> simp [all]

theorem flatMap_categorize (ms : List Modifier) :
    (categorize ms).flatMap Prod.snd = all.flatMap fun c => c.group ms := by
  unfold categorize
  induction all with
  | nil => rfl
  | cons c cs ih =>
    by_cases empty : c.group ms = []
    · simpa [empty] using ih
    · simpa [empty] using ih

theorem perm_categorize (ms : List Modifier) : ((categorize ms).flatMap Prod.snd).Perm ms := by
  rw [flatMap_categorize]
  exact perm_groups ms

/-- The groups are those that one pass collects. Each label has exactly its own modifiers, in
the order given, the labels present are those with a modifier, in the order of the categories,
and together the groups are the input. The groups of two lists are those of the first with
those of the second behind them. -/
theorem categorize_partition (ms : List Modifier) :
    byLabel ms = arranged (collect ms) ∧
    (∀ label, (byLabel ms).lookup label =
      if labelled label ms = [] then none else some (labelled label ms)) ∧
    (byLabel ms).map Prod.fst =
      (all.map label).filter (fun l => ms.any fun m => (classify m.name).label = l) ∧
    ((byLabel ms).flatMap Prod.snd).Perm ms ∧
    ∀ more label, ((byLabel (ms ++ more)).lookup label).getD [] =
      ((byLabel ms).lookup label).getD [] ++ ((byLabel more).lookup label).getD [] := by
  have members : ∀ ms label, ((byLabel ms).lookup label).getD [] = labelled label ms := by
    intro ms label
    rw [lookup_byLabel]
    split
    · next empty => exact empty.symm
    · rfl
  refine ⟨(arranged_collect ms).symm, lookup_byLabel ms, ?_, ?_, ?_⟩
  · rw [labels_byLabel]
    apply List.filter_congr
    intro l _
    rw [Bool.eq_iff_iff]
    simp [labelled]
  · rw [byLabel, List.flatMap_map]
    exact perm_categorize ms
  · intro more label
    rw [members, members, members]
    exact List.filter_append ms more

end ViewCases.Category
