/-! A step taken for every element of a list stops at the first error, and gives one
result for each element otherwise. -/
namespace ViewCases

variable {α β γ ε : Type}

theorem mapM_eq_ok {f : α → Except ε β} {xs : List α} {ys : List β} (h : xs.mapM f = .ok ys) :
    xs.map f = ys.map .ok := by
  induction xs generalizing ys with
  | nil =>
    cases h
    rfl
  | cons x xs ih =>
    rw [List.mapM_cons] at h
    cases first : f x with
    | error e => rw [first] at h; cases h
    | ok y =>
      cases later : xs.mapM f with
      | error e => rw [first, later] at h; cases h
      | ok others =>
        rw [first, later] at h
        cases h
        rw [List.map_cons, first, ih later]
        rfl

theorem bind_eq_error {x : Except ε α} {f : α → Except ε β} {e : ε}
    (h : (do let a ← x; f a) = .error e) : x = .error e ∨ ∃ a, x = .ok a ∧ f a = .error e := by
  cases x with
  | error d =>
    cases h
    exact .inl rfl
  | ok a => exact .inr ⟨a, rfl, h⟩

theorem eq_ok_of_toOption {x : Except ε α} {a : α} (h : x.toOption = some a) : x = .ok a := by
  cases x with
  | error e => cases h
  | ok b => rw [Option.some.inj h]

theorem mapError_eq_ok_iff {x : Except ε α} {f : ε → γ} {a : α} :
    x.mapError f = .ok a ↔ x = .ok a := by
  cases x with
  | ok b =>
    constructor <;>
    · rintro ⟨⟩
      rfl
  | error d => exact ⟨nofun, nofun⟩

theorem mapError_eq_error_iff {x : Except ε α} {f : ε → γ} {e : γ} :
    x.mapError f = .error e ↔ ∃ d, x = .error d ∧ f d = e := by
  cases x with
  | ok b => exact ⟨nofun, fun ⟨_, bad, _⟩ => nomatch bad⟩
  | error d =>
    constructor
    · exact fun h => ⟨d, rfl, Except.error.inj h⟩
    · rintro ⟨_, ⟨⟩, rfl⟩
      rfl

theorem mapM_append_error {f : α → Except ε β} {xs : List α} {x : α} {e : ε}
    (before : ∀ a ∈ xs, ∃ b, f a = .ok b) (bad : f x = .error e) (ys : List α) :
    (xs ++ x :: ys).mapM f = .error e := by
  induction xs with
  | nil =>
    rw [List.nil_append, List.mapM_cons, bad]
    rfl
  | cons a as ih =>
    obtain ⟨⟨b, first⟩, later⟩ := List.forall_mem_cons.mp before
    rw [List.cons_append, List.mapM_cons, first, ih later]
    rfl

theorem mapM_error_split {f : α → Except ε β} {xs : List α} {e : ε} (h : xs.mapM f = .error e) :
    ∃ before x behind, xs = before ++ x :: behind ∧ (∀ a ∈ before, ∃ b, f a = .ok b) ∧
      f x = .error e := by
  induction xs with
  | nil => cases h
  | cons x xs ih =>
    rw [List.mapM_cons] at h
    rcases bind_eq_error h with first | ⟨y, first, h⟩
    · exact ⟨[], x, xs, rfl, by simp, first⟩
    · rcases bind_eq_error h with later | ⟨ys, -, h⟩
      · obtain ⟨before, z, behind, rfl, good, bad⟩ := ih later
        exact ⟨x :: before, z, behind, rfl, List.forall_mem_cons.mpr ⟨⟨y, first⟩, good⟩, bad⟩
      · cases h

theorem mapM_eq_error {f : α → Except ε β} {xs : List α} {e : ε} (h : xs.mapM f = .error e) :
    ∃ x ∈ xs, f x = .error e := by
  obtain ⟨before, x, behind, rfl, -, bad⟩ := mapM_error_split h
  exact ⟨x, List.mem_append_right before List.mem_cons_self, bad⟩

theorem mapM_eq_error_iff {f : α → Except ε β} {xs : List α} {e : ε} :
    xs.mapM f = .error e ↔ ∃ before x behind, xs = before ++ x :: behind ∧
      (∀ a ∈ before, ∃ b, f a = .ok b) ∧ f x = .error e := by
  refine ⟨mapM_error_split, ?_⟩
  rintro ⟨before, x, behind, rfl, good, bad⟩
  exact mapM_append_error good bad behind

theorem length_mapM {f : α → Except ε β} {xs : List α} {ys : List β} (h : xs.mapM f = .ok ys) :
    ys.length = xs.length := by
  have := congrArg List.length (mapM_eq_ok h)
  simpa using this.symm

theorem ok_of_mem_mapM {f : α → Except ε β} {xs : List α} {ys : List β} (h : xs.mapM f = .ok ys) :
    ∀ x ∈ xs, ∃ y ∈ ys, f x = .ok y := by
  intro x mem
  have inside : f x ∈ ys.map .ok := by
    rw [← mapM_eq_ok h]
    exact List.mem_map_of_mem mem
  obtain ⟨y, hy, eq⟩ := List.mem_map.mp inside
  exact ⟨y, hy, eq.symm⟩

theorem exists_mapM_iff {f : α → Except ε β} {xs : List α} :
    (∃ ys, xs.mapM f = .ok ys) ↔ ∀ x ∈ xs, ∃ y, f x = .ok y := by
  constructor
  · rintro ⟨ys, all⟩ x mem
    obtain ⟨y, -, made⟩ := ok_of_mem_mapM all x mem
    exact ⟨y, made⟩
  · intro each
    cases all : xs.mapM f with
    | ok ys => exact ⟨ys, rfl⟩
    | error e =>
      obtain ⟨x, mem, bad⟩ := mapM_eq_error all
      obtain ⟨y, good⟩ := each x mem
      rw [good] at bad
      cases bad

theorem mem_of_mapM {f : α → Except ε β} {xs : List α} {ys : List β} (h : xs.mapM f = .ok ys) :
    ∀ y ∈ ys, ∃ x ∈ xs, f x = .ok y := by
  intro y mem
  have inside : (.ok y : Except ε β) ∈ xs.map f := by
    rw [mapM_eq_ok h]
    exact List.mem_map_of_mem mem
  exact List.mem_map.mp inside

/-- What each result has in common with its element, all results have with all elements. -/
theorem map_of_mapM {f : α → Except ε β} {p : β → γ} {q : α → γ} {xs : List α} {ys : List β}
    (h : xs.mapM f = .ok ys) (each : ∀ x y, f x = .ok y → p y = q x) : ys.map p = xs.map q := by
  have results := mapM_eq_ok h
  clear h
  induction xs generalizing ys with
  | nil =>
    cases ys with
    | nil => rfl
    | cons y ys => cases results
  | cons x xs ih =>
    cases ys with
    | nil => cases results
    | cons y ys =>
      simp only [List.map_cons, List.cons.injEq] at results ⊢
      exact ⟨each x y results.1, ih results.2⟩

theorem flatMap_of_mapM {f : α → Except ε β} {p : β → List γ} {q : α → List γ} {xs : List α}
    {ys : List β} (h : xs.mapM f = .ok ys) (each : ∀ x y, f x = .ok y → p y = q x) :
    ys.flatMap p = xs.flatMap q := by
  rw [List.flatMap_def, List.flatMap_def, map_of_mapM h each]

theorem mapM_eq_some {f : α → Option β} {xs : List α} {ys : List β} (h : xs.mapM f = some ys) :
    xs.map f = ys.map some := by
  induction xs generalizing ys with
  | nil =>
    cases h
    rfl
  | cons x xs ih =>
    rw [List.mapM_cons] at h
    obtain ⟨y, first, h⟩ := Option.bind_eq_some_iff.mp h
    obtain ⟨others, later, h⟩ := Option.bind_eq_some_iff.mp h
    cases h
    rw [List.map_cons, first, ih later, List.map_cons]

theorem getElem?_of_map_eq {f : α → γ} {g : β → γ} {xs : List α} {ys : List β}
    (h : xs.map f = ys.map g) {i : Nat} {x : α} (here : xs[i]? = some x) :
    ∃ y, ys[i]? = some y ∧ f x = g y := by
  have same := congrArg (·[i]?) h
  simp only [List.getElem?_map, here, Option.map_some] at same
  obtain ⟨y, there, eq⟩ := Option.map_eq_some_iff.mp same.symm
  exact ⟨y, there, eq.symm⟩

theorem mapM_congr {f g : α → Except ε β} {xs : List α} (h : ∀ x ∈ xs, f x = g x) :
    xs.mapM f = xs.mapM g := by
  induction xs with
  | nil => rfl
  | cons x xs ih =>
    obtain ⟨first, later⟩ := List.forall_mem_cons.mp h
    rw [List.mapM_cons, List.mapM_cons, first, ih later]

theorem mapM_mapError {δ : Type} {f : α → Except ε β} {g : α → Except δ β} {k : ε → δ}
    {xs : List α} (h : ∀ x ∈ xs, g x = (f x).mapError k) :
    xs.mapM g = (xs.mapM f).mapError k := by
  induction xs with
  | nil => rfl
  | cons x xs ih =>
    obtain ⟨first, later⟩ := List.forall_mem_cons.mp h
    rw [List.mapM_cons, List.mapM_cons, first, ih later]
    cases f x with
    | error e => rfl
    | ok y =>
      cases xs.mapM f with
      | error e => rfl
      | ok ys => rfl

theorem mapM_map_of_map {f : α → Except ε β} {g : α → α} {k : β → β} {xs : List α}
    (h : ∀ x ∈ xs, f (g x) = (f x).map k) :
    (xs.map g).mapM f = (xs.mapM f).map (List.map k) := by
  induction xs with
  | nil => rfl
  | cons x xs ih =>
    obtain ⟨first, later⟩ := List.forall_mem_cons.mp h
    rw [List.map_cons, List.mapM_cons, List.mapM_cons, first, ih later]
    cases f x with
    | error e => rfl
    | ok y =>
      cases xs.mapM f with
      | error e => rfl
      | ok ys => rfl

end ViewCases
