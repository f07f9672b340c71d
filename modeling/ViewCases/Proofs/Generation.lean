import Mathlib.Data.List.Nodup
import ViewCases.EnumFile
import ViewCases.Proofs.Variant

/-! What stands in the way of a generated file. A group of modifiers has a file exactly if it has
members, its name can name a type, each member can be represented and no two share a case name.
Of several faults the first one counts: the members come before the name, the name before the
types, a type before those behind it, and the tags are compared when every member has a case. -/
namespace ViewCases
open Text

namespace EnumFile
open Variant

theorem clash?_eq_none_iff {seen vs : List Variant} :
    clash? seen vs = none ↔
      (vs.map (·.tag)).Nodup ∧ ∀ v ∈ vs, ∀ u ∈ seen, u.tag ≠ v.tag := by
  induction vs generalizing seen with
  | nil => simp [clash?]
  | cons v vs ih =>
    unfold clash?
    cases found : seen.find? (·.tag = v.tag) with
    | some u =>
      have mem := List.mem_of_find?_eq_some found
      have same : u.tag = v.tag := by simpa using List.find?_some found
      simp only [reduceCtorEq, false_iff]
      rintro ⟨-, apart⟩
      exact apart v List.mem_cons_self u mem same
    | none =>
      have apart : ∀ u ∈ seen, u.tag ≠ v.tag := by simpa using found
      simp only [ih, List.map_cons, List.nodup_cons, List.mem_map, List.mem_append,
        List.mem_singleton, List.forall_mem_cons]
      constructor
      · rintro ⟨distinct, new⟩
        refine ⟨⟨?_, distinct⟩, apart, fun w hw u hu => new w hw u (.inl hu)⟩
        rintro ⟨w, hw, same⟩
        exact new w hw v (.inr rfl) same.symm
      · rintro ⟨⟨fresh, distinct⟩, -, old⟩
        refine ⟨distinct, fun w hw u hu => ?_⟩
        rcases hu with hu | rfl
        · exact old w hw u hu
        · exact fun same => fresh ⟨w, hw, same.symm⟩

theorem clash?_behind_iff {seen vs : List Variant} {u v : Variant}
    (distinct : (seen.map (·.tag)).Nodup) : clash? seen vs = some (u, v) ↔
      ∃ before behind, vs = before ++ v :: behind ∧
        ((seen ++ before).map (·.tag)).Nodup ∧ u ∈ seen ++ before ∧ u.tag = v.tag := by
  -- The search moves one variant after another into `seen`, so `seen` is general.
  induction vs generalizing seen with
  | nil => simp [clash?]
  | cons w ws ih =>
    unfold clash?
    cases found : seen.find? (·.tag = w.tag) with
    | some first =>
      have mem := List.mem_of_find?_eq_some found
      have same : first.tag = w.tag := by simpa using List.find?_some found
      constructor
      · intro h
        cases h
        exact ⟨[], ws, rfl, by simpa using distinct, by simpa using mem, same⟩
      · rintro ⟨before, behind, split, apart, inside, eq⟩
        cases before with
        | nil =>
          cases split
          rw [List.append_nil] at inside
          rw [List.inj_on_of_nodup_map distinct mem inside (same.trans eq.symm)]
        | cons x before =>
          cases split
          rw [List.map_append, List.nodup_append] at apart
          exact absurd same (apart.2.2 _ (List.mem_map_of_mem mem) _ List.mem_cons_self)
    | none =>
      have fresh : ∀ x ∈ seen, x.tag ≠ w.tag := by simpa using found
      have longer : ((seen ++ [w]).map (·.tag)).Nodup := by
        rw [List.map_append, List.nodup_append]
        refine ⟨distinct, List.nodup_singleton _, ?_⟩
        intro a ha b hb
        obtain ⟨x, mem, rfl⟩ := List.mem_map.mp ha
        rw [List.mem_singleton.mp hb]
        exact fresh x mem
      rw [ih longer]
      constructor
      · rintro ⟨before, behind, rfl, rest⟩
        refine ⟨w :: before, behind, rfl, ?_⟩
        simpa using rest
      · rintro ⟨before, behind, split, apart, inside, eq⟩
        cases before with
        | nil =>
          cases split
          rw [List.append_nil] at inside
          exact absurd eq (fresh u inside)
        | cons x before =>
          cases split
          exact ⟨before, behind, rfl, by simpa using apart, by simpa using inside, eq⟩

theorem clash?_eq_some_iff {vs : List Variant} {u v : Variant} : clash? [] vs = some (u, v) ↔
    ∃ before behind, vs = before ++ v :: behind ∧ (before.map (·.tag)).Nodup ∧ u ∈ before ∧
      u.tag = v.tag := by
  rw [clash?_behind_iff (by simp)]
  rfl

def tags (ms : List Modifier) : List Text := ms.map fun m => Identifier.variantTag m.name

theorem variantOf_eq_ok {d : Int} {m : Modifier} {r : Variant × List Text}
    (h : variantOf d m = .ok r) : Variant.ofModifier d m = .ok r := by
  unfold variantOf at h
  cases made : Variant.ofModifier d m with
  | error o =>
    rw [made] at h
    cases h
  | ok r' =>
    rw [made] at h
    cases h
    rfl

theorem tags_of_built {d : Int} {ms : List Modifier} {built : List (Variant × List Text)}
    (h : ms.mapM (variantOf d) = .ok built) : (built.map (·.1)).map (·.tag) = tags ms := by
  rw [List.map_map]
  exact map_of_mapM h fun m r made => (Variant.ofModifier_ok (variantOf_eq_ok made)).2.1

theorem modifiers_of_built {d : Int} {ms : List Modifier} {built : List (Variant × List Text)}
    (h : ms.mapM (variantOf d) = .ok built) : (built.map (·.1)).map (·.modifier) = ms := by
  rw [List.map_map]
  have same := map_of_mapM (p := (·.1.modifier)) (q := id) h fun m r made =>
    (Variant.ofModifier_ok (variantOf_eq_ok made)).1
  rwa [List.map_id] at same

theorem exists_variantOf_iff {d : Int} {m : Modifier} :
    (∃ r, variantOf d m = .ok r) ↔ Representable m := by
  rw [← exists_ofModifier_iff (d := d), variantOf]
  cases ofModifier d m with
  | ok r => simp
  | error o => simp

theorem variantOf_error_iff {d : Int} {m : Modifier} {e : GenerationError} :
    variantOf d m = .error e ↔ ∃ o, FirstObstacle m o ∧ e = .unsupported m.name o := by
  simp only [← ofModifier_error_iff (d := d), variantOf]
  cases ofModifier d m with
  | ok r => simp
  | error o => simp [eq_comm]

theorem named_of_built {d : Int} {ms : List Modifier} {built : List (Variant × List Text)}
    (made : ms.mapM (variantOf d) = .ok built) :
    ∀ v ∈ built.map (·.1), v.tag = Identifier.variantTag v.modifier.name := by
  intro v mem
  obtain ⟨r, inside, rfl⟩ := List.mem_map.mp mem
  obtain ⟨n, -, one⟩ := mem_of_mapM made r inside
  obtain ⟨modifier, tag, -⟩ := ofModifier_ok (variantOf_eq_ok one)
  rw [tag, modifier]

/-- What can be wrong with a group of modifiers under a name. -/
inductive Blocks (name : Text) (ms : List Modifier) : GenerationError → Prop
  | noModifiers : ms = [] → Blocks name ms (.noModifiers name)
  | invalidName : Identifier.isValidTypeName name = false → Blocks name ms (.invalidName name)
  | unsupported (m : Modifier) (o : Obstacle) : m ∈ ms → Hinders m o →
      Blocks name ms (.unsupported m.name o)
  | duplicateCase (tag first second : Text) : ¬(tags ms).Nodup →
      Blocks name ms (.duplicateCase name tag first second)

/-- The fault that decides how generation fails. -/
inductive FirstFault (name : Text) (ms : List Modifier) : GenerationError → Prop
  | noModifiers : ms = [] → FirstFault name ms (.noModifiers name)
  | invalidName : ms ≠ [] → Identifier.isValidTypeName name = false →
      FirstFault name ms (.invalidName name)
  | unsupported (before behind : List Modifier) (m : Modifier) (o : Obstacle) :
      Identifier.isValidTypeName name = true → ms = before ++ m :: behind →
      (∀ n ∈ before, Variant.Representable n) → FirstObstacle m o →
      FirstFault name ms (.unsupported m.name o)
  | duplicateCase (before behind : List Modifier) (first m : Modifier) :
      Identifier.isValidTypeName name = true → (∀ n ∈ ms, Variant.Representable n) →
      ms = before ++ m :: behind → (tags before).Nodup → first ∈ before →
      Identifier.variantTag first.name = Identifier.variantTag m.name →
      FirstFault name ms (.duplicateCase name (Identifier.variantTag m.name)
        first.callSignature m.callSignature)

def clashError (name : Text) (u v : Variant) : GenerationError :=
  .duplicateCase name v.tag u.modifier.callSignature v.modifier.callSignature

variable {options : Options} {name : Text} {ms : List Modifier}

def file (options : Options) (name : Text) (built : List (Variant × List Text)) : EnumFile where
  fileName := name ++ options.fileExtension
  source := render options.emitDefaultValues name (built.map (·.1))
  caseCount := (built.map (·.1)).length
  warnings := built.flatMap (·.2)
  errors := []

theorem file_source (built : List (Variant × List Text)) : (file options name built).source =
    render options.emitDefaultValues name (built.map (·.1)) := rfl

theorem generate_eq (inhabited : ms ≠ []) (valid : Identifier.isValidTypeName name = true) :
    generate options name ms = (do
      let built ← ms.mapM (variantOf options.maxTypeDepth)
      match clash? [] (built.map (·.1)) with
      | some (first, second) => .error (clashError name first second)
      | none => .ok (file options name built)) := by
  have some : ms.isEmpty = false := by simpa using inhabited
  simp only [generate, some, valid]
  rfl

theorem generate_eq_ok_iff {f : EnumFile} : generate options name ms = .ok f ↔
    ms ≠ [] ∧ Identifier.isValidTypeName name = true ∧
      ∃ built, ms.mapM (variantOf options.maxTypeDepth) = .ok built ∧
        clash? [] (built.map (·.1)) = none ∧ f = file options name built := by
  unfold generate
  split
  · next empty =>
    have none : ms = [] := by simpa using empty
    simp [none]
  · next inhabited =>
    have some : ms ≠ [] := by simpa using inhabited
    split
    · next invalid =>
      have not : Identifier.isValidTypeName name = false := by simpa using invalid
      simp [not]
    · next valid =>
      have valid : Identifier.isValidTypeName name = true := by simpa using valid
      simp only [some, ne_eq, not_false_eq_true, valid, true_and]
      cases made : ms.mapM (variantOf options.maxTypeDepth) with
      | error e => simp [bind, Except.bind]
      | ok built =>
        cases clash : clash? [] (built.map (·.1)) with
        | some pair => simp [bind, Except.bind, clash]
        | none =>
          simp only [bind, Except.bind, clash, Except.ok.injEq, exists_eq_left', true_and]
          change Except.ok (file options name built) = .ok f ↔ _
          rw [Except.ok.injEq]
          exact eq_comm

theorem cases_of_generate {f : EnumFile} (h : generate options name ms = .ok f) :
    ∃ vs, f.source = render options.emitDefaultValues name vs ∧ vs.map (·.modifier) = ms ∧
      vs.map (·.tag) = tags ms := by
  obtain ⟨-, -, built, made, -, eq⟩ := generate_eq_ok_iff.mp h
  refine ⟨built.map (·.1), ?_, modifiers_of_built made, tags_of_built made⟩
  rw [eq, file_source]

theorem exists_generate_iff : (∃ f, generate options name ms = .ok f) ↔
    ms ≠ [] ∧ Identifier.isValidTypeName name = true ∧ (∀ m ∈ ms, Representable m) ∧
      (tags ms).Nodup := by
  simp only [generate_eq_ok_iff, ← exists_variantOf_iff (d := options.maxTypeDepth),
    ← exists_mapM_iff]
  constructor
  · rintro ⟨f, inhabited, valid, built, made, clash, -⟩
    have distinct := (clash?_eq_none_iff.mp clash).1
    rw [tags_of_built made] at distinct
    exact ⟨inhabited, valid, ⟨built, made⟩, distinct⟩
  · rintro ⟨inhabited, valid, ⟨built, made⟩, distinct⟩
    rw [← tags_of_built made] at distinct
    exact ⟨_, inhabited, valid, built, made, clash?_eq_none_iff.mpr ⟨distinct, by simp⟩, rfl⟩

theorem clashError_iff {d : Int} {built : List (Variant × List Text)}
    (made : ms.mapM (variantOf d) = .ok built) {e : GenerationError} :
    (∃ u v, clash? [] (built.map (·.1)) = some (u, v) ∧ e = clashError name u v) ↔
      ∃ before behind first m, ms = before ++ m :: behind ∧ (tags before).Nodup ∧
        first ∈ before ∧ Identifier.variantTag first.name = Identifier.variantTag m.name ∧
        e = .duplicateCase name (Identifier.variantTag m.name) first.callSignature
          m.callSignature := by
  have named := named_of_built made
  have modifiers := modifiers_of_built made
  generalize built.map (·.1) = vs at named modifiers
  have tagged : ∀ us ⊆ vs, us.map (·.tag) = tags (us.map (·.modifier)) := by
    intro us sub
    rw [tags, List.map_map]
    exact List.map_congr_left fun v mem => named v (sub mem)
  subst modifiers
  constructor
  · rintro ⟨u, v, clash, rfl⟩
    obtain ⟨before, behind, rfl, apart, inside, same⟩ := clash?_eq_some_iff.mp clash
    have sub : before ⊆ before ++ v :: behind := List.subset_append_left _ _
    have tagU := named u (sub inside)
    have tagV := named v (by simp)
    refine ⟨before.map (·.modifier), behind.map (·.modifier), u.modifier, v.modifier, by simp,
      ?_, List.mem_map_of_mem inside, ?_, ?_⟩
    · rwa [← tagged before sub]
    · rwa [← tagU, ← tagV]
    · rw [clashError, tagV]
  · rintro ⟨before, behind, first, m, split, apart, inside, same, rfl⟩
    obtain ⟨us, rest, rfl, rfl, cons⟩ := List.map_eq_append_iff.mp split
    obtain ⟨v, ws, rfl, rfl, rfl⟩ := List.map_eq_cons_iff.mp cons
    obtain ⟨u, mem, rfl⟩ := List.mem_map.mp inside
    have sub : us ⊆ us ++ v :: ws := List.subset_append_left _ _
    have tagU := named u (sub mem)
    have tagV := named v (by simp)
    refine ⟨u, v, clash?_eq_some_iff.mpr ⟨us, ws, rfl, ?_, mem, ?_⟩, ?_⟩
    · rwa [tagged us sub]
    · rwa [tagU, tagV]
    · rw [clashError, tagV]

theorem firstFault_of_generate {e : GenerationError} (h : generate options name ms = .error e) :
    FirstFault name ms e := by
  by_cases inhabited : ms = []
  · subst inhabited
    cases h
    exact .noModifiers rfl
  · cases valid : Identifier.isValidTypeName name with
    | false =>
      have some : ms.isEmpty = false := by simpa using inhabited
      simp only [generate, some, valid] at h
      cases h
      exact .invalidName inhabited valid
    | true =>
      rw [generate_eq inhabited valid] at h
      rcases bind_eq_error h with failed | ⟨built, made, h⟩
      · obtain ⟨before, m, behind, split, good, bad⟩ := mapM_eq_error_iff.mp failed
        obtain ⟨o, obstacle, rfl⟩ := variantOf_error_iff.mp bad
        exact .unsupported before behind m o valid split
          (fun n mem => exists_variantOf_iff.mp (good n mem)) obstacle
      · cases clash : clash? [] (built.map (·.1)) with
        | none =>
          simp only [clash] at h
          cases h
        | some pair =>
          obtain ⟨u, v⟩ := pair
          simp only [clash] at h
          cases h
          obtain ⟨before, behind, first, m, split, apart, inside, same, eq⟩ :=
            (clashError_iff made).mp ⟨u, v, clash, rfl⟩
          rw [eq]
          exact .duplicateCase before behind first m valid
            (fun n mem => exists_variantOf_iff.mp (exists_mapM_iff.mp ⟨built, made⟩ n mem))
            split apart inside same

theorem generate_of_firstFault {e : GenerationError} (h : FirstFault name ms e) :
    generate options name ms = .error e := by
  cases h with
  | noModifiers empty =>
    subst empty
    rfl
  | invalidName inhabited invalid =>
    have some : ms.isEmpty = false := by simpa using inhabited
    simp only [generate, some, invalid]
    rfl
  | unsupported before behind m o valid split good bad =>
    have failed : ms.mapM (variantOf options.maxTypeDepth) = .error (.unsupported m.name o) :=
      mapM_eq_error_iff.mpr ⟨before, m, behind, split,
        fun n mem => exists_variantOf_iff.mpr (good n mem),
        variantOf_error_iff.mpr ⟨o, bad, rfl⟩⟩
    rw [generate_eq (by simp [split]) valid, failed]
    rfl
  | duplicateCase before behind first m valid good split apart inside same =>
    have each : ∀ n ∈ ms, ∃ r, variantOf options.maxTypeDepth n = .ok r := fun n mem =>
      exists_variantOf_iff.mpr (good n mem)
    obtain ⟨built, made⟩ := exists_mapM_iff.mpr each
    obtain ⟨u, v, clash, eq⟩ :=
      (clashError_iff made).mpr ⟨before, behind, first, m, split, apart, inside, same, rfl⟩
    rw [generate_eq (by simp [split]) valid, made, eq]
    simp only [bind, Except.bind, clash]

theorem FirstFault.blocks {e : GenerationError} (h : FirstFault name ms e) :
    Blocks name ms e := by
  cases h with
  | noModifiers empty => exact .noModifiers empty
  | invalidName _ invalid => exact .invalidName invalid
  | unsupported before behind m o _ split _ obstacle =>
    exact .unsupported m o (by simp [split]) obstacle.hinders
  | duplicateCase before behind first m _ _ split _ inside same =>
    apply Blocks.duplicateCase
    rw [split, tags, List.map_append, List.nodup_append]
    rintro ⟨-, -, apart⟩
    exact apart _ (List.mem_map_of_mem inside) _ List.mem_cons_self same

theorem blocks_of_generate {e : GenerationError} (h : generate options name ms = .error e) :
    Blocks name ms e :=
  (firstFault_of_generate h).blocks

theorem generate_ok {f : EnumFile} (h : generate options name ms = .ok f) :
    f.caseCount = ms.length ∧ f.isSuccessful = true ∧ ∀ e, ¬Blocks name ms e := by
  obtain ⟨inhabited, valid, representable, distinct⟩ := exists_generate_iff.mp ⟨f, h⟩
  obtain ⟨-, -, built, made, -, rfl⟩ := generate_eq_ok_iff.mp h
  refine ⟨by simp [file, length_mapM made], rfl, ?_⟩
  intro e blocks
  cases blocks with
  | noModifiers empty => exact inhabited empty
  | invalidName invalid => simp [invalid] at valid
  | unsupported m o mem hinders => exact (representable m mem).free o hinders
  | duplicateCase tag first second repeated => exact repeated distinct

theorem generate_hindered {m : Modifier} {o : Obstacle}
    (valid : Identifier.isValidTypeName name = true) (mem : m ∈ ms) (hinders : Hinders m o) :
    ∃ n ∈ ms, ∃ o, Hinders n o ∧ generate options name ms = .error (.unsupported n.name o) := by
  cases made : generate options name ms with
  | ok f =>
    have representable := (exists_generate_iff.mp ⟨f, made⟩).2.2.1 m mem
    exact absurd hinders (representable.free o)
  | error e =>
    cases firstFault_of_generate made with
    | noModifiers empty => simp [empty] at mem
    | invalidName _ invalid => simp [invalid] at valid
    | unsupported before behind n o _ split _ obstacle =>
      exact ⟨n, by simp [split], o, obstacle.hinders, rfl⟩
    | duplicateCase _ _ _ _ _ representable =>
      exact absurd hinders ((representable m mem).free o)

theorem generate_alone_error {m : Modifier} {o : Obstacle}
    (valid : Identifier.isValidTypeName name = true)
    (failed : ofModifier options.maxTypeDepth m = .error o) :
    generate options name [m] = .error (.unsupported m.name o) :=
  generate_of_firstFault (.unsupported [] [] m o valid rfl (List.forall_mem_nil _)
    (ofModifier_error_iff.mp failed))

theorem generate_alone {m : Modifier} (valid : Identifier.isValidTypeName name = true)
    (free : ∀ o, ¬Hinders m o) : ∃ f, generate options name [m] = .ok f :=
  exists_generate_iff.mpr ⟨List.cons_ne_nil m [], valid,
    by simpa using representable_iff_free.mpr free, by simp [tags]⟩

end EnumFile

end ViewCases
