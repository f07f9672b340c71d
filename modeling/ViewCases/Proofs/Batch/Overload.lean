import ViewCases.Batch
import ViewCases.Proofs.Generation

/-! The overloads of a group. A modifier stays if no earlier one has its case name, and the
others are left out, each with the first modifier that has its name. The division in one
pass keeps only the first ones in mind; they answer for all the modifiers before. -/
namespace ViewCases.Group
open Text EnumFile

def earlier? (before : List Modifier) (m : Modifier) : Option Modifier :=
  before.find? fun first => Identifier.variantTag first.name = Identifier.variantTag m.name

/-- The modifiers whose case name none before them has. -/
def firsts (ms : List Modifier) : List Modifier :=
  (ms.zipIdx.filter fun (m, i) => (earlier? (ms.take i) m).isNone).map Prod.fst

/-- The other modifiers, each with the first one of its case name. -/
def overloads (c : Category) (ms : List Modifier) : List Skipped :=
  ms.zipIdx.filterMap fun (m, i) => (earlier? (ms.take i) m).map (⟨m, .overloadOf · c⟩)

theorem earlier?_append (before : List Modifier) (m x : Modifier) :
    earlier? (before ++ [m]) x = (earlier? before x).or (earlier? [m] x) := by
  simp [earlier?, List.find?_append]

theorem earlier?_append_of_some {before : List Modifier} {m first : Modifier}
    (h : earlier? before m = some first) (x : Modifier) :
    earlier? (before ++ [m]) x = earlier? before x := by
  rw [earlier?_append]
  by_cases same : Identifier.variantTag m.name = Identifier.variantTag x.name
  · have found : earlier? before x = some first := by
      rw [← h, earlier?, earlier?, same]
    rw [found, Option.some_or]
  · have absent : earlier? [m] x = none := by simp [earlier?, same]
    rw [absent, Option.or_none]

theorem deduplicate_of_some (c : Category) {seen : List Modifier} {m first : Modifier}
    (h : earlier? seen m = some first) (ms : List Modifier) :
    deduplicate c seen (m :: ms) =
      ((deduplicate c seen ms).1, ⟨m, .overloadOf first c⟩ :: (deduplicate c seen ms).2) := by
  unfold earlier? at h
  rw [deduplicate, h]

theorem deduplicate_of_none (c : Category) {seen : List Modifier} {m : Modifier}
    (h : earlier? seen m = none) (ms : List Modifier) :
    deduplicate c seen (m :: ms) =
      (m :: (deduplicate c (seen ++ [m]) ms).1, (deduplicate c (seen ++ [m]) ms).2) := by
  unfold earlier? at h
  rw [deduplicate, h]

/-- Dividing what stands behind `before`. The modifiers `seen` need only find the same first
ones as all of `before`. -/
theorem deduplicate_behind (c : Category) (ms seen before : List Modifier)
    (same : ∀ x, earlier? seen x = earlier? before x) :
    deduplicate c seen ms =
      (((ms.zipIdx before.length).filter fun (m, i) =>
          (earlier? ((before ++ ms).take i) m).isNone).map Prod.fst,
        (ms.zipIdx before.length).filterMap fun (m, i) =>
          (earlier? ((before ++ ms).take i) m).map (⟨m, .overloadOf · c⟩)) := by
  induction ms generalizing seen before with
  | nil => rfl
  | cons m ms ih =>
    have here : (before ++ m :: ms).take before.length = before := List.take_left
    have later : before ++ m :: ms = (before ++ [m]) ++ ms := by simp
    have next : before.length + 1 = (before ++ [m]).length := by simp
    simp only [List.zipIdx_cons, List.filter_cons, List.filterMap_cons, here]
    cases found : earlier? before m with
    | some first =>
      have others := ih seen (before ++ [m]) fun x => by
        rw [same x, earlier?_append_of_some found x]
      rw [deduplicate_of_some c ((same m).trans found), others, later, next]
      rfl
    | none =>
      have others := ih (seen ++ [m]) (before ++ [m]) fun x => by
        rw [earlier?_append, earlier?_append, same x]
      rw [deduplicate_of_none c ((same m).trans found), others, later, next]
      rfl

theorem deduplicate_eq (c : Category) (ms : List Modifier) :
    deduplicate c [] ms = (firsts ms, overloads c ms) :=
  deduplicate_behind c ms [] [] fun _ => rfl

theorem length_deduplicate (c : Category) (seen ms : List Modifier) :
    (deduplicate c seen ms).1.length + (deduplicate c seen ms).2.length = ms.length := by
  induction ms generalizing seen with
  | nil => rfl
  | cons m ms ih =>
    cases found : earlier? seen m with
    | some first =>
      have := ih seen
      rw [deduplicate_of_some c found]
      simp only [List.length_cons]
      omega
    | none =>
      have := ih (seen ++ [m])
      rw [deduplicate_of_none c found]
      simp only [List.length_cons]
      omega

theorem nodup_deduplicate (c : Category) (seen ms : List Modifier) :
    (tags (deduplicate c seen ms).1).Nodup ∧
      ∀ m ∈ (deduplicate c seen ms).1, earlier? seen m = none := by
  induction ms generalizing seen with
  | nil => simp [deduplicate, tags]
  | cons m ms ih =>
    cases found : earlier? seen m with
    | some first =>
      rw [deduplicate_of_some c found]
      exact ih seen
    | none =>
      obtain ⟨distinct, new⟩ := ih (seen ++ [m])
      have apart : ∀ x ∈ (deduplicate c (seen ++ [m]) ms).1,
          earlier? seen x = none ∧ earlier? [m] x = none := by
        intro x hx
        have := new x hx
        rw [earlier?_append, Option.or_eq_none_iff] at this
        exact this
      rw [deduplicate_of_none c found]
      constructor
      · simp only [tags, List.map_cons, List.nodup_cons, List.mem_map]
        refine ⟨?_, distinct⟩
        rintro ⟨x, hx, same⟩
        have := (apart x hx).2
        simp [earlier?, same] at this
      · simp only [List.forall_mem_cons]
        exact ⟨found, fun x hx => (apart x hx).1⟩

theorem deduplicate_ne_nil (c : Category) {ms : List Modifier} (h : ms ≠ []) :
    (deduplicate c [] ms).1 ≠ [] := by
  cases ms with
  | nil => exact absurd rfl h
  | cons m ms =>
    rw [deduplicate_of_none c rfl]
    exact List.cons_ne_nil _ _

end ViewCases.Group
