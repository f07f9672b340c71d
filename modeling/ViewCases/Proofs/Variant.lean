import ViewCases.Variant
import ViewCases.Proofs.Outcome

/-! What stands in the way of a case. A modifier has one unless an obstacle holds, and of several
obstacles the first one is named: a generic parameter list, then the return type, then the
parameters in order. -/
namespace ViewCases
open Text

theorem PayloadIssue.ofType?_eq (t : TypeExpr) : ofType? t =
    if ("some " : Text).isPrefixOf t.baseName then some .isOpaque
    else if ("inout " : Text).isPrefixOf t.baseName then some .isInout
    else none := by
  cases t <;> rfl

/-- What stands at the head of a type, below any optional marks, and cannot be stored. -/
inductive PayloadIssue.AtHead (e : TypeExpr) : PayloadIssue → Prop
  | isOpaque : ("some " : Text) <+: e.baseName → AtHead e .isOpaque
  | isInout : ("inout " : Text) <+: e.baseName → AtHead e .isInout

theorem PayloadIssue.ofType?_eq_some_iff {e : TypeExpr} {issue : PayloadIssue} :
    ofType? e = some issue ↔ AtHead e issue := by
  rw [ofType?_eq]
  constructor
  · intro h
    split at h
    · next hit =>
      cases h
      exact .isOpaque (List.isPrefixOf_iff_prefix.mp hit)
    · split at h
      · next hit =>
        cases h
        exact .isInout (List.isPrefixOf_iff_prefix.mp hit)
      · cases h
  · rintro (hit | hit)
    · rw [if_pos (List.isPrefixOf_iff_prefix.mpr hit)]
    · obtain ⟨rest, eq⟩ := hit
      rw [← eq]
      rfl

theorem PayloadIssue.ofType?_eq_none_iff {e : TypeExpr} :
    ofType? e = none ↔ ∀ issue, ¬AtHead e issue := by
  simp only [← ofType?_eq_some_iff, ← ne_eq, ← Option.eq_none_iff_forall_ne_some]

namespace Variant

theorem readType_ok {t : Text} {e : TypeExpr} (h : readType t = .ok e) :
    TypeExpr.parse t = .ok e := by
  unfold readType at h
  cases read : TypeExpr.parse t with
  | ok e' =>
    rw [read] at h
    cases h
    rfl
  | error u =>
    rw [read] at h
    cases h

theorem readType_error {t : Text} {o : Obstacle} (h : readType t = .error o) :
    ∃ u, TypeExpr.parse t = .error u ∧ o = .unreadable t u.reason := by
  unfold readType at h
  cases read : TypeExpr.parse t with
  | ok e =>
    rw [read] at h
    cases h
  | error u =>
    rw [read] at h
    cases h
    exact ⟨u, rfl, rfl⟩

theorem exists_readType_iff {t : Text} :
    (∃ e, readType t = .ok e) ↔ ∃ e, TypeExpr.parse t = .ok e := by
  constructor
  · rintro ⟨e, read⟩
    exact ⟨e, readType_ok read⟩
  · rintro ⟨e, read⟩
    exact ⟨e, by rw [readType, read]⟩

def Storable (p : Parameter) : Prop :=
  ∃ e, TypeExpr.parse p.type = .ok e ∧ PayloadIssue.ofType? e = none

theorem Storable.issue {p : Parameter} (h : Storable p) :
    ∀ e, TypeExpr.parse p.type = .ok e → PayloadIssue.ofType? e = none := by
  intro e read
  obtain ⟨e', read', good⟩ := h
  cases read'.symm.trans read
  exact good

theorem storable_iff {p : Parameter} : Storable p ↔
    ∃ e, TypeExpr.parse p.type = .ok e ∧ ∀ issue, ¬PayloadIssue.AtHead e issue := by
  simp only [Storable, PayloadIssue.ofType?_eq_none_iff]

/-- What is wrong with a parameter that cannot be stored. -/
inductive ParameterFault (p : Parameter) : Obstacle → Prop
  | unreadable (u : TypeExpr.Unresolved) : TypeExpr.parse p.type = .error u →
      ParameterFault p (.unreadable p.type u.reason)
  | notStorable (e : TypeExpr) (issue : PayloadIssue) : TypeExpr.parse p.type = .ok e →
      issue.AtHead e → ParameterFault p (.notStorable p.type issue)

theorem fieldOf_eq {d : Int} {m : Modifier} {p : Parameter} {e : TypeExpr}
    (read : TypeExpr.parse p.type = .ok e) : fieldOf d m p =
      match PayloadIssue.ofType? e with
      | some issue => .error (.notStorable p.type issue)
      | none => .ok (⟨p, e.payloadText⟩, warnings d m p e) := by
  have readable : readType p.type = .ok e := by rw [readType, read]
  rw [fieldOf, readable]
  rfl

theorem fieldOf_ok {d : Int} {m : Modifier} {p : Parameter} {f : Field × List Text}
    (h : fieldOf d m p = .ok f) :
    ∃ e, TypeExpr.parse p.type = .ok e ∧ PayloadIssue.ofType? e = none ∧
      f.1 = ⟨p, e.payloadText⟩ := by
  unfold fieldOf at h
  cases read : readType p.type with
  | error o =>
    rw [read] at h
    cases h
  | ok e =>
    cases issue : PayloadIssue.ofType? e with
    | none =>
      simp only [read, bind, Except.bind, issue] at h
      cases h
      exact ⟨e, readType_ok read, issue, rfl⟩
    | some i =>
      simp only [read, bind, Except.bind, issue] at h
      cases h

theorem exists_fieldOf {d : Int} {m : Modifier} {p : Parameter} (h : Storable p) :
    ∃ f, fieldOf d m p = .ok f := by
  obtain ⟨e, read, good⟩ := h
  rw [fieldOf_eq read, good]
  exact ⟨_, rfl⟩

theorem exists_fieldOf_iff {d : Int} {m : Modifier} {p : Parameter} :
    (∃ f, fieldOf d m p = .ok f) ↔ Storable p := by
  refine ⟨?_, exists_fieldOf⟩
  rintro ⟨f, made⟩
  obtain ⟨e, read, good, -⟩ := fieldOf_ok made
  exact ⟨e, read, good⟩

theorem fieldOf_error_iff {d : Int} {m : Modifier} {p : Parameter} {o : Obstacle} :
    fieldOf d m p = .error o ↔ ParameterFault p o := by
  constructor
  · intro h
    cases read : TypeExpr.parse p.type with
    | error u =>
      have unread : readType p.type = .error (.unreadable p.type u.reason) := by
        rw [readType, read]
      rw [fieldOf, unread] at h
      cases h
      exact .unreadable u read
    | ok e =>
      rw [fieldOf_eq read] at h
      cases head : PayloadIssue.ofType? e with
      | none =>
        rw [head] at h
        cases h
      | some issue =>
        rw [head] at h
        cases h
        exact .notStorable e issue read (PayloadIssue.ofType?_eq_some_iff.mp head)
  · rintro (⟨u, read⟩ | ⟨e, issue, read, head⟩)
    · have unread : readType p.type = .error (.unreadable p.type u.reason) := by
        rw [readType, read]
      rw [fieldOf, unread]
      rfl
    · rw [fieldOf_eq read, PayloadIssue.ofType?_eq_some_iff.mpr head]

/-- A modifier that an enum can have a case for. -/
structure Representable (m : Modifier) : Prop where
  plain : m.isGeneric = false
  result : ∃ e, TypeExpr.parse m.returnType = .ok e
  parameters : ∀ p ∈ m.parameters,
    ∃ e, TypeExpr.parse p.type = .ok e ∧ ∀ issue, ¬PayloadIssue.AtHead e issue

/-- The obstacle that is met first: a generic parameter list, then the return type, then the
first parameter that cannot be stored. -/
inductive FirstObstacle (m : Modifier) : Obstacle → Prop
  | generic : m.isGeneric = true → FirstObstacle m (.isGeneric m.genericParameters)
  | result (u : TypeExpr.Unresolved) : m.isGeneric = false →
      TypeExpr.parse m.returnType = .error u →
      FirstObstacle m (.unreadable m.returnType u.reason)
  | parameter (before behind : List Parameter) (p : Parameter) (o : Obstacle) :
      m.isGeneric = false → (∃ e, TypeExpr.parse m.returnType = .ok e) →
      m.parameters = before ++ p :: behind → (∀ q ∈ before, Storable q) → ParameterFault p o →
      FirstObstacle m o

theorem ofModifier_eq_ok {d : Int} {m : Modifier} {r : Variant × List Text}
    (h : ofModifier d m = .ok r) :
    m.isGeneric = false ∧ (∃ e, readType m.returnType = .ok e) ∧
      ∃ fs, m.parameters.mapM (fieldOf d m) = .ok fs ∧
        r = (⟨m, Identifier.variantTag m.name, fs.map (·.1)⟩, fs.flatMap (·.2)) := by
  unfold ofModifier at h
  cases generic : m.isGeneric with
  | true =>
    rw [generic] at h
    cases h
  | false =>
    cases result : readType m.returnType with
    | error o =>
      rw [generic, result] at h
      cases h
    | ok e =>
      cases fields : m.parameters.mapM (fieldOf d m) with
      | error o =>
        rw [generic, result, fields] at h
        cases h
      | ok fs =>
        rw [generic, result, fields] at h
        cases h
        exact ⟨rfl, ⟨e, rfl⟩, fs, rfl, rfl⟩

theorem exists_ofModifier_iff {d : Int} {m : Modifier} :
    (∃ r, ofModifier d m = .ok r) ↔ Representable m := by
  constructor
  · rintro ⟨r, made⟩
    obtain ⟨plain, result, fs, fields, -⟩ := ofModifier_eq_ok made
    have each := exists_mapM_iff.mp ⟨fs, fields⟩
    exact ⟨plain, exists_readType_iff.mp result, fun p mem =>
      storable_iff.mp (exists_fieldOf_iff.mp (each p mem))⟩
  · rintro ⟨plain, result, parameters⟩
    obtain ⟨e, readable⟩ := exists_readType_iff.mpr result
    obtain ⟨fs, fields⟩ := exists_mapM_iff.mpr fun p mem =>
      exists_fieldOf (d := d) (m := m) (storable_iff.mpr (parameters p mem))
    simp only [ofModifier, plain, readable, fields]
    exact ⟨_, rfl⟩

theorem ofModifier_error_iff {d : Int} {m : Modifier} {o : Obstacle} :
    ofModifier d m = .error o ↔ FirstObstacle m o := by
  constructor
  · intro h
    unfold ofModifier at h
    cases plain : m.isGeneric with
    | true =>
      rw [plain] at h
      cases h
      exact .generic plain
    | false =>
      rw [plain] at h
      rcases bind_eq_error h with unread | ⟨e, read, h⟩
      · obtain ⟨u, failed, rfl⟩ := readType_error unread
        exact .result u plain failed
      · rcases bind_eq_error h with failed | ⟨_, _, ⟨⟩⟩
        obtain ⟨before, p, behind, split, good, bad⟩ := mapM_eq_error_iff.mp failed
        exact .parameter before behind p o plain ⟨e, readType_ok read⟩ split
          (fun q mem => exists_fieldOf_iff.mp (good q mem)) (fieldOf_error_iff.mp bad)
  · intro h
    cases h with
    | generic generic =>
      rw [ofModifier, generic]
      rfl
    | result u plain unread =>
      have failed : readType m.returnType = .error (.unreadable m.returnType u.reason) := by
        rw [readType, unread]
      rw [ofModifier, plain, failed]
      rfl
    | parameter before behind p o plain result split good bad =>
      obtain ⟨e, readable⟩ := exists_readType_iff.mpr result
      have fields : m.parameters.mapM (fieldOf d m) = .error o :=
        mapM_eq_error_iff.mpr ⟨before, p, behind, split,
          fun q mem => exists_fieldOf (good q mem), fieldOf_error_iff.mpr bad⟩
      rw [ofModifier, plain, readable, fields]
      rfl

end Variant

def Modifier.typeTexts (m : Modifier) : List Text :=
  m.returnType :: m.parameters.map (·.type)

/-- The obstacles that a modifier has, whether or not another one is met first. -/
inductive Hinders (m : Modifier) : Obstacle → Prop
  | generic : m.isGeneric = true → Hinders m (.isGeneric m.genericParameters)
  | unreadable (t : Text) (u : TypeExpr.Unresolved) : t ∈ m.typeTexts →
      TypeExpr.parse t = .error u → Hinders m (.unreadable t u.reason)
  | notStorable (p : Parameter) (e : TypeExpr) (issue : PayloadIssue) : p ∈ m.parameters →
      TypeExpr.parse p.type = .ok e → PayloadIssue.ofType? e = some issue →
      Hinders m (.notStorable p.type issue)

namespace Variant

theorem ParameterFault.hinders {m : Modifier} {p : Parameter} {o : Obstacle}
    (h : ParameterFault p o) (mem : p ∈ m.parameters) : Hinders m o := by
  cases h with
  | unreadable u unread =>
    exact .unreadable p.type u (List.mem_cons_of_mem _ (List.mem_map_of_mem mem)) unread
  | notStorable e issue read head =>
    exact .notStorable p e issue mem read (PayloadIssue.ofType?_eq_some_iff.mpr head)

theorem FirstObstacle.hinders {m : Modifier} {o : Obstacle} (h : FirstObstacle m o) :
    Hinders m o := by
  cases h with
  | generic yes => exact .generic yes
  | result u _ unread => exact .unreadable _ u List.mem_cons_self unread
  | parameter before behind p _ _ _ split _ fault => exact fault.hinders (by simp [split])

theorem not_hinders {m : Modifier} (plain : m.isGeneric = false)
    (result : ∃ e, TypeExpr.parse m.returnType = .ok e) (all : ∀ p ∈ m.parameters, Storable p) :
    ∀ o, ¬Hinders m o := by
  intro o hinders
  cases hinders with
  | generic yes =>
    rw [plain] at yes
    cases yes
  | unreadable t u mem unread =>
    rcases List.mem_cons.mp mem with rfl | parameter
    · obtain ⟨e, read⟩ := result
      rw [read] at unread
      cases unread
    · obtain ⟨p, inside, rfl⟩ := List.mem_map.mp parameter
      obtain ⟨e, read, -⟩ := all p inside
      rw [read] at unread
      cases unread
  | notStorable p e issue inside read bad =>
    rw [(all p inside).issue e read] at bad
    cases bad

theorem representable_iff_free {m : Modifier} : Representable m ↔ ∀ o, ¬Hinders m o := by
  constructor
  · rintro ⟨plain, result, parameters⟩
    exact not_hinders plain result fun p mem => storable_iff.mpr (parameters p mem)
  · intro free
    apply (exists_ofModifier_iff (d := 0)).mp
    cases made : ofModifier 0 m with
    | ok r => exact ⟨r, rfl⟩
    | error o => exact absurd (ofModifier_error_iff.mp made).hinders (free o)

theorem Representable.free {m : Modifier} (h : Representable m) : ∀ o, ¬Hinders m o :=
  representable_iff_free.mp h

theorem ofModifier_ok {d : Int} {m : Modifier} {r : Variant × List Text}
    (h : ofModifier d m = .ok r) :
    r.1.modifier = m ∧ r.1.tag = Identifier.variantTag m.name ∧ ∀ o, ¬Hinders m o := by
  have free := (exists_ofModifier_iff.mp ⟨r, h⟩).free
  obtain ⟨-, -, fs, -, rfl⟩ := ofModifier_eq_ok h
  exact ⟨rfl, rfl, free⟩

section
variable {m : Modifier} {before after : List Parameter} {p : Parameter} {e : TypeExpr}
  {issue : PayloadIssue}

theorem ofModifier_notStorable (d : Int) (plain : m.isGeneric = false)
    (result : ∃ e, TypeExpr.parse m.returnType = .ok e)
    (split : m.parameters = before ++ p :: after) (others : ∀ q ∈ before, Storable q)
    (read : TypeExpr.parse p.type = .ok e) (bad : PayloadIssue.ofType? e = some issue) :
    ofModifier d m = .error (.notStorable p.type issue) :=
  ofModifier_error_iff.mpr (.parameter before after p _ plain result split others
    (.notStorable e issue read (PayloadIssue.ofType?_eq_some_iff.mp bad)))

theorem unstorable?_eq_none (all : ∀ q ∈ m.parameters, ∀ e, TypeExpr.parse q.type = .ok e →
    PayloadIssue.ofType? e = none) : unstorable? m = none := by
  rw [unstorable?, List.findSome?_eq_none_iff]
  intro q mem
  cases read : TypeExpr.parse q.type with
  | error u => rfl
  | ok e => simp only [all q mem e read, Option.map_none]

theorem unstorable?_eq_some (split : m.parameters = before ++ p :: after)
    (others : ∀ q ∈ before, Storable q) (read : TypeExpr.parse p.type = .ok e)
    (bad : PayloadIssue.ofType? e = some issue) : unstorable? m = some (p, issue) := by
  have none := unstorable?_eq_none (m := { m with parameters := before })
    fun q mem => (others q mem).issue
  rw [unstorable?] at none
  rw [unstorable?, split, List.findSome?_append, none, List.findSome?_cons, read]
  simp only [bad, Option.map_some, Option.none_or]

end

end Variant

end ViewCases
