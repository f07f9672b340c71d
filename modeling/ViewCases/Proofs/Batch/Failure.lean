import ViewCases.Proofs.Batch.Conservation
import ViewCases.Proofs.Batch.Guarded

/-! What a unit fails for. The steps before the generation decide by the checks that the
generation makes again: what the filter lets through is neither generic nor beyond storing,
and the first ones of every case name have distinct names. With both steps taken only the
name of the enum and unreadable types are left to fail for. -/
namespace ViewCases

theorem Exclusion.readable_of_none {m : Modifier} (h : ofModifier? m = none) {o : Obstacle}
    (hinders : Hinders m o) : ∃ t ∈ m.typeTexts, ∃ u, TypeExpr.parse t = .error u ∧
      o = .unreadable t u.reason := by
  unfold ofModifier? at h
  cases hinders with
  | generic yes => simp [yes] at h
  | unreadable t u mem unread => exact ⟨t, mem, u, unread, rfl⟩
  | notStorable p e issue mem read bad =>
    cases generic : m.isGeneric with
    | true => simp [generic] at h
    | false =>
      have storable : Variant.unstorable? m = none := by simpa [generic] using h
      have each := List.findSome?_eq_none_iff.mp storable p mem
      rw [read] at each
      simp [bad] at each

namespace Batch
open Text EnumFile ViewCases.Group

variable (s : Settings) {ms : List Modifier} {g : Group}

theorem mem_candidates_of_mem_members (h : g ∈ groups s ms) :
    ∀ m ∈ g.members, m ∈ candidates s ms := by
  intro m hm
  obtain ⟨made, -⟩ := mem_groups s h
  rw [made, ofModifiers_members] at hm
  have inGroup : m ∈ g.category.group (candidates s ms) := by
    split at hm
    · obtain ⟨⟨x, i⟩, mem, rfl⟩ := List.mem_map.mp hm
      exact List.fst_mem_of_mem_zipIdx (List.mem_of_mem_filter mem)
    · exact hm
  exact List.mem_of_mem_filter inGroup

theorem not_excluded_of_mem_members (on : s.skipGenericModifiers = true)
    (h : g ∈ groups s ms) : ∀ m ∈ g.members, Exclusion.ofModifier? m = none := by
  intro m hm
  have mem := mem_candidates_of_mem_members s h m hm
  rw [candidates, if_pos on] at mem
  simpa using List.of_mem_filter mem

theorem nodup_tags_members (on : s.deduplicateOverloads = true) (h : g ∈ groups s ms) :
    (tags g.members).Nodup := by
  obtain ⟨made, -⟩ := mem_groups s h
  have members : g.members = firsts (g.category.group (candidates s ms)) := by
    have := (congrArg Group.members made).trans (ofModifiers_members s _ _)
    rwa [if_pos on] at this
  have distinct := (nodup_deduplicate g.category [] (g.category.group (candidates s ms))).1
  rw [deduplicate_eq] at distinct
  rw [members]
  exact distinct

theorem members_ne_nil (h : g ∈ groups s ms) : g.members ≠ [] := by
  obtain ⟨made, inhabited⟩ := mem_groups s h
  rw [made]
  exact ofModifiers_ne_nil s _ inhabited

theorem blocks_iff (skip : s.skipGenericModifiers = true)
    (deduplicate : s.deduplicateOverloads = true) (h : g ∈ groups s ms) (name : Text) :
    (∃ e, Blocks name g.members e) ↔ Identifier.isValidTypeName name = false ∨
      ∃ m ∈ g.members, ∃ t ∈ m.typeTexts, ∃ u, TypeExpr.parse t = .error u := by
  constructor
  · rintro ⟨e, blocks⟩
    cases blocks with
    | noModifiers empty => exact absurd empty (members_ne_nil s h)
    | invalidName invalid => exact .inl invalid
    | unsupported m o mem hinders =>
      -- The filter asks for every obstacle but this one, which it leaves to the generation.
      obtain ⟨t, ht, u, unread, -⟩ :=
        Exclusion.readable_of_none (not_excluded_of_mem_members s skip h m mem) hinders
      exact .inr ⟨m, mem, t, ht, u, unread⟩
    | duplicateCase tag first second repeated =>
      exact absurd (nodup_tags_members s deduplicate h) repeated
  · rintro (invalid | ⟨m, mem, t, ht, u, unread⟩)
    · exact ⟨_, .invalidName invalid⟩
    · exact ⟨_, .unsupported m _ mem (.unreadable t u ht unread)⟩

theorem unit_isSuccessful_eq_false_iff {label : Text} :
    (unit s label ms).isSuccessful = false ↔
      ∃ e, generate s.options (s.unionName label) ms = .error e := by
  rcases unit_cases s label ms with ⟨f, made, eq⟩ | ⟨e, made, eq⟩
  · have successful := (generate_ok made).2.1
    rw [eq, successful, made]
    simp
  · rw [eq, made]
    exact ⟨fun _ => ⟨e, rfl⟩, fun _ => rfl⟩

theorem generate_error_iff (options : Options) (name : Text) :
    (∃ e, generate options name ms = .error e) ↔ ∃ e, Blocks name ms e := by
  constructor
  · rintro ⟨e, failed⟩
    exact ⟨e, blocks_of_generate failed⟩
  · rintro ⟨e, blocks⟩
    cases made : generate options name ms with
    | error e' => exact ⟨e', rfl⟩
    | ok f => exact absurd blocks ((generate_ok made).2.2 e)

/-- A run ends in a batch. No unit fails for what an earlier step has seen to, and with both
steps on a unit fails exactly for its name or for a type of a member. -/
theorem tryOfModifiers_failures (s : Settings) (sourcePath : Text) (ms : List Modifier) :
    ∃ b, tryOfModifiers s sourcePath ms = .ok b ∧
      b.units = (groups s ms).map (fun g => unit s g.category.label g.members) ∧
      ∀ g ∈ groups s ms,
        let label := g.category.label
        let name := s.unionName label
        let made := generate s.options name g.members
        let u := unit s label g.members
        (s.deduplicateOverloads = true →
          ∀ tag first second, made ≠ .error (.duplicateCase name tag first second)) ∧
        (s.skipGenericModifiers = true → ∀ modifier,
          (∀ parameters, made ≠ .error (.unsupported modifier (.isGeneric parameters))) ∧
          ∀ type issue, made ≠ .error (.unsupported modifier (.notStorable type issue))) ∧
        (s.deduplicateOverloads = true → s.skipGenericModifiers = true →
          (u.isSuccessful = false ↔ Identifier.isValidTypeName name = false ∨
            ∃ m ∈ g.members, ∃ t ∈ m.typeTexts, ∃ e, TypeExpr.parse t = .error e)) ∧
        (u.isSuccessful = false → u.source = [] ∧ u.caseCount = 0 ∧
          ∃ e, made = .error e ∧ u.errors = [label ++ ": " ++ e.message]) := by
  refine ⟨ofModifiers s sourcePath ms, tryOfModifiers_eq s sourcePath ms, rfl, ?_⟩
  intro g hg label name made u
  refine ⟨?_, ?_, ?_, ?_⟩
  · intro on tag first second failed
    cases blocks_of_generate failed with
    | duplicateCase _ _ _ repeated => exact repeated (nodup_tags_members s on hg)
  · intro on modifier
    have only : ∀ o, made = .error (.unsupported modifier o) → ∃ t r, o = .unreadable t r := by
      intro o failed
      cases blocks_of_generate failed with
      | unsupported m _ mem hinders =>
        obtain ⟨t, -, u, -, eq⟩ :=
          Exclusion.readable_of_none (not_excluded_of_mem_members s on hg m mem) hinders
        exact ⟨t, u.reason, eq⟩
    constructor
    · intro parameters failed
      obtain ⟨t, r, eq⟩ := only _ failed
      cases eq
    · intro type issue failed
      obtain ⟨t, r, eq⟩ := only _ failed
      cases eq
  · intro deduplicate skip
    rw [← blocks_iff s skip deduplicate hg name, ← generate_error_iff s.options]
    exact unit_isSuccessful_eq_false_iff s
  · intro failed
    rcases unit_cases s label g.members with ⟨f, ok, eq⟩ | ⟨e, error, eq⟩
    · have successful := (generate_ok ok).2.1
      rw [← eq] at successful
      exact absurd (successful.symm.trans failed) (by decide)
    · exact ⟨congrArg EnumFile.source eq, congrArg EnumFile.caseCount eq, e, error,
        congrArg EnumFile.errors eq⟩

theorem tryOfModifiers_failures_unreadable :
    let m : Text → Modifier := fun result => ⟨"font", [], result, none, none, false, [], []⟩
    let g : Group := ⟨.text, [m "A<"], [⟨m "V", .overloadOf (m "A<") .text⟩]⟩
    let u := unit {} g.category.label g.members
    (groups {} [m "A<", m "V"] = [g] ∧ u.isSuccessful = false ∧
      u.errors = ["Text: Unsupported type 'A<' in modifier 'font': unbalanced delimiters"] ∧
      Identifier.isValidTypeName "TextModifier" = true) ∧
      u.source = [] ∧ ∃ m ∈ g.members, ∃ t ∈ m.typeTexts, ∃ e, TypeExpr.parse t = .error e := by
  intro m g u
  have ran : groups {} [m "A<", m "V"] = [g] ∧ u.isSuccessful = false ∧
      u.errors = ["Text: Unsupported type 'A<' in modifier 'font': unbalanced delimiters"] ∧
      Identifier.isValidTypeName "TextModifier" = true := by decide +kernel
  have ⟨grouped, failed, _, valid⟩ := ran
  obtain ⟨b, -, -, each⟩ := tryOfModifiers_failures {} "f" [m "A<", m "V"]
  obtain ⟨-, -, reason, record⟩ := each g (by rw [grouped]; exact List.mem_singleton_self g)
  have unreadable := ((reason rfl rfl).mp failed).resolve_left fun invalid =>
    absurd (valid.symm.trans invalid) (by decide)
  exact ⟨ran, (record failed).1, unreadable⟩

end Batch

end ViewCases
