import ViewCases.Proofs.Batch.Guarded
import ViewCases.Proofs.Generation
import ViewCases.Proofs.Identifier

/-! The outcome of generation. A file has one case for each modifier, and the case names are
distinct as they are written: a tag begins with no backtick, so that escaping keeps tags apart.
Where there is no file the error is that of the first fault. -/
namespace ViewCases
open Text

namespace Identifier

theorem head_variantTag (name : Text) : (variantTag name).head? ≠ some '`' := by
  obtain ⟨c, cs, eq, letter⟩ := start_variantTag name
  rw [eq]
  rintro ⟨⟩
  revert letter
  decide

theorem escape_inj {a b : Text} (ha : a.head? ≠ some '`') (hb : b.head? ≠ some '`')
    (h : escape a = escape b) : a = b := by
  unfold escape at h
  split at h
  · split at h
    · simpa using h
    · exact absurd (congrArg List.head? h.symm) hb
  · split at h
    · exact absurd (congrArg List.head? h) ha
    · exact h

end Identifier

namespace EnumFile
open Variant

theorem nodup_escape_tags {ms : List Modifier} (h : (tags ms).Nodup) :
    ((tags ms).map Identifier.escape).Nodup := by
  refine List.Nodup.map_on ?_ h
  intro a ha b hb
  obtain ⟨m, -, rfl⟩ := List.mem_map.mp ha
  obtain ⟨n, -, rfl⟩ := List.mem_map.mp hb
  exact Identifier.escape_inj (Identifier.head_variantTag _) (Identifier.head_variantTag _)

/-- Generation gives a file exactly if the group has members, the name can name a type, every
member can be represented and their tags are distinct, and the file then has one case for each
of them, in order, and no two under one name, with reserved words escaped or not. Otherwise the
error is that of the first fault, and nothing else is thrown. -/
theorem generate_outcome (options : Options) (name : Text) (ms : List Modifier) :
    tryGenerate options name ms = (generate options name ms).mapError .generation ∧
    ((∃ f, generate options name ms = .ok f) ↔
      ms ≠ [] ∧ Identifier.isValidTypeName name = true ∧ (∀ m ∈ ms, Representable m) ∧
        (tags ms).Nodup) ∧
    (∀ f, generate options name ms = .ok f → f.caseCount = ms.length ∧
      ∃ vs, f.source = render options.emitDefaultValues name vs ∧ vs.map (·.modifier) = ms ∧
        vs.map (·.tag) = tags ms ∧ (vs.map (·.tag)).Nodup ∧ (vs.map (·.caseName)).Nodup) ∧
    ∀ e, generate options name ms = .error e ↔ FirstFault name ms e := by
  refine ⟨tryGenerate_eq options name ms, exists_generate_iff, ?_,
    fun e => ⟨firstFault_of_generate, generate_of_firstFault⟩⟩
  intro f made
  obtain ⟨vs, source, modifiers, same⟩ := cases_of_generate made
  have distinct := (exists_generate_iff.mp ⟨f, made⟩).2.2.2
  have escaped : vs.map (·.caseName) = (vs.map (·.tag)).map Identifier.escape := by
    rw [List.map_map]
    rfl
  refine ⟨(generate_ok made).1, vs, source, modifiers, same, ?_, ?_⟩
  · rwa [same]
  · rw [escaped, same]
    exact nodup_escape_tags distinct

end EnumFile

end ViewCases
