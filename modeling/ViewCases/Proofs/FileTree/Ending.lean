import Mathlib.Data.List.Infix
import ViewCases.Proofs.FileTree.Layout
import ViewCases.Proofs.Text.Word

/-! The pattern of a star and an ending. If the ending has no mark of patterns and no slash in
it, the pattern names exactly the entries of a directory whose names end with it. -/
namespace ViewCases
open Text

/-- A text that spells itself in a pattern and is part of one name only. -/
def PlainEnding (t : Text) : Prop := ∀ c ∈ t, c ≠ '/' ∧ c ≠ '*' ∧ c ≠ '?' ∧ c ≠ '['

instance : DecidablePred PlainEnding := fun t =>
  inferInstanceAs (Decidable (∀ c ∈ t, c ≠ '/' ∧ c ≠ '*' ∧ c ≠ '?' ∧ c ≠ '['))

theorem PlainEnding.not_mem_slash {t : Text} (h : PlainEnding t) : '/' ∉ t :=
  fun mem => (h '/' mem).1 rfl

namespace NamePattern

theorem ofTextFrom_plain {t : Text} (h : PlainEnding t) {n : Nat} (bound : t.length ≤ n) :
    ofTextFrom n t = t.map .one := by
  induction t generalizing n with
  | nil => cases n <;> rfl
  | cons c cs ih =>
    obtain ⟨⟨-, star, one, set⟩, later⟩ := List.forall_mem_cons.mp h
    cases n with
    | zero => simp at bound
    | succ n =>
      have rest := ih later (Nat.le_of_succ_le_succ bound)
      rw [ofTextFrom]
      · rw [rest, List.map_cons]
      · exact star
      · exact one
      · exact set

theorem ofText_star {ending : Text} (h : PlainEnding ending) :
    ofText ('*' :: ending) = .anyRun :: ending.map .one := by
  rw [ofText, List.length_cons, ofTextFrom, ofTextFrom_plain h (Nat.le_refl _)]

theorem matchesEnds_one (s t : Text) :
    matchesEnds (s.map .one) t = t.tails.map fun rest => decide (rest = s) := by
  induction s generalizing t with
  | nil =>
    rw [List.map_nil, matchesEnds]
    induction t with
    | nil => rfl
    | cons c cs ih => rw [List.map_cons, List.cons_append, ih, List.tails_cons, List.map_cons]; rfl
  | cons d ds ih =>
    rw [List.map_cons, matchesEnds, ih]
    · induction t with
      | nil => rfl
      | cons c cs ih' =>
        have tail : (cs.tails.map fun rest => decide (rest = ds)) =
            decide (cs = ds) :: (cs.tails.map fun rest => decide (rest = ds)).tail := by
          cases cs <;> rfl
        rw [List.tails_cons, List.map_cons, List.tail_cons, tail, List.zipWith_cons_cons,
          List.cons_append, ih', List.map_cons]
        simp [allows]
    · simp

theorem head_laterHolds (bs : List Bool) : (laterHolds bs).head?.getD false = bs.any id := by
  induction bs with
  | nil => rfl
  | cons b bs ih => simp [laterHolds, ih]

theorem matchesName_star {ending : Text} (h : PlainEnding ending) (name : Text) :
    matchesName (ofText ('*' :: ending)) name = ending.isSuffixOf name := by
  rw [ofText_star h, matchesName, matchesEnds, head_laterHolds, matchesEnds_one, Bool.eq_iff_iff]
  simp only [List.any_map, List.any_eq_true, List.mem_tails, Function.comp_apply, id_eq,
    decide_eq_true_eq, List.isSuffixOf_iff_suffix]
  constructor
  · rintro ⟨rest, suffix, rfl⟩
    exact suffix
  · intro suffix
    exact ⟨ending, suffix, rfl⟩

end NamePattern

namespace PathPattern

theorem holdsDepthMark_eq_false {t : Text} (h : '*' ∉ t) :
    holdsDepthMark t = false ∧ holdsDepthMark ('*' :: t) = false := by
  induction t with
  | nil => exact ⟨rfl, rfl⟩
  | cons c cs ih =>
    have star : c ≠ '*' := by
      rintro rfl
      exact h List.mem_cons_self
    obtain ⟨later, -⟩ := ih (mt (List.mem_cons_of_mem c) h)
    have here : holdsDepthMark (c :: cs) = false := by
      rw [holdsDepthMark]
      · exact later
      · rintro rest rfl
        exact absurd rfl star
    refine ⟨here, ?_⟩
    rw [holdsDepthMark]
    · exact here
    · rintro rest - eq
      exact star (List.cons.inj eq).1

theorem ofText_star {ending : Text} (h : PlainEnding ending) :
    ofText ('*' :: ending) = .ok [.name (NamePattern.ofText ('*' :: ending))] := by
  have noSlash : ∀ c ∈ '*' :: ending, decide (c = '/') = false := by
    rw [List.forall_mem_cons]
    exact ⟨by decide, fun c hc => by simpa using (h c hc).1⟩
  have noStar : '*' ∉ ending := fun mem => (h '*' mem).2.1 rfl
  have parts : (Path.ofText ('*' :: ending)).parts = ['*' :: ending] := by
    rw [Path.ofText, splitBy_of_none noSlash]
    simp [Path.isName]
  have last : ('*' :: ending).getLast? ≠ some '/' := by
    intro last
    have := noSlash '/' (List.mem_of_getLast? last)
    simp at this
  have notDepth : ('*' :: ending) ≠ ['*', '*'] := by
    intro eq
    exact noStar (by rw [(List.cons.inj eq).2]; exact List.mem_cons_self)
  have notUp : ('*' :: ending) ≠ ['.', '.'] := fun eq => absurd (List.cons.inj eq).1 (by decide)
  have part : ofPart ('*' :: ending) = .ok (.name (NamePattern.ofText ('*' :: ending))) := by
    rw [ofPart, if_neg notDepth, if_neg notUp, (holdsDepthMark_eq_false noStar).2]
    simp [isWild]
  rw [ofText, parts]
  simp only [List.mapM_cons, List.mapM_nil, part, if_neg last]
  rfl

end PathPattern

namespace FileTree

def endsIn (directory : Place) (ending : Text) (q : Place) : Bool :=
  q.dropLast == directory && q.getLast?.any (ending.isSuffixOf ·)

theorem select_name (tree : FileTree) (place : Place) (patterns : List NamePattern) :
    tree.select place [.name patterns] = .ok ((tree.children place).filter fun q =>
      q.getLast?.any (NamePattern.matchesName patterns)) := by
  have each : ∀ qs : List Place, qs.mapM (fun q => tree.select q []) = .ok (qs.map fun q => [q]) := by
    intro qs
    induction qs with
    | nil => rfl
    | cons q qs ih =>
      rw [List.mapM_cons, ih, select]
      rfl
  rw [select]
  · simp only [List.isEmpty_nil, Bool.true_or, Bool.true_and, pure_bind, each, Except.map_ok]
    rw [← List.flatMap_def, List.flatMap_singleton']

theorem eraseFiles_star {tree erased : FileTree} {directory : Place} {ending : Text}
    (h : PlainEnding ending)
    (done : tree.eraseFiles directory [.name (NamePattern.ofText ('*' :: ending))] = .ok erased) :
    erased.get? = Layout.withoutFiles (endsIn directory ending) tree.get? := by
  obtain ⟨found, selected, layout⟩ := eraseFiles_eq_ok done
  rw [select_name] at selected
  cases selected
  rw [layout]
  funext q
  unfold Layout.withoutFiles
  cases here : tree.get? q with
  | none => simp
  | some entry =>
    cases base : isBase q with
    | true =>
      rw [get?_of_isBase tree base] at here
      simp [← here]
    | false =>
      -- What stands at a place is an entry, so the place is a child of its directory.
      have present : q ∈ tree.entries.map (·.1) := by
        rw [get?_of_not_isBase tree base] at here
        obtain ⟨e, found, -⟩ := Option.map_eq_some_iff.mp here
        have key : e.1 = q := by simpa using List.find?_some found
        exact key ▸ List.mem_map_of_mem (List.mem_of_find?_eq_some found)
      have named : q ∈ (tree.children directory).filter (fun q =>
          q.getLast?.any (NamePattern.matchesName (NamePattern.ofText ('*' :: ending)))) ↔
          endsIn directory ending q = true := by
        have inhabited : q ≠ [] := by
          rintro rfl
          cases base
        simp only [children, List.mem_filter, present, true_and, endsIn, Bool.and_eq_true,
          funext (NamePattern.matchesName_star h)]
        simp [inhabited]
      simp only [decide_eq_true_eq, named]

end FileTree
end ViewCases
