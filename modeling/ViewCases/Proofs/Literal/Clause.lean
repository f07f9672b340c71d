import ViewCases.Proofs.Literal.Mark
import ViewCases.Signature.Parameter

/-! String literals in one parameter clause. The equals sign and the colon of the clause are
looked for outside brackets, so a literal is passed where a bracket is open before it or where
they have been found. -/
namespace ViewCases.Parameter
open Text ViewCases.Bracket

inductive Part
  | mark
  | type
  | defaultValue
  deriving DecidableEq, Repr

/-- The parameter with the text `t` for the part that holds the literal. The attributes of a
parameter are not kept. -/
def holding (p : Parameter) (t : Text) : Part → Parameter
  | .mark => p
  | .type => { p with type := t }
  | .defaultValue => { p with defaultValue := some t }

def ofDeclaration? (declaration : Text) : Option Parameter :=
  (findTopLevel [':'] declaration).bind fun colon =>
    (splitNames (declaration.take colon)).bind fun (label, name) =>
      if strip (declaration.drop (colon + 1)) = [] then none
      else some ⟨label, name, strip (declaration.drop (colon + 1)), false, none⟩

def assigned (p : Parameter) (default : Option Text) : Parameter :=
  { p with hasDefault := default.isSome, defaultValue := default.filter fun value => !value.isEmpty }

theorem ofClause?_eq_ofDeclaration? (clause : Text) : ofClause? clause =
    (ofDeclaration? (splitDefault clause).1).map (assigned · (splitDefault clause).2) := by
  unfold ofClause? ofDeclaration?
  simp only
  cases findTopLevel [':'] (splitDefault clause).1 with
  | none => rfl
  | some colon =>
    simp only [Option.bind_some]
    cases splitNames ((splitDefault clause).1.take colon) with
    | none => rfl
    | some names =>
      simp only [Option.bind_some]
      cases strip ((splitDefault clause).1.drop (colon + 1)) with
      | nil => rfl
      | cons c cs => rfl

/-- Where the scans of a clause are when a literal begins: in its default value, in a bracket
of its type, or in the argument of one of its attributes. -/
inductive Slot (clause : Text) : Part → Prop
  | defaultValue {i : Nat} (assigned : findTopLevel ['='] clause = some i) :
      Slot clause .defaultValue
  | type {i : Nat} (unassigned : findTopLevel ['='] clause = none)
      (inside : 1 ≤ depthAfter none 0 clause) (typed : findTopLevel [':'] clause = some i) :
      Slot clause .type
  | mark {word argument : Text} (unassigned : findTopLevel ['='] clause = none)
      (inside : 1 ≤ depthAfter none 0 clause) (untyped : findTopLevel [':'] clause = none)
      (comes : Attribute.TakesTo clause ('@' :: word ++ '(' :: argument))
      (opens : Attribute.LeavesOpen word argument) : Slot clause .mark

theorem cut_before {c : Text} {i : Nat} (h : i < c.length) (x : Text) :
    (c ++ x).take i = c.take i ∧ (c ++ x).drop (i + 1) = c.drop (i + 1) ++ x :=
  ⟨List.take_append_of_le_length (by omega), List.drop_append_of_le_length (by omega)⟩

theorem cut_behind (c z y : Text) (k : Nat) :
    (c ++ (literal z ++ y)).take (c.length + (literal z).length + k) =
        c ++ (literal z ++ y.take k) ∧
      (c ++ (literal z ++ y)).drop (c.length + (literal z).length + k + 1) = y.drop (k + 1) := by
  rw [Nat.add_assoc, Nat.add_assoc, Nat.add_assoc, List.take_length_add_append,
    List.take_length_add_append, List.drop_length_add_append, List.drop_length_add_append]
  exact ⟨rfl, rfl⟩

theorem ofClause?_defaultValue {c : Text} {i : Nat} (assigned : findTopLevel ['='] c = some i)
    (y : Text) : ∃ (found : Option Parameter) (l r : Text), ∀ z,
      ofClause? (c ++ (literal z ++ y)) =
        found.map (·.holding (l ++ literal z ++ r) .defaultValue) := by
  refine ⟨(ofDeclaration? (c.take i)).map fun p => { p with hasDefault := true },
    stripStart (c.drop (i + 1)), stripEnd y, fun z => ?_⟩
  obtain ⟨before, behind⟩ := cut_before (findTopLevel_lt assigned).2 (literal z ++ y)
  have split : splitDefault (c ++ (literal z ++ y)) =
      (c.take i, some (stripStart (c.drop (i + 1)) ++ literal z ++ stripEnd y)) := by
    unfold splitDefault
    rw [findTopLevel_before (by decide) assigned]
    simp only [before, behind, strip_literal, List.append_assoc]
  rw [ofClause?_eq_ofDeclaration?, split, Option.map_map]
  congr 1
  funext p
  simp [Parameter.assigned, holding, literal]

theorem splitDefault_literal {c : Text} (unassigned : findTopLevel ['='] c = none)
    (inside : 1 ≤ depthAfter none 0 c) (y : Text) : ∃ (s : Text) (default : Option Text),
      ∀ z, isBalanced z = true →
        splitDefault (c ++ (literal z ++ y)) = (c ++ (literal z ++ s), default) := by
  cases behind : findFrom ['='] false (some '"') (depthAfter none 0 c) 0 y with
  | none =>
    refine ⟨y, none, fun z balanced => ?_⟩
    rw [splitDefault, findTopLevel_literal (by decide) (by decide) inside balanced, unassigned,
      behind]
    rfl
  | some k =>
    refine ⟨y.take k, some (strip (y.drop (k + 1))), fun z balanced => ?_⟩
    obtain ⟨taken, left⟩ := cut_behind c z y k
    rw [splitDefault, findTopLevel_literal (by decide) (by decide) inside balanced, unassigned,
      behind]
    simp only [Option.none_or, Option.map_some, taken, left]

theorem ofDeclaration?_colon {declaration : Text} {colon : Nat}
    (h : findTopLevel [':'] declaration = some colon) : ofDeclaration? declaration =
      (splitNames (declaration.take colon)).bind fun (label, name) =>
        if strip (declaration.drop (colon + 1)) = [] then none
        else some ⟨label, name, strip (declaration.drop (colon + 1)), false, none⟩ := by
  rw [ofDeclaration?, h]
  rfl

theorem ofDeclaration?_type {c : Text} {i : Nat} (typed : findTopLevel [':'] c = some i)
    (y : Text) : ∃ (found : Option Parameter) (l r : Text), ∀ z,
      ofDeclaration? (c ++ (literal z ++ y)) =
        found.map (·.holding (l ++ literal z ++ r) .type) := by
  refine ⟨(splitNames (c.take i)).map fun (label, name) => ⟨label, name, [], false, none⟩,
    stripStart (c.drop (i + 1)), stripEnd y, fun z => ?_⟩
  obtain ⟨before, behind⟩ := cut_before (findTopLevel_lt typed).2 (literal z ++ y)
  have something : stripStart (c.drop (i + 1)) ++ (literal z ++ stripEnd y) ≠ [] := by
    simp [literal]
  rw [ofDeclaration?_colon (findTopLevel_before (by decide) typed z y), before, behind,
    strip_literal]
  simp only [if_neg something]
  cases splitNames (c.take i) with
  | none => rfl
  | some names => simp [holding]

/-- A literal in the argument of an attribute, which ends at the same place for all contents,
or is taken with all that stands before the colon. -/
theorem splitNames_literal {c word a : Text}
    (comes : Attribute.TakesTo c ('@' :: word ++ '(' :: a)) (opens : Attribute.LeavesOpen word a)
    (y : Text) : ∃ names, ∀ z, isBalanced z = true →
      splitNames (c ++ (literal z ++ y)) = names := by
  have onward : ∀ z, (Attribute.takeAll (c ++ (literal z ++ y))).2 =
      (Attribute.takeAll ('@' :: word ++ '(' :: a ++ (literal z ++ y))).2 :=
    fun z => comes.takeAll_append (by simp) _
  have taken : ∀ {z mark r : Text},
      Attribute.take? ('@' :: word ++ '(' :: a ++ (literal z ++ y)) = some (mark, r) →
      splitNames (c ++ (literal z ++ y)) = splitNames r := by
    intro z mark r found
    have start : stripStart ('@' :: word ++ '(' :: a ++ (literal z ++ y)) =
        '@' :: word ++ '(' :: a ++ (literal z ++ y) :=
      stripStart_of_head fun d hd => by cases hd; decide
    unfold splitNames
    rw [onward, Attribute.takeAll_of_take? (by rwa [start])]
  rcases Attribute.take?_literal opens y with all | ⟨b, r, ends⟩
  · refine ⟨splitNames [], fun z balanced => ?_⟩
    obtain ⟨mark, found⟩ := all z (parensClosed_of_isBalanced balanced)
    exact taken found
  · exact ⟨splitNames r, fun z balanced => taken (ends z (parensClosed_of_isBalanced balanced))⟩

theorem ofDeclaration?_mark {c word a : Text} (inside : 1 ≤ depthAfter none 0 c)
    (untyped : findTopLevel [':'] c = none)
    (comes : Attribute.TakesTo c ('@' :: word ++ '(' :: a)) (opens : Attribute.LeavesOpen word a)
    (y : Text) : ∃ found, ∀ z, isBalanced z = true →
      ofDeclaration? (c ++ (literal z ++ y)) = found := by
  cases behind : findFrom [':'] false (some '"') (depthAfter none 0 c) 0 y with
  | none =>
    refine ⟨none, fun z balanced => ?_⟩
    rw [ofDeclaration?, findTopLevel_literal (by decide) (by decide) inside balanced, untyped,
      behind]
    rfl
  | some k =>
    obtain ⟨names, same⟩ := splitNames_literal comes opens (y.take k)
    refine ⟨names.bind fun (label, name) => if strip (y.drop (k + 1)) = [] then none
        else some ⟨label, name, strip (y.drop (k + 1)), false, none⟩, fun z balanced => ?_⟩
    have colon : findTopLevel [':'] (c ++ (literal z ++ y)) =
        some (c.length + (literal z).length + k) := by
      rw [findTopLevel_literal (by decide) (by decide) inside balanced, untyped, behind]
      rfl
    obtain ⟨taken, left⟩ := cut_behind c z y k
    rw [ofDeclaration?_colon colon, taken, left, same z balanced]

theorem ofClause?_literal {c : Text} {part : Part} (slot : Slot c part) (y : Text) :
    ∃ (found : Option Parameter) (l r : Text), ∀ z, isBalanced z = true →
      ofClause? (c ++ (literal z ++ y)) = found.map (·.holding (l ++ literal z ++ r) part) := by
  cases slot with
  | defaultValue assigned =>
    obtain ⟨found, l, r, read⟩ := ofClause?_defaultValue assigned y
    exact ⟨found, l, r, fun z _ => read z⟩
  | type unassigned inside typed =>
    obtain ⟨s, default, split⟩ := splitDefault_literal unassigned inside y
    obtain ⟨found, l, r, read⟩ := ofDeclaration?_type typed s
    refine ⟨found.map (·.assigned default), l, r, fun z balanced => ?_⟩
    rw [ofClause?_eq_ofDeclaration?, split z balanced, read z, Option.map_map, Option.map_map]
    rfl
  | mark unassigned inside untyped comes opens =>
    obtain ⟨s, default, split⟩ := splitDefault_literal unassigned inside y
    obtain ⟨found, read⟩ := ofDeclaration?_mark inside untyped comes opens s
    refine ⟨found.map (·.assigned default), [], [], fun z balanced => ?_⟩
    rw [ofClause?_eq_ofDeclaration?, split z balanced, read z balanced, Option.map_map]
    rfl

end ViewCases.Parameter
