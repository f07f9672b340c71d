import Mathlib.Data.List.Basic
import ViewCases.FileTree.Change
import ViewCases.FileTree.Glob

/-! What stands at each place of a tree, and what each change makes of it. A tree is a list of
entries; here only the answers of `get?` count, so that an effect is an equation between two
of these functions and a place that it does not name is unchanged. -/
namespace ViewCases.FileTree
open Text

/-- What stands at each place. -/
abbrev Layout := Place → Option Entry

namespace Layout

def withDirectories (places : List Place) (l : Layout) : Layout := fun q =>
  if l q = none ∧ q ∈ places then some .directory else l q

def withFile (place : Place) (content : List UInt8) (l : Layout) : Layout := fun q =>
  if q = place then some (.file content) else l q

def withFiles (files : List (Place × List UInt8)) (l : Layout) : Layout :=
  files.foldl (fun l f => l.withFile f.1 f.2) l

def withoutFiles (places : Place → Bool) (l : Layout) : Layout := fun q =>
  if places q = true ∧ l q ≠ some .directory then none else l q

end Layout

theorem get?_of_isBase (tree : FileTree) {q : Place} (h : isBase q = true) :
    tree.get? q = some .directory := by
  rw [get?, if_pos h]

theorem get?_of_not_isBase (tree : FileTree) {q : Place} (h : isBase q = false) :
    tree.get? q = (tree.entries.find? fun e => e.1 = q).map (·.2) := by
  rw [get?, if_neg (by simp [h])]

theorem find?_replaced (place : Place) (entry : Entry) (es : List (Place × Entry)) (q : Place) :
    (es.map fun e => if e.1 = place then (place, entry) else e).find? (fun e => e.1 = q) =
      (es.find? fun e => e.1 = q).map fun e => if e.1 = place then (place, entry) else e := by
  have key : ∀ e : Place × Entry, (if e.1 = place then (place, entry) else e).1 = e.1 := by
    intro e
    split
    · next eq => exact eq.symm
    · rfl
  simp only [List.find?_map, Function.comp_def, key]

theorem get?_put_self (tree : FileTree) {place : Place} (h : isBase place = false)
    (entry : Entry) : (tree.put place entry).get? place = some entry := by
  rw [get?_of_not_isBase _ h, put]
  split
  · next present =>
    obtain ⟨e, mem, here⟩ := List.any_eq_true.mp present
    rw [find?_replaced]
    cases found : tree.entries.find? fun e => e.1 = place with
    | none => exact absurd here (List.find?_eq_none.mp found e mem)
    | some e =>
      have : e.1 = place := by simpa using List.find?_some found
      simp [this]
  · next absent =>
    have nowhere : tree.entries.find? (fun e => e.1 = place) = none := by
      apply List.find?_eq_none.mpr
      intro e mem here
      exact absent (List.any_eq_true.mpr ⟨e, mem, here⟩)
    rw [List.find?_append, nowhere]
    simp

theorem get?_put_of_ne (tree : FileTree) {place q : Place} (ne : q ≠ place) (entry : Entry) :
    (tree.put place entry).get? q = tree.get? q := by
  cases base : isBase q with
  | true => rw [get?_of_isBase _ base, get?_of_isBase _ base]
  | false =>
    rw [get?_of_not_isBase _ base, get?_of_not_isBase _ base, put]
    split
    · rw [find?_replaced]
      cases found : tree.entries.find? fun e => e.1 = q with
      | none => rfl
      | some e =>
        have : e.1 = q := by simpa using List.find?_some found
        simp [this, ne]
    · simp [List.find?_append, Ne.symm ne]

theorem get?_put (tree : FileTree) {place : Place} (h : isBase place = false) (entry : Entry)
    (q : Place) : (tree.put place entry).get? q = if q = place then some entry else tree.get? q := by
  split
  · next eq => rw [eq, get?_put_self tree h]
  · next ne => exact get?_put_of_ne tree ne entry

theorem get?_erase (tree : FileTree) {place : Place} (h : isBase place = false) (q : Place) :
    (tree.erase place).get? q = if q = place then none else tree.get? q := by
  cases base : isBase q with
  | true =>
    have ne : q ≠ place := by
      rintro rfl
      rw [base] at h
      cases h
    rw [if_neg ne, get?_of_isBase _ base, get?_of_isBase _ base]
  | false =>
    rw [get?_of_not_isBase _ base, get?_of_not_isBase _ base, erase, List.find?_filter]
    simp only [decide_eq_true_eq]
    split
    · next eq =>
      have nowhere : ∀ e ∈ tree.entries, decide (e.1 ≠ place ∧ e.1 = q) ≠ true := by
        intro e _ both
        simp only [decide_eq_true_eq] at both
        exact both.1 (both.2.trans eq)
      rw [List.find?_eq_none.mpr nowhere, Option.map_none]
    · next ne =>
      have same : ∀ e : Place × Entry, (e.1 ≠ place ∧ e.1 = q) ↔ e.1 = q := by
        intro e
        refine ⟨And.right, fun here => ⟨?_, here⟩⟩
        rw [here]
        exact ne
      simp only [same]

def Place.along (place : Place) : List Text → List Place
  | [] => []
  | name :: names => enter place name :: along (enter place name) names

def Place.reached (place : Place) (names : List Text) : Place := names.foldl enter place

def places (p : Path) : List Place := Place.along (Place.start p) p.parts

def place (p : Path) : Place := Place.reached (Place.start p) p.parts

theorem Place.along_append (base : Place) (names : List Text) (name : Text) :
    along base (names ++ [name]) = along base names ++ [reached base (names ++ [name])] := by
  induction names generalizing base with
  | nil => rfl
  | cons n ns ih => simp only [List.cons_append, along, ih, reached, List.foldl_cons]

theorem isBase_start (p : Path) : isBase (Place.start p) = true := by
  unfold Place.start
  split <;> decide

theorem follow_eq_ok {tree : FileTree} {base q : Place} {names : List Text}
    (h : tree.follow base names = .ok q) : q = Place.reached base names ∧
      ∀ name ns, names = ns ++ [name] →
        ∀ r ∈ base :: Place.along base ns, tree.get? r = some .directory := by
  induction names generalizing base with
  | nil =>
    cases h
    exact ⟨rfl, by simp⟩
  | cons n ns ih =>
    rw [follow] at h
    split at h
    · cases h
    · cases h
    · next here =>
      split at h
      · cases h
      · obtain ⟨eq, later⟩ := ih h
        refine ⟨eq, ?_⟩
        intro name ms split r mem
        cases ms with
        | nil =>
          cases List.mem_singleton.mp mem
          exact here
        | cons m ms =>
          obtain ⟨rfl, rfl⟩ := List.cons.inj split
          rcases List.mem_cons.mp mem with rfl | mem
          · exact here
          · exact later name ms rfl r mem

theorem follow_mono {tree tree' : FileTree} {base q : Place} {names : List Text}
    (more : ∀ r, tree.get? r = some .directory → tree'.get? r = some .directory)
    (h : tree.follow base names = .ok q) : tree'.follow base names = .ok q := by
  induction names generalizing base with
  | nil => exact h
  | cons n ns ih =>
    rw [follow] at h ⊢
    split at h
    · cases h
    · cases h
    · next here =>
      simp only [more base here]
      split at h
      · cases h
      · next short =>
        rw [if_neg short]
        exact ih h

theorem locate_eq_ok {tree : FileTree} {p : Path} {q : Place} (h : tree.locate p = .ok q) :
    q = place p ∧ textFault? p.text = none ∧ tree.follow (Place.start p) p.parts = .ok q := by
  unfold locate at h
  cases fault : textFault? p.text with
  | some f =>
    rw [fault] at h
    cases h
  | none =>
    rw [fault] at h
    exact ⟨(follow_eq_ok h).1, rfl, h⟩

theorem makeAt_eq_ok {tree made : FileTree} {q : Place} (h : tree.makeAt q = .ok made) :
    made.get? = Layout.withDirectories [q] tree.get? ∧ made.get? q = some .directory := by
  unfold makeAt at h
  split at h
  · next free =>
    cases h
    have apart : isBase q = false := by
      rw [Bool.eq_false_iff]
      intro base
      rw [get?_of_isBase tree base] at free
      cases free
    constructor
    · funext r
      rw [get?_put tree apart, Layout.withDirectories]
      by_cases eq : r = q
      · simp [eq, free]
      · simp [eq]
    · exact get?_put_self tree apart .directory
  · next there =>
    cases h
    constructor
    · funext r
      rw [Layout.withDirectories]
      by_cases eq : r = q
      · simp [eq, there]
      · simp [eq]
    · exact there
  · cases h

theorem Layout.withDirectories_append (qs rs : List Place) (l : Layout) :
    withDirectories rs (withDirectories qs l) = withDirectories (qs ++ rs) l := by
  funext q
  unfold withDirectories
  by_cases free : l q = none
  · by_cases first : q ∈ qs
    · simp [free, first]
    · simp [free, first]
  · simp [free]

theorem Layout.withDirectories_of_directories {qs : List Place} {l : Layout}
    (h : ∀ q ∈ qs, l q = some .directory) : withDirectories qs l = l := by
  funext q
  unfold withDirectories
  rw [if_neg]
  rintro ⟨free, mem⟩
  rw [h q mem] at free
  cases free

theorem Layout.withDirectories_again (ps qs : List Place) (l : Layout) :
    withDirectories (ps ++ qs) (withDirectories ps l) = withDirectories (ps ++ qs) l := by
  funext q
  rw [withDirectories_append]
  simp [withDirectories]

theorem follow_makeAt_eq_ok {base : Place} {tree made : FileTree} {names : List Text} {name : Text}
    (done : (tree.follow base (names ++ [name]) >>= tree.makeAt) = .ok made) :
    made.get? = Layout.withDirectories (Place.along base (names ++ [name])) tree.get? ∧
      made.follow base (names ++ [name]) = .ok (Place.reached base (names ++ [name])) ∧
      made.get? (Place.reached base (names ++ [name])) = some .directory := by
  cases way : tree.follow base (names ++ [name]) with
  | error fault =>
    rw [way] at done
    cases done
  | ok q =>
    rw [way] at done
    obtain ⟨layout, there⟩ := makeAt_eq_ok done
    obtain ⟨rfl, before⟩ := follow_eq_ok way
    have kept : ∀ r, tree.get? r = some .directory → made.get? r = some .directory := by
      intro r here
      rw [layout, Layout.withDirectories, here]
      simp
    refine ⟨?_, follow_mono kept way, there⟩
    have earlier := before name names rfl
    rw [layout, Place.along_append, ← Layout.withDirectories_append,
      Layout.withDirectories_of_directories fun r mem => earlier r (List.mem_cons_of_mem _ mem)]

theorem makeBelow_eq_ok {base : Place} {tree made : FileTree} {names : List Text}
    (root : isBase base = true) (h : makeBelow base tree names = (made, none)) :
    made.get? = Layout.withDirectories (Place.along base names.reverse) tree.get? ∧
      made.follow base names.reverse = .ok (Place.reached base names.reverse) ∧
      made.get? (Place.reached base names.reverse) = some .directory := by
  induction names generalizing made with
  | nil =>
    cases h
    refine ⟨(Layout.withDirectories_of_directories (by simp [Place.along])).symm, rfl, ?_⟩
    exact get?_of_isBase tree root
  | cons name above ih =>
    rw [makeBelow] at h
    simp only [List.reverse_cons] at h ⊢
    split at h
    · split at h
      · next t higher =>
        split at h
        · next made' done =>
          cases h
          obtain ⟨layout, -, -⟩ := ih higher
          obtain ⟨layout', rest⟩ := follow_makeAt_eq_ok done
          refine ⟨?_, rest⟩
          rw [layout', layout, Place.along_append, Layout.withDirectories_again]
        · cases h
      · next failed _ _ => exact absurd h (by simp_all)
    · split at h
      · next made' done =>
        cases h
        exact follow_makeAt_eq_ok done
      · cases h

theorem makeDirectory_eq_ok {tree made : FileTree} {p : Path}
    (h : tree.makeDirectory p = (made, none)) :
    made.get? = Layout.withDirectories (places p) tree.get? ∧ made.locate p = .ok (place p) ∧
      made.get? (place p) = some .directory := by
  unfold makeDirectory at h
  split at h
  · cases h
  · next sound =>
    obtain ⟨layout, way, there⟩ := makeBelow_eq_ok (isBase_start p) h
    rw [List.reverse_reverse] at layout way there
    refine ⟨layout, ?_, there⟩
    rw [locate, sound]
    exact way

/-- A file is written where its path leads, and never over a directory. -/
theorem write_eq_ok {tree after : FileTree} {p : Path} {content : List UInt8}
    (h : tree.write p content = .ok after) : tree.locate p = .ok (place p) ∧
      tree.get? (place p) ≠ some .directory ∧
      after.get? = Layout.withFile (place p) content tree.get? := by
  unfold write at h
  cases way : tree.locate p with
  | error fault =>
    rw [way] at h
    cases h
  | ok q =>
    obtain rfl := (locate_eq_ok way).1
    simp only [way, bind, Except.bind] at h
    split at h
    · cases h
    · next free =>
      cases h
      refine ⟨rfl, free, ?_⟩
      have apart : isBase (place p) = false := by
        rw [Bool.eq_false_iff]
        intro base
        exact free (get?_of_isBase tree base)
      funext q
      exact get?_put tree apart _ q

theorem write_of_locate {tree : FileTree} {p : Path} (way : tree.locate p = .ok (place p))
    (free : tree.get? (place p) ≠ some .directory) (content : List UInt8) :
    ∃ after, tree.write p content = .ok after := by
  refine ⟨tree.put (place p) (.file content), ?_⟩
  simp only [write, way, bind, Except.bind]

theorem Layout.withFiles_apply (files : List (Place × List UInt8)) (l : Layout) (q : Place) :
    withFiles files l q =
      ((files.reverse.find? fun f => f.1 = q).map fun f => .file f.2).or (l q) := by
  induction files generalizing l with
  | nil => rfl
  | cons f fs ih =>
    rw [withFiles, List.foldl_cons, ← withFiles, ih, List.reverse_cons, List.find?_append]
    cases fs.reverse.find? fun f => f.1 = q with
    | some g => rfl
    | none =>
      by_cases here : f.1 = q
      · simp [here, withFile]
      · simp [here, Ne.symm here, withFile]

theorem isDirectoryAt_eq_true {tree : FileTree} {q : Place} :
    tree.isDirectoryAt q = true ↔ tree.get? q = some .directory := by
  simp [isDirectoryAt]

theorem get?_foldl_erase (tree : FileTree) (found : List Place) (start : FileTree) (q : Place) :
    (found.foldl (fun t q => if tree.isDirectoryAt q then t else t.erase q) start).get? q =
      if q ∈ found ∧ tree.get? q ≠ some .directory then none else start.get? q := by
  induction found generalizing start with
  | nil => simp
  | cons r rs ih =>
    rw [List.foldl_cons, ih]
    by_cases directory : tree.isDirectoryAt r = true
    · have ne : tree.get? q ≠ some .directory → q ≠ r := by
        rintro file rfl
        exact file (isDirectoryAt_eq_true.mp directory)
      rw [if_pos directory]
      by_cases file : tree.get? q ≠ some .directory
      · simp [ne file]
      · simp [file]
    · have apart : isBase r = false := by
        rw [Bool.eq_false_iff]
        intro base
        exact directory (isDirectoryAt_eq_true.mpr (get?_of_isBase tree base))
      rw [if_neg directory, get?_erase start apart]
      by_cases here : q = r
      · subst here
        have file : tree.get? q ≠ some .directory := mt isDirectoryAt_eq_true.mpr directory
        simp [file]
      · simp [here]

theorem eraseFiles_eq_ok {tree erased : FileTree} {place : Place} {pattern : List PathPattern}
    (h : tree.eraseFiles place pattern = .ok erased) :
    ∃ found, tree.select place pattern = .ok found ∧
      erased.get? = Layout.withoutFiles (fun q => decide (q ∈ found)) tree.get? := by
  unfold eraseFiles at h
  cases selected : tree.select place pattern with
  | error fault =>
    rw [selected] at h
    cases h
  | ok found =>
    rw [selected] at h
    cases h
    refine ⟨found, rfl, ?_⟩
    funext q
    simp only [get?_foldl_erase, Layout.withoutFiles, decide_eq_true_eq]

end ViewCases.FileTree
