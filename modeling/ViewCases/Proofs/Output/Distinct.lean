import Mathlib.Data.List.Find
import Mathlib.Data.Set.Card
import ViewCases.Proofs.Output.Layout

/-! Generated files that would take each other's place. A file is named for its enum, and
nothing keeps two categories from having an enum of the same name. Written into a directory
where nothing stands, the files keep apart exactly if the names of their enums differ. -/
namespace ViewCases
open Text FileTree

namespace FileTree

theorem Place.reached_mem_along (base : Place) (names : List Text) (name : Text)
    (rest : List Text) :
    reached base (names ++ [name]) ∈ along base (names ++ name :: rest) := by
  induction names generalizing base with
  | nil => exact List.mem_cons_self
  | cons n ns ih => exact List.mem_cons_of_mem _ (ih (enter base n))

theorem isBase_child {directory : Place} {name ending : Text} (word : WordText name) :
    isBase (directory ++ [name ++ ending]) = false := by
  obtain ⟨c, cs, rfl, first⟩ := word.head_isWord
  have point : c ≠ '.' := ne_of_isWord first (by decide)
  have slash : c ≠ '/' := ne_of_isWord first (by decide)
  rw [Bool.eq_false_iff]
  intro base
  simp only [isBase, Bool.or_eq_true, List.all_eq_true, decide_eq_true_eq, beq_iff_eq] at base
  rcases base with dots | root
  · have := dots ((c :: cs) ++ ending) (List.mem_append_right _ List.mem_cons_self)
    exact point (List.cons.inj this).1
  · have last := congrArg List.getLast? root
    rw [List.getLast?_concat] at last
    exact slash (List.cons.inj (Option.some.inj last)).1

theorem get?_child {tree : FileTree} {q : Place} (empty : tree.children q.dropLast = [])
    (below : isBase q = false) : tree.get? q = none := by
  rw [get?_of_not_isBase tree below, Option.map_eq_none_iff]
  apply List.find?_eq_none.mpr
  intro e mem here
  have here : e.1 = q := of_decide_eq_true here
  have named : q ≠ [] := by
    rintro rfl
    cases below
  have : e.1 ∈ tree.children q.dropLast := by
    refine List.mem_filter.mpr ⟨List.mem_map_of_mem mem, ?_⟩
    rw [here]
    simp [named]
  rw [empty] at this
  cases this

end FileTree

namespace Output

variable {d : Destination} {tree : FileTree} {units : List EnumFile} {written : List Path}

/-- The name that a file has in a directory where nothing stands: what follows a slash in the
ending adds nothing to it. -/
def shortEnding (ending : Text) : Text :=
  ending.takeWhile (· ≠ '/')

theorem place_pathOf_of_empty {name ending : Text} {u : EnumFile} (word : WordText name)
    (empty : ∀ q, q.dropLast = place d.directory → isBase q = false → tree.get? q = none)
    (named : u.fileName = name ++ ending) (free : Writable tree (pathOf d u)) :
    place (pathOf d u) = place d.directory ++ [name ++ shortEnding ending] := by
  obtain ⟨relative, rest, parts, -⟩ := Path.ofText_word word ending
  have there := place_pathOf_reached (d := d) word named
  rw [parts] at there
  cases rest with
  | nil =>
    rw [there]
    exact enter_word word _
  | cons next rest =>
    -- A further name would lead through the place of the file, where nothing stands.
    obtain ⟨-, -, way⟩ := locate_eq_ok free.1
    obtain ⟨-, before⟩ := follow_eq_ok way
    have start : Place.start (pathOf d u) = Place.start d.directory := by
      simp [pathOf, named, Path.join, relative, Place.start]
    have further : next :: rest ≠ [] := List.cons_ne_nil next rest
    have whole : (pathOf d u).parts = (d.directory.parts ++
        (name ++ shortEnding ending) :: (next :: rest).dropLast) ++
          [(next :: rest).getLast further] := by
      have cut := List.dropLast_append_getLast further
      rw [List.append_assoc, List.cons_append, cut, pathOf, named,
        Path.join_parts_of_relative relative, parts]
      rfl
    have passed := before _ _ whole _ (List.mem_cons_of_mem _
      (Place.reached_mem_along _ d.directory.parts _ _))
    rw [start, Place.reached, List.foldl_append] at passed
    have nothing := empty (place d.directory ++ [name ++ shortEnding ending])
      List.dropLast_concat (isBase_child word)
    rw [← enter_word word] at nothing
    cases nothing.symm.trans passed

def filesIn (tree : FileTree) (directory : Place) : Set Place :=
  {q | q.dropLast = directory ∧ ∃ content, tree.get? q = some (.file content)}

theorem exists_find?_reverse {us : List EnumFile} {u : EnumFile} (mem : u ∈ us) :
    ∃ v, us.reverse.find? (·.fileName = u.fileName) = some v :=
  Option.isSome_iff_exists.mp (List.find?_isSome.mpr ⟨u, List.mem_reverse.mpr mem, by simp⟩)

theorem find?_reverse_of_nodup {us : List EnumFile} (distinct : (us.map (·.fileName)).Nodup)
    {u : EnumFile} (mem : u ∈ us) : us.reverse.find? (·.fileName = u.fileName) = some u := by
  obtain ⟨v, found⟩ := exists_find?_reverse mem
  have name : v.fileName = u.fileName := by simpa using List.find?_some found
  have inside : v ∈ us := List.mem_reverse.mp (List.mem_of_find?_eq_some found)
  rw [found, List.inj_on_of_nodup_map distinct inside mem name]

theorem place_pathOf_eq_iff {name name' ending : Text} {u v : EnumFile} (word : WordText name)
    (word' : WordText name')
    (empty : ∀ q, q.dropLast = place d.directory → isBase q = false → tree.get? q = none)
    (named : u.fileName = name ++ ending) (named' : v.fileName = name' ++ ending)
    (free : Writable tree (pathOf d u)) (free' : Writable tree (pathOf d v)) :
    place (pathOf d u) = place (pathOf d v) ↔ u.fileName = v.fileName := by
  rw [place_pathOf_of_empty word empty named free, place_pathOf_of_empty word' empty named' free',
    named, named']
  simp

theorem get?_of_fresh {made cleaned : FileTree}
    (removed : (if d.removesEarlier then clean d made else .ok made) = .ok cleaned)
    (fresh : made.children (place d.directory) = []) {q : Place}
    (inside : q.dropLast = place d.directory) (below : isBase q = false) :
    cleaned.get? q = none := by
  have absent := get?_child (inside ▸ fresh) below
  split at removed
  · obtain ⟨places, erased⟩ := clean_eq_ok removed
    rw [erased, Layout.withoutFiles, absent]
    split <;> rfl
  · cases removed
    exact absent

section
variable {files : List EnumFile} {before after : FileTree}

theorem get?_pathOf {u : EnumFile} (stands : after.get? = Layout.withFiles (placed d files) before.get?)
    (apart : ∀ v ∈ files, place (pathOf d v) = place (pathOf d u) ↔ v.fileName = u.fileName)
    (mem : u ∈ files) : ∃ v, files.reverse.find? (·.fileName = u.fileName) = some v ∧
      after.get? (place (pathOf d u)) = some (.file (Utf8.encode v.source)) := by
  have search : (placed d files).reverse.find? (fun f => f.1 = place (pathOf d u)) =
      (files.reverse.find? (·.fileName = u.fileName)).map
        fun v => (place (pathOf d v), Utf8.encode v.source) := by
    rw [placed, ← List.map_reverse, List.find?_map]
    congr 1
    apply List.find?_congr
    intro v hv
    simp [apart v (List.mem_reverse.mp hv)]
  obtain ⟨v, found⟩ := exists_find?_reverse mem
  refine ⟨v, found, ?_⟩
  rw [stands, Layout.withFiles_apply, search, found]
  rfl

theorem exists_pathOf (stands : after.get? = Layout.withFiles (placed d files) before.get?)
    (empty : ∀ q, q.dropLast = place d.directory → isBase q = false → before.get? q = none)
    {q : Place} (mem : q ∈ filesIn after (place d.directory)) :
    ∃ u ∈ files, place (pathOf d u) = q := by
  obtain ⟨inside, content, here⟩ := mem
  rw [stands, Layout.withFiles_apply] at here
  cases replaced : (placed d files).reverse.find? fun f => f.1 = q with
  | some f =>
    obtain ⟨u, hu, rfl⟩ := List.mem_map.mp (List.mem_reverse.mp (List.mem_of_find?_eq_some replaced))
    exact ⟨u, hu, by simpa using List.find?_some replaced⟩
  | none =>
    rw [replaced] at here
    cases base : isBase q with
    | true => cases (get?_of_isBase before base).symm.trans here
    | false => cases (empty q inside base).symm.trans here

end

theorem write_into_empty {ending : Text}
    (named : ∀ u ∈ units, u.isSuccessful = true → ∃ name, WordText name ∧ u.fileName = name ++ ending)
    (fresh : (tree.makeDirectory d.directory).1.children (place d.directory) = [])
    (h : (write d tree units).written = .ok written) :
    let files := units.filter (·.isSuccessful)
    let after := (write d tree units).tree
    written = files.map (pathOf d) ∧
      (∀ u ∈ files, ∃ v, files.reverse.find? (·.fileName = u.fileName) = some v ∧
        after.content? (pathOf d u) = some (Utf8.encode v.source)) ∧
      filesIn after (place d.directory) = {q | ∃ u ∈ files, place (pathOf d u) = q} ∧
      ∀ u ∈ files, ∀ v ∈ files, place (pathOf d u) = place (pathOf d v) ↔
        u.fileName = v.fileName := by
  intro files after
  obtain ⟨made, cleaned, done, removed, eq⟩ := write_eq_steps h
  rw [eq] at h
  obtain ⟨paths, layout, same, free⟩ := writeUnits_eq_ok h
  rw [done] at fresh
  -- Where nothing stands in the directory, the place of a file is settled by its name.
  have empty : ∀ q, q.dropLast = place d.directory → isBase q = false → cleaned.get? q = none :=
    fun _ => get?_of_fresh removed fresh
  have stands : after.get? = Layout.withFiles (placed d files) cleaned.get? := by
    rw [← layout]
    simp only [after, eq]
  have word : ∀ u ∈ files, ∃ name, WordText name ∧ u.fileName = name ++ ending := by
    intro u hu
    obtain ⟨mem, successful⟩ := List.mem_filter.mp hu
    exact named u mem successful
  have apart : ∀ u ∈ files, ∀ v ∈ files, place (pathOf d u) = place (pathOf d v) ↔
      u.fileName = v.fileName := by
    intro u hu v hv
    obtain ⟨name, wu, nu⟩ := word u hu
    obtain ⟨name', wv, nv⟩ := word v hv
    exact place_pathOf_eq_iff wu wv empty nu nv (free u hu) (free v hv)
  refine ⟨paths, ?_, ?_, apart⟩
  · intro u hu
    have way : Writable after (pathOf d u) := by
      simp only [after, eq]
      exact (same _).mpr (free u hu)
    obtain ⟨v, found, here⟩ := get?_pathOf stands (fun v hv => apart v hv u hu) hu
    exact ⟨v, found, by simp only [content?, find?, way.1, here]⟩
  · ext q
    constructor
    · exact exists_pathOf stands empty
    · rintro ⟨u, hu, rfl⟩
      obtain ⟨v, -, here⟩ := get?_pathOf stands (fun v hv => apart v hv u hu) hu
      obtain ⟨name, wu, nu⟩ := word u hu
      refine ⟨?_, _, here⟩
      rw [place_pathOf_of_empty wu empty nu (free u hu), List.dropLast_concat]

theorem nodup_map_congr {α β γ : Type} {f : α → β} {g : α → γ} {xs : List α}
    (h : ∀ x ∈ xs, ∀ y ∈ xs, f x = f y ↔ g x = g y) : (xs.map f).Nodup ↔ (xs.map g).Nodup := by
  rw [List.Nodup, List.Nodup, List.pairwise_map, List.pairwise_map]
  apply List.Pairwise.iff_of_mem
  intro x y hx hy
  exact not_congr (h x hx y hy)

theorem ncard_eq_length_iff {α β : Type} (f : α → β) (xs : List α) :
    {b | ∃ a ∈ xs, f a = b}.ncard = xs.length ↔ (xs.map f).Nodup := by
  classical
  have set : {b | ∃ a ∈ xs, f a = b} = ((xs.map f).toFinset : Set β) := by
    ext b
    simp
  rw [set, Set.ncard_coe_finset, List.card_toFinset, ← List.length_map f, ← List.dedup_eq_self]
  constructor
  · intro same
    exact (List.dedup_sublist _).eq_of_length same
  · intro eq
    rw [eq]

end Output

namespace Batch

variable {s : Settings} {ms : List Modifier}

def written (s : Settings) (ms : List Modifier) : List Group :=
  (groups s ms).filter fun g => (unit s g.category.label g.members).isSuccessful

theorem units_filter (sourcePath : Text) :
    (ofModifiers s sourcePath ms).units.filter (·.isSuccessful) =
      (written s ms).map fun g => unit s g.category.label g.members := by
  rw [ofModifiers, List.filter_map]
  rfl

theorem fileName_of_mem_written {g : Group} (h : g ∈ written s ms) :
    (unit s g.category.label g.members).fileName =
        s.unionName g.category.label ++ s.fileExtension ∧
      WordText (s.unionName g.category.label) := by
  obtain ⟨named, valid⟩ := fileName_of_isSuccessful (List.mem_filter.mp h).2
  exact ⟨named, wordText_of_isValidTypeName valid⟩

theorem nodup_fileName (sourcePath : Text) :
    (((ofModifiers s sourcePath ms).units.filter (·.isSuccessful)).map (·.fileName)).Nodup ↔
      ((written s ms).map fun g => s.unionName g.category.label).Nodup := by
  rw [units_filter, List.map_map]
  apply Output.nodup_map_congr
  intro g hg h hh
  simp only [Function.comp_apply, (fileName_of_mem_written hg).1, (fileName_of_mem_written hh).1,
    List.append_cancel_right_eq]

theorem nodup_unionName (h : s.unionNames = []) :
    ((written s ms).map fun g => s.unionName g.category.label).Nodup := by
  have name : ∀ c : Category, s.unionName c.label = c.label ++ s.unionSuffix := by
    intro c
    simp [Settings.unionName, h]
  have labels : ∀ c d : Category, c.label = d.label → c = d := by
    intro c d
    cases c <;> cases d <;> decide
  have categories : ((groups s ms).map (·.category)).Nodup := by
    rw [map_category_groups]
    exact List.Nodup.filter _ (by decide)
  rw [Output.nodup_map_congr (g := Group.category)]
  · exact categories.sublist (List.filter_sublist.map _)
  · intro g _ g' _
    simp only [name, List.append_cancel_right_eq]
    exact ⟨labels _ _, congrArg _⟩

/-- The files of a run, written into a directory where nothing stands. The writer names one
path for each. Each path holds the last file of its name, so that each file is found as it
was generated, and there are as many files as were written, exactly if no two of the enums
have one name. They have none in common if the settings name none of them. -/
theorem write_units {s : Settings} {sourcePath : Text} {ms : List Modifier} {d : Destination}
    {tree : FileTree} {paths : List Path}
    (fresh : (tree.makeDirectory d.directory).1.children (place d.directory) = [])
    (h : (Output.write d tree (ofModifiers s sourcePath ms).units).written = .ok paths) :
    let files := (ofModifiers s sourcePath ms).units.filter (·.isSuccessful)
    let after := (Output.write d tree (ofModifiers s sourcePath ms).units).tree
    let names := (written s ms).map fun g => s.unionName g.category.label
    paths = files.map (Output.pathOf d) ∧
      (∀ u ∈ files, ∃ v, files.reverse.find? (·.fileName = u.fileName) = some v ∧
        after.content? (Output.pathOf d u) = some (Utf8.encode v.source)) ∧
      (((∀ u ∈ files, after.content? (Output.pathOf d u) = some (Utf8.encode u.source)) ∧
          (Output.filesIn after (place d.directory)).ncard = files.length) ↔ names.Nodup) ∧
      (s.unionNames = [] → names.Nodup) := by
  intro files after names
  have named : ∀ u ∈ (ofModifiers s sourcePath ms).units, u.isSuccessful = true →
      ∃ name, WordText name ∧ u.fileName = name ++ s.fileExtension := by
    intro u mem successful
    have : u ∈ files := List.mem_filter.mpr ⟨mem, successful⟩
    simp only [files, units_filter] at this
    obtain ⟨g, hg, rfl⟩ := List.mem_map.mp this
    obtain ⟨named, word⟩ := fileName_of_mem_written hg
    exact ⟨_, word, named⟩
  obtain ⟨eq, last, there, apart⟩ := Output.write_into_empty named fresh h
  have distinct : (files.map (·.fileName)).Nodup ↔ names.Nodup := nodup_fileName sourcePath
  have count : (Output.filesIn after (place d.directory)).ncard = files.length ↔
      names.Nodup := by
    rw [there, Output.ncard_eq_length_iff, Output.nodup_map_congr apart]
    exact distinct
  refine ⟨eq, last, ⟨fun claim => count.mp claim.2, fun unique => ⟨?_, count.mpr unique⟩⟩,
    nodup_unionName⟩
  intro u hu
  obtain ⟨v, found, content⟩ := last u hu
  rw [Output.find?_reverse_of_nodup (distinct.mpr unique) hu] at found
  cases found
  exact content

theorem write_units_apart :
    let m : Text → Modifier := fun name => ⟨name, [], "V", none, none, false, [], []⟩
    let units := (ofModifiers {} "f" [m "bold", m "frame"]).units
    let d : Destination := ⟨.ofText "out", true, ".swift"⟩
    let out := Output.write d {} units
    ((FileTree.makeDirectory {} d.directory).1.children (place d.directory) = [] ∧
      out.written = .ok [.ofText "out/LayoutModifier.swift", .ofText "out/TextModifier.swift"]) ∧
      (∀ u ∈ units.filter (·.isSuccessful),
        out.tree.content? (Output.pathOf d u) = some (Utf8.encode u.source)) ∧
      (Output.filesIn out.tree (place d.directory)).ncard =
        (units.filter (·.isSuccessful)).length := by
  intro m units d out
  have ran : (FileTree.makeDirectory {} d.directory).1.children (place d.directory) = [] ∧
      out.written = .ok [.ofText "out/LayoutModifier.swift", .ofText "out/TextModifier.swift"] := by
    decide +kernel
  obtain ⟨-, -, claim, unnamed⟩ := write_units (s := {}) ran.1 ran.2
  exact ⟨ran, claim.mpr (unnamed rfl)⟩

/-- Two categories with one name for their enums: both files count as written, and only the
second is there. -/
theorem write_units_shared :
    let m : Text → Modifier := fun name => ⟨name, [], "V", none, none, false, [], []⟩
    let s : Settings := { unionNames := [("Layout", "X"), ("Text", "X")] }
    let units := (ofModifiers s "f" [m "bold", m "frame"]).units
    let d : Destination := ⟨.ofText "out", false, ".swift"⟩
    let out := Output.write d {} units
    (FileTree.makeDirectory {} d.directory).1.children (place d.directory) = [] ∧
      out.written = .ok [.ofText "out/X.swift", .ofText "out/X.swift"] ∧
      (units.filter (·.isSuccessful)).length = 2 ∧
      out.tree.entries.map (·.1) = ([["out"], ["out", "X.swift"]] : List Place) ∧
      ¬∀ u ∈ units.filter (·.isSuccessful),
        out.tree.content? (Output.pathOf d u) = some (Utf8.encode u.source) := by
  decide +kernel

end Batch
end ViewCases
