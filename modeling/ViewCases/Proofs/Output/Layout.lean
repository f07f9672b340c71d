import Mathlib.Data.List.TakeWhile
import ViewCases.Output
import ViewCases.Proofs.Batch.Conservation
import ViewCases.Proofs.FileTree.Ending

/-! What writing makes of a tree: directories where they are missing, then nothing where
earlier output stood, then the files one after another. A file is at the place of its name in
the directory, because the name of an enum that was generated is one word. -/
namespace ViewCases
open Text FileTree

namespace Output

variable {d : Destination} {tree : FileTree} {units : List EnumFile} {written : List Path}

def placed (d : Destination) (units : List EnumFile) : List (Place × List UInt8) :=
  units.map fun u => (place (pathOf d u), Utf8.encode u.source)

/-- A file can be written there: the way to the place is known and no directory is there. -/
def Writable (tree : FileTree) (p : Path) : Prop :=
  tree.locate p = .ok (place p) ∧ tree.get? (place p) ≠ some .directory

instance (tree : FileTree) (p : Path) : Decidable (Writable tree p) :=
  inferInstanceAs (Decidable (_ ∧ _))

theorem writable_withFile {tree' : FileTree} {p q : Path} {content : List UInt8}
    (free : tree.get? (place p) ≠ some .directory)
    (layout : tree'.get? = Layout.withFile (place p) content tree.get?) :
    Writable tree' q ↔ Writable tree q := by
  have directories : ∀ r, tree'.get? r = some .directory ↔ tree.get? r = some .directory := by
    intro r
    rw [layout, Layout.withFile]
    split
    · next here =>
      rw [here]
      simp [free]
    · exact Iff.rfl
  have way : tree'.locate q = .ok (place q) ↔ tree.locate q = .ok (place q) := by
    constructor
    · intro h
      obtain ⟨-, sound, follows⟩ := locate_eq_ok h
      rw [locate, sound]
      exact follow_mono (fun r => (directories r).mp) follows
    · intro h
      obtain ⟨-, sound, follows⟩ := locate_eq_ok h
      rw [locate, sound]
      exact follow_mono (fun r => (directories r).mpr) follows
  rw [Writable, Writable, way, ne_eq, ne_eq, directories]

/-- Files are written over files or where nothing stood, so the way to a file is the same for
all of them. -/
theorem writeUnits_eq_ok (h : (writeUnits d tree units).written = .ok written) :
    written = units.map (pathOf d) ∧
      (writeUnits d tree units).tree.get? = Layout.withFiles (placed d units) tree.get? ∧
      (∀ p, Writable (writeUnits d tree units).tree p ↔ Writable tree p) ∧
      ∀ u ∈ units, Writable tree (pathOf d u) := by
  induction units generalizing tree written with
  | nil =>
    cases h
    exact ⟨rfl, rfl, fun _ => Iff.rfl, by simp⟩
  | cons u us ih =>
    cases wrote : tree.write (pathOf d u) (Utf8.encode u.source) with
    | error fault =>
      simp only [writeUnits, wrote] at h
      cases h
    | ok next =>
      cases later : (writeUnits d next us).written with
      | error fault =>
        simp only [writeUnits, wrote, later] at h
        cases h
      | ok others =>
        simp only [writeUnits, wrote, later] at h ⊢
        cases h
        obtain ⟨way, free, layout⟩ := write_eq_ok wrote
        obtain ⟨paths, after, same, found⟩ := ih later
        refine ⟨by rw [paths, List.map_cons], by rw [after, layout]; rfl,
          fun p => (same p).trans (writable_withFile free layout), ?_⟩
        rw [List.forall_mem_cons]
        exact ⟨⟨way, free⟩, fun v hv => (writable_withFile free layout).mp (found v hv)⟩

theorem writeUnits_of_writable (h : ∀ u ∈ units, Writable tree (pathOf d u)) :
    ∃ paths, (writeUnits d tree units).written = .ok paths := by
  induction units generalizing tree with
  | nil => exact ⟨[], rfl⟩
  | cons u us ih =>
    obtain ⟨⟨way, free⟩, later⟩ := List.forall_mem_cons.mp h
    obtain ⟨next, wrote⟩ := write_of_locate way free (Utf8.encode u.source)
    obtain ⟨-, -, layout⟩ := write_eq_ok wrote
    obtain ⟨paths, done⟩ := ih fun v hv => (writable_withFile free layout).mpr (later v hv)
    exact ⟨pathOf d u :: paths, by simp only [writeUnits, wrote, done, Except.map]⟩

theorem write_eq_steps (h : (write d tree units).written = .ok written) :
    ∃ made cleaned, tree.makeDirectory d.directory = (made, none) ∧
      (if d.removesEarlier then clean d made else .ok made) = .ok cleaned ∧
      write d tree units = writeUnits d cleaned (units.filter (·.isSuccessful)) := by
  unfold write at h ⊢
  split at h
  · cases h
  · next made done =>
    split at h
    · cases h
    · next cleaned removed => exact ⟨made, cleaned, done, removed, rfl⟩

theorem write_of_steps {made cleaned : FileTree}
    (done : tree.makeDirectory d.directory = (made, none))
    (removed : (if d.removesEarlier then clean d made else .ok made) = .ok cleaned)
    (free : ∀ u ∈ units, u.isSuccessful = true → Writable cleaned (pathOf d u)) :
    ∃ paths, (write d tree units).written = .ok paths := by
  simp only [write, done, removed]
  apply writeUnits_of_writable
  intro u hu
  obtain ⟨mem, successful⟩ := List.mem_filter.mp hu
  exact free u mem successful

theorem clean_eq_ok {cleaned : FileTree} (h : clean d tree = .ok cleaned) :
    ∃ places, cleaned.get? = Layout.withoutFiles places tree.get? := by
  have unchanged : tree.get? = Layout.withoutFiles (fun _ => false) tree.get? := by
    funext q
    simp [Layout.withoutFiles]
  unfold clean at h
  cases pattern : PathPattern.ofText ('*' :: d.fileExtension) with
  | error fault =>
    rw [pattern] at h
    cases h
  | ok pattern' =>
    simp only [pattern, Except.mapError, bind, Except.bind] at h
    split at h
    · split at h
      · cases h
      · next erased done =>
        cases h
        obtain ⟨found, -, layout⟩ := eraseFiles_eq_ok done
        exact ⟨_, layout⟩
    · cases h
      exact ⟨_, unchanged⟩

theorem clean_of_plain {made cleaned : FileTree} (plain : PlainEnding d.fileExtension)
    (located : made.locate d.directory = .ok (place d.directory))
    (h : clean d made = .ok cleaned) :
    cleaned.get? = Layout.withoutFiles (endsIn (place d.directory) d.fileExtension) made.get? := by
  unfold clean at h
  rw [PathPattern.ofText_star plain] at h
  simp only [Except.mapError, bind, Except.bind, located] at h
  split at h
  · cases h
  · next erased done =>
    cases h
    exact eraseFiles_star plain done

/-- The layout before the first file is written. -/
def ready (d : Destination) (l : Layout) : Layout :=
  (if d.removesEarlier then Layout.withoutFiles (endsIn (place d.directory) d.fileExtension)
    else id) (Layout.withDirectories (places d.directory) l)

theorem get?_write (plain : PlainEnding d.fileExtension)
    (h : (write d tree units).written = .ok written) :
    (write d tree units).tree.get? =
        Layout.withFiles (placed d (units.filter (·.isSuccessful))) (ready d tree.get?) ∧
      ∀ u ∈ units, u.isSuccessful = true →
        ready d tree.get? (place (pathOf d u)) ≠ some .directory := by
  obtain ⟨made, cleaned, done, removed, eq⟩ := write_eq_steps h
  obtain ⟨layout, located, -⟩ := makeDirectory_eq_ok done
  have before : cleaned.get? = ready d tree.get? := by
    rw [ready, ← layout]
    split at removed
    · next on =>
      rw [if_pos on]
      exact clean_of_plain plain located removed
    · next off =>
      cases removed
      rw [if_neg off]
      rfl
  rw [eq] at h ⊢
  obtain ⟨-, after, -, found⟩ := writeUnits_eq_ok h
  rw [after, before]
  refine ⟨rfl, fun u hu successful => ?_⟩
  rw [← before]
  exact (found u (List.mem_filter.mpr ⟨hu, successful⟩)).2

end Output

theorem Batch.fileName_of_isSuccessful {s : Settings} {label : Text} {ms : List Modifier}
    (h : (Batch.unit s label ms).isSuccessful = true) :
    (Batch.unit s label ms).fileName = s.unionName label ++ s.fileExtension ∧
      Identifier.isValidTypeName (s.unionName label) = true := by
  rcases Batch.unit_cases s label ms with ⟨f, made, eq⟩ | ⟨e, -, eq⟩
  · obtain ⟨-, valid, built, -, -, rfl⟩ := EnumFile.generate_eq_ok_iff.mp made
    rw [eq]
    exact ⟨rfl, valid⟩
  · rw [eq] at h
    cases h

theorem wordText_of_isValidTypeName {name : Text} (h : Identifier.isValidTypeName name = true) :
    WordText name := by
  cases name with
  | nil => cases h
  | cons c cs =>
    simp only [Identifier.isValidTypeName, Bool.and_eq_true, List.all_eq_true] at h
    exact ⟨by simp, h.2⟩

theorem Path.ofText_word {name : Text} (word : WordText name) (ending : Text) :
    (Path.ofText (name ++ ending)).root = [] ∧
      ∃ rest, (Path.ofText (name ++ ending)).parts =
        (name ++ ending.takeWhile (· ≠ '/')) :: rest ∧ ('/' ∉ ending → rest = []) := by
  obtain ⟨c, cs, rfl, first⟩ := word.head_isWord
  have slash : c ≠ '/' := ne_of_isWord first (by decide)
  have point : c ≠ '.' := ne_of_isWord first (by decide)
  have front : ∀ e ∈ (c :: cs) ++ ending.takeWhile (· ≠ '/'), decide (e = '/') = false := by
    intro e he
    rcases List.mem_append.mp he with he | he
    · simpa using ne_of_isWord (word.chars e he) (show isWord '/' = false by decide)
    · simpa using List.mem_takeWhile_imp he
  have named : isName ((c :: cs) ++ ending.takeWhile (· ≠ '/')) = true := by
    simp [isName, point]
  refine ⟨by simp [Path.ofText, rootOf, slash], ?_⟩
  have whole : ending.takeWhile (· ≠ '/') ++ ending.dropWhile (· ≠ '/') = ending :=
    List.takeWhile_append_dropWhile
  rw [Path.ofText]
  cases behind : ending.dropWhile (· ≠ '/') with
  | nil =>
    rw [behind, List.append_nil] at whole
    rw [whole] at front named
    exact ⟨[], by rw [splitBy_of_none front, List.filter_cons_of_pos named, whole]; rfl,
      fun _ => rfl⟩
  | cons e es =>
    have stop : decide (e = '/') = true := by
      have := List.head?_dropWhile_not (fun c : Char => decide (c ≠ '/')) ending
      rw [behind] at this
      simpa using this
    refine ⟨(splitBy (· = '/') es).filter isName, ?_, fun absent => ?_⟩
    · rw [behind] at whole
      rw [← List.filter_cons_of_pos named, ← splitBy_append front stop, List.append_assoc, whole]
    · have : e ∈ ending := by
        rw [← whole, behind]
        exact List.mem_append_right _ List.mem_cons_self
      have eq : e = '/' := of_decide_eq_true stop
      exact absurd (eq ▸ this) absent

namespace Output

variable {d : Destination} {u : EnumFile} {name ending : Text}

theorem place_pathOf_reached (word : WordText name) (named : u.fileName = name ++ ending) :
    place (pathOf d u) =
      Place.reached (place d.directory) (Path.ofText (name ++ ending)).parts := by
  obtain ⟨relative, -⟩ := Path.ofText_word word ending
  rw [pathOf, named]
  simp only [Path.join, relative, List.isEmpty_nil, if_true, place, Place.start, Place.reached,
    List.foldl_append]

theorem enter_word (word : WordText name) (directory : Place) :
    Place.enter directory (name ++ ending) = directory ++ [name ++ ending] := by
  obtain ⟨c, cs, rfl, first⟩ := word.head_isWord
  rw [Place.enter, if_neg]
  intro eq
  exact ne_of_isWord first (show isWord '.' = false by decide) (List.cons.inj eq).1

theorem place_pathOf (word : WordText name) (noSlash : '/' ∉ ending)
    (named : u.fileName = name ++ ending) :
    place (pathOf d u) = place d.directory ++ [u.fileName] := by
  obtain ⟨-, rest, parts, alone⟩ := Path.ofText_word word ending
  have uncut : ending.takeWhile (· ≠ '/') = ending := by
    rw [List.takeWhile_eq_self_iff]
    intro c hc
    have : c ≠ '/' := by
      rintro rfl
      exact noSlash hc
    simpa using this
  rw [place_pathOf_reached word named, parts, alone noSlash, uncut, named]
  exact enter_word word _

end Output
end ViewCases
