import ViewCases.CommandLine.Run
import ViewCases.Proofs.Batch.Isolation
import ViewCases.Proofs.Output.Layout

/-! What a run does to the file tree. A run that ends before the writing leaves the tree as it
was. A run that writes makes the directory, removes earlier output on request and puts the
files that succeeded into the directory; everything else stays. -/
namespace ViewCases.CommandLine
open Text FileTree Batch

section
variable [Yaml.Loader] [Setting.Reader] [Source.Swift.Outliner]

/-- The run comes to the writing, with settings for its arguments and what it found in the
input. -/
structure Reaches (tree : FileTree) (env : Environment) (arguments : List Text) (s : Settings)
    (a : Arguments) (input : Text) (found : Interface) : Prop where
  parsed : Arguments.parse arguments = .ok (.run input a)
  loaded : Settings.load tree env a.config = .ok s
  logged : ∃ level, checkLogLevel s a = .ok level
  read : Interface.ofFile tree [] input = .ok found

variable {tree : FileTree} {env : Environment} {arguments : List Text} {s : Settings}
  {a : Arguments} {input : Text} {found : Interface}

theorem Reaches.run_eq (h : Reaches tree env arguments s a input found) :
    ∃ b, b.units = Category.all.filterMap (unitOf? s found.modifiers) ∧
      run tree env arguments = report tree (destination s a) b := by
  obtain ⟨level, logged⟩ := h.logged
  refine ⟨{ ofModifiers s input found.modifiers with issues := found.issues },
    units_eq s input found.modifiers, ?_⟩
  simp only [run, h.parsed, h.loaded, runWith, logged, Batch.ofFile, h.read, Except.map]

theorem run_ended {code : Nat} (ended : (run tree env arguments).exit = .ok code) :
    (Arguments.parse arguments = .ok .help ∨ Arguments.parse arguments = .ok .version) ∨
      (code = exitBadInput ∧ (run tree env arguments).tree = tree ∧
        ∀ s a input found, ¬Reaches tree env arguments s a input found) ∨
      ∃ s a input found, Reaches tree env arguments s a input found := by
  -- Stage by stage: each ends the run or hands on what `Reaches` asks for.
  cases parsed : Arguments.parse arguments with
  | error e =>
    simp only [run, parsed] at ended ⊢
    cases ended
    refine .inr (.inl ⟨rfl, trivial, ?_⟩)
    intro s a input found h
    cases parsed.symm.trans h.parsed
  | ok request =>
    cases request with
    | help => exact .inl (.inl rfl)
    | version => exact .inl (.inr rfl)
    | run input a =>
      right
      cases loaded : Settings.load tree env a.config with
      | error fault =>
        left
        simp only [run, parsed, loaded] at ended ⊢
        split at ended
        · cases ended
          refine ⟨rfl, trivial, ?_⟩
          intro s a' input' found h
          cases parsed.symm.trans h.parsed
          cases loaded.symm.trans h.loaded
        · cases ended
      | ok s =>
        cases logged : checkLogLevel s a with
        | error fault =>
          simp only [run, parsed, loaded, runWith, logged] at ended
          cases ended
        | ok level =>
          cases read : Interface.ofFile tree [] input with
          | error fault =>
            left
            simp only [run, parsed, loaded, runWith, logged, Batch.ofFile, read,
              Except.map] at ended ⊢
            cases ended
            refine ⟨rfl, trivial, ?_⟩
            intro s' a' input' found h
            cases parsed.symm.trans h.parsed
            cases read.symm.trans h.read
          | ok found => exact .inr ⟨s, a, input, found, parsed, loaded, ⟨level, logged⟩, read⟩

end

theorem report_ended {tree : FileTree} {d : Destination} {b : Batch} {code : Nat}
    (ended : (report tree d b).exit = .ok code) :
    (∃ written, (Output.write d tree b.units).written = .ok written) ∧
      (report tree d b).tree = (Output.write d tree b.units).tree ∧
      code = if b.units.all (·.isSuccessful) then exitDone else exitIncomplete := by
  have all : b.isSuccessful = b.units.all (·.isSuccessful) := by
    rw [Bool.eq_iff_iff]
    simp [isSuccessful, failedUnits]
  cases wrote : (Output.write d tree b.units).written with
  | error fault =>
    simp only [report, wrote] at ended
    cases ended
  | ok written =>
    simp only [report, wrote, Except.ok.injEq] at ended ⊢
    exact ⟨⟨written, rfl⟩, trivial, by rw [← ended, all]⟩

theorem report_of_written {tree : FileTree} {d : Destination} {b : Batch} {written : List Path}
    (h : (Output.write d tree b.units).written = .ok written) :
    ∃ code, (report tree d b).exit = .ok code := by
  simp only [report, h]
  exact ⟨_, rfl⟩

section
variable {s : Settings} {ms : List Modifier} {u : EnumFile}

theorem fileName_of_unit (mem : u ∈ Category.all.filterMap (unitOf? s ms))
    (successful : u.isSuccessful = true) :
    ∃ c : Category, u.fileName = s.unionName c.label ++ s.fileExtension ∧
      WordText (s.unionName c.label) := by
  obtain ⟨c, -, made⟩ := List.mem_filterMap.mp mem
  obtain ⟨g, -, rfl⟩ := Option.map_eq_some_iff.mp made
  obtain ⟨named, valid⟩ := fileName_of_isSuccessful successful
  exact ⟨g.category, named, wordText_of_isValidTypeName valid⟩

theorem place_of_unit (d : Destination) (plain : PlainEnding s.fileExtension)
    (mem : u ∈ Category.all.filterMap (unitOf? s ms)) (successful : u.isSuccessful = true) :
    place (Output.pathOf d u) = place d.directory ++ [u.fileName] := by
  obtain ⟨c, named, word⟩ := fileName_of_unit mem successful
  exact Output.place_pathOf word plain.not_mem_slash named

end

theorem ready_of_some {d : Destination} {l : Layout} {q : Place} {entry : Entry}
    (h : l q = some entry) :
    Output.ready d l q = some entry ∨ (entry ≠ .directory ∧ d.removesEarlier = true ∧
      endsIn (place d.directory) d.fileExtension q = true) := by
  have there : Layout.withDirectories (places d.directory) l q = some entry := by
    simp [Layout.withDirectories, h]
  unfold Output.ready
  split
  · next on =>
    by_cases earlier : endsIn (place d.directory) d.fileExtension q = true ∧
        some entry ≠ some .directory
    · exact .inr ⟨fun eq => earlier.2 (congrArg some eq), on, earlier.1⟩
    · left
      rw [Layout.withoutFiles, there, if_neg earlier]
  · exact .inl there

theorem withFiles_of_some {d : Destination} {files : List EnumFile} {l : Layout} {q : Place}
    {entry : Entry} (h : l q = some entry)
    (free : ∀ u ∈ files, Output.ready d l (place (Output.pathOf d u)) ≠ some .directory) :
    Layout.withFiles (Output.placed d files) (Output.ready d l) q = some entry ∨
      (entry ≠ .directory ∧
        ((d.removesEarlier = true ∧ endsIn (place d.directory) d.fileExtension q = true) ∨
          ∃ u ∈ files, q = place (Output.pathOf d u))) := by
  rcases ready_of_some (d := d) h with stays | ⟨file, on, ends⟩
  · rw [Layout.withFiles_apply]
    cases replaced : (Output.placed d files).reverse.find? fun f => f.1 = q with
    | none => exact .inl stays
    | some f =>
      obtain ⟨u, hu, rfl⟩ := List.mem_map.mp (List.mem_reverse.mp (List.mem_of_find?_eq_some replaced))
      have here : place (Output.pathOf d u) = q := by simpa using List.find?_some replaced
      refine .inr ⟨?_, .inr ⟨u, hu, here.symm⟩⟩
      rintro rfl
      apply free u hu
      rw [here]
      exact stays
  · exact .inr ⟨file, .inl ⟨on, ends⟩⟩

theorem Reaches.ends [Yaml.Loader] [Setting.Reader] [Source.Swift.Outliner]
    {tree made cleaned : FileTree} {env : Environment} {arguments : List Text} {s : Settings}
    {a : Arguments} {input : Text} {found : Interface}
    (h : Reaches tree env arguments s a input found)
    (done : tree.makeDirectory (destination s a).directory = (made, none))
    (removed : (if (destination s a).removesEarlier then Output.clean (destination s a) made
      else .ok made) = .ok cleaned)
    (free : ∀ c ∈ Category.all, Output.Writable cleaned
      ((destination s a).directory.join (.ofText (s.unionName c.label ++ s.fileExtension)))) :
    ∃ code, (run tree env arguments).exit = .ok code := by
  obtain ⟨b, inOrder, eq⟩ := h.run_eq
  have wrote : ∃ paths, (Output.write (destination s a) tree b.units).written = .ok paths := by
    refine Output.write_of_steps done removed ?_
    intro u mem successful
    rw [inOrder] at mem
    obtain ⟨c, named, -⟩ := fileName_of_unit mem successful
    rw [Output.pathOf, named]
    exact free c (Category.mem_all c)
  obtain ⟨paths, wrote⟩ := wrote
  rw [eq]
  exact report_of_written wrote

/-- The effect of a run on the file tree, by its exit code. If the code is 2, nothing is
changed and nothing would have been written. Otherwise the code tells whether a category
failed, and the tree is the old one with the directories, without earlier output, and with
the files that succeeded, in the order of the categories. What stood in the tree is still
there unless it is a file that one of these steps names. -/
theorem run_effect [Yaml.Loader] [Setting.Reader] [Source.Swift.Outliner] {tree : FileTree}
    {env : Environment} {arguments : List Text} {code : Nat}
    (noHelp : Arguments.parse arguments ≠ .ok .help)
    (noVersion : Arguments.parse arguments ≠ .ok .version)
    (plain : ∀ s a input found, Reaches tree env arguments s a input found →
      PlainEnding s.fileExtension)
    (ended : (run tree env arguments).exit = .ok code) :
    let after := (run tree env arguments).tree
    (code = 2 ∧ after = tree ∧ ∀ s a input found, ¬Reaches tree env arguments s a input found) ∨
    ∃ s a input found, Reaches tree env arguments s a input found ∧
      let d := destination s a
      let units := Category.all.filterMap (unitOf? s found.modifiers)
      let written := units.filter (·.isSuccessful)
      (code = if units.all (·.isSuccessful) then 0 else 1) ∧
      after.get? = Layout.withFiles
        (written.map fun u => (place d.directory ++ [u.fileName], Utf8.encode u.source))
        (Output.ready d tree.get?) ∧
      ∀ q entry, tree.get? q = some entry → after.get? q = some entry ∨
        (entry ≠ .directory ∧
          ((d.removesEarlier = true ∧ endsIn (place d.directory) s.fileExtension q = true) ∨
            ∃ u ∈ written, q = place d.directory ++ [u.fileName])) := by
  intro after
  rcases run_ended ended with (help | version) | bad | ⟨s, a, input, found, reached⟩
  · exact absurd help noHelp
  · exact absurd version noVersion
  · exact .inl bad
  · right
    refine ⟨s, a, input, found, reached, ?_⟩
    intro d units written
    have plain := plain s a input found reached
    obtain ⟨b, inOrder, ran⟩ := reached.run_eq
    rw [ran] at ended
    obtain ⟨⟨paths, wrote⟩, left, exit⟩ := report_ended ended
    rw [inOrder] at wrote left exit
    obtain ⟨layout, free⟩ := Output.get?_write plain wrote
    -- The writer goes by paths; with a plain ending each of them is one name in the directory.
    have named : Output.placed d written =
        written.map fun u => (place d.directory ++ [u.fileName], Utf8.encode u.source) := by
      apply List.map_congr_left
      intro u hu
      obtain ⟨mem, successful⟩ := List.mem_filter.mp hu
      rw [place_of_unit d plain mem successful]
    have whole : after.get? = Layout.withFiles (Output.placed d written)
        (Output.ready d tree.get?) := by
      simp only [after]
      rw [ran, left, layout]
    refine ⟨exit, by rw [whole, named], ?_⟩
    intro q entry there
    have inUnits : ∀ u ∈ written, u ∈ units ∧ u.isSuccessful = true :=
      fun u hu => List.mem_filter.mp hu
    rcases withFiles_of_some there fun u hu => free u (inUnits u hu).1 (inUnits u hu).2
      with stays | ⟨file, removed | ⟨u, hu, here⟩⟩
    · exact .inl (whole ▸ stays)
    · exact .inr ⟨file, .inl removed⟩
    · refine .inr ⟨file, .inr ⟨u, hu, ?_⟩⟩
      rw [here, place_of_unit d plain (inUnits u hu).1 (inUnits u hu).2]

theorem run_effect_clean :
    let source : Text := "extension View \x7b public func bold() -> some View \x7b self \x7d \x7d"
    let tree : FileTree := ⟨[(["a.swift"], .file (Utf8.encode source)), (["out"], .directory),
      (["out", "Old.swift"], .file []), (["out", "notes.txt"], .file [65])]⟩
    let arguments : List Text := ["-i", "a.swift", "-o", "out", "--clean"]
    ∃ code, (run tree [] arguments).exit = .ok code ∧ code ≠ 2 ∧
      (run tree [] arguments).tree.get? ["out", "Old.swift"] = none ∧
      (run tree [] arguments).tree.get? ["out", "notes.txt"] = some (.file [65]) := by
  intro source tree arguments
  let a : Arguments := { input := some "a.swift", output := some "out", clean := true }
  let d := destination {} a
  let cleaned : FileTree := ⟨[(["a.swift"], .file (Utf8.encode source)), (["out"], .directory),
      (["out", "notes.txt"], .file [65])]⟩
  have read : ∃ found, Interface.ofFile tree [] "a.swift" = .ok found := by
    have content : tree.contentAt? "a.swift" = some (Utf8.encode source) := by decide +kernel
    have text : FileTree.textOf (Utf8.encode source) = .ok source := by decide +kernel
    refine ⟨Interface.ofSource (.ofPath "a.swift") (Interface.relativePath [] "a.swift") source, ?_⟩
    simp only [Interface.ofFile, content, text]
  obtain ⟨found, read⟩ := read
  have reached : Reaches tree [] arguments {} a "a.swift" found :=
    ⟨by decide +kernel, by decide +kernel, ⟨.info, by decide +kernel⟩, read⟩
  have removed : Output.clean d tree = .ok cleaned := by decide +kernel
  have free : ∀ c ∈ Category.all, Output.Writable cleaned
      (d.directory.join (.ofText (Settings.unionName {} c.label ++ ".swift"))) := by
    decide +kernel
  obtain ⟨code, ended⟩ := reached.ends
    (by decide +kernel : tree.makeDirectory d.directory = (tree, none)) removed free
  have noHelp : Arguments.parse arguments ≠ .ok .help := by
    rw [reached.parsed]
    simp
  have noVersion : Arguments.parse arguments ≠ .ok .version := by
    rw [reached.parsed]
    simp
  have plain : ∀ s a' input found', Reaches tree [] arguments s a' input found' →
      PlainEnding s.fileExtension := by
    intro s a' input found' h
    cases reached.parsed.symm.trans h.parsed
    cases reached.loaded.symm.trans h.loaded
    decide +kernel
  rcases run_effect noHelp noVersion plain ended with
    ⟨-, -, never⟩ | ⟨s, a', input, found', h, exit, layout, stays⟩
  · exact absurd reached (never {} a "a.swift" found)
  · cases reached.parsed.symm.trans h.parsed
    cases reached.loaded.symm.trans h.loaded
    have directory : place d.directory = ["out"] := by decide +kernel
    have names : ∀ u ∈ (Category.all.filterMap (unitOf? {} found'.modifiers)).filter
        (·.isSuccessful), u.fileName ≠ "Old.swift" ∧ u.fileName ≠ "notes.txt" := by
      intro u hu
      obtain ⟨mem, successful⟩ := List.mem_filter.mp hu
      obtain ⟨c, named, -⟩ := fileName_of_unit mem successful
      rw [named]
      cases c <;> decide +kernel
    have apart : ∀ (u : EnumFile) (name : Text), u.fileName ≠ name →
        place d.directory ++ [u.fileName] ≠ ([ "out", name ] : Place) := by
      intro u name other here
      rw [directory] at here
      exact other (List.cons.inj (List.cons.inj here).2).1
    have good : code ≠ 2 := by
      rw [exit]
      split <;> decide
    refine ⟨code, ended, good, ?_, ?_⟩
    · rw [layout, Layout.withFiles_apply, List.find?_eq_none.mpr, Option.map_none, Option.none_or]
      · decide +kernel
      · intro f hf here
        obtain ⟨u, hu, rfl⟩ := List.mem_map.mp (List.mem_reverse.mp hf)
        exact apart u "Old.swift" (names u hu).1 (of_decide_eq_true here)
    · have there := stays ["out", "notes.txt"] (.file [65]) (by decide +kernel)
      refine there.resolve_right ?_
      rintro ⟨-, ⟨-, ends⟩ | ⟨u, hu, here⟩⟩
      · exact absurd ends (by decide +kernel)
      · exact apart u "notes.txt" (names u hu).2 here.symm

end ViewCases.CommandLine
