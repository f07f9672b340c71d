import ViewCases.Proofs.CommandLine.Effect
import ViewCases.Proofs.Settings.Fields
import ViewCases.Proofs.Settings.File

/-! What a run makes of bad configuration and bad input. Each trouble ends the run before
anything is written. Most of them end it with the exit code for bad input; a configuration
that YAML cannot read, a key that is no text, a path that is too long and an unknown log level
end it without any exit code. A configuration file has one trouble, the one that its loader comes
upon: a file that is no UTF-8 further on may be malformed before that. -/
namespace ViewCases
open Text FileTree Config

namespace CommandLine

/-- What can be wrong with the configuration or the input of a run. -/
inductive Trouble
  | configTooLong
  | configMissing
  | configNotUtf8
  | configMalformed (fault : Yaml.Fault)
  | configNotAMapping
  | configKeyIsNoText
  | badValue (s : Setting)
  | unknownLogLevel
  | inputMissing
  | inputNotUtf8
  deriving DecidableEq, Repr

def Trouble.isReported : Trouble → Bool
  | .configTooLong | .configKeyIsNoText | .unknownLogLevel => false
  | .configMalformed (.noSuchValue _) => true
  | .configMalformed _ => false
  | _ => true

def knowsLogLevel (s : Settings) (a : Arguments) : Prop :=
  a.verbose = true ∨ upper s.logLevel ∈ LogLevel.names.map (·.1)

section
variable [Yaml.Loader] [Setting.Reader]

/-- The trouble that a run meets, told by what stands in the tree and in the environment. -/
inductive Meets (tree : FileTree) (env : Environment) (input : Text) (a : Arguments) :
    Trouble → Prop
  | configTooLong {name : Text} : a.config = some name → name ≠ [] →
      tree.locate (.ofText name) = .error .tooLong → Meets tree env input a .configTooLong
  | configMissing {name : Text} : a.config = some name → name ≠ [] →
      tree.locate (.ofText name) ≠ .error .tooLong → tree.content? (.ofText name) = none →
      Meets tree env input a .configMissing
  | configNotUtf8 {content : List UInt8} {fault : Utf8.Fault} :
      tree.content? (.ofText (configName a.config)) = some content →
      Yaml.Loader.load content = .error (.notUtf8 fault) → Meets tree env input a .configNotUtf8
  | configMalformed {content : List UInt8} {fault : Yaml.Fault} :
      tree.content? (.ofText (configName a.config)) = some content →
      Yaml.Loader.load content = .error (.unusable fault) →
      Meets tree env input a (.configMalformed fault)
  | configNotAMapping {content : List UInt8} {v : Value} :
      tree.content? (.ofText (configName a.config)) = some content →
      Yaml.Loader.load content = .ok v → v.isVoid = false → (∀ entries, v ≠ .map entries) →
      Meets tree env input a .configNotAMapping
  | configKeyIsNoText {content : List UInt8} {entries : List (Value × Value)}
      {e : Value × Value} :
      tree.content? (.ofText (configName a.config)) = some content →
      Yaml.Loader.load content = .ok (.map entries) → e ∈ entries → e.1.isText = false →
      Meets tree env input a .configKeyIsNoText
  | badValue {entries : List (Text × Value)} {s : Setting} {v : Value} :
      Settings.fileEntries tree a.config = .ok entries → Settings.given env entries s = some v →
      s.accepts v = false → Meets tree env input a (.badValue s)
  | unknownLogLevel {s : Settings} : Settings.load tree env a.config = .ok s →
      ¬knowsLogLevel s a → Meets tree env input a .unknownLogLevel
  | inputMissing {s : Settings} : Settings.load tree env a.config = .ok s → knowsLogLevel s a →
      tree.contentAt? input = none → Meets tree env input a .inputMissing
  | inputNotUtf8 {s : Settings} {content : List UInt8} {fault : Utf8.Fault} :
      Settings.load tree env a.config = .ok s → knowsLogLevel s a →
      tree.contentAt? input = some content → textOf content = .error fault →
      Meets tree env input a .inputNotUtf8

theorem fileEntries_eq_error {tree : FileTree} {env : Environment} {input : Text} {a : Arguments}
    {fault : ConfigFault} (h : Settings.fileEntries tree a.config = .error fault) :
    ∃ t, Meets tree env input a t := by
  cases found : tree.content? (.ofText (configName a.config)) with
  | none =>
    cases config : a.config with
    | none =>
      rw [config] at h found
      simp only [configName] at found
      rw [Settings.fileEntries, found] at h
      cases h
    | some name =>
      rw [config] at h found
      cases name with
      | nil =>
        simp only [configName] at found
        rw [Settings.fileEntries, found] at h
        cases h
      | cons c cs =>
        by_cases long : tree.locate (.ofText (c :: cs)) = .error .tooLong
        · exact ⟨_, .configTooLong config (List.cons_ne_nil c cs) long⟩
        · exact ⟨_, .configMissing config (List.cons_ne_nil c cs) long found⟩
  | some content =>
    rw [Settings.fileEntries_of_content found] at h
    cases loaded : Yaml.Loader.load content with
    | error f =>
      cases f with
      | notUtf8 f => exact ⟨_, .configNotUtf8 found loaded⟩
      | unusable f => exact ⟨_, .configMalformed found loaded⟩
    | ok v =>
      simp only [Settings.entriesOfFile, loaded, Except.mapError, bind, Except.bind] at h
      rcases Settings.entriesOf_eq_error_iff.mp h with
        ⟨-, void, other⟩ | ⟨-, entries, rfl, e, mem, noText⟩
      · exact ⟨_, .configNotAMapping found loaded void other⟩
      · exact ⟨_, .configKeyIsNoText found loaded mem noText⟩

end

theorem ofName_eq_error_iff {name : Text} :
    (∃ fault, LogLevel.ofName name = .error fault) ↔
      upper name ∉ LogLevel.names.map (·.1) := by
  have lookup : LogLevel.names.lookup (upper name) = none ↔
      upper name ∉ LogLevel.names.map (·.1) := by
    rw [List.lookup_eq_none_iff, List.mem_map]
    constructor
    · rintro none ⟨e, mem, eq⟩
      have := none e mem
      simp [eq] at this
    · intro none e mem
      rw [bne_iff_ne]
      exact fun eq => none ⟨e, mem, eq.symm⟩
  rw [← lookup]
  unfold LogLevel.ofName
  simp only
  cases LogLevel.names.lookup (upper name) with
  | some level => exact ⟨nofun, nofun⟩
  | none =>
    refine ⟨fun _ => rfl, fun _ => ?_⟩
    simp only
    split
    · exact ⟨_, rfl⟩
    · split
      · exact ⟨_, rfl⟩
      · exact ⟨_, rfl⟩

theorem checkLogLevel_eq_error_iff {s : Settings} {a : Arguments} :
    (∃ fault, checkLogLevel s a = .error fault) ↔ ¬knowsLogLevel s a := by
  unfold checkLogLevel knowsLogLevel
  cases a.verbose with
  | true => simp
  | false => simpa using ofName_eq_error_iff

section
variable [Yaml.Loader] [Setting.Reader]
variable {tree : FileTree} {env : Environment} {input : Text} {a : Arguments} {t : Trouble}

theorem load_of_fileEntries {fault : ConfigFault}
    (h : Settings.fileEntries tree a.config = .error fault) :
    Settings.load tree env a.config = .error fault := by
  rw [Settings.load, h]
  rfl

theorem load_of_content {content : List UInt8} {fault : ConfigFault}
    (found : tree.content? (.ofText (configName a.config)) = some content)
    (bad : Settings.entriesOfFile (.ofText (configName a.config)) content = .error fault) :
    Settings.load tree env a.config = .error fault := by
  apply load_of_fileEntries
  rw [Settings.fileEntries_of_content found, bad]

theorem Meets.stage [Source.Swift.Outliner] (h : Meets tree env input a t) :
    (∃ fault, Settings.load tree env a.config = .error fault ∧
      endsOrderly fault = t.isReported) ∨
    ∃ s, Settings.load tree env a.config = .ok s ∧
      ((∃ fault, checkLogLevel s a = .error fault) ∧ t.isReported = false ∨
        (∃ level, checkLogLevel s a = .ok level) ∧
          (∃ fault, Interface.ofFile tree [] input = .error fault) ∧ t.isReported = true) := by
  have level : ∀ {s}, knowsLogLevel s a → ∃ level, checkLogLevel s a = .ok level := by
    intro s known
    cases checked : checkLogLevel s a with
    | ok level => exact ⟨level, rfl⟩
    | error fault => exact absurd known (checkLogLevel_eq_error_iff.mp ⟨fault, checked⟩)
  -- Up to a bad value there are no settings; behind that the loading has succeeded.
  cases h with
  | @configTooLong name named ne long =>
    refine .inl ⟨.tooLongPath (.ofText name), load_of_fileEntries ?_, rfl⟩
    have absent : tree.content? (.ofText name) = none := by
      rw [content?, find?, long]
    rw [named, Settings.fileEntries_of_missing ne absent, if_pos long]
  | @configMissing name named ne short absent =>
    refine .inl ⟨.missingFile name, load_of_fileEntries ?_, rfl⟩
    rw [named, Settings.fileEntries_of_missing ne absent, if_neg short]
  | @configNotUtf8 content fault found bad =>
    refine .inl ⟨.notUtf8 fault, load_of_content found ?_, rfl⟩
    rw [Settings.entriesOfFile, bad]
    rfl
  | @configMalformed content fault found bad =>
    refine .inl ⟨.unusable fault, load_of_content found ?_, by cases fault <;> rfl⟩
    rw [Settings.entriesOfFile, bad]
    rfl
  | @configNotAMapping content v found loaded notVoid other =>
    refine .inl ⟨.notAMapping (.ofText (configName a.config)), load_of_content found ?_, rfl⟩
    simp only [Settings.entriesOfFile, loaded, Except.mapError, bind, Except.bind]
    exact Settings.entriesOf_eq_error_iff.mpr (.inl ⟨rfl, notVoid, other⟩)
  | @configKeyIsNoText content entries e found loaded mem noText =>
    refine .inl ⟨.keyIsNoText, load_of_content found ?_, rfl⟩
    simp only [Settings.entriesOfFile, loaded, Except.mapError, bind, Except.bind]
    exact Settings.entriesOf_eq_error_iff.mpr (.inr ⟨rfl, entries, rfl, e, mem, noText⟩)
  | @badValue entries s v read given refused =>
    obtain ⟨problems, bad⟩ := Settings.ofValues_eq_error_iff.mpr ⟨s, v, given, refused⟩
    refine .inl ⟨.invalid problems, ?_, rfl⟩
    simp only [Settings.load, read, bind, Except.bind, Settings.ofSources, bad, Except.mapError]
  | @unknownLogLevel s loaded unknown =>
    exact .inr ⟨s, loaded, .inl ⟨checkLogLevel_eq_error_iff.mpr unknown, rfl⟩⟩
  | @inputMissing s loaded known absent =>
    refine .inr ⟨s, loaded, .inr ⟨level known, ⟨.missingFile input, ?_⟩, rfl⟩⟩
    rw [Interface.ofFile, absent]
  | @inputNotUtf8 s content fault loaded known found bad =>
    refine .inr ⟨s, loaded, .inr ⟨level known, ⟨.notUtf8 input fault, ?_⟩, rfl⟩⟩
    simp only [Interface.ofFile, found, bad]

theorem reaches_of_no_trouble [Source.Swift.Outliner] {arguments : List Text}
    (parsed : Arguments.parse arguments = .ok (.run input a))
    (none : ∀ t, ¬Meets tree env input a t) :
    ∃ s found, Reaches tree env arguments s a input found := by
  -- Stage by stage: one that fails is a trouble, and there is none.
  cases entries : Settings.fileEntries tree a.config with
  | error fault =>
    obtain ⟨t, met⟩ : ∃ t, Meets tree env input a t := fileEntries_eq_error entries
    exact absurd met (none t)
  | ok es =>
    cases made : Settings.ofValues (Settings.given env es) with
    | error problems =>
      obtain ⟨s, v, given, refused⟩ := Settings.ofValues_eq_error_iff.mp ⟨problems, made⟩
      exact absurd (.badValue entries given refused) (none (.badValue s))
    | ok s =>
      have loaded : Settings.load tree env a.config = .ok s := by
        simp only [Settings.load, entries, bind, Except.bind, Settings.ofSources, made,
          Except.mapError]
      have known : knowsLogLevel s a := by
        by_contra unknown
        exact none _ (.unknownLogLevel loaded unknown)
      cases checked : checkLogLevel s a with
      | error fault => exact absurd known (checkLogLevel_eq_error_iff.mp ⟨fault, checked⟩)
      | ok level =>
        cases there : tree.contentAt? input with
        | none => exact absurd (.inputMissing loaded known there) (none _)
        | some content =>
          cases decoded : textOf content with
          | error fault => exact absurd (.inputNotUtf8 loaded known there decoded) (none _)
          | ok source =>
            refine ⟨s, Interface.ofSource (.ofPath input) (Interface.relativePath [] input) source,
              parsed, loaded, ⟨level, checked⟩, ?_⟩
            simp only [Interface.ofFile, there, decoded]

end

/-- Every trouble with the configuration or the input ends the run before anything is
written: with the exit code for bad input, or without an exit code if it is one of those that
are not reported. A run that meets none comes to the writing. -/
theorem run_troubles [Yaml.Loader] [Setting.Reader] [Source.Swift.Outliner] {tree : FileTree}
    {env : Environment} {arguments : List Text} {input : Text} {a : Arguments}
    (parsed : Arguments.parse arguments = .ok (.run input a)) :
    (∀ t, Meets tree env input a t → (run tree env arguments).tree = tree ∧
      if t.isReported then (run tree env arguments).exit = .ok 2
      else ∃ fault, (run tree env arguments).exit = .error fault) ∧
    ((∀ t, ¬Meets tree env input a t) → ∃ s found, Reaches tree env arguments s a input found) := by
  refine ⟨?_, reaches_of_no_trouble parsed⟩
  intro t met
  rcases met.stage with ⟨fault, bad, reported⟩ | ⟨s, loaded, ⟨⟨fault, unknown⟩, reported⟩ |
    ⟨⟨level, known⟩, ⟨fault, unread⟩, reported⟩⟩
  · simp only [run, parsed, bad, ← reported]
    cases endsOrderly fault with
    | true => exact ⟨trivial, rfl⟩
    | false => exact ⟨trivial, _, rfl⟩
  · simp only [run, parsed, loaded, runWith, unknown, reported]
    exact ⟨trivial, _, rfl⟩
  · simp only [run, parsed, loaded, runWith, known, Batch.ofFile, unread, Except.map, reported]
    exact ⟨trivial, rfl⟩

theorem run_troubles_depth :
    let env : Environment := [("MODIFIERSWIFT_MAX_TYPE_DEPTH", "0")]
    let arguments : List Text := ["-i", "a.swift", "-v"]
    let a : Arguments := { input := some "a.swift", verbose := true }
    Arguments.parse arguments = .ok (.run "a.swift" a) ∧
      Meets {} env "a.swift" a (.badValue .maxTypeDepth) ∧
      (run {} env arguments).tree = {} ∧ (run {} env arguments).exit = .ok 2 := by
  intro env arguments a
  have parsed : Arguments.parse arguments = .ok (.run "a.swift" a) := by decide +kernel
  have met : Meets {} env "a.swift" a (.badValue .maxTypeDepth) := by
    have noFile : FileTree.content? {} (.ofText Settings.defaultFile) = none := by decide +kernel
    have entries : Settings.fileEntries {} a.config = .ok [] := by
      simp only [a, Settings.fileEntries, noFile]
    have given : Settings.given env [] .maxTypeDepth = some (.text "0") := by rfl
    exact .badValue entries given (by decide +kernel)
  exact ⟨parsed, met, (run_troubles parsed).1 _ met⟩

theorem run_troubles_unreported :
    let arguments : List Text := ["-i", "a.swift"]
    let configured : Text → FileTree := fun t =>
      ⟨[(["a.swift"], .file []), (["modifierswift.yaml"], .file (Utf8.encode t))]⟩
    Arguments.parse arguments = .ok (.run "a.swift" { input := some "a.swift" }) ∧
      (run (configured "") [("MODIFIERSWIFT_LOG_LEVEL", "loud")] arguments).exit =
        .error (.log (.unknown "LOUD")) ∧
      (run (configured "a: [1") [] arguments).exit =
        .error (.config (.unusable .unreadable)) ∧
      (run (configured "1: 2") [] arguments).exit = .error (.config .keyIsNoText) := by
  decide +kernel

end CommandLine
end ViewCases
