import Mathlib.Data.List.Nodup
import ViewCases.Proofs.Outcome
import ViewCases.Proofs.Settings.Fields
import ViewCases.Proofs.Settings.File

/-! Variables before files. A variable that is set hides what a configuration file says about
its setting, a value that the setting would refuse included: values are chosen before they are
checked. Two files that differ only under hidden keys are the same file to a run. -/
namespace ViewCases
open Text FileTree Config

/-- The value of the variable of the setting, if there is one and it is set. The names of single
enums have no variable. -/
def Setting.environmentText? (env : Environment) (f : Setting) : Option Text :=
  f.variableName?.bind fun name => env.lookup name

theorem Setting.key_injective : Function.Injective Setting.key := by
  intro f g same
  have distinct : (Setting.all.map Setting.key).Nodup := by decide +kernel
  exact List.inj_on_of_nodup_map distinct (Setting.mem_all f) (Setting.mem_all g) same

namespace Settings

def Hidden (env : Environment) (key : Text) : Prop :=
  ∃ f : Setting, f.key = key ∧ f.environmentText? env ≠ none

/-- Two mappings say the same, but for the values under hidden keys. -/
structure AgreeApart (env : Environment) (entries₁ entries₂ : List (Value × Value)) : Prop where
  texts : ∀ key, ¬Hidden env key → valueUnder key entries₁ = valueUnder key entries₂
  others : ∀ k v, (∀ key, k ≠ .text key) → ((k, v) ∈ entries₁ ↔ (k, v) ∈ entries₂)

/-- The value that is given for a setting by its variable, or else by the mapping. -/
def chosen (env : Environment) (entries : List (Value × Value)) (f : Setting) : Option Value :=
  ((f.environmentText? env).map .text).or (valueUnder f.key entries)

inductive ComesFrom [Setting.Reader] (env : Environment) (entries : List (Value × Value))
    (s : Settings) (f : Setting) : Prop
  | ofVariable {t : Text} : f.environmentText? env = some t →
      Setting.Reader.read f (.text t) = .ok (s.get f) → ComesFrom env entries s f
  | ofFile {v : Value} : f.environmentText? env = none → valueUnder f.key entries = some v →
      Setting.Reader.read f v = .ok (s.get f) → ComesFrom env entries s f
  | ofDefault : f.environmentText? env = none → valueUnder f.key entries = none →
      s.get f = ({} : Settings).get f → ComesFrom env entries s f

/-- What comes of an environment and a mapping: a fault if a key is no text, or else settings
whose every content comes from its source, or else all problems of the values chosen. -/
structure MadeFrom [Setting.Reader] (env : Environment) (entries : List (Value × Value))
    (result : Except ConfigFault Settings) : Prop where
  keyIsNoText : (∃ e ∈ entries, e.1.isText = false) → result = .error .keyIsNoText
  ok : (∀ e ∈ entries, e.1.isText = true) → ∀ s,
    (result = .ok s ↔ ∀ f, ComesFrom env entries s f)
  error : (∀ e ∈ entries, e.1.isText = true) → ∀ fault,
    (result = .error fault ↔
      (∃ f v, chosen env entries f = some v ∧ f.accepts v = false) ∧
      fault = .invalid (Setting.all.flatMap fun f =>
        (chosen env entries f).elim [] fun v => (Setting.Reader.read f v).problems))

section
variable {env : Environment} {entries : List (Value × Value)} {es : List (Text × Value)}

theorem given_of_textKeys (read : textKeys entries = .ok es) :
    given env es = chosen env entries := by
  funext f
  rw [given, valueIn, lookup_of_textKeys read, chosen, Setting.environmentText?]

theorem comesFrom_iff [Setting.Reader] {s : Settings} {f : Setting} :
    ComesFrom env entries s f ↔ check (chosen env entries) f = .ok (s.get f) := by
  unfold check chosen
  constructor
  · rintro (⟨set, read⟩ | ⟨unset, there, read⟩ | ⟨unset, absent, same⟩)
    · simpa [set] using read
    · simpa [unset, there] using read
    · simp [unset, absent, same]
  · cases set : f.environmentText? env with
    | some t => exact fun read => .ofVariable set (by simpa using read)
    | none =>
      cases there : valueUnder f.key entries with
      | some v => exact fun read => .ofFile set there (by simpa using read)
      | none => exact fun read => .ofDefault set there (Except.ok.inj read).symm

theorem textKeys_cases (entries : List (Value × Value)) :
    textKeys entries = .error .keyIsNoText ∧ (∃ e ∈ entries, e.1.isText = false) ∨
    (∃ es, textKeys entries = .ok es) ∧ ∀ e ∈ entries, e.1.isText = true := by
  cases read : textKeys entries with
  | error fault =>
    obtain ⟨rfl, noText⟩ := textKeys_eq_error_iff.mp read
    exact .inl ⟨rfl, noText⟩
  | ok es =>
    refine .inr ⟨⟨es, rfl⟩, fun e mem => ?_⟩
    by_contra noText
    have bad : textKeys entries = .error .keyIsNoText :=
      textKeys_eq_error_iff.mpr ⟨rfl, e, mem, Bool.eq_false_iff.mpr noText⟩
    rw [read] at bad
    cases bad

theorem load_of_readsMapping [Yaml.Loader] [Setting.Reader] {tree : FileTree} {path : Option Text}
    (file : ReadsMapping tree path entries) :
    load tree env path =
      (textKeys entries).bind fun _ => (ofValues (chosen env entries)).mapError .invalid := by
  rw [load, fileEntries_of_readsMapping file]
  cases read : textKeys entries with
  | error fault => rfl
  | ok es => simp only [bind, Except.bind, ofSources, given_of_textKeys read]

theorem madeFrom_load [Yaml.Loader] [Setting.Reader] {tree : FileTree} {path : Option Text}
    (file : ReadsMapping tree path entries) : MadeFrom env entries (load tree env path) := by
  rw [load_of_readsMapping file]
  rcases textKeys_cases entries with ⟨bad, e, mem, noText⟩ | ⟨⟨es, read⟩, texts⟩
  · rw [bad]
    refine ⟨fun _ => rfl, fun texts => ?_, fun texts => ?_⟩ <;>
      exact absurd (texts e mem) (Bool.eq_false_iff.mp noText)
  · rw [read]
    simp only [Except.bind]
    refine ⟨fun ⟨e, mem, noText⟩ => ?_, fun _ s => ?_, fun _ fault => ?_⟩
    · exact absurd (texts e mem) (Bool.eq_false_iff.mp noText)
    · simp only [comesFrom_iff, ← ofValues_eq_ok_iff, mapError_eq_ok_iff]
    · simp only [mapError_eq_error_iff, ofValues_eq_error_iff_problems, problems_check]
      constructor
      · rintro ⟨ps, ⟨refused, rfl⟩, rfl⟩
        exact ⟨refused, rfl⟩
      · rintro ⟨refused, rfl⟩
        exact ⟨_, ⟨refused, rfl⟩, rfl⟩

end

section
variable {env : Environment} {entries₁ entries₂ : List (Value × Value)}

theorem AgreeApart.chosen_eq (agree : AgreeApart env entries₁ entries₂) :
    chosen env entries₁ = chosen env entries₂ := by
  funext f
  unfold chosen
  cases set : f.environmentText? env with
  | some t => rfl
  | none =>
    have shown : ¬Hidden env f.key := by
      rintro ⟨g, same, isSet⟩
      rw [Setting.key_injective same] at isSet
      exact isSet set
    rw [agree.texts f.key shown]

theorem AgreeApart.noText (agree : AgreeApart env entries₁ entries₂) :
    (∃ e ∈ entries₁, e.1.isText = false) ↔ ∃ e ∈ entries₂, e.1.isText = false := by
  have same {k v : Value} (noText : k.isText = false) : (k, v) ∈ entries₁ ↔ (k, v) ∈ entries₂ := by
    refine agree.others k v ?_
    rintro key rfl
    cases noText
  constructor
  · rintro ⟨⟨k, v⟩, mem, noText⟩
    exact ⟨(k, v), (same noText).mp mem, noText⟩
  · rintro ⟨⟨k, v⟩, mem, noText⟩
    exact ⟨(k, v), (same noText).mpr mem, noText⟩

end

/-- Files that agree but for hidden keys give the same settings or the same fault, with the
same problems at the same places. What is given is made from the variables and from the one
mapping as well as from the other. -/
theorem load_shadowed [Yaml.Loader] [Setting.Reader] {env : Environment}
    {tree₁ tree₂ : FileTree} {path₁ path₂ : Option Text} {entries₁ entries₂ : List (Value × Value)}
    (file₁ : ReadsMapping tree₁ path₁ entries₁) (file₂ : ReadsMapping tree₂ path₂ entries₂)
    (agree : AgreeApart env entries₁ entries₂) :
    load tree₁ env path₁ = load tree₂ env path₂ ∧
      MadeFrom env entries₁ (load tree₁ env path₁) ∧
      MadeFrom env entries₂ (load tree₁ env path₁) := by
  -- The values chosen are the same, so the two loads can differ by keys that are no text only.
  have same : load tree₁ env path₁ = load tree₂ env path₂ := by
    rw [load_of_readsMapping file₁, load_of_readsMapping file₂, agree.chosen_eq]
    rcases textKeys_cases entries₁ with ⟨bad₁, noText⟩ | ⟨⟨es₁, read₁⟩, texts⟩
    · have bad₂ : textKeys entries₂ = .error .keyIsNoText :=
        textKeys_eq_error_iff.mpr ⟨rfl, agree.noText.mp noText⟩
      rw [bad₁, bad₂]
    · rcases textKeys_cases entries₂ with ⟨-, noText⟩ | ⟨⟨es₂, read₂⟩, -⟩
      · obtain ⟨e, mem, noText⟩ := agree.noText.mpr noText
        exact absurd (texts e mem) (Bool.eq_false_iff.mp noText)
      · rw [read₁, read₂]
        rfl
  exact ⟨same, madeFrom_load file₁, same ▸ madeFrom_load file₂⟩

theorem load_shadowed_depth :
    let env : Environment := [("MODIFIERSWIFT_MAX_TYPE_DEPTH", "8")]
    let configured : Text → FileTree := fun t => ⟨[(["modifierswift.yaml"], .file (Utf8.encode t))]⟩
    let deep : FileTree := configured "max_type_depth: deep\noutput_dir: out"
    let flat : FileTree := configured "output_dir: out\nmax_type_depth: '0'"
    load deep env none = load flat env none ∧
      load deep env none = .ok { outputDir := "out", maxTypeDepth := 8 } ∧
      load deep [] none = .error (.invalid [⟨["max_type_depth"], .unreadableInt⟩]) ∧
      load flat [] none = .error (.invalid [⟨["max_type_depth"], .belowMinimum⟩]) := by
  intro env configured deep flat
  have file₁ : ReadsMapping deep none
      (ofTexts [(Setting.maxTypeDepth.key, "deep"), (Setting.outputDir.key, "out")]) :=
    readsMapping_of_texts (by decide +kernel)
  have file₂ : ReadsMapping flat none
      (ofTexts [(Setting.outputDir.key, "out"), (Setting.maxTypeDepth.key, "0")]) :=
    readsMapping_of_texts (by decide +kernel)
  have agree : AgreeApart env
      (ofTexts [(Setting.maxTypeDepth.key, "deep"), (Setting.outputDir.key, "out")])
      (ofTexts [(Setting.outputDir.key, "out"), (Setting.maxTypeDepth.key, "0")]) := by
    refine ⟨fun key shown => ?_, fun k v noText => ?_⟩
    · have other : Setting.maxTypeDepth.key ≠ key := by
        rintro rfl
        exact shown ⟨.maxTypeDepth, rfl, by decide⟩
      simp only [ofTexts, List.map_cons, List.map_nil, valueUnder_text_cons, valueUnder_nil,
        if_neg other]
    · have absent (es : List (Text × Text)) : (k, v) ∉ ofTexts es := by
        intro mem
        obtain ⟨e, -, eq⟩ := List.mem_map.mp mem
        exact noText e.1 (Prod.ext_iff.mp eq).1.symm
      exact iff_of_false (absent _) (absent _)
  refine ⟨(load_shadowed file₁ file₂ agree).1, ?_, ?_, ?_⟩
  · rw [load_of_readsMapping file₁]
    decide +kernel
  · rw [load_of_readsMapping file₁]
    decide +kernel
  · rw [load_of_readsMapping file₂]
    decide +kernel

end Settings
end ViewCases
