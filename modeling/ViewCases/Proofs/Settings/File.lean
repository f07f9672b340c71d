import Mathlib.Data.List.Basic
import ViewCases.Proofs.Outcome
import ViewCases.Settings.Load

/-! The entries of a configuration file: where they come from, and what leaves none. -/
namespace ViewCases
open Text FileTree Config

def CommandLine.configName : Option Text → Text
  | none | some [] => Settings.defaultFile
  | some name => name

namespace Settings
open CommandLine

section
variable [Yaml.Loader]

theorem fileEntries_of_content {tree : FileTree} {config : Option Text} {content : List UInt8}
    (h : tree.content? (.ofText (configName config)) = some content) :
    fileEntries tree config = entriesOfFile (.ofText (configName config)) content := by
  have located : tree.locate (.ofText (configName config)) ≠ .error .tooLong := by
    intro fault
    rw [content?, find?, fault] at h
    cases h
  cases config with
  | none =>
    simp only [configName] at h ⊢
    rw [fileEntries, h]
  | some name =>
    cases name with
    | nil =>
      simp only [configName] at h ⊢
      rw [fileEntries, h]
    | cons c cs =>
      simp only [configName] at h located ⊢
      rw [fileEntries, h]
      · split
        · next fault => exact absurd fault located
        · next eq _ => cases eq; rfl
        · next eq _ => cases eq
      · simp

end

theorem textKeys_eq_error_iff {entries : List (Value × Value)} {fault : ConfigFault} :
    textKeys entries = .error fault ↔
      fault = .keyIsNoText ∧ ∃ e ∈ entries, e.1.isText = false := by
  induction entries with
  | nil => simp [textKeys]
  | cons e rest ih =>
    obtain ⟨k, v⟩ := e
    cases k with
    | text key =>
      have step : textKeys ((.text key, v) :: rest) = .error fault ↔
          textKeys rest = .error fault := by
        rw [textKeys]
        cases textKeys rest with
        | ok es => exact ⟨nofun, nofun⟩
        | error f => exact Iff.rfl
      rw [step, ih]
      simp [Value.isText]
    | broken codes =>
      rw [textKeys, ih]
      simp [Value.isText]
    | _ =>
      rw [textKeys]
      · simp [@eq_comm _ fault, Value.isText]
      · simp
      · simp

theorem entriesOf_eq_error_iff {path : Path} {v : Value} {fault : ConfigFault} :
    entriesOf path v = .error fault ↔
      (fault = .notAMapping path ∧ v.isVoid = false ∧ ∀ entries, v ≠ .map entries) ∨
      (fault = .keyIsNoText ∧ ∃ entries, v = .map entries ∧
        ∃ e ∈ entries, e.1.isText = false) := by
  unfold entriesOf
  split
  · next void =>
    constructor
    · nofun
    · rintro (⟨-, notVoid, -⟩ | ⟨-, entries, rfl, e, mem, -⟩)
      · rw [notVoid] at void
        cases void
      · cases entries with
        | nil => cases mem
        | cons _ _ => cases void
  · next void =>
    cases v with
    | map entries => simp [textKeys_eq_error_iff]
    | _ => simp [@eq_comm _ fault, Bool.eq_false_iff.mpr void]

theorem fileEntries_of_missing [Yaml.Loader] {tree : FileTree} {name : Text} (named : name ≠ [])
    (absent : tree.content? (.ofText name) = none) :
    fileEntries tree (some name) =
      if tree.locate (.ofText name) = .error .tooLong then .error (.tooLongPath (.ofText name))
      else .error (.missingFile name) := by
  cases name with
  | nil => exact absurd rfl named
  | cons c cs =>
    rw [fileEntries, absent]
    · split
      · next fault => rw [if_pos fault]
      · next eq _ => cases eq
      · next other => rw [if_neg other]
    · simp

/-- The configuration file that a run with this path reads is there, and it holds a mapping. -/
def ReadsMapping [Yaml.Loader] (tree : FileTree) (path : Option Text)
    (entries : List (Value × Value)) : Prop :=
  ∃ content, tree.content? (.ofText (configName path)) = some content ∧
    Yaml.Loader.load content = .ok (.map entries)

def valueUnder (key : Text) (entries : List (Value × Value)) : Option Value :=
  entries.findSome? fun
    | (.text k, v) => if k = key then some v else none
    | _ => none

@[simp] theorem valueUnder_nil (key : Text) : valueUnder key [] = none := rfl

theorem valueUnder_text_cons (key k : Text) (v : Value) (rest : List (Value × Value)) :
    valueUnder key ((.text k, v) :: rest) = if k = key then some v else valueUnder key rest := by
  rw [valueUnder, valueUnder, List.findSome?_cons]
  split <;> simp_all

theorem fileEntries_of_readsMapping [Yaml.Loader] {tree : FileTree} {path : Option Text}
    {entries : List (Value × Value)} (h : ReadsMapping tree path entries) :
    fileEntries tree path = textKeys entries := by
  obtain ⟨content, found, loaded⟩ := h
  have read : fileEntries tree path = entriesOf (.ofText (configName path)) (.map entries) := by
    rw [fileEntries_of_content found, entriesOfFile, loaded]
    rfl
  rw [read]
  cases entries <;> rfl

theorem lookup_of_textKeys {entries : List (Value × Value)} {es : List (Text × Value)}
    (h : textKeys entries = .ok es) (key : Text) : es.lookup key = valueUnder key entries := by
  induction entries generalizing es with
  | nil =>
    cases h
    rfl
  | cons e rest ih =>
    obtain ⟨k, v⟩ := e
    cases k with
    | text k =>
      rw [textKeys] at h
      cases read : textKeys rest with
      | error fault =>
        rw [read] at h
        cases h
      | ok es' =>
        rw [read] at h
        cases h
        rw [List.lookup_cons, ih read, valueUnder_text_cons]
        by_cases same : k = key
        · simp [same]
        · simp [same, beq_eq_false_iff_ne.mpr (Ne.symm same)]
    | broken codes =>
      rw [textKeys] at h
      exact ih h
    | _ =>
      rw [textKeys] at h
      · cases h
      · simp
      · simp

def ofTexts (es : List (Text × Text)) : List (Value × Value) :=
  es.map fun e => (.text e.1, .text e.2)

def textsOf? : Value → Option (List (Text × Text))
  | .map entries => entries.mapM fun
    | (.text k, .text t) => some (k, t)
    | _ => none
  | _ => none

theorem eq_ofTexts_of_textsOf? {v : Value} {es : List (Text × Text)} (h : textsOf? v = some es) :
    v = .map (ofTexts es) := by
  cases v with
  | map entries =>
    congr 1
    rw [textsOf?] at h
    induction entries generalizing es with
    | nil =>
      cases h
      rfl
    | cons e rest ih =>
      simp only [List.mapM_cons, bind, Option.bind_eq_some_iff] at h
      obtain ⟨e', first, es', later, eq⟩ := h
      cases eq
      rw [ofTexts, List.map_cons, ← ofTexts, ← ih later]
      split at first
      · cases first
        rfl
      · cases first
  | _ => cases h

theorem readsMapping_of_texts [Yaml.Loader] {tree : FileTree} {path : Option Text}
    {es : List (Text × Text)}
    (h : ((tree.content? (.ofText (configName path))).bind fun content =>
      (Yaml.Loader.load content).toOption.bind textsOf?) = some es) :
    ReadsMapping tree path (ofTexts es) := by
  simp only [Option.bind_eq_some_iff] at h
  obtain ⟨content, found, v, loaded, texts⟩ := h
  rw [eq_ofTexts_of_textsOf? texts] at loaded
  exact ⟨content, found, eq_ok_of_toOption loaded⟩

end Settings
end ViewCases
