import ViewCases.Interface.Basic
import ViewCases.Proofs.Generation
import ViewCases.Proofs.Text.Word

/-! What stays of a generated file without its documentation comments. A file is a list of
lines with a newline behind each, so its lines can be looked at one by one. Documentation is
broken into lines before it is written and each line gets the mark of a comment; availability
gets one mark, and only its first line is sure to stay behind it. -/
namespace ViewCases
open Text

namespace Text

/-- The lines of a text, each with the character that ends it. -/
def endedLines (ends : Char → Bool) : Text → List Text
  | [] => []
  | c :: cs =>
    if ends c then [c] :: endedLines ends cs
    else match endedLines ends cs with
      | [] => [[c]]
      | line :: rest => (c :: line) :: rest

def isComment (line : Text) : Bool :=
  ("///" : Text).isPrefixOf (stripStart line)

def withoutComments (ends : Char → Bool) (t : Text) : Text :=
  ((endedLines ends t).filter fun line => !isComment line).flatten

variable {ends : Char → Bool}

theorem flatten_endedLines (ends : Char → Bool) (t : Text) : (endedLines ends t).flatten = t := by
  induction t with
  | nil => rfl
  | cons c cs ih =>
    unfold endedLines
    split
    · simp [ih]
    · split
      · next none =>
        rw [none] at ih
        simp [← ih]
      · next line rest found =>
        rw [found] at ih
        simp [← ih]

theorem endedLines_ne_nil {t line : Text} (mem : line ∈ endedLines ends t) : line ≠ [] := by
  induction t generalizing line with
  | nil => cases mem
  | cons c cs ih =>
    unfold endedLines at mem
    split at mem
    · rcases List.mem_cons.mp mem with rfl | mem
      · simp
      · exact ih mem
    · split at mem
      · cases List.mem_singleton.mp mem
        simp
      · next first rest found =>
        rcases List.mem_cons.mp mem with rfl | mem
        · simp
        · exact ih (found ▸ List.mem_cons_of_mem _ mem)

theorem endedLines_append {d : Char} (hd : ends d = true) (a b : Text) :
    endedLines ends (a ++ d :: b) = endedLines ends (a ++ [d]) ++ endedLines ends b := by
  induction a with
  | nil => simp [endedLines, hd]
  | cons c cs ih =>
    simp only [List.cons_append, endedLines]
    rw [ih]
    split
    · rfl
    · cases found : endedLines ends (cs ++ [d]) with
      | nil =>
        have whole := flatten_endedLines ends (cs ++ [d])
        rw [found] at whole
        simp at whole
      | cons line rest => rfl

theorem endedLines_prepend {l t first : Text} {rest : List Text}
    (none : ∀ c ∈ l, ends c = false) (h : endedLines ends t = first :: rest) :
    endedLines ends (l ++ t) = (l ++ first) :: rest := by
  induction l with
  | nil => exact h
  | cons c cs ih =>
    obtain ⟨hc, later⟩ := List.forall_mem_cons.mp none
    simp [endedLines, hc, ih later]

theorem endedLines_single {d : Char} (hd : ends d = true) {l : Text}
    (none : ∀ c ∈ l, ends c = false) : endedLines ends (l ++ [d]) = [l ++ [d]] :=
  endedLines_prepend none (by simp [endedLines, hd])

theorem isComment_append {lead : Text} (h : isComment lead = true) (t : Text) :
    isComment (lead ++ t) = true := by
  unfold isComment at h ⊢
  have ne : stripStart lead ≠ [] := by
    intro empty
    rw [empty] at h
    cases h
  rw [List.isPrefixOf_iff_prefix] at h ⊢
  rw [stripStart, List.dropWhile_append, if_neg (by simpa [stripStart] using ne)]
  exact h.trans (List.prefix_append _ _)

theorem withoutComments_append {d : Char} (hd : ends d = true) (a b : Text) :
    withoutComments ends (a ++ d :: b) =
      withoutComments ends (a ++ [d]) ++ withoutComments ends b := by
  simp only [withoutComments]
  rw [endedLines_append hd, List.filter_append, List.flatten_append]

/-- What of a text behind the mark of a comment is not in the comment. -/
def escaped (ends : Char → Bool) (t : Text) : Text :=
  ((endedLines ends (t ++ ['\n'])).tail.filter fun line => !isComment line).flatten

theorem escaped_of_none {t : Text} (newline : ends '\n' = true) (none : ∀ c ∈ t, ends c = false) :
    escaped ends t = [] := by
  rw [escaped, endedLines_single newline none]
  rfl

theorem escaped_eq_nil_iff {t : Text} : escaped ends t = [] ↔
    ∀ line ∈ (endedLines ends (t ++ ['\n'])).tail, isComment line = true := by
  simp only [escaped, List.flatten_eq_nil_iff, List.mem_filter]
  constructor
  · intro h line mem
    rw [← Bool.not_eq_false]
    intro code
    exact endedLines_ne_nil (List.mem_of_mem_tail mem) (h line ⟨mem, by simp [code]⟩)
  · rintro h line ⟨mem, code⟩
    simp [h line mem] at code

theorem withoutComments_comment {lead : Text} (comment : isComment lead = true)
    (none : ∀ c ∈ lead, ends c = false) (t : Text) :
    withoutComments ends (lead ++ t ++ ['\n']) = escaped ends t := by
  cases found : endedLines ends (t ++ ['\n']) with
  | nil =>
    have whole := flatten_endedLines ends (t ++ ['\n'])
    rw [found] at whole
    simp at whole
  | cons first rest =>
    rw [List.append_assoc, withoutComments, endedLines_prepend none found, escaped, found]
    simp [isComment_append comment]

theorem withoutComments_line {line : Text} (newline : ends '\n' = true)
    (comment : isComment line = true) (none : ∀ c ∈ line, ends c = false) :
    withoutComments ends (line ++ ['\n']) = [] := by
  have := withoutComments_comment comment none []
  rw [List.append_nil] at this
  rw [this, escaped_of_none newline (by simp)]

theorem joinWith_newline {ls : List Text} (ne : ls ≠ []) :
    joinWith "\n" ls ++ "\n" = ls.flatMap (· ++ ['\n']) := by
  induction ls with
  | nil => exact absurd rfl ne
  | cons l ls ih =>
    cases ls with
    | nil => simp [joinWith]
    | cons m ls =>
      rw [joinWith_cons_cons, List.append_assoc, ih (by simp)]
      simp

theorem withoutComments_lines (newline : ends '\n' = true) (ls : List Text) :
    withoutComments ends (ls.flatMap (· ++ ['\n'])) =
      ls.flatMap fun l => withoutComments ends (l ++ ['\n']) := by
  induction ls with
  | nil => rfl
  | cons l ls ih =>
    rw [List.flatMap_cons, List.append_assoc, List.singleton_append,
      withoutComments_append newline, ih, List.flatMap_cons]

theorem not_mem_splitBy {p : Char → Bool} {t run : Text} (mem : run ∈ splitBy p t) :
    ∀ c ∈ run, p c = false := by
  induction t generalizing run with
  | nil =>
    cases List.mem_singleton.mp mem
    simp
  | cons c cs ih =>
    unfold splitBy at mem
    split at mem
    · rcases List.mem_cons.mp mem with rfl | mem
      · simp
      · exact ih mem
    · next hc =>
      split at mem
      · cases List.mem_singleton.mp mem
        simpa using hc
      · next first rest found =>
        rcases List.mem_cons.mp mem with rfl | mem
        · rw [List.forall_mem_cons]
          exact ⟨by simpa using hc, ih (found ▸ List.mem_cons_self)⟩
        · exact ih (found ▸ List.mem_cons_of_mem _ mem)

theorem not_mem_lines {t line : Text} (mem : line ∈ lines t) :
    ∀ c ∈ line, isLineBreak c = false := by
  simp only [lines] at mem
  split at mem
  · exact not_mem_splitBy (List.dropLast_subset _ mem)
  · exact not_mem_splitBy mem

end Text

namespace EnumFile

variable {ends : Char → Bool}

theorem withoutComments_render (newline : ends '\n' = true) (withDefault : Bool) (name : Text)
    (vs : List Variant) :
    withoutComments ends (render withDefault name vs) =
      (sourceLines withDefault name vs).flatMap fun l => withoutComments ends (l ++ ['\n']) := by
  rw [render, joinWith_newline (by simp [sourceLines, headerLines]), withoutComments_lines newline]

theorem comment_docLine {line : Text} (h : ∀ c ∈ line, isLineBreak c = false) :
    let written := stripEnd (indent 1 ("/// " ++ strip line))
    isComment written = true ∧ ∀ c ∈ written, isLineBreak c = false := by
  intro written
  have mark : ∀ c, ("    ///" : Text).getLast? = some c → isBlank c = false := by
    rintro c ⟨⟩
    rfl
  -- The trimming at the end may take the blank behind the mark, but never the mark.
  have eq : written = ("    ///" : Text) ++ stripEnd (' ' :: strip line) :=
    stripEnd_append_of_last mark (' ' :: strip line)
  rw [eq]
  refine ⟨isComment_append (by decide) _, ?_⟩
  intro c hc
  rcases List.mem_append.mp hc with front | behind
  · have plain : ∀ d ∈ ("    ///" : Text), isLineBreak d = false := by decide
    exact plain c front
  · obtain ⟨r, -, whole⟩ := stripEnd_decompose (' ' :: strip line)
    have inside : c ∈ ' ' :: strip line := by
      rw [whole]
      exact List.mem_append_left r behind
    rcases List.mem_cons.mp inside with rfl | inside
    · decide
    · obtain ⟨l, r, -, -, around⟩ := strip_decompose line
      apply h c
      rw [around]
      simp [inside]

theorem withoutComments_docLines (newline : ends '\n' = true)
    (breaks : ∀ c, ends c = true → isLineBreak c = true) (m : Modifier) :
    (docLines m).flatMap (fun l => withoutComments ends (l ++ ['\n'])) =
      (m.availability.map (escaped ends)).getD [] := by
  have unbroken : ∀ {l : Text}, (∀ c ∈ l, isLineBreak c = false) → ∀ c ∈ l, ends c = false := by
    intro l h c hc
    rw [← Bool.not_eq_true]
    intro yes
    have := h c hc
    rw [breaks c yes] at this
    cases this
  have gone : ∀ {l : Text}, isComment l = true → (∀ c ∈ l, isLineBreak c = false) →
      withoutComments ends (l ++ ['\n']) = [] :=
    fun comment h => withoutComments_line newline comment (unbroken h)
  have documentation : ∀ d : Text, ((lines (strip d)).map fun line =>
      stripEnd (indent 1 ("/// " ++ strip line))).flatMap
        (fun l => withoutComments ends (l ++ ['\n'])) = [] := by
    intro d
    rw [List.flatMap_map, List.flatMap_eq_nil_iff]
    intro line mem
    obtain ⟨comment, none⟩ := comment_docLine (not_mem_lines mem)
    exact gone comment none
  have rule : withoutComments ends (indent 1 "///" ++ ['\n']) = [] := gone (by decide) (by decide)
  have availability : ∀ a : Text,
      withoutComments ends (indent 1 ("/// - Availability: " ++ a) ++ ['\n']) = escaped ends a := by
    intro a
    have mark : isComment (indent 1 "/// - Availability: ") = true := by decide
    exact withoutComments_comment mark (unbroken (by decide)) a
  have empty : escaped ends [] = [] := escaped_of_none newline (by simp)
  -- Every line of documentation is gone; of availability only the first line is sure to be.
  unfold docLines
  cases m.documentation with
  | none =>
    cases m.availability with
    | none => rfl
    | some a =>
      cases a with
      | nil => simp [empty]
      | cons c cs => simpa using availability (c :: cs)
  | some d =>
    simp only [List.flatMap_append, documentation, List.nil_append]
    cases m.availability with
    | none => rfl
    | some a =>
      cases a with
      | nil => simp [empty]
      | cons c cs =>
        rw [List.flatMap_append, List.flatMap_singleton]
        split
        · exact availability (c :: cs)
        · rw [List.flatMap_singleton, rule]
          exact availability (c :: cs)

def caseCode (ends : Char → Bool) (withDefault : Bool) (v : Variant) : Text :=
  (v.modifier.availability.map (escaped ends)).getD [] ++
    withoutComments ends (caseLine withDefault v ++ ['\n'])

theorem withoutComments_render_iff (newline : ends '\n' = true)
    (breaks : ∀ c, ends c = true → isLineBreak c = true) (withDefault : Bool) (name : Text)
    {vs ws : List Variant} (count : vs.length = ws.length)
    (branches : vs.flatMap branchLines = ws.flatMap branchLines) :
    withoutComments ends (render withDefault name vs) =
        withoutComments ends (render withDefault name ws) ↔
      vs.flatMap (caseCode ends withDefault) = ws.flatMap (caseCode ends withDefault) := by
  have cases : ∀ us : List Variant,
      (us.flatMap fun v => docLines v.modifier ++ [caseLine withDefault v]).flatMap
        (fun l => withoutComments ends (l ++ ['\n'])) =
      us.flatMap (caseCode ends withDefault) := by
    intro us
    rw [List.flatMap_assoc]
    congr 1
    funext v
    rw [List.flatMap_append, withoutComments_docLines newline breaks, List.flatMap_singleton,
      caseCode]
  rw [withoutComments_render newline, withoutComments_render newline]
  simp only [sourceLines, enumLines, extensionLines, count, branches, List.flatMap_append, cases,
    List.append_assoc, List.append_cancel_left_eq, List.append_cancel_right_eq]

/-- A change of modifiers that leaves everything but the remarks as it is. -/
def KeepsCalls (g : Modifier → Modifier) : Prop :=
  ∀ m, ∃ d a, g m = { m with documentation := d, availability := a }

def withModifier (g : Modifier → Modifier) (v : Variant) : Variant :=
  { v with modifier := g v.modifier }

variable {options : Options} {name : Text} {ms : List Modifier} {g : Modifier → Modifier}

theorem variantOf_map (keeps : KeepsCalls g) (depth : Int) (m : Modifier) :
    variantOf depth (g m) = (variantOf depth m).map (Prod.map (withModifier g) id) := by
  obtain ⟨d, a, eq⟩ := keeps m
  have made : Variant.ofModifier depth (g m) =
      (Variant.ofModifier depth m).map (Prod.map (withModifier g) id) := by
    unfold Variant.ofModifier
    cases generic : m.isGeneric with
    | true => simp [eq, generic, Except.map]
    | false =>
      have fields : Variant.fieldOf depth (g m) = Variant.fieldOf depth m := by
        rw [eq]
        rfl
      rw [fields]
      simp only [eq, generic, Bool.false_eq_true, if_false]
      cases Variant.readType m.returnType with
      | error o => rfl
      | ok e =>
        cases m.parameters.mapM (Variant.fieldOf depth m) with
        | error o => rfl
        | ok fs => simp [bind, Except.bind, pure, Except.pure, Except.map, withModifier, eq,
          generic]
  unfold variantOf
  rw [made]
  cases Variant.ofModifier depth m with
  | error o =>
    rw [eq]
    rfl
  | ok r => rfl

theorem generate_map (keeps : KeepsCalls g) {built : List (Variant × List Text)}
    (valid : Identifier.isValidTypeName name = true) (inhabited : ms ≠ [])
    (made : ms.mapM (variantOf options.maxTypeDepth) = .ok built)
    (clash : clash? [] (built.map (·.1)) = none) :
    generate options name (ms.map g) =
      .ok (file options name (built.map (Prod.map (withModifier g) id))) := by
  apply generate_eq_ok_iff.mpr
  refine ⟨by simpa using inhabited, valid, _, ?_, ?_, rfl⟩
  · rw [mapM_map_of_map fun m _ => variantOf_map keeps options.maxTypeDepth m, made]
    rfl
  · rw [clash?_eq_none_iff] at clash ⊢
    simpa [List.map_map, Function.comp_def, withModifier] using clash

theorem flatMap_append_eq_iff {α : Type} {a k : α → Text} {xs : List α} :
    xs.flatMap (fun x => a x ++ k x) = xs.flatMap k ↔ ∀ x ∈ xs, a x = [] := by
  constructor
  -- Equal texts are equally long, so nothing is left for the lengths of `a`.
  · intro same
    have counted : (xs.flatMap fun x => a x ++ k x).length =
        (xs.flatMap a).length + (xs.flatMap k).length := by
      clear same
      induction xs with
      | nil => rfl
      | cons x xs ih =>
        simp only [List.flatMap_cons, List.length_append, ih]
        omega
    rw [same] at counted
    have none : xs.flatMap a = [] := List.length_eq_zero_iff.mp (by omega)
    exact List.flatMap_eq_nil_iff.mp none
  · intro none
    induction xs with
    | nil => rfl
    | cons x xs ih =>
      obtain ⟨first, later⟩ := List.forall_mem_cons.mp none
      rw [List.flatMap_cons, List.flatMap_cons, first, ih later, List.nil_append]

theorem withoutComments_render_map_iff (newline : ends '\n' = true)
    (breaks : ∀ c, ends c = true → isLineBreak c = true) (keeps : KeepsCalls g)
    (withDefault : Bool) (vs : List Variant) :
    withoutComments ends (render withDefault name vs) =
        withoutComments ends (render withDefault name (vs.map (withModifier g))) ↔
      vs.flatMap (caseCode ends withDefault) =
        vs.flatMap fun v => caseCode ends withDefault (withModifier g v) := by
  have branches : vs.flatMap branchLines = (vs.map (withModifier g)).flatMap branchLines := by
    rw [List.flatMap_map]
    congr 1
    funext v
    obtain ⟨d, a, eq⟩ := keeps v.modifier
    simp only [branchLines, withModifier, eq, Variant.caseName]
  rw [withoutComments_render_iff newline breaks withDefault name (by simp) branches,
    List.flatMap_map]

end EnumFile

def Modifier.undocumented (m : Modifier) : Modifier :=
  { m with documentation := none }

def Modifier.unremarked (m : Modifier) : Modifier :=
  { m with documentation := none, availability := none }

namespace EnumFile

variable {ends : Char → Bool} {options : Options} {name : Text} {ms : List Modifier}

/-- Documentation leaves no trace in the code of a file, whatever its text is. Availability
leaves none if, and only if, each of its lines but the first is a comment by itself. The ends
of lines are any characters among those that documentation is broken at. -/
theorem withoutComments_generate (newline : ends '\n' = true)
    (breaks : ∀ c, ends c = true → isLineBreak c = true) {f : EnumFile}
    (h : generate options name ms = .ok f) :
    ∃ undocumented unremarked,
      generate options name (ms.map Modifier.undocumented) = .ok undocumented ∧
      generate options name (ms.map Modifier.unremarked) = .ok unremarked ∧
      withoutComments ends f.source = withoutComments ends undocumented.source ∧
      (withoutComments ends f.source = withoutComments ends unremarked.source ↔
        ∀ m ∈ ms, ∀ a, m.availability = some a →
          ∀ line ∈ (endedLines ends (a ++ ['\n'])).tail, isComment line = true) ∧
      ((∀ m ∈ ms, ∀ a, m.availability = some a → ∀ c ∈ a, ends c = false) →
        withoutComments ends f.source = withoutComments ends unremarked.source) := by
  obtain ⟨inhabited, valid, built, made, clash, rfl⟩ := generate_eq_ok_iff.mp h
  -- Both changes keep what decides about the cases, so the same cases are made of all three lists.
  have documentation : KeepsCalls Modifier.undocumented := fun m => ⟨none, m.availability, rfl⟩
  have remarks : KeepsCalls Modifier.unremarked := fun m => ⟨none, none, rfl⟩
  have source : ∀ g, (file options name (built.map (Prod.map (withModifier g) id))).source =
      render options.emitDefaultValues name ((built.map (·.1)).map (withModifier g)) := by
    intro g
    simp only [file, List.map_map]
    rfl
  have escapes : withoutComments ends (file options name built).source =
      withoutComments ends
        (file options name (built.map (Prod.map (withModifier Modifier.unremarked) id))).source ↔
      ∀ m ∈ ms, ∀ a, m.availability = some a → escaped ends a = [] := by
    rw [source]
    apply (withoutComments_render_map_iff newline breaks remarks _ _).trans
    apply flatMap_append_eq_iff.trans
    rw [← modifiers_of_built made]
    simp only [List.forall_mem_map]
    apply forall₂_congr
    intro r _
    cases r.1.modifier.availability <;> simp
  refine ⟨_, _, generate_map documentation valid inhabited made clash,
    generate_map remarks valid inhabited made clash, ?_, ?_, ?_⟩
  · rw [source]
    exact (withoutComments_render_map_iff newline breaks documentation _ _).mpr rfl
  · simpa only [escaped_eq_nil_iff] using escapes
  · intro none
    apply escapes.mpr
    intro m mem a available
    exact escaped_of_none newline (none m mem a available)

theorem withoutComments_generate_separators :
    let m : Modifier := ⟨"blur", [⟨none, "radius", "Int", true, some "2"⟩], "V",
      some "@available(iOS 13.0, *)",
      some "Blurs.\n\n  \x0bcase a\x0c\x7d\r\n/// b\u2028\x7d\x85func f", false, [], []⟩
    (isLineBreak '\n' = true ∧ (∀ c, isLineBreak c = true → isLineBreak c = true) ∧
      (docLines m).length = 10 ∧
      ∀ a, m.availability = some a → ∀ c ∈ a, isLineBreak c = false) ∧
    ∃ f unremarked, generate {} "E" [m] = .ok f ∧
      generate {} "E" [m.unremarked] = .ok unremarked ∧
      withoutComments isLineBreak f.source = withoutComments isLineBreak unremarked.source := by
  intro m
  have oneLine : ∀ a, m.availability = some a → ∀ c ∈ a, isLineBreak c = false := by
    intro a available
    cases available
    decide
  have possible : (generate {} "E" [m]).toOption.isSome = true := by decide +kernel
  cases made : generate {} "E" [m] with
  | error e =>
    rw [made] at possible
    cases possible
  | ok f =>
    obtain ⟨_, unremarked, _, plain, _, _, same⟩ :=
      withoutComments_generate (by decide : isLineBreak '\n' = true) (fun c h => h) made
    refine ⟨⟨by decide, fun c h => h, by decide +kernel, oneLine⟩, f, unremarked, rfl, plain, ?_⟩
    apply same
    intro m' mem a available
    cases List.mem_singleton.mp mem
    exact oneLine a available

/-- An attribute keeps the layout of the header. The mark of the comment stands before its
first line only, and the second line is code. -/
theorem generate_availability_lines :
    let m : Modifier :=
      ⟨"f", [], "V", some "@available(iOS 15,\n    macOS 12, *)", none, false, [], []⟩
    let code (m : Modifier) : Option Text := (generate {} "E" [m]).toOption.map fun f =>
      withoutComments (· == '\n') f.source
    (FunctionHeader.parse? "@available(iOS 15,\n    macOS 12, *)\npublic func f() -> V").map
        (Modifier.ofHeader · none) = some m ∧
      docLines m = ["    /// - Availability: @available(iOS 15,\n    macOS 12, *)"] ∧
      (code m).isSome = true ∧ (code m.unremarked).isSome = true ∧
      code m ≠ code m.unremarked := by
  decide +kernel

end EnumFile
end ViewCases
