import ViewCases.Proofs.Payload.Escaping

/-! Which payloads are reported for a closure. The report follows the tree of the type, and only
an arrow outside all brackets makes a function type of a text. The reader goes below optional
marks, grouping parentheses and into the arguments of an application; sugar and tuples are names,
and an arrow in a name is not reported. -/
namespace ViewCases
open Text ViewCases.Bracket

theorem infix_append_cons {token a : Text} {c : Char} (other : c ∉ token) (b : Text) :
    token <:+: a ++ c :: b ↔ token <:+: a ∨ token <:+: b := by
  induction a with
  | nil =>
    have start : token <+: c :: b ↔ token <:+: [] := by
      rw [List.infix_nil, ← List.prefix_nil]
      exact prefix_append_cons (a := []) other b
    rw [List.nil_append, List.infix_cons_iff, start]
  | cons x xs ih =>
    have start := prefix_append_cons (a := x :: xs) other b
    rw [List.cons_append] at start ⊢
    rw [List.infix_cons_iff, List.infix_cons_iff, start, ih, or_assoc]

def HasArrow (t : Text) : Prop := ['-', '>'] <:+: t

instance (t : Text) : Decidable (HasArrow t) := inferInstanceAs (Decidable (_ <:+: _))

theorem hasArrow_append_cons {c : Char} (other : c ∉ ['-', '>']) (a b : Text) :
    HasArrow (a ++ c :: b) ↔ HasArrow a ∨ HasArrow b :=
  infix_append_cons other b

theorem not_hasArrow_nil : ¬HasArrow [] := by decide

theorem not_hasArrow_of_blank {t : Text} (h : Blank t) : ¬HasArrow t := by
  intro arrow
  have hyphen := h '-' (arrow.subset List.mem_cons_self)
  revert hyphen
  decide

theorem not_mem_arrow_of_isBlank {c : Char} (h : isBlank c = true) : c ∉ ['-', '>'] := by
  intro mem
  simp only [List.mem_cons, List.not_mem_nil, or_false] at mem
  rcases mem with rfl | rfl <;> revert h <;> decide

theorem hasArrow_strip {t : Text} : HasArrow (strip t) ↔ HasArrow t := by
  obtain ⟨l, r, left, right, eq⟩ := strip_decompose t
  have behind : HasArrow (l ++ strip t ++ r) ↔ HasArrow (l ++ strip t) := by
    cases r with
    | nil => rw [List.append_nil]
    | cons c cs =>
      have blank : ¬HasArrow cs := not_hasArrow_of_blank fun d hd => right d (.tail c hd)
      rw [hasArrow_append_cons (not_mem_arrow_of_isBlank (right c (.head cs)))]
      exact or_iff_left blank
  have before : HasArrow (l ++ strip t) ↔ HasArrow (strip t) := by
    rcases List.eq_nil_or_concat' l with rfl | ⟨cs, c, rfl⟩
    · rfl
    · have blank : ¬HasArrow cs :=
        not_hasArrow_of_blank fun d hd => left d (List.mem_append_left _ hd)
      have last : isBlank c = true := left c (by simp)
      rw [List.append_assoc, List.singleton_append,
        hasArrow_append_cons (not_mem_arrow_of_isBlank last)]
      exact or_iff_right blank
  rw [← eq] at behind
  exact before.symm.trans behind.symm

theorem hasArrow_append_angle {a : Text} (h : a.getLast? ≠ some '-') :
    HasArrow (a ++ ['>']) ↔ HasArrow a := by
  unfold HasArrow
  rw [List.infix_concat_iff, or_iff_right]
  rintro ⟨front, eq⟩
  have whole : (front ++ ['-']) ++ ['>'] = a ++ ['>'] := by simpa using eq
  rw [← List.append_cancel_right whole, List.getLast?_concat] at h
  exact h rfl

theorem hasArrow_joined {us : List Text} {t : Text} (h : Joined us t) :
    HasArrow t ↔ ∃ u ∈ us, HasArrow u := by
  induction h with
  | one u => simp
  | more u rest ih => simp [hasArrow_append_cons, ih]

theorem hasArrow_splitTopLevel {t : Text} : HasArrow t ↔ ∃ u ∈ splitTopLevel t, HasArrow u := by
  unfold splitTopLevel splitTopLevelBy
  split
  · next blank =>
    have none := not_hasArrow_of_blank fun c hc => List.all_eq_true.mp blank c hc
    simp [none]
  · rw [hasArrow_joined (joined_segments none {} t)]
    simp [hasArrow_strip, segments]

theorem free_wrap {b : Bracket} (other : b ≠ .angle) {a : Text} (closed : Closed (marks a))
    (m : Mark) : Free m (b.opener :: a ++ [b.closer]) := by
  rw [Free, marks_wrap (.inr other), closed.topLevel_wrap]
  exact List.not_mem_nil

namespace TypeExpr

def name? : TypeExpr → Option Text
  | .simple name | .generic name _ _ => some name
  | .optional _ | .function .. => none

def names (t : TypeExpr) : List Text :=
  t.nodes.filterMap name?

theorem mem_names_iff {t : TypeExpr} {n : Text} :
    n ∈ t.names ↔ t.name? = some n ∨ ∃ u ∈ t.children, n ∈ u.names := by
  rw [names, nodes_eq_cons]
  simp only [List.mem_filterMap, List.mem_cons, List.mem_flatMap, names]
  constructor
  · rintro ⟨v, rfl | ⟨u, child, inside⟩, eq⟩
    · exact .inl eq
    · exact .inr ⟨u, child, v, inside, eq⟩
  · rintro (eq | ⟨u, child, v, inside, eq⟩)
    · exact ⟨t, .inl rfl, eq⟩
    · exact ⟨v, .inr ⟨u, child, inside⟩, eq⟩

theorem containsClosure_iff_children {t : TypeExpr} : t.containsClosure = true ↔
    t.isClosure = true ∨ ∃ u ∈ t.children, u.containsClosure = true := by
  rw [containsClosure, nodes_eq_cons, List.any_cons, List.any_flatMap, Bool.or_eq_true,
    List.any_eq_true]
  rfl

/-- A property of trees holds somewhere among the results of reading if one of texts holds
somewhere among the texts. -/
theorem exists_part_iff {us : List Text} {ts : List TypeExpr} (h : us.mapM parse = .ok ts)
    {P : Text → Prop} {Q : TypeExpr → Prop}
    (same : ∀ u ∈ us, ∀ v, parse u = .ok v → (Q v ↔ P u)) :
    (∃ v ∈ ts, Q v) ↔ ∃ u ∈ us, P u := by
  constructor
  · rintro ⟨v, mem, holds⟩
    obtain ⟨u, inside, read⟩ := mem_of_mapM h v mem
    exact ⟨u, inside, (same u inside v read).mp holds⟩
  · rintro ⟨u, mem, holds⟩
    obtain ⟨v, inside, read⟩ := ok_of_mem_mapM h u mem
    exact ⟨v, inside, (same u mem v read).mpr holds⟩

/-- An arrow stands outside all brackets, in the text or in a part that is read on its own:
below an optional mark, in grouping parentheses, or among the arguments of an application. -/
inductive ShowsArrow : Text → Prop
  | here {s : Text} : ¬Free .arrow s → ShowsArrow s
  | part {s u : Text} {sh : Shape} : shape s = .ok sh → u ∈ sh.parts → ShowsArrow u → ShowsArrow s

theorem showsArrow_iff {s : Text} {sh : Shape} (shaped : shape s = .ok sh) :
    ShowsArrow s ↔ ¬Free .arrow s ∨ ∃ u ∈ sh.parts, ShowsArrow u := by
  constructor
  · rintro (here | ⟨other, mem, shows⟩)
    · exact .inl here
    · cases shaped.symm.trans other
      exact .inr ⟨_, mem, shows⟩
  · rintro (here | ⟨u, mem, shows⟩)
    · exact .here here
    · exact .part shaped mem shows

theorem containsClosure_iff {s : Text} {t : TypeExpr} (read : parse s = .ok t) :
    t.containsClosure = true ↔ ShowsArrow s := by
  refine readInduction ?_ read
  intro s sh t shaped read ih
  obtain ⟨-, -, shaped'⟩ := shape_ok shaped
  rw [showsArrow_iff shaped]
  have outline := outline_of_shape (trimmed_strip s) shaped'
  generalize eq : strip s = v at *
  cases outline with
  | name named =>
    cases parse_name shaped read
    have free : Free .arrow s := free_arrow_of_read read rfl
    rw [containsClosure_iff_children]
    simp [isClosure, children, Shape.parts, free]
  | application base inner first rest text noAngle named free =>
    obtain ⟨t', ts', parts, rfl⟩ := parse_application shaped read
    rw [← eq, free_strip] at free
    rw [containsClosure_iff_children, children, exists_part_iff parts ih]
    simp [isClosure, free, Shape.parts]
  | optional body text free =>
    obtain ⟨inner, readBody, rfl⟩ := parse_optional shaped read
    rw [← eq, free_strip] at free
    rw [containsClosure_iff_children]
    simp [isClosure, children, Shape.parts, free, ih body List.mem_cons_self inner readBody]
  | group inner text =>
    have readInner : parse inner = .ok t := by rwa [parse_eq, shaped] at read
    have free : Free .arrow s := by
      rw [← free_strip, eq, text]
      exact free_wrap (b := .paren) (by decide) (closed_of_parse readInner) .arrow
    simp [Shape.parts, free, ih inner List.mem_cons_self t readInner]
  | closure before behind _ text closed free formed =>
    subst text
    obtain ⟨ms, head, effects, core, -, -, -, rfl⟩ := closureShape_eq_ok formed
    obtain ⟨ts, r, -, -, rfl⟩ := parse_closure shaped read
    have shown : ¬Free .arrow s := by
      rw [← free_strip, eq]
      exact not_free_arrow closed behind
    exact iff_of_true (containsClosure_iff_children.mpr (.inl rfl)) (.inl shown)

/-- An arrow in a text makes a function type, or it stands in a name. -/
theorem hasArrow_iff {s : Text} {t : TypeExpr} (read : parse s = .ok t) :
    HasArrow s ↔ t.containsClosure = true ∨ ∃ n ∈ t.names, HasArrow n := by
  -- Trimming and brackets keep an arrow, so each shape hands it on to its parts or to a name.
  refine readInduction ?_ read
  intro s sh t shaped read ih
  obtain ⟨-, -, shaped'⟩ := shape_ok shaped
  rw [← hasArrow_strip]
  have outline := outline_of_shape (trimmed_strip s) shaped'
  generalize strip s = v at *
  cases outline with
  | name named =>
    cases parse_name shaped read
    simp [containsClosure, names, nodes, isClosure, name?]
  | application base inner first rest text noAngle named free noHyphen segments =>
    obtain ⟨t', ts', parts, rfl⟩ := parse_application shaped read
    have below : HasArrow inner ↔
        ∃ u ∈ t' :: ts', u.containsClosure = true ∨ ∃ n ∈ u.names, HasArrow n := by
      rw [hasArrow_splitTopLevel, segments]
      exact (exists_part_iff parts fun u mem v readU => (ih u mem v readU).symm).symm
    rw [text, List.append_assoc, List.cons_append, hasArrow_append_cons (by decide),
      hasArrow_append_angle noHyphen, below, ← hasArrow_strip, containsClosure_iff_children]
    simp only [mem_names_iff (t := .generic _ _ _), name?, children, isClosure]
    constructor
    · rintro (here | ⟨u, child, closure | ⟨n, mem, holds⟩⟩)
      · exact .inr ⟨_, .inl rfl, here⟩
      · exact .inl (.inr ⟨u, child, closure⟩)
      · exact .inr ⟨n, .inr ⟨u, child, mem⟩, holds⟩
    · rintro ((⟨⟨⟩⟩ | ⟨u, child, closure⟩) | ⟨n, own | ⟨u, child, mem⟩, holds⟩)
      · exact .inr ⟨u, child, .inl closure⟩
      · cases own
        exact .inl holds
      · exact .inr ⟨u, child, .inr ⟨n, mem, holds⟩⟩
  | optional body text free =>
    obtain ⟨inner, readBody, rfl⟩ := parse_optional shaped read
    rw [text, hasArrow_append_cons (by decide), or_iff_left not_hasArrow_nil,
      ih body List.mem_cons_self inner readBody]
    rfl
  | group inner text =>
    have readInner : parse inner = .ok t := by rwa [parse_eq, shaped] at read
    have opened := hasArrow_append_cons (c := '(') (by decide) [] (inner ++ [')'])
    rw [List.nil_append, or_iff_right not_hasArrow_nil] at opened
    rw [text, List.cons_append, opened, hasArrow_append_cons (by decide),
      or_iff_left not_hasArrow_nil]
    exact ih inner List.mem_cons_self t readInner
  | closure before behind _ text closed free formed =>
    subst text
    obtain ⟨ms, head, effects, core, -, -, -, rfl⟩ := closureShape_eq_ok formed
    obtain ⟨ts, r, -, -, rfl⟩ := parse_closure shaped read
    exact iff_of_true ⟨before, behind, by simp⟩
      (.inl (containsClosure_iff_children.mpr (.inl rfl)))

/-- Sugar and tuples show no arrow, whatever they hold: a text in brackets is a name, unless
the brackets are parentheses around one type. -/
theorem not_showsArrow_wrap {b : Bracket} (other : b ≠ .angle) {a : Text}
    (balanced : isBalanced a = true) (several : b = .paren → (splitTopLevel a).length ≠ 1) :
    ¬ShowsArrow (b.opener :: a ++ [b.closer]) := by
  have free := free_wrap other (isBalanced_iff.mp balanced)
  have solid : isBlank b.opener = false ∧ isBlank b.closer = false := by cases b <;> decide
  have last : (b.opener :: a ++ [b.closer]).getLast? = some b.closer := List.getLast?_concat
  have trim : Trimmed (b.opener :: a ++ [b.closer]) :=
    trimmed_between solid.1 solid.2 a
  rintro (shown | ⟨shaped, mem, -⟩)
  · exact shown (free .arrow)
  · have outline := outline_of_shape trim shaped
    generalize whole : b.opener :: a ++ [b.closer] = v at *
    cases outline with
    | name => cases mem
    | application base inner first rest text =>
      rw [text, List.getLast?_concat] at last
      cases b with
      | angle => exact other rfl
      | paren | square | brace => cases last
    | optional body text =>
      rw [text, List.getLast?_concat] at last
      cases b <;> cases last
    | group inner text one =>
      rw [text] at whole
      cases b with
      | paren =>
        have same : a = inner := by simpa [opener, closer] using whole
        exact several rfl (same ▸ one)
      | angle | square | brace => cases whole
    | closure before behind _ text closed =>
      rw [text] at free
      exact not_free_arrow closed behind (free .arrow)

end TypeExpr

namespace Variant

def closureWarning (m : Modifier) (p : Parameter) : Text :=
  m.name ++ ": parameter '" ++ p.name ++ "' " ++
    "carries a closure; synthesized Equatable conformance does not cover it"

def depthWarnings (maxDepth : Int) (m : Modifier) (p : Parameter) (e : TypeExpr) : List Text :=
  if maxDepth < e.depth then
    [m.name ++ ": parameter '" ++ p.name ++ "' " ++
      "type " ++ quoted p.type ++ " is nested " ++ decimal e.depth ++ " levels deep"]
  else []

def warningsOf (maxDepth : Int) (m : Modifier) (p : Parameter) : List Text :=
  match TypeExpr.parse p.type with
  | .ok e => warnings maxDepth m p e
  | .error _ => []

theorem warnings_eq (d : Int) (m : Modifier) (p : Parameter) (e : TypeExpr) :
    warnings d m p e =
      depthWarnings d m p e ++ if e.containsClosure then [closureWarning m p] else [] := by
  rw [warnings, depthWarnings, closureWarning]

theorem warnings_of_field {d : Int} {m : Modifier} {p : Parameter} {f : Field × List Text}
    (h : fieldOf d m p = .ok f) : f.2 = warningsOf d m p := by
  obtain ⟨e, read, storable, -⟩ := fieldOf_ok h
  rw [fieldOf_eq read, storable] at h
  cases h
  rw [warningsOf, read]

theorem warnings_of_variant {d : Int} {m : Modifier} {r : Variant × List Text}
    (h : ofModifier d m = .ok r) : r.2 = m.parameters.flatMap (warningsOf d m) := by
  obtain ⟨-, -, fs, fields, rfl⟩ := ofModifier_eq_ok h
  exact flatMap_of_mapM fields fun p f made => warnings_of_field made

end Variant

namespace EnumFile
open TypeExpr Variant

/-- The warnings of a file are those of its parameters, in order. A parameter is reported for a
closure if its type shows an arrow, and an arrow that is not shown stands in a name. Array and
dictionary sugar and tuples are such names. -/
theorem generate_closures (options : Options) (name : Text) (ms : List Modifier) :
    (∀ f, generate options name ms = .ok f →
      f.warnings =
        ms.flatMap (fun m => m.parameters.flatMap (warningsOf options.maxTypeDepth m)) ∧
      ∀ m ∈ ms, ∀ p ∈ m.parameters, ∃ e, parse p.type = .ok e ∧
        (ShowsArrow p.type → warningsOf options.maxTypeDepth m p =
          depthWarnings options.maxTypeDepth m p e ++ [closureWarning m p]) ∧
        (¬ShowsArrow p.type → warningsOf options.maxTypeDepth m p =
          depthWarnings options.maxTypeDepth m p e) ∧
        (HasArrow p.type ↔ ShowsArrow p.type ∨ ∃ n ∈ e.names, HasArrow n)) ∧
    ∀ u, isBalanced u = true → ¬ShowsArrow ('[' :: u ++ [']']) ∧
      ((splitTopLevel u).length ≠ 1 → ¬ShowsArrow ('(' :: u ++ [')'])) := by
  constructor
  · intro f made
    obtain ⟨-, -, built, all, -, rfl⟩ := generate_eq_ok_iff.mp made
    refine ⟨flatMap_of_mapM all fun m r one => warnings_of_variant (variantOf_eq_ok one), ?_⟩
    intro m mem p inside
    obtain ⟨r, -, one⟩ := ok_of_mem_mapM all m mem
    have fits := exists_ofModifier_iff.mp ⟨r, variantOf_eq_ok one⟩
    obtain ⟨e, read, -⟩ := fits.parameters p inside
    have chunk : warningsOf options.maxTypeDepth m p =
        depthWarnings options.maxTypeDepth m p e ++
          if e.containsClosure then [closureWarning m p] else [] := by
      rw [warningsOf, read]
      exact warnings_eq _ m p e
    rw [chunk]
    refine ⟨e, read, fun shown => ?_, fun hidden => ?_, ?_⟩
    · rw [if_pos ((containsClosure_iff read).mpr shown)]
    · rw [if_neg (mt (containsClosure_iff read).mp hidden), List.append_nil]
    · rw [hasArrow_iff read, containsClosure_iff read]
  · intro u balanced
    exact ⟨not_showsArrow_wrap (b := .square) (by decide) balanced nofun,
      fun several => not_showsArrow_wrap (b := .paren) (by decide) balanced fun _ => several⟩

theorem generate_closures_spellings :
    let shown : Text := "Array<() -> Void>"
    let hidden : Text := "[() -> Void]"
    let p : Parameter := ⟨none, "p", shown, false, none⟩
    let q : Parameter := ⟨none, "q", hidden, false, none⟩
    let m : Modifier := ⟨"f", [p, q], "V", none, none, false, [], []⟩
    ∃ f, generate {} "E" [m] = .ok f ∧ f.warnings = [closureWarning m p] ∧
      ShowsArrow shown ∧ ¬ShowsArrow hidden ∧ HasArrow hidden := by
  intro shown hidden p q m
  let t : TypeExpr := .generic "Array" (.function [] (.simple "Void") false [] []) []
  have readP : parse shown = .ok t := by decide +kernel
  have readQ : parse hidden = .ok (.simple hidden) := by decide +kernel
  have possible : (generate {} "E" [m]).toOption.isSome = true := by decide +kernel
  obtain ⟨f, produced⟩ := Option.isSome_iff_exists.mp possible
  have made := eq_ok_of_toOption produced
  have shows : ShowsArrow shown := (containsClosure_iff readP).mp (by decide +kernel)
  obtain ⟨reports, sugar⟩ := generate_closures {} "E" [m]
  have hides : ¬ShowsArrow hidden := (sugar "() -> Void" (by decide +kernel)).1
  obtain ⟨warned, each⟩ := reports f made
  obtain ⟨e, read, reported, -⟩ := each m (by simp) p (by simp [m])
  obtain ⟨e', read', -, silent, -⟩ := each m (by simp) q (by simp [m])
  cases readP.symm.trans read
  cases readQ.symm.trans read'
  have shallow : depthWarnings 4 m p t = [] ∧ depthWarnings 4 m q (.simple hidden) = [] := by
    decide +kernel
  refine ⟨f, made, ?_, shows, hides, by decide +kernel⟩
  have parameters : m.parameters = [p, q] := rfl
  rw [warned, List.flatMap_singleton, parameters, List.flatMap_cons, List.flatMap_singleton,
    reported shows, silent hides, shallow.1, shallow.2, List.nil_append, List.append_nil]

theorem generate_closures_sugar :
    let p : Parameter := ⟨none, "p", "[() -> Void]", false, none⟩
    let m : Modifier := ⟨"f", [p], "V", none, none, false, [], []⟩
    ∃ f, generate {} "E" [m] = .ok f ∧ ¬(closureWarning m p ∈ f.warnings ↔ HasArrow p.type) := by
  intro p m
  have silent : (generate {} "E" [m]).toOption.map (·.warnings) = some [] := by decide +kernel
  obtain ⟨f, made, unwarned⟩ := Option.map_eq_some_iff.mp silent
  refine ⟨f, eq_ok_of_toOption made, fun reported => ?_⟩
  have arrow : HasArrow p.type := by decide +kernel
  have warned := reported.mpr arrow
  rw [unwarned] at warned
  cases warned

end EnumFile
end ViewCases
