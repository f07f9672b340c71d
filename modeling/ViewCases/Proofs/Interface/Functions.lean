import ViewCases.Interface.Basic
import ViewCases.Proofs.Member.Lead
import ViewCases.Proofs.Member.Remarks
import ViewCases.Proofs.Signature.Front

/-! Functions out of a body text, against the reading of each header alone. With bodies the
two agree. Without a body the remarks behind a header are read as the end of it, where the
return type and the constraints stand; nothing before them can change. -/
namespace ViewCases.Findings
open Text Member FunctionHeader

theorem insideBraces_braced (t : Text) : insideBraces ('\x7b' :: t ++ ['\x7d']) = t := by
  have last : ('\x7b' :: t ++ ['\x7d']).getLast? = some '\x7d' := List.getLast?_concat
  unfold insideBraces
  rw [if_pos last]
  exact List.dropLast_concat

theorem foldl_append (found : Member → Findings) (ms : List Member) (start : Findings) :
    ms.foldl (fun f m => f.append (found m)) start =
      ⟨start.modifiers ++ ms.flatMap fun m => (found m).modifiers,
        start.issues ++ ms.flatMap fun m => (found m).issues⟩ := by
  induction ms generalizing start with
  | nil => simp
  | cons m ms ih =>
    rw [List.foldl_cons, ih]
    simp [append]

theorem ofBody_noted (filePath : Text) (row : Nat) {items : List (Gap × Written)} {last : Gap}
    (h : Noted items last) :
    let inside := noted items last
    ofBody filePath row ('\x7b' :: inside ++ ['\x7d']) =
      ⟨(notedMembers 0 items last).flatMap fun m => (ofMember filePath inside row m).modifiers,
        (notedMembers 0 items last).flatMap fun m => (ofMember filePath inside row m).issues⟩ := by
  intro inside
  rw [ofBody, insideBraces_braced, split_noted h, foldl_append]
  rfl

theorem ofMember_func (filePath inside : Text) (row : Nat) {m : Member} (h : m.keyword = "func") :
    ofMember filePath inside row m = ofHeader filePath m.header (DocComment.text? m.comments)
      (row + 1 + countNewlines (inside.take m.offset)) := by
  rw [ofMember, if_pos h]

theorem ofHeader_eq {filePath header : Text} {documentation : Option Text} {line : Nat}
    {f : FunctionHeader} (read : parse? header = some f) :
    ofHeader filePath header documentation line =
      ⟨if f.isExported then [Modifier.ofHeader f documentation] else [], []⟩ := by
  rw [ofHeader, read]
  cases exported : f.isExported with
  | true => simp only [exported, if_true]
  | false => simp only [exported, Bool.false_eq_true, if_false]

theorem mem_notedMembers {items : List (Gap × Written)} {last : Gap} {pos : Nat} {m : Member}
    (mem : m ∈ notedMembers pos items last) :
    ∃ x ∈ items, ∃ behind, m.keyword = x.2.keyword ∧ m.header = x.2.headerBefore behind := by
  induction items generalizing pos with
  | nil => cases mem
  | cons x xs ih =>
    rcases List.mem_cons.mp mem with rfl | mem
    · exact ⟨x, List.mem_cons_self, _, rfl, rfl⟩
    · obtain ⟨y, inside, found⟩ := ih mem
      exact ⟨y, List.mem_cons_of_mem x inside, found⟩

theorem ofBody_readable (filePath : Text) (row : Nat) {items : List (Gap × Written)} {last : Gap}
    (h : Noted items last)
    (readable : ∀ m ∈ notedMembers 0 items last,
      m.keyword = "func" ∧ (parse? m.header).isSome = true) :
    ofBody filePath row ('\x7b' :: noted items last ++ ['\x7d']) =
      ⟨(notedMembers 0 items last).flatMap fun m =>
        (ofHeader filePath m.header (DocComment.text? m.comments) row).modifiers, []⟩ := by
  have each : ∀ m ∈ notedMembers 0 items last,
      (ofMember filePath (noted items last) row m).modifiers =
        (ofHeader filePath m.header (DocComment.text? m.comments) row).modifiers ∧
      (ofMember filePath (noted items last) row m).issues = [] := by
    intro m mem
    obtain ⟨function, some⟩ := readable m mem
    obtain ⟨f, read⟩ := Option.isSome_iff_exists.mp some
    rw [ofMember_func _ _ _ function, ofHeader_eq read, ofHeader_eq read]
    exact ⟨rfl, rfl⟩
  rw [ofBody_noted filePath row h]
  congr 1
  · rw [List.flatMap_def, List.flatMap_def, List.map_congr_left fun m mem => (each m mem).1]
  · exact List.flatMap_eq_nil_iff.mpr fun m mem => (each m mem).2

theorem flatMap_notedMembers_bodied {items : List (Gap × Written)} {last : Gap}
    (bodies : ∀ x ∈ items, x.2.body.isSome = true) (pos : Nat)
    (read : Text → List Text → List Modifier) :
    (notedMembers pos items last).flatMap (fun m => read m.header m.comments) =
      items.flatMap fun x => read x.2.header x.1.comments := by
  induction items generalizing pos with
  | nil => rfl
  | cons x xs ih =>
    obtain ⟨body, later⟩ := List.forall_mem_cons.mp bodies
    rw [notedMembers, List.flatMap_cons, List.flatMap_cons, ih later,
      Written.headerBefore_isSome body]

/-- The modifiers of functions with bodies are those of their headers, read one by one with
the remarks before each. Nothing comes of a function that has neither of two words before
its keyword. -/
theorem ofBody_functions (filePath : Text) (row : Nat) {items : List (Gap × Written)} {last : Gap}
    (h : Noted items last) (functions : ∀ x ∈ items, x.2.IsFunction)
    (bodies : ∀ x ∈ items, x.2.body.isSome = true)
    (readable : ∀ x ∈ items, (parse? x.2.header).isSome = true) :
    let found := ofBody filePath row ('\x7b' :: noted items last ++ ['\x7d'])
    found.issues = [] ∧
      found.modifiers = items.flatMap (fun x =>
        (ofHeader filePath x.2.header (DocComment.text? x.1.comments) row).modifiers) ∧
      ∀ m ∈ found.modifiers, ∃ x ∈ items,
        (("public" : Text) ∈ x.2.words ∨ ("open" : Text) ∈ x.2.words) ∧
        ∃ f, parse? x.2.header = some f ∧
          m = Modifier.ofHeader f (DocComment.text? x.1.comments) := by
  intro found
  have all : found = ⟨items.flatMap fun x =>
      (ofHeader filePath x.2.header (DocComment.text? x.1.comments) row).modifiers, []⟩ := by
    -- A body ends the text of a member, so nothing behind it is read with the header.
    have whole := ofBody_readable filePath row h fun m mem => by
      obtain ⟨x, inside, behind, keyword, header⟩ := mem_notedMembers mem
      rw [keyword, header, Written.headerBefore_isSome (bodies x inside)]
      exact ⟨(functions x inside).keyword, readable x inside⟩
    rw [flatMap_notedMembers_bodied bodies 0 fun header comments =>
      (ofHeader filePath header (DocComment.text? comments) row).modifiers] at whole
    exact whole
  refine ⟨congrArg Findings.issues all, congrArg Findings.modifiers all, ?_⟩
  intro m mem
  rw [all] at mem
  obtain ⟨x, inside, made⟩ := List.mem_flatMap.mp mem
  obtain ⟨f, read⟩ := Option.isSome_iff_exists.mp (readable x inside)
  rw [ofHeader_eq read] at made
  cases exported : f.isExported with
  | false => simp [exported] at made
  | true =>
    have words := Written.exported_words (h.members x inside) (functions x inside) read exported
    exact ⟨x, inside, words, f, read, by simpa [exported] using made⟩

theorem ofBody_functions_open :
    let items : List (Gap × Written) :=
      [(⟨['\n'], []⟩, ⟨[(.modifier "public", [' '])], "func", " open() -> V", some ([' '], [])⟩),
       (⟨['\n'], [(.line "/ B", ['\n'])]⟩, ⟨[], "func", " b()", some ([], " x ")⟩)]
    let last : Gap := ⟨['\n'], []⟩
    Noted items last ∧
      (ofBody [] 0 ('\x7b' :: noted items last ++ ['\x7d'])).modifiers.map (·.name) =
        [("open" : Text)] := by
  intro items last
  have result : Settling true (' ' :: '-' :: '>' :: ' ' :: (['V'] ++ [])) :=
    .lone _ (by decide) (.lone _ (by decide) (.lone _ (by decide) (.lone _ (by decide)
      (.name "V" (by decide) (by decide) (by decide) (by decide) .nil))))
  have first : Settling false (' ' :: ("open" ++ ('(' :: [] ++ ')' ::
      ' ' :: '-' :: '>' :: ' ' :: (['V'] ++ [])))) :=
    .lone _ (by decide) (.modifier "open" (by decide) (by decide)
      (.group .paren [] (.inl rfl) (by decide) result))
  have second : Settling false (' ' :: (['b'] ++ ('(' :: [] ++ ')' :: []))) :=
    .lone _ (by decide) (.name "b" (by decide) (by decide) (by decide) (by decide)
      (.group .paren [] (.inl rfl) (by decide) .nil))
  have opens : Written.Settles
      ⟨[(.modifier "public", [' '])], "func", " open() -> V", some ([' '], [])⟩ := by
    refine ⟨by decide, by decide, by decide, first, by decide, by rintro c ⟨⟩; rfl, ?_⟩
    rintro gap inside ⟨⟩
    decide
  have plain : Written.Settles ⟨[], "func", " b()", some ([], " x ")⟩ := by
    refine ⟨by simp, by simp, by decide, second, by decide, by rintro c ⟨⟩; rfl, ?_⟩
    rintro gap inside ⟨⟩
    decide
  have noted : Noted items last := by
    refine ⟨?_, by simp [items, Gap.write], ?_, Gap.legible_plain (by decide)⟩
    · simp only [items, List.forall_mem_cons]
      exact ⟨Gap.legible_plain (by decide), ⟨by decide, by decide, by simp⟩, by simp⟩
    · simp only [items, List.forall_mem_cons]
      exact ⟨opens, plain, by simp⟩
  have agree := (ofBody_functions [] 0 noted (by decide) (by decide) (by decide +kernel)).2.1
  rw [agree]
  exact ⟨noted, by decide +kernel⟩

/-- Where the name is the last word outside brackets, it is taken for the lead of the next
member, which is read as exported for it. -/
theorem ofBody_name_leads :
    let headers : List Text := ["public func open()", "func b()"]
    let found := ofBody [] 0 "\x7b\npublic func open() \x7b\x7d\nfunc b() \x7b\x7d\n\x7d"
    headers.flatMap (fun h => (ofHeader [] h none 0).modifiers.map (·.name)) = [("open" : Text)] ∧
      found.modifiers.map (·.name) = [("open" : Text), "b"] := by
  decide +kernel

/-- The modifiers of functions without bodies: what stands between a header and the next
member is read as the end of the header. -/
def readings : List (Gap × Written) → Gap → List Modifier
  | [], _ => []
  | (gap, m) :: rest, last =>
    (front? m.header).toList.map (fun front =>
      Modifier.ofHeader (front.1.header (front.2 ++ stripEnd (firstGap rest last).write))
        (DocComment.text? gap.comments)) ++ readings rest last

/-- A modifier but for its documentation and what is read behind its parameters. -/
def core (m : Modifier) : Modifier :=
  { m with returnType := [], genericConstraints := [], documentation := none }

theorem core_readings (items : List (Gap × Written)) (last : Gap) :
    (readings items last).map core = (items.map Prod.snd).flatMap fun m =>
      (front? m.header).toList.map fun front => core (Modifier.ofHeader (front.1.header []) none) := by
  induction items with
  | nil => rfl
  | cons x xs ih =>
    rw [readings, List.map_append, ih, List.map_cons, List.flatMap_cons, List.map_map]
    rfl

theorem front?_of_parse? {header : Text} {f : FunctionHeader} (trimmed : Trimmed header)
    (read : parse? header = some f) :
    ∃ front tail, front? header = some (front, tail) ∧ f = front.header tail := by
  rw [parse?_eq_front?, strip_of_trimmed trimmed] at read
  obtain ⟨⟨front, tail⟩, found, eq⟩ := Option.map_eq_some_iff.mp read
  exact ⟨front, tail, found, eq.symm⟩

/-- An exported function without a body. -/
structure Bare (m : Written) : Prop where
  function : m.keyword = "func"
  bodyless : m.body = none
  exported : (parse? m.header).any isExported = true

theorem Bare.read {m : Written} (h : Bare m) (settles : m.Settles) :
    ∃ front tail, front? m.header = some (front, tail) ∧ ∀ behind,
      parse? (m.headerBefore behind) = some (front.header (tail ++ stripEnd behind)) ∧
        (front.header (tail ++ stripEnd behind)).isExported = true := by
  obtain ⟨f, read, exported⟩ := (Option.any_eq_true _ _).mp h.exported
  obtain ⟨front, tail, found, rfl⟩ := front?_of_parse? settles.trimmed read
  refine ⟨front, tail, found, fun behind => ⟨?_, exported⟩⟩
  rw [Written.headerBefore_none h.bodyless]
  exact parse?_append settles.trimmed found behind

theorem flatMap_notedMembers_bare (filePath : Text) (line : Nat) {items : List (Gap × Written)}
    {last : Gap} (settles : ∀ x ∈ items, x.2.Settles) (bare : ∀ x ∈ items, Bare x.2) (pos : Nat) :
    (notedMembers pos items last).flatMap (fun m =>
      (ofHeader filePath m.header (DocComment.text? m.comments) line).modifiers) =
      readings items last := by
  induction items generalizing pos with
  | nil => rfl
  | cons x xs ih =>
    obtain ⟨settlesFirst, settlesLater⟩ := List.forall_mem_cons.mp settles
    obtain ⟨bareFirst, bareLater⟩ := List.forall_mem_cons.mp bare
    obtain ⟨front, tail, found, behind⟩ := bareFirst.read settlesFirst
    obtain ⟨read, exported⟩ := behind (firstGap xs last).write
    rw [notedMembers, List.flatMap_cons, ih settlesLater bareLater, readings, found,
      ofHeader_eq read, if_pos exported]
    rfl

theorem ofBody_bare (filePath : Text) (row : Nat) {items : List (Gap × Written)} {last : Gap}
    (h : Noted items last) (bare : ∀ x ∈ items, Bare x.2) :
    ofBody filePath row ('\x7b' :: noted items last ++ ['\x7d']) =
      ⟨readings items last, []⟩ := by
  have whole := ofBody_readable filePath row h fun m mem => by
    obtain ⟨x, inside, behind, keyword, header⟩ := mem_notedMembers mem
    obtain ⟨front, tail, -, read⟩ := (bare x inside).read (h.members x inside)
    rw [keyword, header, (read behind).1]
    exact ⟨(bare x inside).function, rfl⟩
  rw [flatMap_notedMembers_bare filePath row h.members bare] at whole
  exact whole

/-- Two layouts of the same functions, with any remarks between them. Neither has an issue,
and the modifiers agree up to documentation, return types and constraints; these are read
with the remarks that follow. -/
theorem ofBody_remarks (filePath : Text) (row : Nat) {items items' : List (Gap × Written)}
    {last last' : Gap} (h : Noted items last) (h' : Noted items' last')
    (same : items'.map Prod.snd = items.map Prod.snd) (bare : ∀ m ∈ items.map Prod.snd, Bare m) :
    let found := ofBody filePath row ('\x7b' :: noted items last ++ ['\x7d'])
    let found' := ofBody filePath row ('\x7b' :: noted items' last' ++ ['\x7d'])
    found = ⟨readings items last, []⟩ ∧ found' = ⟨readings items' last', []⟩ ∧
      found'.modifiers.map core = found.modifiers.map core := by
  intro found found'
  have first : found = ⟨readings items last, []⟩ :=
    ofBody_bare filePath row h fun x mem => bare _ (List.mem_map_of_mem mem)
  have second : found' = ⟨readings items' last', []⟩ :=
    ofBody_bare filePath row h' fun x mem => bare _ (same ▸ List.mem_map_of_mem mem)
  refine ⟨first, second, ?_⟩
  rw [first, second, core_readings, core_readings, same]

theorem ofBody_remarks_arrow :
    let a : Written := ⟨[(.modifier "public", [' '])], "func", " a()", none⟩
    let plain : Gap := ⟨['\n'], []⟩
    let remark : Gap := ⟨['\n'], [(.line " -> V", ['\n'])]⟩
    let found := ofBody [] 0 ('\x7b' :: noted [(plain, a)] plain ++ ['\x7d'])
    let found' := ofBody [] 0 ('\x7b' :: noted [(plain, a)] remark ++ ['\x7d'])
    (∀ m ∈ [a], Bare m) ∧ Noted [(plain, a)] plain ∧ Noted [(plain, a)] remark ∧
      found'.modifiers.map core = found.modifiers.map core ∧
      found.modifiers.map (·.returnType) = [("Void" : Text)] ∧
      found'.modifiers.map (·.returnType) = [("V" : Text)] := by
  intro a plain remark found found'
  have bare : ∀ m ∈ [a], Bare m := by
    intro m hm
    cases List.mem_singleton.mp hm
    exact ⟨rfl, rfl, by decide +kernel⟩
  have tail : Settling false (' ' :: (['a'] ++ ('(' :: [] ++ ')' :: []))) :=
    .lone _ (by decide) (.name "a" (by decide) (by decide) (by decide) (by decide)
      (.group .paren [] (.inl rfl) (by decide) .nil))
  have settles : a.Settles :=
    ⟨by decide, by decide, by decide, tail, by decide, by rintro c ⟨⟩; rfl, by simp [a]⟩
  have noted : ∀ last : Gap, last.Legible → Noted [(plain, a)] last := by
    refine fun last h => ⟨?_, by simp, ?_, h⟩
    · simp only [List.forall_mem_cons]
      exact ⟨Gap.legible_plain (by decide), by simp⟩
    · simp only [List.forall_mem_cons]
      exact ⟨settles, by simp⟩
  have before := noted plain (Gap.legible_plain (by decide))
  have after := noted remark ⟨by decide, by decide, by simp [remark]⟩
  obtain ⟨-, -, agree⟩ := ofBody_remarks [] 0 before after rfl bare
  exact ⟨bare, before, after, agree, by decide +kernel⟩

/-- The remark belongs to the second function and is in the return type of the first. -/
theorem ofBody_remark_in_result :
    let body : Text → Text := fun remark =>
      "\x7b\npublic func a() -> some View\n" ++ remark ++ "public func b() -> some View\n\x7d"
    let results : Text → List Text := fun t => (ofBody [] 0 t).modifiers.map (·.returnType)
    results (body []) = [("some View" : Text), "some View"] ∧
      results (body "/// Note.\n") = [("some View\n/// Note." : Text), "some View"] := by
  decide +kernel

end ViewCases.Findings
