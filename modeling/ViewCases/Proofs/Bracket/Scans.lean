import ViewCases.Proofs.Bracket.Marks

/-! The scans read as walks along the marks: balance, the partner of a bracket, the
first arrow outside brackets and the segments between top-level commas. -/
namespace ViewCases.Bracket

theorem balancedFrom_opener (b k : Bracket) (prev : Option Char) (d : Nest) (cs : Text) :
    balancedFrom b prev (d b) (k.opener :: cs) =
      balancedFrom b (some k.opener) (d.opened k b) cs := by
  cases b <;> cases k <;> simp [balancedFrom, opener, closes, closer, Nest.opened]

theorem balancedFrom_closer (b : Bracket) {k : Bracket} {prev : Option Char}
    (h : arrowHead prev k.closer = false) {d : Nest} (hd : d k ≠ 0) (cs : Text) :
    balancedFrom b prev (d b) (k.closer :: cs) =
      balancedFrom b (some k.closer) (d.closed k b) cs := by
  by_cases eq : b = k
  · subst eq
    obtain ⟨n, hn⟩ := Nat.exists_eq_succ_of_ne_zero hd
    simp [balancedFrom, closes, h, hn, Nest.closed]
  · simp [balancedFrom, closes, closer_ne_closer eq, Nest.closed, eq]

theorem balancedFrom_of_not_bracket (b : Bracket) {prev : Option Char} {c : Char}
    (h : isBracket prev c = false) (n : Nat) (cs : Text) :
    balancedFrom b prev n (c :: cs) = balancedFrom b (some c) n cs := by
  have ne := ne_of_not_bracket h b
  simp [balancedFrom, ne.1, ne.2]

theorem balancedFrom_of_walk (b : Bracket) {prev : Option Char} {d e : Nest} {t : Text}
    (h : walk d (marksFrom prev t) = some e) : balancedFrom b prev (d b) t = (e b == 0) := by
  induction t generalizing prev d with
  | nil =>
    cases Option.some.inj h
    rfl
  | cons c cs ih =>
    cases role prev c with
    | opens k =>
      rw [walk_opener] at h
      rw [balancedFrom_opener]
      exact ih h
    | closes k head =>
      obtain ⟨hd, h⟩ := walk_closer_eq_some head h
      rw [balancedFrom_closer b head hd]
      exact ih h
    | other c plain =>
      rw [walk_other d plain] at h
      rw [balancedFrom_of_not_bracket b plain]
      exact ih h

theorem walk_of_balancedFrom {prev : Option Char} {d : Nest} {t : Text}
    (h : ∀ b, balancedFrom b prev (d b) t = true) : walk d (marksFrom prev t) = some .flat := by
  induction t generalizing prev d with
  | nil =>
    apply congrArg some
    funext b
    exact eq_of_beq (h b)
  | cons c cs ih =>
    cases role prev c with
    | opens k =>
      simp only [balancedFrom_opener] at h
      rw [walk_opener]
      exact ih h
    | closes k head =>
      have hd : d k ≠ 0 := by
        intro zero
        have := h k
        simp [balancedFrom, closes, head, zero] at this
      simp only [balancedFrom_closer _ head hd] at h
      rw [walk_closer d head, if_neg hd]
      exact ih h
    | other c plain =>
      simp only [balancedFrom_of_not_bracket _ plain] at h
      rw [walk_other d plain]
      exact ih h

theorem isBalanced_iff {t : Text} : isBalanced t = true ↔ Closed (marks t) := by
  constructor
  · intro h
    apply walk_of_balancedFrom
    intro b
    exact List.all_eq_true.mp h b (mem_all b)
  · intro h
    apply List.all_eq_true.mpr
    intro b _
    have := balancedFrom_of_walk b h
    simpa [Nest.flat] using this

theorem findMatching_opener (b : Bracket) (a t : Text) :
    findMatching (a ++ b.opener :: t) a.length =
      .ok ((b.partner? (b.opener :: t)).map (a.length + ·)) := by
  simp [findMatching, ofOpener?_opener]

theorem partnerFrom_of_not_bracket (b : Bracket) {prev : Option Char} {c : Char}
    (h : isBracket prev c = false) (n pos : Nat) (cs : Text) :
    partnerFrom b prev n pos (c :: cs) = partnerFrom b (some c) n (pos + 1) cs := by
  have ne := ne_of_not_bracket h b
  simp [partnerFrom, ne.1, ne.2]

theorem partnerFrom_append (b : Bracket) {k : Nat} (hk : 0 < k) {prev : Option Char} {d e : Nest}
    {a : Text} (h : walk d (marksFrom prev a) = some e) (pos : Nat) (t : Text) :
    partnerFrom b prev (k + d b) pos (a ++ t) =
      partnerFrom b (lastOf prev a) (k + e b) (pos + a.length) t := by
  induction a generalizing prev d pos with
  | nil =>
    cases Option.some.inj h
    rfl
  | cons c cs ih =>
    have len : pos + (c :: cs).length = pos + 1 + cs.length := by simp; omega
    rw [List.cons_append, len]
    cases role prev c with
    | opens j =>
      rw [walk_opener] at h
      rw [lastOf, ← ih h (pos + 1)]
      cases b <;> cases j <;>
        simp [partnerFrom, opener, closes, closer, Nest.opened, Nat.add_assoc]
    | closes j head =>
      obtain ⟨hd, h⟩ := walk_closer_eq_some head h
      rw [lastOf, ← ih h (pos + 1)]
      by_cases eq : b = j
      · subst eq
        have notLast : k + d b ≠ 1 := by omega
        have down : k + d b - 1 = k + (d b - 1) := by omega
        simp [partnerFrom, closes, head, Nest.closed, notLast, down]
      · simp [partnerFrom, closes, closer_ne_closer eq, Nest.closed, eq]
    | other c plain =>
      rw [walk_other d plain] at h
      rw [partnerFrom_of_not_bracket b plain, lastOf, ← ih h (pos + 1)]

theorem partner?_wrap (b : Bracket) {a : Text} (h : Closed (marks a))
    (tail : a.getLast? ≠ some '-' ∨ b ≠ .angle) (t : Text) :
    b.partner? (b.opener :: a ++ b.closer :: t) = some (a.length + 1) := by
  have step : b.partner? (b.opener :: a ++ b.closer :: t) =
      partnerFrom b (some b.opener) 1 1 (a ++ b.closer :: t) := by
    simp [partner?, partnerFrom]
  have notHyphen : some b.opener ≠ some '-' := by cases b <;> decide
  have inside : walk .flat (marksFrom (some b.opener) a) = some .flat := by
    rw [marksFrom_eq_marks (.inl notHyphen)]
    exact h
  have notHead : arrowHead (lastOf (some b.opener) a) b.closer = false := by
    rcases tail with tail | tail
    · cases a with
      | nil => cases b <;> simp [lastOf, arrowHead, closer, opener]
      | cons c cs =>
        rw [lastOf, lastOf_some]
        simp [arrowHead, tail]
    · cases b <;> simp_all [arrowHead, closer]
  rw [step, show (1 : Nat) = 1 + Nest.flat b from rfl, partnerFrom_append b Nat.one_pos inside]
  simp [partnerFrom, closes, notHead, Nest.flat, Nat.add_comm]

theorem partnerFrom_eq_some {b : Bracket} {prev : Option Char} {n pos i : Nat} {t : Text}
    (h : partnerFrom b prev n pos t = some i) :
    ∃ a r, t = a ++ b.closer :: r ∧ i = pos + a.length ∧
      arrowHead (lastOf prev a) b.closer = false := by
  induction t generalizing prev n pos with
  | nil => simp [partnerFrom] at h
  | cons c cs ih =>
    have further : ∀ m, partnerFrom b (some c) m (pos + 1) cs = some i →
        ∃ a r, c :: cs = a ++ b.closer :: r ∧ i = pos + a.length ∧
          arrowHead (lastOf prev a) b.closer = false := by
      intro m hm
      obtain ⟨a, r, rfl, rfl, head⟩ := ih hm
      exact ⟨c :: a, r, rfl, by simp; omega, head⟩
    unfold partnerFrom at h
    split at h
    · exact further _ h
    · split at h
      · next shut =>
        simp only [closes, Bool.and_eq_true, beq_iff_eq, Bool.not_eq_true'] at shut
        split at h
        · cases Option.some.inj h
          exact ⟨[], cs, by simp [shut.1], rfl, by simpa [lastOf, shut.1] using shut.2⟩
        · exact further _ h
      · exact further _ h

theorem partner?_eq_some {b : Bracket} {i : Nat} {t : Text}
    (h : b.partner? (b.opener :: t) = some i) :
    ∃ a r, t = a ++ b.closer :: r ∧ i = a.length + 1 ∧
      (a.getLast? ≠ some '-' ∨ b ≠ .angle) := by
  have step : b.partner? (b.opener :: t) = partnerFrom b (some b.opener) 1 1 t := by
    simp [partner?, partnerFrom]
  rw [step] at h
  obtain ⟨a, r, rfl, rfl, head⟩ := partnerFrom_eq_some h
  refine ⟨a, r, rfl, Nat.add_comm _ _, ?_⟩
  cases b with
  | angle =>
    left
    cases a with
    | nil => simp
    | cons c cs =>
      rw [lastOf, lastOf_some] at head
      simpa [arrowHead, closer] using head
  | paren => right; simp
  | square => right; simp
  | brace => right; simp

theorem partner?_eq_last {b : Bracket} {t : Text} (h : b.partner? (b.opener :: t) = some t.length) :
    ∃ a, t = a ++ [b.closer] ∧ (a.getLast? ≠ some '-' ∨ b ≠ .angle) := by
  obtain ⟨a, r, rfl, len, head⟩ := partner?_eq_some h
  have none : r = [] := by
    apply List.length_eq_zero_iff.mp
    simp only [List.length_append, List.length_cons] at len
    omega
  exact ⟨a, by rw [none], head⟩

theorem partnerFrom_local {b : Bracket} {prev : Option Char} {n pos i : Nat} {a t : Text}
    (h : partnerFrom b prev n pos (a ++ t) = some i) (inside : i < pos + a.length) (u : Text) :
    partnerFrom b prev n pos (a ++ u) = some i := by
  induction a generalizing prev n pos with
  | nil =>
    have := partnerFrom_lt h
    simp at inside
    omega
  | cons c cs ih =>
    have inside' : i < pos + 1 + cs.length := by simp at inside; omega
    rw [List.cons_append, partnerFrom] at h ⊢
    split at h
    · next eq => rw [if_pos eq]; exact ih h inside'
    · next ne =>
      rw [if_neg ne]
      split at h
      · next shut =>
        rw [if_pos shut]
        split at h
        · next last => rw [if_pos last]; exact h
        · next last => rw [if_neg last]; exact ih h inside'
      · next shut => rw [if_neg shut]; exact ih h inside'

/-- No `token` begins in `a` outside brackets, also not one that ends in `t` behind it. -/
def Misses (token : Text) (prev : Option Char) (d : Nest) (a t : Text) : Prop :=
  ∀ u v, a = u ++ v → v ≠ [] → walk d (marksFrom prev u) = some .flat →
    token.isPrefixOf (v ++ t) = false

theorem misses_of_not_mem {x : Char} {a : Text} (h : x ∉ a) (xs : Text) (prev : Option Char)
    (d : Nest) (t : Text) : Misses (x :: xs) prev d a t := by
  rintro u v rfl ne -
  cases v with
  | nil => exact absurd rfl ne
  | cons c v =>
    have : x ≠ c := by
      rintro rfl
      exact h (by simp)
    simp [List.isPrefixOf, this]

theorem misses_arrow {prev : Option Char} {d : Nest} {a t : Text}
    (free : .arrow ∉ topLevel d (marksFrom prev a))
    (seam : lastOf prev a ≠ some '-' ∨ t.head? ≠ some '>') :
    Misses ['-', '>'] prev d a t := by
  rintro u v rfl ne ground
  cases v with
  | nil => exact absurd rfl ne
  | cons c v =>
    rw [Bool.eq_false_iff]
    intro found
    simp only [List.cons_append, List.isPrefixOf, Bool.and_eq_true, beq_iff_eq] at found
    obtain ⟨rfl, found⟩ := found
    cases v with
    | nil =>
      -- The token would straddle the end of `a`.
      rw [lastOf_append] at seam
      cases t with
      | nil => simp at found
      | cons x xs =>
        simp only [List.nil_append, List.isPrefixOf, Bool.and_true, beq_iff_eq] at found
        subst found
        rcases seam with seam | seam <;> exact seam rfl
    | cons x v =>
      simp only [List.cons_append, List.isPrefixOf, Bool.and_true, beq_iff_eq] at found
      subst found
      apply free
      rw [marksFrom_append, topLevel_append ground]
      apply List.mem_append_right
      have tail : marksFrom (lastOf prev u) ('-' :: '>' :: v) =
          .arrow :: marksFrom (some '>') v := rfl
      have zero : Nest.flat.total = 0 := rfl
      rw [tail, topLevel, if_pos zero]
      · exact List.mem_cons_self
      all_goals simp

theorem misses_append {token : Text} {prev : Option Char} {d e : Nest} {a b t : Text}
    (h : walk d (marksFrom prev a) = some e) (first : Misses token prev d a (b ++ t))
    (later : Misses token (lastOf prev a) e b t) : Misses token prev d (a ++ b) t := by
  -- The place in question lies in `b`, or in `a` with all of `b` behind it.
  intro u v split ne ground
  rcases List.append_eq_append_iff.mp split with ⟨w, rfl, rfl⟩ | ⟨w, rfl, rfl⟩
  · apply later w v rfl ne
    rwa [marksFrom_append, walk_append, h] at ground
  · cases w with
    | nil =>
      rw [List.append_nil] at h later
      rw [h] at ground
      exact later [] b rfl ne ground
    | cons c w =>
      rw [List.append_assoc]
      exact first u (c :: w) rfl (by simp) ground

theorem misses_inside {k : Nest} (hk : k ≠ .flat) {prev : Option Char} {d e : Nest} {a : Text}
    (h : walk d (marksFrom prev a) = some e) (token t : Text) :
    Misses token prev (k.plus d) a t := by
  rintro u v rfl - ground
  rw [marksFrom_append, walk_append] at h
  cases passed : walk d (marksFrom prev u) with
  | none =>
    rw [passed] at h
    cases h
  | some reached =>
    rw [walk_plus k passed] at ground
    have deep := Nest.total_plus_ne_zero hk reached
    rw [Option.some.inj ground] at deep
    exact absurd rfl deep

theorem misses_paren {x : Char} (other : x ∉ ("()" : Text)) {a : Text} (h : Closed (marks a))
    (prev : Option Char) (t : Text) : Misses [x] prev .flat ('(' :: a ++ [')']) t := by
  have inner : Nest.opened .flat .paren ≠ .flat := by
    intro eq
    have := congrFun eq .paren
    simp [Nest.opened, Nest.flat] at this
  have opens : walk .flat (marksFrom prev ['(']) = some (Nest.opened .flat .paren) :=
    walk_opener .flat prev .paren []
  have inside : marksFrom (some '(') a = marks a := marksFrom_eq_marks (.inl (by decide))
  have text : '(' :: a ++ [')'] = ['('] ++ (a ++ [')']) := rfl
  rw [text]
  apply misses_append opens
  · apply misses_of_not_mem
    simp_all
  · apply misses_append (e := Nest.opened .flat .paren)
    · change walk _ (marksFrom (some '(') a) = _
      rw [inside]
      exact h.walk _
    · have closed : walk .flat (marksFrom (some '(') a) = some .flat := by
        rw [inside]
        exact h
      exact misses_inside inner closed [x] _
    · apply misses_of_not_mem
      simp_all

theorem findFrom_append {token : Text} {prev : Option Char} {d e : Nest} {a t : Text}
    (h : walk d (marksFrom prev a) = some e) (misses : Misses token prev d a t) (pos : Nat) :
    findFrom token false prev d.total pos (a ++ t) =
      findFrom token false (lastOf prev a) e.total (pos + a.length) t := by
  induction a generalizing prev d pos with
  | nil =>
    cases Option.some.inj h
    rfl
  | cons c cs ih =>
    have len : pos + (c :: cs).length = pos + 1 + cs.length := by simp; omega
    have here : ¬(d.total = 0 ∧ token.isPrefixOf (c :: (cs ++ t)) = true) := by
      rintro ⟨zero, found⟩
      have := misses [] (c :: cs) rfl (by simp) (congrArg some (Nest.total_eq_zero.mp zero))
      rw [List.cons_append, found] at this
      cases this
    have next : ∀ {d' : Nest}, (∀ u, walk d (marksFrom prev (c :: u)) =
        walk d' (marksFrom (some c) u)) → Misses token (some c) d' cs t := by
      intro d' eq u v split ne ground
      exact misses (c :: u) v (by rw [split, List.cons_append]) ne (by rw [eq, ground])
    rw [List.cons_append, len, lastOf, findFrom]
    simp only [Bool.false_eq_true, if_false, if_neg here]
    cases role prev c with
    | opens b =>
      rw [walk_opener] at h
      rw [if_pos (isOpener_opener b), ← Nest.total_opened]
      exact ih h (next fun u => walk_opener d prev b u) (pos + 1)
    | closes b head =>
      obtain ⟨hd, h⟩ := walk_closer_eq_some head h
      have down : d.total - 1 = (d.closed b).total := by
        have := Nest.total_closed hd
        omega
      simp only [isOpener_closer, isCloser_closer, head, Bool.false_eq_true, if_false,
        Bool.not_false, Bool.and_true, if_true, down]
      exact ih h (next fun u => by rw [walk_closer d head, if_neg hd]) (pos + 1)
    | other c plain =>
      rw [walk_other d plain] at h
      simp only [isBracket, Bool.or_eq_false_iff] at plain
      simp only [plain.1, plain.2, Bool.false_eq_true, if_false]
      exact ih h (next fun u => walk_other d (by simp [isBracket, plain.1, plain.2]) u) (pos + 1)

theorem findTopLevel_zero (token t : Text) :
    findTopLevel token t = findFrom token false none Nest.flat.total 0 t := by
  simp [findTopLevel, Nest.total, Nest.flat]

theorem findTopLevel_char_none {x : Char} {a : Text} (h : Closed (marks a)) (absent : x ∉ a) :
    findTopLevel [x] a = none := by
  have pass := findFrom_append h (misses_of_not_mem absent [] none .flat []) 0
  rw [List.append_nil] at pass
  rw [findTopLevel_zero, pass]
  rfl

theorem findTopLevel_of_misses {x : Char} {a r : Text} (h : Closed (marks a))
    (misses : Misses [x] none .flat a (x :: r))
    (alone : x = '=' → r.head? ≠ some '=' ∧ comparisonLead a.getLast? = false) :
    findTopLevel [x] (a ++ x :: r) = some a.length := by
  have notDouble : ¬(x = '=' ∧ r.head? = some '=') := fun ⟨eq, double⟩ => (alone eq).1 double
  have notComparison : ¬(x = '=' ∧ comparisonLead a.getLast? = true) := by
    rintro ⟨eq, comparison⟩
    rw [(alone eq).2] at comparison
    cases comparison
  rw [findTopLevel_zero, findFrom_append h misses, lastOf_none, findFrom]
  simp [notDouble, notComparison, Nest.total, Nest.flat, List.isPrefixOf]

theorem findTopLevel_char {x : Char} {a r : Text} (h : Closed (marks a)) (absent : x ∉ a)
    (alone : x = '=' → r.head? ≠ some '=' ∧ comparisonLead a.getLast? = false) :
    findTopLevel [x] (a ++ x :: r) = some a.length :=
  findTopLevel_of_misses h (misses_of_not_mem absent [] none .flat (x :: r)) alone

theorem findTopLevel_arrow {a : Text} (h : Closed (marks a)) (free : Free .arrow a) (r : Text) :
    findTopLevel ['-', '>'] (a ++ '-' :: '>' :: r) = some a.length := by
  have misses : Misses ['-', '>'] none .flat a ('-' :: '>' :: r) :=
    misses_arrow free (.inr (by simp))
  rw [findTopLevel_zero, findFrom_append h misses]
  simp [findFrom, Nest.total, Nest.flat, List.isPrefixOf]

theorem findTopLevel_arrow_none {a : Text} (h : Closed (marks a)) (free : Free .arrow a) :
    findTopLevel ['-', '>'] a = none := by
  have misses : Misses ['-', '>'] none .flat a [] := misses_arrow free (.inr (by simp))
  have pass := findFrom_append h misses 0
  rw [List.append_nil] at pass
  rw [findTopLevel_zero, pass]
  rfl

theorem not_free_arrow {a : Text} (h : Closed (marks a)) (r : Text) :
    ¬Free .arrow (a ++ '-' :: '>' :: r) := by
  intro free
  rw [Free, marks_append (.inr (by simp)), marks_arrow, h.topLevel_append] at free
  exact free (List.mem_append_right _ List.mem_cons_self)

/-- A text without a top-level arrow is told apart from one that is cut at the first. -/
theorem arrow_split {prev : Option Char} {d e : Nest} {t : Text}
    (h : walk d (marksFrom prev t) = some e)
    (start : d = .flat → prev ≠ some '-' ∨ t.head? ≠ some '>') :
    .arrow ∉ topLevel d (marksFrom prev t) ∨
      ∃ a r, t = a ++ '-' :: '>' :: r ∧ walk d (marksFrom prev a) = some .flat ∧
        .arrow ∉ topLevel d (marksFrom prev a) := by
  induction t generalizing prev d with
  | nil => exact .inl (by simp [marksFrom, topLevel])
  | cons c cs ih =>
    -- A character that adds no arrow leaves the question to the text behind it.
    have pass : ∀ f : Nest,
        (∀ u, walk d (marksFrom prev (c :: u)) = walk f (marksFrom (some c) u)) →
        (∀ u, .arrow ∈ topLevel d (marksFrom prev (c :: u)) →
          .arrow ∈ topLevel f (marksFrom (some c) u)) →
        (f = .flat → some c ≠ some '-' ∨ cs.head? ≠ some '>') →
        .arrow ∉ topLevel d (marksFrom prev (c :: cs)) ∨
          ∃ a r, c :: cs = a ++ '-' :: '>' :: r ∧ walk d (marksFrom prev a) = some .flat ∧
            .arrow ∉ topLevel d (marksFrom prev a) := by
      intro f walked top start'
      rw [walked] at h
      rcases ih h start' with free | ⟨a, r, rfl, ground, free⟩
      · exact .inl (mt (top _) free)
      · exact .inr ⟨c :: a, r, rfl, (walked a).trans ground, mt (top a) free⟩
    cases role prev c with
    | opens b =>
      refine pass (d.opened b) (walk_opener d prev b) (fun u mem => ?_) (fun flat => ?_)
      · rwa [topLevel_opener] at mem
      · have := congrArg Nest.total flat
        rw [Nest.total_opened] at this
        exact absurd this (by simp [Nest.total, Nest.flat])
    | closes b head =>
      obtain ⟨hd, -⟩ := walk_closer_eq_some head h
      refine pass (d.closed b) (fun u => ?_) (fun u mem => ?_) (fun _ => .inl ?_)
      · rw [walk_closer d head, if_neg hd]
      · rwa [topLevel_closer d head] at mem
      · cases b <;> decide
    | other c plain =>
      by_cases here : d = .flat ∧ c = '-' ∧ cs.head? = some '>'
      · obtain ⟨rfl, rfl, next⟩ := here
        cases cs with
        | nil => simp at next
        | cons x xs =>
          simp only [List.head?_cons, Option.some.injEq] at next
          subst next
          exact .inr ⟨[], xs, rfl, rfl, by simp [marksFrom, topLevel]⟩
      · have first : .arrow ∉ (if d.total = 0 then (mark? prev c).toList else []) := by
          split
          · next zero =>
            have notHead : arrowHead prev c = false := by
              rcases start (Nest.total_eq_zero.mp zero) with before | now
              · simp [arrowHead, before]
              · have : c ≠ '>' := by simpa using now
                simp [arrowHead, this]
            rw [mark?_of_not_bracket plain, notHead]
            split
            · contradiction
            · split <;> simp
          · simp
        refine pass d (walk_other d plain) (fun u mem => ?_) (fun ground => ?_)
        · rw [topLevel_other d plain] at mem
          exact (List.mem_append.mp mem).resolve_left first
        · by_cases hyphen : c = '-'
          · exact .inr fun next => here ⟨ground, hyphen, next⟩
          · exact .inl (by simpa using hyphen)

theorem findTopLevel_arrow_cases {t : Text} (h : Closed (marks t)) :
    (findTopLevel ['-', '>'] t = none ∧ Free .arrow t) ∨
      ∃ a r, t = a ++ '-' :: '>' :: r ∧ findTopLevel ['-', '>'] t = some a.length ∧
        Closed (marks a) ∧ Free .arrow a ∧ Closed (marks r) := by
  rcases arrow_split h (fun _ => .inl (by simp)) with free | ⟨a, r, rfl, ground, free⟩
  · exact .inl ⟨findTopLevel_arrow_none h free, free⟩
  · refine .inr ⟨a, r, rfl, findTopLevel_arrow ground free r, ground, free, ?_⟩
    rw [marks_append (.inr (by simp)), marks_arrow] at h
    exact h.of_append_left ground

end ViewCases.Bracket
