import ScriptGate.Proofs.Version.Digits

/-!
# `ScriptGate.Proofs.Version.Successor`: the successor is newer

`isNewer_next_self` says that `next v` comes strictly after `v`, for every
text `v`. A version of fewer than four segments is extended by segments
that end in `1`, where `v` counts as zero. A longer one differs from its
successor in the last segment only, and there in one number, which
`compare_number` orders.

The tokens around that number are the same on both sides, because it is
a maximal run: `runs_append` cuts a segment wherever its class of
characters changes. `compareLex_append_left` drops what both sides begin
with.

`next_cases` gives the same two cases on the texts themselves.
-/

set_option autoImplicit false

namespace ScriptGate.Version

open Text (isDigit natOfDigits)

/-! ### Common beginnings -/

/-- A token is like itself. -/
theorem Token.compare_self (t : Token) : Token.compare t t = .eq := by
  cases t with
  | word a =>
      rw [Token.compare]
      exact Std.ReflCmp.compare_self
  | number a =>
      rw [Token.compare, Nat.compare_eq_eq.mpr rfl, Ordering.eq_then]
      exact Std.ReflCmp.compare_self

instance : Std.ReflCmp Token.compare := ⟨Token.compare_self _⟩

/-- Rows that begin alike compare as what follows. -/
theorem compareLex_append_left {α : Type} (cmp : α → α → Ordering) [Std.ReflCmp cmp]
    (p a b : List α) :
    List.compareLex cmp (p ++ a) (p ++ b) = List.compareLex cmp a b := by
  induction p with
  | nil => rfl
  | cons x p ih =>
      have hx : cmp x x = .eq := Std.ReflCmp.compare_self
      rw [List.cons_append, List.cons_append, List.compareLex_cons_cons, hx, Ordering.eq_then,
        ih]

/-- A segment is like itself. -/
theorem compareSegment_self (s : Text) : compareSegment s s = .eq := by
  rw [compareSegment]
  exact Std.ReflCmp.compare_self

/-- Versions that begin with the same segments compare as what
follows. -/
theorem compareSegments_append_left (p a b : List Text) :
    compareSegments (p ++ a) (p ++ b) = compareSegments a b := by
  induction p with
  | nil => rfl
  | cons s p ih =>
      rw [List.cons_append, List.cons_append, compareSegments, compareSegment_self,
        Ordering.eq_then, ih]

/-! ### Maximal runs -/

/-- A character joins the first run, or it is of another class and begins
a run of its own. -/
theorem runs_cons_cases (c : Char) (t : Text) :
    (∃ r rs, runs t = (isDigit c, r) :: rs ∧ runs (c :: t) = (isDigit c, c :: r) :: rs) ∨
    ((∀ x ∈ (runs t).head?, isDigit c ≠ x.1) ∧ runs (c :: t) = (isDigit c, [c]) :: runs t) := by
  cases hruns : runs t with
  | nil =>
      refine Or.inr ⟨fun x hx => (by cases hx), ?_⟩
      simp only [runs, List.foldr_cons] at hruns ⊢
      rw [hruns]
  | cons x rs =>
      obtain ⟨k, r⟩ := x
      have hcons : runs (c :: t)
          = if k = isDigit c then (k, c :: r) :: rs else (isDigit c, [c]) :: (k, r) :: rs := by
        simp only [runs, List.foldr_cons] at hruns ⊢
        rw [hruns]
      by_cases hk : k = isDigit c
      · exact Or.inl ⟨r, rs, by rw [hk], by rw [hcons, if_pos hk, hk]⟩
      · refine Or.inr ⟨fun x hx => ?_, by rw [hcons, if_neg hk]⟩
        rw [← Option.some.inj hx]
        exact Ne.symm hk

/-- The first run of a text is of the class of its first character. -/
theorem runs_cons (c : Char) (t : Text) :
    ∃ r rs, runs (c :: t) = (isDigit c, c :: r) :: rs := by
  rcases runs_cons_cases c t with ⟨r, rs, -, hcons⟩ | ⟨-, hcons⟩
  · exact ⟨r, rs, hcons⟩
  · exact ⟨[], runs t, hcons⟩

/-- A character joins the first run of its class, or else begins one of
its own. -/
theorem runs_cons_cons (c d : Char) (t : Text) :
    runs (c :: d :: t) =
      if isDigit d = isDigit c then
        (runs (d :: t)).modifyHead fun x => (x.1, c :: x.2)
      else (isDigit c, [c]) :: runs (d :: t) := by
  obtain ⟨r, rs, hd⟩ := runs_cons d t
  rcases runs_cons_cases c (d :: t) with ⟨r', rs', hruns, hcons⟩ | ⟨hne, hcons⟩
  · have hclass : isDigit d = isDigit c := by
      rw [hd] at hruns
      exact congrArg Prod.fst (List.cons.inj hruns).1
    rw [hcons, if_pos hclass, hruns, List.modifyHead_cons]
  · have hclass : isDigit c ≠ isDigit d := hne (isDigit d, d :: r) (by rw [hd]; rfl)
    rw [hcons, if_neg (Ne.symm hclass)]

/-- A text of one class is one run. -/
theorem runs_of_forall {k : Bool} {t : Text} (hne : t ≠ []) (h : ∀ c ∈ t, isDigit c = k) :
    runs t = [(k, t)] := by
  induction t with
  | nil => exact absurd rfl hne
  | cons c t ih =>
      cases t with
      | nil => simp [runs, h c (by simp)]
      | cons d t =>
          rw [runs_cons_cons, ih (by simp) (fun x hx => h x (by simp [hx])),
            h c (by simp), h d (by simp)]
          simp

/-- A text splits into runs wherever the class changes. -/
theorem runs_append {a b : Text}
    (h : ∀ x ∈ a.getLast?, ∀ y ∈ b.head?, isDigit x ≠ isDigit y) :
    runs (a ++ b) = runs a ++ runs b := by
  induction a with
  | nil => rfl
  | cons c a ih =>
      cases a with
      | nil =>
          cases b with
          | nil => simp [runs]
          | cons d b =>
              have hcd : isDigit c ≠ isDigit d := h c (by simp) d (by simp)
              rw [List.singleton_append, runs_cons_cons, if_neg (Ne.symm hcd)]
              rfl
      | cons d a =>
          have ih' := ih (by simpa using h)
          -- Both sides put the character in front of the same first run.
          obtain ⟨r, rs, hr⟩ := runs_cons d a
          rw [List.cons_append, List.cons_append, runs_cons_cons, runs_cons_cons,
            ← List.cons_append, ih', hr]
          split <;> simp

/-! ### The last run of a segment -/

/-- What `lastDigitRun` finds: a segment is the text before its last
digit run, the run, and a text without digits. -/
structure LastRun (segment before run after : Text) : Prop where
  whole : segment = before ++ run ++ after
  digits : ∀ c ∈ run, isDigit c = true
  rest : ∀ c ∈ after, isDigit c = false
  maximal : ∀ c ∈ before.getLast?, isDigit c = false

/-- What is taken while a test holds passes the test. -/
theorem all_takeWhile_mem {p : Char → Bool} {t : Text} {c : Char} (h : c ∈ t.takeWhile p) :
    p c = true :=
  List.all_eq_true.mp List.all_takeWhile c h

/-- The parts that counting up works on are a last run of digits and what is
around it. -/
theorem lastRun_lastDigitRun (s : Text) :
    LastRun s (lastDigitRun s).1 (lastDigitRun s).2.1 (lastDigitRun s).2.2 where
  whole := by
    simp only [lastDigitRun]
    rw [← List.reverse_append, ← List.reverse_append, List.takeWhile_append_dropWhile,
      List.takeWhile_append_dropWhile, List.reverse_reverse]
  digits := fun c hc => all_takeWhile_mem (List.mem_reverse.mp hc)
  rest := fun c hc => by simpa using all_takeWhile_mem (List.mem_reverse.mp hc)
  maximal := by
    intro c hc
    simp only [lastDigitRun, List.getLast?_reverse] at hc
    have hnot := List.head?_dropWhile_not isDigit
      (s.reverse.dropWhile (fun c => !isDigit c))
    rw [Option.mem_def] at hc
    rw [hc] at hnot
    simpa using hnot

/-- A segment without digits gets a `1`, and any other one its last run
counted up. -/
theorem bump_cases (s : Text) :
    ((∀ c ∈ s, isDigit c = false) ∧ bump s = s ++ ['1']) ∨
    ∃ before run after, LastRun s before run after ∧ run ≠ [] ∧
      bump s = before ++ increment run ++ after := by
  have hrun := lastRun_lastDigitRun s
  rcases hd : lastDigitRun s with ⟨before, run, after⟩
  rw [hd] at hrun
  cases run with
  | nil =>
      -- A text that ends in no digit run has no digit at all.
      refine Or.inl ⟨?_, by simp only [bump, hd]⟩
      have hb : before = [] := by
        have hdrop : before = ((s.reverse.dropWhile (fun c => !isDigit c)).dropWhile
            isDigit).reverse := (congrArg Prod.fst hd).symm
        have htake : ((s.reverse.dropWhile (fun c => !isDigit c)).takeWhile isDigit) = [] := by
          have := congrArg (fun x => x.2.1) hd
          simpa [lastDigitRun] using this
        cases hrest : s.reverse.dropWhile (fun c => !isDigit c) with
        | nil => simpa [hrest] using hdrop
        | cons d rest =>
            have hnot := List.head?_dropWhile_not (fun c => !isDigit c) s.reverse
            rw [hrest] at hnot htake
            simp only [List.head?_cons, Bool.not_eq_false'] at hnot
            rw [List.takeWhile_cons_of_pos hnot] at htake
            simp at htake
      intro c hc
      rw [hrun.whole, hb] at hc
      exact hrun.rest c (by simpa using hc)
  | cons d run =>
      exact Or.inr ⟨before, d :: run, after, hrun, by simp, by simp only [bump, hd]⟩

/-- The tokens of a segment around a digit run. -/
theorem tokens_around {before run after : Text} (hne : run ≠ [])
    (hrun : ∀ c ∈ run, isDigit c = true) (hafter : ∀ c ∈ after, isDigit c = false)
    (hbefore : ∀ c ∈ before.getLast?, isDigit c = false) :
    tokens (before ++ run ++ after)
      = tokens before ++ tokenOfRun (true, run) :: tokens after := by
  -- The run is a run of its own, because its neighbours are no digits.
  have hmiddle : runs (run ++ after) = (true, run) :: runs after := by
    rw [runs_append, runs_of_forall hne hrun]
    · rfl
    · intro x hx y hy
      rw [hrun x (List.mem_of_getLast? hx), hafter y (List.mem_of_head? hy)]
      simp
  rw [List.append_assoc, tokens, runs_append, hmiddle]
  · simp [tokens]
  · intro x hx y hy
    rw [hbefore x hx]
    cases run with
    | nil => exact absurd rfl hne
    | cons d run =>
        rw [List.cons_append, List.head?_cons, Option.mem_some] at hy
        rw [← hy, hrun d (by simp)]
        simp

/-- Counting up leaves at least one digit. -/
theorem increment_ne_nil (d : Text) : increment d ≠ [] := by
  have hr : incrementReversed d.reverse ≠ [] := by
    cases d.reverse with
    | nil => simp [incrementReversed]
    | cons c r =>
        by_cases hc : c = '9'
        · rw [hc, incrementReversed_nine]
          simp
        · rw [incrementReversed_of_ne hc]
          simp
  simpa [increment] using hr

/-- A segment with a number counted up comes after the old one, whatever
follows the number. -/
theorem compareSegment_increment {before run after after' : Text} (hne : run ≠ [])
    (hrun : ∀ c ∈ run, isDigit c = true) (hafter : ∀ c ∈ after, isDigit c = false)
    (hafter' : ∀ c ∈ after', isDigit c = false) (hbefore : ∀ c ∈ before.getLast?, isDigit c = false) :
    compareSegment (before ++ increment run ++ after) (before ++ run ++ after') = .gt := by
  rw [compareSegment, tokens_around (increment_ne_nil run) (isDigit_increment hrun) hafter hbefore,
    tokens_around hne hrun hafter' hbefore, compareLex_append_left, List.compareLex_cons_cons,
    compare_number (isDigit_increment hrun) hrun, natOfDigits_increment hrun,
    Nat.compare_eq_gt.mpr (Nat.lt_succ_self _), Ordering.gt_then]

/-- A bumped segment comes after the old one. -/
theorem compareSegment_bump (s : Text) : compareSegment (bump s) s = .gt := by
  rcases bump_cases s with ⟨hs, hb⟩ | ⟨before, run, after, hrun, hne, hb⟩
  · have hone : tokens (s ++ ['1']) = tokens s ++ [tokenOfRun (true, ['1'])] := by
      rw [tokens, runs_append, List.map_append]
      · rfl
      · intro x hx y hy
        rw [List.head?_cons, Option.mem_some] at hy
        rw [hs x (List.mem_of_getLast? hx), ← hy]
        decide
    -- Without digits the new run is all that is longer.
    rw [hb, compareSegment, hone]
    calc List.compareLex Token.compare (tokens s ++ [tokenOfRun (true, ['1'])]) (tokens s)
        = List.compareLex Token.compare (tokens s ++ [tokenOfRun (true, ['1'])])
            (tokens s ++ []) := by rw [List.append_nil]
      _ = List.compareLex Token.compare [tokenOfRun (true, ['1'])] [] :=
          compareLex_append_left _ _ _ _
      _ = .gt := rfl
  · rw [hb, hrun.whole]
    exact compareSegment_increment hne hrun.digits hrun.rest hrun.rest hrun.maximal

/-! ### The segments of the successor -/

/-- Segments hold no dot. -/
theorem dot_not_mem_segments {v s : Text} (hs : s ∈ segments v) : '.' ∉ s := by
  induction v generalizing s with
  | nil =>
      rw [segments, List.splitOn_nil, List.mem_singleton] at hs
      simp [hs]
  | cons c v ih =>
      rw [segments, List.splitOn_cons_eq_if_modifyHead] at hs
      split at hs
      · rcases List.mem_cons.mp hs with rfl | hs
        · simp
        · exact ih hs
      · rename_i hc
        have hne : c ≠ '.' := by simpa using hc
        obtain ⟨t, ts, ht⟩ := List.exists_cons_of_ne_nil (List.splitOn_ne_nil '.' v)
        rw [ht, List.modifyHead_cons] at hs
        rcases List.mem_cons.mp hs with rfl | hs
        · have htv : '.' ∉ t := ih (by rw [segments, ht]; simp)
          simp [htv, Ne.symm hne]
        · exact ih (by rw [segments, ht]; simp [hs])

/-- The segments of a text made of segments. -/
theorem segments_intercalate {ss : List Text} (hdot : ∀ s ∈ ss, '.' ∉ s) (hne : ss ≠ []) :
    segments (List.intercalate ['.'] ss) = ss :=
  List.splitOn_intercalate '.' hdot hne

/-- The segments with dots between them are the version. -/
theorem intercalate_segments (v : Text) : List.intercalate ['.'] (segments v) = v :=
  List.intercalate_splitOn '.'

/-- Every version has a segment, if only an empty one. -/
theorem segments_ne_nil (v : Text) : segments v ≠ [] := List.splitOn_ne_nil '.' v

/-- Bumping brings in digits and nothing else. -/
theorem isDigit_or_mem_bump {s : Text} {c : Char} (hc : c ∈ bump s) :
    isDigit c = true ∨ c ∈ s := by
  rcases bump_cases s with ⟨-, hb⟩ | ⟨before, run, after, hrun, -, hb⟩
  · rw [hb, List.mem_append, List.mem_singleton] at hc
    rcases hc with hc | rfl
    · exact Or.inr hc
    · exact Or.inl (by decide)
  · rw [hb, List.mem_append, List.mem_append] at hc
    rcases hc with (hc | hc) | hc
    · exact Or.inr (by simp [hrun.whole, hc])
    · exact Or.inl (isDigit_increment hrun.digits c hc)
    · exact Or.inr (by simp [hrun.whole, hc])

/-- The segments of the successor: those of the version with a build
segment of their own or, from four segments on, with the last one
counted up. -/
theorem segments_next (v : Text) :
    ((segments v).length < 4 ∧ ∃ k,
      segments (next v) = segments v ++ (List.replicate k zeroSegment ++ [['1']])) ∨
    (4 ≤ (segments v).length ∧ ∃ ss s,
      segments v = ss ++ [s] ∧ segments (next v) = ss ++ [bump s]) := by
  have hdots : ∀ s ∈ segments v, '.' ∉ s := fun s => dot_not_mem_segments
  by_cases hlen : (segments v).length < 4
  · -- The segments are few, so a build segment comes after them.
    refine Or.inl ⟨hlen, 3 - (segments v).length, ?_⟩
    rw [next]
    simp only [hlen, if_true]
    rw [segments_intercalate, List.append_assoc]
    · intro s hs
      simp only [List.mem_append, List.mem_replicate, List.mem_singleton] at hs
      rcases hs with (hs | ⟨-, rfl⟩) | rfl
      · exact hdots s hs
      · decide
      · decide
    · simp
  · have hlast := List.dropLast_concat_getLast (segments_ne_nil v)
    have hsome := List.getLast?_eq_some_getLast (segments_ne_nil v)
    refine Or.inr ⟨by omega, (segments v).dropLast, (segments v).getLast (segments_ne_nil v),
      hlast.symm, ?_⟩
    rw [next]
    simp only [hlen, if_false, hsome, Option.map_some, Option.toList_some]
    apply segments_intercalate
    · intro s hs
      rcases List.mem_append.mp hs with hs | hs
      · exact hdots s (List.dropLast_subset _ hs)
      · rw [List.mem_singleton.mp hs]
        -- A dot is no digit, and the segment has none.
        intro hdot
        rcases isDigit_or_mem_bump hdot with h | h
        · exact absurd h (by decide)
        · exact hdots _ (List.getLast_mem _) h
    · simp

/-- A build number of one is more than nothing, however many zeros come
before it. -/
theorem compareSegments_build (k : Nat) :
    compareSegments (List.replicate k zeroSegment ++ [['1']]) [] = .gt := by
  induction k with
  | zero =>
      rw [List.replicate_zero, List.nil_append, compareSegments, compareSegments, compareNil]
      rfl
  | succ k ih =>
      rw [List.replicate_succ, List.cons_append, compareSegments, compareSegment_self,
        Ordering.eq_then, ih]

/-- The successor of a version is newer than the version, for every
text. -/
theorem isNewer_next_self (v : Text) : isNewer (next v) v = true := by
  have key : compareSegments (segments (next v)) (segments v) = .gt := by
    rcases segments_next v with ⟨-, k, hk⟩ | ⟨-, ss, s, hv, hn⟩
    · calc compareSegments (segments (next v)) (segments v)
          = compareSegments (segments v ++ (List.replicate k zeroSegment ++ [['1']]))
              (segments v ++ []) := by rw [hk, List.append_nil]
        _ = compareSegments (List.replicate k zeroSegment ++ [['1']]) [] :=
            compareSegments_append_left _ _ _
        _ = .gt := compareSegments_build k
    · rw [hv, hn, compareSegments_append_left, compareSegments, compareSegment_bump,
        Ordering.gt_then]
  rw [isNewer, compare, key]
  rfl

/-! ### The text of the successor -/

/-- Segments may be put together in two parts, with a dot between them. -/
theorem intercalate_append {ss ts : List Text} (hs : ss ≠ []) (ht : ts ≠ []) :
    List.intercalate ['.'] (ss ++ ts)
      = List.intercalate ['.'] ss ++ '.' :: List.intercalate ['.'] ts := by
  induction ss with
  | nil => exact absurd rfl hs
  | cons s ss ih =>
      cases ss with
      | nil =>
          rw [List.singleton_append, List.intercalate_cons_of_ne_nil ht,
            List.intercalate_singleton]
          simp
      | cons s' ss =>
          have hss : s' :: ss ≠ [] := by simp
          rw [List.cons_append, List.intercalate_cons_of_ne_nil (by simp), ih hss,
            List.intercalate_cons_of_ne_nil hss]
          simp only [List.append_assoc]

/-- The successor extends the version, or changes nothing but what
follows the last dot. -/
theorem next_cases (v : Text) :
    (∃ k, next v
      = v ++ '.' :: List.intercalate ['.'] (List.replicate k zeroSegment ++ [['1']])) ∨
    ∃ u s, v = u ++ '.' :: s ∧ next v = u ++ '.' :: bump s := by
  rcases segments_next v with ⟨-, k, hk⟩ | ⟨hlen, ss, s, hv, hn⟩
  · refine Or.inl ⟨k, ?_⟩
    rw [← intercalate_segments (next v), hk, intercalate_append (segments_ne_nil v) (by simp),
      intercalate_segments]
  · have hss : ss ≠ [] := by
      rintro rfl
      rw [hv] at hlen
      simp at hlen
    refine Or.inr ⟨List.intercalate ['.'] ss, s, ?_, ?_⟩
    · rw [← intercalate_segments v, hv, intercalate_append hss (by simp),
        List.intercalate_singleton]
    · rw [← intercalate_segments (next v), hn, intercalate_append hss (by simp),
        List.intercalate_singleton]

/-- A build number is written with digits and dots. -/
theorem mem_build {k : Nat} {c : Char}
    (hc : c ∈ List.intercalate ['.'] (List.replicate k zeroSegment ++ [['1']])) :
    isDigit c = true ∨ c = '.' := by
  induction k with
  | zero =>
      rw [List.replicate_zero, List.nil_append, List.intercalate_singleton,
        List.mem_singleton] at hc
      rw [hc]
      exact Or.inl (by decide)
  | succ k ih =>
      rw [List.replicate_succ, List.cons_append, List.intercalate_cons_of_ne_nil (by simp),
        List.mem_append, List.mem_append] at hc
      rcases hc with (hc | hc) | hc
      · rw [List.mem_singleton.mp hc]
        exact Or.inl (by decide)
      · exact Or.inr (List.mem_singleton.mp hc)
      · exact ih hc

/-- The successor brings no other characters than digits and dots. -/
theorem mem_next {v : Text} {c : Char} (hc : c ∈ next v) :
    isDigit c = true ∨ c = '.' ∨ c ∈ v := by
  rcases next_cases v with ⟨k, hk⟩ | ⟨u, s, hv, hn⟩
  · rw [hk, List.mem_append, List.mem_cons] at hc
    rcases hc with hc | rfl | hc
    · exact Or.inr (Or.inr hc)
    · exact Or.inr (Or.inl rfl)
    · exact (mem_build hc).imp_right Or.inl
  · rw [hn, List.mem_append, List.mem_cons] at hc
    rcases hc with hc | rfl | hc
    · exact Or.inr (Or.inr (by rw [hv]; exact List.mem_append_left _ hc))
    · exact Or.inr (Or.inl rfl)
    · rcases isDigit_or_mem_bump hc with hdigit | hmem
      · exact Or.inl hdigit
      · refine Or.inr (Or.inr ?_)
        rw [hv]
        exact List.mem_append_right _ (List.mem_cons_of_mem _ hmem)

/-- The last segment of a version is its end. -/
theorem exists_intercalate_concat (ss : List Text) :
    ∃ p, ∀ s, List.intercalate ['.'] (ss ++ [s]) = p ++ s := by
  by_cases hss : ss = []
  · refine ⟨[], fun s => ?_⟩
    rw [hss, List.nil_append, List.intercalate_singleton, List.nil_append]
  · refine ⟨List.intercalate ['.'] ss ++ ['.'], fun s => ?_⟩
    rw [intercalate_append hss (by simp), List.intercalate_singleton, List.append_assoc,
      List.singleton_append]

/-- A bumped segment is not empty. -/
theorem bump_ne_nil (s : Text) : bump s ≠ [] := by
  rcases bump_cases s with ⟨-, hb⟩ | ⟨before, run, after, -, -, hb⟩
  · simp [hb]
  · simp [hb, increment_ne_nil]

/-- A last character that is no digit. -/
theorem ne_of_concat_eq_append {t u d : Text} {c : Char} (hc : isDigit c = false) (hne : d ≠ [])
    (hd : ∀ x ∈ d, isDigit x = true) : t ++ [c] ≠ u ++ d := by
  intro heq
  have hlast := congrArg List.getLast? heq
  rw [List.getLast?_concat, List.getLast?_append, List.getLast?_eq_some_getLast hne,
    Option.some_or, Option.some.injEq] at hlast
  rw [hlast, hd _ (List.getLast_mem hne)] at hc
  cases hc

/-- The first build number is a digit. -/
theorem isDigit_of_mem_one : ∀ c ∈ ['1'], isDigit c = true := by
  intro c hc
  rw [List.mem_singleton.mp hc]
  decide

/-- A bumped segment that loses a last character comes after the old one
still, if this is no digit: it stood behind the number. -/
theorem compareSegment_of_bump_eq_concat {s t : Text} {c : Char} (hc : isDigit c = false)
    (h : bump s = t ++ [c]) : compareSegment t s = .gt := by
  rcases bump_cases s with ⟨-, hb⟩ | ⟨before, run, after, hrun, hne, hb⟩
  · exact absurd (h.symm.trans hb)
      (ne_of_concat_eq_append hc (List.cons_ne_nil '1' []) isDigit_of_mem_one)
  · rcases List.eq_nil_or_concat after with rfl | ⟨after', a, rfl⟩
    · rw [List.append_nil] at hb
      exact absurd (h.symm.trans hb)
        (ne_of_concat_eq_append hc (increment_ne_nil run) (isDigit_increment hrun.digits))
    · rw [List.concat_eq_append] at hb hrun
      have ht : t = before ++ increment run ++ after' := by
        rw [hb, ← List.append_assoc] at h
        exact (List.append_inj' h rfl).1.symm
      rw [ht, hrun.whole]
      exact compareSegment_increment hne hrun.digits
        (fun x hx => hrun.rest x (List.mem_append_left _ hx)) hrun.rest hrun.maximal

/-- A successor that loses such a character is newer still. -/
theorem isNewer_of_next_eq_concat {v w : Text} {c : Char} (hc : isDigit c = false)
    (h : next v = w ++ [c]) : isNewer w v = true := by
  rcases segments_next v with ⟨-, k, hk⟩ | ⟨-, ss, s, hv, hn⟩
  · -- A version that was extended ends in a digit.
    obtain ⟨p, hp⟩ := exists_intercalate_concat (segments v ++ List.replicate k zeroSegment)
    refine absurd (h.symm.trans ?_)
      (ne_of_concat_eq_append (u := p) hc (List.cons_ne_nil '1' []) isDigit_of_mem_one)
    rw [← intercalate_segments (next v), hk, ← List.append_assoc, hp]
  · obtain ⟨p, hp⟩ := exists_intercalate_concat ss
    obtain ⟨t, b, hb⟩ := (List.eq_nil_or_concat (bump s)).resolve_left (bump_ne_nil s)
    rw [List.concat_eq_append] at hb
    have hlast : p ++ t ++ [b] = w ++ [c] := by
      rw [← h, ← intercalate_segments (next v), hn, hp, hb, List.append_assoc]
    obtain ⟨hw, hbc⟩ := List.append_inj' hlast rfl
    rw [hbc] at hb
    -- The segment has no dot, so it is the last one of what is left.
    have hdots : ∀ x ∈ ss ++ [s], '.' ∉ x := fun x hx => dot_not_mem_segments (hv ▸ hx)
    have hsegments : segments w = ss ++ [t] := by
      rw [← hw, ← hp]
      refine segments_intercalate (fun x hx => ?_) (by simp)
      rcases List.mem_append.mp hx with hx | hx
      · exact hdots x (List.mem_append_left _ hx)
      · rw [List.mem_singleton.mp hx]
        intro hdot
        rcases isDigit_or_mem_bump (hb ▸ List.mem_append_left _ hdot) with hdigit | hmem
        · exact absurd hdigit (by decide)
        · exact hdots s (List.mem_append_right _ (List.mem_singleton_self s)) hmem
    rw [isNewer, compare, hsegments, hv, compareSegments_append_left, compareSegments,
      compareSegment_of_bump_eq_concat hc hb, Ordering.gt_then]
    rfl

end ScriptGate.Version
