import ScriptGate.Proofs.Pattern.Classes

/-!
# `ScriptGate.Proofs.Pattern.Groups`: reading patterns in a text that goes on

Repetitions, groups and alternatives of a text that goes on are read like
those of the text alone (`prolongs_readAlternatives`), one induction on the
fuel for the two readers that call each other. Fuel may only grow: the longer
text has more of it.

A text that is a pattern by itself is thus the same pattern between other
signs. One that is not may still become part of a pattern there, by closing the
group that it is put into.
-/

set_option autoImplicit false

namespace ScriptGate.Pattern

/-! ### Repetitions -/

/-- A number of repetitions is the same in a text that goes on. -/
theorem prolongs_readCount : Prolongs readCount readCount := by
  intro t t' x r h hread
  have htrim : Extends (Text.trimStart t) (Text.trimStart t') := h.dropWhile (by decide)
  unfold readCount at hread ⊢
  simp only [List.span_eq_takeWhile_dropWhile] at hread ⊢
  split at hread
  · cases hread
  · rename_i hdigits
    cases hread
    have htake : (Text.trimStart t').takeWhile Text.isDigit
        = (Text.trimStart t).takeWhile Text.isDigit := htrim.takeWhile (by decide)
    rw [htake, if_neg hdigits]
    refine ⟨_, ?_, rfl⟩
    have hdrop := htrim.dropWhile (p := Text.isDigit) (by decide)
    exact hdrop.dropWhile (by decide)

/-- The bounds of a repetition are the same in a text that goes on. -/
theorem prolongs_readBounds {f : Flags} : Prolongs (readBounds f) (readBounds f) := by
  intro t t' x r h hread
  have hskip := extends_skipExtended (f := f) h
  obtain ⟨⟨least, rest⟩, hleast, hread⟩ := Option.bind_eq_some_iff.mp hread
  obtain ⟨u, hu, hleast'⟩ := prolongs_readCount hskip hleast
  unfold readBounds
  simp only [hleast', Option.bind_eq_bind, Option.bind_some] at hread ⊢
  split at hread
  · -- The brace closes after the first count.
    obtain ⟨v, hv, rfl⟩ := hu.of_cons
    cases hread
    exact ⟨v, hv, rfl⟩
  · rename_i rest'
    obtain ⟨v, hv, rfl⟩ := hu.of_cons
    have hskip' := extends_skipExtended (f := f) hv
    simp only
    split at hread
    · rename_i hs
      obtain ⟨w, hw, heq⟩ := (hs ▸ hskip').of_cons
      cases hread
      rw [heq]
      exact ⟨w, hw, rfl⟩
    · rename_i hne
      -- The second count was read, so the longer text does not close the brace before it.
      have hne' : ∀ w, skipExtended f v = '}' :: w → False :=
        hskip'.ne_append ['}'] (by decide) hne
      obtain ⟨⟨most, rest⟩, hmost, hread⟩ := Option.bind_eq_some_iff.mp hread
      obtain ⟨w, hw, hmost'⟩ := prolongs_readCount hskip' hmost
      simp only [hmost', Option.bind_some] at hread ⊢
      split at hread
      · obtain ⟨z, hz, rfl⟩ := hw.of_cons
        split at hread
        · rename_i hle
          cases hread
          exact ⟨z, hz, if_pos hle⟩
        · cases hread
      · cases hread
  · cases hread

/-- Any operator of repetition is the same in a text that goes on. -/
theorem prolongs_readOperator {f : Flags} : Prolongs (readOperator f) (readOperator f) := by
  intro t t' x r h hread
  unfold readOperator at hread
  split at hread
  · obtain ⟨u, hu, rfl⟩ := h.of_cons
    cases hread
    exact ⟨u, hu, rfl⟩
  · obtain ⟨u, hu, rfl⟩ := h.of_cons
    cases hread
    exact ⟨u, hu, rfl⟩
  · obtain ⟨u, hu, rfl⟩ := h.of_cons
    cases hread
    exact ⟨u, hu, rfl⟩
  · obtain ⟨u, hu, rfl⟩ := h.of_cons
    obtain ⟨⟨b, rest⟩, hb, heq⟩ := Option.map_eq_some_iff.mp hread
    cases heq
    obtain ⟨v, hv, hb'⟩ := prolongs_readBounds hu hb
    exact ⟨_, extends_skipExtended hv, by simp [readOperator, hb']⟩
  · rename_i hstar hplus hquestion hbrace
    cases hread
    have h1 : ∀ w, t' = '*' :: w → False := h.ne_append ['*'] (by decide) hstar
    have h2 : ∀ w, t' = '+' :: w → False := h.ne_append ['+'] (by decide) hplus
    have h3 : ∀ w, t' = '?' :: w → False := h.ne_append ['?'] (by decide) hquestion
    have h4 : ∀ w, t' = '{' :: w → False := h.ne_append ['{'] (by decide) hbrace
    exact ⟨t', h, by simp only [readOperator]⟩

/-- The mark of a reluctant repetition. -/
def readMark : Text → Bool × Text
  | '?' :: rest => (false, rest)
  | rest => (true, rest)

/-- The mark of an operator does not depend on what follows it. -/
theorem same_readMark {t t' : Text} (h : Extends t t') : Same (readMark t) (readMark t') :=
  same_of_head readMark id true (show ')' ∉ ['?'] by decide) (fun _ => rfl)
    (fun t ht => by simp only [readMark]) id h

/-- One operator is read, and then the others behind it. -/
theorem readRepetitions_succ (f : Flags) (p : Part) (n : Nat) (t : Text) :
    readRepetitions f p (n + 1) t =
      match readOperator f (skipExtended f t) with
      | none => none
      | some (none, rest) => some (p, rest)
      | some (some b, rest) =>
        readRepetitions f
          ⟨.rep b.least b.most ((readMark rest).1 != f.swapGreed) p.pattern, p.depth + 1⟩ n
          (readMark rest).2 := rfl

/-- All operators behind a part are the same in a text that goes on. -/
theorem prolongs_readRepetitions {f : Flags} {p : Part} {n n' : Nat} (hn : n ≤ n') :
    Prolongs (readRepetitions f p n) (readRepetitions f p n') := by
  intro t t' x r h hread
  induction n generalizing n' p t t' with
  | zero => cases hread
  | succ n ih =>
      obtain ⟨m, rfl⟩ := Nat.exists_eq_add_of_lt hn
      have hskip := extends_skipExtended (f := f) h
      rw [readRepetitions_succ] at hread ⊢
      split at hread
      · cases hread
      · rename_i hop
        obtain ⟨u, hu, hop'⟩ := prolongs_readOperator hskip hop
        cases hread
        exact ⟨u, hu, by simp only [hop']⟩
      · rename_i hop
        obtain ⟨u, hu, hop'⟩ := prolongs_readOperator hskip hop
        obtain ⟨hmark, hrest⟩ := same_readMark hu
        simp only [hop', hmark]
        exact ih (Nat.le_add_right n m) hrest hread

/-! ### Groups -/

/-- Flags are the same in a text that goes on. -/
theorem prolongs_readFlags {f : Flags} {value : Bool} {used : Text} :
    Prolongs₂ (readFlags f value used) (readFlags f value used) := by
  intro t t' g b r h hread
  induction t generalizing f value used t' with
  | nil => cases hread
  | cons c t ih =>
      obtain ⟨u, hu, rfl⟩ := h.of_cons
      rw [readFlags] at hread ⊢
      split at hread
      · rename_i hstop
        rw [if_pos hstop]
        split at hread
        · cases hread
        · rename_i hminus
          cases hread
          exact ⟨c :: u, h, if_neg hminus⟩
      · rename_i hstop
        rw [if_neg hstop]
        split at hread
        · cases hread
        · rename_i hused
          rw [if_neg hused]
          split at hread
          · rename_i hminus
            rw [if_pos hminus]
            exact ih hu hread
          · rename_i hminus
            rw [if_neg hminus]
            split at hread
            · cases hread
            · rename_i hset
              exact ih hu hread

/-- The name of a group is the same in a text that goes on. -/
theorem prolongs_readName {names : List Text} : Prolongs (readName names) (readName names) := by
  intro t t' x r h hread
  unfold readName at hread ⊢
  rcases hspan : t.span (· != '>') with ⟨name, _ | ⟨c, rest⟩⟩
  · simp only [hspan] at hread
    cases hread
  · obtain ⟨u, hu, hspan'⟩ := h.span hspan
    simp only [hspan] at hread
    simp only [hspan']
    split at hread
    · rename_i heq
      cases heq
      split at hread
      · rename_i hname
        cases hread
        exact ⟨u, hu, if_pos hname⟩
      · cases hread
    · cases hread

/-- What a group begins with is the same in a text that goes on. -/
theorem prolongs_readOpening {s : Scope} : Prolongs (readOpening s) (readOpening s) := by
  intro t t' x r h hread
  have hskip := extends_skipExtended (f := s.flags) h
  have hnamed : Prolongs (fun t => (readName s.names t).map fun p =>
      (Opening.group { s with names := p.1 :: s.names }, p.2)) _ :=
    prolongs_readName.map fun name => Opening.group { s with names := name :: s.names }
  unfold readOpening at hread
  split at hread
  · rename_i rest hs
    obtain ⟨u, hu, heq⟩ := (hs ▸ hskip).of_cons
    split at hread
    -- Look-around is refused.
    · cases hread
    · cases hread
    · cases hread
    · cases hread
    · rename_i hequal hmark
      obtain ⟨v, hv, rfl⟩ := hu.of_cons
      have hequal' : ∀ w, v = '=' :: w → False := hv.ne_append ['='] (by decide) hequal
      have hmark' : ∀ w, v = '!' :: w → False := hv.ne_append ['!'] (by decide) hmark
      simp only [readOpening, heq]
      exact hnamed hv hread
    · obtain ⟨v, hv, rfl⟩ := hu.of_cons_cons
      simp only [readOpening, heq]
      exact hnamed hv hread
    · -- Flags, up to a parenthesis or a colon.
      rename_i hequal hmark _ _ hname hpname
      have hequal' : ∀ w, u = '=' :: w → False := hu.ne_append ['='] (by decide) hequal
      have hmark' : ∀ w, u = '!' :: w → False := hu.ne_append ['!'] (by decide) hmark
      have hname' : ∀ w, u = '<' :: w → False := hu.ne_append ['<'] (by decide) hname
      have hbehind : ∀ w, u = '<' :: '=' :: w → False := fun w => hname' ('=' :: w)
      have hnotBehind : ∀ w, u = '<' :: '!' :: w → False := fun w => hname' ('!' :: w)
      have hpname' : ∀ w, u = 'P' :: '<' :: w → False :=
        hu.ne_append ['P', '<'] (by decide) hpname
      split at hread
      · rename_i hflags
        obtain ⟨v, hv, hflags'⟩ := prolongs_readFlags hu hflags
        obtain ⟨w, hw, rfl⟩ := hv.of_cons
        cases hread
        exact ⟨w, hw, by simp only [readOpening, heq, hflags']⟩
      · rename_i hflags
        obtain ⟨v, hv, hflags'⟩ := prolongs_readFlags hu hflags
        obtain ⟨w, hw, rfl⟩ := hv.of_cons
        cases hread
        exact ⟨w, hw, by simp only [readOpening, heq, hflags']⟩
      · cases hread
  · rename_i hne
    have hne' : ∀ u, skipExtended s.flags t' = '?' :: u → False :=
      hskip.ne_append ['?'] (by decide) hne
    cases hread
    exact ⟨_, hskip, by simp only [readOpening]⟩

/-! ### Sequences and alternatives -/

/-- Reads the repetitions of `p` and the rest of the sequence. -/
def readOn (s : Scope) (done : List Part) (n : Nat) (p : Part) (t : Text) :
    Option (Part × Scope × Text) :=
  match readRepetitions s.flags p (t.length + 1) t with
  | none => none
  | some (p, rest) => readSequence s (p :: done) n rest

/-- Reads a group after its parenthesis, or flags, and the rest of the
sequence. -/
def readGroup (s : Scope) (done : List Part) (n : Nat) (t : Text) :
    Option (Part × Scope × Text) :=
  match readOpening s t with
  | none => none
  | some (.flags f, rest) => readSequence { s with flags := f } (⟨.empty, 0⟩ :: done) n rest
  | some (.group inner, rest) =>
    match readAlternatives inner [] n rest with
    | some (p, inner, ')' :: rest) =>
      readOn { s with names := inner.names } done n { p with depth := p.depth + 1 } rest
    | _ => none

/-- Reads an escape after its backslash and the rest of the sequence. -/
def readEscaped (s : Scope) (done : List Part) (n : Nat) (t : Text) :
    Option (Part × Scope × Text) :=
  match readEscape s.flags t with
  | none => none
  | some (.literal c, rest) => readOn s done n ⟨.char (literalSet s.flags c), 0⟩ rest
  | some (.set e, rest) => readOn s done n ⟨.char e, 0⟩ rest
  | some (.assertion a, rest) => readOn s done n ⟨.assert a, 0⟩ rest

section Step

variable {n n' : Nat}
  (hseq : ∀ s done, Prolongs₂ (readSequence s done n) (readSequence s done n'))
  (halt : ∀ s done, Prolongs₂ (readAlternatives s done n) (readAlternatives s done n'))

include hseq

/-- When a part is read the same, so is the sequence behind it. -/
theorem prolongs_readOn (s : Scope) (done : List Part) (p : Part) :
    Prolongs₂ (readOn s done n p) (readOn s done n' p) := by
  intro t t' x y r h hread
  unfold readOn at hread ⊢
  split at hread
  · cases hread
  · rename_i hrepeated
    have hlength : t.length + 1 ≤ t'.length + 1 := Nat.succ_le_succ h.length_le
    obtain ⟨u, hu, hrepeated'⟩ := prolongs_readRepetitions hlength h hrepeated
    simp only [hrepeated']
    exact hseq _ _ hu hread

/-- A sequence that begins with an escape is the same in a text that goes on. -/
theorem prolongs_readEscaped (s : Scope) (done : List Part) :
    Prolongs₂ (readEscaped s done n) (readEscaped s done n') := by
  intro t t' x y r h hread
  unfold readEscaped at hread ⊢
  cases hescape : readEscape s.flags t with
  | none =>
      rw [hescape] at hread
      cases hread
  | some p =>
      obtain ⟨e, rest⟩ := p
      obtain ⟨u, hu, hescape'⟩ := prolongs_readEscape h hescape
      simp only [hescape, hescape'] at hread ⊢
      cases e with
      | literal c => exact prolongs_readOn hseq s done _ hu hread
      | set e => exact prolongs_readOn hseq s done _ hu hread
      | assertion a => exact prolongs_readOn hseq s done _ hu hread

include halt

/-- A sequence that begins with a group is the same in a text that goes on. -/
theorem prolongs_readGroup (s : Scope) (done : List Part) :
    Prolongs₂ (readGroup s done n) (readGroup s done n') := by
  intro t t' x y r h hread
  unfold readGroup at hread ⊢
  split at hread
  · cases hread
  · rename_i hopening
    obtain ⟨u, hu, hopening'⟩ := prolongs_readOpening h hopening
    simp only [hopening']
    exact hseq _ _ hu hread
  · rename_i hopening
    obtain ⟨u, hu, hopening'⟩ := prolongs_readOpening h hopening
    simp only [hopening']
    split at hread
    · rename_i hinner
      obtain ⟨v, hv, hinner'⟩ := halt _ _ hu hinner
      obtain ⟨w, hw, rfl⟩ := hv.of_cons
      simp only [hinner']
      exact prolongs_readOn hseq _ done _ hw hread
    · cases hread

/-- Alternatives go on behind a bar, which the longer text does not add. -/
theorem prolongs_readAlternatives_succ (s : Scope) (done : List Part) :
    Prolongs₂ (readAlternatives s done (n + 1)) (readAlternatives s done (n' + 1)) := by
  intro t t' x y r h hread
  rw [readAlternatives] at hread ⊢
  split at hread
  · cases hread
  · rename_i hfirst
    obtain ⟨u, hu, hfirst'⟩ := hseq _ _ h hfirst
    obtain ⟨v, hv, rfl⟩ := hu.of_cons
    simp only [hfirst']
    exact halt _ _ hv hread
  · rename_i hbar hfirst
    obtain ⟨u, hu, hfirst'⟩ := hseq _ _ h hfirst
    have hbar' : ∀ v, u = '|' :: v → False := hu.ne_append ['|'] (by decide) hbar
    cases hread
    exact ⟨u, hu, by simp only [hfirst']⟩

/-- A sequence goes on with what its next character begins, or is finished. A
text that ends here goes on with a parenthesis, which finishes it too. -/
theorem prolongs_readSequence_succ (s : Scope) (done : List Part) :
    Prolongs₂ (readSequence s done (n + 1)) (readSequence s done (n' + 1)) := by
  intro t t' x y r h hread
  have hskip := extends_skipExtended (f := s.flags) h
  have hon := prolongs_readOn hseq s done
  unfold readSequence at hread ⊢
  simp only at hread ⊢
  split at hread
  · rename_i hs
    cases hread
    rcases (hs ▸ hskip) with heq | heq
    · exact ⟨closing, Or.inl rfl, by rw [heq]; rfl⟩
    · exact ⟨[], Or.inr rfl, by rw [heq]⟩
  · rename_i c rest hs
    obtain ⟨u, hu, heq⟩ := (hs ▸ hskip).of_cons
    simp only [heq]
    split at hread
    -- A bar and a parenthesis finish the sequence.
    · cases hread
      exact ⟨_, hu.cons '|', rfl⟩
    · cases hread
      exact ⟨_, hu.cons ')', rfl⟩
    · exact prolongs_readGroup hseq halt s done hu hread
    · -- A class in brackets.
      split at hread
      · cases hread
      · rename_i hclass
        have hlength : rest.length + 2 ≤ u.length + 2 := Nat.add_le_add_right hu.length_le 2
        obtain ⟨v, hv, hclass'⟩ := prolongs_readClass hlength hu hclass
        simp only [hclass']
        exact hon _ hv hread
    -- Nothing is there to repeat.
    · cases hread
    · cases hread
    · cases hread
    · cases hread
    · -- The dot.
      split at hread
      · cases hread
      · exact hon _ hu hread
    -- The two anchors.
    · exact hon _ hu hread
    · exact hon _ hu hread
    · exact prolongs_readEscaped hseq s done hu hread
    · exact hon _ hu hread

end Step

/-- Alternatives and sequences contain each other, so both follow by one
induction on the steps. -/
theorem prolongs_readAlternatives_and_sequence {n n' : Nat} (hn : n ≤ n') :
    (∀ s done, Prolongs₂ (readAlternatives s done n) (readAlternatives s done n')) ∧
      ∀ s done, Prolongs₂ (readSequence s done n) (readSequence s done n') := by
  induction n generalizing n' with
  | zero =>
      constructor
      · intro s done t t' x y r _ hread
        simp [readAlternatives] at hread
      · intro s done t t' x y r _ hread
        simp [readSequence] at hread
  | succ n ih =>
      obtain ⟨m, rfl⟩ := Nat.exists_eq_add_of_lt hn
      obtain ⟨halt, hseq⟩ := ih (Nat.le_add_right n m)
      exact ⟨prolongs_readAlternatives_succ hseq halt, prolongs_readSequence_succ hseq halt⟩

/-- **Alternatives in a text that goes on.** They are those of the text
alone. -/
theorem prolongs_readAlternatives {n n' : Nat} (hn : n ≤ n') (s : Scope) (done : List Part) :
    Prolongs₂ (readAlternatives s done n) (readAlternatives s done n') :=
  (prolongs_readAlternatives_and_sequence hn).1 s done

end ScriptGate.Pattern
