import Mathlib.Data.List.TakeDrop
import ScriptGate.Pattern.Parser

/-!
# `ScriptGate.Proofs.Pattern.Continued`: reading a text that goes on

A pattern text is put into a group before it is read, so it goes on with
`closing`, a parenthesis and a dollar sign. What readers of the notation make
of a text alone they make of the longer text too: they read the same, and what
they leave goes on in the same way. A reader with this property prolongs
itself (`Prolongs`); one that counts steps prolongs itself with fewer of them.

There is one exception that every reader has to carry along. Under the flag
`x` a comment reaches to the end of its line, so a comment at the end of the
text takes `closing` in, and nothing is left of either text. `Extends` allows
for that.

This module has the texts themselves, blanks and comments, and escapes.
-/

set_option autoImplicit false

namespace ScriptGate.Pattern

/-! ### Texts that go on -/

/-- The end of the group that a text is put into. -/
def closing : Text := [')', '$']

/-- The text goes on with the end of the group, unless a comment has taken it
in. -/
def Extends (t t' : Text) : Prop := t' = t ++ closing ∨ t' = t

/-- What the first reader reads of a text, the second reads of the text that
goes on. -/
def Prolongs {α : Type} (R R' : Text → Option (α × Text)) : Prop :=
  ∀ ⦃t t' x r⦄, Extends t t' → R t = some (x, r) → ∃ r', Extends r r' ∧ R' t' = some (x, r')

/-- The same for readers that return two things besides what they leave. -/
def Prolongs₂ {α β : Type} (R R' : Text → Option (α × β × Text)) : Prop :=
  ∀ ⦃t t' x y r⦄, Extends t t' → R t = some (x, y, r) →
    ∃ r', Extends r r' ∧ R' t' = some (x, y, r')

/-- The same was read, and what is left goes on. -/
def Same {α : Type} (a b : α × Text) : Prop := b.1 = a.1 ∧ Extends a.2 b.2

namespace Extends

variable {t t' : Text}

/-- A text that a comment has taken the end into stays as it is. -/
theorem refl (t : Text) : Extends t t := Or.inr rfl

/-- A character in front changes nothing about what follows. -/
theorem cons (c : Char) (h : Extends t t') : Extends (c :: t) (c :: t') := by
  rcases h with rfl | rfl
  · exact Or.inl rfl
  · exact Or.inr rfl

/-- A text that goes on begins with the same character. -/
theorem of_cons {c : Char} (h : Extends (c :: t) t') : ∃ u, Extends t u ∧ t' = c :: u := by
  rcases h with rfl | rfl
  · exact ⟨t ++ closing, Or.inl rfl, rfl⟩
  · exact ⟨t, Or.inr rfl, rfl⟩

/-- It begins with the same two characters, if there are two. -/
theorem of_cons_cons {c d : Char} (h : Extends (c :: d :: t) t') :
    ∃ u, Extends t u ∧ t' = c :: d :: u := by
  obtain ⟨u, hu, rfl⟩ := h.of_cons
  obtain ⟨v, hv, rfl⟩ := hu.of_cons
  exact ⟨v, hv, rfl⟩

/-- A text that goes on has no new beginning except the parenthesis. -/
theorem ne_append (h : Extends t t') (p : Text) (hp : ')' ∉ p) (ht : ∀ u, t = p ++ u → False)
    (u : Text) : t' = p ++ u → False := by
  intro heq
  rcases h with rfl | rfl
  · rcases List.append_eq_append_iff.mp heq with ⟨a, rfl, ha⟩ | ⟨a, rfl, -⟩
    · -- The prefix would have to reach into the end, which begins with the parenthesis.
      cases a with
      | nil => exact ht [] (by simp)
      | cons b a =>
          rw [← (List.cons.inj ha).1] at hp
          exact hp (by simp)
    · exact ht a rfl
  · exact ht u heq

/-- Only the empty text goes on as the empty text. -/
theorem eq_nil (h : Extends t []) : t = [] := by
  rcases h with h | h
  · exact (List.append_eq_nil_iff.mp h.symm).1
  · exact h.symm

/-- A text that goes on is no shorter. -/
theorem length_le (h : Extends t t') : t.length ≤ t'.length := by
  rcases h with rfl | rfl
  · rw [List.length_append]
    exact Nat.le_add_right _ _
  · exact Nat.le_refl _

/-- The end stays as it is, or it is dropped as a whole. -/
theorem dropWhile {p : Char → Bool} (hp : p ')' = true → p '$' = true) (h : Extends t t') :
    Extends (t.dropWhile p) (t'.dropWhile p) := by
  rcases h with rfl | rfl
  · induction t with
    | nil =>
        cases hclose : p ')' with
        | false => exact Or.inl (by simp [closing, hclose])
        | true => exact Or.inr (by simp [closing, hclose, hp hclose])
    | cons c t ih =>
        cases hc : p c with
        | false => exact Or.inl (by simp [hc])
        | true => simpa [hc] using ih
  · exact Extends.refl _

/-- Where the parenthesis stops the search, the same is taken. -/
theorem takeWhile {p : Char → Bool} (hp : p ')' = false) (h : Extends t t') :
    t'.takeWhile p = t.takeWhile p := by
  rcases h with rfl | rfl
  · induction t with
    | nil => simp [closing, hp]
    | cons c t ih => simp [List.takeWhile_cons, ih]
  · rfl

/-- What is searched for was found, so the rest goes on. -/
theorem span {p : Char → Bool} (h : Extends t t') {name rest : Text} {c : Char}
    (hs : t.span p = (name, c :: rest)) :
    ∃ rest', Extends rest rest' ∧ t'.span p = (name, c :: rest') := by
  rcases h with rfl | rfl
  · refine ⟨rest ++ closing, Or.inl rfl, ?_⟩
    rw [List.span_eq_takeWhile_dropWhile, Prod.mk.injEq] at hs ⊢
    induction t generalizing name with
    | nil => simp at hs
    | cons a t ih =>
        cases ha : p a with
        | false => simp_all
        | true =>
            simp only [List.takeWhile_cons, ha, if_true, List.dropWhile_cons] at hs
            obtain ⟨rfl, hrest⟩ := hs
            have h := ih ⟨rfl, hrest⟩
            simpa [ha] using h
  · exact ⟨rest, Extends.refl rest, hs⟩

end Extends

/-- What is made of the result does not matter. -/
theorem Prolongs.map {α β : Type} {R R' : Text → Option (α × Text)} (h : Prolongs R R')
    (g : α → β) :
    Prolongs (fun t => (R t).map fun p => (g p.1, p.2))
      (fun t => (R' t).map fun p => (g p.1, p.2)) := by
  intro t t' x r ht hread
  obtain ⟨⟨y, _⟩, hy, heq⟩ := Option.map_eq_some_iff.mp hread
  cases heq
  obtain ⟨r', hr', hy'⟩ := h ht hy
  exact ⟨r', hr', by simp [hy']⟩

/-- A character that may stand at the beginning. -/
theorem same_of_head {α : Type} (F : Text → α × Text) (G : Text → Text) {c : Char}
    {a : α} (b : α) (hc : ')' ∉ [c]) (hhead : ∀ t, F (c :: t) = (a, G t))
    (hother : ∀ t, (∀ u, t = c :: u → False) → F t = (b, t))
    (hG : ∀ {t t'}, Extends t t' → Extends (G t) (G t')) {t t' : Text} (h : Extends t t') :
    Same (F t) (F t') := by
  by_cases hex : ∃ u, t = c :: u
  · obtain ⟨u, rfl⟩ := hex
    obtain ⟨u', hu, rfl⟩ := h.of_cons
    rw [hhead, hhead]
    exact ⟨rfl, hG hu⟩
  · have hne : ∀ u, t = c :: u → False := fun u heq => hex ⟨u, heq⟩
    rw [hother t hne, hother t' (h.ne_append [c] hc hne)]
    exact ⟨rfl, h⟩

/-! ### Blanks and comments -/

/-- There is nothing to skip in the end of the group. -/
theorem skipExtended_go_of_nil {n : Nat} {t : Text} (h : Extends [] t) (hn : t.length ≤ n) :
    skipExtended.go n t = t := by
  cases n with
  | zero => rw [skipExtended.go]
  | succ n =>
      rcases h with rfl | rfl
      · rfl
      · rfl

/-- Skipping blanks and comments in both texts leaves texts of which one goes
on as the other. -/
theorem extends_skipExtended_go {n n' : Nat} {t t' : Text} (h : Extends t t') (hn : t.length ≤ n)
    (hn' : t'.length ≤ n') : Extends (skipExtended.go n t) (skipExtended.go n' t') := by
  -- Either text has the fuel that it needs, so the induction may follow the first.
  induction n generalizing n' t t' with
  | zero =>
      obtain rfl := List.length_eq_zero_iff.mp (Nat.le_zero.mp hn)
      rw [skipExtended.go, skipExtended_go_of_nil h hn']
      exact h
  | succ n ih =>
      cases t with
      | nil =>
          rw [skipExtended.go, skipExtended_go_of_nil h hn']
          · exact h
          · exact Nat.succ_ne_zero n
      | cons c t =>
          obtain ⟨u, hu, rfl⟩ := h.of_cons
          cases n' with
          | zero => simp at hn'
          | succ n' =>
              rw [List.length_cons, Nat.succ_le_succ_iff] at hn hn'
              rw [skipExtended.go, skipExtended.go]
              split
              · exact ih hu hn hn'
              · split
                · -- The end has no line feed, so a comment leaves it alone or takes all of it.
                  refine ih (hu.dropWhile (by decide)) ?_ ?_
                  · exact Nat.le_trans (List.dropWhile_sublist _).length_le hn
                  · exact Nat.le_trans (List.dropWhile_sublist _).length_le hn'
                · exact h

/-- Under any flags, what blanks and comments leave goes on. -/
theorem extends_skipExtended {f : Flags} {t t' : Text} (h : Extends t t') :
    Extends (skipExtended f t) (skipExtended f t') := by
  unfold skipExtended
  split
  · exact extends_skipExtended_go h (Nat.le_refl _) (Nat.le_refl _)
  · exact h

/-- Under any flags, the end of the group begins with no blank. -/
theorem skipExtended_of_nil {f : Flags} {t : Text} (h : Extends [] t) : skipExtended f t = t := by
  unfold skipExtended
  split
  · exact skipExtended_go_of_nil h (Nat.le_refl _)
  · rfl

/-- Skipping makes no text longer. -/
theorem length_skipExtended_le (f : Flags) (t : Text) : (skipExtended f t).length ≤ t.length := by
  have hgo : ∀ n (t : Text), (skipExtended.go n t).length ≤ t.length := by
    intro n t
    fun_induction skipExtended.go n t with
    | case1 t => exact Nat.le_refl _
    | case2 n hn => exact Nat.le_refl _
    | case3 fuel c rest hblank ih => exact Nat.le_trans ih (Nat.le_succ _)
    | case4 fuel c rest hblank hcomment ih =>
        have hdrop := (List.dropWhile_sublist (l := rest) (· != '\n')).length_le
        exact Nat.le_trans ih (Nat.le_trans hdrop (Nat.le_succ _))
    | case5 fuel c rest hblank hcomment => exact Nat.le_refl _
  unfold skipExtended
  split
  · exact hgo _ t
  · exact Nat.le_refl _

/-! ### Escapes -/

/-- Hexadecimal digits are read the same in a text that goes on. -/
theorem prolongs_readHexDigits {f : Flags} {n value : Nat} :
    Prolongs (readHexDigits f value n) (readHexDigits f value n) := by
  intro t t' x r h hread
  induction n generalizing value t t' with
  | zero =>
      rw [readHexDigits, Option.some.injEq, Prod.mk.injEq] at hread
      obtain ⟨rfl, rfl⟩ := hread
      exact ⟨t', h, rfl⟩
  | succ n ih =>
      have hskip := extends_skipExtended (f := f) h
      rw [readHexDigits] at hread ⊢
      split at hread
      · rename_i c rest hs
        obtain ⟨d, hd, hread⟩ := Option.bind_eq_some_iff.mp hread
        obtain ⟨u, hu, heq⟩ := (hs ▸ hskip).of_cons
        obtain ⟨r', hr', hread'⟩ := ih hu hread
        exact ⟨r', hr', by simp [heq, hd, hread']⟩
      · cases hread

/-- The code point of an escape is the same in a text that goes on. -/
theorem prolongs_readHex {f : Flags} {n : Nat} : Prolongs (readHex f n) (readHex f n) := by
  intro t t' x r h hread
  have hskip := extends_skipExtended (f := f) h
  unfold readHex at hread
  split at hread
  · -- In braces. The brace that closes them was found, and the digits are the same.
    rename_i rest hs
    obtain ⟨u, hu, heq⟩ := (hs ▸ hskip).of_cons
    rcases hspan : rest.span (· != '}') with ⟨name, _ | ⟨d, rest'⟩⟩
    · simp only [hspan] at hread
      cases hread
    · obtain ⟨u', hu', hspan'⟩ := hu.span hspan
      unfold readHex
      simp only [hspan, heq, hspan'] at hread ⊢
      generalize (if f.extended = true then name.filter fun c => !Text.isBlank c else name) = digits
        at hread ⊢
      split at hread
      · rename_i heq'
        cases heq'
        split at hread
        · cases hread
        · rename_i hdigits
          obtain ⟨a, ha, hread⟩ := Option.bind_eq_some_iff.mp hread
          obtain ⟨c, hc, hread⟩ := Option.bind_eq_some_iff.mp hread
          obtain ⟨b, hb, rfl⟩ := Option.map_eq_some_iff.mp ha
          cases hread
          exact ⟨u', hu', by simp [hdigits, hb, hc]⟩
      · cases hread
  · -- Without braces, which the longer text does not add.
    rename_i hne
    obtain ⟨⟨v, rest⟩, hv, hread⟩ := Option.bind_eq_some_iff.mp hread
    obtain ⟨c, hc, hread⟩ := Option.bind_eq_some_iff.mp hread
    cases hread
    obtain ⟨r', hr', hread'⟩ := prolongs_readHexDigits hskip hv
    refine ⟨r', hr', ?_⟩
    unfold readHex
    split
    · rename_i u heq
      exact absurd heq (hskip.ne_append ['{'] (by decide) hne u)
    · simp [hread', hc]

/-- A property is the same in a text that goes on. -/
theorem prolongs_readProperty {f : Flags} {negated : Bool} :
    Prolongs (readProperty f negated) (readProperty f negated) := by
  intro t t' x r h hread
  have hskip := extends_skipExtended (f := f) h
  unfold readProperty at hread
  rcases hs : skipExtended f t with _ | ⟨c, rest⟩
  · simp [hs] at hread
  obtain ⟨u, hu, heq⟩ := (hs ▸ hskip).of_cons
  by_cases hbrace : c = '{'
  · subst hbrace
    rcases hspan : rest.span (· != '}') with ⟨name, _ | ⟨d, rest'⟩⟩
    · simp only [hs, hspan] at hread
      cases hread
    · obtain ⟨u', hu', hspan'⟩ := hu.span hspan
      simp only [hs, hspan] at hread
      split at hread
      · rename_i heq'
        cases heq'
        obtain ⟨⟨_, _⟩, ha, hread⟩ := Option.bind_eq_some_iff.mp hread
        cases ha
        obtain ⟨s, hs, hread⟩ := Option.bind_eq_some_iff.mp hread
        cases hread
        exact ⟨u', hu', by simp only [readProperty, heq, hspan']; simp [hs]⟩
      · cases hread
  · by_cases hslash : c = '\\'
    · subst hslash
      simp [hs] at hread
    · simp only [hs] at hread
      obtain ⟨⟨_, _⟩, ha, hread⟩ := Option.bind_eq_some_iff.mp hread
      cases ha
      obtain ⟨s, hs, hread⟩ := Option.bind_eq_some_iff.mp hread
      cases hread
      exact ⟨u, hu, by simp only [readProperty, heq]; simp [hs]⟩

/-- A boundary of words is the same in a text that goes on, with or without a
name. -/
theorem prolongs_readBoundary {f : Flags} : Prolongs (readBoundary f) (readBoundary f) := by
  intro t t' x r h hread
  unfold readBoundary at hread
  split at hread
  · -- Braces are open, and a name may stand in them.
    rename_i rest
    obtain ⟨u, hu, rfl⟩ := h.of_cons
    have hskip := extends_skipExtended (f := f) hu
    split at hread
    · cases hread
    · rename_i c rest' hs
      obtain ⟨u', hu', heq⟩ := (hs ▸ hskip).of_cons
      split at hread
      · rename_i hname
        rcases hspan : (skipExtended f rest).span (fun c => c.isAlpha || c == '-')
          with ⟨name, _ | ⟨d, rest'⟩⟩
        · simp only [hspan] at hread
          cases hread
        · obtain ⟨v, hv, hspan'⟩ := hskip.span hspan
          simp only [hspan] at hread
          split at hread
          · rename_i heq'
            cases heq'
            obtain ⟨a, ha, hread⟩ := Option.map_eq_some_iff.mp hread
            cases hread
            refine ⟨v, hv, ?_⟩
            simp only [readBoundary]
            rw [hspan', heq]
            simp [hname, ha]
          · cases hread
      · -- No name can stand in these braces, so they are left.
        rename_i hname
        cases hread
        refine ⟨'{' :: u, hu.cons '{', ?_⟩
        simp [readBoundary, heq, hname]
  · -- There are no braces, and the longer text does not add any.
    rename_i hne
    cases hread
    refine ⟨t', h, ?_⟩
    unfold readBoundary
    split
    · rename_i u
      exact absurd rfl (h.ne_append ['{'] (by decide) hne u)
    · rfl

/-- An escape is the same in a text that goes on. -/
theorem prolongs_readEscape {f : Flags} : Prolongs (readEscape f) (readEscape f) := by
  intro t t' x r h hread
  cases t with
  | nil => cases hread
  | cons c t =>
      obtain ⟨u, hu, rfl⟩ := h.of_cons
      simp only [readEscape] at hread
      split at hread
      case h_1 | h_2 | h_3 => exact prolongs_readHex hu hread
      case h_4 | h_5 => exact prolongs_readProperty hu hread
      case h_14 => exact prolongs_readBoundary hu hread
      case h_18 =>
        -- No letter of those before: a short class, or a character that stands for itself.
        refine ⟨u, ?_⟩
        simp only [readEscape]
        split at hread
        · cases hread
          exact ⟨hu, rfl⟩
        · split at hread
          · rename_i hplain
            cases hread
            exact ⟨hu, if_pos hplain⟩
          · cases hread
      all_goals
        cases hread
        exact ⟨u, hu, rfl⟩

end ScriptGate.Pattern
