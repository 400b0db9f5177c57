import ScriptGate.Proofs.Pattern.Continued

/-!
# `ScriptGate.Proofs.Pattern.Classes`: reading classes in a text that goes on

A class in brackets is closed by a bracket, so it ends before the text goes on
(`prolongs_readClass`). Whether a bracket inside it begins a named class is the
only question that readers answer by trying and turning back. It has the same
answer in both texts (`alike_readAsciiClass`).

The readers branch on the first one or two characters. `Extends.ne_append`
carries the branches not taken over to the longer text, where `simp` uses them.
-/

set_option autoImplicit false

namespace ScriptGate.Pattern

/-! ### Named classes -/

/-- Both texts are read alike, or neither is read. -/
def Alike {α : Type} : Option (α × Text) → Option (α × Text) → Prop := Option.Rel Same

/-- What is not read alone is not read in the longer text. -/
theorem Alike.eq_none {α : Type} {a b : Option (α × Text)} (h : Alike a b) (ha : a = none) :
    b = none := by
  subst ha
  cases h with
  | none => rfl

/-- What is read alone is read in the longer text. -/
theorem Alike.eq_some {α : Type} {a b : Option (α × Text)} (h : Alike a b) {x : α} {r : Text}
    (ha : a = some (x, r)) : ∃ r', Extends r r' ∧ b = some (x, r') := by
  subst ha
  cases h with
  | some h =>
      obtain ⟨rfl, hr⟩ := h
      exact ⟨_, hr, rfl⟩

/-- Whether a named class is complemented, and where its name begins. -/
def asciiSign : Text → Bool × Text
  | '^' :: rest => (true, rest)
  | rest => (false, rest)

/-- Reads the name of an ASCII class. -/
def readAsciiName (f : Flags) (negated : Bool) (t : Text) : Option (CharSet × Text) :=
  match (t.span (· != ':')).2 with
  | ':' :: ']' :: rest =>
    (asciiClass? (String.ofList (t.span (· != ':')).1)).map fun s =>
      let s := if f.caseless then .folded s else s
      (if negated then .complement s else s, rest)
  | _ => none

/-- A named class has a sign and a name behind its colon. -/
theorem readAsciiClass_cons (f : Flags) (t : Text) :
    readAsciiClass f (':' :: t) = readAsciiName f (asciiSign t).1 (asciiSign t).2 := rfl

/-- The sign of a named class does not depend on what follows the class. -/
theorem same_asciiSign {t t' : Text} (h : Extends t t') : Same (asciiSign t) (asciiSign t') :=
  same_of_head asciiSign id false (show ')' ∉ ['^'] by decide) (fun _ => rfl)
    (fun t ht => by simp only [asciiSign]) id h

/-- The rest of a class name has no end in the extended text either. -/
theorem Extends.span_nil {p : Char → Bool} {t t' name : Text} (h : Extends t t')
    (hs : t.span p = (name, [])) (hp : p ')' = true) (hp' : p '$' = true) :
    (t'.span p).2 = [] := by
  rw [List.span_eq_takeWhile_dropWhile, Prod.mk.injEq] at hs
  rw [List.span_eq_takeWhile_dropWhile]
  rcases h with rfl | rfl
  · simp only [List.dropWhile_append, hs.2, closing]
    simp [hp, hp']
  · exact hs.2

/-- The name of a named class is read alike, or it is missing in both texts. -/
theorem alike_readAsciiName {f : Flags} {negated : Bool} {t t' : Text} (h : Extends t t') :
    Alike (readAsciiName f negated t) (readAsciiName f negated t') := by
  rcases hspan : t.span (· != ':') with ⟨name, _ | ⟨c, rest⟩⟩
  · have hnil := h.span_nil hspan (by decide) (by decide)
    simp only [readAsciiName, hspan, hnil]
    exact Option.Rel.none
  · obtain ⟨u, hu, hspan'⟩ := h.span hspan
    simp only [readAsciiName, hspan, hspan']
    split
    · rename_i heq
      cases heq
      obtain ⟨v, hv, rfl⟩ := hu.of_cons
      simp only
      cases asciiClass? (String.ofList name) with
      | none => exact Option.Rel.none
      | some s => exact Option.Rel.some ⟨rfl, hv⟩
    · rename_i hne
      have hne' : ∀ v, c :: u = ':' :: ']' :: v → False :=
        (hu.cons c).ne_append [':', ']'] (by decide) hne
      simp only
      exact Option.Rel.none

/-- A named class is read in both texts or in none of them. -/
theorem alike_readAsciiClass {f : Flags} {t t' : Text} (h : Extends t t') :
    Alike (readAsciiClass f t) (readAsciiClass f t') := by
  by_cases hcolon : ∃ rest, t = ':' :: rest
  · obtain ⟨rest, rfl⟩ := hcolon
    obtain ⟨u, hu, rfl⟩ := h.of_cons
    obtain ⟨hsign, hrest⟩ := same_asciiSign hu
    rw [readAsciiClass_cons, readAsciiClass_cons, hsign]
    exact alike_readAsciiName hrest
  · have hne : ∀ u, t = ':' :: u → False := fun u heq => hcolon ⟨u, heq⟩
    have hne' : ∀ u, t' = ':' :: u → False := h.ne_append [':'] (by decide) hne
    simp only [readAsciiClass]
    exact Option.Rel.none

/-! ### Atoms and ranges -/

/-- An atom of a class is the same in a text that goes on. -/
theorem prolongs_readClassAtom {f : Flags} : Prolongs (readClassAtom f) (readClassAtom f) := by
  intro t t' x r h hread
  cases t with
  | nil => cases hread
  | cons c t =>
      obtain ⟨u, hu, rfl⟩ := h.of_cons
      simp only [readClassAtom] at hread
      split at hread
      · cases hread
      · rename_i heq
        cases heq
        exact prolongs_readEscape hu hread
      · rename_i hne heq
        cases heq
        cases hread
        refine ⟨u, hu, ?_⟩
        simp only [readClassAtom]

/-- The set of one atom. -/
def singleItem (rest : Text) : Escape → Option (CharSet × Text)
  | .literal c => some (.single c, rest)
  | .set s => some (s, rest)
  | .assertion _ => none

/-- The set of a range between two atoms. -/
def rangeItem (rest : Text) : Escape → Escape → Option (CharSet × Text)
  | .literal low, .literal high => if low ≤ high then some (.range low high, rest) else none
  | _, _ => none

/-- The set of one atom is the same in a text that goes on. -/
theorem prolongs_singleItem {first : Escape} :
    Prolongs (fun t => singleItem t first) (fun t => singleItem t first) := by
  intro t t' x r h hread
  cases first with
  | literal c =>
      cases hread
      exact ⟨t', h, rfl⟩
  | set s =>
      cases hread
      exact ⟨t', h, rfl⟩
  | assertion a => cases hread

/-- The set of a range is the same in a text that goes on. -/
theorem prolongs_rangeItem {first last : Escape} :
    Prolongs (fun t => rangeItem t first last) (fun t => rangeItem t first last) := by
  intro t t' x r h hread
  simp only [rangeItem] at hread ⊢
  split at hread
  · split at hread
    · rename_i hle
      cases hread
      exact ⟨t', h, if_pos hle⟩
    · cases hread
  · cases hread

/-- An item is an atom, or two atoms with a hyphen between them. -/
theorem readClassRange_eq (f : Flags) (t : Text) :
    readClassRange f t = (readClassAtom f t).bind fun first =>
      match skipExtended f first.2 with
      | [] => none
      | '-' :: after =>
        match skipExtended f after with
        | ']' :: _ => singleItem first.2 first.1
        | '-' :: _ => singleItem first.2 first.1
        | t => (readClassAtom f t).bind fun last => rangeItem last.2 first.1 last.1
      | _ => singleItem first.2 first.1 := by
  unfold readClassRange
  refine Option.bind_congr fun first _ => ?_
  rfl

/-- An item of a class is the same in a text that goes on. -/
theorem prolongs_readClassRange {f : Flags} : Prolongs (readClassRange f) (readClassRange f) := by
  intro t t' x r h hread
  rw [readClassRange_eq] at hread
  obtain ⟨⟨first, rest⟩, hfirst, hread⟩ := Option.bind_eq_some_iff.mp hread
  obtain ⟨rest', hrest, hfirst'⟩ := prolongs_readClassAtom h hfirst
  have hskip := extends_skipExtended (f := f) hrest
  rw [readClassRange_eq, hfirst', Option.bind_some]
  simp only at hread ⊢
  split at hread
  · cases hread
  · rename_i after hs
    obtain ⟨u, hu, heq⟩ := (hs ▸ hskip).of_cons
    have hafter := extends_skipExtended (f := f) hu
    simp only [heq]
    split at hread
    · -- The class ends after the hyphen, so there is no range.
      rename_i hs'
      obtain ⟨v, hv, heq'⟩ := (hs' ▸ hafter).of_cons
      rw [heq']
      exact prolongs_singleItem hrest hread
    · rename_i hs'
      obtain ⟨v, hv, heq'⟩ := (hs' ▸ hafter).of_cons
      rw [heq']
      exact prolongs_singleItem hrest hread
    · -- The hyphen makes a range.
      rename_i hbracket hhyphen
      obtain ⟨⟨last, left⟩, hlast, hread⟩ := Option.bind_eq_some_iff.mp hread
      obtain ⟨v, hv, hlast'⟩ := prolongs_readClassAtom hafter hlast
      have hbracket' : ∀ w, skipExtended f u = ']' :: w → False :=
        hafter.ne_append [']'] (by decide) hbracket
      have hhyphen' : ∀ w, skipExtended f u = '-' :: w → False :=
        hafter.ne_append ['-'] (by decide) hhyphen
      simp only [hlast', Option.bind_some]
      exact prolongs_rangeItem hv hread
  · -- No hyphen follows, here or in the longer text.
    rename_i hne hhyphen
    have hhyphen' : ∀ w, skipExtended f rest' = '-' :: w → False :=
      hskip.ne_append ['-'] (by decide) hhyphen
    have hne' : skipExtended f rest' = [] → False := fun heq => hne (heq ▸ hskip).eq_nil
    simp only
    exact prolongs_singleItem hrest hread

/-! ### Classes -/

/-- Whether a class is the complement of what its brackets hold, and where they
begin. -/
def classSign (f : Flags) : Text → Bool × Text
  | '^' :: rest => (true, skipExtended f rest)
  | t => (false, t)

/-- A closing bracket that comes first stands for itself. -/
def classStart (items : List SetPart) (t : Text) : List SetPart × Text :=
  match items, t with
  | [], ']' :: rest => ([⟨.single ']', 0⟩], rest)
  | items, t => (items, t)

/-- A class has a sign, leading hyphens and perhaps a leading bracket before
its items. -/
theorem readClass_succ (f : Flags) (n : Nat) (t : Text) :
    readClass f (n + 1) t =
      let sign := classSign f (skipExtended f t)
      let hyphens := readLeadingHyphens f [] sign.2.length sign.2
      let start := classStart hyphens.1 hyphens.2
      match readClassItems f none start.1 n start.2 with
      | none => none
      | some (p, rest) =>
        let s := if f.caseless then CharSet.folded p.set else p.set
        if sign.1 && f.ascii then none
        else some (⟨if sign.1 then .complement s else s, 1 + p.depth⟩, rest) := by
  rfl

/-- The sign of a class does not depend on what follows the class. -/
theorem same_classSign (f : Flags) {t t' : Text} (h : Extends t t') :
    Same (classSign f t) (classSign f t') :=
  same_of_head (classSign f) (skipExtended f) false (show ')' ∉ ['^'] by decide) (fun _ => rfl)
    (fun t ht => by simp only [classSign]) extends_skipExtended h

/-- Where no closing bracket comes first, there is nothing to take for an
item. -/
theorem classStart_of_ne (items : List SetPart) {t : Text} (ht : ∀ u, t = ']' :: u → False) :
    classStart items t = (items, t) := by
  unfold classStart
  split
  · exact (ht _ rfl).elim
  · rfl

/-- What stands at the start of a class does not depend on what follows it. -/
theorem same_classStart (items : List SetPart) {t t' : Text} (h : Extends t t') :
    Same (classStart items t) (classStart items t') := by
  cases items with
  | nil =>
      exact same_of_head (classStart []) id [] (show ')' ∉ [']'] by decide) (fun _ => rfl)
        (fun t ht => classStart_of_ne [] ht) id h
  | cons item items => exact ⟨rfl, h⟩

/-- The end of the group has no hyphen in it. -/
theorem readLeadingHyphens_of_nil {f : Flags} {items : List SetPart} {n : Nat} {t : Text}
    (h : Extends [] t) : readLeadingHyphens f items n t = (items, t) := by
  cases n with
  | zero => rw [readLeadingHyphens]
  | succ n =>
      rw [readLeadingHyphens, skipExtended_of_nil h]
      rcases h with rfl | rfl
      · rfl
      · rfl

/-- The leading hyphens are the same in a text that goes on. -/
theorem same_readLeadingHyphens (f : Flags) (items : List SetPart) {n n' : Nat} {t t' : Text}
    (h : Extends t t') (hn : t.length ≤ n) (hn' : t'.length ≤ n') :
    Same (readLeadingHyphens f items n t) (readLeadingHyphens f items n' t') := by
  induction n generalizing items n' t t' with
  | zero =>
      obtain rfl := List.length_eq_zero_iff.mp (Nat.le_zero.mp hn)
      rw [readLeadingHyphens_of_nil h, readLeadingHyphens_of_nil (Extends.refl [])]
      exact ⟨rfl, h⟩
  | succ n ih =>
      cases n' with
      | zero =>
          obtain rfl := List.length_eq_zero_iff.mp (Nat.le_zero.mp hn')
          obtain rfl := h.eq_nil
          rw [readLeadingHyphens_of_nil h, readLeadingHyphens_of_nil h]
          exact ⟨rfl, h⟩
      | succ n' =>
          have hskip := extends_skipExtended (f := f) h
          have hlength := length_skipExtended_le f t
          have hlength' := length_skipExtended_le f t'
          rcases hs : readLeadingHyphens f items (n + 1) t with ⟨items', rest⟩
          rw [readLeadingHyphens] at hs ⊢
          split at hs
          · -- A hyphen follows here and in the longer text, and fuel is left for what comes next.
            rename_i rest' hhyphen
            obtain ⟨u, hu, heq⟩ := (hhyphen ▸ hskip).of_cons
            rw [hhyphen, List.length_cons] at hlength
            rw [heq, List.length_cons] at hlength'
            have hnext := ih (⟨.single '-', 0⟩ :: items) hu (show rest'.length ≤ n by omega)
              (show u.length ≤ n' by omega)
            rw [hs] at hnext
            rw [heq]
            exact hnext
          · rename_i hhyphen
            have hhyphen' : ∀ u, skipExtended f t' = '-' :: u → False :=
              hskip.ne_append ['-'] (by decide) hhyphen
            cases hs
            simp only
            exact ⟨rfl, hskip⟩

/-- A class is read as far as its items are. -/
theorem prolongs_readClass_succ {f : Flags} {n n' : Nat}
    (hitems : ∀ left items,
      Prolongs (readClassItems f left items n) (readClassItems f left items n')) :
    Prolongs (readClass f (n + 1)) (readClass f (n' + 1)) := by
  intro t t' x r h hread
  obtain ⟨hsign, hrest⟩ := same_classSign f (extends_skipExtended (f := f) h)
  obtain ⟨hhyphens, hrest⟩ :=
    same_readLeadingHyphens f [] hrest (Nat.le_refl _) (Nat.le_refl _)
  obtain ⟨hstart, hrest⟩ := same_classStart
    (readLeadingHyphens f [] (classSign f (skipExtended f t)).2.length
      (classSign f (skipExtended f t)).2).1 hrest
  rw [readClass_succ] at hread ⊢
  simp only [hsign, hhyphens, hstart] at hread ⊢
  split at hread
  · cases hread
  · rename_i p rest hread'
    obtain ⟨r', hr', hextended⟩ := hitems _ _ hrest hread'
    simp only [hextended]
    split at hread
    · cases hread
    · rename_i hnegated
      cases hread
      exact ⟨r', hr', if_neg hnegated⟩

/-- One more item, an operator or the closing bracket. -/
theorem prolongs_readClassItems_succ {f : Flags} {n n' : Nat}
    (hclass : Prolongs (readClass f n) (readClass f n'))
    (hitems : ∀ left items,
      Prolongs (readClassItems f left items n) (readClassItems f left items n'))
    (left : Option (SetPart × SetOperator)) (items : List SetPart) :
    Prolongs (readClassItems f left items (n + 1)) (readClassItems f left items (n' + 1)) := by
  intro t t' x r h hread
  have hskip := extends_skipExtended (f := f) h
  unfold readClassItems at hread ⊢
  simp only at hread ⊢
  split at hread
  · cases hread
  · -- The closing bracket.
    rename_i hs
    obtain ⟨u, hu, heq⟩ := (hs ▸ hskip).of_cons
    cases hread
    rw [heq]
    exact ⟨u, hu, rfl⟩
  -- The three operators.
  · rename_i hs
    obtain ⟨u, hu, heq⟩ := (hs ▸ hskip).of_cons_cons
    rw [heq]
    exact hitems _ _ hu hread
  · rename_i hs
    obtain ⟨u, hu, heq⟩ := (hs ▸ hskip).of_cons_cons
    rw [heq]
    exact hitems _ _ hu hread
  · rename_i hs
    obtain ⟨u, hu, heq⟩ := (hs ▸ hskip).of_cons_cons
    rw [heq]
    exact hitems _ _ hu hread
  · -- A class inside, which has a name or brackets.
    rename_i rest hs
    obtain ⟨u, hu, heq⟩ := (hs ▸ hskip).of_cons
    have halike := alike_readAsciiClass (f := f) hu
    rw [heq]
    simp only
    split at hread
    · rename_i hnamed
      obtain ⟨v, hv, hnamed'⟩ := halike.eq_some hnamed
      simp only [hnamed']
      exact hitems _ _ hv hread
    · rename_i hnamed
      simp only [halike.eq_none hnamed]
      split at hread
      · cases hread
      · rename_i hnested
        obtain ⟨v, hv, hnested'⟩ := hclass hu hnested
        simp only [hnested']
        exact hitems _ _ hv hread
  · -- A range or an atom. None of the branches before is taken in the longer text either.
    rename_i hnil hbracket hand hminus htilde hopen
    split at hread
    · cases hread
    · rename_i hrange
      obtain ⟨v, hv, hrange'⟩ := prolongs_readClassRange hskip hrange
      have hnil' : skipExtended f t' = [] → False := fun h => hnil (h ▸ hskip).eq_nil
      have hbracket' : ∀ w, skipExtended f t' = ']' :: w → False :=
        hskip.ne_append [']'] (by decide) hbracket
      have hand' : ∀ w, skipExtended f t' = '&' :: '&' :: w → False :=
        hskip.ne_append ['&', '&'] (by decide) hand
      have hminus' : ∀ w, skipExtended f t' = '-' :: '-' :: w → False :=
        hskip.ne_append ['-', '-'] (by decide) hminus
      have htilde' : ∀ w, skipExtended f t' = '~' :: '~' :: w → False :=
        hskip.ne_append ['~', '~'] (by decide) htilde
      have hopen' : ∀ w, skipExtended f t' = '[' :: w → False :=
        hskip.ne_append ['['] (by decide) hopen
      simp only [hrange']
      exact hitems _ _ hv hread

/-- Classes and their items contain each other, so both follow by one
induction on the steps. -/
theorem prolongs_readClass_and_items {f : Flags} {n n' : Nat} (hn : n ≤ n') :
    Prolongs (readClass f n) (readClass f n') ∧ ∀ left items,
      Prolongs (readClassItems f left items n) (readClassItems f left items n') := by
  induction n generalizing n' with
  | zero =>
      constructor
      · intro t t' x r _ hread
        simp [readClass] at hread
      · intro left items t t' x r _ hread
        simp [readClassItems] at hread
  | succ n ih =>
      obtain ⟨m, rfl⟩ := Nat.exists_eq_add_of_lt hn
      obtain ⟨hclass, hitems⟩ := ih (Nat.le_add_right n m)
      exact ⟨prolongs_readClass_succ hitems, prolongs_readClassItems_succ hclass hitems⟩

/-- A class in brackets is the same class in a text that goes on. -/
theorem prolongs_readClass {f : Flags} {n n' : Nat} (hn : n ≤ n') :
    Prolongs (readClass f n) (readClass f n') := (prolongs_readClass_and_items hn).1

end ScriptGate.Pattern
