import Mathlib.Algebra.Group.Nat.Defs
import ScriptGate.Version.Successor

/-!
# `ScriptGate.Proofs.Version.Digits`: digit runs as numbers

`Token.compare` orders numbers by the length of their digits and then
digit by digit, after the leading zeros are gone. `compare_number` says
that this is the order of the natural numbers that the digits denote,
whatever their length, and `natOfDigits_increment` that `increment`
denotes the next of them.

Both are inductions on the digits. The comparison reads them from the
front, where `natOfDigits_cons` gives the weight of the first one; the
carry of `increment` comes from the back, where
`natOfDigits_append_singleton` gives the last one.
-/

set_option autoImplicit false

namespace ScriptGate.Text

/-- A digit by its number. -/
theorem isDigit_iff (c : Char) : isDigit c = true ↔ 48 ≤ c.toNat ∧ c.toNat ≤ 57 := by
  simp only [isDigit, Bool.and_eq_true, decide_eq_true_eq, Char.le_def, UInt32.le_iff_toNat_le]
  exact Iff.rfl

/-- No digits are read as zero. -/
@[simp] theorem natOfDigits_nil : natOfDigits [] = 0 := rfl

/-- One digit is read as its distance from the character 0. -/
theorem natOfDigits_singleton (c : Char) : natOfDigits [c] = c.toNat - 48 :=
  Nat.zero_add (c.toNat - 48)

/-- The digits of two numbers, one after the other. -/
theorem natOfDigits_append (s t : Text) :
    natOfDigits (s ++ t) = natOfDigits s * 10 ^ t.length + natOfDigits t := by
  show Nat.ofDigitChars 10 (s ++ t) 0
    = Nat.ofDigitChars 10 s 0 * 10 ^ t.length + Nat.ofDigitChars 10 t 0
  rw [Nat.ofDigitChars_append, Nat.ofDigitChars_eq_ofDigitChars_zero, Nat.mul_comm]

/-- The last digit of a number counts once, and all before it ten
times. -/
theorem natOfDigits_append_singleton (t : Text) (c : Char) :
    natOfDigits (t ++ [c]) = 10 * natOfDigits t + (c.toNat - 48) := by
  rw [natOfDigits_append, natOfDigits_singleton, List.length_singleton, Nat.pow_one, Nat.mul_comm]

/-- The first digit of a number counts as often as the length of the
rest says. -/
theorem natOfDigits_cons (c : Char) (t : Text) :
    natOfDigits (c :: t) = (c.toNat - 48) * 10 ^ t.length + natOfDigits t := by
  rw [← List.singleton_append, natOfDigits_append, natOfDigits_singleton]

/-- A number has no more digits than its length allows. -/
theorem natOfDigits_lt {t : Text} (h : ∀ c ∈ t, isDigit c = true) :
    natOfDigits t < 10 ^ t.length := by
  induction t with
  | nil => simp
  | cons c t ih =>
      have hc := (isDigit_iff c).mp (h c (by simp))
      have ht := ih fun d hd => h d (by simp [hd])
      -- The first digit is at most nine.
      have hmul : (c.toNat - 48) * 10 ^ t.length ≤ 9 * 10 ^ t.length :=
        Nat.mul_le_mul_right _ (by omega)
      rw [natOfDigits_cons, List.length_cons, Nat.pow_succ]
      omega

/-- Zeros in front of a number do not count. -/
theorem natOfDigits_dropWhile_zero (t : Text) :
    natOfDigits (t.dropWhile (· == '0')) = natOfDigits t := by
  induction t with
  | nil => rfl
  | cons c t ih =>
      by_cases hc : c = '0'
      · subst hc
        rw [List.dropWhile_cons_of_pos (by simp), ih, natOfDigits_cons]
        simp
      · rw [List.dropWhile_cons_of_neg (by simpa using hc)]

/-- Nines denote the last number of their length. -/
theorem natOfDigits_nines {t : Text} (h : t.all (· == '9') = true) :
    natOfDigits t + 1 = 10 ^ t.length := by
  induction t with
  | nil => rfl
  | cons c t ih =>
      rw [List.all_cons, Bool.and_eq_true, beq_iff_eq] at h
      have ht := ih h.2
      have hc : c.toNat - 48 = 9 := by rw [h.1]; rfl
      rw [natOfDigits_cons, hc, List.length_cons, Nat.pow_succ]
      omega

/-- A number without a leading zero is as large as its length
promises. -/
theorem pow_le_natOfDigits {c : Char} {t : Text} (hc : isDigit c = true) (hz : c ≠ '0') :
    10 ^ t.length ≤ natOfDigits (c :: t) := by
  have hd := (isDigit_iff c).mp hc
  have hne : c.toNat ≠ 48 := fun h => hz (Char.toNat_inj.mp h)
  have hmul : 1 * 10 ^ t.length ≤ (c.toNat - 48) * 10 ^ t.length :=
    Nat.mul_le_mul_right _ (by omega)
  rw [natOfDigits_cons]
  omega

/-! ### Numbers in digits -/

/-- A decimal number has digits only. -/
theorem isDigit_of_mem_decimal {c : Char} {n : Nat} (h : c ∈ decimal n) : isDigit c = true := by
  have hc := Nat.isDigit_of_mem_toDigits (by decide) (by decide) h
  rw [Char.isDigit, Bool.and_eq_true, decide_eq_true_eq, decide_eq_true_eq] at hc
  exact (isDigit_iff c).mpr ⟨UInt32.le_iff_toNat_le.mp hc.1, UInt32.le_iff_toNat_le.mp hc.2⟩

/-- Padding adds digits too. -/
theorem isDigit_of_mem_decimalPadded {c : Char} {width n : Nat} (h : c ∈ decimalPadded width n) :
    isDigit c = true := by
  rcases List.mem_append.mp h with h | h
  · rw [List.eq_of_mem_replicate h]
    decide
  · exact isDigit_of_mem_decimal h

/-- A decimal number reads back as what it was written for. -/
theorem natOfDigits_decimal (n : Nat) : natOfDigits (decimal n) = n :=
  Nat.ofDigitChars_ten_toDigits

/-- Filling a number up does not change it. -/
theorem natOfDigits_decimalPadded (width n : Nat) : natOfDigits (decimalPadded width n) = n := by
  have hzeros : ∀ k : Nat, natOfDigits (List.replicate k '0') = 0 := by
    intro k
    exact Nat.ofDigitChars_replicate_zero
  rw [decimalPadded, natOfDigits_append, hzeros, natOfDigits_decimal, Nat.zero_mul, Nat.zero_add]

/-- A number fits into a width if it is below that power of ten. -/
theorem length_decimal_le_iff {n width : Nat} (hwidth : 0 < width) :
    (decimal n).length ≤ width ↔ n < 10 ^ width :=
  Nat.length_toDigits_le_iff (by decide) hwidth

/-- Numbers are filled up to the width if they fit into it. -/
theorem length_decimalPadded {width n : Nat} (hwidth : 0 < width) (h : n < 10 ^ width) :
    (decimalPadded width n).length = width := by
  have hle := (length_decimal_le_iff hwidth).mpr h
  rw [decimalPadded, List.length_append, List.length_replicate]
  omega

/-- `t` is the number `n` in exactly `width` digits. -/
structure IsNumeral (t : Text) (width n : Nat) : Prop where
  digits : ∀ c ∈ t, isDigit c = true
  length : t.length = width
  value : natOfDigits t = n

/-- A number that fits is padded to exactly the width. -/
theorem isNumeral_decimalPadded {width n : Nat} (hwidth : 0 < width) (h : n < 10 ^ width) :
    IsNumeral (decimalPadded width n) width n where
  digits := fun _ hc => isDigit_of_mem_decimalPadded hc
  length := length_decimalPadded hwidth h
  value := natOfDigits_decimalPadded width n

/-- Numbers written one after the other. -/
theorem IsNumeral.append {s t : Text} {width width' n n' : Nat} (hs : IsNumeral s width n)
    (ht : IsNumeral t width' n') : IsNumeral (s ++ t) (width + width') (n * 10 ^ width' + n') where
  digits := fun c hc => (List.mem_append.mp hc).elim (hs.digits c) (ht.digits c)
  length := by rw [List.length_append, hs.length, ht.length]
  value := by rw [natOfDigits_append, hs.value, ht.value, ht.length]

end ScriptGate.Text

namespace ScriptGate.Version

open Text (isDigit isDigit_iff natOfDigits natOfDigits_cons natOfDigits_lt)

/-- Characters compare by their numbers. -/
theorem compare_char (a b : Char) : Ord.compare a b = Ord.compare a.toNat b.toNat := by
  show compareOfLessAndEq a b = compareOfLessAndEq a.toNat b.toNat
  simp only [compareOfLessAndEq, Char.lt_def, UInt32.lt_iff_toNat_lt, Char.toNat_val,
    ← Char.toNat_inj]

/-- Numbers of one length compare digit by digit. -/
theorem compareLex_digits {a b : Text} (hlen : a.length = b.length)
    (ha : ∀ c ∈ a, isDigit c = true) (hb : ∀ c ∈ b, isDigit c = true) :
    List.compareLex Ord.compare a b = Ord.compare (natOfDigits a) (natOfDigits b) := by
  induction a generalizing b with
  | nil =>
      cases b with
      | nil => rfl
      | cons d b => simp at hlen
  | cons c a ih =>
      cases b with
      | nil => simp at hlen
      | cons d b =>
          have hlen' : a.length = b.length := by simpa using hlen
          have hc := (isDigit_iff c).mp (ha c (by simp))
          have hd := (isDigit_iff d).mp (hb d (by simp))
          have hal := natOfDigits_lt fun x hx => ha x (List.mem_cons_of_mem c hx)
          have hbl := natOfDigits_lt fun x hx => hb x (List.mem_cons_of_mem d hx)
          rw [List.compareLex_cons_cons, compare_char,
            ih hlen' (fun x hx => ha x (by simp [hx])) (fun x hx => hb x (by simp [hx])),
            natOfDigits_cons, natOfDigits_cons, hlen']
          rw [hlen'] at hal
          -- The weight of the first digit outdoes all that follow.
          rcases Nat.lt_trichotomy c.toNat d.toNat with h | h | h
          · have hmul : (c.toNat - 48 + 1) * 10 ^ b.length ≤ (d.toNat - 48) * 10 ^ b.length :=
              Nat.mul_le_mul_right _ (by omega)
            rw [Nat.compare_eq_lt.mpr h, Ordering.lt_then, eq_comm, Nat.compare_eq_lt]
            rw [Nat.add_mul, Nat.one_mul] at hmul
            omega
          · rw [Nat.compare_eq_eq.mpr h, Ordering.eq_then, h]
            rcases Nat.lt_trichotomy (natOfDigits a) (natOfDigits b) with h' | h' | h'
            · rw [Nat.compare_eq_lt.mpr h', eq_comm, Nat.compare_eq_lt]
              omega
            · rw [Nat.compare_eq_eq.mpr h', eq_comm, Nat.compare_eq_eq]
              omega
            · rw [Nat.compare_eq_gt.mpr h', eq_comm, Nat.compare_eq_gt]
              omega
          · have hmul : (d.toNat - 48 + 1) * 10 ^ b.length ≤ (c.toNat - 48) * 10 ^ b.length :=
              Nat.mul_le_mul_right _ (by omega)
            rw [Nat.compare_eq_gt.mpr h, Ordering.gt_then, eq_comm, Nat.compare_eq_gt]
            rw [Nat.add_mul, Nat.one_mul] at hmul
            omega

/-- So they have the same digits if they are the same number. -/
theorem eq_of_natOfDigits_eq {a b : Text} (hlen : a.length = b.length)
    (ha : ∀ c ∈ a, isDigit c = true) (hb : ∀ c ∈ b, isDigit c = true)
    (h : natOfDigits a = natOfDigits b) : a = b := by
  have hcompare := compareLex_digits hlen ha hb
  rw [h, Nat.compare_eq_eq.mpr rfl] at hcompare
  exact Std.LawfulEqCmp.eq_of_compare hcompare

/-- Numbers without leading zeros compare by length first. -/
theorem compare_stripped {a b : Text} (ha : ∀ c ∈ a, isDigit c = true)
    (hb : ∀ c ∈ b, isDigit c = true) (hza : a.head? ≠ some '0') (hzb : b.head? ≠ some '0') :
    (Ord.compare a.length b.length).then (List.compareLex Ord.compare a b)
      = Ord.compare (natOfDigits a) (natOfDigits b) := by
  -- A longer number without leading zeros is the larger one.
  have key : ∀ {a b : Text}, (∀ c ∈ a, isDigit c = true) → (∀ c ∈ b, isDigit c = true) →
      b.head? ≠ some '0' → a.length < b.length → natOfDigits a < natOfDigits b := by
    intro a b ha hb hzb hlt
    cases b with
    | nil => simp at hlt
    | cons d b =>
        calc natOfDigits a < 10 ^ a.length := natOfDigits_lt ha
          _ ≤ 10 ^ b.length := Nat.pow_le_pow_right (by omega) (by simp at hlt; omega)
          _ ≤ natOfDigits (d :: b) :=
              Text.pow_le_natOfDigits (hb d (by simp)) (fun h => hzb (by simp [h]))
  rcases Nat.lt_trichotomy a.length b.length with h | h | h
  · rw [Nat.compare_eq_lt.mpr h, Ordering.lt_then, eq_comm, Nat.compare_eq_lt]
    exact key ha hb hzb h
  · rw [Nat.compare_eq_eq.mpr h, Ordering.eq_then]
    exact compareLex_digits h ha hb
  · rw [Nat.compare_eq_gt.mpr h, Ordering.gt_then, eq_comm, Nat.compare_eq_gt]
    exact key hb ha hza h

/-- After the leading zeros comes something else. -/
theorem head?_dropWhile_zero (t : Text) : (t.dropWhile (· == '0')).head? ≠ some '0' := by
  intro h
  have hnot := List.head?_dropWhile_not (fun c => c == '0') t
  rw [h] at hnot
  simp at hnot

/-- Digit runs compare as the numbers they denote. -/
theorem compare_number {a b : Text} (ha : ∀ c ∈ a, isDigit c = true)
    (hb : ∀ c ∈ b, isDigit c = true) :
    Token.compare (tokenOfRun (true, a)) (tokenOfRun (true, b))
      = Ord.compare (natOfDigits a) (natOfDigits b) := by
  rw [← Text.natOfDigits_dropWhile_zero a, ← Text.natOfDigits_dropWhile_zero b]
  exact compare_stripped (fun c hc => ha c (List.dropWhile_subset _ hc))
    (fun c hc => hb c (List.dropWhile_subset _ hc)) (head?_dropWhile_zero a)
    (head?_dropWhile_zero b)

/-! ### One more -/

/-- A number given backwards, counted up: a nine passes the carry on. -/
theorem incrementReversed_nine (r : Text) :
    incrementReversed ('9' :: r) = '0' :: incrementReversed r := by
  simp [incrementReversed, List.replicate_succ]

/-- Any other digit takes the carry. -/
theorem incrementReversed_of_ne {c : Char} (hc : c ≠ '9') (r : Text) :
    incrementReversed (c :: r) = Char.ofNat (c.toNat + 1) :: r := by
  simp [incrementReversed, hc]

/-- The character after a digit has the next code point. -/
theorem toNat_raised {c : Char} (hc : isDigit c = true) :
    (Char.ofNat (c.toNat + 1)).toNat = c.toNat + 1 := by
  have hd := (isDigit_iff c).mp hc
  have hv : (c.toNat + 1).isValidChar := Or.inl (by omega)
  rw [Char.ofNat, dif_pos hv]
  rfl

/-- What is counted up still has digits only. -/
theorem isDigit_incrementReversed {r : Text} (h : ∀ c ∈ r, isDigit c = true) :
    ∀ c ∈ incrementReversed r, isDigit c = true := by
  induction r with
  | nil => simp [incrementReversed, isDigit]
  | cons d r ih =>
      have hr : ∀ c ∈ r, isDigit c = true := fun c hc => h c (by simp [hc])
      -- A nine becomes a zero and passes the carry on.
      by_cases hd : d = '9'
      · subst hd
        rw [incrementReversed_nine]
        intro c hc
        rcases List.mem_cons.mp hc with rfl | hc
        · decide
        · exact ih hr c hc
      · rw [incrementReversed_of_ne hd]
        intro c hc
        rcases List.mem_cons.mp hc with rfl | hc
        · have hdig := (isDigit_iff d).mp (h d (by simp))
          have hne : d.toNat ≠ 57 := fun heq => hd (Char.toNat_inj.mp heq)
          rw [isDigit_iff, toNat_raised (h d (by simp))]
          omega
        · exact hr c hc

/-- Counting up keeps to digits. -/
theorem isDigit_increment {d : Text} (h : ∀ c ∈ d, isDigit c = true) :
    ∀ c ∈ increment d, isDigit c = true := by
  intro c hc
  exact isDigit_incrementReversed (fun x hx => h x (List.mem_reverse.mp hx)) c
    (List.mem_reverse.mp hc)

/-- Digits that are counted up, last digit first, are read as one more. -/
theorem natOfDigits_incrementReversed {r : Text} (h : ∀ c ∈ r, isDigit c = true) :
    natOfDigits (incrementReversed r).reverse = natOfDigits r.reverse + 1 := by
  induction r with
  | nil => rfl
  | cons d r ih =>
      have hr : ∀ c ∈ r, isDigit c = true := fun c hc => h c (by simp [hc])
      -- A nine and one more make one more of what stands before the nine.
      by_cases hd : d = '9'
      · subst hd
        rw [incrementReversed_nine, List.reverse_cons, List.reverse_cons,
          Text.natOfDigits_append_singleton, Text.natOfDigits_append_singleton, ih hr]
        have h9 : '9'.toNat = 57 := rfl
        have h0 : '0'.toNat = 48 := rfl
        omega
      · have hdig := (isDigit_iff d).mp (h d (by simp))
        rw [incrementReversed_of_ne hd, List.reverse_cons, List.reverse_cons,
          Text.natOfDigits_append_singleton, Text.natOfDigits_append_singleton,
          toNat_raised (h d (by simp))]
        omega

/-- Counting up denotes the next number, however many digits it has. -/
theorem natOfDigits_increment {d : Text} (h : ∀ c ∈ d, isDigit c = true) :
    natOfDigits (increment d) = natOfDigits d + 1 := by
  have hr := natOfDigits_incrementReversed (r := d.reverse)
    fun c hc => h c (List.mem_reverse.mp hc)
  rwa [List.reverse_reverse] at hr

/-- Counting up takes one more digit if and only if all of them are nines. -/
theorem length_incrementReversed (r : Text) :
    (incrementReversed r).length = if r.all (· == '9') then r.length + 1 else r.length := by
  induction r with
  | nil => rfl
  | cons d r ih =>
      by_cases hd : d = '9'
      · subst hd
        rw [incrementReversed_nine, List.length_cons, List.length_cons, ih, List.all_cons,
          beq_self_eq_true, Bool.true_and]
        split
        · rfl
        · rfl
      · rw [incrementReversed_of_ne hd, List.all_cons, beq_false_of_ne hd, Bool.false_and]
        rfl

/-- Counting up keeps the number of digits, unless all of them are
nines. -/
theorem length_increment (d : Text) :
    (increment d).length = if d.all (· == '9') then d.length + 1 else d.length := by
  rw [increment, List.length_reverse, length_incrementReversed, List.length_reverse,
    List.all_reverse]

/-- Counting up writes the next number, in as many digits as there
were. -/
theorem increment_eq_decimalPadded {d : Text} (hne : d ≠ []) (h : ∀ c ∈ d, isDigit c = true) :
    increment d = Text.decimalPadded d.length (natOfDigits d + 1) := by
  have hpos : 0 < d.length := List.length_pos_iff.mpr hne
  have hdigits := isDigit_increment h
  refine eq_of_natOfDigits_eq ?_ hdigits (fun c hc => Text.isDigit_of_mem_decimalPadded hc) ?_
  · by_cases hnines : d.all (· == '9') = true
    · -- The next number is a power of ten and needs one digit more.
      have hpow := Text.natOfDigits_nines hnines
      have hle := (Text.length_decimal_le_iff (Nat.succ_pos d.length)).mpr
        (Nat.pow_lt_pow_succ (by decide) : 10 ^ d.length < 10 ^ (d.length + 1))
      have hnot := mt (Text.length_decimal_le_iff hpos).mp (Nat.lt_irrefl (10 ^ d.length))
      rw [length_increment, if_pos hnines, hpow, Text.decimalPadded, List.length_append,
        List.length_replicate]
      omega
    · have hlen : (increment d).length = d.length := by rw [length_increment, if_neg hnines]
      have hlt := natOfDigits_lt hdigits
      rw [natOfDigits_increment h, hlen] at hlt
      rw [hlen, Text.length_decimalPadded hpos hlt]
  · rw [natOfDigits_increment h, Text.natOfDigits_decimalPadded]

end ScriptGate.Version
