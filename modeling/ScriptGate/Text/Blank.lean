import ScriptGate.Text.Basic

/-!
# `ScriptGate.Text.Blank`: white space

`isBlank` is the Unicode property White_Space. Directive lines, display
names and settings all use this one class, so a value that the header
grammar separates from its key never begins with a character that
`trim` would remove (`isBlank_iff`).
-/

set_option autoImplicit false

namespace ScriptGate.Text

/-- The Unicode property White_Space. -/
def isBlank (c : Char) : Bool :=
  let n := c.toNat
  (9 ≤ n && n ≤ 13) || n == 0x20 || n == 0x85 || n == 0xA0 || n == 0x1680 ||
  (0x2000 ≤ n && n ≤ 0x200A) || n == 0x2028 || n == 0x2029 || n == 0x202F ||
  n == 0x205F || n == 0x3000

/-- The twenty-five characters of the class, by number. -/
theorem isBlank_iff (c : Char) :
    isBlank c = true ↔
      (9 ≤ c.toNat ∧ c.toNat ≤ 13) ∨ c.toNat = 0x20 ∨ c.toNat = 0x85 ∨ c.toNat = 0xA0 ∨
      c.toNat = 0x1680 ∨ (0x2000 ≤ c.toNat ∧ c.toNat ≤ 0x200A) ∨ c.toNat = 0x2028 ∨
      c.toNat = 0x2029 ∨ c.toNat = 0x202F ∨ c.toNat = 0x205F ∨ c.toNat = 0x3000 := by
  simp only [isBlank, Bool.or_eq_true, Bool.and_eq_true, decide_eq_true_eq, beq_iff_eq,
    or_assoc]

/-- `t` without the blanks it begins with. -/
def trimStart (t : Text) : Text := t.dropWhile isBlank

/-- `t` without the blanks it ends in. -/
def trimEnd (t : Text) : Text := (t.reverse.dropWhile isBlank).reverse

/-- `t` without blanks at either end. -/
def trim (t : Text) : Text := trimEnd (trimStart t)

/-- Whether `t` has no character other than blanks. -/
def allBlank (t : Text) : Bool := t.all isBlank

end ScriptGate.Text
