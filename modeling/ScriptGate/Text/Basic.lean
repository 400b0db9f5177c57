/-!
# `ScriptGate.Text.Basic`: texts and their byte offsets

A text is the list of its Unicode scalar values. Offsets into a text
count the bytes of its UTF-8 form, so a text has two sizes: the number
of its characters (`List.length`) and `byteLength`.

A cut at an offset exists only on a character boundary. `splitAtByte?`
says so by its type, and `slice?` is two such cuts. `joinChunks` and
the walkers below carry an accumulator, because a submitted script may
be millions of characters long; each comes with the plain equation
that proofs use.
-/

set_option autoImplicit false

namespace ScriptGate

/-- A text is the list of its Unicode scalar values. -/
abbrev Text := List Char

namespace Text

/-- The number of bytes of the UTF-8 form of `t`. -/
def byteLength (t : Text) : Nat :=
  t.foldl (fun n c => n + c.utf8Size) 0

/-- Sizes can be added up from any number on. -/
theorem byteLength_foldl (t : Text) (n : Nat) :
    t.foldl (fun n c => n + c.utf8Size) n = n + byteLength t := by
  induction t generalizing n with
  | nil => rfl
  | cons c t ih =>
    show t.foldl _ (n + c.utf8Size) = n + t.foldl _ (0 + c.utf8Size)
    rw [ih, ih (0 + c.utf8Size)]
    omega

/-- The empty text has no bytes. -/
@[simp] theorem byteLength_nil : byteLength [] = 0 := rfl

/-- A character comes first with its own bytes. -/
@[simp] theorem byteLength_cons (c : Char) (t : Text) :
    byteLength (c :: t) = c.utf8Size + byteLength t := by
  show t.foldl _ (0 + c.utf8Size) = _
  rw [byteLength_foldl]
  omega

/-- The bytes of two texts add up. -/
@[simp] theorem byteLength_append (s t : Text) :
    byteLength (s ++ t) = byteLength s + byteLength t := by
  induction s with
  | nil => simp
  | cons c s ih => simp [ih]; omega

/-- Cuts `t` after exactly `n` bytes. There is no such cut past the end
of `t` or inside a character. The first part is kept reversed in `acc`
while it is read. -/
def splitAtByteAux (acc : Text) : Nat → Text → Option (Text × Text)
  | 0, t => some (acc.reverse, t)
  | _ + 1, [] => none
  | n + 1, c :: t =>
    if c.utf8Size ≤ n + 1 then splitAtByteAux (c :: acc) (n + 1 - c.utf8Size) t else none

/-- The two parts of `t` around the byte offset `n`, when `n` is a
character boundary of `t`. -/
def splitAtByte? (n : Nat) (t : Text) : Option (Text × Text) :=
  splitAtByteAux [] n t

/-- The bytes from `start` to `stop`, when both are character
boundaries of `t` and in this order. -/
def slice? (t : Text) (start stop : Nat) : Option Text := do
  guard (start ≤ stop)
  let (_, rest) ← splitAtByte? start t
  let (part, _) ← splitAtByte? (stop - start) rest
  pure part

/-- The decimal digits of `n`. -/
def decimal (n : Nat) : Text := Nat.toDigits 10 n

/-- The decimal digits of `n`, filled up with zeros to `width`. -/
def decimalPadded (width n : Nat) : Text :=
  List.replicate (width - (decimal n).length) '0' ++ decimal n

/-- The lower-case hexadecimal digits of `n`. -/
def hexadecimal (n : Nat) : Text := Nat.toDigits 16 n

/-- Whether `c` is one of the ten ASCII digits. -/
def isDigit (c : Char) : Bool := '0' ≤ c && c ≤ '9'

/-- The value of an ASCII digit or letter in bases up to sixteen. -/
def hexValue? (c : Char) : Option Nat :=
  if '0' ≤ c ∧ c ≤ '9' then some (c.toNat - '0'.toNat)
  else if 'a' ≤ c ∧ c ≤ 'f' then some (c.toNat - 'a'.toNat + 10)
  else if 'A' ≤ c ∧ c ≤ 'F' then some (c.toNat - 'A'.toNat + 10)
  else none

/-- The natural number that a list of ASCII digits denotes. -/
def natOfDigits (t : Text) : Nat :=
  t.foldl (fun n c => 10 * n + (c.toNat - '0'.toNat)) 0

/-- The ASCII letters of `t` in lower case, all else unchanged. -/
def asciiLower (t : Text) : Text := t.map Char.toLower

/-- The rest of `t` after `start`, when `t` begins with it. -/
def dropStart? (start t : Text) : Option Text :=
  if start.isPrefixOf t then some (t.drop start.length) else none

/-- What was put in front of a text can be taken off again. -/
theorem dropStart?_append (start t : Text) : dropStart? start (start ++ t) = some t := by
  rw [dropStart?, if_pos (List.isPrefixOf_iff_prefix.mpr (List.prefix_append start t)),
    List.drop_left]

/-- The unicode scalar value with number `n`, if there is one. -/
def charOfNat? (n : Nat) : Option Char :=
  if h : n.isValidChar then some (Char.ofNatAux n h) else none

end Text
end ScriptGate
