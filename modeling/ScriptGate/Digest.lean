import ScriptGate.Text.Basic

/-!
# `ScriptGate.Digest`: the SHA-256 digest of a text

The digest is taken of the UTF-8 form of the text. `padded` adds the bit
`1`, zeros and the length in bits, so that the words come in blocks of
sixteen; `compress` works one block into the eight words of the state.
-/

set_option autoImplicit false

namespace ScriptGate.Digest

/-- The eight words that a digest is made of. -/
structure State where
  (a b c d e f g h : UInt32)
  deriving DecidableEq, Repr

/-- The fractional parts of the square roots of the first eight
primes. -/
def initial : State where
  a := 0x6a09e667
  b := 0xbb67ae85
  c := 0x3c6ef372
  d := 0xa54ff53a
  e := 0x510e527f
  f := 0x9b05688c
  g := 0x1f83d9ab
  h := 0x5be0cd19

/-- The fractional parts of the cube roots of the first 64 primes. -/
def roundConstants : Array UInt32 :=
  #[0x428a2f98, 0x71374491, 0xb5c0fbcf, 0xe9b5dba5, 0x3956c25b, 0x59f111f1, 0x923f82a4, 0xab1c5ed5,
    0xd807aa98, 0x12835b01, 0x243185be, 0x550c7dc3, 0x72be5d74, 0x80deb1fe, 0x9bdc06a7, 0xc19bf174,
    0xe49b69c1, 0xefbe4786, 0x0fc19dc6, 0x240ca1cc, 0x2de92c6f, 0x4a7484aa, 0x5cb0a9dc, 0x76f988da,
    0x983e5152, 0xa831c66d, 0xb00327c8, 0xbf597fc7, 0xc6e00bf3, 0xd5a79147, 0x06ca6351, 0x14292967,
    0x27b70a85, 0x2e1b2138, 0x4d2c6dfc, 0x53380d13, 0x650a7354, 0x766a0abb, 0x81c2c92e, 0x92722c85,
    0xa2bfe8a1, 0xa81a664b, 0xc24b8b70, 0xc76c51a3, 0xd192e819, 0xd6990624, 0xf40e3585, 0x106aa070,
    0x19a4c116, 0x1e376c08, 0x2748774c, 0x34b0bcb5, 0x391c0cb3, 0x4ed8aa4a, 0x5b9cca4f, 0x682e6ff3,
    0x748f82ee, 0x78a5636f, 0x84c87814, 0x8cc70208, 0x90befffa, 0xa4506ceb, 0xbef9a3f7, 0xc67178f2]

/-- `x` rotated to the right by `n` places, for `n` from 1 to 31. -/
def rotated (x n : UInt32) : UInt32 := (x >>> n) ||| (x <<< (32 - n))

/-! ### The message in words -/

/-- The UTF-8 bytes of a text. -/
def bytes (t : Text) : ByteArray :=
  t.foldl (fun bs c => (String.utf8EncodeChar c).foldl ByteArray.push bs) ByteArray.empty

/-- The bytes of a message with its padding. -/
def padded (message : ByteArray) : ByteArray :=
  let zeros := (119 - message.size % 64) % 64
  let bits := 8 * message.size
  let closed := (List.replicate zeros (0 : UInt8)).foldl ByteArray.push (message.push 0x80)
  ((List.range 8).reverse.map fun i => UInt8.ofNat (bits / Nat.pow 256 i)).foldl ByteArray.push closed

/-- The byte at a position, as a word. -/
def byteAt (bs : ByteArray) (i : Nat) : UInt32 := (bs.data.getD i 0).toUInt32

/-- The word whose first byte stands at a position. -/
def wordAt (bs : ByteArray) (i : Nat) : UInt32 :=
  (byteAt bs i <<< 24) ||| (byteAt bs (i + 1) <<< 16) ||| (byteAt bs (i + 2) <<< 8) |||
    byteAt bs (i + 3)

/-- The sixteen words of the block that begins at a position. -/
def blockAt (bs : ByteArray) (start : Nat) : Array UInt32 :=
  (Array.range 16).map fun i => wordAt bs (start + 4 * i)

/-! ### Working in a block -/

/-- The next word of a schedule. -/
def nextWord (w : Array UInt32) : UInt32 :=
  let back (n : Nat) : UInt32 := w.getD (w.size - n) 0
  let x := back 15
  let y := back 2
  back 16 + (rotated x 7 ^^^ rotated x 18 ^^^ (x >>> 3)) + back 7 +
    (rotated y 17 ^^^ rotated y 19 ^^^ (y >>> 10))

/-- The 64 words that a block is stretched to. -/
def schedule (block : Array UInt32) : Array UInt32 :=
  (List.range 48).foldl (fun w _ => w.push (nextWord w)) block

/-- One of the 64 rounds. -/
def round (s : State) (constant word : UInt32) : State :=
  let choice := (s.e &&& s.f) ^^^ ((~~~ s.e) &&& s.g)
  let majority := (s.a &&& s.b) ^^^ (s.a &&& s.c) ^^^ (s.b &&& s.c)
  let t1 := s.h + (rotated s.e 6 ^^^ rotated s.e 11 ^^^ rotated s.e 25) + choice + constant + word
  let t2 := (rotated s.a 2 ^^^ rotated s.a 13 ^^^ rotated s.a 22) + majority
  { a := t1 + t2, b := s.a, c := s.b, d := s.c, e := s.d + t1, f := s.e, g := s.f, h := s.g }

/-- The state after a block. -/
def compress (s : State) (block : Array UInt32) : State :=
  let w := schedule block
  let t := (List.range 64).foldl
    (fun t i => round t (roundConstants.getD i 0) (w.getD i 0)) s
  { a := s.a + t.a, b := s.b + t.b, c := s.c + t.c, d := s.d + t.d, e := s.e + t.e, f := s.f + t.f,
    g := s.g + t.g, h := s.h + t.h }

/-- The words of the digest of a message. -/
def digest (message : ByteArray) : State :=
  let bs := padded message
  (List.range (bs.size / 64)).foldl (fun s i => compress s (blockAt bs (64 * i))) initial

/-- The eight hexadecimal digits of a word. -/
def wordText (w : UInt32) : Text :=
  let digits := Text.hexadecimal w.toNat
  List.replicate (8 - digits.length) '0' ++ digits

/-- The digest of a text in 64 lower-case hexadecimal digits. -/
def ofText (t : Text) : Text :=
  let s := digest (bytes t)
  [s.a, s.b, s.c, s.d, s.e, s.f, s.g, s.h].flatMap wordText

end ScriptGate.Digest
