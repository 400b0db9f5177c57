import ScriptGate.Text.Basic

/-!
# `ScriptGate.Uuid`: identifiers of 128 bits

Identifiers are written as five hyphenated groups of lower-case
hexadecimal digits. They are read in either case, with the hyphens or
without any, and hyphenated ones also in braces or after `urn:uuid:`.

A text that is no identifier has a `Defect`, which says what to mend.
-/

set_option autoImplicit false

namespace ScriptGate

/-- An identifier of 128 bits. -/
structure Uuid where
  /-- The bits. -/
  bits : BitVec 128
  deriving DecidableEq, Repr

namespace Uuid

/-- `t` cut into pieces of these lengths. What is left at the end is
dropped. -/
def cut : List Nat → Text → List Text
  | [], _ => []
  | n :: ns, t => t.take n :: cut ns (t.drop n)

/-- The lengths of the five groups. -/
def groupLengths : List Nat := [8, 4, 4, 4, 12]

/-- The hyphenated form. -/
def text (u : Uuid) : Text :=
  let digits := Text.hexadecimal u.bits.toNat
  List.intercalate ['-'] (cut groupLengths (List.replicate (32 - digits.length) '0' ++ digits))

/-- The identifier with exactly these 32 hexadecimal digits. -/
def ofDigits? (t : Text) : Option Uuid := do
  guard (t.length = 32)
  let values ← t.mapM Text.hexValue?
  pure ⟨BitVec.ofNat 128 (values.foldl (fun n d => 16 * n + d) 0)⟩

/-- The identifier with this hyphenated form. -/
def ofHyphenated? (t : Text) : Option Uuid := do
  let groups := t.splitOn '-'
  guard (groups.map List.length = groupLengths)
  ofDigits? groups.flatten

/-- What stands before an identifier written as a name of its kind. -/
def urnStem : Text := "urn:uuid:".toList

/-- The inside of braces. -/
def braced? (t : Text) : Option Text :=
  match t with
  | c :: rest =>
    if c = Char.ofNat 0x7B && rest.getLast? = some (Char.ofNat 0x7D) then some rest.dropLast
    else none
  | [] => none

/-- The identifier that a text denotes. -/
def parse? (t : Text) : Option Uuid :=
  if t.length = 32 then ofDigits? t
  else
    match braced? t, Text.dropStart? urnStem t with
    | some inside, _ => ofHyphenated? inside
    | none, some rest => ofHyphenated? rest
    | none, none => ofHyphenated? t

/-- What is wrong with a text that is no identifier. -/
inductive Defect where
  /-- A character that is neither digit nor hyphen, and its byte position
  counted from one. -/
  | character (c : Char) (position : Nat)
  /-- Only digits, but not 32 of them. -/
  | length (n : Nat)
  /-- Not five groups. -/
  | groupCount (n : Nat)
  /-- A group of a wrong length. -/
  | groupLength (group expected found : Nat)
  deriving DecidableEq, Repr

namespace Defect

/-- How a defect is described. -/
def message : Defect → Text
  | character c position =>
    "invalid character: expected an optional prefix of ".toList ++ Char.ofNat 0x60 ::
      urnStem ++ Char.ofNat 0x60 :: " followed by [0-9a-fA-F-], found ".toList ++
      Char.ofNat 0x60 :: c :: Char.ofNat 0x60 :: " at ".toList ++ Text.decimal position
  | length n =>
    "invalid length: expected length 32 for simple format, found ".toList ++ Text.decimal n
  | groupCount n => "invalid group count: expected 5, found ".toList ++ Text.decimal n
  | groupLength group expected found =>
    "invalid group length in group ".toList ++ Text.decimal group ++ ": expected ".toList ++
      Text.decimal expected ++ ", found ".toList ++ Text.decimal found

/-- The first character of `t` that is neither digit nor hyphen, with
its position when `t` begins at `position`. -/
def stranger? (position : Nat) : Text → Option Defect
  | [] => none
  | c :: t =>
    if c = '-' || (Text.hexValue? c).isSome then stranger? (position + c.utf8Size) t
    else some (character c position)

/-- The first group of a wrong length. -/
def wrongGroup? (group : Nat) : List Nat → List Nat → Option Defect
  | expected :: es, found :: fs =>
    if found = expected then wrongGroup? (group + 1) es fs
    else some (groupLength group expected found)
  | _, _ => none

/-- The defect of a text that is no identifier. `t` is the text without
what may stand around an identifier, and begins at `position`. -/
def ofInside (position : Nat) (plain : Bool) (t : Text) : Defect :=
  match stranger? position t with
  | some d => d
  | none =>
    let groups := t.splitOn '-'
    if plain && groups.length = 1 then length t.length
    else if groups.length ≠ 5 then groupCount groups.length
    else
      (wrongGroup? 0 groupLengths (groups.map List.length)).getD (length t.length)

/-- The defect of a text that is no identifier. -/
def ofText (t : Text) : Defect :=
  match braced? t, Text.dropStart? urnStem t with
  | some inside, _ => ofInside 2 false inside
  | none, some rest => ofInside 10 false rest
  | none, none => ofInside 1 true t

end Defect
end Uuid
end ScriptGate
