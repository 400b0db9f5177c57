import ScriptGate.Text.Basic

/-!
# `ScriptGate.Text.Percent`: characters written by their bytes

In addresses, `%` and two hexadecimal digits stand for a byte of the
UTF-8 form. A `%` before anything else stands for itself.
-/

set_option autoImplicit false

namespace ScriptGate.Text

/-- The bytes of a text in which `%` may stand before a byte, after
those in `acc`. -/
def percentBytes (acc : ByteArray) : Text → ByteArray
  | [] => acc
  | '%' :: x :: y :: rest =>
    match hexValue? x, hexValue? y with
    | some x, some y => percentBytes (acc.push (UInt8.ofNat (16 * x + y))) rest
    | _, _ => percentBytes (acc.push 0x25) (x :: y :: rest)
  | c :: rest => percentBytes ((String.utf8EncodeChar c).foldl ByteArray.push acc) rest
termination_by t => t.length

/-- The text that `t` stands for; none when its bytes are no text. -/
def percentDecoded? (t : Text) : Option Text :=
  (String.fromUTF8? (percentBytes ByteArray.empty t)).map String.toList

end ScriptGate.Text
