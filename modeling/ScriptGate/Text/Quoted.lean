import ScriptGate.Text.Basic
import ScriptGate.Unicode.Unprintable

/-!
# `ScriptGate.Text.Quoted`: texts inside messages

A message shows a text between double quotes. Quote and backslash are
escaped, tab, line feed, carriage return and NUL have short escapes, and
a character without a picture of its own is shown by its number in
braces.
-/

set_option autoImplicit false

namespace ScriptGate.Text

/-- A character as a quoted text shows it. -/
def quoteChar (c : Char) : Text :=
  match c with
  | '"' => ['\\', '"']
  | '\\' => ['\\', '\\']
  | '\n' => ['\\', 'n']
  | '\r' => ['\\', 'r']
  | '\t' => ['\\', 't']
  | c =>
    if c.toNat = 0 then ['\\', '0']
    else if Unicode.unprintableTable.contains c then
      '\\' :: 'u' :: '{' :: (hexadecimal c.toNat ++ ['}'])
    else [c]

/-- `t` between quotes. -/
def quoted (t : Text) : Text := '"' :: (t.flatMap quoteChar ++ ['"'])

end ScriptGate.Text
