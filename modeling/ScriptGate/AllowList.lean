import ScriptGate.Pattern.Parser
import ScriptGate.Pattern.Matcher
import ScriptGate.Text.Quoted

/-!
# `ScriptGate.AllowList`: which external resources are approved

A configured pattern approves a locator that the whole of it matches.
The pattern text is put between `^(?:` and `)$` before it is read, so
what is refused or accepted is the pattern of that longer text.
-/

set_option autoImplicit false

namespace ScriptGate

/-- Why the collaborators of a review cannot be built. -/
inductive SetupError where
  /-- A pattern text denotes no pattern. -/
  | invalidPattern (text : Text)
  /-- The signature file cannot be read. -/
  | unreadable (path : Text)
  /-- The signature file holds no list of fingerprints. -/
  | malformed (path : Text)
  deriving DecidableEq, Repr

namespace SetupError

/-- The message up to the cause, which a library words. -/
def message : SetupError → Text
  | invalidPattern text => "Invalid pattern ".toList ++ Text.quoted text ++ ": ".toList
  | unreadable path => "Failed to read signature file ".toList ++ path ++ ": ".toList
  | malformed path => "Failed to parse signature file ".toList ++ path ++ ": ".toList

end SetupError

/-- The patterns of approved locators. -/
structure AllowList where
  /-- The anchored patterns. -/
  patterns : List Pattern
  deriving DecidableEq, Repr

namespace AllowList

/-- A pattern text between anchors. -/
def anchored (text : Text) : Text := "^(?:".toList ++ text ++ ")$".toList

/-- The anchored pattern of a text. -/
def anchoredPattern (text : Text) : Except SetupError Pattern :=
  match Pattern.parse? (anchored text) with
  | some p => .ok p
  | none => .error (.invalidPattern text)

/-- The allow-list of some pattern texts, or the first of them that
denotes no pattern. -/
def ofTexts (texts : List Text) : Except SetupError AllowList :=
  (texts.mapM anchoredPattern).map AllowList.mk

/-- Whether some pattern approves `locator`. -/
def isApproved (l : AllowList) (locator : Text) : Bool :=
  l.patterns.any fun p => p.isMatch locator

end AllowList
end ScriptGate
