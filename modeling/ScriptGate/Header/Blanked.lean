import ScriptGate.Header.Metadata
import ScriptGate.Header.Rewrite
import ScriptGate.Version.Successor

/-!
# `ScriptGate.Header.Blanked`: what replaces a deleted script

Clients that installed a script keep asking for its code. After it is
deleted they get a header without a body, in a higher version and with a
notice for its description, which makes them drop what they had.
-/

set_option autoImplicit false

namespace ScriptGate.Header

/-- The edits that blank a header with the metadata `m`. -/
def blankingEdits (m : Metadata) (notice : Text) (dependencyKeys : List Text) : Edits :=
  let described := Edits.empty.replace descriptionKey notice
  let advanced :=
    match m.firstNonBlank versionKey with
    | none => described
    | some version => described.replace versionKey (Version.next version)
  (dependencyKeys.foldl Edits.remove advanced).addIfMissing descriptionKey notice

/-- The header that replaces `code`, when `code` has one. -/
def blanked (code notice : Text) (dependencyKeys : List Text) : Option Text :=
  metaBlock (rewrite code (blankingEdits (Metadata.ofSource code) notice dependencyKeys))

end ScriptGate.Header
