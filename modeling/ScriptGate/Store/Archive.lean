import ScriptGate.Digest
import ScriptGate.Keyed

/-!
# `ScriptGate.Store.Archive`: code by its digest

The archive keeps texts under the digests of their bytes, so a text that
is stored twice takes one place. Nothing is ever dropped or replaced:
the archive after `store` extends the one before it.
-/

set_option autoImplicit false

namespace ScriptGate.Store

/-- The digest under which a text is kept. -/
structure CodeId where
  /-- The digest, in hexadecimal digits. -/
  text : Text
  deriving DecidableEq, Repr

/-- The digest of a text. -/
def CodeId.ofCode (code : Text) : CodeId := ⟨Digest.ofText code⟩

/-- Texts by their digests. -/
structure Archive where
  /-- The texts, in the order in which they were first stored. -/
  blobs : Keyed CodeId Text

namespace Archive

/-- The archive without any text. -/
def empty : Archive := ⟨.empty⟩

/-- The text with a digest. -/
def load? (a : Archive) (id : CodeId) : Option Text := a.blobs.get? id

/-- The number of texts. -/
def size (a : Archive) : Nat := a.blobs.size

/-- The archive with `code` in it. -/
def store (a : Archive) (code : Text) : Archive :=
  let id := CodeId.ofCode code
  if (a.blobs.get? id).isSome then a else ⟨a.blobs.put id code⟩

end Archive
end ScriptGate.Store
