import ScriptGate.Request.Basic
import ScriptGate.Request.Objection

/-!
# `ScriptGate.Request.Reading`: requests from JSON

A request is an object, or an array of its fields in their order. It is
read from a text as it goes, or from a finished value. The ways differ
where an array has too many items and in how a kind may be written,
which is what `Manner` is about.

A trial is an object alone. Its member `scriptId` is read at once; all
others are held back until the whole object has been read, and then read
like a finished value.

Of several faults the first one in the text is reported. In a finished
value the members stand in the order of their names.
-/

set_option autoImplicit false

namespace ScriptGate.Request

open Json (Source)
open Review (Kind Options)

/-- How JSON is read. -/
inductive Manner where
  /-- From a text, as it goes. -/
  | streamed
  /-- From members that were held back. -/
  | heldBack
  /-- From a finished value. -/
  | finished
  deriving DecidableEq, Repr

/-! ### Plain values -/

/-- A string. -/
def readText : Source → Except Objection Text
  | .text t => .ok t
  | s => .error (objection s "a string")

/-- A string or `null`. -/
def readOptText : Source → Except Objection (Option Text)
  | .null => .ok none
  | s => (readText s).map some

/-- A natural number of 64 bits. -/
def readNat : Source → Except Objection Nat
  | .number (.natural n) => .ok n
  | .number (.negative n) =>
    .error (.wrongValue ("integer ".toList ++ ticked (JsonNumber.negative n).text) "u64")
  | s => .error (objection s "u64")

/-- A truth value. -/
def readBool : Source → Except Objection Bool
  | .bool b => .ok b
  | s => .error (objection s "a boolean")

/-- An identifier or `null`. -/
def readOptUuid : Source → Except Objection (Option Uuid)
  | .null => .ok none
  | .text t =>
    match Uuid.parse? t with
    | some u => .ok (some u)
    | none => .error (.invalidUuid (Uuid.Defect.ofText t))
  | s => .error (objection s "a formatted UUID string")

/-- Passes over a value that nobody asks for. -/
def skip (s : Source) : Except Objection Unit :=
  if s.isWellFormed then .ok () else .error .malformed

/-! ### Kinds -/

/-- The kind with this name. -/
def kindNamed (name : Text) : Except Objection Kind :=
  if name = Kind.userScript.text.toList then .ok .userScript
  else if name = Kind.library.text.toList then .ok .library
  else .error (.unknownKind name)

/-- Reads the value next to the name of a kind, which has to be
`null`. -/
def readUnit (manner : Manner) : Source → Except Objection Unit
  | .null => .ok ()
  | .object [] true =>
    if manner = .heldBack then .ok () else .error (.wrongType "map".toList "unit")
  | s => .error (objection s "unit")

/-- A kind: its name, or an object with the name as its only member. -/
def readKind (manner : Manner) (s : Source) : Except Objection Kind :=
  match s with
  | .text name => kindNamed name
  | .object members closed =>
    match members, manner with
    | (name, value) :: rest, .streamed => do
      let kind ← kindNamed name
      readUnit manner value
      if rest.isEmpty && closed then pure kind else throw .malformed
    | [], .streamed => .error .malformed
    | [(name, value)], _ => do
      let kind ← kindNamed name
      readUnit manner value
      pure kind
    | _, _ => .error (.wrongValue "map".toList "map with a single key")
  | s =>
    match manner with
    | .streamed => .error .malformed
    | _ => .error (objection s "string or map")

/-! ### Lists of fields -/

/-- Whether a list of fields ends where it should: `used` items were
read and `left` of them were not. -/
def readEnd (manner : Manner) (used left : Nat) (closed : Bool) : Except Objection Unit :=
  match manner with
  | .streamed => if left = 0 && closed then .ok () else .error .malformed
  | .heldBack =>
    if left = 0 then .ok ()
    else .error (.wrongLength (used + left) (Text.decimal used ++ " elements in sequence".toList))
  | .finished =>
    if left = 0 then .ok ()
    else .error (.wrongLength (used + left) "fewer elements in array".toList)

/-- The next item of a list, read by `f`; none at the end of the
list. -/
def readNext {α : Type} (f : Source → Except Objection α) (closed : Bool) :
    List Source → Except Objection (Option α × List Source)
  | s :: rest => do pure (some (← f s), rest)
  | [] => if closed then .ok (none, []) else .error .malformed

/-! ### Options -/

/-- The options with one of them set, unless `name` is none of them. -/
def setOption? (name : Text) : Option (Bool → Options → Options) :=
  match String.ofList name with
  | "versionCheckOverride" => some fun b o => { o with keepVersion := b }
  | "namespaceCheckOverride" => some fun b o => { o with changeNamespace := b }
  | "addMissingVersion" => some fun b o => { o with addMissingVersion := b }
  | "addMissingNamespace" => some fun b o => { o with addMissingNamespace := b }
  | "minifiedConfirmation" => some fun b o => { o with confirmMinified := b }
  | "lenient" => some fun b o => { o with lenient := b }
  | _ => none

/-- The names of the options, in their order. -/
def optionNames : List String :=
  ["versionCheckOverride", "namespaceCheckOverride", "addMissingVersion", "addMissingNamespace",
    "minifiedConfirmation", "lenient"]

/-- Reads the members of an object of options; `seen` are the names of
those that were read before. -/
def readOptionMembers (seen : List Text) (o : Options) :
    List (Text × Source) → Except Objection Options
  | [] => .ok o
  | (name, s) :: rest =>
    match setOption? name with
    | none => do
      skip s
      readOptionMembers seen o rest
    | some set =>
      if seen.contains name then .error (.duplicateField (String.ofList name))
      else do
        let b ← readBool s
        readOptionMembers (name :: seen) (set b o) rest

/-- Reads options from the items of a list, as far as there are any. -/
def readOptionItems (closed : Bool) (o : Options) :
    List String → List Source → Except Objection (Options × List Source)
  | [], items => .ok (o, items)
  | name :: names, items => do
    match ← readNext readBool closed items with
    | (some b, rest) =>
      let o := ((setOption? name.toList).map fun set => set b o).getD o
      readOptionItems closed o names rest
    | (none, rest) => pure (o, rest)

/-- The wishes of a submitter. -/
def readOptions (manner : Manner) : Source → Except Objection Options
  | .object members closed => do
    let o ← readOptionMembers [] {} members
    if closed then pure o else throw .malformed
  | .array items closed => do
    let (o, rest) ← readOptionItems closed {} optionNames items
    readEnd manner (items.length - rest.length) rest.length closed
    pure o
  | s => .error (objection s "struct SubmissionOptions")

/-! ### Requests -/

/-- A request of which only some members have been read. -/
structure Draft where
  /-- The code. -/
  code : Option Text := none
  /-- The submitting author. -/
  author : Option Nat := none
  /-- The kind. -/
  kind : Option Kind := none
  /-- The typed name, which may be `null`. -/
  displayName : Option (Option Text) := none
  /-- The wishes. -/
  options : Option Options := none

namespace Draft

/-- The value of a member that is read for the first time. -/
def fill {α : Type} (name : String) (old : Option α) (value : Except Objection α) :
    Except Objection (Option α) :=
  if old.isSome then .error (.duplicateField name) else value.map some

/-- The draft with one more member. -/
def member (manner : Manner) (d : Draft) (name : Text) (s : Source) : Except Objection Draft :=
  match String.ofList name with
  | "code" => do
    let code ← fill "code" d.code (readText s)
    pure { d with code }
  | "authorId" => do
    let author ← fill "authorId" d.author (readNat s)
    pure { d with author }
  | "kind" => do
    let kind ← fill "kind" d.kind (readKind manner s)
    pure { d with kind }
  | "displayName" => do
    let displayName ← fill "displayName" d.displayName (readOptText s)
    pure { d with displayName }
  | "options" => do
    let options ← fill "options" d.options (readOptions manner s)
    pure { d with options }
  | _ => do
    skip s
    pure d

/-- The draft with all of these members. -/
def members (manner : Manner) (d : Draft) : List (Text × Source) → Except Objection Draft
  | [] => .ok d
  | (name, s) :: rest => do
    let d ← d.member manner name s
    d.members manner rest

/-- The request, once nothing that it needs is missing. -/
def finish (d : Draft) : Except Objection Request :=
  match d.code, d.author with
  | none, _ => .error (.missingField "code")
  | _, none => .error (.missingField "authorId")
  | some code, some author =>
    .ok
      { code, author
        kind := d.kind.getD .userScript
        displayName := d.displayName.getD none
        options := d.options.getD {} }

end Draft

/-- What a request with too few items is told. -/
def fiveElements : Text := "struct SubmitScriptRequest with 5 elements".toList

/-- The request whose fields are the items of a list. Kind and options
may be missing at the end. -/
def readRequestItems (manner : Manner) (items : List Source) (closed : Bool) :
    Except Objection Request := do
  let (code?, rest) ← readNext readText closed items
  let some code := code? | throw (.wrongLength 0 fiveElements)
  let (author?, rest) ← readNext readNat closed rest
  let some author := author? | throw (.wrongLength 1 fiveElements)
  let (kind?, rest) ← readNext (readKind manner) closed rest
  let (displayName?, rest) ← readNext readOptText closed rest
  let some displayName := displayName? | throw (.wrongLength 3 fiveElements)
  let (options?, rest) ← readNext (readOptions manner) closed rest
  readEnd manner (items.length - rest.length) rest.length closed
  pure
    { code, author
      kind := kind?.getD .userScript
      displayName
      options := options?.getD {} }

/-- A request. -/
def readRequest (manner : Manner) : Source → Except Objection Request
  | .object members closed => do
    let d ← Draft.members manner {} members
    if closed then d.finish else throw .malformed
  | .array items closed => readRequestItems manner items closed
  | s => .error (objection s "struct SubmitScriptRequest")

/-- The members of a trial: the script, if it was named, and the members
that are held back, in reverse. -/
def readTrialMembers (script : Option (Option Uuid)) (kept : List (Text × Source)) :
    List (Text × Source) → Except Objection (Option Uuid × List (Text × Source))
  | [] => .ok (script.getD none, kept.reverse)
  | (name, s) :: rest =>
    if name = "scriptId".toList then do
      let script ← Draft.fill "scriptId" script (readOptUuid s)
      readTrialMembers script kept rest
    else
      match s.value? (Json.maxDepth - 1) with
      | some _ => readTrialMembers script ((name, s) :: kept) rest
      | none => .error .malformed

/-- A trial. -/
def readTrial : Source → Except Objection Trial
  | .object members closed => do
    let (script, kept) ← readTrialMembers none [] members
    if closed then
      let d ← Draft.members .heldBack {} kept
      pure ⟨script, ← d.finish⟩
    else throw .malformed
  | s => .error (objection s "struct ValidateScriptRequest")

/-! ### Whole texts and values -/

/-- What `read` finds in a text, when nothing follows it. -/
def ofText {α : Type} (read : Source → Except Objection α) (t : Text) : Except Objection α :=
  let d := Json.Document.ofText t
  do
    let a ← read d.root
    if d.complete then pure a else throw .malformed

/-- The request in a text. -/
def parse (t : Text) : Except Objection Request := ofText (readRequest .streamed) t

/-- The trial in a text. -/
def parseTrial (t : Text) : Except Objection Trial := ofText readTrial t

/-- The request that a finished value is. -/
def ofValue (v : Json) : Except Objection Request :=
  readRequest .finished (.ofValue v.sorted)

/-- The options that a finished value is. -/
def optionsOfValue (v : Json) : Except Objection Options :=
  readOptions .finished (.ofValue v.sorted)

/-- The kind that a finished value is. -/
def kindOfValue (v : Json) : Except Objection Kind :=
  readKind .finished (.ofValue v.sorted)

end ScriptGate.Request
