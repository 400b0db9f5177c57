import ScriptGate.Review.Policy
import ScriptGate.Text.Blank
import ScriptGate.Url.Check

/-!
# `ScriptGate.Settings`: what the environment configures

Every setting has a variable of its own and a default. A list is written
with commas, and its blank entries do not count. The address of the
server falls back to the default when it cannot be read; the address of
namespaces and the limits are refused then.
-/

set_option autoImplicit false

namespace ScriptGate

/-- An IPv4 address. -/
structure Ipv4 where
  (a b c d : Fin 256)
  deriving DecidableEq, Repr

/-- The settings of the service. -/
structure Settings where
  /-- The address on which it listens. -/
  host : Ipv4
  /-- The port on which it listens. -/
  port : Nat
  /-- The origins whose pages may call it. -/
  allowedOrigins : List Text
  /-- The limits and lists of its reviews. -/
  policy : Review.Policy
  deriving DecidableEq, Repr

namespace Ipv4

/-- The number of a part of an address: one to three digits without a
leading zero. -/
def part? (digits : Text) : Option (Fin 256) :=
  if digits.all Text.isDigit && !digits.isEmpty && digits.length ≤ 3 &&
      (digits.length = 1 || digits.head? != some '0') then
    let n := Text.natOfDigits digits
    if h : n < 256 then some ⟨n, h⟩ else none
  else none

/-- The address in dotted form. -/
def parse? (t : Text) : Option Ipv4 :=
  match (t.splitOn '.').mapM part? with
  | some [a, b, c, d] => some ⟨a, b, c, d⟩
  | _ => none

/-- The dotted form of an address. -/
def text (i : Ipv4) : Text :=
  List.intercalate ['.'] ([i.a, i.b, i.c, i.d].map fun n => Text.decimal n.val)

end Ipv4

namespace Settings

/-- The settings of an empty environment. -/
def standard : Settings where
  host := ⟨0, 0, 0, 0⟩
  port := 3000
  allowedOrigins := ["http://localhost:3001".toList]
  policy := .standard

/-! ### Numbers -/

/-- Why a text is no natural number. -/
inductive NumberDefect where
  /-- It is empty. -/
  | empty
  /-- It has a character that is no digit. -/
  | invalidDigit
  /-- The number does not fit. -/
  | tooLarge
  deriving DecidableEq, Repr

/-- How a defect is described. -/
def NumberDefect.message : NumberDefect → String
  | empty => "cannot parse integer from empty string"
  | invalidDigit => "invalid digit found in string"
  | tooLarge => "number too large to fit in target type"

/-- Reads digits from the left, as long as the number fits into what
`limit` allows. -/
def readDigits (limit n : Nat) : Text → Except NumberDefect Nat
  | [] => .ok n
  | c :: rest =>
    if !Text.isDigit c then .error .invalidDigit
    else
      let n := 10 * n + (c.toNat - '0'.toNat)
      if limit < n then .error .tooLarge else readDigits limit n rest

/-- A natural number up to `limit`, perhaps with a plus sign. -/
def readNumber (limit : Nat) : Text → Except NumberDefect Nat
  | [] => .error .empty
  | ['+'] => .error .invalidDigit
  | '+' :: digits => readDigits limit 0 digits
  | digits => readDigits limit 0 digits

/-- The largest limit. -/
def maxLimit : Nat := Nat.pow 2 64 - 1

/-- The largest port. -/
def maxPort : Nat := 65535

/-! ### The environment -/

/-- The variables that are read. -/
def «variables» : List String :=
  ["HOST", "PORT", "ALLOWED_ORIGINS", "NAMESPACE_BASE_URL", "DESCRIPTION_MAX_LENGTH",
    "MINIFIED_MAX_LINE_LENGTH", "MINIFIED_MAX_AVERAGE_LINE_LENGTH", "MINIFIED_MIN_BODY_LENGTH",
    "APPROVED_DEPENDENCY_PATTERNS", "FORBIDDEN_DIRECTIVES", "DEPENDENCY_DIRECTIVES",
    "DISALLOWED_SIGNATURES_PATH", "DELETION_NOTICE"]

/-- Variables with their values. -/
abbrev Environment := List (Text × Text)

/-- The value of a variable. -/
def lookup (env : Environment) (key : String) : Option Text :=
  (env.find? fun e => e.1 == key.toList).map Prod.snd

/-- Why the settings cannot be read: the variable and what is wrong with
its value. -/
structure Defect where
  /-- The variable. -/
  key : String
  /-- What is wrong. -/
  cause : String
  deriving DecidableEq, Repr

/-- How a defect is described. -/
def Defect.message (d : Defect) : String :=
  "Invalid configuration value for " ++ d.key ++ ": " ++ d.cause

/-- The entries of a list that are not blank, trimmed. -/
def splitList (t : Text) : List Text :=
  ((t.splitOn ',').map Text.trim).filter fun entry => !entry.isEmpty

/-- A limit, which may have blanks around it. -/
def readLimit (env : Environment) (key : String) (default : Nat) : Except Defect Nat :=
  match lookup env key with
  | none => .ok default
  | some value =>
    match readNumber maxLimit (Text.trim value) with
    | .ok n => .ok n
    | .error d => .error ⟨key, d.message⟩

/-- A list. -/
def readList (env : Environment) (key : String) (default : List Text) : List Text :=
  (lookup env key).elim default splitList

/-- The address of namespaces, which has to be absolute. -/
def readNamespaceBase (env : Environment) (default : Text) : Except Defect Text :=
  let key := "NAMESPACE_BASE_URL"
  let value := (lookup env key).getD default
  match Url.defect? value with
  | none => .ok value
  | some d => .error ⟨key, d.message⟩

/-- The policy that an environment configures. -/
def readPolicy (env : Environment) : Except Defect Review.Policy := do
  let p := Review.Policy.standard
  let namespaceBase ← readNamespaceBase env p.namespaceBase
  let descriptionLimit ← readLimit env "DESCRIPTION_MAX_LENGTH" p.descriptionLimit
  let lineLimit ← readLimit env "MINIFIED_MAX_LINE_LENGTH" p.lineLimit
  let averageLineLimit ← readLimit env "MINIFIED_MAX_AVERAGE_LINE_LENGTH" p.averageLineLimit
  let longBodyLength ← readLimit env "MINIFIED_MIN_BODY_LENGTH" p.longBodyLength
  pure
    { descriptionLimit, lineLimit, averageLineLimit, longBodyLength, namespaceBase
      approvedPatterns := readList env "APPROVED_DEPENDENCY_PATTERNS" p.approvedPatterns
      forbiddenKeys := readList env "FORBIDDEN_DIRECTIVES" p.forbiddenKeys
      dependencyKeys := readList env "DEPENDENCY_DIRECTIVES" p.dependencyKeys
      signatureFile := (lookup env "DISALLOWED_SIGNATURES_PATH").filter fun t => !Text.allBlank t
      deletionNotice := (lookup env "DELETION_NOTICE").getD p.deletionNotice }

/-- The settings that an environment configures. -/
def ofEnvironment (env : Environment) : Except Defect Settings := do
  let policy ← readPolicy env
  pure
    { host := ((lookup env "HOST").bind Ipv4.parse?).getD standard.host
      port :=
        (((lookup env "PORT").map (readNumber maxPort)).bind Except.toOption).getD standard.port
      allowedOrigins := readList env "ALLOWED_ORIGINS" standard.allowedOrigins
      policy }

end Settings
end ScriptGate
