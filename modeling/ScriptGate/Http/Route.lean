import ScriptGate.Text.Percent
import ScriptGate.Uuid

/-!
# `ScriptGate.Http.Route`: what the paths of the service name

A path names a page of the service. The pages about one script have its
identifier as a part of their path, in whatever form it is written
there; `scriptId?` reads it. Each page has its own methods, and a page
that can be read has the method `HEAD` besides `GET`.
-/

set_option autoImplicit false

namespace ScriptGate.Http

/-- A page about one script. -/
inductive ScriptPage where
  /-- Its record. -/
  | record
  /-- Its revisions, and where new ones are submitted. -/
  | versions
  /-- Its code. -/
  | code
  /-- Its header. -/
  | header
  /-- What replaces it once it is deleted. -/
  | blanked
  deriving DecidableEq, Repr

/-- A page of the service. -/
inductive Page where
  /-- Whether the service runs. -/
  | health
  /-- Where requests are tried. -/
  | trial
  /-- All scripts, and where new ones are submitted. -/
  | scripts
  /-- What became of submissions. -/
  | trail
  /-- A page about the script whose identifier is written as `id`. -/
  | script (id : Text) (page : ScriptPage)
  deriving DecidableEq, Repr

namespace Page

/-- The pages about the script called `id`. -/
def ofScriptPath? (id : Text) : List Text → Option Page
  | [] => some (.script id .record)
  | [last] =>
    match String.ofList last with
    | "versions" => some (.script id .versions)
    | "code" => some (.script id .code)
    | "meta" => some (.script id .header)
    | "blanked" => some (.script id .blanked)
    | _ => none
  | _ => none

/-- The page that a path names. -/
def ofPath? (path : Text) : Option Page :=
  match path.splitOn '/' with
  | [] :: first :: rest =>
    match String.ofList first, rest with
    | "health", [] => some .health
    | "api", second :: rest =>
      match String.ofList second, rest with
      | "validate", [] => some .trial
      | "scripts", [] => some .scripts
      | "audit", [] => some .trail
      | "scripts", id :: rest => if id.isEmpty then none else ofScriptPath? id rest
      | _, _ => none
    | _, _ => none
  | _ => none

/-- Whether a page can be read. -/
def isReadable : Page → Bool
  | trial => false
  | _ => true

/-- Whether something can be sent to a page. -/
def isWritable : Page → Bool
  | trial | scripts | script _ .versions => true
  | _ => false

/-- The methods of a page. -/
def methods (p : Page) : List String :=
  (if p.isReadable then ["GET", "HEAD"] else []) ++ (if p.isWritable then ["POST"] else [])

end Page

/-- The identifier of a script as it is written in a path. -/
def scriptId? (written : Text) : Option Uuid := (Text.percentDecoded? written).bind Uuid.parse?

/-- The pairs of a query. A plus sign stands for a space there. -/
def queryPairs (query : Text) : List (Text × Text) :=
  let spaced := query.map fun c => if c = '+' then ' ' else c
  let pieces := (spaced.splitOn '&').filter fun piece => !piece.isEmpty
  pieces.map fun piece =>
    let name := piece.takeWhile (· != '=')
    (name, piece.drop (name.length + 1))

/-- The script that a query asks for: none when it names none, and no
answer when it names two of them or one that is no identifier. -/
def queryScript? (query : Text) : Option (Option Uuid) :=
  let named := (queryPairs query).filter fun p =>
    Text.percentDecoded? p.1 == some "scriptId".toList
  match named with
  | [] => some none
  | [p] => (scriptId? p.2).map some
  | _ => none

end ScriptGate.Http
