import ScriptGate.Http.MediaType
import ScriptGate.Http.Origins
import ScriptGate.Http.Route
import ScriptGate.Request.Reading
import ScriptGate.Service.Report

/-!
# `ScriptGate.Http.Service`: the service over HTTP

`serve` answers one call. `OPTIONS` is answered for every path, because
browsers ask so whether a page may call. Then the path has to name a
page, the page has to know the method, and what is sent has to be a
request in JSON of a bounded size. Only then the service is asked.

Calls that do not get that far are turned away with a status and no
message of the service's own.
-/

set_option autoImplicit false

namespace ScriptGate.Http

open Service (Moment Refusal Rules State)

/-- A call over HTTP. -/
structure Call where
  /-- The method. -/
  method : Text
  /-- The path and the query. -/
  target : Text
  /-- The headers. -/
  headers : List (Text × Text)
  /-- What is sent. -/
  body : Text
  deriving DecidableEq, Repr

/-- What an answer carries. -/
inductive Content where
  /-- Nothing. -/
  | nothing
  /-- Words for people, which are not the service's own. -/
  | words
  /-- A value. -/
  | json (value : Json)
  /-- Code. -/
  | script (code : Text)
  deriving Repr

/-- The media type of a content. -/
def Content.mediaType? : Content → Option String
  | nothing => none
  | words => some "text/plain; charset=utf-8"
  | json _ => some "application/json"
  | script _ => some "text/javascript; charset=utf-8"

/-- An answer over HTTP. -/
structure Reply where
  /-- The status. -/
  status : Nat
  /-- The headers besides the one for the media type. -/
  headers : List (String × Text) := []
  /-- What it carries. -/
  content : Content := .nothing
  /-- Whether the content is left out, as for the method `HEAD`. -/
  bare : Bool := false
  deriving Repr

namespace Call

/-- The value of a header, whose name is written in lower case. -/
def header? (c : Call) (name : String) : Option Text :=
  (c.headers.find? fun h => Text.asciiLower h.1 == name.toList).map Prod.snd

/-- The path without query. -/
def path (c : Call) : Text := c.target.takeWhile fun ch => ch != '?' && ch != '#'

/-- The query. -/
def query (c : Call) : Text :=
  match (c.target.takeWhile (· != '#')).dropWhile (· != '?') with
  | _ :: query => query
  | [] => []

end Call

/-- The most bytes that may be sent. -/
def maxBodyLength : Nat := 2097152

/-- A call that is turned away. -/
def turnedAway (status : Nat) : Reply := { status, content := .words }

/-- The answer that carries a value and a message. -/
def success (status : Nat) (message : Text) (data : Json) : Reply :=
  { status
    content := .json (.record [("success", .bool true), ("message", .text message),
      ("data", data)]) }

/-- The answer to something that the service refuses. -/
def refused (r : Refusal) : Reply := { status := r.classOf.status, content := .json r.report }

/-- The answer that a result makes. -/
def replyOf {α : Type} (f : α → Reply) : Except Refusal α → Reply
  | .ok a => f a
  | .error e => refused e

/-- What is sent in JSON, or the answer that turns it away. -/
def received {α : Type} (read : Text → Except Request.Objection α) (c : Call) : Except Reply α :=
  if !(c.header? "content-type").any MediaType.isJson then .error (turnedAway 415)
  else if maxBodyLength < Text.byteLength c.body then .error (turnedAway 413)
  else
    match read c.body with
    | .ok a => .ok a
    | .error .malformed => .error (turnedAway 400)
    | .error _ => .error (turnedAway 422)

/-- A number and what there is that many of. -/
def counted (n : Nat) (what : String) : Text := Text.decimal n ++ ' ' :: what.toList

/-! ### The pages -/

/-- The version of the service. -/
def serviceVersion : String := "2.0.0"

/-- That the service runs. -/
def health (now : Instant) : Reply :=
  { status := 200
    content := .json (.record [("success", .bool true), ("message", .str "Server is running fine."),
      ("timestamp", .text (Calendar.timestamp now)), ("version", .str serviceVersion)]) }

/-- What would become of a request. -/
def tryOut (rules : Rules) (s : State) (now : Instant) (c : Call) : Reply :=
  match received Request.parseTrial c with
  | .error reply => reply
  | .ok trial =>
    replyOf
      (fun verdict =>
        let message :=
          if verdict.isAccepted then "Code would be accepted".toList
          else "Code would be rejected with ".toList ++
            counted verdict.failures.length "failure(s)"
        success 200 message verdict.report)
      (rules.preview s trial now)

/-- Submits a revision, of the script `script` or of a new one. -/
def submit (rules : Rules) (s : State) (m : Moment) (script : Option Uuid) (c : Call) :
    State × Reply :=
  match received Request.parse c with
  | .error reply => (s, reply)
  | .ok request =>
    let (s, answer) := rules.submit s ⟨script, request⟩ m
    let reply := replyOf
      (fun receipt : Service.Receipt =>
        match script with
        | none =>
          success 201 ("Script ".toList ++ receipt.record.name ++ " created".toList) receipt.report
        | some _ =>
          success 200 ("Version ".toList ++ receipt.revision.version ++ " accepted".toList)
            receipt.report)
      answer
    (s, reply)

/-- All scripts. -/
def listScripts (s : State) : Reply :=
  let records := s.registry.list
  success 200 (counted records.length "script(s)") (.array (records.map Store.Record.report))

/-- What became of submissions. -/
def listTrail (s : State) (query : Text) : Reply :=
  match queryScript? query with
  | none => turnedAway 400
  | some script =>
    let entries := s.trail.log script
    success 200 (counted entries.length "audit entries")
      (.array (entries.map Store.Entry.report))

/-- The answer that carries code. -/
def scriptReply (code : Text) : Reply := { status := 200, content := .script code }

/-- A page about a script. -/
def readScript (rules : Rules) (s : State) (id : Uuid) : ScriptPage → Reply
  | .record =>
    replyOf (fun r => success 200 ("Script ".toList ++ r.name) r.report) (s.record id)
  | .versions =>
    replyOf
      (fun rs => success 200 (counted rs.length "revision(s)")
        (.array (rs.map Store.Revision.report)))
      (s.revisions id)
  | .code => replyOf scriptReply (rules.latestCode s id)
  | .header => replyOf scriptReply (rules.latestHeader s id)
  | .blanked => replyOf scriptReply (rules.blanked s id)

/-- A page as it is read. -/
def readPage (rules : Rules) (s : State) (now : Instant) (c : Call) : Page → Reply
  | .health => health now
  | .trial => { status := 405 }
  | .scripts => listScripts s
  | .trail => listTrail s c.query
  | .script written page =>
    match scriptId? written with
    | none => turnedAway 400
    | some id => readScript rules s id page

/-- Sends something to a page. -/
def writePage (rules : Rules) (s : State) (m : Moment) (c : Call) : Page → State × Reply
  | .trial => (s, tryOut rules s m.now c)
  | .scripts => submit rules s m none c
  | .script written .versions =>
    match scriptId? written with
    | none => (s, turnedAway 400)
    | some id => submit rules s m (some id) c
  | _ => (s, { status := 405 })

/-! ### Whole answers -/

/-- The methods of a page as a header. -/
def allowHeader (p : Page) : String × Text :=
  ("allow", (String.intercalate "," p.methods).toList)

/-- The header that names the origin of the caller. -/
def originHeaders (o : Origins) (c : Call) : List (String × Text) :=
  ((o.named? (c.header? "origin")).map fun origin =>
    ("access-control-allow-origin", origin)).toList

/-- What browsers are told before they call. -/
def accessHeaders : List (String × Text) :=
  [("access-control-allow-methods", "GET,POST,OPTIONS".toList),
    ("access-control-allow-headers", "content-type,accept".toList),
    ("access-control-max-age", "3600".toList)]

/-- The answer to a call, without what concerns its origin. -/
def answer (rules : Rules) (s : State) (m : Moment) (c : Call) : State × Reply :=
  match Page.ofPath? c.path with
  | none => (s, { status := 404 })
  | some page =>
    match String.ofList c.method, page.isReadable, page.isWritable with
    | "GET", true, _ => (s, readPage rules s m.now c page)
    | "HEAD", true, _ => (s, { readPage rules s m.now c page with bare := true })
    | "POST", _, true => writePage rules s m c page
    | _, _, _ => (s, { status := 405, headers := [allowHeader page] })

/-- Answers a call. -/
def serve (rules : Rules) (o : Origins) (s : State) (m : Moment) (c : Call) : State × Reply :=
  if c.method = "OPTIONS".toList then
    let allow := ((Page.ofPath? c.path).map allowHeader).toList
    (s, { status := 200, headers := originHeaders o c ++ accessHeaders ++ allow })
  else
    let (s, reply) := answer rules s m c
    let headers := originHeaders o c ++ reply.headers
    (s, { reply with headers })

end ScriptGate.Http
