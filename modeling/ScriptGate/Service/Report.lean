import ScriptGate.Service.Submission

/-!
# `ScriptGate.Service.Report`: what the service shows of its state

Records, revisions, entries of the trail and receipts as JSON. The
report of a verdict stands beside the verdict, and the report of a
refusal beside the refusal.
-/

set_option autoImplicit false

namespace ScriptGate

/-- An identifier as a value. -/
def Uuid.report (u : Uuid) : Json := .text u.text

/-- An instant as a value. -/
def Instant.report (t : Instant) : Json := .text (Calendar.timestamp t)

/-- What a review saw of the last revision. -/
def Review.Previous.report (p : Review.Previous) : Json :=
  .record [("version", .text p.version), ("namespace", .optText p.namespaceName),
    ("name", .optText p.name), ("description", .optText p.description)]

namespace Store

/-- A script as users see it. -/
def Record.report (r : Record) : Json :=
  .record [("id", r.id.report), ("kind", .str r.kind.text),
    ("authors", .array (r.authors.map .nat)), ("name", .text r.name),
    ("description", .text r.description), ("version", .text r.version),
    ("namespace", .optText r.namespaceName), ("latestRevisionId", r.latestRevision.report),
    ("createdAt", r.createdAt.report), ("updatedAt", r.updatedAt.report)]

/-- A revision as users see it. -/
def Revision.report (r : Revision) : Json :=
  .record [("id", r.id.report), ("scriptId", r.script.report),
    ("rawCodeId", .text r.rawCode.text), ("rewrittenCodeId", .text r.canonicalCode.text),
    ("version", .text r.version), ("namespace", .optText r.namespaceName),
    ("acceptedAt", r.acceptedAt.report)]

/-- An entry of the trail as users see it. -/
def Entry.report (e : Entry) : Json :=
  .record [("id", e.id.report), ("scriptId", .opt Uuid.report e.script),
    ("revisionId", .opt Uuid.report e.revision), ("authorId", .nat e.author),
    ("action", .str e.action.text), ("version", .optText e.version),
    ("failures", .array (e.failures.map .str)),
    ("corrections", .array (e.corrections.map Review.Correction.report)),
    ("recordedAt", e.recordedAt.report)]

end Store

/-- A receipt as submitters get it. -/
def Service.Receipt.report (r : Service.Receipt) : Json :=
  .record [("script", r.record.report), ("revision", r.revision.report),
    ("corrections", .array (r.corrections.map Review.Correction.report))]

end ScriptGate
