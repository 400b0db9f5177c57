import ScriptGate.Calendar

/-!
# `ScriptGate.Version.Generated`: versions made from the clock

A script that declares no version can get one from the time of its
submission: `0.0.1.` and the fourteen digits of date and time.
-/

set_option autoImplicit false

namespace ScriptGate.Version

/-- What a generated version begins with. -/
def generatedStem : Text := "0.0.1.".toList

/-- The digits of year, month, day, hour, minute and second. -/
def clockDigits (t : Instant) : Text :=
  let d := Calendar.DateTime.ofInstant t
  Calendar.yearText d.year ++ Calendar.twoDigits d.month ++ Calendar.twoDigits d.day ++
    Calendar.twoDigits d.hour ++ Calendar.twoDigits d.minute ++ Calendar.twoDigits d.second

/-- The version generated at an instant. -/
def generated (t : Instant) : Text := generatedStem ++ clockDigits t

/-- Whether `version` has the form of a generated one. -/
def isGenerated (version : Text) : Bool :=
  match Text.dropStart? generatedStem version with
  | none => false
  | some digits => digits.length == 14 && digits.all Text.isDigit

end ScriptGate.Version
