import EntitySearch.Json.Parts
import EntitySearch.Json.Writer
import EntitySearch.Settings.Basic

/-! Settings documents. Absent keys keep their defaults. -/

set_option autoImplicit false

namespace EntitySearch

open RawJson

def char? : RawJson → Option Char
  | .string (some s) =>
    match s.toList with
    | [c] => some c
    | _ => none
  | _ => none

namespace DateSettings

def ofRaw? (room : Nat) (raw : RawJson) : Option DateSettings := do
  let parts ← raw.parts? [⟨"utc_offset_seconds", []⟩, ⟨"local_date_patterns", []⟩,
    ⟨"local_date_time_patterns", []⟩, ⟨"end_of_day_on_between_upper_bound", []⟩] room
  let texts := list? (room - 1) fun _ => string?
  let base : DateSettings := {}
  let utcOffset ←
    defaulted? parts "utc_offset_seconds" base.utcOffset (int? (-Int.pow 2 31) (Int.pow 2 31 - 1))
  let datePatterns ← defaulted? parts "local_date_patterns" base.datePatterns texts
  let dateTimePatterns ← defaulted? parts "local_date_time_patterns" base.dateTimePatterns texts
  let endOfDay ← defaulted? parts "end_of_day_on_between_upper_bound" base.endOfDay bool?
  return { utcOffset, datePatterns, dateTimePatterns, endOfDay }

def toJson (s : DateSettings) : Json :=
  .object
    [("utc_offset_seconds", .int s.utcOffset),
      ("local_date_patterns", .array (s.datePatterns.map .string)),
      ("local_date_time_patterns", .array (s.dateTimePatterns.map .string)),
      ("end_of_day_on_between_upper_bound", .bool s.endOfDay)]

end DateSettings

namespace CompilerSettings

def ofRaw? (room : Nat) (raw : RawJson) : Option CompilerSettings := do
  let parts ← raw.parts? [⟨"date_time", []⟩, ⟨"like_escape", []⟩] room
  let base : CompilerSettings := {}
  let dates ← defaulted? parts "date_time" base.dates (DateSettings.ofRaw? (room - 1))
  let likeEscape ← defaulted? parts "like_escape" base.likeEscape char?
  return { dates, likeEscape }

def read? (text : String) : Option CompilerSettings :=
  (Json.readText? text).bind (ofRaw? Json.nestingRoom)

def toJson (s : CompilerSettings) : Json :=
  .object [("date_time", s.dates.toJson), ("like_escape", .string (String.singleton s.likeEscape))]

end CompilerSettings

namespace ServiceSettings

def ofRaw? (room : Nat) (raw : RawJson) : Option ServiceSettings := do
  let parts ← raw.parts? [⟨"debug", []⟩, ⟨"compiler", []⟩] room
  let base : ServiceSettings := {}
  let debug ← defaulted? parts "debug" base.debug bool?
  let compiler ← defaulted? parts "compiler" base.compiler (CompilerSettings.ofRaw? (room - 1))
  return { debug, compiler }

def read? (text : String) : Option ServiceSettings :=
  (Json.readText? text).bind (ofRaw? Json.nestingRoom)

end ServiceSettings

end EntitySearch
