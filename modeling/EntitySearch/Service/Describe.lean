import EntitySearch.Service.Basic
import EntitySearch.Text.Quoted

/-! A description of a service for people who look for errors. -/

set_option autoImplicit false

namespace EntitySearch.Service

def braced (name : String) (fields : List String) : String :=
  name ++ " \x7b " ++ ", ".intercalate fields ++ " \x7d"

def listed (items : List String) : String :=
  "[" ++ ", ".intercalate (items.map Text.quoted) ++ "]"

def flagText (b : Bool) : String := if b then "true" else "false"

def describeDates (s : DateSettings) : String :=
  braced "DateTimeSettings"
    ["utc_offset_seconds: " ++ Number.intText s.utcOffset,
      "local_date_patterns: " ++ listed s.datePatterns,
      "local_date_time_patterns: " ++ listed s.dateTimePatterns,
      "end_of_day_on_between_upper_bound: " ++ flagText s.endOfDay]

def describeCompiler (s : CompilerSettings) : String :=
  braced "CompilerConfig"
    ["date_time: " ++ describeDates s.dates, "like_escape: " ++ Text.quotedChar s.likeEscape]

def describeSettings (s : ServiceSettings) : String :=
  braced "SieveConfig"
    ["debug: " ++ flagText s.debug, "compiler: " ++ describeCompiler s.compiler]

def describeMappers (mappers : Mappers) : String :=
  braced "MapperRegistry"
    ["entities: " ++ listed ((Keyed.keys mappers).mergeSort fun a b => decide (a ≤ b))]

def describe (s : Service) : String :=
  braced "Sieve"
    ["config: " ++ describeSettings s.settings, "mappers: " ++ describeMappers s.mappers, ".."]

end EntitySearch.Service
