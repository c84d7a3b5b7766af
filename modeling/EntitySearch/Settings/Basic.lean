import EntitySearch.Calendar.Pattern

/-! Settings of reading dates, of compiling and of the service. -/

set_option autoImplicit false

namespace EntitySearch

def isoDate : String := "%Y-%m-%d"

def isoDateTime : String := "%Y-%m-%dT%H:%M:%S%.f"

def legacyDateTime : String := "%Y-%m-%d %H:%M:%S"

structure DateSettings where
  /-- Seconds east of UTC for values without an offset. -/
  utcOffset : Int := 0
  datePatterns : List String := [isoDate, "%d/%m/%Y"]
  dateTimePatterns : List String :=
    [isoDateTime, "%Y-%m-%d %H:%M:%S", "%d/%m/%Y %H:%M:%S"]
  /-- Move a date that ends a range of timestamps to the end of its day. -/
  endOfDay : Bool := true
  deriving DecidableEq, Repr

namespace DateSettings

/-- A pattern and, after it, others that are not there yet. -/
def leading (iso : String) (patterns : List String) : List String :=
  patterns.foldl (fun all p => if all.contains p then all else all ++ [p]) [iso]

def withDatePatterns (s : DateSettings) (patterns : List String) : DateSettings :=
  { s with datePatterns := leading isoDate patterns }

def withDateTimePatterns (s : DateSettings) (patterns : List String) : DateSettings :=
  { s with dateTimePatterns := leading isoDateTime patterns }

/-- The offset in use; one of a day or more falls back to UTC. -/
def offset (s : DateSettings) : Int :=
  if -86400 < s.utcOffset ∧ s.utcOffset < 86400 then s.utcOffset else 0

end DateSettings

structure CompilerSettings where
  dates : DateSettings := {}
  /-- Escape character of text patterns. -/
  likeEscape : Char := '\\'
  deriving DecidableEq, Repr

structure ServiceSettings where
  debug : Bool := false
  compiler : CompilerSettings := {}
  deriving DecidableEq, Repr

end EntitySearch
