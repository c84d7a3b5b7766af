import EntitySearch.Coercion
import EntitySearch.Proofs.DateText
import EntitySearch.Settings.Document

/-! Dates in the ISO form.

Settings that are built keep the ISO patterns in front of all others. Documents
are taken as they are, so that settings read from one have the ISO patterns in
front exactly if it names no others there. With the ISO pattern in front, every
date in the ISO form is read as the date it is.
-/

set_option autoImplicit false

namespace EntitySearch

namespace DateSettings

structure IsoFirst (s : DateSettings) : Prop where
  dates : s.datePatterns.head? = some isoDate
  dateTimes : s.dateTimePatterns.head? = some isoDateTime

inductive Built : DateSettings → Prop
  | default : Built {}
  | offset {s : DateSettings} (seconds : Int) : Built s → Built { s with utcOffset := seconds }
  | datePatterns {s : DateSettings} (patterns : List String) : Built s →
    Built (s.withDatePatterns patterns)
  | dateTimePatterns {s : DateSettings} (patterns : List String) : Built s →
    Built (s.withDateTimePatterns patterns)
  | endOfDay {s : DateSettings} (enabled : Bool) : Built s → Built { s with endOfDay := enabled }

theorem leading_head (iso : String) (patterns : List String) :
    (leading iso patterns).head? = some iso := by
  have kept : ∀ all : List String, all.head? = some iso →
      (patterns.foldl (fun all p => if all.contains p then all else all ++ [p]) all).head? =
        some iso := by
    induction patterns with
    | nil => exact fun _ first => first
    | cons p rest ih =>
      intro all first
      rw [List.foldl_cons]
      split
      · exact ih all first
      · refine ih _ ?_
        rw [List.head?_append, first]
        rfl
  exact kept [iso] rfl

theorem Built.isoFirst {s : DateSettings} (built : Built s) : s.IsoFirst := by
  induction built with
  | default => exact ⟨rfl, rfl⟩
  | offset _ _ ih | endOfDay _ _ ih => exact ⟨ih.dates, ih.dateTimes⟩
  | datePatterns patterns _ ih => exact ⟨leading_head _ _, ih.dateTimes⟩
  | dateTimePatterns patterns _ ih => exact ⟨ih.dates, leading_head _ _⟩

def given? (room : Nat) (raw : RawJson) (key : String) : Option (List String) := do
  let parts ← raw.parts? [⟨"utc_offset_seconds", []⟩, ⟨"local_date_patterns", []⟩,
    ⟨"local_date_time_patterns", []⟩, ⟨"end_of_day_on_between_upper_bound", []⟩] room
  RawJson.list? (room - 1) (fun _ => RawJson.string?) (← Keyed.find? parts key)

/-- Lists of patterns by their keys, of which those given begin with the ISO pattern. -/
structure KeepsIso (given : String → Option (List String)) : Prop where
  dates : ∀ patterns ∈ given "local_date_patterns", patterns.head? = some isoDate
  dateTimes : ∀ patterns ∈ given "local_date_time_patterns", patterns.head? = some isoDateTime

theorem defaulted?_eq_some {α : Type} {parts : RawJson.Parts} {key : String} {default v : α}
    {read : RawJson → Option α} (found : RawJson.defaulted? parts key default read = some v) :
    v = ((Keyed.find? parts key).bind read).getD default := by
  rw [RawJson.defaulted?] at found
  split at found
  · next given =>
    rw [given, Option.bind_some, found]
    rfl
  · next absent =>
    rw [absent]
    exact (Option.some.inj found).symm

/-- The lists of patterns are those given, or the default ones where none is. -/
structure Follows (given : String → Option (List String)) (s : DateSettings) : Prop where
  dates : s.datePatterns = (given "local_date_patterns").getD (datePatterns {})
  dateTimes : s.dateTimePatterns = (given "local_date_time_patterns").getD (dateTimePatterns {})

theorem ofRaw?_follows {room : Nat} {raw : RawJson} {s : DateSettings}
    (read : ofRaw? room raw = some s) : Follows (given? room raw) s := by
  simp only [ofRaw?, Option.bind_eq_bind, Option.bind_eq_some_iff, Option.pure_def,
    Option.some.injEq] at read
  obtain ⟨parts, split, _, -, dates, foundDates, dateTimes, foundDateTimes, _, -, rfl⟩ := read
  constructor
  all_goals simp only [given?, split, Option.bind_eq_bind, Option.bind_some]
  · exact defaulted?_eq_some foundDates
  · exact defaulted?_eq_some foundDateTimes

/-- Settings within others follow what is given within what is given there. -/
theorem Follows.of_defaulted {α : Type} {parts : RawJson.Parts} {key : String} {default v : α}
    {read : RawJson → Option α} {given : RawJson → String → Option (List String)}
    (dates : α → DateSettings) (found : RawJson.defaulted? parts key default read = some v)
    (each : ∀ raw v, read raw = some v → Follows (given raw) (dates v))
    (base : Follows (fun _ => none) (dates default)) :
    Follows (fun list => (Keyed.find? parts key).bind fun raw => given raw list) (dates v) := by
  rw [RawJson.defaulted?] at found
  cases part : Keyed.find? parts key with
  | some raw =>
    rw [part] at found
    exact each raw v found
  | none =>
    rw [part] at found
    exact Option.some.inj found ▸ base

theorem head?_getD {given : Option (List String)} {default : List String} {iso : String}
    (first : default.head? = some iso) :
    (given.getD default).head? = some iso ↔ ∀ patterns ∈ given, patterns.head? = some iso := by
  cases given <;> simp [first]

theorem Follows.isoFirst_iff {given : String → Option (List String)} {s : DateSettings}
    (h : Follows given s) : s.IsoFirst ↔ KeepsIso given := by
  constructor
  · rintro ⟨dates, dateTimes⟩
    rw [h.dates, head?_getD rfl] at dates
    rw [h.dateTimes, head?_getD rfl] at dateTimes
    exact ⟨dates, dateTimes⟩
  · rintro ⟨dates, dateTimes⟩
    constructor
    · rwa [h.dates, head?_getD rfl]
    · rwa [h.dateTimes, head?_getD rfl]

end DateSettings

namespace CompilerSettings

def given? (room : Nat) (raw : RawJson) (key : String) : Option (List String) := do
  let parts ← raw.parts? [⟨"date_time", []⟩, ⟨"like_escape", []⟩] room
  DateSettings.given? (room - 1) (← Keyed.find? parts "date_time") key

theorem ofRaw?_follows {room : Nat} {raw : RawJson} {c : CompilerSettings}
    (read : ofRaw? room raw = some c) : DateSettings.Follows (given? room raw) c.dates := by
  simp only [ofRaw?, Option.bind_eq_bind, Option.bind_eq_some_iff, Option.pure_def,
    Option.some.injEq] at read
  obtain ⟨parts, split, dates, found, _, -, rfl⟩ := read
  have given : given? room raw = fun key => (Keyed.find? parts "date_time").bind
      fun dates => DateSettings.given? (room - 1) dates key := by
    funext key
    rw [given?, split]
    rfl
  exact given ▸ DateSettings.Follows.of_defaulted id found
    (fun _ _ => DateSettings.ofRaw?_follows) ⟨rfl, rfl⟩

def listed? (text : String) (key : String) : Option (List String) :=
  (Json.readText? text).bind fun raw => given? Json.nestingRoom raw key

theorem read?_follows {text : String} {c : CompilerSettings} (read : read? text = some c) :
    DateSettings.Follows (listed? text) c.dates := by
  obtain ⟨raw, parsed, read⟩ := Option.bind_eq_some_iff.mp read
  have listed : listed? text = given? Json.nestingRoom raw := by
    funext key
    rw [listed?, parsed, Option.bind_some]
  exact listed ▸ ofRaw?_follows read

end CompilerSettings

namespace ServiceSettings

def given? (room : Nat) (raw : RawJson) (key : String) : Option (List String) := do
  let parts ← raw.parts? [⟨"debug", []⟩, ⟨"compiler", []⟩] room
  CompilerSettings.given? (room - 1) (← Keyed.find? parts "compiler") key

theorem ofRaw?_follows {room : Nat} {raw : RawJson} {s : ServiceSettings}
    (read : ofRaw? room raw = some s) :
    DateSettings.Follows (given? room raw) s.compiler.dates := by
  simp only [ofRaw?, Option.bind_eq_bind, Option.bind_eq_some_iff, Option.pure_def,
    Option.some.injEq] at read
  obtain ⟨parts, split, _, -, compiler, found, rfl⟩ := read
  have given : given? room raw = fun key => (Keyed.find? parts "compiler").bind
      fun compiler => CompilerSettings.given? (room - 1) compiler key := by
    funext key
    rw [given?, split]
    rfl
  exact given ▸ DateSettings.Follows.of_defaulted CompilerSettings.dates found
    (fun _ _ => CompilerSettings.ofRaw?_follows) ⟨rfl, rfl⟩

def listed? (text : String) (key : String) : Option (List String) :=
  (Json.readText? text).bind fun raw => given? Json.nestingRoom raw key

theorem read?_follows {text : String} {c : ServiceSettings} (read : read? text = some c) :
    DateSettings.Follows (listed? text) c.compiler.dates := by
  obtain ⟨raw, parsed, read⟩ := Option.bind_eq_some_iff.mp read
  have listed : listed? text = given? Json.nestingRoom raw := by
    funext key
    rw [listed?, parsed, Option.bind_some]
  exact listed ▸ ofRaw?_follows read

end ServiceSettings

namespace Coercion

open Calendar (dated)
open Number (Digits valueOf)

variable {y m d : List Char}

theorem read_string {s : DateSettings} {r : Reading} {type : ScalarType} {text : String} {v : Value}
    (found : scalar? s r type text = some v) : read s r (.scalar type) (.string text) = .ok v := by
  have present : (Json.string text).isNull = false := rfl
  rw [read, present, if_neg Bool.false_ne_true]
  simp only [literalText?, ofText?, found]

/-- With the ISO pattern in front, a date in the ISO form is read as the date it is. -/
theorem read_isoDate {s : DateSettings} (first : s.datePatterns.head? = some isoDate)
    (year : Digits 4 y) (month : Digits 2 m) (day : Digits 2 d) {date : Date}
    (named : Date.ofMonthDay? (valueOf y) (valueOf m) (valueOf d) = some date) (r : Reading) :
    read s r (.scalar .localDate) (.string (String.ofList (dated y m d))) = .ok (.date date) := by
  have found : localDate? s (String.ofList (dated y m d)) = some date := by
    obtain ⟨others, patterns⟩ := List.head?_eq_some_iff.mp first
    rw [localDate?, patterns, List.findSome?_cons, Calendar.readDate?_iso year month day named]
  apply read_string
  have trimmed := Text.trim_of_solid (Calendar.dated_solid year month day)
  simp only [scalar?, trimmed, found, Option.map_some]

end Coercion

namespace DateSettings

open Number (Digits valueOf)

/-- Settings that are built have the ISO patterns in front, settings of a document exactly if the
document keeps them there; and with the ISO pattern in front, every date in the ISO form is read as
the date it is, whatever patterns follow. -/
theorem iso_dates (s : DateSettings) :
    (Built s → s.IsoFirst) ∧
    (∀ text c, CompilerSettings.read? text = some c → c.dates = s →
      (s.IsoFirst ↔ KeepsIso (CompilerSettings.listed? text))) ∧
    (∀ text c, ServiceSettings.read? text = some c → c.compiler.dates = s →
      (s.IsoFirst ↔ KeepsIso (ServiceSettings.listed? text))) ∧
    (s.IsoFirst → ∀ y m d, Digits 4 y → Digits 2 m → Digits 2 d →
      ∀ date, Date.ofMonthDay? (valueOf y) (valueOf m) (valueOf d) = some date →
        ∀ r, Coercion.read s r (.scalar .localDate)
          (.string (String.ofList (Calendar.dated y m d))) = .ok (.date date)) := by
  refine ⟨Built.isoFirst, fun text c read same => ?_, fun text c read same => ?_,
    fun first y m d year month day date named r => ?_⟩
  · exact same ▸ (CompilerSettings.read?_follows read).isoFirst_iff
  · exact same ▸ (ServiceSettings.read?_follows read).isoFirst_iff
  · exact Coercion.read_isoDate first.dates year month day named r

namespace Sample

def pointed : DateSettings := withDatePatterns {} ["%d.%m.%Y"]

def swapped : String := "\x7b\"date_time\": \x7b\"local_date_patterns\": [\"%Y-%d-%m\"]\x7d\x7d"

end Sample

theorem iso_dates_pointed :
    Built Sample.pointed ∧ Sample.pointed.IsoFirst ∧
      Coercion.read Sample.pointed (.verbatim .eq) (.scalar .localDate)
        (.string "2024-03-05") = .ok (.date ⟨738949⟩) := by
  have built : Built Sample.pointed := .datePatterns _ .default
  have first := (iso_dates Sample.pointed).1 built
  have year : Digits 4 ['2', '0', '2', '4'] := ⟨rfl, List.all_eq_true.mp rfl⟩
  have month : Digits 2 ['0', '3'] := ⟨rfl, List.all_eq_true.mp rfl⟩
  have day : Digits 2 ['0', '5'] := ⟨rfl, List.all_eq_true.mp rfl⟩
  exact ⟨built, first, (iso_dates Sample.pointed).2.2.2 first _ _ _ year month day _ (by decide) _⟩

/-- The document is taken as it is, and with it a date in the ISO form is read as another. -/
theorem iso_dates_swapped :
    ∃ c, CompilerSettings.read? Sample.swapped = some c ∧ ¬c.dates.IsoFirst ∧
      Date.ofMonthDay? 2024 3 5 = some ⟨738949⟩ ∧
      Coercion.read c.dates (.verbatim .eq) (.scalar .localDate) (.string "2024-03-05") =
        .ok (.date ⟨739008⟩) := by
  refine ⟨{ dates := { datePatterns := ["%Y-%d-%m"] } }, by decide +kernel, ?_, by decide, rfl⟩
  rintro ⟨dates, -⟩
  exact absurd dates (by decide)

end DateSettings

end EntitySearch
