/-! Ordered maps.

A map is the list of its entries. Each key stands where it was first put, and
putting it again replaces its value in place.
-/

set_option autoImplicit false

namespace EntitySearch

abbrev Keyed (α : Type) : Type := List (String × α)

namespace Keyed

variable {α β : Type}

def find? : Keyed α → String → Option α
  | [], _ => none
  | (k, v) :: rest, key => if k = key then some v else find? rest key

def has (entries : Keyed α) (key : String) : Bool :=
  entries.any fun entry => entry.1 == key

def put : Keyed α → String → α → Keyed α
  | [], key, value => [(key, value)]
  | (k, v) :: rest, key, value =>
    if k = key then (k, value) :: rest else (k, v) :: put rest key value

def ofEntries (entries : List (String × α)) : Keyed α :=
  entries.foldl (fun done entry => put done entry.1 entry.2) []

def keys (entries : Keyed α) : List String :=
  entries.map (·.1)

theorem find?_put (entries : Keyed α) (key other : String) (value : α) :
    find? (put entries key value) other =
      if key = other then some value else find? entries other := by
  induction entries with
  | nil => simp [put, find?]
  | cons entry rest ih =>
    obtain ⟨k, v⟩ := entry
    by_cases h : k = key <;> by_cases ho : k = other <;> grind [put, find?]

end Keyed

end EntitySearch
