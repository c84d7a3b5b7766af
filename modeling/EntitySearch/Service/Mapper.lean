import EntitySearch.Value.Basic

/-! Mappers turn the records of an entity into what callers are to see. -/

set_option autoImplicit false

namespace EntitySearch

abbrev Mapper : Type := Record → Except String Record

abbrev Mappers : Type := Keyed Mapper

namespace Mapper

def sequence (mappers : List Mapper) : Mapper := fun r =>
  mappers.foldlM (fun r mapper => mapper r) r

def reject (reason : String) : Mapper := fun _ => .error reason

def rejectId (id : Int) : Mapper := fun r =>
  match Keyed.find? r "id" with
  | some (.int i) => if i = id then .error ("id " ++ Number.intText id) else .ok r
  | _ => .ok r

def keep (keys : List String) : Mapper := fun r =>
  .ok (r.filter fun entry => keys.contains entry.1)

def drop (keys : List String) : Mapper := fun r =>
  .ok (r.filter fun entry => !keys.contains entry.1)

def label (text : String) : Mapper := fun r =>
  .ok (Keyed.put r "label" (.string text))

end Mapper

end EntitySearch
