/-! Three-valued truth, in which a comparison with null is unknown. -/

set_option autoImplicit false

namespace EntitySearch

abbrev Truth : Type := Option Bool

namespace Truth

def unknown : Truth := none

def and : Truth → Truth → Truth
  | some false, _ => some false
  | some true, b => b
  | none, some false => some false
  | none, _ => none

def or : Truth → Truth → Truth
  | some true, _ => some true
  | some false, b => b
  | none, some true => some true
  | none, _ => none

def not : Truth → Truth
  | some b => some (!b)
  | none => none

end Truth

end EntitySearch
