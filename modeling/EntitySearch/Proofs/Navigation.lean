import Mathlib.Data.List.Basic
import EntitySearch.Compile.Path

/-! Navigation without a scope.

Where a dotted path leads depends on the root and on the types alone. A scope
only numbers the relations that paths cross, in the order in which they are
first crossed, and everything it keeps besides follows from these numbers.
-/

set_option autoImplicit false

namespace EntitySearch

theorem state_bind {σ α β : Type} {x : StateM σ α} {f : α → StateM σ β} {s t : σ} {a : α}
    (h : x s = (a, t)) : (x >>= f) s = f a t := by
  show f (x s).1 (x s).2 = _
  rw [h]

section
variable {ε σ α β : Type} {x : ExceptT ε (StateM σ) α} {f : α → ExceptT ε (StateM σ) β} {s t : σ}

theorem run_bind_ok {a : α} (h : x s = (.ok a, t)) : (x >>= f) s = f a t := by
  show (match x s with | (r, u) => ExceptT.bindCont f r u) = _
  rw [h]; rfl

theorem run_bind_error {e : ε} (h : x s = (.error e, t)) : (x >>= f) s = (.error e, t) := by
  show (match x s with | (r, u) => ExceptT.bindCont f r u) = _
  rw [h]; rfl

theorem run_bind_inv {b : β} (h : (x >>= f) s = (.ok b, t)) :
    ∃ a u, x s = (.ok a, u) ∧ f a u = (.ok b, t) := by
  cases first : x s with
  | mk outcome u =>
    cases outcome with
    | error e =>
      rw [run_bind_error first] at h
      cases h
    | ok a => exact ⟨a, u, rfl, (run_bind_ok first).symm.trans h⟩

theorem run_get_bind (f : σ → ExceptT ε (StateM σ) β) : (get >>= f) s = f s s := rfl

theorem run_modify_bind (change : σ → σ) (f : PUnit → ExceptT ε (StateM σ) β) :
    (modify change >>= f) s = f ⟨⟩ (change s) := rfl

theorem run_pure (a : α) : (pure a : ExceptT ε (StateM σ) α) s = (.ok a, s) := rfl

theorem run_throw (e : ε) : (throw e : ExceptT ε (StateM σ) α) s = (.error e, s) := rfl

end

section
variable {α β : Type} {P : α → Prop} {Q : β → Prop}

/-- Whatever scope it starts in, a computation comes to something with the property. -/
def Yields (P : α → Prop) (X : StateM Scope α) : Prop := ∀ s, P (X s).1

/-- A computation comes to something with the property unless it fails. -/
def Gives (P : α → Prop) (X : Resolve α) : Prop := Yields (fun o => ∀ a ∈ o.toOption, P a) X.outcome

namespace Yields

theorem any (X : StateM Scope α) : Yields (fun _ => True) X := fun _ => trivial

theorem pure {a : α} (h : P a) : Yields P (Pure.pure a) := fun _ => h

theorem bind {X : StateM Scope α} {F : α → StateM Scope β} (first : Yields P X)
    (next : ∀ a, P a → Yields Q (F a)) : Yields Q (X >>= F) :=
  fun s => next _ (first s) _

end Yields

namespace Gives

theorem any (X : Resolve α) : Gives (fun _ => True) X := fun _ _ _ => trivial

theorem pure {a : α} (h : P a) : Gives P (Pure.pure a) := by
  rintro s _ ⟨⟩
  exact h

theorem bind {X : Resolve α} {F : α → Resolve β} (first : Gives P X)
    (next : ∀ a, P a → Gives Q (F a)) : Gives Q (X >>= F) := by
  intro s
  have here := first s
  cases ran : X s with
  | mk outcome t =>
    rw [Resolve.outcome, ExceptT.run, ran] at here
    cases outcome with
    | error e =>
      rw [Resolve.outcome, ExceptT.run, run_bind_error ran]
      exact nofun
    | ok a =>
      rw [Resolve.outcome, ExceptT.run, run_bind_ok ran]
      exact next a (here a rfl) t

end Gives

end

namespace Catalog

def definition (c : Catalog) (name : String) : Except QueryError Entity :=
  match Keyed.find? c.entities name, c.source with
  | some e, _ => .ok e
  | none, none => .error (.unknownEntity name)
  | none, some source =>
    match source name with
    | .error fault => .error (.invalidSchema fault)
    | .ok none => .error (.unknownEntity name)
    | .ok (some e) => .ok e

/-- Asking for a type may load it, which changes no definition. -/
theorem entity_run (name : String) (c : Catalog) :
    ∃ d : Catalog, Catalog.entity name c = (c.definition name, d) ∧
      d.definition = c.definition := by
  simp only [Catalog.entity, run_get_bind]
  cases held : Keyed.find? c.entities name with
  | some e => exact ⟨c, by simp [definition, held, run_pure], rfl⟩
  | none =>
    cases supply : c.source with
    | none => exact ⟨c, by simp [definition, held, supply, run_throw], rfl⟩
    | some source =>
      let asked : Catalog := { c with asked := name :: c.asked }
      simp only [load, run_modify_bind]
      cases answer : source name with
      | error fault =>
        exact ⟨asked, by simp [definition, held, supply, answer, run_throw, asked], rfl⟩
      | ok found =>
        cases found with
        | none => exact ⟨asked, by simp [definition, held, supply, answer, run_throw, asked], rfl⟩
        | some e =>
          refine ⟨{ asked with entities := Keyed.put c.entities name e },
            by simp [definition, held, supply, answer, run_modify_bind, run_pure, asked], ?_⟩
          funext other
          by_cases same : name = other
          · subst same
            simp [definition, Keyed.find?_put, held, supply, answer, asked]
          · simp [definition, Keyed.find?_put, same, supply, asked]

end Catalog

/-- What resolving paths depends on and leaves as it is. -/
structure Base where
  definition : String → Except QueryError Entity
  root : Entity
  identifier : String
  /-- The definitions of the catalog, which a scope of its own copies may know better. -/
  catalog : String → Except QueryError Entity

abbrev Numbering : Type := String → Nat

/-- Where a prefix of a path leads, by the dotted path of the last relation crossed. -/
structure Spot where
  anchor : Option String
  type : String
  hops : List String

namespace Spot

def source (ν : Numbering) (p : Spot) : RowSource :=
  p.anchor.elim .root fun dotted => .join (ν dotted)

def place (ν : Numbering) (p : Spot) : Place :=
  ⟨p.source ν, p.type, p.hops⟩

def through (path dotted segment : String) (p : Spot) : FieldType → Except QueryError Spot
  | .embedded target | .compositeKey target => .ok ⟨p.anchor, target, p.hops ++ [segment]⟩
  | .relation target _ => .ok ⟨some dotted, target, []⟩
  | type => .error (.unresolvable path (.notNavigable segment type))

theorem source_congr {ν μ : Numbering} {p : Spot} (h : ∀ d ∈ p.anchor, ν d = μ d) :
    p.source ν = p.source μ := by
  obtain ⟨anchor, type, hops⟩ := p
  cases anchor with
  | none => rfl
  | some d => simp [source, h d rfl]

theorem place_congr {ν μ : Numbering} {p : Spot} (h : ∀ d ∈ p.anchor, ν d = μ d) :
    p.place ν = p.place μ := by
  simp only [place, source_congr h]

end Spot

namespace Base

def rootSpot (b : Base) : Spot := ⟨none, b.root.name, []⟩

def attributeType (b : Base) (type name : String) : Except QueryError FieldType :=
  match b.definition type with
  | .error e => .error e
  | .ok e =>
    match e.field? name with
    | some field => .ok field.type
    | none => .error (.unknownAttribute type name)

def step (b : Base) (path dotted : String) (p : Spot) (segment : String) : Except QueryError Spot :=
  (b.attributeType p.type segment).bind (p.through path dotted segment)

/-- The anchors of the spots that segments lead through, and the last of these spots. -/
def walk (b : Base) (path : String) (walked : List String) (p : Spot) :
    List String → List String × Except QueryError Spot
  | [] => ([], .ok p)
  | segment :: rest =>
    match b.step path (Text.dotted (walked ++ [segment])) p segment with
    | .error e => ([], .error e)
    | .ok next =>
      let (anchors, result) := b.walk path (walked ++ [segment]) next rest
      (next.anchor.toList ++ anchors, result)

inductive Reaches (b : Base) : List String → Spot → Prop
  | root : Reaches b [] b.rootSpot
  | step {path : String} {walked : List String} {p next : Spot} {segment : String} :
    Reaches b walked p → b.step path (Text.dotted (walked ++ [segment])) p segment = .ok next →
    Reaches b (walked ++ [segment]) next

theorem step_path {b : Base} {path other dotted segment : String} {p next : Spot}
    (h : b.step path dotted p segment = .ok next) : b.step other dotted p segment = .ok next := by
  simp only [step, Except.bind] at h ⊢
  cases found : b.attributeType p.type segment with
  | error e => simp [found] at h
  | ok type => cases type <;> simp_all [Spot.through]

theorem Reaches.unique {b : Base} {walked : List String} {p q : Spot}
    (first : b.Reaches walked p) (second : b.Reaches walked q) : p = q := by
  induction first generalizing q with
  | root =>
    generalize empty : ([] : List String) = other at second
    cases second with
    | root => rfl
    | step => simp at empty
  | @step path walked p next segment _ taken ih =>
    generalize whole : walked ++ [segment] = other at second
    cases second with
    | root => simp at whole
    | @step _ walked' p' _ segment' before taken' =>
      obtain ⟨rfl, last⟩ := List.append_inj' whole rfl
      obtain ⟨rfl⟩ := List.singleton_inj.mp last
      obtain rfl := ih before
      exact Except.ok.inj (taken.symm.trans (step_path taken'))

theorem Reaches.last {b : Base} {walked : List String} {segment : String} {p q : Spot}
    (reached : b.Reaches (walked ++ [segment]) q) (before : b.Reaches walked p) (path : String) :
    b.step path (Text.dotted (walked ++ [segment])) p segment = .ok q := by
  generalize whole : walked ++ [segment] = other at reached
  cases reached with
  | root => simp at whole
  | @step _ walked' p' _ segment' before' taken =>
    obtain ⟨rfl, last⟩ := List.append_inj' whole rfl
    obtain ⟨rfl⟩ := List.singleton_inj.mp last
    obtain rfl := before.unique before'
    exact step_path taken

end Base

end EntitySearch
