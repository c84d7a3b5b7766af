import EntitySearch.Compile.Plan
import EntitySearch.Proofs.Renumbering
import EntitySearch.Proofs.Scope

/-! Computations that do the same in every sound scope.

The outcome of a computation in a sound scope is settled by the base; only the
numbers of the relations it meets depend on what was crossed before. Such a
computation is a family over numberings: it crosses the same relations wherever
it runs, and its outcome is a function of their numbers.
-/

set_option autoImplicit false

namespace EntitySearch

open Numbered (renumber)

variable {α β : Type} {b : Base}

/-- What a family of computations does in every sound scope: it crosses `new`, and its outcome is
settled by the numbers. -/
def Runs (b : Base) (new : List String) (g : Numbering → α) (X : Numbering → StateM Scope α) :
    Prop :=
  ∀ (s : Scope) (ν : Numbering), s.Sound b → ν.Of (cross s.crossed new) →
    ∃ t, X ν s = (g ν, t) ∧ t.Sound b ∧ t.crossed = cross s.crossed new

namespace Runs

theorem pure (g : Numbering → α) : Runs b [] g fun ν => Pure.pure (g ν) :=
  fun s _ sound _ => ⟨s, rfl, sound, rfl⟩

theorem bind {X : Numbering → StateM Scope α} {F : Numbering → α → StateM Scope β}
    {new new' : List String} {g : Numbering → α} {k : Numbering → β} (first : Runs b new g X)
    (next : Runs b new' k fun ν => F ν (g ν)) : Runs b (new ++ new') k fun ν => X ν >>= F ν := by
  intro s ν sound numbered
  -- A numbering for both runs numbers what the first one crosses.
  rw [cross_append] at numbered ⊢
  obtain ⟨t, ran, sound', crossed⟩ := first s ν sound (numbered.front (prefix_cross _ _))
  rw [← crossed] at numbered ⊢
  obtain ⟨u, ran', sound'', crossed'⟩ := next t ν sound' numbered
  exact ⟨u, (state_bind ran).trans ran', sound'', crossed'⟩

theorem run {X : StateM Scope α} {new : List String} {g : Numbering → α}
    (h : Runs b new g fun _ => X) {s : Scope} (sound : s.Sound b) :
    ∃ t, (∀ ν : Numbering, ν.Of t.crossed → X s = (g ν, t)) ∧ t.Sound b ∧
      t.crossed = cross s.crossed new := by
  obtain ⟨t, ran, sound', crossed⟩ := h s _ sound (Numbering.of_positions _)
  refine ⟨t, ?_, sound', crossed⟩
  intro ν numbered
  obtain ⟨u, ran', -⟩ := h s ν sound (crossed ▸ numbered)
  obtain rfl : t = u := congrArg Prod.snd (ran.symm.trans ran')
  exact ran'

end Runs

/-- A family of computations that crosses the same relations in every sound scope, with one
outcome up to their numbers; `Q` holds of this outcome. -/
def Uniform (b : Base) (Q : (Numbering → α) → Prop) (X : Numbering → StateM Scope α) : Prop :=
  ∃ new g, Q g ∧ Runs b new g X

/-- Outcomes that fail alike under all numberings, or succeed so that `Q` holds. -/
def Even (Q : (Numbering → α) → Prop) (o : Numbering → Except QueryError α) : Prop :=
  (∃ e, ∀ ν, o ν = .error e) ∨ ∃ g, Q g ∧ ∀ ν, o ν = .ok (g ν)

structure Regular [Numbered α] (P : α → Prop) (g : Numbering → α) : Prop where
  holds : ∀ ν, P (g ν)
  natural : ∀ f ν, renumber f (g ν) = g (f ∘ ν)

namespace Regular

variable [Numbered α] [Numbered β] {P : α → Prop} {Q : β → Prop}

theorem map {g : Numbering → α} {F : α → β} (h : Regular P g)
    (same : ∀ f a, renumber f (F a) = F (renumber f a)) (holds : ∀ a, P a → Q (F a)) :
    Regular Q fun ν => F (g ν) where
  holds ν := holds _ (h.holds ν)
  natural f ν := by rw [same, h.natural]

theorem const {a : α} (holds : P a) (same : ∀ f, renumber f a = a) : Regular P fun _ => a :=
  ⟨fun _ => holds, fun f _ => same f⟩

theorem settled {γ : Type} {g : Numbering → α} {F : α → γ} (h : Regular P g)
    (same : ∀ f a, F (renumber f a) = F a) (ν μ : Numbering) : F (g ν) = F (g μ) := by
  -- With all numbers made one, the outcomes are one.
  have joined : ∀ ν, F (g fun _ => 0) = F (g ν) := by
    intro ν
    rw [← same (fun _ => 0) (g ν), h.natural]
    rfl
  rw [← joined ν, joined μ]

theorem pair {g : Numbering → α} {k : Numbering → β} (first : Regular P g) (second : Regular Q k) :
    Regular (fun a : α × β => P a.1 ∧ Q a.2) fun ν => (g ν, k ν) where
  holds ν := ⟨first.holds ν, second.holds ν⟩
  natural f ν := Prod.ext (first.natural f ν) (second.natural f ν)

theorem weaken {P' : α → Prop} {g : Numbering → α} (h : Regular P g) (weaker : ∀ a, P a → P' a) :
    Regular P' g :=
  ⟨fun ν => weaker _ (h.holds ν), h.natural⟩

theorem none : Regular (fun o : Option α => ∀ a ∈ o, P a) fun _ => .none :=
  ⟨by simp, fun _ _ => rfl⟩

theorem some {g : Numbering → α} (h : Regular P g) :
    Regular (fun o : Option α => ∀ a ∈ o, P a) fun ν => .some (g ν) where
  holds ν _ held := Option.some.inj held ▸ h.holds ν
  natural f ν := congrArg Option.some (h.natural f ν)

section lists
variable {g k : Numbering → List α}

theorem nil : Regular (fun xs : List α => ∀ x ∈ xs, P x) fun _ => [] :=
  ⟨by simp, fun _ _ => rfl⟩

theorem append (first : Regular (fun xs => ∀ x ∈ xs, P x) g)
    (rest : Regular (fun xs => ∀ x ∈ xs, P x) k) :
    Regular (fun xs => ∀ x ∈ xs, P x) fun ν => g ν ++ k ν :=
  (first.pair rest).map (F := fun a => a.1 ++ a.2) (fun _ _ => List.map_append)
    fun _ both x held => (List.mem_append.mp held).elim (both.1 x) (both.2 x)

theorem cons {h : Numbering → α} (first : Regular P h)
    (rest : Regular (fun xs => ∀ x ∈ xs, P x) k) :
    Regular (fun xs => ∀ x ∈ xs, P x) fun ν => h ν :: k ν :=
  (first.pair rest).map (F := fun a => a.1 :: a.2) (fun _ _ => List.map_cons) fun _ both =>
    List.forall_mem_cons.mpr both

theorem flatMap {γ : Type} {g : γ → Numbering → List α} (xs : List γ)
    (h : ∀ x, Regular (fun ys => ∀ y ∈ ys, P y) (g x)) :
    Regular (fun ys => ∀ y ∈ ys, P y) fun ν => xs.flatMap (g · ν) := by
  induction xs with
  | nil => exact .nil
  | cons x rest ih => exact (h x).append ih

theorem isEmpty {P : List α → Prop} (h : Regular P g) :
    (∀ ν, (g ν).isEmpty = true) ∨ ∀ ν, (g ν).isEmpty = false := by
  have same : ∀ ν, (g ν).isEmpty = (g fun _ => 0).isEmpty :=
    fun ν => h.settled (fun _ _ => List.isEmpty_map) ν _
  cases empty : (g fun _ => 0).isEmpty with
  | true => exact .inl fun ν => (same ν).trans empty
  | false => exact .inr fun ν => (same ν).trans empty

end lists

end Regular

instance : Numbered Resolved := ⟨fun f r => { r with field := r.field.renumber f }⟩

theorem Spot.source_renumber (f : Nat → Nat) (ν : Numbering) (p : Spot) :
    (p.source ν).renumber f = p.source (f ∘ ν) := by
  obtain ⟨anchor, type, hops⟩ := p
  cases anchor with
  | none => rfl
  | some d => rfl

/-- An attribute that is found has one type under all numberings. -/
theorem Base.locate_regular {path : String} {g : Numbering → Resolved}
    (h : (b.locate path).2 = .ok g) : ∃ type, Regular (fun r => r.type = type) g := by
  obtain ⟨p, names, type, rfl⟩ := locate_ok h
  refine ⟨type, fun _ => rfl, fun f ν => ?_⟩
  show Resolved.mk ⟨(p.source ν).renumber f, names, _⟩ type = _
  rw [Spot.source_renumber]

namespace Even

variable {Q : (Numbering → α) → Prop}

theorem ok {g : Numbering → α} (h : Q g) : Even Q fun ν => .ok (g ν) :=
  .inr ⟨g, h, fun _ => rfl⟩

theorem error (e : QueryError) : Even Q fun _ => .error e :=
  .inl ⟨e, fun _ => rfl⟩

theorem weaken {Q' : (Numbering → α) → Prop} {o : Numbering → Except QueryError α} (h : Even Q o)
    (weaker : ∀ g, Q g → Q' g) : Even Q' o := by
  rcases h with fails | ⟨g, holds, same⟩
  · exact .inl fails
  · exact .inr ⟨g, weaker g holds, same⟩

theorem of_regular [Numbered α] [Numbered β] {P : α → Prop} {Q : β → Prop} {g : Numbering → α}
    {F : α → Except QueryError β} (h : Regular P g)
    (same : ∀ f a, F (renumber f a) = (F a).map (renumber f))
    (holds : ∀ a b, P a → F a = .ok b → Q b) : Even (Regular Q) fun ν => F (g ν) := by
  have natural : ∀ f ν, F (g (f ∘ ν)) = (F (g ν)).map (renumber f) := by
    intro f ν
    rw [← h.natural, same]
  -- With all numbers made one it shows whether the outcomes are failures.
  have joined : ∀ ν, F (g fun _ => 0) = (F (g ν)).map (renumber fun _ => 0) :=
    natural fun _ => 0
  cases first : F (g fun _ => 0) with
  | error e =>
    refine .inl ⟨e, fun ν => ?_⟩
    have here := joined ν
    rw [first] at here
    dsimp only
    cases there : F (g ν) with
    | error e' =>
      rw [there] at here
      exact congrArg Except.error (Except.error.inj here).symm
    | ok b =>
      rw [there] at here
      cases here
  | ok b =>
    have succeeds : ∀ ν, ∃ b, F (g ν) = .ok b := by
      intro ν
      have here := joined ν
      rw [first] at here
      cases there : F (g ν) with
      | error e =>
        rw [there] at here
        cases here
      | ok b => exact ⟨b, rfl⟩
    choose k found using succeeds
    refine .inr ⟨k, ⟨fun ν => holds _ _ (h.holds ν) (found ν), fun f ν => ?_⟩, found⟩
    have here := natural f ν
    rw [found, found] at here
    exact (Except.ok.inj here).symm

theorem attempted [Numbered α] {P : α → Prop} {o : Numbering → Except QueryError α}
    (h : Even (Regular P) o) :
    Regular (fun xs => ∀ x ∈ xs, P x) fun ν => (o ν).toOption.toList := by
  rcases h with ⟨e, fails⟩ | ⟨g, regular, same⟩
  · simp only [fails]
    exact .nil
  · simp only [same]
    exact .cons regular .nil

theorem const (o : Except QueryError α) : Even (fun g => ∃ a, ∀ ν, g ν = a) fun _ => o := by
  cases o with
  | error e => exact error e
  | ok a => exact ok ⟨a, fun _ => rfl⟩

end Even

namespace Uniform

variable {Q : (Numbering → α) → Prop} {R : (Numbering → β) → Prop}

theorem pure {g : Numbering → α} (h : Q g) : Uniform b Q fun ν => Pure.pure (g ν) :=
  ⟨[], g, h, .pure g⟩

theorem weaken {Q' : (Numbering → α) → Prop} {X : Numbering → StateM Scope α} (h : Uniform b Q X)
    (weaker : ∀ g, Q g → Q' g) : Uniform b Q' X := by
  obtain ⟨new, g, holds, runs⟩ := h
  exact ⟨new, g, weaker g holds, runs⟩

theorem bind {X : Numbering → StateM Scope α} {F : Numbering → α → StateM Scope β}
    (h : Uniform b Q X) (next : ∀ g, Q g → Uniform b R fun ν => F ν (g ν)) :
    Uniform b R fun ν => X ν >>= F ν := by
  obtain ⟨new, g, holds, runs⟩ := h
  obtain ⟨new', k, holds', runs'⟩ := next g holds
  exact ⟨new ++ new', k, holds', runs.bind runs'⟩

theorem andThen {X : Numbering → Resolve α} {F : Numbering → α → Resolve β}
    (h : Uniform b (Even Q) X) (next : ∀ g, Q g → Uniform b (Even R) fun ν => F ν (g ν)) :
    Uniform b (Even R) fun ν => (X ν >>= F ν : Resolve β) := by
  refine bind (X := fun ν => (X ν).run) (F := fun ν => ExceptT.bindCont (F ν)) h fun o even => ?_
  rcases even with ⟨e, fails⟩ | ⟨g, holds, same⟩
  · have stops : (fun ν => ExceptT.bindCont (F ν) (o ν)) =
        fun _ => (Pure.pure (.error e) : StateM Scope _) := by
      funext ν
      rw [fails ν]
      rfl
    exact stops ▸ pure (Even.error e)
  · have goes : (fun ν => ExceptT.bindCont (F ν) (o ν)) = fun ν => F ν (g ν) := by
      funext ν
      rw [same ν]
      rfl
    exact goes ▸ next g holds

theorem ofExcept {o : Numbering → Except QueryError α} (h : Even Q o) :
    Uniform b (Even Q) fun ν => Resolve.ofExcept (o ν) :=
  pure h

theorem ok {g : Numbering → α} (h : Q g) :
    Uniform b (Even Q) fun ν => (Pure.pure (g ν) : Resolve α) :=
  pure (Even.ok h)

theorem throw (e : QueryError) : Uniform b (Even Q) fun _ => (MonadExcept.throw e : Resolve α) :=
  pure (Even.error e)

theorem outcome {X : Numbering → Resolve α} (h : Uniform b (Even Q) X) :
    Uniform b (Even Q) fun ν => (X ν).outcome :=
  h

theorem resolve (path : String) :
    Uniform b (Even fun g => (b.locate path).2 = .ok g) fun _ => Resolve.resolve path := by
  refine ⟨(b.locate path).1, fun ν => (b.locate path).2.map (· ν), ?_, ?_⟩
  · cases located : (b.locate path).2 with
    | error e => exact Even.error e
    | ok g => exact Even.ok rfl
  · intro s ν sound numbered
    obtain ⟨t, ran, rest⟩ := Resolve.resolve_run path sound numbered
    exact ⟨t, ran, rest⟩

theorem get {Q : (Numbering → Except QueryError α) → Prop} {G : Numbering → Scope → Resolve α}
    (same : ∀ ν (s t : Scope), s.identifier = t.identifier → G ν s = G ν t)
    (h : ∀ s : Scope, s.identifier = b.identifier → Uniform b Q fun ν => G ν s) :
    Uniform b Q fun ν => (MonadState.get >>= G ν : Resolve α) := by
  -- The family is read off at one scope and carried over to the others by the identifier.
  let fresh : Scope := { catalog := {}, root := b.root, identifier := b.identifier, types := [] }
  obtain ⟨new, g, holds, runs⟩ := h fresh rfl
  refine ⟨new, g, holds, ?_⟩
  intro s ν sound numbered
  have named : s.identifier = fresh.identifier := congrArg Base.identifier sound.base
  dsimp only
  rw [run_get_bind, same ν s fresh named]
  exact runs s ν sound numbered

theorem run {X : StateM Scope α} (h : Uniform b Q fun _ => X) {s : Scope} (sound : s.Sound b) :
    ∃ g ν t, Q g ∧ X s = (g ν, t) ∧ t.Sound b := by
  obtain ⟨new, g, holds, runs⟩ := h
  obtain ⟨t, ran, sound', -⟩ := runs s _ sound (Numbering.of_positions _)
  exact ⟨g, _, t, holds, ran, sound'⟩

/-- A computation leaves a sound scope that has crossed what was crossed before, and more. -/
theorem leaves {X : StateM Scope α} (h : Uniform b Q fun _ => X) {s t : Scope} {a : α}
    (sound : s.Sound b) (ran : X s = (a, t)) : t.Sound b ∧ s.crossed <+: t.crossed := by
  obtain ⟨new, g, -, runs⟩ := h
  obtain ⟨t', ran', sound', crossed⟩ := runs s _ sound (Numbering.of_positions _)
  obtain ⟨-, rfl⟩ := Prod.mk.inj (ran.symm.trans ran')
  exact ⟨sound', crossed ▸ prefix_cross _ _⟩

theorem again {X : StateM Scope α} (h : Uniform b Q fun _ => X) {s t u : Scope} {a : α}
    (sound : s.Sound b) (ran : X s = (a, t)) (later : u.Sound b)
    (grown : t.crossed <+: u.crossed) :
    ∃ v, X u = (a, v) ∧ v.Sound b ∧ v.crossed = u.crossed := by
  -- One numbering serves both runs: the positions in the larger scope.
  have numbered := Numbering.of_positions u.crossed
  obtain ⟨new, g, -, runs⟩ := h
  obtain ⟨t', ran', -, crossed⟩ := runs s _ sound (Numbering.of_positions _)
  obtain ⟨-, rfl⟩ := Prod.mk.inj (ran.symm.trans ran')
  have known : cross u.crossed new = u.crossed := by
    refine cross_eq_self fun d held => grown.subset ?_
    rw [crossed, mem_cross]
    exact .inr held
  have early : (Numbering.positions u.crossed).Of (cross s.crossed new) :=
    crossed ▸ numbered.front grown
  have late : (Numbering.positions u.crossed).Of (cross u.crossed new) := known.symm ▸ numbered
  obtain ⟨t', ran', -, -⟩ := runs s _ sound early
  obtain ⟨v, again, sound', crossed'⟩ := runs u _ later late
  have same := (Prod.mk.inj (ran.symm.trans ran')).1
  exact ⟨v, same ▸ again, sound', crossed'.trans known⟩

/-- What fails in one sound scope fails in all of them and crosses the same relations. -/
theorem fails {Q : (Numbering → α) → Prop} {X : Resolve α} (h : Uniform b (Even Q) fun _ => X)
    {s t : Scope} {e : QueryError} (sound : s.Sound b) (failed : X s = (.error e, t)) :
    ∃ new, t.crossed = cross s.crossed new ∧ ∀ u : Scope, u.Sound b →
      ∃ v, X u = (.error e, v) ∧ v.Sound b ∧ v.crossed = cross u.crossed new := by
  obtain ⟨new, g, even, runs⟩ := h
  obtain ⟨t', ran, -, crossed⟩ := runs s _ sound (Numbering.of_positions _)
  obtain ⟨failure, rfl⟩ := Prod.mk.inj (failed.symm.trans ran)
  refine ⟨new, crossed, ?_⟩
  intro u sound'
  obtain ⟨v, ran', sound'', crossed'⟩ := runs u _ sound' (Numbering.of_positions _)
  refine ⟨v, ?_, sound'', crossed'⟩
  rcases even with ⟨e', always⟩ | ⟨k, -, never⟩
  · rw [always] at failure ran'
    exact failure ▸ ran'
  · rw [never] at failure
    cases failure

end Uniform

structure Scope.Alike (b : Base) (s t : Scope) : Prop where
  left : s.Sound b
  right : t.Sound b
  crossed : s.crossed = t.crossed

/-- Computations that cannot be told apart from scopes that are alike. -/
def Same (b : Base) (X Y : StateM Scope α) : Prop :=
  ∀ s t, Scope.Alike b s t → (X s).1 = (Y t).1 ∧ Scope.Alike b (X s).2 (Y t).2

namespace Same

theorem of_uniform {Q : (Numbering → α) → Prop} {X : StateM Scope α}
    (h : Uniform b Q fun _ => X) : Same b X X := by
  obtain ⟨new, g, -, runs⟩ := h
  intro s t alike
  obtain ⟨u, ran, sound, crossed⟩ := runs s _ alike.left (Numbering.of_positions _)
  obtain ⟨v, ran', sound', crossed'⟩ := runs t (.positions (cross s.crossed new)) alike.right
    (by rw [← alike.crossed]; exact Numbering.of_positions _)
  dsimp only at ran ran'
  rw [ran, ran']
  exact ⟨rfl, sound, sound', by rw [crossed, crossed', alike.crossed]⟩

theorem bind {X Y : StateM Scope α} {F G : α → StateM Scope β} (h : Same b X Y)
    (next : ∀ a, Same b (F a) (G a)) : Same b (X >>= F) (Y >>= G) := by
  intro s t alike
  obtain ⟨value, alike'⟩ := h s t alike
  show (F (X s).1 (X s).2).1 = (G (Y t).1 (Y t).2).1 ∧
    Scope.Alike b (F (X s).1 (X s).2).2 (G (Y t).1 (Y t).2).2
  rw [value]
  exact next _ _ _ alike'

end Same

end EntitySearch
