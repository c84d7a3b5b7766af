import EntitySearch.Proofs.Paging

/-! Walks through the pages of a listing.

Every page is asked for by the last record of the page before. A walk ends, and
its pages together are the listing.
-/

set_option autoImplicit false

namespace EntitySearch

namespace SortKey

def found {b : Base} (k : SortKey b) (d : Direction) (joins : List Join) (filters : List Predicate)
    (stored : List Record) : List Record :=
  (Plan.listing b joins filters (k.order d) none none).found stored

variable {settings : CompilerSettings} {entity : String} {catalog loaded : Catalog} {s t : Scope}
  {k : SortKey s.base} {conditions : Keyed Condition} {filters : List Predicate} {tables : Tables}
  {stored : List Record}

theorem results_page (started : Scope.start entity catalog = (.ok s, loaded))
    (filtered : Filter.all settings conditions s = (filters, t)) (sound : t.Sound s.base)
    (records : tables.records s.root.name = stored) (d : Direction) (size : Option Nat)
    (lists : k.Lists stored) :
    { Criteria.listing entity conditions k.name d with pageSize := size }.results settings catalog
        tables =
      .ok (.entities (size.elim (k.found d t.joins filters stored)
        (k.found d t.joins filters stored).take)) := by
  have plan := k.inScope_page d entity size filtered sound
  have serves := Plan.inScope_serves settings
    { Criteria.listing entity conditions k.name d with pageSize := size }
    (Scope.start_sound started)
  subst records
  rw [Criteria.results_eq tables started, plan,
    Plan.execute_listing tables (plan ▸ serves.total) lists.sorts]
  rfl

theorem results_behind (started : Scope.start entity catalog = (.ok s, loaded))
    (filtered : Filter.all settings conditions s = (filters, t)) (sound : t.Sound s.base)
    (records : tables.records s.root.name = stored) (d : Direction) (n : Nat)
    (lists : k.Lists stored) {last : Record} (held : last ∈ stored) :
    (((Criteria.listing entity conditions k.name d).paged n).behind k.name d s.base.identifier
        last).results settings catalog tables =
      .ok (.entities (((k.found d t.joins filters stored).filter
        fun r => k.compare d last r == .lt).take n)) := by
  have fits := lists.fits last held
  have plan := k.inScope_behind d entity n fits.value fits.id filtered sound
  have serves := Plan.inScope_serves settings
    (((Criteria.listing entity conditions k.name d).paged n).behind k.name d s.base.identifier last)
    (Scope.start_sound started)
  subst records
  rw [Criteria.results_eq tables started, plan,
    Plan.execute_listing tables (plan ▸ serves.total) lists.sorts, found, ← lists.found_behind held]
  rfl

/-- The page behind a record of the listing starts where the record stands. -/
theorem results_after (started : Scope.start entity catalog = (.ok s, loaded))
    (filtered : Filter.all settings conditions s = (filters, t)) (sound : t.Sound s.base)
    (records : tables.records s.root.name = stored) (d : Direction) (n : Nat)
    (lists : k.Lists stored) (front : List Record) (last : Record) (rest : List Record)
    (split : k.found d t.joins filters stored = front ++ last :: rest) :
    (((Criteria.listing entity conditions k.name d).paged n).behind k.name d s.base.identifier
        last).results settings catalog tables = .ok (.entities (rest.take n)) := by
  have subset : front ++ last :: rest ⊆ stored := by
    intro r held
    rw [← split] at held
    exact (lists.mem_found.mp held).1
  have sorted : (front ++ last :: rest).Pairwise fun a c => k.compare d a c = .lt := by
    rw [← split]
    exact lists.found_sorted
  rw [results_behind started filtered sound records d n lists (subset (by simp)), split,
    lists.filter_after sorted subset]

end SortKey

namespace Criteria

variable {settings : CompilerSettings} {catalog : Catalog} {tables : Tables}

/-- Pages read one after the other, each asked for by the last record of the page before, until
one is empty. -/
inductive Walk (settings : CompilerSettings) (catalog : Catalog) (tables : Tables)
    (next : Record → Criteria) : Criteria → List (List Record) → Prop
  | done {c : Criteria} : c.results settings catalog tables = .ok (.entities []) →
    Walk settings catalog tables next c []
  | page {c : Criteria} {page : List Record} {last : Record} {pages : List (List Record)} :
    c.results settings catalog tables = .ok (.entities page) → page.getLast? = some last →
    Walk settings catalog tables next (next last) pages →
    Walk settings catalog tables next c (page :: pages)

/-- When every record is followed by the page behind it, a walk runs through what is left. -/
theorem Walk.of_pages {next : Record → Criteria} {whole : List Record} {n : Nat} (pos : 1 ≤ n)
    (later : ∀ front last rest, whole = front ++ last :: rest →
      (next last).results settings catalog tables = .ok (.entities (rest.take n)))
    (count : Nat) (front rest : List Record) (split : whole = front ++ rest)
    (bound : rest.length ≤ count) (c : Criteria)
    (first : c.results settings catalog tables = .ok (.entities (rest.take n))) :
    ∃ pages, Walk settings catalog tables next c pages ∧ pages.flatten = rest := by
  -- Every page takes something from what is left.
  induction count generalizing front rest c with
  | zero =>
    obtain rfl := List.eq_nil_of_length_eq_zero (Nat.le_zero.mp bound)
    exact ⟨[], .done (by simpa using first), rfl⟩
  | succ count ih =>
    rcases List.eq_nil_or_concat (rest.take n) with empty | ⟨init, last, page⟩
    · have none : rest = [] := by
        rcases List.take_eq_nil_iff.mp empty with zero | none
        · omega
        · exact none
      subst none
      exact ⟨[], .done (by simpa using first), rfl⟩
    · -- The page ends in `last`, and the rest of the walk stands behind it.
      have parts : rest = init ++ last :: rest.drop n := by
        calc
          rest = rest.take n ++ rest.drop n := (List.take_append_drop n rest).symm
          _ = init ++ last :: rest.drop n := by rw [page]; simp
      have behind : whole = (front ++ init) ++ last :: rest.drop n := by
        rw [split, List.append_assoc, ← parts]
      have shorter : (rest.drop n).length ≤ count := by
        rw [List.length_drop]
        omega
      obtain ⟨pages, walked, joined⟩ := ih (front ++ rest.take n) (rest.drop n)
        (by rw [List.append_assoc, List.take_append_drop, split]) shorter (next last)
        (later _ _ _ behind)
      refine ⟨rest.take n :: pages, .page first ?_ walked, ?_⟩
      · rw [page]
        simp
      · rw [List.flatten_cons, joined, List.take_append_drop]

/-- Walking through the pages of a listing behind their last records reads the whole listing,
strictly sorted, and comes to an end. -/
theorem seek_walk (settings : CompilerSettings) {entity name identifier : String} {root : Entity}
    {type : ScalarType} (defined : catalog.definition entity = .ok root)
    (identity : root.identity = some identifier)
    (idDeclared : (root.field? identifier).map Attribute.type = some (.scalar .int64))
    (declared : (root.field? name).map Attribute.type = some (.scalar type))
    (plainId : Text.Plain identifier) (plain : Text.Plain name) (uncalled : ':' ∉ name.toList)
    (identified : Identified Value.int identifier (tables.records root.name))
    (ranged : ∀ r ∈ tables.records root.name, (r.read [identifier]).Fits .int64)
    (fits : ∀ r ∈ tables.records root.name, (r.read [name]).Fits type)
    (conditions : Keyed Condition) (d : Direction) {n : Nat} (pos : 1 ≤ n) :
    ∃ pages,
      Walk settings catalog tables
        (fun last => ((listing entity conditions name d).paged n).behind name d identifier last)
        ((listing entity conditions name d).paged n) pages ∧
      (listing entity conditions name d).results settings catalog tables =
        .ok (.entities pages.flatten) ∧
      pages.flatten.Pairwise fun a c => Record.compareBy name identifier d a c = .lt := by
  obtain ⟨s, loaded, started, rfl, rfl⟩ := Scope.start_of_definition defined identity
  have own : s.base.definition s.base.root.name = .ok s.base.root := by
    obtain ⟨-, -, types, -⟩ := Scope.start_ok started
    simp [Scope.base, Scope.definition, types, Keyed.find?]
  let k : SortKey s.base :=
    ⟨name, type, .int64, plain, uncalled, finds_plain plain own declared,
      finds_plain plainId own idDeclared⟩
  have lists : k.Lists (tables.records s.root.name) :=
    ⟨fun r held => ⟨fits r held, ranged r held⟩, identified⟩
  -- The filters compile in the scope of the entity, alike for all pages.
  obtain ⟨filters, ν, t, -, filtered, sound⟩ :=
    (Filter.all_uniform settings conditions).run (Scope.start_sound started)
  generalize filters ν = filters at filtered
  let whole := k.found d t.joins filters (tables.records s.root.name)
  have sorted : whole.Pairwise fun a c => k.compare d a c = .lt := lists.found_sorted
  have later : ∀ front last rest, whole = front ++ last :: rest →
      (((listing entity conditions name d).paged n).behind name d s.identifier last).results
        settings catalog tables = .ok (.entities (rest.take n)) :=
    k.results_after started filtered sound rfl d n lists
  have first : ((listing entity conditions name d).paged n).results settings catalog tables =
      .ok (.entities (whole.take n)) :=
    SortKey.results_page (k := k) started filtered sound rfl d (some n) lists
  have all : (listing entity conditions name d).results settings catalog tables =
      .ok (.entities whole) :=
    SortKey.results_page (k := k) started filtered sound rfl d none lists
  obtain ⟨pages, walked, joined⟩ :=
    Walk.of_pages pos later whole.length [] whole rfl (Nat.le_refl _) _ first
  exact ⟨pages, walked, joined ▸ all, joined ▸ sorted⟩

theorem seek_walk_tagged : ∃ pages,
    Walk {} Sample.catalog Sample.tables
      (fun last => ((listing "Person" Sample.tagged.filters "name" .asc).paged 1).behind "name" .asc
        "id" last)
      ((listing "Person" Sample.tagged.filters "name" .asc).paged 1) pages ∧
    (listing "Person" Sample.tagged.filters "name" .asc).results {} Sample.catalog Sample.tables =
      .ok (.entities pages.flatten) ∧
    pages.flatten.Pairwise fun a c => Record.compareBy "name" "id" .asc a c = .lt :=
  have defined : Sample.catalog.definition "Person" = .ok Sample.person := rfl
  have idPlain : Text.Plain "id" := ⟨by decide, by decide, by decide⟩
  have namePlain : Text.Plain "name" := ⟨by decide, by decide, by decide⟩
  have ranged : ∀ r ∈ Sample.tables.records "Person", (r.read ["id"]).Fits .int64 := by
    simp [Tables.records, Sample.tables, Keyed.find?, Record.read, Value.Fits]
    decide
  have fits : ∀ r ∈ Sample.tables.records "Person", (r.read ["name"]).Fits .string := by
    simp [Tables.records, Sample.tables, Keyed.find?, Record.read, Value.Fits]
  seek_walk {} defined rfl rfl rfl idPlain namePlain (by decide) Sample.identified ranged fits
    Sample.tagged.filters .asc (Nat.le_refl 1)

end Criteria

namespace Sample

/-- Notes have an attribute without a name. -/
def note : Entity := ⟨"Note", some "id", [⟨"id", .scalar .int64⟩, ⟨"", .scalar .string⟩]⟩

def notes : Catalog where
  entities := [("Note", note)]

def noted (id : Int) (text : String) : Record := [("id", .int id), ("", .string text)]

def noteTables : Tables := [("Note", [noted 1 "a", noted 2 "b"])]

def notePage : Criteria := (Criteria.listing "Note" [] "" .asc).paged 1

end Sample

namespace Criteria

/-- By an attribute without a name, every page is the first one again. -/
theorem seek_walk_nameless : ¬∃ pages,
    Walk {} Sample.notes Sample.noteTables
      (fun last => Sample.notePage.behind "" .asc "id" last) Sample.notePage pages := by
  let next (last : Record) : Criteria := Sample.notePage.behind "" .asc "id" last
  have first : Sample.notePage.results {} Sample.notes Sample.noteTables =
      .ok (.entities [Sample.noted 1 "a"]) := rfl
  have again : (next (Sample.noted 1 "a")).results {} Sample.notes Sample.noteTables =
      .ok (.entities [Sample.noted 1 "a"]) := rfl
  have stuck : ∀ c pages, Walk {} Sample.notes Sample.noteTables next c pages →
      c.results {} Sample.notes Sample.noteTables ≠ .ok (.entities [Sample.noted 1 "a"]) := by
    intro c pages walked
    induction walked with
    | done empty => simp [empty]
    | page found ends _ ih =>
      intro same
      obtain ⟨rfl⟩ := ResultSet.entities.inj (Except.ok.inj (found.symm.trans same))
      obtain rfl := Option.some.inj ends
      exact ih again
  rintro ⟨pages, walked⟩
  exact stuck _ pages walked first

end Criteria

end EntitySearch
