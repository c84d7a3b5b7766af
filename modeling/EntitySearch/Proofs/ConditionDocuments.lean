import EntitySearch.Proofs.Operands

/-! Documents of conditions.

Every condition can be written as a document, with its comparator by name and
all its fields given. Reading the document gives the same condition again, when
no literal in it would be read as an object and no map of fields as a condition.
-/

set_option autoImplicit false

namespace EntitySearch

/-- The fields of a condition, all given, with the documents of its values. -/
def Condition.written (comparator : Comparator) (values : List Json) (trim upper : Bool) :
    List (String × Json) :=
  [("comparator", .string comparator.name), ("values", .array values), ("trim", .bool trim),
    ("upper", .bool upper)]

mutual

def Operand.document : Operand → Json
  | .literal raw => raw
  | .condition c => Condition.document c
  | .fields entries => .object (Operand.entryDocuments entries)

def Operand.documents : List Operand → List Json
  | [] => []
  | operand :: rest => operand.document :: Operand.documents rest

def Operand.entryDocuments : List (String × Operand) → List (String × Json)
  | [] => []
  | (field, operand) :: rest => (field, operand.document) :: Operand.entryDocuments rest

def Condition.document : Condition → Json
  | ⟨comparator, values, trim, upper⟩ =>
    .object (Condition.written comparator (Operand.documents values) trim upper)

end

mutual

/-- Literals hold no object, and maps of fields use no key of a condition. -/
inductive Operand.Plain : Operand → Prop
  | literal {raw : Json} : (∀ fields, ¬raw.Holds fields) → Operand.Plain (.literal raw)
  | condition {c : Condition} : Condition.Plain c → Operand.Plain (.condition c)
  | fields {entries : List (String × Operand)} :
    (∀ key ∈ Condition.keys, key ∉ Keyed.keys entries) →
    (∀ entry ∈ entries, Operand.Plain entry.2) → Operand.Plain (.fields entries)

inductive Condition.Plain : Condition → Prop
  | values {comparator : Comparator} {values : List Operand} {trim upper : Bool} :
    (∀ operand ∈ values, Operand.Plain operand) →
    Condition.Plain ⟨comparator, values, trim, upper⟩

end

theorem Operand.documents_eq (values : List Operand) :
    documents values = values.map document := by
  induction values with
  | nil => rw [documents]; rfl
  | cons operand rest ih => rw [documents, ih, List.map_cons]

theorem Operand.entryDocuments_eq (entries : List (String × Operand)) :
    entryDocuments entries = entries.map fun entry => (entry.1, entry.2.document) := by
  induction entries with
  | nil => rw [entryDocuments]; rfl
  | cons entry rest ih => rw [entryDocuments, ih, List.map_cons]

theorem mapM_map_ok {α β ε : Type} {read : β → Except ε α} {write : α → β} {xs : List α}
    (back : ∀ x ∈ xs, read (write x) = .ok x) : (xs.map write).mapM read = .ok xs := by
  rw [List.mapM_map]
  exact (mapM_ok xs back).trans (congrArg Except.ok (List.map_id xs))

mutual

theorem Operand.ofJson_document : {operand : Operand} → operand.Plain →
    Operand.ofJson operand.document = .ok operand
  | _, .literal bare => by
    rw [Operand.document]
    exact Operand.ofJson_literal bare
  | .condition c, .condition inner => by
    rw [Operand.document]
    exact Condition.ofJson_document inner
  | .fields entries, .fields apart inner => by
    -- No key is one of a condition, so that the object is read as a map again.
    have map : Condition.isCondition (Operand.entryDocuments entries) = false := by
      rw [Bool.eq_false_iff, ne_eq, Condition.isCondition_iff]
      rintro ⟨key, condition, held⟩
      refine apart key condition ?_
      simpa [Operand.entryDocuments_eq, Keyed.keys] using held
    have back : ∀ entry ∈ entries,
        (Operand.ofJson entry.2.document).map (entry.1, ·) = .ok entry := by
      intro entry held
      rw [Operand.ofJson_document (inner entry held)]
      rfl
    rw [Operand.document, Operand.ofJson_of_holds (.object _), Operand.ofFields_map map,
      Operand.entryDocuments_eq, mapM_map_ok back]
    rfl

theorem Condition.ofJson_document : {c : Condition} → c.Plain →
    Operand.ofJson c.document = .ok (.condition c)
  | ⟨comparator, values, trim, upper⟩, .values inner => by
    let fields := Condition.written comparator (values.map Operand.document) trim upper
    have named : Condition.readComparator fields = .ok comparator :=
      congrArg Except.ok comparator.ofKeyword_name
    have items : Condition.rawValues fields = values.map Operand.document :=
      Condition.rawValues_array rfl
    have back : ∀ operand ∈ values, Operand.ofJson operand.document = .ok operand :=
      fun operand held => Operand.ofJson_document (inner operand held)
    rw [Condition.document, Operand.documents_eq, Operand.ofJson_of_holds (.object fields),
      Operand.ofFields_condition rfl, Condition.ofFields_eq, named, items, mapM_map_ok back]
    rfl

end

namespace Condition

/-- A condition is read back from its document, when its literals hold no objects and its maps of
fields do not look like conditions. -/
theorem document_back {c : Condition} (plain : c.Plain) : Condition.ofJson c.document = .ok c := by
  have array : ∀ items, c.document ≠ .array items := by
    obtain ⟨_, _, _, _⟩ := c
    exact fun _ => nofun
  rw [ofJson_value array, Condition.ofJson_document plain]
  rfl

end Condition

namespace Sample

def braced : Json := .string "\x7bnorth\x7d"

def combined : Condition where
  comparator := .or
  values := [
    .fields [("city", .condition ⟨.startsWith, [.literal braced, .fields []], true, false⟩),
      ("tags", .literal (.array [.object [("comparator", .null)]]))],
    .condition ⟨.isNull, [], false, true⟩]
  trim := false
  upper := true

theorem braced_bare (fields : List (String × Json)) : ¬braced.Holds fields := by
  have unread : Json.read? "\x7bnorth\x7d" = none := by cbv
  intro holds
  cases holds with
  | encoded read => cases unread.symm.trans read

theorem combined_plain : combined.Plain := by
  have list : ∀ fields, ¬(Json.array [.object [("comparator", .null)]]).Holds fields :=
    fun _ => nofun
  have city : Condition.Plain ⟨.startsWith, [.literal braced, .fields []], true, false⟩ := by
    refine .values ?_
    simp only [List.forall_mem_cons, List.not_mem_nil, false_imp_iff, implies_true, and_true]
    exact ⟨.literal braced_bare, .fields (by simp [Keyed.keys]) (by simp)⟩
  refine .values ?_
  simp only [List.forall_mem_cons, List.not_mem_nil, false_imp_iff, implies_true, and_true]
  refine ⟨.fields (by decide) ?_, .condition (.values (by simp))⟩
  simp only [List.forall_mem_cons, List.not_mem_nil, false_imp_iff, implies_true, and_true]
  exact ⟨.condition city, .literal list⟩

end Sample

namespace Condition

theorem document_back_combined : Condition.ofJson Sample.combined.document = .ok Sample.combined :=
  document_back Sample.combined_plain

end Condition

end EntitySearch
