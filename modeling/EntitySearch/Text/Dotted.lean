/-! Dotted paths and their segments. -/

set_option autoImplicit false

namespace EntitySearch.Text

/-- The parts between the marks; one more than there are marks. -/
def splitChars (mark : Char) : List Char → List (List Char)
  | [] => [[]]
  | c :: rest =>
    if c = mark then [] :: splitChars mark rest
    else
      match splitChars mark rest with
      | [] => [[c]]
      | first :: others => (c :: first) :: others

def segments (path : String) : List String :=
  (splitChars '.' path.toList).map String.ofList

def dotted (segments : List String) : String :=
  ".".intercalate segments

theorem splitChars_ne_nil (mark : Char) (cs : List Char) : splitChars mark cs ≠ [] := by
  cases cs with
  | nil => simp [splitChars]
  | cons c rest =>
    simp only [splitChars]
    split
    · simp
    · split <;> simp

theorem segments_ne_nil (path : String) : segments path ≠ [] := by
  simp [segments, splitChars_ne_nil]

theorem splitChars_eq_splitOn (mark : Char) (cs : List Char) :
    splitChars mark cs = cs.splitOn mark := by
  induction cs with
  | nil => rfl
  | cons c rest ih =>
    rw [List.splitOn_eq_splitOnP] at ih ⊢
    rw [List.splitOnP_cons_eq_if_modifyHead, ← ih]
    by_cases h : c = mark
    · simp [splitChars, h]
    · simp only [splitChars, h, if_false, beq_iff_eq]
      cases parts : splitChars mark rest with
      | nil => exact absurd parts (splitChars_ne_nil mark rest)
      | cons first others => rfl

theorem segments_dotted {parts : List String} (clean : ∀ part ∈ parts, '.' ∉ part.toList)
    (nonempty : parts ≠ []) : segments (dotted parts) = parts := by
  have marks : ".".toList = ['.'] := rfl
  have split : (['.'].intercalate (parts.map String.toList)).splitOn '.' =
      parts.map String.toList :=
    List.splitOn_intercalate '.' (by simpa using clean) (by simpa using nonempty)
  simp only [segments, dotted, splitChars_eq_splitOn, String.toList_intercalate, marks, split,
    List.map_map]
  simp [Function.comp_def]

theorem segments_of_clean {name : String} (clean : '.' ∉ name.toList) : segments name = [name] := by
  have single : dotted [name] = name := String.intercalate_singleton
  have split : segments (dotted [name]) = [name] := segments_dotted (by simpa using clean) (by simp)
  rwa [single] at split

theorem mark_notMem_splitChars (mark : Char) (cs part : List Char) (h : part ∈ splitChars mark cs) :
    mark ∉ part := by
  induction cs generalizing part with
  | nil => simp_all [splitChars]
  | cons c rest ih =>
    by_cases same : c = mark
    · simp only [splitChars, same, if_true, List.mem_cons] at h
      rcases h with rfl | h
      · simp
      · exact ih part h
    · simp only [splitChars, same, if_false] at h
      cases parts : splitChars mark rest with
      | nil => simp_all [splitChars_ne_nil]
      | cons first others =>
        simp only [parts, List.mem_cons] at h ih
        rcases h with rfl | h
        · simpa [Ne.symm same] using ih first (.inl rfl)
        · exact ih part (.inr h)

theorem mark_notMem_segments {path part : String} (h : part ∈ segments path) :
    '.' ∉ part.toList := by
  simp only [segments, List.mem_map] at h
  obtain ⟨letters, held, rfl⟩ := h
  simpa using mark_notMem_splitChars '.' path.toList letters held

end EntitySearch.Text
