import EntitySearch.Calendar.Internet
import EntitySearch.QueryError
import EntitySearch.Proofs.DateText

/-! Ranges of the fields of a time.

Whatever a pattern reads from a text, every field is within its range, and so is
the time of day that the fields make: a second of the day, and a leap second only
at the end of a minute.
-/

set_option autoImplicit false

namespace EntitySearch

namespace Calendar

/-- The values of a field; an offset is in full minutes. -/
def Field.Admits : Field → Int → Prop
  | .halfDay, v => 0 ≤ v ∧ v ≤ 1
  | .hourOfHalf, v => 0 ≤ v ∧ v ≤ 11
  | .minute, v => 0 ≤ v ∧ v ≤ 59
  | .second, v => 0 ≤ v ∧ v ≤ 60
  | .nano, v => 0 ≤ v ∧ v ≤ 999999999
  | .offset, v => v % 60 = 0
  | _, _ => True

def Fields.Ranged (fields : Fields) : Prop := ∀ field, ∀ v ∈ fields field, field.Admits v

section
variable {fields out : Fields} {field : Field} {low high v : Int}

theorem Fields.empty_ranged : Fields.empty.Ranged := nofun

namespace Fields.Ranged

theorem set (h : fields.Ranged) (stored : fields.set field v = .ok out) (admits : field.Admits v) :
    out.Ranged := by
  rw [Fields.set] at stored
  split at stored
  · cases stored
    intro other w held
    dsimp only at held
    split at held
    · next same =>
      cases held
      exact same ▸ admits
    · exact h other w held
  · split at stored
    · cases stored
      exact h
    · cases stored

theorem setWithin (h : fields.Ranged) (stored : fields.setWithin low high field v = .ok out)
    (admits : low ≤ v ∧ v ≤ high → field.Admits v) : out.Ranged := by
  rw [Fields.setWithin] at stored
  split at stored
  · next within => exact h.set stored (admits within)
  · cases stored

theorem setHour (h : fields.Ranged) (stored : fields.setHour v = .ok out) : out.Ranged := by
  rw [Fields.setHour] at stored
  split at stored
  · next within =>
    obtain ⟨half, first, second⟩ := bind_ok_inv stored
    have kept : half.Ranged := h.set first (by simp only [Field.Admits]; omega)
    exact kept.set second (by simp only [Field.Admits]; omega)
  · cases stored

theorem store (h : fields.Ranged) {numeral : Numeral} (stored : numeral.store fields v = .ok out) :
    out.Ranged := by
  cases numeral with
  | hour => exact h.setHour stored
  | timestamp => exact h.set stored trivial
  | daysFromSunday | weekdayFromMonday =>
    simp only [Numeral.store] at stored
    split at stored
    · exact h.set stored trivial
    · cases stored
  | hour12 =>
    simp only [Numeral.store] at stored
    split at stored
    · exact h.set stored (by simp only [Field.Admits]; omega)
    · cases stored
  | minute | second | nano => exact h.setWithin stored id
  | _ => exact h.setWithin stored fun _ => trivial

theorem storeNano (h : fields.Ranged) {scanned : Int × List Char} {rest : List Char}
    (stored : storeNano fields scanned = .ok (out, rest)) : out.Ranged := by
  obtain ⟨kept, first, done⟩ := bind_ok_inv stored
  cases done
  exact h.setWithin first id

end Fields.Ranged

theorem findWord?_bounds {cs rest : List Char} {words : List String} {start index : Nat}
    (found : findWord? cs words start = some (index, rest)) :
    start ≤ index ∧ index < start + words.length := by
  induction words generalizing start with
  | nil => cases found
  | cons word words ih =>
    rw [findWord?] at found
    rw [List.length_cons]
    split at found
    · cases found
      omega
    · have := ih found
      omega

theorem scanOffset_minutes {between : List Char → Option (List Char)} {zulu short : Bool}
    {cs rest : List Char} (scanned : scanOffset between zulu short cs = .ok (v, rest)) :
    v % 60 = 0 := by
  unfold scanOffset at scanned
  split at scanned
  · cases scanned
    rfl
  · cases scanned
    rfl
  · split at scanned
    · split at scanned
      · cases scanned
      · dsimp only at scanned
        split at scanned
        · split at scanned
          · cases scanned
          · split at scanned
            · cases scanned
            · obtain ⟨rfl, -⟩ := Prod.mk.inj (Except.ok.inj scanned)
              split <;> omega
        · split at scanned
          · obtain ⟨rfl, -⟩ := Prod.mk.inj (Except.ok.inj scanned)
            split <;> omega
          · cases scanned
        · cases scanned
    · cases scanned
  · cases scanned

theorem Fields.Ranged.storeOffset (h : fields.Ranged) {scanned : Int × List Char} {rest : List Char}
    (minutes : scanned.1 % 60 = 0) (stored : storeOffset fields scanned = .ok (out, rest)) :
    out.Ranged := by
  obtain ⟨kept, first, done⟩ := bind_ok_inv stored
  cases done
  exact h.set first minutes

/-- Every item of a pattern keeps the fields in their ranges. -/
theorem Fields.Ranged.read (h : fields.Ranged) {item : Item} {cs rest : List Char}
    (read : item.read fields cs = .ok (out, rest)) : out.Ranged := by
  cases item with
  | literal text =>
    simp only [Item.read] at read
    split at read
    · cases read
      exact h
    · cases read
  | blanks | zoneName =>
    cases read
    exact h
  | invalid => cases read
  | number numeral =>
    simp only [Item.read] at read
    split at read
    all_goals
      obtain ⟨⟨v, _⟩, -, read⟩ := bind_ok_inv read
      obtain ⟨kept, stored, done⟩ := bind_ok_inv read
      cases done
      exact h.store stored
  | shortMonth | longMonth | shortWeekday | longWeekday =>
    obtain ⟨⟨index, _⟩, -, read⟩ := bind_ok_inv read
    obtain ⟨kept, stored, done⟩ := bind_ok_inv read
    cases done
    exact h.set stored trivial
  | halfDay =>
    simp only [Item.read, scanHalfDay] at read
    split at read
    · next half _ found =>
      obtain ⟨kept, stored, done⟩ := bind_ok_inv read
      cases done
      have bounds := findWord?_bounds found
      simp only [List.length_cons, List.length_nil] at bounds
      exact h.set stored (by simp only [Field.Admits]; omega)
    · cases read
  | fraction | fixedFraction count =>
    simp only [Item.read] at read
    split at read
    · obtain ⟨scanned, -, stored⟩ := bind_ok_inv read
      exact h.storeNano stored
    · cases read
      exact h
  | bareFraction count =>
    obtain ⟨scanned, -, stored⟩ := bind_ok_inv read
    exact h.storeNano stored
  | offset zulu short =>
    obtain ⟨scanned, found, stored⟩ := bind_ok_inv read
    exact h.storeOffset (scanOffset_minutes found) stored
  | offsetOrUtc =>
    simp only [Item.read] at read
    split at read
    · exact h.storeOffset rfl read
    · obtain ⟨scanned, found, stored⟩ := bind_ok_inv read
      exact h.storeOffset (scanOffset_minutes found) stored
  | dateTimeMark =>
    simp only [Item.read] at read
    split at read
    · split at read
      · cases read
        exact h
      · cases read
    · cases read

theorem readItems_ranged {items : List Item} {cs rest : List Char} (h : fields.Ranged)
    (read : readItems items fields cs = .ok (out, rest)) : out.Ranged := by
  induction items generalizing fields cs with
  | nil =>
    cases read
    exact h
  | cons item items ih =>
    obtain ⟨⟨kept, _⟩, first, read⟩ := bind_ok_inv read
    exact ih (h.read first) read

theorem readFields_ranged {pattern text : String} (read : readFields pattern text = .ok out) :
    out.Ranged := by
  obtain ⟨⟨kept, rest⟩, first, done⟩ := bind_ok_inv read
  have ranged := readItems_ranged Fields.empty_ranged first
  dsimp only at done
  split at done
  · cases done
    exact ranged
  · cases done

theorem Fields.Ranged.scanOptionalFraction (h : fields.Ranged) {cs rest : List Char}
    (scanned : scanOptionalFraction fields cs = .ok (out, rest)) : out.Ranged := by
  unfold Calendar.scanOptionalFraction at scanned
  split at scanned
  · obtain ⟨scanned, -, stored⟩ := bind_ok_inv scanned
    exact h.storeNano stored
  · cases scanned
    exact h

theorem scanInternet_ranged {cs : List Char} (scanned : scanInternet cs = .ok out) :
    out.Ranged := by
  -- Only storing changes the fields; digits and marks are read in between.
  obtain ⟨⟨year, _⟩, -, scanned⟩ := bind_ok_inv scanned
  obtain ⟨years, stored, scanned⟩ := bind_ok_inv scanned
  have h := Fields.empty_ranged.store stored
  obtain ⟨_, -, scanned⟩ := bind_ok_inv scanned
  obtain ⟨⟨month, _⟩, -, scanned⟩ := bind_ok_inv scanned
  obtain ⟨months, stored, scanned⟩ := bind_ok_inv scanned
  have h := h.store stored
  obtain ⟨_, -, scanned⟩ := bind_ok_inv scanned
  obtain ⟨⟨day, _⟩, -, scanned⟩ := bind_ok_inv scanned
  obtain ⟨days, stored, scanned⟩ := bind_ok_inv scanned
  have h := h.store stored
  obtain ⟨⟨marked, _⟩, read, scanned⟩ := bind_ok_inv scanned
  have h := h.read read
  obtain ⟨⟨hour, _⟩, -, scanned⟩ := bind_ok_inv scanned
  obtain ⟨hours, stored, scanned⟩ := bind_ok_inv scanned
  have h := h.store stored
  obtain ⟨_, -, scanned⟩ := bind_ok_inv scanned
  obtain ⟨⟨minute, _⟩, -, scanned⟩ := bind_ok_inv scanned
  obtain ⟨minutes, stored, scanned⟩ := bind_ok_inv scanned
  have h := h.store stored
  obtain ⟨_, -, scanned⟩ := bind_ok_inv scanned
  obtain ⟨⟨second, _⟩, -, scanned⟩ := bind_ok_inv scanned
  obtain ⟨seconds, stored, scanned⟩ := bind_ok_inv scanned
  have h := h.store stored
  obtain ⟨⟨fractions, _⟩, read, scanned⟩ := bind_ok_inv scanned
  have h := h.scanOptionalFraction read
  obtain ⟨⟨offset, _⟩, found, scanned⟩ := bind_ok_inv scanned
  dsimp only at scanned
  split at scanned
  · cases scanned
  · split at scanned
    · exact h.set scanned (scanOffset_minutes found)
    · cases scanned

end

end Calendar

end EntitySearch
