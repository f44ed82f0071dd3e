import TextGrammar.Proofs.LibraryLeaves

/-! A text behind another one. From where the second text begins, all that can be asked of the whole
has the answer that the second one gives by itself, that much further on. -/

namespace TextGrammar.Text

theorem place_of_nonneg {text : Text} {start : Int} (valid : 0 ≤ start) (inside : start ≤ text.size) :
    text.place start = start.toNat := by
  simp only [place, if_pos valid]
  omega

theorem window_of_nonneg {text : Text} {start : Int} (valid : 0 ≤ start) :
    text.window start = some (text.toList.drop start.toNat) := by
  simp only [window, if_pos valid]

variable (before rest : Text)

theorem extract_behind (start stop : Nat) :
    (before ++ rest).extract (before.size + start) (before.size + stop) = rest.extract start stop := by
  have none : before.extract (before.size + start) (before.size + stop) = #[] := by
    apply Array.eq_empty_of_size_eq_zero
    simp only [Array.size_extract]
    omega
  rw [Array.extract_append, none]
  simp

theorem getElem?_behind (index : Nat) : (before ++ rest)[before.size + index]? = rest[index]? := by
  rw [Array.getElem?_append_right (Nat.le_add_right _ _), Nat.add_sub_cancel_left]

theorem below_behind (start : Int) :
    before.size + start < (before ++ rest).size ↔ start < rest.size := by
  simp

variable {start : Int} (valid : 0 ≤ start)
include valid

theorem toNat_behind : (before.size + start).toNat = before.size + start.toNat := by
  omega

theorem place_behind :
    (before ++ rest).place (before.size + start) = before.size + rest.place start := by
  simp only [place, if_pos valid, if_pos (show 0 ≤ before.size + start by omega), Array.size_append]
  omega

theorem slice_behind {stop : Int} (ended : 0 ≤ stop) :
    slice (before ++ rest) (before.size + start) (before.size + stop) = rest.slice start stop := by
  simp only [slice, place_behind before rest valid, place_behind before rest ended, extract_behind]

theorem suffix_behind : suffix (before ++ rest) (before.size + start) = rest.suffix start := by
  simp only [suffix, place_behind before rest valid, Array.size_append, extract_behind]

theorem window_behind :
    window (before ++ rest) (before.size + start) = rest.window start := by
  rw [window_of_nonneg valid, window_of_nonneg (by omega), toNat_behind before valid,
    Array.toList_append, ← Array.length_toList, List.drop_length_add_append]

theorem hasAt_behind (word : List Char) :
    hasAt (before ++ rest) word (before.size + start) = rest.hasAt word start := by
  have go (index : Nat) :
      hasAt.go (before ++ rest) word (before.size + index) = hasAt.go rest word index := by
    induction word generalizing index with
    | nil => rfl
    | cons character more ih =>
      simp only [hasAt.go, getElem?_behind, Nat.add_assoc, ih]
  have inside : (before.size + start ≤ (before ++ rest).size) = (start ≤ rest.size) := by
    simp
  simp only [hasAt, place_behind before rest valid, go, inside]

theorem characterAt_behind (inside : start < rest.size) :
    ∃ character, characterAt (before ++ rest) (before.size + start) = .ok character ∧
      rest.characterAt start = .ok character := by
  obtain ⟨character, found⟩ : ∃ character, rest[start.toNat]? = some character :=
    ⟨_, Array.getElem?_eq_getElem (by omega)⟩
  refine ⟨character, ?_, ?_⟩
  · simp only [characterAt, if_pos (show 0 ≤ before.size + start by omega), toNat_behind before valid,
      getElem?_behind, found]
  · simp only [characterAt, if_pos valid, found]

omit valid in
/-- A run of characters never ends in a fault here, and never before it starts. -/
theorem runEnd_behind (member : Char → Bool) {start : Int} (valid : 0 ≤ start) :
    ∃ stop, start ≤ stop ∧ rest.runEnd member start = .ok stop ∧
      runEnd (before ++ rest) member (before.size + start) = .ok (before.size + stop) := by
  rw [runEnd.eq_def rest, runEnd.eq_def (before ++ rest)]
  by_cases below : start < rest.size
  · obtain ⟨character, whole, part⟩ := characterAt_behind before rest valid below
    simp only [if_pos below, if_pos ((below_behind before rest start).mpr below), whole, part]
    cases member character with
    | false => exact ⟨start, Int.le_refl _, rfl, rfl⟩
    | true =>
      obtain ⟨stop, later, one, two⟩ := runEnd_behind member (show 0 ≤ start + 1 by omega)
      refine ⟨stop, by omega, one, ?_⟩
      rw [← two, Int.add_assoc]
      rfl
  · simp only [if_neg below, if_neg (mt (below_behind before rest start).mp below)]
    exact ⟨start, Int.le_refl _, rfl, rfl⟩
termination_by (rest.size - start).toNat

end TextGrammar.Text
