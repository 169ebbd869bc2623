import Takeit.Foundation

/-!
# The substring helpers (`LogInViewController.swift`)

The extension of `String` with everything in it that can trap: forming a range
with `..<`, moving an index, and slicing. `substrings_split` says that none of it
does, and what the helpers return. A string is the list of its characters.
-/

namespace Takeit

/-- A `Range<Int>`. -/
structure SwiftRange where
  lowerBound : Int
  upperBound : Int
  le : lowerBound ≤ upperBound

/-- `lower ..< upper`; a trap if `upper < lower`. -/
def SwiftRange.upTo (lower upper : Int) : Option SwiftRange :=
  if h : lower ≤ upper then some ⟨lower, upper, h⟩ else none

theorem SwiftRange.upTo_of_le {lower upper : Int} (h : lower ≤ upper) :
    upTo lower upper = some ⟨lower, upper, h⟩ := dif_pos h

namespace Characters

variable {α : Type} (s : List α)

/-- `length`. -/
def length : Int := s.length

/-- `index(_:offsetBy:)`; a trap if the index leaves the string. -/
def index (i distance : Int) : Option Int :=
  if 0 ≤ i + distance ∧ i + distance ≤ length s then some (i + distance) else none

/-- `String(self[start ..< end])`; a trap if `end < start`. -/
def slice (start stop : Int) : Option (List α) :=
  if start ≤ stop then some ((s.drop start.toNat).take (stop - start).toNat) else none

/-- The lower of the unchecked bounds. -/
def clampedLower (r : SwiftRange) : Int := max 0 (min (length s) r.lowerBound)

/-- The upper of the unchecked bounds. -/
def clampedUpper (r : SwiftRange) : Int := min (length s) (max 0 r.upperBound)

/-- `subscript(r: Range<Int>)`. -/
def subscript (r : SwiftRange) : Option (List α) := do
  let start ← index s 0 (clampedLower s r)
  let stop ← index s start (clampedUpper s r - clampedLower s r)
  slice s start stop

/-- `substring(fromIndex:)`. -/
def substringFromIndex (fromIndex : Int) : Option (List α) := do
  let r ← SwiftRange.upTo (min fromIndex (length s)) (length s)
  subscript s r

/-- `substring(toIndex:)`. -/
def substringToIndex (toIndex : Int) : Option (List α) := do
  let r ← SwiftRange.upTo 0 (max 0 toIndex)
  subscript s r

/-- The characters of the string at the positions of a range. -/
def within (r : SwiftRange) : List α :=
  (s.zipIdx.filter fun p => r.lowerBound ≤ (p.2 : Int) && (p.2 : Int) < r.upperBound).map Prod.fst

/-! ## No trap -/

variable {s}

/-- The unchecked bounds are in order, and within the string; what is computed
from them fits into an `Int` as its length does. -/
theorem clamped_le (r : SwiftRange) :
    0 ≤ clampedLower s r ∧ clampedLower s r ≤ clampedUpper s r ∧
      clampedUpper s r ≤ length s := by
  have hle := r.le
  unfold clampedLower clampedUpper length
  omega

theorem subscript_eq (r : SwiftRange) :
    subscript s r = some ((s.drop (clampedLower s r).toNat).take
      (clampedUpper s r - clampedLower s r).toNat) := by
  obtain ⟨hzero, hle, hlength⟩ := clamped_le (s := s) r
  have hstart : index s 0 (clampedLower s r) = some (clampedLower s r) := by
    rw [index, Int.zero_add, if_pos ⟨hzero, hle.trans hlength⟩]
  have hstop : index s (clampedLower s r) (clampedUpper s r - clampedLower s r) =
      some (clampedUpper s r) := by
    have hmoved : clampedLower s r + (clampedUpper s r - clampedLower s r) = clampedUpper s r := by
      omega
    rw [index, hmoved, if_pos ⟨hzero.trans hle, hlength⟩]
  simp only [subscript, hstart, hstop, Option.bind_eq_bind, Option.bind_some]
  rw [slice, if_pos hle]

/-- The subscript as the login uses it. -/
theorem subscript_eq_charactersIn (r : SwiftRange) :
    subscript s r = charactersIn s r.lowerBound r.upperBound := by
  have hle := (clamped_le (s := s) r).2.1
  rw [subscript_eq]
  simp only [charactersIn]
  exact (if_pos hle).symm

theorem substringToIndex_eq_substringTo (toIndex : Int) :
    substringToIndex s toIndex = substringTo s toIndex := by
  rw [substringToIndex, SwiftRange.upTo_of_le (le_max_left 0 toIndex), Option.bind_eq_bind,
    Option.bind_some, subscript_eq_charactersIn]
  rfl

/-! ## What is returned -/

/-- From the position `k` on. -/
theorem filter_zipIdx (lower upper : Int) : ∀ (s : List α) (k : Nat),
    ((s.zipIdx k).filter fun p => lower ≤ (p.2 : Int) && (p.2 : Int) < upper).map Prod.fst =
      (s.take (upper - k).toNat).drop (lower - k).toNat := by
  intro s
  induction s with
  | nil => intro k; simp
  | cons c s ih =>
      intro k
      have hrest := ih (k + 1)
      rw [List.zipIdx_cons]
      by_cases hupper : (k : Int) < upper
      · have htake : (upper - k).toNat = (upper - (k + 1 : Nat)).toNat + 1 := by omega
        rw [htake, List.take_succ_cons]
        by_cases hlower : lower ≤ (k : Int)
        · have hdrop : (lower - k).toNat = 0 := by omega
          have hdrop' : (lower - (k + 1 : Nat)).toNat = 0 := by omega
          rw [List.filter_cons_of_pos (by simp [hlower, hupper]), List.map_cons, hrest, hdrop,
            hdrop', List.drop_zero, List.drop_zero]
        · have hdrop : (lower - k).toNat = (lower - (k + 1 : Nat)).toNat + 1 := by omega
          rw [List.filter_cons_of_neg (by simp [hlower]), hrest, hdrop, List.drop_succ_cons]
      · have htake : (upper - k).toNat = 0 := by omega
        have htake' : (upper - (k + 1 : Nat)).toNat = 0 := by omega
        rw [List.filter_cons_of_neg (by simp [hupper]), hrest, htake, htake', List.take_zero,
          List.take_zero, List.drop_nil, List.drop_nil]

theorem within_eq (r : SwiftRange) :
    within s r = (s.take r.upperBound.toNat).drop r.lowerBound.toNat := by
  unfold within
  simpa using filter_zipIdx r.lowerBound r.upperBound s 0

/-- The subscript is the characters at the positions of the range. -/
theorem subscript_eq_within (r : SwiftRange) : subscript s r = some (within s r) := by
  have hle := r.le
  rw [subscript_eq, within_eq, List.drop_take]
  congr 1
  unfold clampedLower clampedUpper length
  by_cases hlower : r.lowerBound ≤ s.length
  · have hdrop : (max 0 (min (s.length : Int) r.lowerBound)).toNat = r.lowerBound.toNat := by omega
    rw [hdrop]
    refine List.take_eq_take_iff.mpr ?_
    rw [List.length_drop]
    omega
  · have hnone : s.drop r.lowerBound.toNat = [] := List.drop_eq_nil_iff.mpr (by omega)
    have hnone' : s.drop (max 0 (min (s.length : Int) r.lowerBound)).toNat = [] :=
      List.drop_eq_nil_iff.mpr (by omega)
    rw [hnone, hnone', List.take_nil, List.take_nil]

theorem substringToIndex_eq (toIndex : Int) :
    substringToIndex s toIndex = some (s.take toIndex.toNat) := by
  rw [substringToIndex_eq_substringTo, substringTo_eq]

theorem substringFromIndex_eq (fromIndex : Int) :
    substringFromIndex s fromIndex = some (s.drop fromIndex.toNat) := by
  rw [substringFromIndex, SwiftRange.upTo_of_le (min_le_right _ _), Option.bind_eq_bind,
    Option.bind_some, subscript_eq_within, within_eq]
  unfold length
  rw [Int.toNat_natCast, List.take_length]
  congr 1
  show s.drop (min fromIndex (s.length : Int)).toNat = s.drop fromIndex.toNat
  by_cases hfrom : fromIndex ≤ s.length
  · rw [min_eq_left hfrom]
  · rw [min_eq_right (le_of_not_ge hfrom), Int.toNat_natCast, List.drop_length]
    exact (List.drop_eq_nil_iff.mpr (by omega)).symm

end Characters

open Characters in
/-- Splitting a string at any integer gives its two parts; a subscript gives the
characters at the positions of its range; and the bounds it forms are in order
and within the string. -/
theorem substrings_split {α : Type} (s : List α) :
    (∀ i, ∃ front back, substringToIndex s i = some front ∧
      substringFromIndex s i = some back ∧ front ++ back = s) ∧
    (∀ r, subscript s r = some (within s r)) ∧
    ∀ r, 0 ≤ clampedLower s r ∧ clampedLower s r ≤ clampedUpper s r ∧
      clampedUpper s r ≤ length s := by
  refine ⟨fun i => ?_, subscript_eq_within, clamped_le⟩
  exact ⟨_, _, substringToIndex_eq i, substringFromIndex_eq i, List.take_append_drop _ s⟩

end Takeit
