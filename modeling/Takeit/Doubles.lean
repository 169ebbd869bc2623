import Mathlib.Algebra.Order.Field.Rat
import Mathlib.Algebra.Order.Ring.Abs
import Mathlib.Tactic.Linarith
import Mathlib.Tactic.Positivity
import Takeit.Firestore

/-!
# Doubles and integers

`Int(_: Double)` on the doubles there are, and the double nearest to an integer.
An integer that came from a double goes back to it (`toInt?_ofInt`).
-/

namespace Takeit.Firestore

/-! ## Integers doubles can hold -/

/-- All but the first 53 binary digits are 0. -/
def Exact (n : Int) : Prop := n.natAbs % 2 ^ (n.natAbs.log2 - 52) = 0

instance : DecidablePred Exact := fun n =>
  inferInstanceAs (Decidable (n.natAbs % 2 ^ (n.natAbs.log2 - 52) = 0))

theorem exact_of_natAbs_lt {n : Int} (h : n.natAbs < 2 ^ 53) : Exact n := by
  have hlog : n.natAbs.log2 - 52 = 0 := by
    by_cases hzero : n.natAbs = 0
    · rw [hzero]
      decide
    · have hlt := (Nat.log2_lt hzero).mpr h
      omega
  rw [Exact, hlog, Nat.pow_zero, Nat.mod_one]

theorem exact_mul_pow {m : Int} (k : Nat) (h : m.natAbs < 2 ^ 53) : Exact (m * 2 ^ k) := by
  have habs : (m * 2 ^ k).natAbs = m.natAbs * 2 ^ k := by
    rw [Int.natAbs_mul, Int.natAbs_pow]
    rfl
  rw [Exact, habs]
  by_cases hzero : m.natAbs = 0
  · rw [hzero, Nat.zero_mul, Nat.zero_mod]
  · have hpos : m.natAbs * 2 ^ k ≠ 0 := Nat.mul_ne_zero hzero (by positivity)
    have hlt : m.natAbs * 2 ^ k < 2 ^ (53 + k) := by
      rw [Nat.pow_add]
      exact Nat.mul_lt_mul_of_pos_right h (by positivity)
    have hlog := (Nat.log2_lt hpos).mpr hlt
    exact Nat.mod_eq_zero_of_dvd ((Nat.pow_dvd_pow 2 (by omega)).trans (Nat.dvd_mul_left _ _))

/-! ## From doubles to integers -/

/-- The numbers doubles denote: 53 binary digits and an exponent. -/
def IsDouble (q : Rat) : Prop :=
  ∃ (m : Int) (k : Nat), m.natAbs < 2 ^ 53 ∧ (q = m * 2 ^ k ∨ q * 2 ^ k = m)

/-- Towards zero. -/
def truncate (q : Rat) : Int := if 0 ≤ q then q.floor else q.ceil

theorem truncate_intCast (n : Int) : truncate (n : Rat) = n := by
  unfold truncate
  split
  · exact Rat.floor_intCast n
  · exact Rat.ceil_intCast n

/-- A double cut to an integer is one a double can hold. -/
theorem exact_truncate {q : Rat} (h : IsDouble q) : Exact (truncate q) := by
  obtain ⟨m, k, hm, hlarge | hsmall⟩ := h
  · have hint : q = ((m * 2 ^ k : Int) : Rat) := by
      rw [hlarge]
      push_cast
      rfl
    rw [hint, truncate_intCast]
    exact exact_mul_pow k hm
  · have hone : (1 : Rat) ≤ 2 ^ k := one_le_pow₀ (by norm_num)
    refine exact_of_natAbs_lt (Nat.lt_of_le_of_lt ?_ hm)
    unfold truncate
    by_cases hq : 0 ≤ q
    · rw [if_pos hq]
      have hnonneg : 0 ≤ q.floor := Rat.le_floor_iff.mpr (by exact_mod_cast hq)
      have hle : (q.floor : Rat) ≤ m := by
        have hfloor := Rat.floor_le q
        have hscaled := le_mul_of_one_le_right hq hone
        linarith
      have hle' : q.floor ≤ m := by exact_mod_cast hle
      omega
    · rw [if_neg hq]
      have hneg : q ≤ 0 := le_of_not_ge hq
      have hnonpos : q.ceil ≤ 0 := Rat.ceil_le_iff.mpr (by exact_mod_cast hneg)
      have hle : (m : Rat) ≤ q.ceil := by
        have hceil := Rat.le_ceil (x := q)
        have hscaled := mul_le_of_one_le_right hneg hone
        linarith
      have hle' : m ≤ q.ceil := by exact_mod_cast hle
      omega

namespace Double

/-- Finite, and in the range of `Int` once it is cut to an integer. -/
def Fits : Double → Prop
  | finite q => -2 ^ 63 - 1 < q ∧ q < 2 ^ 63
  | _ => False

theorem toInt?_finite (q : Rat) :
    (finite q).toInt? =
      if -2 ^ 63 ≤ truncate q ∧ truncate q < 2 ^ 63 then some (truncate q) else none := rfl

theorem toInt?_intCast {n : Int} (h : -2 ^ 63 ≤ n ∧ n < 2 ^ 63) :
    (finite n).toInt? = some n := by
  rw [toInt?_finite, truncate_intCast, if_pos h]

/-- The doubles `Int(_:)` does not trap on. -/
theorem isSome_toInt?_iff (d : Double) : d.toInt?.isSome = true ↔ d.Fits := by
  cases d with
  | nan => exact iff_of_false (by simp [toInt?]) id
  | infinity negative => exact iff_of_false (by simp [toInt?]) id
  | finite q =>
      have hrange : (-2 ^ 63 ≤ truncate q ∧ truncate q < 2 ^ 63) ↔ (finite q).Fits := by
        unfold truncate Fits
        by_cases hq : 0 ≤ q
        · rw [if_pos hq]
          have hfloor : -2 ^ 63 ≤ q.floor := by
            refine Rat.le_floor_iff.mpr ?_
            push_cast
            linarith
          have hlow : -2 ^ 63 - 1 < q := by linarith
          rw [Rat.floor_lt_iff]
          push_cast
          exact and_congr (iff_of_true hfloor hlow) Iff.rfl
        · rw [if_neg hq]
          have hneg : q < 0 := lt_of_not_ge hq
          have hceil : q.ceil < 2 ^ 63 := by
            refine lt_of_le_of_lt (Rat.ceil_le_iff.mpr (?_ : q ≤ ((0 : Int) : Rat))) (by norm_num)
            exact_mod_cast hneg.le
          have hhigh : q < 2 ^ 63 := by linarith
          have hlow : -2 ^ 63 ≤ q.ceil ↔ -2 ^ 63 - 1 < q := by
            rw [← Int.sub_one_lt_iff, Rat.lt_ceil_iff]
            norm_num
          exact and_congr hlow (iff_of_true hceil hhigh)
      rw [toInt?_finite, ← hrange]
      split
      · rename_i h
        exact iff_of_true rfl h
      · rename_i h
        exact iff_of_false (by simp) h

/-! ## From integers to doubles -/

/-- The nearest number of 53 binary digits, of two the one with the even last
digit. -/
def nearest (n : Nat) : Nat :=
  let unit := 2 ^ (n.log2 - 52)
  let rest := n % unit
  let up := unit < 2 * rest ∨ (unit = 2 * rest ∧ (n / unit) % 2 = 1)
  unit * (if up then n / unit + 1 else n / unit)

/-- `TimeInterval(n)`. -/
def ofInt (n : Int) : Double := finite (n.sign * nearest n.natAbs : Int)

theorem nearest_of_exact {n : Int} (h : Exact n) : nearest n.natAbs = n.natAbs := by
  have hpos : 0 < 2 ^ (n.natAbs.log2 - 52) := by positivity
  have hzero : n.natAbs % 2 ^ (n.natAbs.log2 - 52) = 0 := h
  simp only [nearest, hzero]
  rw [if_neg (by omega)]
  exact Nat.mul_div_cancel' (Nat.dvd_of_mod_eq_zero hzero)

/-- An integer that a double holds comes back from it. -/
theorem toInt?_ofInt {n : Int} (hexact : Exact n) (hrange : -2 ^ 63 ≤ n ∧ n < 2 ^ 63) :
    (ofInt n).toInt? = some n := by
  rw [ofInt, nearest_of_exact hexact, Int.sign_mul_natAbs]
  exact toInt?_intCast hrange

end Double

end Takeit.Firestore
