import Mathlib.Algebra.Order.Field.Rat
import Mathlib.Data.List.Lex
import Mathlib.Order.Basic
import Mathlib.Data.Char
import Mathlib.Tactic.FieldSimp
import Mathlib.Tactic.Linarith
import Mathlib.Tactic.Positivity

/-!
# Decimal digits in lexicographic order

Runs of decimal digits compare as the numbers they write if they are equally
long (`lt_iff_digitsValue_lt`), and behind a decimal point whatever their
lengths (`fraction_le_of_lt`). `padded` writes a number in a given width, and
`append_lt_append_iff` compares texts of such fields one after the other.

Nothing here mentions a particular text.
-/

namespace Takeit.Logic

/-- Texts compare by what they begin with, where that is equally long. -/
theorem append_lt_append_iff {α : Type*} [LinearOrder α] {us vs : List α} :
    ∀ {xs ys : List α}, xs.length = ys.length →
      (xs ++ us < ys ++ vs ↔ xs < ys ∨ xs = ys ∧ us < vs) := by
  intro xs
  induction xs with
  | nil =>
      intro ys hlen
      obtain rfl := List.length_eq_zero_iff.mp hlen.symm
      simp
  | cons x xs ih =>
      intro ys hlen
      cases ys with
      | nil => exact absurd hlen (by simp)
      | cons y ys =>
          have hrest := ih (Nat.succ.inj hlen)
          simp only [List.cons_append, List.cons_lt_cons_iff, hrest, List.cons.injEq, and_or_left,
            and_assoc, or_assoc]

/-! ## The number a run of digits writes -/

/-- The number a run of digits writes. -/
def digitsValue (cs : List Char) : Nat := Nat.ofDigitChars 10 cs 0

/-- The value of a digit. -/
def digitValue (c : Char) : Nat := c.toNat - '0'.toNat

@[simp] theorem digitsValue_nil : digitsValue [] = 0 := rfl

@[simp] theorem digitsValue_cons (c : Char) (cs : List Char) :
    digitsValue (c :: cs) = 10 ^ cs.length * digitValue c + digitsValue cs := by
  rw [digitsValue, Nat.ofDigitChars_cons, Nat.ofDigitChars_eq_ofDigitChars_zero, Nat.mul_zero,
    Nat.zero_add]
  rfl

theorem isDigit_iff {c : Char} : c.isDigit = true ↔ 48 ≤ c.toNat ∧ c.toNat ≤ 57 := by
  simp only [Char.isDigit, Bool.and_eq_true, decide_eq_true_eq, ge_iff_le, UInt32.le_iff_toNat_le]
  rfl

theorem digitValue_lt {c : Char} (h : c.isDigit = true) : digitValue c < 10 := by
  have hbounds := isDigit_iff.mp h
  have hzero : '0'.toNat = 48 := rfl
  unfold digitValue
  omega

/-- Digits compare as their values. -/
theorem lt_iff_digitValue_lt {c d : Char} (hc : c.isDigit = true) (hd : d.isDigit = true) :
    c < d ↔ digitValue c < digitValue d := by
  have hcb := isDigit_iff.mp hc
  have hdb := isDigit_iff.mp hd
  have hzero : '0'.toNat = 48 := rfl
  have hlt : c < d ↔ c.toNat < d.toNat := Iff.rfl
  rw [hlt]
  unfold digitValue
  omega

theorem digitValue_inj {c d : Char} (hc : c.isDigit = true) (hd : d.isDigit = true)
    (h : digitValue c = digitValue d) : c = d := by
  rcases lt_trichotomy c d with hlt | heq | hgt
  · exact absurd h ((lt_iff_digitValue_lt hc hd).mp hlt).ne
  · exact heq
  · exact absurd h ((lt_iff_digitValue_lt hd hc).mp hgt).ne'

theorem digitsValue_lt : ∀ {cs : List Char}, (∀ c ∈ cs, c.isDigit = true) →
    digitsValue cs < 10 ^ cs.length := by
  intro cs
  induction cs with
  | nil => intro _; simp
  | cons c cs ih =>
      intro h
      obtain ⟨hc, hcs⟩ := List.forall_mem_cons.mp h
      have hdigit := digitValue_lt hc
      have hrest := ih hcs
      rw [digitsValue_cons, List.length_cons, Nat.pow_succ]
      have hfirst : 10 ^ cs.length * digitValue c ≤ 10 ^ cs.length * 9 :=
        Nat.mul_le_mul_left _ (by omega)
      omega

/-- A run of digits that does not begin with `0` writes a number of that many
digits. -/
theorem le_digitsValue_cons {c : Char} {cs : List Char} (hc : c.isDigit = true) (hzero : c ≠ '0') :
    10 ^ cs.length ≤ digitsValue (c :: cs) := by
  have hpos : 0 < digitValue c := by
    refine Nat.pos_of_ne_zero fun h => hzero ?_
    exact digitValue_inj hc (by decide) h
  rw [digitsValue_cons]
  have hfirst := Nat.le_mul_of_pos_right (10 ^ cs.length) hpos
  omega

/-- Equally long runs of digits compare as the numbers they write. -/
theorem lt_iff_digitsValue_lt : ∀ {xs ys : List Char}, xs.length = ys.length →
    (∀ c ∈ xs, c.isDigit = true) → (∀ c ∈ ys, c.isDigit = true) →
    (xs < ys ↔ digitsValue xs < digitsValue ys) := by
  intro xs
  induction xs with
  | nil =>
      intro ys hlen _ _
      obtain rfl := List.length_eq_zero_iff.mp hlen.symm
      simp
  | cons x xs ih =>
      intro ys hlen hxs hys
      cases ys with
      | nil => exact absurd hlen (by simp)
      | cons y ys =>
          obtain ⟨hx, hxs⟩ := List.forall_mem_cons.mp hxs
          obtain ⟨hy, hys⟩ := List.forall_mem_cons.mp hys
          have hlen := Nat.succ.inj hlen
          have hxlt := digitsValue_lt hxs
          have hylt := digitsValue_lt hys
          rw [List.cons_lt_cons_iff, ih hlen hxs hys, lt_iff_digitValue_lt hx hy, digitsValue_cons,
            digitsValue_cons, hlen]
          rw [hlen] at hxlt
          generalize 10 ^ ys.length = p at hxlt hylt
          constructor
          · rintro (hlt | ⟨rfl, hlt⟩)
            · have hstep : p * (digitValue x + 1) ≤ p * digitValue y := Nat.mul_le_mul_left _ hlt
              rw [Nat.mul_add] at hstep
              omega
            · omega
          · intro hlt
            rcases lt_trichotomy (digitValue x) (digitValue y) with h | h | h
            · exact .inl h
            · rw [h] at hlt
              exact .inr ⟨digitValue_inj hx hy h, by omega⟩
            · have hstep : p * (digitValue y + 1) ≤ p * digitValue x := Nat.mul_le_mul_left _ h
              rw [Nat.mul_add] at hstep
              omega

/-! ## Behind a decimal point -/

/-- The number a run of digits writes behind a decimal point. -/
def fraction (cs : List Char) : ℚ := digitsValue cs / 10 ^ cs.length

@[simp] theorem fraction_nil : fraction [] = 0 := by simp [fraction]

theorem fraction_nonneg (cs : List Char) : 0 ≤ fraction cs := by
  unfold fraction
  positivity

theorem fraction_lt_one {cs : List Char} (h : ∀ c ∈ cs, c.isDigit = true) : fraction cs < 1 := by
  unfold fraction
  rw [div_lt_one (by positivity)]
  exact_mod_cast digitsValue_lt h

theorem fraction_cons (c : Char) (cs : List Char) :
    fraction (c :: cs) = (digitValue c + fraction cs) / 10 := by
  unfold fraction
  rw [digitsValue_cons, List.length_cons, pow_succ]
  push_cast
  have hpos : (10 : ℚ) ^ cs.length ≠ 0 := by positivity
  field_simp

/-- Behind a decimal point the order of the digits is that of the numbers, up to
zeros at the end. -/
theorem fraction_le_of_lt : ∀ {xs ys : List Char}, (∀ c ∈ xs, c.isDigit = true) →
    (∀ c ∈ ys, c.isDigit = true) → xs < ys → fraction xs ≤ fraction ys := by
  intro xs
  induction xs with
  | nil =>
      intro ys _ _ _
      rw [fraction_nil]
      exact fraction_nonneg ys
  | cons x xs ih =>
      intro ys hxs hys hlt
      cases ys with
      | nil => exact absurd hlt (List.not_lt_nil _)
      | cons y ys =>
          obtain ⟨hx, hxrest⟩ := List.forall_mem_cons.mp hxs
          obtain ⟨hy, hyrest⟩ := List.forall_mem_cons.mp hys
          rw [fraction_cons, fraction_cons]
          rcases List.cons_lt_cons_iff.mp hlt with hlt | ⟨rfl, hrestlt⟩
          · have hdigit : (digitValue x : ℚ) + 1 ≤ digitValue y := by
              exact_mod_cast (lt_iff_digitValue_lt hx hy).mp hlt
            have hone := fraction_lt_one hxrest
            have hzero := fraction_nonneg ys
            linarith
          · have hrest := ih hxrest hyrest hrestlt
            linarith

/-! ## Fields of a given width -/

/-- A number in at least `width` digits. -/
def padded (width n : Nat) : List Char := (Nat.toDigits 10 n).leftpad width '0'

theorem isDigit_of_mem_padded {width n : Nat} : ∀ c ∈ padded width n, c.isDigit = true := by
  intro c hc
  rw [padded, List.leftpad, List.mem_append] at hc
  rcases hc with hc | hc
  · rw [List.eq_of_mem_replicate hc]
    decide
  · exact Nat.isDigit_of_mem_toDigits (by decide) (by decide) hc

@[simp] theorem digitsValue_padded (width n : Nat) : digitsValue (padded width n) = n := by
  rw [padded, List.leftpad, digitsValue, Nat.ofDigitChars_append, Nat.ofDigitChars_replicate_zero,
    Nat.mul_zero, Nat.ofDigitChars_ten_toDigits]

theorem length_padded {width n : Nat} (hwidth : 0 < width) (hn : n < 10 ^ width) :
    (padded width n).length = width := by
  have hlen := (Nat.length_toDigits_le_iff (b := 10) (by decide) hwidth).mpr hn
  rw [padded, List.leftpad, List.length_append, List.length_replicate]
  omega

/-- Texts that begin with a field compare by the number in it first. -/
theorem padded_append_lt_iff {width m n : Nat} {us vs : List Char} (hwidth : 0 < width)
    (hm : m < 10 ^ width) (hn : n < 10 ^ width) :
    padded width m ++ us < padded width n ++ vs ↔ m < n ∨ m = n ∧ us < vs := by
  have hlen : (padded width m).length = (padded width n).length := by
    rw [length_padded hwidth hm, length_padded hwidth hn]
  have hsame : padded width m = padded width n ↔ m = n := by
    constructor
    · intro h
      simpa using congrArg digitsValue h
    · rintro rfl
      rfl
  rw [append_lt_append_iff hlen, hsame,
    lt_iff_digitsValue_lt hlen isDigit_of_mem_padded isDigit_of_mem_padded, digitsValue_padded,
    digitsValue_padded]

end Takeit.Logic
