import Mathlib.Data.List.Infix
import Mathlib.Data.String.Basic
import Mathlib.Logic.Function.Basic
import Takeit.Logic.Sorting

/-!
# Texts of numbers, strings and user defaults

The parts of the Swift standard library and of Foundation the screens use:
string interpolation of integers, `Int(_: String)`, the comparison of strings,
and `UserDefaults`.
-/

namespace Takeit

open Takeit.Logic

/-! ## Decimal texts -/

/-- `"\(n)"`. -/
def text (n : Int) : String := n.repr

/-- A non-empty run of ASCII digits, read as a number. -/
def digits? (cs : List Char) : Option Int :=
  if cs ≠ [] ∧ cs.all Char.isDigit then some (Nat.ofDigitChars 10 cs 0 : Nat) else none

/-- `Int(s)`: an optional sign and at least one digit, nothing else. -/
def parseInt (s : String) : Option Int :=
  match s.toList with
  | '-' :: cs => (digits? cs).map (- ·)
  | '+' :: cs => digits? cs
  | cs => digits? cs

/-- `Int(s ?? "") ?? 0`, the way the labels are read back. -/
def numberShown (s : String) : Int := (parseInt s).getD 0

theorem digits?_toDigits (n : Nat) : digits? (Nat.toDigits 10 n) = some (n : Int) := by
  have hdigit : (Nat.toDigits 10 n).all Char.isDigit = true := by
    rw [List.all_eq_true]
    intro c hc
    exact Nat.isDigit_of_mem_toDigits (by decide) (by decide) hc
  unfold digits?
  rw [if_pos ⟨Nat.toDigits_ne_nil, hdigit⟩, Nat.ofDigitChars_ten_toDigits]

theorem parseInt_repr (n : Nat) : parseInt n.repr = some (n : Int) := by
  have htext : n.repr.toList = Nat.toDigits 10 n := by
    rw [Nat.repr_eq_ofList_toDigits, String.toList_ofList]
  -- a digit is neither of the two signs
  have hhead : ∀ c cs, Nat.toDigits 10 n = c :: cs → c.isDigit = true := fun c cs h =>
    Nat.isDigit_of_mem_toDigits (b := 10) (by decide) (by decide) (h ▸ List.mem_cons_self)
  unfold parseInt
  rw [htext]
  split
  · rename_i cs h
    exact absurd (hhead _ cs h) (by decide)
  · rename_i cs h
    exact absurd (hhead _ cs h) (by decide)
  · exact digits?_toDigits n

theorem parseInt_text (n : Int) : parseInt (text n) = some n := by
  unfold text
  rw [Int.repr_eq_if]
  by_cases hn : 0 ≤ n
  · rw [if_pos hn, parseInt_repr, Int.toNat_of_nonneg hn]
  · rw [if_neg hn]
    have htext : ("-" ++ (-n).toNat.repr).toList = '-' :: Nat.toDigits 10 (-n).toNat := by
      rw [String.toList_append, Nat.repr_eq_ofList_toDigits, String.toList_ofList]
      simp
    unfold parseInt
    rw [htext]
    simp only [digits?_toDigits, Option.map_some]
    congr 1
    omega

theorem text_inj {m n : Int} : text m = text n ↔ m = n := by
  constructor
  · intro h
    have hread : parseInt (text m) = parseInt (text n) := by rw [h]
    simpa [parseInt_text] using hread
  · rintro rfl
    rfl

/-- A label that shows a number is read back as that number. -/
@[simp] theorem numberShown_text (n : Int) : numberShown (text n) = n := by
  simp [numberShown, parseInt_text]

/-! ## Strings -/

/-- What the screens take from Swift's `String` that depends on the Unicode
tables: canonical composition, by which strings are compared, `uppercased()`,
and `contains(_:)` for a string. -/
structure SwiftString where
  nfc : String → String
  uppercased : String → String
  contains : String → String → Bool

/-- `a < b`: the order of the scalars of the composed strings. -/
def SwiftString.Less (sw : SwiftString) (a b : String) : Prop := sw.nfc a < sw.nfc b

instance (sw : SwiftString) : DecidableRel sw.Less := fun _ _ => inferInstanceAs (Decidable (_ < _))

theorem SwiftString.strictWeak_less (sw : SwiftString) : StrictWeak sw.Less :=
  StrictWeak.of_linearOrder.comap sw.nfc

/-- Composition leaves ASCII text as it is. -/
def SwiftString.KeepsAscii (sw : SwiftString) : Prop :=
  ∀ s : String, (∀ c ∈ s.toList, c.toNat < 128) → sw.nfc s = s

/-- ASCII texts are compared character by character. -/
theorem SwiftString.KeepsAscii.less_iff {sw : SwiftString} (hsw : sw.KeepsAscii) {a b : String}
    (ha : ∀ c ∈ a.toList, c.toNat < 128) (hb : ∀ c ∈ b.toList, c.toNat < 128) :
    sw.Less a b ↔ a.toList < b.toList := by
  rw [SwiftString.Less, hsw a ha, hsw b hb, String.lt_iff_toList_lt]

/-- The string functions on composed text whose only cased letters are
ASCII. -/
def SwiftString.ascii : SwiftString where
  nfc s := s
  uppercased s := String.ofList (s.toList.map Char.toUpper)
  contains s t := t.toList <:+: s.toList

theorem SwiftString.keepsAscii_ascii : SwiftString.ascii.KeepsAscii := fun _ _ => rfl

/-! ## Substrings

The extension of `String` in `LogInViewController.swift`, on the characters of
the string. -/

section Substrings

variable {α : Type*}

/-- `subscript(r: Range<Int>)`. -/
def charactersIn (s : List α) (lower upper : Int) : Option (List α) :=
  let length : Int := s.length
  let lowerBound := max 0 (min length lower)
  let upperBound := min length (max 0 upper)
  -- an inverted range would move the end before the start
  if lowerBound ≤ upperBound then
    some ((s.drop lowerBound.toNat).take (upperBound - lowerBound).toNat)
  else none

/-- `substring(toIndex:)`. -/
def substringTo (s : List α) (toIndex : Int) : Option (List α) :=
  charactersIn s 0 (max 0 toIndex)

/-- Up to an index is always a substring. -/
theorem substringTo_eq (s : List α) (toIndex : Int) :
    substringTo s toIndex = some (s.take toIndex.toNat) := by
  simp only [substringTo, charactersIn]
  rw [if_pos (by omega)]
  have hlower : (max 0 (min (s.length : Int) 0)).toNat = 0 := by omega
  have hupper : (min (s.length : Int) (max 0 (max 0 toIndex)) - max 0 (min (s.length : Int) 0)).toNat =
      min toIndex.toNat s.length := by
    omega
  rw [hlower, hupper, List.drop_zero, ← List.take_eq_take_min]

end Substrings

/-! ## User defaults -/

/-- The property-list values the screens store. -/
inductive DefaultsValue
  | int (n : Int)
  | string (s : String)
deriving DecidableEq, Repr

/-- `UserDefaults.standard`. -/
abbrev UserDefaults := String → Option DefaultsValue

namespace UserDefaults

/-- `set(_:forKey:)`. -/
def set (ud : UserDefaults) (key : String) (v : DefaultsValue) : UserDefaults :=
  Function.update ud key (some v)

/-- `removeObject(forKey:)`. -/
def removeObject (ud : UserDefaults) (key : String) : UserDefaults :=
  Function.update ud key none

/-- `string(forKey:)`: a stored number is returned as its decimal text. -/
def string (ud : UserDefaults) (key : String) : Option String :=
  (ud key).map fun
    | .int n => text n
    | .string s => s

@[simp] theorem string_set_self (ud : UserDefaults) (key s : String) :
    (ud.set key (.string s)).string key = some s := by
  simp [string, set]

@[simp] theorem string_set_ne (ud : UserDefaults) {key key' : String} (v : DefaultsValue)
    (h : key' ≠ key) : (ud.set key v).string key' = ud.string key' := by
  simp [string, set, h]

@[simp] theorem string_removeObject_self (ud : UserDefaults) (key : String) :
    (ud.removeObject key).string key = none := by
  simp [string, removeObject]

@[simp] theorem string_removeObject_ne (ud : UserDefaults) {key key' : String} (h : key' ≠ key) :
    (ud.removeObject key).string key' = ud.string key' := by
  simp [string, removeObject, h]

theorem string_of_int {ud : UserDefaults} {key : String} {n : Int}
    (h : ud key = some (.int n)) : ud.string key = some (text n) := by
  simp [string, h]

theorem string_of_string {ud : UserDefaults} {key s : String}
    (h : ud key = some (.string s)) : ud.string key = some s := by
  simp [string, h]

end UserDefaults

end Takeit
