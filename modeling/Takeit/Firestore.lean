import Mathlib.Algebra.Field.Rat
import Mathlib.Algebra.Ring.Int.Defs
import Mathlib.Logic.Function.Basic
import Mathlib.Data.List.Basic
import Takeit.Logic.Lists

/-!
# Cloud Firestore, as the app uses it

Values, documents and one collection at a time. A query returns all documents
of the collection in some order (`Collection.Lists`); `setData` without merge
replaces a whole document (`Collection.setData`).
-/

namespace Takeit.Firestore

/-- Floating-point numbers by what they denote. -/
inductive Double
  | nan
  | infinity (negative : Bool)
  | finite (q : Rat)
deriving DecidableEq, Repr

/-- `Int(d)`: towards zero; `none` is the trap on a number that is not finite or
out of range. -/
def Double.toInt? : Double → Option Int
  | .finite q =>
      let n := if 0 ≤ q then q.floor else q.ceil
      if -2 ^ 63 ≤ n ∧ n < 2 ^ 63 then some n else none
  | _ => none

/-- A field value. `other` stands for the kinds nothing in the app reads
(maps, timestamps, geo points, references, bytes). -/
inductive Value
  | null
  | bool (b : Bool)
  | int (n : Int)
  | double (d : Double)
  | string (s : String)
  | array (xs : List Value)
  | other (kind : String)

namespace Value

/-- `as? String`. -/
def asString : Value → Option String
  | string s => some s
  | _ => none

/-- `as? Int`. The numbers of a snapshot are `NSNumber`s: a double converts if
it is a whole number in range, and a boolean is 0 or 1. -/
def asInt : Value → Option Int
  | int n => some n
  | double (.finite q) =>
      if q.den = 1 ∧ -2 ^ 63 ≤ q.num ∧ q.num < 2 ^ 63 then some q.num else none
  | bool b => some (if b then 1 else 0)
  | _ => none

/-- `as? TimeInterval`. An integer of a snapshot converts if a double can hold
it, that is if all but its first 53 digits are 0. -/
def asDouble : Value → Option Double
  | double d => some d
  | int n => if n.natAbs % 2 ^ (n.natAbs.log2 - 52) = 0 then some (.finite n) else none
  | bool b => some (.finite (if b then 1 else 0))
  | _ => none

/-- `as? [Int]`: an array all of whose elements convert. -/
def asIntArray : Value → Option (List Int)
  | array xs => xs.mapM asInt
  | _ => none

/-- An `[Int]` held as `Any`. -/
def ints (xs : List Int) : Value := array (xs.map int)

@[simp] theorem asIntArray_ints (xs : List Int) : (ints xs).asIntArray = some xs := by
  show (xs.map int).mapM asInt = some xs
  rw [Logic.mapM_eq_some_iff, List.map_map]
  rfl

theorem ints_injective : Function.Injective ints := by
  intro xs ys h
  have hread : (ints xs).asIntArray = (ints ys).asIntArray := by rw [h]
  simpa using hread

end Value

/-- `[String : Any]`. -/
abbrev DocumentData := String → Option Value

/-- A dictionary literal. -/
def dictionary (entries : List (String × Value)) : DocumentData :=
  fun key => entries.lookup key

/-- A dictionary literal has no entry outside its keys. -/
theorem dictionary_eq_none {entries : List (String × Value)} {key : String}
    (h : ∀ entry ∈ entries, entry.1 ≠ key) : dictionary entries key = none := by
  unfold dictionary
  rw [List.lookup_eq_none_iff]
  intro entry hentry
  exact bne_iff_ne.mpr (h entry hentry).symm

/-- The documents of a collection, by document id. -/
abbrev Collection := String → Option DocumentData

namespace Collection

/-- `document(id).setData(data)`: creates or replaces the document. -/
def setData (c : Collection) (id : String) (data : DocumentData) : Collection :=
  Function.update c id (some data)

@[simp] theorem setData_self (c : Collection) (id : String) (data : DocumentData) :
    c.setData id data id = some data := by
  simp [setData]

@[simp] theorem setData_ne (c : Collection) {id id' : String} (data : DocumentData)
    (h : id' ≠ id) : c.setData id data id' = c id' := by
  simp [setData, h]

/-- `docs` is an answer of `getDocuments`: every document once, in any order. -/
structure Lists (c : Collection) (docs : List (String × DocumentData)) : Prop where
  nodup : (docs.map Prod.fst).Nodup
  mem_iff : ∀ id data, (id, data) ∈ docs ↔ c id = some data

/-- The empty collection is answered with no document. -/
theorem lists_empty : Lists (fun _ => none) [] where
  nodup := List.nodup_nil
  mem_iff := by simp

/-- A new document comes first, say. -/
theorem Lists.setData {c : Collection} {docs : List (String × DocumentData)} (h : c.Lists docs)
    {id : String} (hnew : c id = none) (data : DocumentData) :
    (c.setData id data).Lists ((id, data) :: docs) where
  nodup := by
    rw [List.map_cons, List.nodup_cons]
    refine ⟨fun hid => ?_, h.nodup⟩
    obtain ⟨⟨id', data'⟩, hmem, rfl⟩ := List.mem_map.mp hid
    rw [(h.mem_iff _ _).mp hmem] at hnew
    exact absurd hnew (by simp)
  mem_iff id' data' := by
    rw [List.mem_cons, h.mem_iff]
    by_cases hid : id' = id
    · subst hid
      simp [hnew, eq_comm]
    · simp [hid]

end Collection

end Takeit.Firestore
