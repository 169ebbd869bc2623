import Mathlib.Data.List.Nodup

/-!
# Tables with keys and references

A table is a list of rows no two of which agree in a key column, so no table
breaks a primary key or a unique index. Rows are written one at a time, by their
images before and after; what the keys do not allow is refused
(`Table.write`).

A column of one table may refer to a key column of another. Where the row
referred to is deleted or gets another key, the reference is set to null
(`setNull`), and no reference dangles (`References.parent`,
`References.child`).
-/

namespace Takeit.Logic

variable {κ ρ σ : Type}

/-! ## Writes -/

/-- A row is written: an insert has no row before, a delete has none after. -/
structure Write (ρ : Type) where
  before : Option ρ := none
  after : Option ρ := none
deriving DecidableEq

namespace Write

/-- `INSERT`. -/
def insert (r : ρ) : Write ρ := { after := some r }

/-- `UPDATE` of one row. -/
def update (r r' : ρ) : Write ρ := { before := some r, after := some r' }

/-- `DELETE` of one row. -/
def delete (r : ρ) : Write ρ := { before := some r }

/-- The value that the key column loses. -/
def dropped [DecidableEq κ] (key : ρ → κ) (w : Write ρ) : Option κ :=
  (w.before.map key).filter fun k => some k ≠ w.after.map key

theorem dropped_eq_some [DecidableEq κ] {key : ρ → κ} {w : Write ρ} {k : κ} :
    w.dropped key = some k ↔ w.before.map key = some k ∧ w.after.map key ≠ some k := by
  rw [dropped, Option.filter_eq_some_iff, decide_eq_true_eq, ne_comm]

/-- A value that is not lost is the one of the row after. -/
theorem map_after_of_not_dropped [DecidableEq κ] {key : ρ → κ} {w : Write ρ} {r : ρ}
    (hbefore : w.before = some r) (h : w.dropped key ≠ some (key r)) :
    w.after.map key = some (key r) := by
  by_contra hafter
  exact h (dropped_eq_some.mpr ⟨by rw [hbefore, Option.map_some], hafter⟩)

end Write

/-! ## Tables -/

/-- Rows no two of which have the same value in a key column. -/
structure Table (keys : List (ρ → κ)) where
  rows : List ρ
  unique : ∀ key ∈ keys, (rows.map key).Nodup

namespace Table

variable {keys : List (ρ → κ)} {key : ρ → κ} {t t' : Table keys} {w : Write ρ} {r r' : ρ}

/-- A table without rows. -/
def empty : Table keys := ⟨[], fun _ _ => List.nodup_nil⟩

theorem eq_of_key (hkey : key ∈ keys) (hr : r ∈ t.rows) (hr' : r' ∈ t.rows)
    (h : key r = key r') : r = r' :=
  List.inj_on_of_nodup_map (t.unique key hkey) hr hr' h

/-- Every row is changed, and none in a key column. -/
def map (f : ρ → ρ) (hf : ∀ key ∈ keys, ∀ r, key (f r) = key r) (t : Table keys) :
    Table keys where
  rows := t.rows.map f
  unique key hkey := by
    have hsame : (t.rows.map f).map key = t.rows.map key := by
      rw [List.map_map]
      exact List.map_congr_left fun r _ => hf key hkey r
    rw [hsame]
    exact t.unique key hkey

section Writes

variable [DecidableEq ρ]

/-- The rows a write leaves alone. -/
def rest (t : Table keys) (w : Write ρ) : List ρ := t.rows.filter fun r => some r ≠ w.before

theorem mem_rest : r ∈ t.rest w ↔ r ∈ t.rows ∧ w.before ≠ some r := by
  rw [rest, List.mem_filter, decide_eq_true_eq, ne_comm]

/-- The row before is there, and the row after agrees with no other in a key. -/
def Accepts (t : Table keys) (w : Write ρ) : Prop :=
  (∀ r ∈ w.before, r ∈ t.rows) ∧ ∀ r ∈ w.after, ∀ key ∈ keys, key r ∉ (t.rest w).map key

theorem rest_insert : t.rest (.insert r) = t.rows := List.filter_eq_self.mpr fun _ _ => rfl

/-- A row is inserted if it agrees with none in a key. -/
theorem accepts_insert_iff : t.Accepts (.insert r) ↔ ∀ key ∈ keys, key r ∉ t.rows.map key := by
  rw [Accepts, rest_insert]
  constructor
  · intro h
    exact h.2 r rfl
  · intro h
    refine ⟨nofun, ?_⟩
    rintro _ ⟨⟩
    exact h

variable [DecidableEq κ]

instance (t : Table keys) (w : Write ρ) : Decidable (t.Accepts w) :=
  inferInstanceAs (Decidable (_ ∧ _))

/-- The rows after an accepted write. -/
def written (t : Table keys) (w : Write ρ) (h : t.Accepts w) : Table keys where
  rows := w.after.toList ++ t.rest w
  unique key hkey := by
    have hrest : ((t.rest w).map key).Nodup := (t.unique key hkey).sublist
      (List.Sublist.map key List.filter_sublist)
    rw [List.map_append]
    cases hafter : w.after with
    | none => exact hrest
    | some r => exact List.nodup_cons.mpr ⟨h.2 r hafter key hkey, hrest⟩

/-- A write, if the keys allow it. -/
def write (t : Table keys) (w : Write ρ) : Option (Table keys) :=
  if h : t.Accepts w then some (t.written w h) else none

theorem isSome_write_iff : (t.write w).isSome = true ↔ t.Accepts w := by
  unfold write
  split
  · rename_i h
    exact iff_of_true rfl h
  · rename_i h
    exact iff_of_false Bool.false_ne_true h

theorem accepts_of_write (h : t.write w = some t') : t.Accepts w :=
  isSome_write_iff.mp (by rw [h]; rfl)

theorem rows_of_write (h : t.write w = some t') : t'.rows = w.after.toList ++ t.rest w := by
  unfold write at h
  split at h
  · rw [← Option.some.inj h]
    rfl
  · exact absurd h (by simp)

/-- The row after has the key of a row only if that one is the row before. -/
theorem before_eq_of_key (h : t.write w = some t') (hkey : key ∈ keys) (hafter : w.after = some r')
    (hr : r ∈ t.rows) (heq : key r = key r') : w.before = some r := by
  by_contra hother
  refine (accepts_of_write h).2 r' hafter key hkey (List.mem_map.mpr ⟨r, ?_, heq⟩)
  exact mem_rest.mpr ⟨hr, hother⟩

/-- The value that a key column loses is gone. -/
theorem ne_dropped_of_write (h : t.write w = some t') (hkey : key ∈ keys) (hr : r ∈ t'.rows) :
    w.dropped key ≠ some (key r) := by
  intro hdropped
  obtain ⟨hbefore, hafter⟩ := Write.dropped_eq_some.mp hdropped
  obtain ⟨old, hold, heq⟩ := Option.map_eq_some_iff.mp hbefore
  rw [rows_of_write h, List.mem_append, Option.mem_toList] at hr
  rcases hr with hnew | hrest
  · exact hafter (by rw [hnew, Option.map_some])
  · obtain ⟨hr, hother⟩ := mem_rest.mp hrest
    have hsame := t.eq_of_key hkey ((accepts_of_write h).1 old hold) hr heq
    exact hother (hsame ▸ hold)

end Writes

end Table

/-! ## References -/

/-- `ON DELETE SET NULL` and `ON UPDATE SET NULL`: a reference to the value that
was dropped is null from now on. -/
def setNull [DecidableEq κ] (dropped : Option κ) (reference : Option κ) : Option κ :=
  reference.filter fun k => some k ≠ dropped

theorem setNull_eq_some [DecidableEq κ] {dropped reference : Option κ} {k : κ} :
    setNull dropped reference = some k ↔ reference = some k ∧ dropped ≠ some k := by
  rw [setNull, Option.filter_eq_some_iff, decide_eq_true_eq, ne_comm]

/-- Every value of the column is one of the key column. -/
def References (column : σ → Option κ) (children : List σ) (key : ρ → κ) (parents : List ρ) : Prop :=
  ∀ c ∈ children, ∀ k ∈ column c, k ∈ parents.map key

instance [DecidableEq κ] (column : σ → Option κ) (children : List σ) (key : ρ → κ)
    (parents : List ρ) : Decidable (References column children key parents) :=
  inferInstanceAs (Decidable (∀ c ∈ children, ∀ k ∈ column c, k ∈ parents.map key))

namespace References

variable {keys : List (ρ → κ)} {key : ρ → κ} {column : σ → Option κ} {children : List σ}
  {parents : List ρ}

theorem nil : References column [] key parents := fun _ hc => absurd hc List.not_mem_nil

/-- Rows that refer to nothing new. -/
theorem map (h : References column children key parents) {f : σ → σ}
    (hf : ∀ c, ∀ k ∈ column (f c), k ∈ column c) :
    References column (children.map f) key parents := by
  intro c' hc' k hk
  obtain ⟨c, hc, rfl⟩ := List.mem_map.mp hc'
  exact h c hc k (hf c k hk)

/-- Rows referred to that change, and keep their keys. -/
theorem map_parents (h : References column children key parents) {f : ρ → ρ}
    (hf : ∀ r, key (f r) = key r) : References column children key (parents.map f) := by
  have hsame : (parents.map f).map key = parents.map key := by
    rw [List.map_map]
    exact List.map_congr_left fun r _ => hf r
  intro c hc k hk
  rw [hsame]
  exact h c hc k hk

/-- A write among the rows referred to, with its `SET NULL`. -/
theorem parent [DecidableEq κ] [DecidableEq ρ] {t t' : Table keys} {w : Write ρ} {f : σ → σ}
    (h : References column children key t.rows) (hw : t.write w = some t')
    (hf : ∀ c, column (f c) = setNull (w.dropped key) (column c)) :
    References column (children.map f) key t'.rows := by
  intro c' hc' k hk
  obtain ⟨c, hc, rfl⟩ := List.mem_map.mp hc'
  rw [Option.mem_def, hf, setNull_eq_some] at hk
  obtain ⟨hk, hkept⟩ := hk
  obtain ⟨r, hr, rfl⟩ := List.mem_map.mp (h c hc k hk)
  rw [Table.rows_of_write hw, List.map_append, List.mem_append]
  by_cases hbefore : w.before = some r
  · -- the row changes, and its key does not
    obtain ⟨r', hr', heq⟩ := Option.map_eq_some_iff.mp
      (Write.map_after_of_not_dropped hbefore hkept)
    exact .inl (List.mem_map.mpr ⟨r', Option.mem_toList.mpr hr', heq⟩)
  · exact .inr (List.mem_map_of_mem (Table.mem_rest.mpr ⟨hr, hbefore⟩))

/-- A write among the rows that refer, checked. -/
theorem child [DecidableEq κ] [DecidableEq σ] {keys : List (σ → κ)} {t t' : Table keys} {w : Write σ}
    (h : References column t.rows key parents) (hw : t.write w = some t')
    (hnew : References column w.after.toList key parents) :
    References column t'.rows key parents := by
  intro c hc k hk
  rw [Table.rows_of_write hw, List.mem_append] at hc
  rcases hc with hc | hc
  · exact hnew c hc k hk
  · exact h c (Table.mem_rest.mp hc).1 k hk

end References

end Takeit.Logic
