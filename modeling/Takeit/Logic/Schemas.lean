import Mathlib.Data.List.Pairwise
import Takeit.Logic.Lts

/-!
# Databases with a declared schema

A schema says of each table which values its columns take, which of them must not
be null, which are unique (the primary key and the unique indexes) and which refer
to a unique column of another table or of the same one. Every reference is
`ON DELETE SET NULL ON UPDATE SET NULL`: where the row referred to is deleted or
gets another key, the reference becomes null. Where a change of a key would have to
set null in the table that is being updated, it is refused instead.

Rows are written one at a time (`execute`). In a schema that is `WellFormed` every
sequence of writes leaves a database that is `Sound` (`sound_of_reachable`): the
checks made on the row that is written are enough. And no table loses, gains or moves
a row by a write to another one (`eq_entries`).
-/

namespace Takeit.Logic

/-- A column, the values it takes, and whether it must not be null. -/
structure ColumnDef (κ ν : Type) where
  name : κ
  takes : ν → Bool
  notNull : Bool := false

/-- A reference from a column to a unique column of `parent`. -/
structure ForeignKey (τ κ : Type) where
  column : κ
  parent : τ
  key : κ
deriving DecidableEq

/-- What is declared of a table; the first unique column is its primary key. -/
structure TableDef (τ κ ν : Type) where
  columns : List (ColumnDef κ ν)
  primary : κ
  indexes : List κ := []
  foreignKeys : List (ForeignKey τ κ) := []

/-- A row; `none` is null. -/
abbrev Record (κ ν : Type) := κ → Option ν

/-- The rows of every table. -/
abbrev Rows (τ κ ν : Type) := τ → List (Record κ ν)

/-- A row is written: an insert has no row before, a delete has none after. The row
before is given by its primary key, the row after by its values that are not null. -/
structure RowWrite (τ κ ν : Type) where
  table : τ
  before : Option ν := none
  after : Option (List (κ × ν)) := none

namespace TableDef

variable {τ κ ν : Type} [DecidableEq κ]

/-- The primary key and the unique indexes. -/
def unique (d : TableDef τ κ ν) : List κ := d.primary :: d.indexes

/-- The column is one of the table and takes the value. -/
def Takes (d : TableDef τ κ ν) (c : κ) (v : ν) : Prop :=
  ∃ column ∈ d.columns, column.name = c ∧ column.takes v = true

/-- The column must not be null. -/
def NotNull (d : TableDef τ κ ν) (c : κ) : Prop :=
  ∃ column ∈ d.columns, column.name = c ∧ column.notNull = true

instance (d : TableDef τ κ ν) (c : κ) (v : ν) : Decidable (d.Takes c v) :=
  inferInstanceAs (Decidable (∃ column ∈ d.columns, _))

instance (d : TableDef τ κ ν) (c : κ) : Decidable (d.NotNull c) :=
  inferInstanceAs (Decidable (∃ column ∈ d.columns, _))

end TableDef

/-- The tables and what is declared of them. -/
abbrev Schema (τ κ ν : Type) := τ → TableDef τ κ ν

namespace Schema

variable {τ κ ν : Type} [DecidableEq τ] [DecidableEq κ] [DecidableEq ν] (S : Schema τ κ ν)

/-- References are to unique columns, may be null, and are no keys themselves. -/
structure WellFormed : Prop where
  key : ∀ t, ∀ fk ∈ (S t).foreignKeys, fk.key ∈ (S fk.parent).unique
  nullable : ∀ t, ∀ fk ∈ (S t).foreignKeys, ¬ (S t).NotNull fk.column
  noKey : ∀ t, ∀ fk ∈ (S t).foreignKeys, fk.column ∉ (S t).unique

/-! ## Writing a row -/

variable (db : Rows τ κ ν) (w : RowWrite τ κ ν)

/-- The row after. -/
def after : Option (Record κ ν) := w.after.map fun values c => values.lookup c

/-- The row before. -/
def before : Option (Record κ ν) :=
  w.before.bind fun id => (db w.table).find? fun r => r (S w.table).primary = some id

/-- The rows a write leaves alone. -/
def rest : List (Record κ ν) :=
  match w.before with
  | none => db w.table
  | some id => (db w.table).filter fun r => r (S w.table).primary ≠ some id

/-- The value that the unique column loses. -/
def dropped (key : κ) : Option ν :=
  ((S.before db w).bind (· key)).filter fun v => (after w).bind (· key) ≠ some v

/-- The rows the row after may refer to: in its own table, itself and the rest. -/
def parents (r : Record κ ν) (t : τ) : List (Record κ ν) :=
  if t = w.table then r :: S.rest db w else db t

/-- What is checked of the row after. -/
structure Admits (r : Record κ ν) : Prop where
  takes : ∀ values ∈ w.after, ∀ entry ∈ values, (S w.table).Takes entry.1 entry.2
  notNull : ∀ column ∈ (S w.table).columns, column.notNull = true → r column.name ≠ none
  unique : ∀ c ∈ (S w.table).unique, r c ≠ none → r c ∉ (S.rest db w).map (· c)
  refers : ∀ fk ∈ (S w.table).foreignKeys, r fk.column ≠ none →
    r fk.column ∈ (S.parents db w r fk.parent).map (· fk.key)

/-- The row before is there. An update changes no key that its own table refers to. -/
structure Accepts : Prop where
  found : w.before ≠ none → S.before db w ≠ none
  admits : ∀ r ∈ after w, S.Admits db w r
  restrict : w.after ≠ none → ∀ fk ∈ (S w.table).foreignKeys, fk.parent = w.table →
    S.dropped db w fk.key ≠ none → S.dropped db w fk.key ∉ (db w.table).map (· fk.column)

/-- `SET NULL` for the references to what the write drops. -/
def setNull (t : τ) (r : Record κ ν) : Record κ ν := fun c =>
  if (S t).foreignKeys.any (fun fk => fk.column = c ∧ fk.parent = w.table ∧
      S.dropped db w fk.key = r c) then none else r c

/-- The database after an accepted write. -/
def written : Rows τ κ ν := fun t =>
  (if t = w.table then (after w).toList ++ S.rest db w else db t).map (S.setNull db w t)

instance (r : Record κ ν) : Decidable (S.Admits db w r) :=
  decidable_of_iff
    ((∀ values ∈ w.after, ∀ entry ∈ values, (S w.table).Takes entry.1 entry.2) ∧
      (∀ column ∈ (S w.table).columns, column.notNull = true → r column.name ≠ none) ∧
      (∀ c ∈ (S w.table).unique, r c ≠ none → r c ∉ (S.rest db w).map (· c)) ∧
      ∀ fk ∈ (S w.table).foreignKeys, r fk.column ≠ none →
        r fk.column ∈ (S.parents db w r fk.parent).map (· fk.key))
    ⟨fun ⟨htakes, hnull, hunique, hrefers⟩ => ⟨htakes, hnull, hunique, hrefers⟩,
      fun h => ⟨h.takes, h.notNull, h.unique, h.refers⟩⟩

instance : Decidable (S.Accepts db w) :=
  decidable_of_iff
    ((w.before.isSome = true → (S.before db w).isSome = true) ∧
      (∀ r ∈ after w, S.Admits db w r) ∧
      (w.after.isSome = true → ∀ fk ∈ (S w.table).foreignKeys, fk.parent = w.table →
        S.dropped db w fk.key ≠ none →
        S.dropped db w fk.key ∉ (db w.table).map (· fk.column))) <| by
    simp only [Option.isSome_iff_ne_none]
    exact ⟨fun ⟨hfound, hadmits, hrestrict⟩ => ⟨hfound, hadmits, hrestrict⟩,
      fun h => ⟨h.found, h.admits, h.restrict⟩⟩

/-- The write, if everything that is declared allows it. -/
def execute : Option (Rows τ κ ν) :=
  if S.Accepts db w then some (S.written db w) else none

end Schema

/-- The databases of a schema, from no rows at all on. -/
def relational {τ κ ν : Type} [DecidableEq τ] [DecidableEq κ] [DecidableEq ν] (S : Schema τ κ ν) :
    Lts (Rows τ κ ν) (RowWrite τ κ ν) :=
  .ofNext (· = fun _ => []) S.execute

namespace Schema

variable {τ κ ν : Type} [DecidableEq τ] [DecidableEq κ] [DecidableEq ν] {S : Schema τ κ ν}
  {db db' : Rows τ κ ν} {w : RowWrite τ κ ν} {r : Record κ ν} {t : τ} {c : κ} {v : ν}

theorem execute_eq_some : S.execute db w = some db' ↔ S.Accepts db w ∧ S.written db w = db' := by
  rw [execute, Option.ite_none_right_eq_some, Option.some.injEq]

/-! ## The rows of a write -/

/-- The rows before `SET NULL`. -/
def base (S : Schema τ κ ν) (db : Rows τ κ ν) (w : RowWrite τ κ ν) (t : τ) : List (Record κ ν) :=
  if t = w.table then (after w).toList ++ S.rest db w else db t

theorem written_eq : S.written db w t = (S.base db w t).map (S.setNull db w t) := rfl

omit [DecidableEq τ] [DecidableEq κ] in
theorem mem_db_of_mem_rest (h : r ∈ S.rest db w) : r ∈ db w.table := by
  unfold rest at h
  split at h
  · exact h
  · exact (List.mem_filter.mp h).1

omit [DecidableEq τ] [DecidableEq κ] in
theorem rest_sublist : (S.rest db w).Sublist (db w.table) := by
  unfold rest
  split
  · exact List.Sublist.refl _
  · exact List.filter_sublist

/-- A row is the row after, or was there before. -/
theorem mem_base (h : r ∈ S.base db w t) : (t = w.table ∧ r ∈ after w) ∨ r ∈ db t := by
  unfold base at h
  split at h
  · rename_i ht
    rcases List.mem_append.mp h with h | h
    · exact .inl ⟨ht, Option.mem_toList.mp h⟩
    · exact .inr (ht ▸ mem_db_of_mem_rest h)
  · exact .inr h

/-- `SET NULL` changes references only. -/
theorem setNull_of_noKey (hc : ∀ fk ∈ (S t).foreignKeys, fk.column ≠ c) :
    S.setNull db w t r c = r c := by
  unfold setNull
  split
  · rename_i hany
    obtain ⟨fk, hfk, hcolumn⟩ := List.any_eq_true.mp hany
    exact absurd (of_decide_eq_true hcolumn).1 (hc fk hfk)
  · rfl

theorem setNull_eq_some (h : S.setNull db w t r c = some v) : r c = some v := by
  unfold setNull at h
  split at h
  · exact absurd h (by simp)
  · exact h

/-- A reference that is left is not to what was dropped. -/
theorem setNull_ne_dropped {fk : ForeignKey τ κ} (hfk : fk ∈ (S t).foreignKeys)
    (hparent : fk.parent = w.table) (h : S.setNull db w t r fk.column = some v) :
    S.dropped db w fk.key ≠ some v := by
  intro hdropped
  have hr := setNull_eq_some h
  have hany : (S t).foreignKeys.any (fun fk' => fk'.column = fk.column ∧ fk'.parent = w.table ∧
      S.dropped db w fk'.key = r fk.column) = true :=
    List.any_eq_true.mpr ⟨fk, hfk, decide_eq_true ⟨rfl, hparent, hdropped.trans hr.symm⟩⟩
  rw [setNull, if_pos hany] at h
  exact absurd h (by simp)

omit [DecidableEq τ] [DecidableEq κ] in
theorem before_eq_some {old : Record κ ν} (h : S.before db w = some old) :
    old ∈ db w.table ∧ ∃ id, w.before = some id ∧ old (S w.table).primary = some id := by
  obtain ⟨id, hid, hfind⟩ := Option.bind_eq_some_iff.mp h
  have hfound := List.find?_some hfind
  exact ⟨List.mem_of_find?_eq_some hfind, id, hid, of_decide_eq_true hfound⟩

/-! ## What every sequence of writes leaves -/

/-- No value of the column is in both rows. -/
def Apart (c : κ) (r r' : Record κ ν) : Prop := ∀ v, r c = some v → r' c ≠ some v

omit [DecidableEq κ] [DecidableEq ν] in
theorem apart_symm (c : κ) : Std.Symm (Apart (ν := ν) c) :=
  ⟨fun _ _ h v hv hv' => h v hv' hv⟩

/-- The rows are as the schema declares. -/
structure Sound (S : Schema τ κ ν) (db : Rows τ κ ν) : Prop where
  takes : ∀ t, ∀ r ∈ db t, ∀ c v, r c = some v → (S t).Takes c v
  notNull : ∀ t, ∀ r ∈ db t, ∀ c, (S t).NotNull c → r c ≠ none
  unique : ∀ t, ∀ c ∈ (S t).unique, (db t).Pairwise (Apart c)
  refers : ∀ t, ∀ fk ∈ (S t).foreignKeys, ∀ r ∈ db t, r fk.column ≠ none →
    r fk.column ∈ (db fk.parent).map (· fk.key)

omit [DecidableEq τ] [DecidableEq κ] [DecidableEq ν] in
theorem Sound.empty : S.Sound fun _ => [] where
  takes _ _ hr := absurd hr List.not_mem_nil
  notNull _ _ hr := absurd hr List.not_mem_nil
  unique _ _ _ := List.Pairwise.nil
  refers _ _ _ _ hr := absurd hr List.not_mem_nil

omit [DecidableEq τ] [DecidableEq κ] [DecidableEq ν] in
/-- Rows with the same key are one row. -/
theorem Sound.eq_of_key (hdb : S.Sound db) (hc : c ∈ (S t).unique) {r r' : Record κ ν}
    (hr : r ∈ db t) (hr' : r' ∈ db t) (hv : r c = some v) (hv' : r' c = some v) : r = r' := by
  have := apart_symm (ν := ν) c
  by_contra hne
  exact (hdb.unique t c hc).forall hr hr' hne v hv hv'

/-- A key that is not dropped is still there. -/
theorem Sound.mem_base_of_kept (hdb : S.Sound db) (hv : some v ∈ (db w.table).map (· c))
    (hkept : S.dropped db w c ≠ some v) :
    some v ∈ (S.base db w w.table).map (· c) := by
  obtain ⟨p, hp, hpc⟩ := List.mem_map.mp hv
  rw [base, if_pos rfl, List.map_append, List.mem_append]
  have hrest : p ∈ S.rest db w → some v ∈ (S.rest db w).map (· c) :=
    fun hp => List.mem_map.mpr ⟨p, hp, hpc⟩
  cases hbefore : w.before with
  | none =>
      right
      apply hrest
      rw [rest, hbefore]
      exact hp
  | some id =>
      by_cases hid : p (S w.table).primary = some id
      · -- `p` is the row that changes, so that the row after has its key
        left
        have hfound : ∃ old, S.before db w = some old := by
          rw [before, hbefore, Option.bind_some, ← Option.isSome_iff_exists,
            List.find?_isSome]
          exact ⟨p, hp, decide_eq_true hid⟩
        obtain ⟨old, hold⟩ := hfound
        obtain ⟨hmem, id', hid', hprimary⟩ := before_eq_some hold
        obtain rfl := Option.some.inj (hbefore.symm.trans hid')
        obtain rfl := hdb.eq_of_key List.mem_cons_self hp hmem hid hprimary
        have hafter : (after w).bind (· c) = some v := by
          by_contra hne
          refine hkept (Option.filter_eq_some_iff.mpr ⟨?_, decide_eq_true hne⟩)
          rw [hold]
          exact hpc
        obtain ⟨r, hr, hrc⟩ := Option.bind_eq_some_iff.mp hafter
        exact List.mem_map.mpr ⟨r, Option.mem_toList.mpr hr, hrc⟩
      · right
        apply hrest
        rw [rest, hbefore]
        exact List.mem_filter.mpr ⟨hp, decide_eq_true hid⟩

/-- An accepted write keeps every declaration. -/
theorem Sound.written (hS : S.WellFormed) (hdb : S.Sound db) (h : S.Accepts db w) :
    S.Sound (S.written db w) := by
  -- what is no reference is the same in every row
  have hkeys : ∀ t, ∀ c ∈ (S t).unique, ∀ r, S.setNull db w t r c = r c := by
    intro t c hc r
    refine setNull_of_noKey fun fk hfk heq => ?_
    exact hS.noKey t fk hfk (heq ▸ hc)
  constructor
  · intro t r' hr' c v hv
    obtain ⟨r, hr, rfl⟩ := List.mem_map.mp hr'
    have hrv := setNull_eq_some hv
    rcases mem_base hr with ⟨rfl, hafter⟩ | hr
    · obtain ⟨values, hvalues, hr⟩ := Option.map_eq_some_iff.mp hafter
      have hlookup : values.lookup c = some v := by
        rw [← hrv, ← hr]
      obtain ⟨_, _, hentry, -⟩ := List.lookup_eq_some_iff.mp hlookup
      exact (h.admits r hafter).takes values hvalues (c, v) (by simp [hentry])
    · exact hdb.takes t r hr c v hrv
  · intro t r' hr' c hc
    obtain ⟨r, hr, rfl⟩ := List.mem_map.mp hr'
    have hkept : S.setNull db w t r c = r c := by
      refine setNull_of_noKey fun fk hfk heq => ?_
      exact hS.nullable t fk hfk (heq ▸ hc)
    rw [hkept]
    rcases mem_base hr with ⟨rfl, hafter⟩ | hr
    · obtain ⟨column, hcolumn, rfl, hnull⟩ := hc
      exact (h.admits r hafter).notNull column hcolumn hnull
    · exact hdb.notNull t r hr c hc
  · intro t c hc
    rw [written_eq, List.pairwise_map]
    have hsame : ∀ r r' : Record κ ν, Apart c r r' →
        Apart c (S.setNull db w t r) (S.setNull db w t r') := by
      intro r r' hapart v hv
      rw [hkeys t c hc] at hv ⊢
      exact hapart v hv
    refine List.Pairwise.imp (fun {r r'} => hsame r r') ?_
    unfold base
    split
    · rename_i ht
      subst ht
      rw [List.pairwise_append]
      refine ⟨?_, (hdb.unique _ c hc).sublist rest_sublist, fun r hr r' hr' v hv hv' => ?_⟩
      · cases after w with
        | none => exact List.Pairwise.nil
        | some r => exact List.pairwise_singleton _ _
      · refine (h.admits r (Option.mem_toList.mp hr)).unique c hc (by simp [hv]) ?_
        exact List.mem_map.mpr ⟨r', hr', hv'.trans hv.symm⟩
    · exact hdb.unique t c hc
  · intro t fk hfk r' hr' hne
    obtain ⟨r, hr, rfl⟩ := List.mem_map.mp hr'
    obtain ⟨v, hv⟩ := Option.ne_none_iff_exists'.mp hne
    have hrv := setNull_eq_some hv
    have hparent : some v ∈ (S.base db w fk.parent).map (· fk.key) := by
      rcases mem_base hr with ⟨rfl, hafter⟩ | hr
      · -- the row after has been checked
        have hrefers := (h.admits r hafter).refers fk hfk (by simp [hrv])
        rw [hrv] at hrefers
        unfold parents at hrefers
        unfold base
        split at hrefers
        · rename_i ht
          rw [if_pos ht, hafter]
          exact hrefers
        · rename_i ht
          rwa [if_neg ht]
      · -- any other row refers to what was there, and that has not been dropped
        have hrefers := hdb.refers t fk hfk r hr (by simp [hrv])
        rw [hrv] at hrefers
        by_cases ht : fk.parent = w.table
        · have hkept := setNull_ne_dropped hfk ht hv
          rw [ht] at hrefers ⊢
          exact hdb.mem_base_of_kept hrefers hkept
        · rwa [base, if_neg ht]
    obtain ⟨p, hp, hpv⟩ := List.mem_map.mp hparent
    rw [hv, written_eq, List.map_map]
    refine List.mem_map.mpr ⟨p, hp, ?_⟩
    show S.setNull db w fk.parent p fk.key = some v
    rw [hkeys fk.parent fk.key (hS.key t fk hfk), hpv]

/-- Whatever is written, the rows are as declared. -/
theorem sound_of_reachable (hS : S.WellFormed) (h : (relational S).Reachable db) : S.Sound db := by
  refine h.invariant ?_ ?_
  · rintro _ rfl
    exact Sound.empty
  · intro db w db' hdb hst
    obtain ⟨haccepts, rfl⟩ := execute_eq_some.mp hst
    exact hdb.written hS haccepts

/-! ## The rows of a table by its own writes -/

/-- A row as it was written, and the steps since then, the one that wrote it among
them. -/
structure Entry (τ κ ν : Type) where
  row : Record κ ν
  since : List (Edge (Rows τ κ ν) (RowWrite τ κ ν)) := []

/-- One of the steps since then has dropped what the column refers to. -/
def Entry.Lost (S : Schema τ κ ν) (t : τ) (entry : Entry τ κ ν) (c : κ) : Prop :=
  ∃ fk ∈ (S t).foreignKeys, fk.column = c ∧ ∃ e ∈ entry.since, e.act.table = fk.parent ∧
    S.dropped e.pre e.act fk.key = entry.row c

instance (t : τ) (entry : Entry τ κ ν) (c : κ) : Decidable (entry.Lost S t c) :=
  inferInstanceAs (Decidable (∃ fk ∈ (S t).foreignKeys, _))

/-- What has become of the row. -/
def Entry.now (S : Schema τ κ ν) (t : τ) (entry : Entry τ κ ν) : Record κ ν := fun c =>
  if entry.Lost S t c then none else entry.row c

def Entry.later (entry : Entry τ κ ν) (e : Edge (Rows τ κ ν) (RowWrite τ κ ν)) : Entry τ κ ν :=
  ⟨entry.row, entry.since ++ [e]⟩

/-- The entries of a table that a write to it leaves alone. -/
def restEntries (S : Schema τ κ ν) (w : RowWrite τ κ ν) (entries : List (Entry τ κ ν)) :
    List (Entry τ κ ν) :=
  match w.before with
  | none => entries
  | some id => entries.filter fun entry => entry.row (S w.table).primary ≠ some id

/-- The entries of a table after a step. -/
def nextEntries (S : Schema τ κ ν) (t : τ) (entries : List (Entry τ κ ν))
    (e : Edge (Rows τ κ ν) (RowWrite τ κ ν)) : List (Entry τ κ ν) :=
  (if t = e.act.table then (after e.act).toList.map (⟨·, []⟩) ++ S.restEntries e.act entries
    else entries).map (·.later e)

/-- What the writes to a table make of it. -/
def entries (S : Schema τ κ ν) (t : τ) (es : List (Edge (Rows τ κ ν) (RowWrite τ κ ν))) :
    List (Entry τ κ ν) :=
  es.foldl (S.nextEntries t) []

variable {es : List (Edge (Rows τ κ ν) (RowWrite τ κ ν))} {entry : Entry τ κ ν}

theorem entries_step {e : Edge (Rows τ κ ν) (RowWrite τ κ ν)} :
    S.entries t (es ++ [e]) = S.nextEntries t (S.entries t es) e := by
  rw [entries, List.foldl_append]
  rfl

theorem Entry.now_written (r : Record κ ν) : Entry.now S t ⟨r, []⟩ = r := by
  funext c
  exact if_neg fun ⟨_, _, _, _, he, _⟩ => absurd he List.not_mem_nil

/-- What is no reference is as written. -/
theorem Entry.now_key (hS : S.WellFormed) (hc : c ∈ (S t).unique) :
    entry.now S t c = entry.row c :=
  if_neg fun ⟨_, hfk, hcolumn, _⟩ => hS.noKey t _ hfk (hcolumn ▸ hc)

/-- `SET NULL` is what the step adds to what is lost. -/
theorem Entry.setNull_now :
    S.setNull db w t (entry.now S t) = (entry.later ⟨db, w, db'⟩).now S t := by
  funext c
  have hlater : (entry.later ⟨db, w, db'⟩).Lost S t c ↔ entry.Lost S t c ∨
      ∃ fk ∈ (S t).foreignKeys, fk.column = c ∧ fk.parent = w.table ∧
        S.dropped db w fk.key = entry.row c := by
    unfold Lost later
    simp only [List.mem_append, List.mem_singleton, or_and_right, exists_or, and_or_left,
      exists_eq_left, eq_comm (a := w.table)]
  by_cases hlost : entry.Lost S t c
  · -- it was null before
    have hnow : entry.now S t c = none := if_pos hlost
    unfold setNull
    rw [hnow, ite_self]
    exact (if_pos (hlater.mpr (.inl hlost))).symm
  · have hnow : entry.now S t c = entry.row c := if_neg hlost
    unfold setNull
    rw [hnow]
    refine if_congr ?_ rfl rfl
    rw [hlater, or_iff_right hlost, List.any_eq_true]
    simp only [decide_eq_true_iff]

theorem rest_entries (hS : S.WellFormed) {entries : List (Entry τ κ ν)}
    (h : db w.table = entries.map (Entry.now S w.table)) :
    S.rest db w = (S.restEntries w entries).map (Entry.now S w.table) := by
  unfold rest restEntries
  rw [h]
  cases w.before with
  | none => rfl
  | some id =>
      show List.filter _ (List.map _ _) = List.map _ (List.filter _ _)
      rw [List.filter_map]
      congr 1
      refine List.filter_congr fun entry _ => ?_
      show decide (entry.now S w.table (S w.table).primary ≠ some id) = _
      rw [Entry.now_key hS List.mem_cons_self]

/-- In every run the rows of a table are those that its own writes make, in their order,
with the references set to null that have lost what they referred to since. -/
theorem eq_entries (hS : S.WellFormed) (h : (relational S).Run es db) (t : τ) :
    db t = (S.entries t es).map (Entry.now S t) := by
  induction h with
  | start h0 =>
      obtain rfl := h0
      rfl
  | @step es db w db' _ hst ih =>
      obtain ⟨-, rfl⟩ := execute_eq_some.mp hst
      have hbase : S.base db w t = (if t = w.table
          then (after w).toList.map (⟨·, []⟩) ++ S.restEntries w (S.entries t es)
          else S.entries t es).map (Entry.now S t) := by
        unfold base
        split
        · rename_i ht
          subst ht
          have hnew : ∀ r, Entry.now S w.table ⟨r, []⟩ = r := Entry.now_written
          rw [List.map_append, List.map_map, ← rest_entries hS ih]
          simp [Function.comp_def, hnew]
        · exact ih
      rw [entries_step, written_eq, hbase, nextEntries, List.map_map, List.map_map]
      exact List.map_congr_left fun entry _ => Entry.setNull_now

end Schema

end Takeit.Logic
