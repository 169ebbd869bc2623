import Takeit.Logic.Schemas
import Takeit.Logic.Tables

/-!
# Keyed tables in a database with a declared schema

A table of a schema can be looked at through `f`, which keeps some of its columns.
Where the key columns are kept (`Keeps`), the rows `f` shows are those of a keyed
`Table`: a write that the schema accepts is one that the keyed table accepts
(`exists_write`), what it drops is the same (`dropped_image`), and so is what
becomes null (`reference_setNull`).
-/

namespace Takeit.Logic.Schema

variable {τ κ ν : Type} {ρ σ ι : Type} (S : Schema τ κ ν)

/-- The values of the row are such as its columns take, and none is missing. -/
structure Typed (t : τ) (r : Record κ ν) : Prop where
  takes : ∀ c v, r c = some v → (S t).Takes c v
  notNull : ∀ c, (S t).NotNull c → r c ≠ none

/-- The column is kept as `key`. -/
def Keeps (t : τ) (enc : ι → ν) (f : Record κ ν → ρ) (c : κ) (key : ρ → ι) : Prop :=
  ∀ r, S.Typed t r → r c = some (enc (key (f r)))

/-- The column is kept as `reference`, which may be null. -/
def KeepsNull (t : τ) (enc : ι → ν) (f : Record κ ν → ρ) (c : κ) (reference : ρ → Option ι) :
    Prop :=
  ∀ r, S.Typed t r → r c = (reference (f r)).map enc

variable [DecidableEq τ] [DecidableEq κ] [DecidableEq ν]

/-- The write, looked at through `f`. -/
def image (f : Record κ ν → ρ) (db : Rows τ κ ν) (w : RowWrite τ κ ν) : Write ρ where
  before := (S.before db w).map f
  after := (after w).map f

variable {S} {db : Rows τ κ ν} {w : RowWrite τ κ ν} {r : Record κ ν} {t : τ} {c : κ}
  {enc : ι → ν} {f : Record κ ν → ρ} {key : ρ → ι}

/-! ## Rows -/

omit [DecidableEq τ] [DecidableEq κ] [DecidableEq ν] in
theorem Sound.typed (hdb : S.Sound db) (hr : r ∈ db t) : S.Typed t r :=
  ⟨hdb.takes t r hr, hdb.notNull t r hr⟩

theorem Accepts.typed (h : S.Accepts db w) (hr : r ∈ after w) : S.Typed w.table r where
  takes c v hv := by
    obtain ⟨values, hvalues, rfl⟩ := Option.map_eq_some_iff.mp hr
    obtain ⟨_, _, hentry, -⟩ := List.lookup_eq_some_iff.mp hv
    exact (h.admits _ hr).takes values hvalues (c, v) (by simp [hentry])
  notNull c hc := by
    obtain ⟨column, hcolumn, rfl, hnull⟩ := hc
    exact (h.admits r hr).notNull column hcolumn hnull

theorem Typed.setNull (hS : S.WellFormed) (h : S.Typed t r) : S.Typed t (S.setNull db w t r) where
  takes c v hv := h.takes c v (setNull_eq_some hv)
  notNull c hc := by
    rw [setNull_of_noKey fun fk hfk heq => hS.nullable t fk hfk (heq ▸ hc)]
    exact h.notNull c hc

omit [DecidableEq τ] [DecidableEq κ] in
theorem Sound.typed_before (hdb : S.Sound db) (h : S.before db w = some r) : S.Typed w.table r :=
  hdb.typed (before_eq_some h).1

/-! ## What a write does to the rows that are shown -/

/-- The value a key column loses. -/
theorem dropped_image [DecidableEq ι] (henc : Function.Injective enc) (hdb : S.Sound db)
    (h : S.Accepts db w) (hkey : S.Keeps w.table enc f c key) :
    S.dropped db w c = ((S.image f db w).dropped key).map enc := by
  have hafter : ∀ k, (after w).bind (· c) = some (enc k) ↔
      (S.image f db w).after.map key = some k := by
    intro k
    cases hw : after w with
    | none => simp [image, hw]
    | some r =>
        rw [Option.bind_some, hkey r (h.typed hw), image, hw, Option.map_some, Option.map_some,
          Option.some.injEq, Option.some.injEq, henc.eq_iff]
  cases hbefore : S.before db w with
  | none => simp [dropped, Write.dropped, image, hbefore]
  | some old =>
      have hold : old c = some (enc (key (f old))) := hkey old (hdb.typed_before hbefore)
      unfold dropped Write.dropped
      rw [hbefore, Option.bind_some, hold, image, hbefore, Option.map_some, Option.map_some]
      simp only [Option.filter_some]
      by_cases hkept : (after w).bind (· c) = some (enc (key (f old)))
      · have hkept' := (hafter _).mp hkept
        simp only [image] at hkept'
        simp [hkept, hkept']
      · have hlost : some (key (f old)) ≠ ((after w).map f).map key :=
          fun hsame => hkept ((hafter _).mpr hsame.symm)
        rw [if_pos (decide_eq_true hkept), if_pos (decide_eq_true hlost), Option.map_some]

/-- The rows that a write leaves alone. -/
theorem rest_image {keys : List (ρ → ι)} [DecidableEq ρ] {T : Table keys} (hdb : S.Sound db)
    (henc : Function.Injective enc) (h : S.Accepts db w) (hrows : T.rows = (db w.table).map f)
    (hkey : S.Keeps w.table enc f (S w.table).primary key) :
    T.rest (S.image f db w) = (S.rest db w).map f := by
  rw [Table.rest, hrows, List.filter_map, rest]
  cases hw : w.before with
  | none =>
      have hbefore : S.before db w = none := by rw [before, hw, Option.bind_none]
      simp only [image, hbefore]
      rw [List.filter_eq_self.mpr]
      intro r _
      simp
  | some id =>
      obtain ⟨old, hold⟩ := Option.ne_none_iff_exists'.mp (h.found (by simp [hw]))
      obtain ⟨hmem, id', hid', hprimary⟩ := before_eq_some hold
      obtain rfl := Option.some.inj (hw.symm.trans hid')
      congr 1
      refine List.filter_congr fun r hr => ?_
      -- a row that looks like the row before has its key, and so is that row
      have hsame : f r = f old ↔ r (S w.table).primary = some id := by
        rw [← hprimary, hkey r (hdb.typed hr), hkey old (hdb.typed hmem), Option.some.injEq,
          henc.eq_iff]
        refine ⟨congrArg key, fun heq => ?_⟩
        congr 1
        refine hdb.eq_of_key List.mem_cons_self hr hmem (hkey r (hdb.typed hr)) ?_
        rw [hkey old (hdb.typed hmem), heq]
      simp only [image, hold, Function.comp_apply, Option.map_some, ne_eq, Option.some.injEq, hsame]

variable (key) in
/-- The keyed table takes the write. -/
theorem exists_write {keys : List (ρ → ι)} [DecidableEq ρ] [DecidableEq ι] {T : Table keys}
    (henc : Function.Injective enc) (hdb : S.Sound db) (h : S.Accepts db w)
    (hrows : T.rows = (db w.table).map f)
    (hkey : S.Keeps w.table enc f (S w.table).primary key)
    (hkeys : ∀ key ∈ keys, ∃ c ∈ (S w.table).unique, S.Keeps w.table enc f c key)
    (hkept : ∀ r, S.Typed w.table r → f (S.setNull db w w.table r) = f r) :
    ∃ T', T.write (S.image f db w) = some T' ∧ T'.rows = (S.written db w w.table).map f := by
  have hrest := rest_image hdb henc h hrows hkey
  have haccepts : T.Accepts (S.image f db w) := by
    refine ⟨fun r hr => ?_, fun r' hr' key' hkey' hmem => ?_⟩
    · obtain ⟨old, hold, rfl⟩ := Option.map_eq_some_iff.mp hr
      rw [hrows]
      exact List.mem_map_of_mem (before_eq_some hold).1
    · obtain ⟨r, hr, rfl⟩ := Option.map_eq_some_iff.mp hr'
      obtain ⟨c, hc, hkeeps⟩ := hkeys key' hkey'
      rw [hrest, List.map_map] at hmem
      obtain ⟨other, hother, heq⟩ := List.mem_map.mp hmem
      have hrc := hkeeps r (h.typed hr)
      refine (h.admits r hr).unique c hc (by simp [hrc]) (List.mem_map.mpr ⟨other, hother, ?_⟩)
      rw [hkeeps other (hdb.typed (mem_db_of_mem_rest hother)), hrc, ← heq]
      rfl
  obtain ⟨T', hT'⟩ := Option.isSome_iff_exists.mp (Table.isSome_write_iff.mpr haccepts)
  refine ⟨T', hT', ?_⟩
  have hbase : ∀ r ∈ S.base db w w.table, S.Typed w.table r := by
    intro r hr
    rcases mem_base hr with ⟨-, hr⟩ | hr
    · exact h.typed hr
    · exact hdb.typed hr
  have hsame : (S.base db w w.table).map (f ∘ S.setNull db w w.table) =
      (S.base db w w.table).map f := List.map_congr_left fun r hr => hkept r (hbase r hr)
  rw [Table.rows_of_write hT', hrest, written_eq, List.map_map, hsame, base, if_pos rfl,
    List.map_append]
  congr 1
  simp only [image]
  cases after w <;> rfl

/-- The rows of another table, in which references may become null. -/
theorem written_map (hdb : S.Sound db) (ht : t ≠ w.table) {g : ρ → ρ}
    (hg : ∀ r, S.Typed t r → f (S.setNull db w t r) = g (f r)) :
    (S.written db w t).map f = ((db t).map f).map g := by
  rw [written_eq, base, if_neg ht, List.map_map, List.map_map]
  exact List.map_congr_left fun r hr => hg r (hdb.typed hr)

/-! ## References -/

variable {fk : ForeignKey τ κ} {reference : ρ → Option ι}

/-- A column that refers once. -/
theorem setNull_reference (hfk : fk ∈ (S t).foreignKeys)
    (hone : ∀ fk' ∈ (S t).foreignKeys, fk'.column = fk.column → fk' = fk) :
    S.setNull db w t r fk.column =
      if fk.parent = w.table ∧ S.dropped db w fk.key = r fk.column then none else r fk.column := by
  unfold setNull
  refine if_congr ?_ rfl rfl
  rw [List.any_eq_true]
  constructor
  · intro h
    obtain ⟨fk', hfk', hdrop⟩ := h
    obtain ⟨hcolumn, hdrop⟩ := of_decide_eq_true hdrop
    rwa [hone fk' hfk' hcolumn] at hdrop
  · intro h
    exact ⟨fk, hfk, decide_eq_true ⟨rfl, h⟩⟩

variable (db fk) in
/-- A reference to another table is as it was. -/
theorem reference_kept (henc : Function.Injective enc) (hS : S.WellFormed)
    (hfk : fk ∈ (S t).foreignKeys)
    (hone : ∀ fk' ∈ (S t).foreignKeys, fk'.column = fk.column → fk' = fk)
    (hkeeps : S.KeepsNull t enc f fk.column reference) (hr : S.Typed t r)
    (hparent : fk.parent ≠ w.table) : reference (f (S.setNull db w t r)) = reference (f r) := by
  apply Option.map_injective henc
  rw [← hkeeps _ (hr.setNull hS), ← hkeeps _ hr, setNull_reference hfk hone,
    if_neg fun h => hparent h.1]

variable (fk) in
/-- A reference to the row that is written becomes null as in the keyed tables. -/
theorem reference_setNull [DecidableEq ι] {g : Record κ ν → σ} {key : σ → ι}
    (henc : Function.Injective enc) (hS : S.WellFormed) (hdb : S.Sound db) (h : S.Accepts db w)
    (hfk : fk ∈ (S t).foreignKeys)
    (hone : ∀ fk' ∈ (S t).foreignKeys, fk'.column = fk.column → fk' = fk)
    (hkeeps : S.KeepsNull t enc f fk.column reference)
    (hkey : S.Keeps w.table enc g fk.key key) (hr : S.Typed t r) (hparent : fk.parent = w.table) :
    reference (f (S.setNull db w t r)) =
      Logic.setNull ((S.image g db w).dropped key) (reference (f r)) := by
  apply Option.map_injective henc
  rw [← hkeeps _ (hr.setNull hS), setNull_reference hfk hone,
    dropped_image henc hdb h hkey, hkeeps r hr]
  simp only [hparent, true_and, (Option.map_injective henc).eq_iff]
  cases href : reference (f r) with
  | none => simp [Logic.setNull]
  | some k =>
      rw [Logic.setNull, Option.filter_some]
      by_cases hdropped : (S.image g db w).dropped key = some k
      · simp [hdropped]
      · rw [if_neg hdropped, if_pos (decide_eq_true (Ne.symm hdropped))]

variable (fk) in
/-- The references of the row after are to rows that are shown. -/
theorem references_image {g : Record κ ν → σ} {key : σ → ι} (henc : Function.Injective enc)
    (hdb : S.Sound db) (h : S.Accepts db w) (hfk : fk ∈ (S w.table).foreignKeys)
    (hparent : fk.parent ≠ w.table)
    (hkeeps : S.KeepsNull w.table enc f fk.column reference)
    (hkey : S.Keeps fk.parent enc g fk.key key) :
    References reference (S.image f db w).after.toList key ((db fk.parent).map g) := by
  intro r' hr' k hk
  obtain ⟨r, hr, rfl⟩ := Option.map_eq_some_iff.mp (Option.mem_toList.mp hr')
  have hrk : r fk.column = some (enc k) := by
    rw [hkeeps r (h.typed hr), Option.mem_def.mp hk, Option.map_some]
  have hmem := (h.admits r hr).refers fk hfk (by simp [hrk])
  rw [parents, if_neg hparent, hrk] at hmem
  obtain ⟨p, hp, heq⟩ := List.mem_map.mp hmem
  rw [hkey p (hdb.typed hp), Option.some.injEq, henc.eq_iff] at heq
  rw [List.map_map]
  exact List.mem_map.mpr ⟨p, hp, heq⟩

end Takeit.Logic.Schema
