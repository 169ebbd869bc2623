import Mathlib.Data.List.Basic

/-!
# The seat grid

Three blocks of cells under the titles `one`, `two` and `three`. A cell holds
0 (no seat), 1 (sold), 2 (free) or, while a customer has it selected, 3.
-/

namespace Takeit

/-- `classTitle = ["one", "two", "three"]`. -/
inductive ClassTitle
  | one
  | two
  | three
deriving DecidableEq, Repr

namespace ClassTitle

/-- The key of the block in the station document and in `seatLayout`. -/
def key : ClassTitle → String
  | one => "one"
  | two => "two"
  | three => "three"

/-- The section of the collection view that shows the block. -/
def number : ClassTitle → Nat
  | one => 0
  | two => 1
  | three => 2

/-- A statement about every title is one about three. -/
instance {P : ClassTitle → Prop} [DecidablePred P] : Decidable (∀ t, P t) :=
  decidable_of_iff (P .one ∧ P .two ∧ P .three)
    ⟨fun ⟨hone, htwo, hthree⟩ t => by cases t <;> assumption,
      fun h => ⟨h .one, h .two, h .three⟩⟩

end ClassTitle

/-- A cell: the block by its title, and the position in the block. -/
structure IndexPath where
  title : ClassTitle
  row : Nat
deriving DecidableEq, Repr

/-- The three arrays of a hall. -/
structure SeatLayout where
  one : List Int := []
  two : List Int := []
  three : List Int := []
deriving DecidableEq, Repr

namespace SeatLayout

/-- `seatLayout[title]`. -/
def block (l : SeatLayout) : ClassTitle → List Int
  | .one => l.one
  | .two => l.two
  | .three => l.three

/-- `seatLayout[title] = xs`. -/
def setBlock (l : SeatLayout) (t : ClassTitle) (xs : List Int) : SeatLayout :=
  match t with
  | .one => { l with one := xs }
  | .two => { l with two := xs }
  | .three => { l with three := xs }

/-- `seatLayout[title]![row]`; `none` is an index out of range. -/
def cell? (l : SeatLayout) (p : IndexPath) : Option Int := (l.block p.title)[p.row]?

/-- `seatLayout[title]![row] = v`, for a row in range. -/
def setCell (l : SeatLayout) (p : IndexPath) (v : Int) : SeatLayout :=
  l.setBlock p.title ((l.block p.title).set p.row v)

/-- `for j in 0...rows.count-1 { layout[title][rows[j]] = 1 }`; `none` is an
index out of range. -/
def sell (l : SeatLayout) (t : ClassTitle) : List Nat → Option SeatLayout
  | [] => some l
  | k :: ks => if (l.cell? ⟨t, k⟩).isSome then (l.setCell ⟨t, k⟩ 1).sell t ks else none

/-- What is sold in the one is sold in the other. -/
def SoldWithin (l l' : SeatLayout) : Prop := ∀ p, l.cell? p = some 1 → l'.cell? p = some 1

/-- Only cells in range can be sold. -/
instance (l l' : SeatLayout) : Decidable (l.SoldWithin l') :=
  decidable_of_iff (∀ t, ∀ k ∈ List.range (l.block t).length,
      l.cell? ⟨t, k⟩ = some 1 → l'.cell? ⟨t, k⟩ = some 1) <| by
    constructor
    · intro h p hp
      have hlt : p.row < (l.block p.title).length := by
        by_contra hge
        rw [cell?, List.getElem?_eq_none (Nat.le_of_not_lt hge)] at hp
        exact absurd hp (by simp)
      exact h p.title p.row (List.mem_range.mpr hlt) hp
    · intro h t k _ hk
      exact h ⟨t, k⟩ hk

@[simp] theorem block_setBlock_self (l : SeatLayout) (t : ClassTitle) (xs : List Int) :
    (l.setBlock t xs).block t = xs := by
  cases t <;> rfl

theorem block_setBlock_ne (l : SeatLayout) {t t' : ClassTitle} (xs : List Int)
    (h : t' ≠ t) : (l.setBlock t xs).block t' = l.block t' := by
  cases t <;> cases t' <;> first | rfl | exact absurd rfl h

theorem cell?_setCell_self {l : SeatLayout} {p : IndexPath} (v : Int)
    (h : (l.cell? p).isSome) : (l.setCell p v).cell? p = some v := by
  have hlt : p.row < (l.block p.title).length := by simpa [cell?] using h
  simp [cell?, setCell, hlt]

theorem cell?_setCell_ne {l : SeatLayout} {p q : IndexPath} (v : Int) (h : q ≠ p) :
    (l.setCell p v).cell? q = l.cell? q := by
  by_cases ht : q.title = p.title
  · have hrow : p.row ≠ q.row := by
      intro hr
      apply h
      cases p; cases q
      simp_all
    simp [cell?, setCell, ht, List.getElem?_set_ne hrow]
  · simp [cell?, setCell, block_setBlock_ne _ _ ht]

/-- Writing a cell moves no cell in or out of range. -/
theorem isSome_cell?_setCell (l : SeatLayout) (p q : IndexPath) (v : Int) :
    ((l.setCell p v).cell? q).isSome = (l.cell? q).isSome := by
  by_cases h : q = p
  · subst h
    simp only [cell?, setCell, block_setBlock_self, List.getElem?_set_self']
    cases (l.block q.title)[q.row]? <;> rfl
  · rw [cell?_setCell_ne v h]

/-- All cells of the hall. -/
def cells (l : SeatLayout) : List Int := l.one ++ l.two ++ l.three

/-- A hall as it is stored: every cell is 0, 1 or 2. -/
def Stored (l : SeatLayout) : Prop := ∀ t, ∀ v ∈ l.block t, v = 0 ∨ v = 1 ∨ v = 2

instance (l : SeatLayout) : Decidable l.Stored :=
  inferInstanceAs (Decidable (∀ t, ∀ v ∈ l.block t, _))

theorem Stored.cell {l : SeatLayout} (h : l.Stored) {p : IndexPath} {v : Int}
    (hv : l.cell? p = some v) : v = 0 ∨ v = 1 ∨ v = 2 :=
  h p.title v (List.mem_of_getElem? hv)

@[simp] theorem cell?_empty (p : IndexPath) : ({} : SeatLayout).cell? p = none := by
  obtain ⟨title, row⟩ := p
  cases title <;> rfl

/-- Writing a cell takes one of its old value away and adds one of the new. -/
theorem count_cells_setCell {l : SeatLayout} {p : IndexPath} {v : Int} (w a : Int)
    (h : l.cell? p = some v) : ((l.setCell p w).cells.count a : Int) =
      l.cells.count a - (if v = a then 1 else 0) + if w = a then 1 else 0 := by
  obtain ⟨hlt, hget⟩ := List.getElem?_eq_some_iff.mp h
  have hblock : (((l.block p.title).set p.row w).count a : Int) =
      (l.block p.title).count a - (if v = a then 1 else 0) + if w = a then 1 else 0 := by
    have hpos : v = a → 0 < (l.block p.title).count a := by
      rintro rfl
      exact List.count_pos_iff.mpr (hget ▸ List.getElem_mem hlt)
    rw [List.count_set hlt, hget]
    by_cases hold : v = a
    · have hcount := hpos hold
      simp only [beq_iff_eq, hold, if_true]
      split <;> omega
    · simp only [beq_iff_eq, hold, if_false]
      split <;> omega
  obtain ⟨title, row⟩ := p
  cases title <;> simp only [block] at hblock <;>
    simp only [cells, setCell, setBlock, block, List.count_append] <;> omega

/-- Layouts with the same cells are equal. -/
theorem ext_cell? {l l' : SeatLayout} (h : ∀ p, l.cell? p = l'.cell? p) : l = l' := by
  have hblock : ∀ t, l.block t = l'.block t := fun t =>
    List.ext_getElem? fun k => h ⟨t, k⟩
  cases l; cases l'
  simp only [mk.injEq]
  exact ⟨hblock .one, hblock .two, hblock .three⟩

/-- What selling rows of one block does to every cell. -/
theorem sell_spec {t : ClassTitle} : ∀ {ks : List Nat} {l l' : SeatLayout},
    l.sell t ks = some l' →
    (∀ k ∈ ks, (l.cell? ⟨t, k⟩).isSome) ∧
    ∀ p, l'.cell? p = if p.title = t ∧ p.row ∈ ks then some 1 else l.cell? p := by
  intro ks
  induction ks with
  | nil =>
      intro l l' h
      simp only [sell, Option.some.injEq] at h
      subst h
      simp
  | cons k rest ih =>
      intro l l' h
      unfold sell at h
      split at h
      · rename_i hk
        obtain ⟨hin, hcell⟩ := ih h
        refine ⟨?_, ?_⟩
        · intro k' hk'
          rcases List.mem_cons.mp hk' with rfl | hk'
          · exact hk
          · simpa [isSome_cell?_setCell] using hin k' hk'
        · intro p
          rw [hcell p]
          by_cases hp : p = ⟨t, k⟩
          · subst hp
            simp [cell?_setCell_self 1 hk]
          · have hrow : p.title = t → p.row ≠ k := by
              rintro rfl rfl
              exact hp rfl
            rw [cell?_setCell_ne 1 hp]
            by_cases ht : p.title = t
            · simp [ht, hrow ht]
            · simp [ht]
      · exact absurd h (by simp)

end SeatLayout

end Takeit
