import Takeit.Logic.Lts
import Takeit.Seat.SeatVC

/-!
# What one step of the booking screen does

`SeatStep` lists every outcome a step can have, with all its guards; the
invariants of the screen are proved by going through it once. The lemmas on
the handlers that branch give their effect on each part of the screen: the
grid, the tickets, the food.
-/

namespace Takeit

open Takeit.Logic Takeit.Firestore

/-- The booking screen, from the storyboard's state on. -/
def seatPage : Lts SeatVC SeatAction := .ofNext (· = SeatVC.viewDidLoad) SeatVC.next

/-- The steps the listed actions take from there. -/
abbrev seatTrace (as : List SeatAction) : List (Edge SeatVC SeatAction) :=
  Lts.trace SeatVC.next SeatVC.viewDidLoad as

/-! ## Selling -/

namespace SeatGrid

/-- The cell's row is in the array of its section, so a pay sells it. -/
abbrev Sells (g : SeatGrid) (p : IndexPath) : Prop := p.row ∈ g.selectedSection p.title

/-- The cell is shown as selected. -/
def Selected (g : SeatGrid) (p : IndexPath) : Prop := g.seatLayout.cell? p = some 3

/-- The cell takes taps: it shows a seat that is not sold. -/
def Taps (g : SeatGrid) (p : IndexPath) : Prop :=
  ∃ v ∈ g.seatLayout.cell? p, v ≠ 0 ∧ v ≠ 1

instance (g : SeatGrid) (p : IndexPath) : Decidable (g.Selected p) :=
  inferInstanceAs (Decidable (_ = _))

instance (g : SeatGrid) (p : IndexPath) : Decidable (g.Taps p) :=
  inferInstanceAs (Decidable (∃ v ∈ _, _))

theorem selected_iff {g : SeatGrid} {p : IndexPath} {v : Int}
    (hv : g.seatLayout.cell? p = some v) : g.Selected p ↔ v = 3 := by
  rw [Selected, hv, Option.some.injEq]

theorem taps_iff {g : SeatGrid} {p : IndexPath} {v : Int}
    (hv : g.seatLayout.cell? p = some v) : g.Taps p ↔ v ≠ 0 ∧ v ≠ 1 := by
  simp [Taps, hv]

/-- The grid with its seat list brought up to date. -/
def listed (g : SeatGrid) : SeatGrid :=
  { g with seatSelected :=
      g.seatSelectedArray.foldl (fun s label => s ++ (label ++ "\n")) g.seatSelected }

/-- The grid with other stations in memory. -/
def setStations (g : SeatGrid) (stations : List Station) : SeatGrid :=
  { g with stationArray := stations }

/-- The grid after a pay that turned the shown station's arrays into `sold`. -/
def paid (g : SeatGrid) (shown : Station) (others : List Station) (sold : SeatLayout) :
    SeatGrid :=
  { g.listed.setStations ({ shown with toSeatLayout := sold } :: others) with
    station := { toSeatLayout := sold, stationId := stationDocument } }

/-- The arrays `sold` are those of `shown` with the cells a pay sells set
to 1. -/
structure SoldFrom (g : SeatGrid) (shown : Station) (sold : SeatLayout) : Prop where
  inRange : ∀ p, g.Sells p → (shown.cell? p).isSome
  cell : ∀ p, sold.cell? p = if g.Sells p then some 1 else shown.cell? p

/-- What the shown station has sold stays sold. -/
theorem SoldFrom.keeps {g : SeatGrid} {shown : Station} {sold : SeatLayout}
    (h : g.SoldFrom shown sold) {p : IndexPath} (hp : shown.cell? p = some 1) :
    sold.cell? p = some 1 := by
  rw [h.cell]
  split
  · rfl
  · exact hp

@[simp] theorem selectedSection_listed (g : SeatGrid) (t : ClassTitle) :
    g.listed.selectedSection t = g.selectedSection t := by
  cases t <;> rfl

@[simp] theorem selectedSection_setStations (g : SeatGrid) (stations : List Station)
    (t : ClassTitle) : (g.setStations stations).selectedSection t = g.selectedSection t := by
  cases t <;> rfl

@[simp] theorem selectedSection_paid (g : SeatGrid) (shown : Station)
    (others : List Station) (sold : SeatLayout) (t : ClassTitle) :
    (g.paid shown others sold).selectedSection t = g.selectedSection t := by
  cases t <;> rfl

@[simp] theorem selectedSection_clearSelected (g : SeatGrid) (t : ClassTitle) :
    g.clearSelected.selectedSection t = [] := by
  cases t <;> rfl

theorem sellSection_spec {g g' : SeatGrid} {t : ClassTitle} {shown : Station}
    {others : List Station} (harr : g.stationArray = shown :: others)
    (h : g.sellSection t = some g') :
    ∃ sold, g' = g.setStations ({ shown with toSeatLayout := sold } :: others) ∧
      (∀ k ∈ g.selectedSection t, (shown.cell? ⟨t, k⟩).isSome) ∧
      ∀ p, sold.cell? p =
        if p.title = t ∧ p.row ∈ g.selectedSection t then some 1 else shown.cell? p := by
  unfold sellSection at h
  split at h
  · rename_i hnil
    refine ⟨shown.toSeatLayout, ?_, by simp [hnil], by simp [hnil]⟩
    rw [← Option.some.inj h, setStations, ← harr]
  · simp only [harr, Option.bind_eq_bind, Option.bind_eq_some_iff] at h
    obtain ⟨sold, hsold, heq⟩ := h
    obtain ⟨hin, hcell⟩ := SeatLayout.sell_spec hsold
    exact ⟨sold, (Option.some.inj heq).symm, hin, hcell⟩

theorem sellSection_nil {g g' : SeatGrid} {t : ClassTitle} (harr : g.stationArray = [])
    (h : g.sellSection t = some g') : g'.stationArray = [] := by
  unfold sellSection at h
  split at h
  · rw [← Option.some.inj h, harr]
  · simp [harr] at h

/-- Selling the three sections one after the other sells what is selected. -/
theorem sellSections_spec {g g₁ g₂ g₃ : SeatGrid} {shown : Station}
    {others : List Station} (harr : g.stationArray = shown :: others)
    (h₁ : g.sellSection .one = some g₁) (h₂ : g₁.sellSection .two = some g₂)
    (h₃ : g₂.sellSection .three = some g₃) :
    ∃ sold, g₃ = g.setStations ({ shown with toSeatLayout := sold } :: others) ∧
      g.SoldFrom shown sold := by
  obtain ⟨s₁, hg₁, hin₁, hc₁⟩ := sellSection_spec harr h₁
  obtain ⟨s₂, hg₂, hin₂, hc₂⟩ := sellSection_spec (by rw [hg₁]; rfl) h₂
  obtain ⟨s₃, hg₃, hin₃, hc₃⟩ := sellSection_spec (by rw [hg₂]; rfl) h₃
  simp only [hg₂, hg₁, selectedSection_setStations] at hin₂ hin₃ hc₂ hc₃
  -- no sale puts a cell in range
  have hback : ∀ {l l' : SeatLayout} {t : ClassTitle} {ks : List Nat},
      (∀ k ∈ ks, (l.cell? ⟨t, k⟩).isSome) →
      (∀ p, l'.cell? p = if p.title = t ∧ p.row ∈ ks then some 1 else l.cell? p) →
      ∀ p, (l'.cell? p).isSome → (l.cell? p).isSome := by
    intro l l' t ks hin hcell p hp
    rw [hcell] at hp
    split at hp
    · rename_i hsel
      obtain ⟨rfl, hrow⟩ := hsel
      exact hin _ hrow
    · exact hp
  refine ⟨s₃, by rw [hg₃, hg₂, hg₁]; rfl, ?_, ?_⟩
  · rintro ⟨t, k⟩ hp
    cases t with
    | one => exact hin₁ _ hp
    | two => exact hback hin₁ hc₁ _ (hin₂ _ hp)
    | three => exact hback hin₁ hc₁ _ (hback hin₂ hc₂ _ (hin₃ _ hp))
  · rintro ⟨t, k⟩
    rw [hc₃, hc₂, hc₁]
    cases t <;> simp

end SeatGrid

namespace SeatVC

open SeatGrid

/-- What a press of `payButton` leaves behind. -/
theorem payButton_spec {vc : SeatVC} {pay : Payment} (h : vc.payButton = some pay) :
    ∃ shown others sold, vc.seatSelectedArray ≠ [] ∧ vc.stationArray = shown :: others ∧
      vc.SoldFrom shown sold ∧
      pay.vc = { vc with toSeatGrid := vc.toSeatGrid.paid shown others sold } ∧
      pay.save = { vc with toSeatGrid := vc.toSeatGrid.listed }.saveData ∧
      pay.written = ⟨sold, stationDocument⟩ := by
  simp only [payButton, Option.bind_eq_bind, Option.bind_eq_some_iff] at h
  obtain ⟨g₀, h₀, g₁, h₁, g₂, h₂, g₃, h₃, g₄, h₄, heq⟩ := h
  have hlisted : vc.seatSelectedArray ≠ [] ∧ g₀ = vc.toSeatGrid.listed := by
    unfold collectSeatSelected at h₀
    split at h₀
    · exact absurd h₀ (by simp)
    · rename_i hne
      exact ⟨hne, (Option.some.inj h₀).symm⟩
  obtain ⟨hne, rfl⟩ := hlisted
  cases harr : vc.stationArray with
  | nil =>
      -- `fillStation` reads `stationArray[0]`
      have harr₀ : vc.toSeatGrid.listed.stationArray = [] := harr
      have hnil := sellSection_nil (sellSection_nil (sellSection_nil harr₀ h₁) h₂) h₃
      simp [fillStation, hnil] at h₄
  | cons shown others =>
      have harr₀ : vc.toSeatGrid.listed.stationArray = shown :: others := harr
      obtain ⟨sold, hg₃, hsold⟩ := sellSections_spec harr₀ h₁ h₂ h₃
      simp only [hg₃, fillStation, setStations, Option.some.injEq] at h₄
      have hpaid : g₄ = vc.toSeatGrid.paid shown others sold := h₄.symm
      subst hpaid
      obtain rfl := Option.some.inj heq
      refine ⟨shown, others, sold, hne, rfl, ⟨?_, ?_⟩, rfl, rfl, rfl⟩
      · intro p hp
        exact hsold.inRange p (by simpa only [Sells, selectedSection_listed] using hp)
      · intro p
        simpa only [Sells, selectedSection_listed] using hsold.cell p

end SeatVC

/-! ## Taps and food clicks, part by part -/

namespace TicketPanel

/-- The tickets when a free seat has been taken. -/
def seatTaken (tp : TicketPanel) : TicketPanel :=
  { tp with
    seatCount := tp.seatCount + 1
    seatOrderLabel := text (tp.seatCount + 1)
    seatID := if tp.seatCount + 1 = 1 then "金額：0" else tp.seatID
    addAdultEnabled := if tp.seatCount + 1 = 1 then true else tp.addAdultEnabled
    addChildEnabled := if tp.seatCount + 1 = 1 then true else tp.addChildEnabled }

/-- The tickets when a selected seat has been given back. -/
def seatReturned (tp : TicketPanel) : TicketPanel :=
  { tp with
    seatCount := tp.seatCount - 1
    seatOrderLabel := text (tp.seatCount - 1)
    adultCount := 0
    childCount := 0
    seatAmount := 0
    adultCountLabel := text 0
    childCountLabel := text 0
    seatSelectLabel := text (0 + 0)
    seatID := "金額：" ++ text 0
    addAdultEnabled := true
    addChildEnabled := true
    minusAdultEnabled := false
    minusChildEnabled := false }

end TicketPanel

namespace SeatVC

section Tap

variable (vc : SeatVC) (p : IndexPath)

@[simp] theorem seatGrid_tapFree : (vc.selectSeat p).finishTap.toSeatGrid =
    { vc.toSeatGrid with seatLayout := vc.seatLayout.setCell p 3 }.clearSelected := by
  simp only [selectSeat, finishTap]; split <;> rfl

@[simp] theorem ticketPanel_tapFree :
    (vc.selectSeat p).finishTap.toTicketPanel = vc.toTicketPanel.seatTaken := by
  simp only [selectSeat, finishTap, TicketPanel.seatTaken]; split <;> rfl

@[simp] theorem foodPanel_tapFree :
    (vc.selectSeat p).finishTap.toFoodPanel = vc.toFoodPanel := by
  simp only [selectSeat, finishTap]; split <;> rfl

@[simp] theorem stationsAwaited_tapFree :
    (vc.selectSeat p).finishTap.stationsAwaited = vc.stationsAwaited := by
  simp only [selectSeat, finishTap]; split <;> rfl

@[simp] theorem foodsAwaited_tapFree :
    (vc.selectSeat p).finishTap.foodsAwaited = vc.foodsAwaited := by
  simp only [selectSeat, finishTap]; split <;> rfl

@[simp] theorem seatGrid_tapSelected : (vc.deselectSeat p).finishTap.toSeatGrid =
    { vc.toSeatGrid with seatLayout := vc.seatLayout.setCell p 2 }.clearSelected := by
  simp only [deselectSeat, finishTap]; split <;> rfl

@[simp] theorem ticketPanel_tapSelected :
    (vc.deselectSeat p).finishTap.toTicketPanel = vc.toTicketPanel.seatReturned := by
  simp only [deselectSeat, finishTap, TicketPanel.seatReturned]; split <;> rfl

@[simp] theorem foodPanel_tapSelected :
    (vc.deselectSeat p).finishTap.toFoodPanel = vc.toFoodPanel := by
  simp only [deselectSeat, finishTap]; split <;> rfl

@[simp] theorem stationsAwaited_tapSelected :
    (vc.deselectSeat p).finishTap.stationsAwaited = vc.stationsAwaited := by
  simp only [deselectSeat, finishTap]; split <;> rfl

@[simp] theorem foodsAwaited_tapSelected :
    (vc.deselectSeat p).finishTap.foodsAwaited = vc.foodsAwaited := by
  simp only [deselectSeat, finishTap]; split <;> rfl

end Tap

end SeatVC

/-! ## The outcomes of a step -/

/-- Every way a step can go. -/
inductive SeatStep (vc : SeatVC) : SeatAction → SeatVC → Prop
  | stationsFailed : vc.stationsAwaited = true →
      SeatStep vc (.showAllStations none) { vc with stationsAwaited := false }
  | stationsShown {documents shown others} : vc.stationsAwaited = true →
      documents.map Station.ofDocumentData = shown :: others →
      SeatStep vc (.showAllStations (some documents)) { vc with
        stationsAwaited := false
        stationArray := shown :: others
        seatLayout := shown.toSeatLayout }
  | foodsFailed : vc.foodsAwaited = true →
      SeatStep vc (.showAllFoods none) { vc with foodsAwaited := false }
  | foodsShown {documents} : vc.foodsAwaited = true → documents ≠ [] →
      SeatStep vc (.showAllFoods (some documents)) { vc with
        foodsAwaited := false
        foodArray := documents.map Food.ofDocumentData
        foodCountArray := vc.foodCountArray ++ List.replicate documents.length "0" }
  | drawSelected {p} : vc.Selected p →
      SeatStep vc (.cellForItemAt p) { vc with toSeatGrid := vc.toSeatGrid.drawSelected p }
  | drawOther {p v} : vc.seatLayout.cell? p = some v → v ≠ 3 →
      SeatStep vc (.cellForItemAt p) vc
  | tapInert {p v} : vc.seatLayout.cell? p = some v → v = 0 ∨ v = 1 →
      SeatStep vc (.didSelectItemAt p) vc
  | tapFree {p v} : vc.seatLayout.cell? p = some v → v ≠ 0 → v ≠ 1 → v ≠ 3 →
      SeatStep vc (.didSelectItemAt p) (vc.selectSeat p).finishTap
  | tapSelected {p} : vc.Selected p →
      SeatStep vc (.didSelectItemAt p) (vc.deselectSeat p).finishTap
  | add {k} : vc.addEnabled k = true →
      SeatStep vc (.add k) { vc with toTicketPanel := vc.toTicketPanel.addTicket k }
  | minus {k} : vc.minusEnabled k = true →
      SeatStep vc (.minus k) { vc with toTicketPanel := vc.toTicketPanel.minusTicket k }
  | foodAdded {tag food total} : vc.foodArray[tag]? = some food →
      tag < vc.foodCountArray.length → vc.foodTotal = some total →
      total < numberShown vc.seatSelectLabel →
      SeatStep vc (.clickAdd tag) (vc.setFoodCount tag food (vc.totalFoodCount + 1))
  | foodFull {tag total} : vc.foodTotal = some total →
      ¬ total < numberShown vc.seatSelectLabel → SeatStep vc (.clickAdd tag) vc
  | foodRemoved {tag food} : vc.foodArray[tag]? = some food →
      tag < vc.foodCountArray.length →
      SeatStep vc (.clickMinus tag)
        (vc.setFoodCount tag food
          (if vc.totalFoodCount - 1 < 0 then 0 else vc.totalFoodCount - 1))
  | paid {shown others sold} : vc.payEnabled = true → vc.seatSelectedArray ≠ [] →
      vc.stationArray = shown :: others → vc.SoldFrom shown sold →
      SeatStep vc .payButton { vc with toSeatGrid := vc.toSeatGrid.paid shown others sold }

section Outcomes

variable {vc t : SeatVC}

theorem seatStep_cellForItemAt {p : IndexPath} (h : vc.cellForItemAt p = some t) :
    SeatStep vc (.cellForItemAt p) t := by
  simp only [SeatVC.cellForItemAt] at h
  split at h
  · exact absurd h (by simp)
  · rename_i v hv
    split at h
    · rename_i h3
      obtain rfl := Option.some.inj h
      subst h3
      exact .drawSelected hv
    · rename_i h3
      obtain rfl := Option.some.inj h
      exact .drawOther hv h3

theorem seatStep_didSelectItemAt {p : IndexPath} (h : vc.didSelectItemAt p = some t) :
    SeatStep vc (.didSelectItemAt p) t := by
  simp only [SeatVC.didSelectItemAt] at h
  split at h
  · exact absurd h (by simp)
  · rename_i v hv
    split at h
    · rename_i hlive
      split at h
      · rename_i h3
        obtain rfl := Option.some.inj h
        exact .tapFree hv hlive.1 hlive.2 h3
      · rename_i h3
        obtain rfl := Option.some.inj h
        obtain rfl := not_not.mp h3
        exact .tapSelected hv
    · rename_i hdead
      obtain rfl := Option.some.inj h
      exact .tapInert hv (by omega)

theorem seatStep_clickAdd {tag : Nat} (h : vc.clickAdd tag = some t)
    (htag : tag < vc.foodCountArray.length) : SeatStep vc (.clickAdd tag) t := by
  simp only [SeatVC.clickAdd, Option.bind_eq_bind, Option.bind_eq_some_iff] at h
  obtain ⟨food, hfood, label, _, total, htotal, h⟩ := h
  split at h
  · rename_i hlt
    obtain rfl := Option.some.inj h
    exact .foodAdded hfood htag htotal hlt
  · rename_i hge
    obtain rfl := Option.some.inj h
    exact .foodFull htotal hge

end Outcomes

open SeatVC in
theorem seatStep_of_next {vc t : SeatVC} {a : SeatAction} (h : vc.next a = some t) :
    SeatStep vc a t := by
  unfold next at h
  split at h
  case isFalse => exact absurd h (by simp)
  rename_i hperm
  cases a with
  | showAllStations snapshot =>
      cases snapshot with
      | none =>
          obtain rfl := Option.some.inj h
          exact .stationsFailed hperm
      | some documents =>
          simp only [exec, showAllStations] at h
          split at h
          · exact absurd h (by simp)
          · rename_i shown others hdocs
            obtain rfl := Option.some.inj h
            exact .stationsShown hperm hdocs
  | showAllFoods snapshot =>
      cases snapshot with
      | none =>
          obtain rfl := Option.some.inj h
          exact .foodsFailed hperm
      | some documents =>
          simp only [exec, showAllFoods, addScrollFood, List.map_eq_nil_iff] at h
          split at h
          · exact absurd h (by simp)
          · rename_i hne
            obtain rfl := Option.some.inj h
            have hstep : SeatStep vc (.showAllFoods (some documents)) _ := .foodsShown hperm hne
            simpa using hstep
  | cellForItemAt p => exact seatStep_cellForItemAt h
  | didSelectItemAt p => exact seatStep_didSelectItemAt h
  | add k =>
      cases k <;> obtain rfl := Option.some.inj h <;> exact .add hperm
  | minus k =>
      cases k <;> obtain rfl := Option.some.inj h <;> exact .minus hperm
  | clickAdd tag => exact seatStep_clickAdd h (by simpa [permits] using hperm)
  | clickMinus tag =>
      simp only [exec, clickMinus, Option.bind_eq_bind, Option.bind_eq_some_iff] at h
      obtain ⟨food, hfood, label, _, h⟩ := h
      obtain rfl := Option.some.inj h
      exact .foodRemoved hfood (by simpa [permits] using hperm)
  | payButton =>
      simp only [exec, Option.map_eq_some_iff] at h
      obtain ⟨pay, hpay, rfl⟩ := h
      obtain ⟨shown, others, sold, hne, harr, hsold, hvc, -⟩ := payButton_spec hpay
      rw [hvc]
      exact .paid hperm hne harr hsold

/-- A step of the screen has one of the listed outcomes. -/
theorem seatStep_of_step {vc t : SeatVC} {a : SeatAction} (h : seatPage.step vc a t) :
    SeatStep vc a t :=
  seatStep_of_next h

end Takeit
