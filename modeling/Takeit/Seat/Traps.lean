import Takeit.Seat.Hall

/-!
# Where the booking screen traps

A handler traps if it loops over `0...count-1` of an empty array or indexes
out of range. In reachable states all indices are in range, so what is left
are the empty arrays: a query without documents, and a pay while no selected
cell has been drawn since the last tap (`returns_iff_guard`).
-/

namespace Takeit

open Takeit.Logic Takeit.Firestore

/-! ## Handlers that return -/

namespace SeatLayout

theorem isSome_sell {t : ClassTitle} : ∀ {ks : List Nat} {l : SeatLayout},
    (∀ k ∈ ks, (l.cell? ⟨t, k⟩).isSome) → (l.sell t ks).isSome := by
  intro ks
  induction ks with
  | nil => exact fun _ => rfl
  | cons k rest ih =>
      intro l hin
      unfold sell
      rw [if_pos (hin k List.mem_cons_self)]
      apply ih
      intro k' hk'
      rw [isSome_cell?_setCell]
      exact hin k' (List.mem_cons_of_mem _ hk')

end SeatLayout

namespace SeatGrid

theorem isSome_sellSection {g : SeatGrid} {t : ClassTitle} {shown : Station}
    {others : List Station} (harr : g.stationArray = shown :: others)
    (hin : ∀ k ∈ g.selectedSection t, (shown.cell? ⟨t, k⟩).isSome) :
    (g.sellSection t).isSome := by
  unfold sellSection
  split
  · rfl
  · obtain ⟨sold, hsold⟩ := Option.isSome_iff_exists.mp (SeatLayout.isSome_sell hin)
    simp [harr, hsold]

/-- Selling a section keeps the stations in memory as they are, but for what
is sold. -/
theorem sellSection_inRange {g g' : SeatGrid} {t : ClassTitle} {shown : Station}
    {others : List Station} (harr : g.stationArray = shown :: others)
    (hin : ∀ p, g.Sells p → (shown.cell? p).isSome) (h : g.sellSection t = some g') :
    ∃ shown', g'.stationArray = shown' :: others ∧
      ∀ p, g'.Sells p → (shown'.cell? p).isSome := by
  obtain ⟨sold, rfl, -, hcell⟩ := sellSection_spec harr h
  refine ⟨{ shown with toSeatLayout := sold }, rfl, fun p hp => ?_⟩
  rw [Sells, selectedSection_setStations] at hp
  rw [hcell]
  split
  · rfl
  · exact hin p hp

end SeatGrid

namespace SeatVC

/-- With a label collected and the rows in range, a pay goes through. -/
theorem isSome_payButton {vc : SeatVC} {shown : Station} {others : List Station}
    (hne : vc.seatSelectedArray ≠ []) (harr : vc.stationArray = shown :: others)
    (hin : ∀ p, vc.Sells p → (shown.cell? p).isSome) : vc.payButton.isSome := by
  have hlisted : vc.toSeatGrid.collectSeatSelected = some vc.toSeatGrid.listed := if_neg hne
  have harr₀ : vc.toSeatGrid.listed.stationArray = shown :: others := harr
  have hin₀ : ∀ p, vc.toSeatGrid.listed.Sells p → (shown.cell? p).isSome := by
    intro p hp
    exact hin p (by simpa only [SeatGrid.Sells, SeatGrid.selectedSection_listed] using hp)
  obtain ⟨g₁, h₁⟩ := Option.isSome_iff_exists.mp
    (SeatGrid.isSome_sellSection (t := .one) harr₀ fun k hk => hin₀ ⟨.one, k⟩ hk)
  obtain ⟨s₁, harr₁, hin₁⟩ := SeatGrid.sellSection_inRange harr₀ hin₀ h₁
  obtain ⟨g₂, h₂⟩ := Option.isSome_iff_exists.mp
    (SeatGrid.isSome_sellSection (t := .two) harr₁ fun k hk => hin₁ ⟨.two, k⟩ hk)
  obtain ⟨s₂, harr₂, hin₂⟩ := SeatGrid.sellSection_inRange harr₁ hin₁ h₂
  obtain ⟨g₃, h₃⟩ := Option.isSome_iff_exists.mp
    (SeatGrid.isSome_sellSection (t := .three) harr₂ fun k hk => hin₂ ⟨.three, k⟩ hk)
  obtain ⟨s₃, harr₃, -⟩ := SeatGrid.sellSection_inRange harr₂ hin₂ h₃
  simp [payButton, hlisted, h₁, h₂, h₃, SeatGrid.fillStation, harr₃]

/-- There is a label for every dish. -/
def FoodLabelled (vc : SeatVC) : Prop :=
  vc.foodCountArray.length = vc.foodArray.length ∧
    (vc.foodsAwaited = true → vc.foodArray = [])

/-- A click below a dish that has a label goes through. -/
theorem isSome_clickAdd {vc : SeatVC} {tag : Nat} (h : vc.FoodLabelled)
    (htag : tag < vc.foodCountArray.length) : (vc.clickAdd tag).isSome := by
  have hlabel := List.getElem?_eq_getElem htag
  have hfood := List.getElem?_eq_getElem (h.1 ▸ htag)
  have htotal : vc.foodTotal = some _ := if_pos (Nat.le_of_eq h.1.symm)
  simp only [clickAdd, hfood, hlabel, htotal, Option.bind_eq_bind, Option.bind_some]
  split <;> rfl

theorem isSome_clickMinus {vc : SeatVC} {tag : Nat} (h : vc.FoodLabelled)
    (htag : tag < vc.foodCountArray.length) : (vc.clickMinus tag).isSome := by
  have hlabel := List.getElem?_eq_getElem htag
  have hfood := List.getElem?_eq_getElem (h.1 ▸ htag)
  simp [clickMinus, hfood, hlabel]

end SeatVC

/-! ## Runs -/

variable {vc t : SeatVC} {a : SeatAction} {es : List (Edge SeatVC SeatAction)}

theorem SeatStep.foodLabelled (h : SeatStep vc a t) (hfood : vc.FoodLabelled) :
    t.FoodLabelled := by
  obtain ⟨hlength, hearly⟩ := hfood
  cases h with
  | foodsFailed => exact ⟨hlength, fun haw => absurd haw (by simp)⟩
  | @foodsShown documents hawaited =>
      refine ⟨?_, fun haw => absurd haw (by simp)⟩
      rw [hearly hawaited] at hlength
      simp [List.eq_nil_of_length_eq_zero hlength]
  | foodAdded => exact ⟨by simpa [SeatVC.setFoodCount] using hlength, hearly⟩
  | foodRemoved => exact ⟨by simpa [SeatVC.setFoodCount] using hlength, hearly⟩
  | tapFree => exact ⟨by simpa using hlength, by simpa using hearly⟩
  | tapSelected => exact ⟨by simpa using hlength, by simpa using hearly⟩
  | _ => exact ⟨hlength, hearly⟩

theorem foodLabelled_of_reachable (h : seatPage.Reachable vc) : vc.FoodLabelled :=
  h.invariant (by rintro _ rfl; exact ⟨rfl, fun _ => rfl⟩)
    fun _ _ _ hfood hst => (seatStep_of_step hst).foodLabelled hfood

/-- Labels have been collected if a selected cell has been drawn. -/
theorem seatSelectedArray_ne_nil_iff (h : seatPage.Run es vc) :
    vc.seatSelectedArray ≠ [] ↔ ∃ p ∈ drawn es, vc.Selected p := by
  rw [(run_drawState h).collected.labels, Ne, List.map_eq_nil_iff, List.filter_eq_nil_iff]
  simp

/-- Where no handler traps: a query that is answered has a document, and a pay
is pressed only after a selected cell has been drawn since the last tap. -/
def TrapGuard (es : List (Edge SeatVC SeatAction)) (vc : SeatVC) : SeatAction → Prop
  | .showAllStations snapshot => snapshot ≠ some []
  | .showAllFoods snapshot => snapshot ≠ some []
  | .payButton => ∃ p ∈ drawn es, vc.Selected p
  | _ => True

/-- After any run, an action that UIKit or Firestore delivers returns exactly
under its guard. -/
theorem returns_iff_guard (h : seatPage.Run es vc) (ha : vc.permits a = true) :
    (vc.exec a).isSome ↔ TrapGuard es vc a := by
  have hfood := foodLabelled_of_reachable ⟨es, h⟩
  cases a with
  | showAllStations snapshot =>
      rcases snapshot with _ | _ | ⟨document, documents⟩ <;>
        simp [SeatVC.exec, SeatVC.showAllStations, TrapGuard]
  | showAllFoods snapshot =>
      rcases snapshot with _ | _ | ⟨document, documents⟩ <;>
        simp [SeatVC.exec, SeatVC.showAllFoods, SeatVC.addScrollFood, TrapGuard]
  | cellForItemAt p =>
      obtain ⟨v, hv⟩ := Option.isSome_iff_exists.mp ha
      refine iff_of_true ?_ trivial
      simp only [SeatVC.exec, SeatVC.cellForItemAt, hv]
      split <;> rfl
  | didSelectItemAt p =>
      obtain ⟨v, hv⟩ := Option.isSome_iff_exists.mp ha
      refine iff_of_true ?_ trivial
      simp only [SeatVC.exec, SeatVC.didSelectItemAt, hv]
      split
      · split <;> rfl
      · rfl
  | add k => exact iff_of_true (by cases k <;> rfl) trivial
  | minus k => exact iff_of_true (by cases k <;> rfl) trivial
  | clickAdd tag =>
      exact iff_of_true (SeatVC.isSome_clickAdd hfood (by simpa [SeatVC.permits] using ha)) trivial
  | clickMinus tag =>
      exact iff_of_true (SeatVC.isSome_clickMinus hfood (by simpa [SeatVC.permits] using ha)) trivial
  | payButton =>
      show (vc.payButton.map SeatVC.Payment.vc).isSome ↔ ∃ p ∈ drawn es, vc.Selected p
      rw [Option.isSome_map, ← seatSelectedArray_ne_nil_iff h]
      constructor
      · intro hpay
        obtain ⟨pay, hpay⟩ := Option.isSome_iff_exists.mp hpay
        obtain ⟨-, -, -, hne, -⟩ := SeatVC.payButton_spec hpay
        exact hne
      · intro hne
        obtain ⟨p, hp⟩ := exists_sells ⟨es, h⟩ hne
        obtain ⟨shown, others, harr, -⟩ := sells_inRange h hp
        refine SeatVC.isSome_payButton hne harr fun q hq => ?_
        obtain ⟨shown', others', harr', hin⟩ := sells_inRange h hq
        obtain ⟨rfl, -⟩ := List.cons.inj (harr'.symm.trans harr)
        exact hin

/-- The pay after both seats are drawn. -/
theorem returns_bothDrawn : ∃ s, seatPage.Run (seatTrace bothDrawn) s ∧
    (s.exec .payButton).isSome := by
  obtain ⟨s, hrun, hon, hsel⟩ : ∃ s, seatPage.Run (seatTrace bothDrawn) s ∧
      s.permits .payButton = true ∧ s.Selected ⟨.one, 0⟩ := Lts.exists_run_trace rfl (by decide)
  refine ⟨s, hrun, (returns_iff_guard hrun hon).mpr ⟨⟨.one, 0⟩, by decide, hsel⟩⟩

/-- The seat that was paid a ticket for is given back. -/
def seatReturned : List SeatAction := oneSeatBooked ++ [.didSelectItemAt ⟨.one, 0⟩]

/-- A cinema without dishes or without halls traps at once, and so does a pay
after the last seat was given back. -/
theorem returns_trapped :
    (∃ s, seatPage.Reachable s ∧ s.permits (.showAllFoods (some [])) = true ∧
      s.exec (.showAllFoods (some [])) = none) ∧
    (∃ s, seatPage.Reachable s ∧ s.permits (.showAllStations (some [])) = true ∧
      s.exec (.showAllStations (some [])) = none) ∧
    ∃ s, seatPage.Reachable s ∧ s.permits .payButton = true ∧ s.exec .payButton = none := by
  refine ⟨⟨_, ⟨[], .start rfl⟩, rfl, rfl⟩, ⟨_, ⟨[], .start rfl⟩, rfl, rfl⟩, ?_⟩
  obtain ⟨s, hrun, hon, htrap⟩ : ∃ s, seatPage.Run (seatTrace seatReturned) s ∧
      s.permits .payButton = true ∧ (s.exec .payButton).isNone = true :=
    Lts.exists_run_trace rfl (by decide)
  exact ⟨s, ⟨_, hrun⟩, hon, Option.isNone_iff_eq_none.mp htrap⟩

end Takeit
