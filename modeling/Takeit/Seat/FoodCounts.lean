import Mathlib.Algebra.Order.BigOperators.Group.List
import Takeit.Seat.Basket
import Takeit.Seat.Labels
import Takeit.Seat.Traps

/-!
# The counts below the dishes

`clickAdd` and `clickMinus` move one counter, `totalFoodCount`, and show it
below whichever dish was clicked.

* **per dish** — `counted_iff_guard`: the labels are counters of their own as
  long as the dish that is clicked shows what the common counter holds;
* **limit** — `foodFits_iff_guard`: `clickAdd` checks the limit before the
  click, and the handlers that take tickets away do not check it at all.
-/

namespace Takeit

open Takeit.Logic Takeit.Firestore

namespace FoodPanel

/-- The counts shown below the dishes. -/
def shown (fp : FoodPanel) : List Int := fp.foodCountArray.map numberShown

/-- What is shown below the dishes other than one, together. -/
def shownBut (fp : FoodPanel) (tag : Nat) : Int := (fp.shown.eraseIdx tag).sum

theorem shown_set (fp : FoodPanel) (tag : Nat) (n : Int) :
    { fp with foodCountArray := fp.foodCountArray.set tag (text n) }.shown =
      fp.shown.set tag n := by
  simp [shown, List.map_set]

theorem sum_shown_set {fp : FoodPanel} {tag : Nat} (n : Int)
    (htag : tag < fp.foodCountArray.length) :
    (fp.shown.set tag n).sum = n + fp.shownBut tag := by
  have hlt : tag < (fp.shown.set tag n).length := by simpa [shown] using htag
  unfold shownBut
  rw [← List.CommMonoid.add_sum_eraseIdx hlt, List.getElem_set_self, List.eraseIdx_set_eq]

/-- No count is negative. -/
theorem Inv.sum_nonneg {fp : FoodPanel} (inv : fp.Inv) : 0 ≤ fp.shown.sum := by
  apply List.sum_nonneg
  intro n hn
  obtain ⟨label, hlabel, rfl⟩ := List.mem_map.mp hn
  obtain ⟨m, hm, rfl⟩ := inv.label label hlabel
  rwa [numberShown_text]

end FoodPanel

namespace SeatVC

theorem shown_setFoodCount (vc : SeatVC) (tag : Nat) (food : Food) (n : Int) :
    (vc.setFoodCount tag food n).shown = vc.shown.set tag n :=
  vc.toFoodPanel.shown_set tag n

/-- The loop of `clickAdd` adds up all that is shown. -/
theorem foodTotal_eq {vc : SeatVC} (h : vc.FoodLabelled) : vc.foodTotal = some vc.shown.sum := by
  unfold foodTotal
  rw [if_pos (Nat.le_of_eq h.1.symm), ← h.1, List.take_length]
  rfl

/-! ## Counters of their own -/

/-- The counts as counters of their own: a click moves the one below its dish,
up while there is a ticket left and down to 0, and dishes start at 0. -/
def counted (vc : SeatVC) : SeatAction → List Int
  | .clickAdd tag =>
      if vc.shown.sum < vc.adultCount + vc.childCount then vc.shown.modify tag (· + 1)
      else vc.shown
  | .clickMinus tag => vc.shown.modify tag fun n => if 0 < n then n - 1 else 0
  | .showAllFoods (some documents) => vc.shown ++ List.replicate documents.length 0
  | _ => vc.shown

/-- Where the common counter does as well: it holds what the clicked dish
shows, or neither is more than a click away from 0. -/
def CountGuard (vc : SeatVC) : SeatAction → Prop
  | .clickAdd tag => vc.shown.sum < vc.adultCount + vc.childCount →
      vc.shown[tag]? = some vc.totalFoodCount
  | .clickMinus tag => vc.shown[tag]? = some vc.totalFoodCount ∨
      vc.totalFoodCount ≤ 1 ∧ ∃ n ∈ vc.shown[tag]?, n ≤ 1
  | _ => True

instance (vc : SeatVC) : ∀ a, Decidable (vc.CountGuard a)
  | .clickAdd _ => inferInstanceAs (Decidable (_ → _ = _))
  | .clickMinus _ => inferInstanceAs (Decidable (_ = _ ∨ _ ∧ ∃ n ∈ _, _))
  | .showAllStations _ | .showAllFoods _ | .cellForItemAt _ | .didSelectItemAt _ | .add _
  | .minus _ | .payButton => inferInstanceAs (Decidable True)

end SeatVC

variable {vc t : SeatVC} {a : SeatAction} {es : List (Edge SeatVC SeatAction)}

/-- The count shown below a dish with a label. -/
theorem exists_shown {tag : Nat} (inv : vc.toFoodPanel.Inv)
    (htag : tag < vc.foodCountArray.length) : ∃ n, 0 ≤ n ∧ vc.shown[tag]? = some n := by
  obtain ⟨n, hn, hlabel⟩ := inv.label _ (List.getElem_mem htag)
  refine ⟨n, hn, ?_⟩
  rw [FoodPanel.shown, List.getElem?_map, List.getElem?_eq_getElem htag, hlabel]
  simp

open SeatVC in
/-- A step treats the counts as counters of their own precisely if it meets
its guard. -/
theorem SeatStep.counted_iff (h : SeatStep vc a t) (hvc : seatPage.Reachable vc) :
    t.shown = vc.counted a ↔ vc.CountGuard a := by
  have hfood := foodLabelled_of_reachable hvc
  have htickets := (inStep_of_reachable hvc).ticketsRead
  have inv := foodPanel_inv hvc
  cases h with
  | @foodsShown documents =>
      refine iff_of_true ?_ trivial
      have hzero : numberShown "0" = 0 := numberShown_text 0
      simp [FoodPanel.shown, counted, hzero]
  | @foodAdded tag food total hdish htag htotal hlt =>
      obtain rfl := Option.some.inj ((foodTotal_eq hfood).symm.trans htotal)
      rw [htickets] at hlt
      obtain ⟨n, -, hn⟩ := exists_shown inv htag
      have hcounted : vc.counted (.clickAdd tag) = vc.shown.modify tag (· + 1) := if_pos hlt
      simp only [CountGuard, hlt, true_imp_iff]
      rw [hcounted, shown_setFoodCount, set_eq_modify_iff _ hn, hn, Option.some.injEq]
      omega
  | @foodFull tag total htotal hge =>
      obtain rfl := Option.some.inj ((foodTotal_eq hfood).symm.trans htotal)
      rw [htickets] at hge
      have hcounted : vc.counted (.clickAdd tag) = vc.shown := if_neg hge
      exact iff_of_true hcounted.symm fun hlt => absurd hlt hge
  | @foodRemoved tag food hdish htag =>
      obtain ⟨n, hnonneg, hn⟩ := exists_shown inv htag
      have htotal := inv.total
      simp only [CountGuard, counted]
      rw [shown_setFoodCount, set_eq_modify_iff _ hn, hn]
      simp only [Option.some.injEq, Option.mem_def, exists_eq_left']
      split <;> split <;> omega
  | tapFree =>
      refine iff_of_true ?_ trivial
      rw [foodPanel_tapFree]
      rfl
  | tapSelected =>
      refine iff_of_true ?_ trivial
      rw [foodPanel_tapSelected]
      rfl
  | _ => exact iff_of_true rfl trivial

/-- A click that was taken back leaves the counts as they were precisely if
the common counter held what the dish shows. -/
theorem restored_iff {tag : Nat} {food food' : Food} (inv : vc.toFoodPanel.Inv)
    (htag : tag < vc.foodCountArray.length) :
    ((vc.setFoodCount tag food (vc.totalFoodCount + 1)).setFoodCount tag food'
      (if vc.totalFoodCount + 1 - 1 < 0 then 0 else vc.totalFoodCount + 1 - 1)).shown =
        vc.shown ↔ vc.shown[tag]? = some vc.totalFoodCount := by
  obtain ⟨n, -, hn⟩ := exists_shown inv htag
  have htotal := inv.total
  have hback : (if vc.totalFoodCount + 1 - 1 < 0 then 0 else vc.totalFoodCount + 1 - 1) =
      vc.totalFoodCount := by
    split <;> omega
  have hset : vc.shown.set tag vc.totalFoodCount = vc.shown.modify tag id ↔
      vc.totalFoodCount = id n := set_eq_modify_iff id hn
  rw [List.modify_id] at hset
  rw [SeatVC.shown_setFoodCount, SeatVC.shown_setFoodCount, List.set_set, hback, hset, hn,
    Option.some.injEq]
  exact eq_comm

/-- The counts are counters of their own in the runs whose food clicks all
meet `CountGuard`, and in no others; and a click that was taken back leaves
the counts as they were precisely if it met its guard. -/
theorem counted_iff_guard (h : seatPage.Run es vc) :
    ((∀ e ∈ es, e.post.shown = e.pre.counted e.act) ↔ ∀ e ∈ es, e.pre.CountGuard e.act) ∧
    ∀ tag t u, vc.shown.sum < vc.adultCount + vc.childCount →
      seatPage.step vc (.clickAdd tag) t → seatPage.step t (.clickMinus tag) u →
      (u.shown = vc.shown ↔ vc.CountGuard (.clickAdd tag)) := by
  constructor
  · exact h.steps_iff (Q := fun s a t => t.shown = s.counted a)
      fun _ _ _ hvc hst => (seatStep_of_step hst).counted_iff hvc
  · intro tag t u hroom hadd hminus
    have hvc : seatPage.Reachable vc := ⟨es, h⟩
    cases seatStep_of_step hadd with
    | foodFull htotal hge =>
        obtain rfl := Option.some.inj
          ((SeatVC.foodTotal_eq (foodLabelled_of_reachable hvc)).symm.trans htotal)
        rw [(inStep_of_reachable hvc).ticketsRead] at hge
        exact absurd hroom hge
    | foodAdded hdish htag =>
        cases seatStep_of_step hminus with
        | foodRemoved =>
            exact (restored_iff (foodPanel_inv hvc) htag).trans
              ⟨fun hheld _ => hheld, fun hguard => hguard hroom⟩

/-- One of each dish is bought: the second label jumps to two. -/
def oneOfEach : List SeatAction := twoDishes ++ [.clickAdd 0, .clickAdd 1]

theorem counted_oneDishTwice : ∃ s, seatPage.Run (seatTrace oneDishTwice) s ∧
    s.foodCountArray = ["2", "0"] ∧
    ∀ e ∈ seatTrace oneDishTwice, e.post.shown = e.pre.counted e.act := by
  obtain ⟨s, hrun, hlabels⟩ : ∃ s, seatPage.Run (seatTrace oneDishTwice) s ∧
      s.foodCountArray = ["2", "0"] := Lts.exists_run_trace rfl (by decide)
  exact ⟨s, hrun, hlabels, (counted_iff_guard hrun).1.mpr (by decide)⟩

theorem counted_oneOfEach : ∃ s, seatPage.Run (seatTrace oneOfEach) s ∧
    s.foodCountArray = ["1", "2"] ∧
    ¬ ∀ e ∈ seatTrace oneOfEach, e.post.shown = e.pre.counted e.act :=
  Lts.exists_run_trace rfl (by decide)

/-! ## No more dishes than tickets -/

namespace SeatVC

/-- The counts shown do not exceed the tickets. -/
def FoodFits (vc : SeatVC) : Prop := vc.shown.sum ≤ vc.adultCount + vc.childCount

instance (vc : SeatVC) : Decidable vc.FoodFits := inferInstanceAs (Decidable (_ ≤ _))

/-- Where the handlers keep to the limit: what the common counter will show
fits beside the other dishes, a ticket is taken away only while there is one
to spare, and a seat is given back only while no dish is chosen. -/
def DishGuard (vc : SeatVC) : SeatAction → Prop
  | .clickAdd tag => vc.shown.sum < vc.adultCount + vc.childCount →
      vc.totalFoodCount + 1 + vc.shownBut tag ≤ vc.adultCount + vc.childCount
  | .clickMinus tag =>
      (if 0 < vc.totalFoodCount then vc.totalFoodCount - 1 else 0) + vc.shownBut tag ≤
        vc.adultCount + vc.childCount
  | .minus _ => vc.shown.sum < vc.adultCount + vc.childCount
  | .didSelectItemAt p => vc.Selected p → vc.shown.sum = 0
  | _ => True

instance (vc : SeatVC) : ∀ a, Decidable (vc.DishGuard a)
  | .clickAdd _ | .didSelectItemAt _ => inferInstanceAs (Decidable (_ → _))
  | .clickMinus _ => inferInstanceAs (Decidable (_ ≤ _))
  | .minus _ => inferInstanceAs (Decidable (_ < _))
  | .showAllStations _ | .showAllFoods _ | .cellForItemAt _ | .add _ | .payButton =>
      inferInstanceAs (Decidable True)

theorem foodFits_setFoodCount {vc : SeatVC} {tag : Nat} (food : Food) (n : Int)
    (htag : tag < vc.foodCountArray.length) : (vc.setFoodCount tag food n).FoodFits ↔
      n + vc.shownBut tag ≤ vc.adultCount + vc.childCount := by
  unfold FoodFits
  rw [shown_setFoodCount, FoodPanel.sum_shown_set n htag]
  rfl

end SeatVC

open SeatVC in
/-- From a state within the limit a step stays within it precisely if it meets
its guard. -/
theorem SeatStep.foodFits_iff (h : SeatStep vc a t) (hvc : seatPage.Reachable vc)
    (hfits : vc.FoodFits) : t.FoodFits ↔ vc.DishGuard a := by
  have hfood := foodLabelled_of_reachable hvc
  have htickets := (inStep_of_reachable hvc).ticketsRead
  have inv := foodPanel_inv hvc
  cases h with
  | @foodsShown documents =>
      have hzero : numberShown "0" = 0 := numberShown_text 0
      refine iff_of_true ?_ trivial
      simpa [FoodFits, FoodPanel.shown, hzero] using hfits
  | @foodAdded tag food total hdish htag htotal hlt =>
      obtain rfl := Option.some.inj ((foodTotal_eq hfood).symm.trans htotal)
      rw [htickets] at hlt
      rw [foodFits_setFoodCount _ _ htag]
      exact ⟨fun h _ => h, fun h => h hlt⟩
  | @foodFull tag total htotal hge =>
      obtain rfl := Option.some.inj ((foodTotal_eq hfood).symm.trans htotal)
      rw [htickets] at hge
      exact iff_of_true hfits fun hlt => absurd hlt hge
  | @foodRemoved tag food hdish htag =>
      have htotal := inv.total
      rw [foodFits_setFoodCount _ _ htag]
      simp only [DishGuard]
      split <;> split <;> omega
  | @tapInert p v hv hdead =>
      refine iff_of_true hfits fun hsel => ?_
      have hthree := (SeatGrid.selected_iff hv).mp hsel
      omega
  | @tapFree p v hv h0 h1 h3 =>
      have hfree : ¬ vc.Selected p := (SeatGrid.selected_iff hv).not.mpr h3
      unfold FoodFits
      rw [ticketPanel_tapFree, foodPanel_tapFree]
      exact iff_of_true hfits fun hsel => absurd hsel hfree
  | @tapSelected p hsel =>
      have hnonneg := inv.sum_nonneg
      unfold FoodFits
      rw [ticketPanel_tapSelected, foodPanel_tapSelected]
      -- no ticket is left
      show vc.shown.sum ≤ 0 + 0 ↔ _
      simp only [DishGuard, hsel, true_imp_iff]
      omega
  | @add k =>
      have htotal := (vc.addTicket_spec k).total
      refine iff_of_true ?_ trivial
      show vc.shown.sum ≤ (vc.addTicket k).total
      rw [htotal]
      exact le_trans hfits (Int.le_add_one (Int.le_refl _))
  | @minus k =>
      have htotal := (vc.minusTicket_spec k).total
      show vc.shown.sum ≤ (vc.minusTicket k).total ↔ _
      rw [htotal]
      exact Int.le_sub_one_iff
  | _ => exact iff_of_true hfits trivial

/-- There are no more dishes than tickets in every state of a run whose steps
all meet `DishGuard`, and in no other run. -/
theorem foodFits_iff_guard (h : seatPage.Run es vc) :
    Lts.Throughout SeatVC.FoodFits es vc ↔ ∀ e ∈ es, e.pre.DishGuard e.act :=
  h.always_iff (J := fun s => seatPage.Reachable s ∧ s.FoodFits)
    (by
      rintro s rfl
      exact ⟨⟨[], .start rfl⟩, by decide⟩)
    (fun _ _ _ hs hst hguard =>
      ⟨hs.1.step hst, ((seatStep_of_step hst).foodFits_iff hs.1 hs.2).mpr hguard⟩)
    (fun _ hs => hs.2)
    (fun _ _ _ hs hst => ((seatStep_of_step hst).foodFits_iff hs.1 hs.2).mp)

theorem foodFits_oneDishTwice : ∃ s, seatPage.Run (seatTrace oneDishTwice) s ∧
    s.foodCountArray = ["2", "0"] ∧
    Lts.Throughout SeatVC.FoodFits (seatTrace oneDishTwice) s := by
  obtain ⟨s, hrun, hlabels⟩ : ∃ s, seatPage.Run (seatTrace oneDishTwice) s ∧
      s.foodCountArray = ["2", "0"] := Lts.exists_run_trace rfl (by decide)
  exact ⟨s, hrun, hlabels, (foodFits_iff_guard hrun).mpr (by decide)⟩

/-- With the dishes chosen a ticket is taken away. -/
def ticketDropped : List SeatAction := oneDishTwice ++ [.minus .adult]

theorem foodFits_ticketDropped : ∃ s, seatPage.Run (seatTrace ticketDropped) s ∧
    s.adultCount + s.childCount = 1 ∧ s.shown.sum = 2 ∧ ¬ s.FoodFits :=
  Lts.exists_run_trace rfl (by decide)

end Takeit
