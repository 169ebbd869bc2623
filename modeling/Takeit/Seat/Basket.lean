import Mathlib.Algebra.BigOperators.Group.List.Basic
import Takeit.Logic.Lists
import Takeit.Seat.Tickets

/-!
# The basket and the amount that is stored

A click below a dish shows `totalFoodCount`, which counts the clicks on all
dishes, and recomputes `foodAmount` from that dish alone. The amount is right
as long as the other dishes cost nothing, and `charged_iff_guard` says that it
is right in no other run.
-/

namespace Takeit

open Takeit.Logic Takeit.Firestore

namespace FoodPanel

/-- What each dish costs at the count shown below it. -/
def lines (fp : FoodPanel) : List Int :=
  List.zipWith (fun label food => numberShown label * food.foodPrice)
    fp.foodCountArray fp.foodArray

/-- What all dishes cost. -/
def basket (fp : FoodPanel) : Int := fp.lines.sum

/-- What the dishes other than one cost. -/
def basketBut (fp : FoodPanel) (tag : Nat) : Int := (fp.lines.eraseIdx tag).sum

/-- The basket once `n` of dish `tag` are shown. -/
theorem basket_set {fp : FoodPanel} {tag : Nat} {food : Food} (n : Int)
    (hfood : fp.foodArray[tag]? = some food) (htag : tag < fp.foodCountArray.length) :
    { fp with foodCountArray := fp.foodCountArray.set tag (text n) }.basket =
      n * food.foodPrice + fp.basketBut tag := by
  have hlines : { fp with foodCountArray := fp.foodCountArray.set tag (text n) }.lines =
      fp.lines.set tag (n * food.foodPrice) := by
    simp [lines, zipWith_set _ _ hfood]
  have hlt : tag < (fp.lines.set tag (n * food.foodPrice)).length := by
    obtain ⟨hlt, -⟩ := List.getElem?_eq_some_iff.mp hfood
    rw [List.length_set, lines, List.length_zipWith]
    exact Nat.lt_min.mpr ⟨htag, hlt⟩
  unfold basket basketBut
  rw [hlines, ← List.CommMonoid.add_sum_eraseIdx hlt, List.getElem_set_self,
    List.eraseIdx_set_eq]

/-- Dishes of which none is shown cost nothing. -/
theorem basket_zero (fp : FoodPanel) {n : Nat}
    (h : fp.foodCountArray = List.replicate n "0") : fp.basket = 0 := by
  have hline : ∀ x ∈ fp.lines, x = 0 := by
    intro x hx
    unfold lines at hx
    rw [h, ← List.map_uncurry_zip_eq_zipWith, List.mem_map] at hx
    obtain ⟨⟨label, food⟩, hmem, rfl⟩ := hx
    have hlabel := List.eq_of_mem_replicate (List.of_mem_zip hmem).1
    have hshown : numberShown "0" = 0 := by decide
    show numberShown label * food.foodPrice = 0
    rw [hlabel, hshown, Int.zero_mul]
  exact List.sum_eq_zero hline

end FoodPanel

namespace SeatVC

/-- The amount `saveData` stores is the price of the tickets and of the dishes
shown. -/
def Charged (vc : SeatVC) : Prop :=
  ∀ ud, vc.saveData ud "amount" =
    some (.int (300 * vc.adultCount + 250 * vc.childCount + vc.basket))

theorem charged_iff (vc : SeatVC) : vc.Charged ↔
    vc.seatAmount + vc.foodAmount = 300 * vc.adultCount + 250 * vc.childCount + vc.basket := by
  simp [Charged]

instance (vc : SeatVC) : Decidable vc.Charged := decidable_of_iff' _ vc.charged_iff

/-- What carries `Charged` from step to step. -/
structure CartState (vc : SeatVC) : Prop where
  tickets : vc.toTicketPanel.Inv
  charged : vc.Charged
  empty : vc.foodsAwaited = true → vc.foodCountArray = []

/-- With the tickets charged rightly, all of the amount is right if the food
is. -/
theorem charged_iff_food {vc : SeatVC} (inv : vc.toTicketPanel.Inv) :
    vc.Charged ↔ vc.foodAmount = vc.basket := by
  rw [charged_iff, inv.amount]
  omega

theorem charged_setFoodCount {vc : SeatVC} {tag : Nat} {food : Food} {n : Int}
    (inv : vc.toTicketPanel.Inv) (hfood : vc.foodArray[tag]? = some food)
    (htag : tag < vc.foodCountArray.length) :
    (vc.setFoodCount tag food n).Charged ↔ vc.basketBut tag = 0 := by
  have hinv : (vc.setFoodCount tag food n).toTicketPanel.Inv := inv.setSeatID _
  have hamount : (vc.setFoodCount tag food n).foodAmount = n * food.foodPrice := by
    simp [setFoodCount]
  have hbasket : (vc.setFoodCount tag food n).basket =
      n * food.foodPrice + vc.basketBut tag := FoodPanel.basket_set n hfood htag
  rw [charged_iff_food hinv, hamount, hbasket]
  omega

/-- Where the food handlers keep the amount right: the dishes other than the
one clicked cost nothing. A `clickAdd` that finds a dish for every ticket
already does nothing. -/
def BasketGuard (vc : SeatVC) : SeatAction → Prop
  | .clickAdd tag =>
      (∃ total ∈ vc.foodTotal, total < numberShown vc.seatSelectLabel) → vc.basketBut tag = 0
  | .clickMinus tag => vc.basketBut tag = 0
  | _ => True

instance (vc : SeatVC) : ∀ a, Decidable (vc.BasketGuard a)
  | .clickAdd _ => inferInstanceAs (Decidable ((∃ total ∈ _, _) → _))
  | .clickMinus _ => inferInstanceAs (Decidable (_ = _))
  | .showAllStations _ | .showAllFoods _ | .cellForItemAt _ | .didSelectItemAt _ | .add _
  | .minus _ | .payButton => inferInstanceAs (Decidable True)

end SeatVC

variable {vc t : SeatVC} {a : SeatAction}

open SeatVC in
theorem SeatStep.cartState (h : SeatStep vc a t) (st : vc.CartState)
    (hguard : vc.BasketGuard a) : t.CartState := by
  have hinv := h.inv st.tickets
  have hfood := (charged_iff_food st.tickets).mp st.charged
  -- only the two clicks and the arrival of the dishes touch the food
  have hsame : t.toFoodPanel = vc.toFoodPanel → t.foodsAwaited = vc.foodsAwaited →
      t.CartState := by
    intro hpanel hawaited
    refine ⟨hinv, (charged_iff_food hinv).mpr (by rw [hpanel, hfood]), fun haw => ?_⟩
    rw [hpanel]
    exact st.empty (by rw [← hawaited, haw])
  cases h with
  | foodsFailed hawaited =>
      exact ⟨hinv, (charged_iff_food hinv).mpr hfood, fun haw => absurd haw (by simp)⟩
  | @foodsShown documents hawaited hne =>
      have hbefore : vc.basket = 0 := FoodPanel.basket_zero (n := 0) _ (st.empty hawaited)
      refine ⟨hinv, (charged_iff_food hinv).mpr ?_, fun haw => absurd haw (by simp)⟩
      refine (hfood.trans hbefore).trans (FoodPanel.basket_zero (n := documents.length) _ ?_).symm
      show vc.foodCountArray ++ _ = _
      rw [st.empty hawaited, List.nil_append]
  | foodAdded hdish htag htotal hlt =>
      have hother := hguard ⟨_, htotal, hlt⟩
      refine ⟨hinv, (charged_setFoodCount st.tickets hdish htag).mpr hother, fun haw => ?_⟩
      simp [st.empty haw] at htag
  | foodRemoved hdish htag =>
      refine ⟨hinv, (charged_setFoodCount st.tickets hdish htag).mpr hguard, fun haw => ?_⟩
      simp [st.empty haw] at htag
  | tapFree | tapSelected => exact hsame (by simp) (by simp)
  | _ => exact hsame rfl rfl

open SeatVC in
theorem SeatStep.basketGuard (h : SeatStep vc a t) (inv : vc.toTicketPanel.Inv)
    (hcharged : t.Charged) : vc.BasketGuard a := by
  cases h with
  | foodAdded hdish htag => exact fun _ => (charged_setFoodCount inv hdish htag).mp hcharged
  | foodFull htotal hge =>
      rintro ⟨total, htotal', hlt⟩
      obtain rfl := Option.some.inj (htotal.symm.trans htotal')
      exact absurd hlt hge
  | foodRemoved hdish htag => exact (charged_setFoodCount inv hdish htag).mp hcharged
  | _ => trivial

theorem cartState_viewDidLoad : SeatVC.viewDidLoad.CartState :=
  ⟨TicketPanel.inv_viewDidLoad, by decide, fun _ => rfl⟩

/-- The amount stored is the price of the basket in every state of a run whose
food clicks all meet `BasketGuard`, and in no other run. -/
theorem charged_iff_guard {es : List (Edge SeatVC SeatAction)} (h : seatPage.Run es vc) :
    Lts.Throughout SeatVC.Charged es vc ↔ ∀ e ∈ es, e.pre.BasketGuard e.act :=
  h.always_iff (J := SeatVC.CartState)
    (by rintro _ rfl; exact cartState_viewDidLoad)
    (fun _ _ _ st hst hguard => (seatStep_of_step hst).cartState st hguard)
    (fun _ st => st.charged)
    (fun _ _ _ st hst hcharged => (seatStep_of_step hst).basketGuard st.tickets hcharged)

/-- Two dishes, and two tickets to go with them. -/
def twoDishes : List SeatAction :=
  [.showAllStations (some [Station.documentData ⟨{ one := [2, 2] }, stationDocument⟩]),
    .showAllFoods (some [dictionary [("Food_Price", .int 100)],
      dictionary [("Food_Price", .int 50)]]),
    .didSelectItemAt ⟨.one, 0⟩, .didSelectItemAt ⟨.one, 1⟩, .add .adult, .add .adult]

/-- Two of the first dish. -/
def oneDishTwice : List SeatAction := twoDishes ++ [.clickAdd 0, .clickAdd 0]

theorem charged_oneDishTwice : ∃ s, seatPage.Run (seatTrace oneDishTwice) s ∧
    s.foodAmount = 200 ∧ Lts.Throughout SeatVC.Charged (seatTrace oneDishTwice) s := by
  obtain ⟨s, hrun, hfood⟩ : ∃ s, seatPage.Run (seatTrace oneDishTwice) s ∧
      s.foodAmount = (200 : Int) := Lts.exists_run_trace rfl (by decide)
  exact ⟨s, hrun, hfood, (charged_iff_guard hrun).mpr (by decide)⟩

/-- One of each dish: the labels show one and two, and only the two are
charged. -/
theorem charged_bothDishes : ∃ s,
    seatPage.Run (seatTrace (twoDishes ++ [.clickAdd 0, .clickAdd 1])) s ∧
    s.foodCountArray = ["1", "2"] ∧ s.foodAmount = 100 ∧ ¬ s.Charged :=
  Lts.exists_run_trace rfl (by decide)

end Takeit
