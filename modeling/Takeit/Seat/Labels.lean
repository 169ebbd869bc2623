import Takeit.Seat.Tickets

/-!
# What the labels show

* **counters** — the handlers read counters back from label texts;
  `inStep_of_reachable` says that in every reachable state each comparison of
  texts is one of the counters;
* **amount** — eight places write the amount label, some of them from the
  tickets alone; `priceShown_iff_guard` says in which runs it shows what
  `saveData` stores.
-/

namespace Takeit

open Takeit.Logic Takeit.Firestore

/-! ## Labels, counters and buttons -/

/-- The labels below the dishes show numbers, none of them negative. -/
structure FoodPanel.Inv (fp : FoodPanel) : Prop where
  total : 0 ≤ fp.totalFoodCount
  label : ∀ label ∈ fp.foodCountArray, ∃ n : Int, 0 ≤ n ∧ label = text n

theorem FoodPanel.Inv.setFoodCount {fp : FoodPanel} {n : Int} (inv : fp.Inv) (hn : 0 ≤ n)
    (tag : Nat) (amount : Int) :
    { fp with
      totalFoodCount := n
      foodCountArray := fp.foodCountArray.set tag (text n)
      foodAmount := amount }.Inv where
  total := hn
  label label hlabel := by
    rcases List.mem_or_eq_of_mem_set hlabel with hold | rfl
    · exact inv.label label hold
    · exact ⟨n, hn, rfl⟩

variable {vc t : SeatVC} {a : SeatAction}

theorem SeatStep.foodInv (h : SeatStep vc a t) (inv : vc.toFoodPanel.Inv) :
    t.toFoodPanel.Inv := by
  cases h with
  | foodsShown =>
      refine ⟨inv.total, fun label hlabel => ?_⟩
      rcases List.mem_append.mp hlabel with hold | hnew
      · exact inv.label label hold
      · exact ⟨0, Int.le_refl 0, List.eq_of_mem_replicate hnew⟩
  | foodAdded =>
      have htotal := inv.total
      exact inv.setFoodCount (by omega) _ _
  | foodRemoved => exact inv.setFoodCount (by split <;> omega) _ _
  | tapFree => rw [SeatVC.foodPanel_tapFree]; exact inv
  | tapSelected => rw [SeatVC.foodPanel_tapSelected]; exact inv
  | _ => exact inv

theorem foodPanel_inv (h : seatPage.Reachable vc) : vc.toFoodPanel.Inv :=
  h.invariant (I := fun s => s.toFoodPanel.Inv)
    (by rintro _ rfl; exact ⟨Int.le_refl 0, fun _ h => absurd h List.not_mem_nil⟩)
    fun _ _ _ inv hst => (seatStep_of_step hst).foodInv inv

/-- The counters, the texts of their labels and the minus buttons agree, and
each comparison a handler makes with a text is one of the counters. -/
structure SeatVC.InStep (vc : SeatVC) : Prop where
  nonneg : ∀ k, 0 ≤ vc.count k
  minusEnabled : ∀ k, vc.minusEnabled k = true ↔ 0 < vc.count k
  amount : vc.seatAmount = 300 * vc.adultCount + 250 * vc.childCount
  countLabel : ∀ k, vc.countLabel k = text (vc.count k)
  selectLabel : vc.seatSelectLabel = text (vc.adultCount + vc.childCount)
  orderLabel : vc.seatOrderLabel = text vc.seatCount
  /-- In `addAdult` and `addChild`: `seatSelectLabel.text == seatOrderLabel.text`. -/
  addCompares : ∀ k, (vc.setCount k (vc.count k + 1)).refresh.seatSelectLabel =
      (vc.setCount k (vc.count k + 1)).refresh.seatOrderLabel ↔
    vc.adultCount + vc.childCount + 1 = vc.seatCount
  /-- In `minusAdult` and `minusChild`: `adultCountLabel.text == "0"`. -/
  minusCompares : ∀ k, (vc.setCount k (vc.count k - 1)).refresh.countLabel k = "0" ↔
    vc.count k - 1 = 0
  /-- In `clickAdd`: `Int(seatSelectLabel.text ?? "") ?? 0`. -/
  ticketsRead : numberShown vc.seatSelectLabel = vc.adultCount + vc.childCount
  /-- In `clickAdd`: `Int(foodCountArray[i].text ?? "") ?? 0`. -/
  dishesRead : ∀ label ∈ vc.foodCountArray, ∃ n : Int, 0 ≤ n ∧ label = text n ∧
    numberShown label = n

/-- In every reachable state the texts and the counters are in step. -/
theorem inStep_of_reachable (h : seatPage.Reachable vc) : vc.InStep := by
  have inv := ticketPanel_inv h
  refine ⟨inv.nonneg, inv.minusEnabled, ?_, inv.countLabel, inv.selectLabel, inv.orderLabel,
    fun k => ?_, fun k => ?_, ?_, fun label hlabel => ?_⟩
  · rw [inv.amount]
    omega
  · have hnew : (vc.setCount k (vc.count k + 1)).refresh.seatSelectLabel =
        text (vc.total + 1) := by
      cases k
      · exact congrArg text (Int.add_right_comm _ _ _)
      · exact congrArg text (Int.add_assoc _ _ _).symm
    have hsame : (vc.setCount k (vc.count k + 1)).refresh.seatOrderLabel =
        vc.seatOrderLabel := by
      cases k <;> rfl
    rw [hnew, hsame]
    exact inv.full_iff
  · have hnew : (vc.setCount k (vc.count k - 1)).refresh.countLabel k =
        text (vc.count k - 1) := by
      cases k <;> rfl
    rw [hnew, TicketPanel.last_iff]
    omega
  · rw [inv.selectLabel, numberShown_text]
    rfl
  · obtain ⟨n, hn, rfl⟩ := (foodPanel_inv h).label label hlabel
    exact ⟨n, hn, rfl, numberShown_text n⟩

/-- A seat, a ticket for it and a dish. -/
def oneDish : List SeatAction :=
  [.showAllFoods (some [dictionary [("Food_Price", .int 100)]])] ++ oneSeatBooked ++ [.clickAdd 0]

/-- The adult's ticket becomes a child's, the dish is given back, and the seat is paid
for. -/
def dishGivenBack : List SeatAction :=
  oneDish ++ [.minus .adult, .add .child, .clickMinus 0, .cellForItemAt ⟨.one, 0⟩, .payButton]

theorem inStep_dishGivenBack : ∃ s, seatPage.Run (seatTrace dishGivenBack) s ∧
    s.adultCount = 0 ∧ s.childCount = 1 ∧ s.foodCountArray = ["0"] ∧ s.InStep := by
  obtain ⟨s, hrun, hadult, hchild, hfoods⟩ : ∃ s, seatPage.Run (seatTrace dishGivenBack) s ∧
      s.adultCount = (0 : Int) ∧ s.childCount = (1 : Int) ∧ s.foodCountArray = ["0"] :=
    Lts.exists_run_trace rfl (by decide)
  exact ⟨s, hrun, hadult, hchild, hfoods, inStep_of_reachable ⟨_, hrun⟩⟩

/-! ## The amount label -/

/-- The text `"金額：\(n)"`. -/
def amountText (n : Int) : String := "金額：" ++ text n

theorem amountText_inj {m n : Int} : amountText m = amountText n ↔ m = n := by
  unfold amountText
  rw [String.append_right_inj, text_inj]

namespace SeatVC

/-- With a seat selected, the amount label shows what `saveData` stores. -/
def PriceShown (vc : SeatVC) : Prop :=
  0 < vc.seatCount → ∀ ud, ∃ n, vc.saveData ud "amount" = some (.int n) ∧
    vc.seatID = amountText n

theorem priceShown_iff (vc : SeatVC) : vc.PriceShown ↔
    (0 < vc.seatCount → vc.seatID = amountText (vc.seatAmount + vc.foodAmount)) := by
  simp [PriceShown]

instance (vc : SeatVC) : Decidable vc.PriceShown := decidable_of_iff' _ vc.priceShown_iff

/-- Where the handlers keep the amount label right. The ticket handlers and
the tap that gives a seat back write the price of the tickets alone, and the
first seat writes 0. -/
def PriceGuard (vc : SeatVC) : SeatAction → Prop
  | .add _ | .minus _ => 0 < vc.seatCount → vc.foodAmount = 0
  | .didSelectItemAt p =>
      (vc.Taps p → ¬ vc.Selected p → vc.seatCount = 0 → vc.seatAmount + vc.foodAmount = 0) ∧
      (vc.Selected p → 1 < vc.seatCount → vc.foodAmount = 0)
  | _ => True

instance (vc : SeatVC) : ∀ a, Decidable (vc.PriceGuard a)
  | .add _ | .minus _ => inferInstanceAs (Decidable (_ → _))
  | .didSelectItemAt _ => inferInstanceAs (Decidable ((_ → ¬ _ → _ → _) ∧ (_ → _ → _)))
  | .showAllStations _ | .showAllFoods _ | .cellForItemAt _ | .clickAdd _ | .clickMinus _
  | .payButton => inferInstanceAs (Decidable True)

end SeatVC

theorem seatID_addTicket (tp : TicketPanel) (k : Ticket) :
    (tp.addTicket k).seatID = amountText (tp.addTicket k).seatAmount := by
  simp only [TicketPanel.addTicket]
  split <;> cases k <;> rfl

theorem seatID_minusTicket (tp : TicketPanel) (k : Ticket) :
    (tp.minusTicket k).seatID = amountText (tp.minusTicket k).seatAmount := by
  simp only [TicketPanel.minusTicket]
  split <;> cases k <;> rfl

open SeatVC in
/-- A step leads to a state that shows the price precisely if it meets its
guard. -/
theorem SeatStep.priceShown_iff (h : SeatStep vc a t) (hshown : vc.PriceShown) :
    t.PriceShown ↔ vc.PriceGuard a := by
  rw [SeatVC.priceShown_iff] at hshown ⊢
  cases h with
  | tapInert hv hdead =>
      refine iff_of_true hshown ⟨fun htap => ?_, fun hsel => ?_⟩
      · have hlive := (SeatGrid.taps_iff hv).mp htap
        omega
      · have hthree := (SeatGrid.selected_iff hv).mp hsel
        omega
  | @tapFree p v hv h0 h1 h3 =>
      have hfree : ¬ vc.Selected p := (SeatGrid.selected_iff hv).not.mpr h3
      have htap : vc.Taps p := (SeatGrid.taps_iff hv).mpr ⟨h0, h1⟩
      rw [SeatVC.ticketPanel_tapFree, SeatVC.foodPanel_tapFree]
      simp only [TicketPanel.seatTaken, PriceGuard, htap, hfree, not_false_eq_true, true_imp_iff,
        false_imp_iff, and_true]
      -- the first seat writes 0, a further one leaves the label alone
      by_cases hfirst : vc.seatCount = 0
      · have hzero : "金額：0" = amountText 0 := rfl
        simp only [hfirst, Int.zero_add, Int.zero_lt_one, if_true, true_imp_iff, hzero,
          amountText_inj, eq_comm]
      · have hmore : ¬ vc.seatCount + 1 = 1 := by omega
        simp only [hfirst, hmore, if_false, false_imp_iff, iff_true]
        intro hpos
        exact hshown (by omega)
  | @tapSelected p hsel =>
      rw [SeatVC.ticketPanel_tapSelected, SeatVC.foodPanel_tapSelected]
      -- the tickets start over, the dishes stay
      have hzero : "金額：" ++ text 0 = amountText 0 := rfl
      simp only [TicketPanel.seatReturned, PriceGuard, hsel, not_true_eq_false, false_imp_iff,
        imp_true_iff, true_and, true_imp_iff, hzero, amountText_inj, Int.zero_add]
      constructor
      · intro h hmore
        exact (h (by omega)).symm
      · intro h hpos
        exact (h (by omega)).symm
  | @add k =>
      have hseats := (vc.addTicket_spec k).seatCount
      simp only [PriceGuard, hseats, seatID_addTicket, amountText_inj]
      exact imp_congr_right fun _ => by omega
  | @minus k =>
      have hseats := (vc.minusTicket_spec k).seatCount
      simp only [PriceGuard, hseats, seatID_minusTicket, amountText_inj]
      exact imp_congr_right fun _ => by omega
  | foodAdded | foodRemoved => exact iff_of_true (fun _ => rfl) trivial
  | _ => exact iff_of_true hshown trivial

/-- While a seat is selected the label shows the stored amount, in every state
of a run whose steps all meet `PriceGuard`, and in no other run. -/
theorem priceShown_iff_guard {es : List (Edge SeatVC SeatAction)} (h : seatPage.Run es vc) :
    Lts.Throughout SeatVC.PriceShown es vc ↔ ∀ e ∈ es, e.pre.PriceGuard e.act :=
  h.always_iff (J := SeatVC.PriceShown)
    (by rintro _ rfl; decide)
    (fun _ _ _ hshown hst => ((seatStep_of_step hst).priceShown_iff hshown).mpr)
    (fun _ hshown => hshown)
    (fun _ _ _ hshown hst => ((seatStep_of_step hst).priceShown_iff hshown).mp)

theorem priceShown_oneDish : ∃ s, seatPage.Run (seatTrace oneDish) s ∧
    s.seatID = "金額：400" ∧ Lts.Throughout SeatVC.PriceShown (seatTrace oneDish) s := by
  obtain ⟨s, hrun, hid⟩ : ∃ s, seatPage.Run (seatTrace oneDish) s ∧
      s.seatID = "金額：400" := Lts.exists_run_trace rfl (by decide)
  exact ⟨s, hrun, hid, (priceShown_iff_guard hrun).mpr (by decide)⟩

/-- Changing the ticket after the dish drops the dish from the label. -/
theorem priceShown_ticketChanged : ∃ s,
    seatPage.Run (seatTrace (oneDish ++ [.minus .adult, .add .child])) s ∧
    s.payEnabled = true ∧ s.seatID = "金額：250" ∧ s.seatAmount + s.foodAmount = 350 ∧
    ¬ s.PriceShown :=
  Lts.exists_run_trace rfl (by decide)

end Takeit
