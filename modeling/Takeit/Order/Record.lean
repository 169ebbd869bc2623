import Takeit.Order.Checkout
import Takeit.Seat.Steps

/-!
# The booking that is recorded

From a press of `payButton` over the stored values to the order that is
written: the number of tickets and the amount arrive, the seats do not.
-/

namespace Takeit

open Takeit.Logic Takeit.Firestore

/-! ## What is stored -/

/-- The order says what was stored for it. -/
structure Recorded (ud : UserDefaults) (order : Order) : Prop where
  seat : ud "seatSelection" = some (.string order.orderSeat)
  count : ud "orderCount" = some (.string order.orderCount)
  amount : ∃ n, ud "amount" = some (.int n) ∧ order.orderAmount = text n

/-- The seat list of a pay ends a line. -/
theorem listed_newline {g : SeatGrid} (h : g.seatSelectedArray ≠ []) :
    ∃ s, g.listed.seatSelected = s ++ "\n" := by
  obtain ⟨labels, label, harr⟩ := List.eq_nil_or_concat _ |>.resolve_left h
  refine ⟨labels.foldl (fun s label => s ++ (label ++ "\n")) g.seatSelected ++ label, ?_⟩
  simp [SeatGrid.listed, harr, String.append_assoc]

/-- The seats `OrderRulesVC` starts with do not. -/
theorem newline_ne_placeholder (s : String) : s ++ "\n" ≠ "第3排7號\n第3排8號" := by
  intro h
  have hlast : (s ++ "\n").toList.getLast? = some '\n' := by simp [String.toList_append]
  rw [h] at hlast
  exact absurd hlast (by decide)

/-! ## What is written -/

/-- The fields of the screen an order takes its seats, tickets and amount
from. -/
def OrderRulesVC.booking (vc : OrderRulesVC) : String × String × String :=
  (vc.seatSelection, vc.orderCount, vc.amount)

/-- The same of an order. -/
def Order.booking (order : Order) : String × String × String :=
  (order.orderSeat, order.orderCount, order.orderAmount)

variable {ud : UserDefaults} {es : List (Edge Checkout CheckoutAction)} {st t : Checkout}
  {a : CheckoutAction}

/-- All that was ever written is the booking on the screen. -/
structure Checkout.Shows (st : Checkout) (b : String × String × String) : Prop where
  screen : st.vc.booking = b
  placed : ∀ p ∈ st.placed, p.order.booking = b

theorem CheckoutStep.shows {b : String × String × String} (h : CheckoutStep st a t)
    (hst : st.Shows b) : t.Shows b := by
  cases h with
  | checkButton =>
      refine ⟨?_, hst.placed⟩
      rw [← hst.screen]
      show OrderRulesVC.booking (OrderRulesVC.checkButton _) = _
      unfold OrderRulesVC.checkButton
      split <;> rfl
  | payOk =>
      refine ⟨hst.screen, fun p hp => ?_⟩
      rcases List.mem_append.mp hp with hp | hp
      · exact hst.placed p hp
      · rw [List.mem_singleton.mp hp]
        exact hst.screen
  | _ => exact ⟨hst.screen, hst.placed⟩

/-- The screen keeps its booking, and every order that is written has it. -/
theorem run_shows (h : (checkout ud).Run es st) : st.Shows (OrderRulesVC.viewDidLoad ud).booking :=
  h.invariant (I := fun s => s.Shows (OrderRulesVC.viewDidLoad ud).booking)
    (by rintro _ ⟨orders, rfl⟩; exact ⟨rfl, fun p hp => absurd hp List.not_mem_nil⟩)
    fun _ _ _ hs hst => (checkoutStep_of_next hst).shows hs

section Booking

variable {vc : SeatVC} {pay : SeatVC.Payment}

/-- What a pay leaves in the user defaults. -/
theorem save_payButton (hpay : vc.payButton = some pay) (ud : UserDefaults) :
    pay.save ud "seatSelection" = some (.string vc.toSeatGrid.listed.seatSelected) ∧
    pay.save ud "orderCount" = some (.string vc.seatOrderLabel) ∧
    pay.save ud "amount" = some (.int (vc.seatAmount + vc.foodAmount)) := by
  obtain ⟨shown, others, sold, -, -, -, -, hsave, -⟩ := SeatVC.payButton_spec hpay
  rw [hsave]
  simp

/-- Every order of the booking has its number of tickets and its amount. -/
theorem count_amount_recorded (hpay : vc.payButton = some pay)
    (h : (checkout (pay.save ud)).Run es st) :
    ∀ p ∈ st.placed, p.order.orderCount = vc.seatOrderLabel ∧
      p.order.orderAmount = text (vc.seatAmount + vc.foodAmount) := by
  intro p hp
  obtain ⟨-, hcount, hamount⟩ := save_payButton hpay ud
  have hbooking := (run_shows h).placed p hp
  simp only [Order.booking, OrderRulesVC.booking, Prod.mk.injEq] at hbooking
  obtain ⟨-, hc, ha⟩ := hbooking
  rw [hc, ha]
  exact ⟨OrderRulesVC.orderCount_viewDidLoad _ (UserDefaults.string_of_string hcount),
    OrderRulesVC.amount_viewDidLoad _ (UserDefaults.string_of_int hamount)⟩

/-- No order of any booking has its seats. -/
theorem never_recorded (hpay : vc.payButton = some pay)
    (h : (checkout (pay.save ud)).Run es st) :
    ∀ p ∈ st.placed, ¬ Recorded (pay.save ud) p.order := by
  intro p hp hrec
  obtain ⟨shown, others, sold, hne, -⟩ := SeatVC.payButton_spec hpay
  obtain ⟨hstored, -, -⟩ := save_payButton hpay ud
  have hbooking := (run_shows h).placed p hp
  simp only [Order.booking, OrderRulesVC.booking, Prod.mk.injEq] at hbooking
  have hseat := hrec.seat
  rw [hstored, hbooking.1, OrderRulesVC.seatSelection_viewDidLoad] at hseat
  obtain ⟨s, hs⟩ := listed_newline hne
  rw [hs] at hseat
  simp only [Option.some.injEq, DefaultsValue.string.injEq] at hseat
  exact newline_ne_placeholder s hseat

end Booking

/-! ## One booking -/

/-- Paid by card, with all alerts confirmed. -/
def cardPurchase : List CheckoutAction :=
  [.checkButton, .agreeButton, .orderInfoOk, .creditCard, .creditOk,
    .payOk "kYx0" "2021-03-12 13:00:00"]

/-- Whatever was stored, this writes an order. -/
theorem exists_cardPurchase (ud : UserDefaults) (orders : Collection) : ∃ st p,
    (checkout ud).Run (Lts.trace Checkout.next (.viewDidLoad ud orders) cardPurchase) st ∧
    p ∈ st.placed := by
  obtain ⟨st, hst, p, hp⟩ := exists_checkout_run ud orders cardPurchase
    (P := fun st => ∃ p, p ∈ st.placed) ⟨_, rfl, _, List.mem_cons_self⟩
  exact ⟨st, p, hst, hp⟩

/-- The first seat of a small hall, drawn and with its ticket. -/
def firstSeat : List SeatAction :=
  [.showAllStations (some [Station.documentData ⟨{ one := [2, 2] }, stationDocument⟩]),
    .didSelectItemAt ⟨.one, 0⟩, .cellForItemAt ⟨.one, 0⟩, .add .adult]

theorem never_recorded_firstSeat : ∃ s pay es st p, seatPage.Run (seatTrace firstSeat) s ∧
    s.payButton = some pay ∧ (checkout (pay.save fun _ => none)).Run es st ∧
    p ∈ st.placed ∧ ¬ Recorded (pay.save fun _ => none) p.order := by
  obtain ⟨s, hs, pay, hpay, -⟩ : ∃ s, seatPage.Run (seatTrace firstSeat) s ∧
      ∃ pay ∈ s.payButton, True := Lts.exists_run_trace rfl (by decide)
  obtain ⟨st, p, hst, hp⟩ := exists_cardPurchase (pay.save fun _ => none) fun _ => none
  exact ⟨s, pay, _, st, p, hs, hpay, hst, hp, never_recorded hpay hst p hp⟩

/-- The seat of row 1 is stored, and seats of row 3 are ordered. -/
theorem recorded_firstSeat : ∃ s pay es st p, seatPage.Run (seatTrace firstSeat) s ∧
    s.payButton = some pay ∧ (checkout (pay.save fun _ => none)).Run es st ∧
    p ∈ st.placed ∧
    pay.save (fun _ => none) "seatSelection" = some (.string "第1排1號\n") ∧
    p.order.orderSeat = "第3排7號\n第3排8號" ∧
    ¬ Recorded (pay.save fun _ => none) p.order := by
  obtain ⟨s, hs, pay, hpay, hstored⟩ : ∃ s, seatPage.Run (seatTrace firstSeat) s ∧
      ∃ pay ∈ s.payButton,
        pay.save (fun _ => none) "seatSelection" = some (.string "第1排1號\n") :=
    Lts.exists_run_trace rfl (by decide)
  obtain ⟨st, p, hst, hp⟩ := exists_cardPurchase (pay.save fun _ => none) fun _ => none
  have hseat : p.order.orderSeat = "第3排7號\n第3排8號" :=
    congrArg Prod.fst ((run_shows hst).placed p hp)
  refine ⟨s, pay, _, st, p, hs, hpay, hst, hp, hstored, hseat, fun hrec => ?_⟩
  have hwrong := hrec.seat
  rw [hstored, hseat] at hwrong
  exact absurd hwrong (by decide)

end Takeit
