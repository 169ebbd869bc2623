import Takeit.Order.Payment
import Takeit.Order.Record
import Takeit.Seat.Tickets

/-!
# A whole visit

One booking screen and all the payment screens that are opened from it. A customer who
goes back can choose other seats and pay again, and what an earlier payment screen has
under way goes on: its primes, its charges, and the write whose completion handler pops
whatever screen is on top then.

No payment gets mixed up with another: each has at most one charge and one order, for
the tickets and the price of its own press of `payButton` (`visit_accounts`), and the
orders collection has no other new documents (`visit_orders`).
-/

namespace Takeit

open Takeit.Logic Takeit.Firestore

/-! ## States -/

/-- The booking screen, the user defaults, the orders collection, the screen on top of
the navigation stack, and the payment screens in the order they were opened. -/
structure Visit where
  vc : SeatVC := .viewDidLoad
  defaults : UserDefaults
  orders : Collection
  screen : Screen := .seat
  flows : List Checkout := []

/-- What can happen. -/
inductive VisitAction
  | seat (a : SeatAction)
  | pay
  | back
  | flow (i : Nat) (a : CheckoutAction)
  | blockReplaced (i : Nat) (error : Bool)

/-- The action is a touch of the booking screen. -/
def SeatAction.isTouch : SeatAction → Bool
  | .showAllStations _ | .showAllFoods _ | .cellForItemAt _ => false
  | _ => true

/-- `popViewController` of the stack with this screen on top. -/
def Screen.pop : Screen → Screen
  | .orderRules => .seat
  | .seat | .root => .root

namespace Visit

/-- No alert is up. -/
def Clear (v : Visit) : Prop := ∀ st ∈ v.flows, st.presented = none

instance (v : Visit) : Decidable v.Clear := inferInstanceAs (Decidable (∀ _ ∈ _, _))

/-- The booking screen takes touches. -/
def SeatTouchable (v : Visit) : Prop := v.screen = .seat ∧ v.Clear

instance (v : Visit) : Decidable v.SeatTouchable := inferInstanceAs (Decidable (_ ∧ _))

/-- The screen on top as the payment screen `i` has it: only the last one that was
opened can be there. -/
def screenOf (v : Visit) (i : Nat) : Screen :=
  if i + 1 = v.flows.length then v.screen
  else if v.screen = .orderRules then .seat
  else v.screen

/-- The payment screen in the state of the visit. -/
def see (v : Visit) (i : Nat) (st : Checkout) : Checkout :=
  { st with orders := v.orders, screen := v.screenOf i }

/-- `payButton(_:)`: the booking is stored and the payment screen loads it. -/
def payButton (v : Visit) : Option Visit :=
  v.vc.payButton.map fun pay =>
    { v with
      vc := pay.vc
      defaults := pay.save v.defaults
      screen := .orderRules
      flows := v.flows ++ [.viewDidLoad (pay.save v.defaults) v.orders] }

/-- The payment screen `i` goes on. -/
def flowNext (v : Visit) (i : Nat) (st : Checkout) (a : CheckoutAction) : Option Visit :=
  ((v.see i st).next a).map fun st' =>
    { v with
      orders := st'.orders
      screen := if i + 1 = v.flows.length then st'.screen else v.screen
      flows := v.flows.set i st' }

/-- One step. The back button and the completion handler of `replaceBlock` belong to the
navigation stack, so they are no actions of a single payment screen. -/
def next (v : Visit) : VisitAction → Option Visit
  | .seat .payButton => none
  | .seat a =>
      if a.isTouch = true → v.SeatTouchable then
        (v.vc.next a).map fun vc => { v with vc := vc }
      else none
  | .pay => if v.SeatTouchable ∧ v.vc.payEnabled = true then v.payButton else none
  | .back => if v.Clear ∧ v.screen ≠ .root then some { v with screen := v.screen.pop } else none
  | .flow _ .back | .flow _ (.blockReplaced _) => none
  | .flow i a => v.flows[i]?.bind fun st => v.flowNext i st a
  | .blockReplaced i error =>
      v.flows[i]?.bind fun st =>
        if st.replacing = true then
          some { v with
            screen := if error then v.screen else v.screen.pop
            flows := v.flows.set i { st with replacing := false } }
        else none

end Visit

/-- Visits, from the opening of the booking screen on. -/
def visit : Lts Visit VisitAction :=
  .ofNext (fun v => ∃ defaults orders, v = { defaults := defaults, orders := orders }) Visit.next

/-- The booking screen at each press of `payButton`, in order. -/
def paysOf (v : Visit) : VisitAction → Option SeatVC
  | .pay => some v.vc
  | _ => none

abbrev pays (es : List (Edge Visit VisitAction)) : List SeatVC := Lts.labels paysOf es

/-! ## What a payment screen keeps -/

variable {st t : Checkout} {a : CheckoutAction} {b : String × String × String} {ud : UserDefaults}

/-- The payment screen with the booking `b`: everything it charges and orders is that. -/
structure Checkout.Kept (b : String × String × String) (st : Checkout) : Prop where
  phase : Phase st
  shows : st.Shows b
  charged : ∀ c ∈ st.charges, (c.request.orderCount, c.request.amount) = b.2

theorem Checkout.kept_viewDidLoad (orders : Collection) :
    (Checkout.viewDidLoad ud orders).Kept (OrderRulesVC.viewDidLoad ud).booking where
  phase := .choosing rfl rfl (by simp [Checkout.viewDidLoad])
  shows := ⟨rfl, fun _ hp => absurd hp List.not_mem_nil⟩
  charged _ hc := absurd hc List.not_mem_nil

theorem CheckoutStep.kept (h : CheckoutStep st a t) (hst : st.Kept b) : t.Kept b where
  phase := h.phase hst.phase
  shows := h.shows hst.shows
  charged := by
    cases h with
    | primeSucceeded _ =>
        intro c hc
        rcases List.mem_append.mp hc with hc | hc
        · exact hst.charged c hc
        · rw [List.mem_singleton.mp hc, ← hst.shows.screen]
          rfl
    | @chargeAnswered k charge answer hcharge _ =>
        intro c hc
        rcases List.mem_or_eq_of_mem_set hc with hc | rfl
        · exact hst.charged c hc
        · show (charge.request.orderCount, charge.request.amount) = b.2
          exact hst.charged charge (List.mem_of_getElem? hcharge)
    | _ => exact hst.charged

/-- Other orders and a screen below do not matter to it. -/
theorem Checkout.Kept.moved {orders : Collection} {screen : Screen} {replacing : Bool}
    (h : st.Kept b) (hscreen : st.screen ≠ .orderRules → screen ≠ .orderRules) :
    Checkout.Kept b
      { st with orders := orders, screen := screen, replacing := replacing } where
  phase := h.phase.mono rfl hscreen rfl (fun _ hr => hr) (Nat.le_refl _)
  shows := ⟨h.shows.screen, h.shows.placed⟩
  charged := h.charged

/-- An order is the only document a step writes. -/
theorem CheckoutStep.orders (h : CheckoutStep st a t) (hst : st.Shows b) {id : String}
    {data : DocumentData} (hdata : t.orders id = some data) :
    st.orders id = some data ∨ ∃ order : Order, order.booking = b ∧ data = order.documentData := by
  cases h with
  | @payOk n id' result _ =>
      by_cases hid : id = (st.vc.fillOrder id' result).orders.orderId
      · refine .inr ⟨(st.vc.fillOrder id' result).orders, hst.screen, ?_⟩
        subst hid
        exact (Option.some.inj ((Collection.setData_self _ _ _).symm.trans hdata)).symm
      · exact .inl ((Collection.setData_ne _ _ hid).symm.trans hdata)
  | _ => exact .inl hdata

/-! ## Steps -/

variable {v v' : Visit} {action : VisitAction} {es : List (Edge Visit VisitAction)}
  {vcs : List SeatVC} {i : Nat}

/-- Every way a step can go. -/
inductive VisitStep (v : Visit) : VisitAction → Visit → Prop
  | seat {a vc} : v.vc.next a = some vc → VisitStep v (.seat a) { v with vc := vc }
  | pay {p} : v.screen = .seat → v.vc.payEnabled = true → v.vc.payButton = some p →
      VisitStep v .pay { v with
        vc := p.vc
        defaults := p.save v.defaults
        screen := .orderRules
        flows := v.flows ++ [.viewDidLoad (p.save v.defaults) v.orders] }
  | back : VisitStep v .back { v with screen := v.screen.pop }
  | flow {i st a st'} : v.flows[i]? = some st → CheckoutStep (v.see i st) a st' →
      VisitStep v (.flow i a) { v with
        orders := st'.orders
        screen := if i + 1 = v.flows.length then st'.screen else v.screen
        flows := v.flows.set i st' }
  | blockReplaced {i st error} : v.flows[i]? = some st →
      VisitStep v (.blockReplaced i error) { v with
        screen := if error then v.screen else v.screen.pop
        flows := v.flows.set i { st with replacing := false } }

theorem visitStep_of_step (h : visit.step v action v') : VisitStep v action v' := by
  replace h : v.next action = some v' := h
  unfold Visit.next at h
  split at h
  · exact absurd h (by simp)
  · obtain ⟨-, hmap⟩ := Option.ite_none_right_eq_some.mp h
    obtain ⟨vc, hvc, rfl⟩ := Option.map_eq_some_iff.mp hmap
    exact .seat hvc
  · obtain ⟨hon, hmap⟩ := Option.ite_none_right_eq_some.mp h
    obtain ⟨p, hp, rfl⟩ := Option.map_eq_some_iff.mp hmap
    exact .pay hon.1.1 hon.2 hp
  · obtain ⟨-, hmap⟩ := Option.ite_none_right_eq_some.mp h
    obtain rfl := Option.some.inj hmap
    exact .back
  · exact absurd h (by simp)
  · exact absurd h (by simp)
  · obtain ⟨st, hst, hmap⟩ := Option.bind_eq_some_iff.mp h
    obtain ⟨st', hst', rfl⟩ := Option.map_eq_some_iff.mp hmap
    exact .flow hst (checkoutStep_of_next hst')
  · obtain ⟨st, hst, hmap⟩ := Option.bind_eq_some_iff.mp h
    obtain ⟨-, hmap⟩ := Option.ite_none_right_eq_some.mp hmap
    obtain rfl := Option.some.inj hmap
    exact .blockReplaced hst

theorem Screen.pop_ne_orderRules (s : Screen) : s.pop ≠ .orderRules := by
  cases s <;> simp [Screen.pop]

/-! ## The accounts -/

namespace SeatVC

/-- The price of the tickets and the food. -/
def price (vc : SeatVC) : Int := vc.adultCount * 300 + vc.childCount * 250 + vc.foodAmount

/-- The booking a payment screen is opened with: its own seats, the customer's number of
seats and price. -/
def booked (vc : SeatVC) : String × String × String :=
  ("第3排7號\n第3排8號", vc.seatOrderLabel, text vc.price)

/-- What a payment screen has made of the booking: one charge and one order at most, for
its seats and its price. -/
structure Accounts (vc : SeatVC) (st : Checkout) : Prop where
  oneCharge : st.charges.length ≤ 1
  oneOrder : st.placed.length ≤ 1
  charged : ∀ c ∈ st.charges,
    c.request.orderCount = vc.seatOrderLabel ∧ c.request.amount = text vc.price
  ordered : ∀ p ∈ st.placed,
    p.order.orderCount = vc.seatOrderLabel ∧ p.order.orderAmount = text vc.price

end SeatVC

theorem booking_viewDidLoad {vc : SeatVC} {p : SeatVC.Payment} (h : seatPage.Reachable vc)
    (hpay : vc.payButton = some p) (ud : UserDefaults) :
    (OrderRulesVC.viewDidLoad (p.save ud)).booking = vc.booked := by
  obtain ⟨-, hcount, hamount⟩ := save_payButton hpay ud
  have hprice : vc.seatAmount + vc.foodAmount = vc.price := by
    rw [(ticketPanel_inv h).amount]
    rfl
  rw [hprice] at hamount
  unfold OrderRulesVC.booking SeatVC.booked
  rw [OrderRulesVC.orderCount_viewDidLoad _ (UserDefaults.string_of_string hcount),
    OrderRulesVC.amount_viewDidLoad _ (UserDefaults.string_of_int hamount),
    OrderRulesVC.seatSelection_viewDidLoad]

theorem Checkout.Kept.accounts {vc : SeatVC} (h : st.Kept vc.booked) : vc.Accounts st := by
  have hprimes : st.primes.length ≤ 1 := by
    cases h.phase with
    | choosing hnone => simp [hnone]
    | noticed _ _ _ _ hone => exact hone
    | ordered _ _ _ _ _ hone => exact hone
    | unordered _ _ _ _ hone => exact hone
  have hplaced : st.placed.length ≤ 1 := by
    cases h.phase with
    | choosing _ hnone => simp [hnone]
    | noticed _ _ hnone => simp [hnone]
    | ordered _ _ _ hone => simp [hone]
    | unordered _ _ hnone => simp [hnone]
  refine ⟨?_, hplaced, fun c hc => Prod.mk.inj (h.charged c hc), fun p hp => ?_⟩
  · unfold Checkout.primes at hprimes
    rw [List.length_append, List.length_map] at hprimes
    omega
  · obtain ⟨-, hbooked⟩ := Prod.mk.inj (h.shows.placed p hp)
    exact Prod.mk.inj hbooked

/-- Every payment screen keeps the booking of its press of `payButton`. -/
structure Visit.Keeps (v : Visit) (vcs : List SeatVC) : Prop where
  reachable : seatPage.Reachable v.vc
  length : v.flows.length = vcs.length
  kept : ∀ (i : Nat) st vc, v.flows[i]? = some st → vcs[i]? = some vc →
    (v.see i st).Kept vc.booked

/-- A payment screen that has been left does not come back. -/
theorem CheckoutStep.screen_ne (h : CheckoutStep st a t) (hst : st.screen ≠ .orderRules) :
    t.screen ≠ .orderRules := by
  cases h with
  | payOk | appleOk | line => exact screen_popToRoot _
  | back | blockReplaced => exact screen_popTop _
  | _ => exact hst

/-- Only the top of the stack decides which payment screen is on top. -/
theorem Visit.screenOf_ne (hscreen : v.screen ≠ .orderRules → v'.screen ≠ .orderRules)
    (hlength : v'.flows.length = v.flows.length) (j : Nat)
    (hj : v.screenOf j ≠ .orderRules) : v'.screenOf j ≠ .orderRules := by
  unfold Visit.screenOf at hj ⊢
  rw [hlength]
  split
  · rename_i hlast
    rw [if_pos hlast] at hj
    exact hscreen hj
  · split
    · simp
    · assumption

/-- A step of the payment screen `i`, or the end of its write, keeps all of them. -/
theorem Visit.Keeps.set {st st' : Checkout} (h : v.Keeps vcs) (hvc : v'.vc = v.vc)
    (hflows : v'.flows = v.flows.set i st') (hi : v.flows[i]? = some st)
    (hscreen : v.screen ≠ .orderRules → v'.screen ≠ .orderRules)
    (hkept : ∀ b, (v.see i st).Kept b → (v'.see i st').Kept b) : v'.Keeps vcs where
  reachable := by
    rw [hvc]
    exact h.reachable
  length := by
    rw [hflows, List.length_set]
    exact h.length
  kept j stj vc hj hvcj := by
    rw [hflows] at hj
    by_cases hji : j = i
    · subst hji
      have hlt : j < v.flows.length := (List.getElem?_eq_some_iff.mp hi).1
      rw [List.getElem?_set_self hlt] at hj
      obtain rfl := Option.some.inj hj
      exact hkept _ (h.kept j st vc hi hvcj)
    · rw [List.getElem?_set_ne (Ne.symm hji)] at hj
      refine (h.kept j stj vc hj hvcj).moved ?_
      exact Visit.screenOf_ne hscreen (by rw [hflows, List.length_set]) j

/-- The payment screen that is opened keeps the booking of the press. -/
theorem Visit.Keeps.pay {p : SeatVC.Payment} (h : v.Keeps vcs) (hon : v.vc.payEnabled = true)
    (hpay : v.vc.payButton = some p) :
    Visit.Keeps { v with
      vc := p.vc
      defaults := p.save v.defaults
      screen := .orderRules
      flows := v.flows ++ [.viewDidLoad (p.save v.defaults) v.orders] } (vcs ++ [v.vc]) where
  reachable := by
    refine h.reachable.step (a := .payButton) ?_
    show v.vc.next .payButton = some p.vc
    simp [SeatVC.next, SeatVC.permits, SeatVC.exec, hon, hpay]
  length := by
    rw [List.length_append, List.length_append, h.length]
    rfl
  kept j stj vc hj hvcj := by
    by_cases hold : j < v.flows.length
    · rw [List.getElem?_append_left hold] at hj
      rw [List.getElem?_append_left (h.length ▸ hold)] at hvcj
      refine (h.kept j stj vc hj hvcj).moved fun _ => ?_
      -- the new one is on top
      show (if j + 1 = _ then _ else _) ≠ _
      rw [if_neg (by rw [List.length_append, List.length_singleton]; omega), if_pos rfl]
      simp
    · rw [List.getElem?_append_right (by omega)] at hj
      rw [List.getElem?_append_right (by rw [← h.length]; omega)] at hvcj
      rw [List.getElem?_singleton] at hj hvcj
      obtain ⟨-, hnew⟩ := Option.ite_none_right_eq_some.mp hj
      obtain ⟨-, hlast⟩ := Option.ite_none_right_eq_some.mp hvcj
      rw [← Option.some.inj hnew, ← Option.some.inj hlast, ← booking_viewDidLoad h.reachable hpay]
      exact (Checkout.kept_viewDidLoad v.orders).moved fun hleft => absurd rfl hleft

theorem VisitStep.keeps (h : VisitStep v action v') (hv : v.Keeps vcs) :
    v'.Keeps (vcs ++ (paysOf v action).toList) := by
  cases h with
  | @seat a vc hvc =>
      rw [show paysOf v (.seat a) = none from rfl, Option.toList_none, List.append_nil]
      exact ⟨hv.reachable.step hvc, hv.length, hv.kept⟩
  | pay _ hon hpay => exact hv.pay hon hpay
  | back =>
      rw [show paysOf v .back = none from rfl, Option.toList_none, List.append_nil]
      refine ⟨hv.reachable, hv.length, fun j stj vc hj hvcj => ?_⟩
      have hpop : v.screen ≠ .orderRules →
          Visit.screen { v with screen := v.screen.pop } ≠ .orderRules :=
        fun _ => v.screen.pop_ne_orderRules
      exact (hv.kept j stj vc hj hvcj).moved (Visit.screenOf_ne hpop rfl j)
  | @flow i st a st' hst hstep =>
      rw [show paysOf v (.flow i a) = none from rfl, Option.toList_none, List.append_nil]
      refine hv.set rfl rfl hst (fun hleft => ?_) fun b hb => ?_
      · show (if i + 1 = v.flows.length then st'.screen else v.screen) ≠ _
        split
        · rename_i hlast
          exact hstep.screen_ne (show v.screenOf i ≠ _ by rwa [Visit.screenOf, if_pos hlast])
        · exact hleft
      · refine (hstep.kept hb).moved fun hleft => ?_
        unfold Visit.screenOf
        dsimp only
        rw [List.length_set]
        split
        · exact hleft
        · split
          · simp
          · assumption
  | @blockReplaced i st error hst =>
      rw [show paysOf v (.blockReplaced i error) = none from rfl, Option.toList_none,
        List.append_nil]
      have hscreen : v.screen ≠ .orderRules →
          (if error then v.screen else v.screen.pop) ≠ .orderRules := by
        intro hleft
        split
        · exact hleft
        · exact Screen.pop_ne_orderRules _
      refine hv.set rfl rfl hst hscreen fun b hb => hb.moved (Visit.screenOf_ne hscreen ?_ i)
      rw [List.length_set]

/-- The payment screens of a visit keep the bookings they were opened with. -/
theorem keeps_of_run (h : visit.Run es v) : v.Keeps (pays es) := by
  induction h with
  | start h0 =>
      obtain ⟨defaults, orders, rfl⟩ := h0
      exact ⟨⟨[], .start rfl⟩, rfl, fun _ _ _ hst => absurd hst (by simp)⟩
  | @step es v action v' _ hst ih =>
      rw [pays, Lts.labels_step]
      exact (visitStep_of_step hst).keeps ih

/-- However often a customer goes back and pays again, and whenever the primes, the
answers and the writes of the earlier payments arrive: to each press of `payButton`
belongs one payment screen, with one charge and one order at most, and these are for the
number of seats and the price of that press. -/
theorem visit_accounts (h : visit.Run es v) : List.Forall₂ SeatVC.Accounts (pays es) v.flows := by
  have hkeeps := keeps_of_run h
  refine List.forall₂_iff_get.mpr ⟨hkeeps.length.symm, fun i hi hi' => ?_⟩
  have haccounts := (hkeeps.kept i _ _ (List.getElem?_eq_getElem hi')
    (List.getElem?_eq_getElem hi)).accounts
  exact ⟨haccounts.oneCharge, haccounts.oneOrder, haccounts.charged, haccounts.ordered⟩

/-! ## The orders collection -/

/-- A step of a visit writes no document but an order of one of its payment screens. -/
theorem VisitStep.orders (h : VisitStep v action v') (hv : v.Keeps vcs) {id : String}
    {data : DocumentData} (hdata : v'.orders id = some data) :
    v.orders id = some data ∨
      ∃ vc ∈ vcs, ∃ order : Order, order.booking = vc.booked ∧ data = order.documentData := by
  cases h with
  | @flow i st a st' hst hstep =>
      have hlt : i < vcs.length := hv.length ▸ (List.getElem?_eq_some_iff.mp hst).1
      have hkept := hv.kept i st _ hst (List.getElem?_eq_getElem hlt)
      refine (hstep.orders hkept.shows hdata).imp (fun hold => hold) fun hnew => ?_
      exact ⟨vcs[i], List.getElem_mem hlt, hnew⟩
  | _ => exact .inl hdata

theorem orders_of_run (h : visit.Run es v) {id : String} {data : DocumentData}
    (hdata : v.orders id = some data) :
    (Lts.origin es v).orders id = some data ∨
      ∃ vc ∈ pays es, ∃ order : Order, order.booking = vc.booked ∧ data = order.documentData := by
  induction h with
  | start _ => exact .inl hdata
  | @step es v action v' hrun hst ih =>
      rw [Lts.origin_step, pays, Lts.labels_step]
      have hpaid : ∀ {P : SeatVC → Prop}, (∃ vc ∈ pays es, P vc) →
          ∃ vc ∈ pays es ++ (paysOf v action).toList, P vc :=
        fun ⟨vc, hvc, hP⟩ => ⟨vc, List.mem_append_left _ hvc, hP⟩
      rcases (visitStep_of_step hst).orders (keeps_of_run hrun) hdata with hold | hnew
      · exact (ih hold).imp_right hpaid
      · exact .inr (hpaid hnew)

/-- Every document of the orders collection was there when the visit began, or is an order
for the number of seats and the price of a press of `payButton`. -/
theorem visit_orders (h : visit.Run es v) {id : String} {data : DocumentData}
    (hdata : v.orders id = some data) :
    (Lts.origin es v).orders id = some data ∨
      ∃ vc ∈ pays es, data "Order_Count" = some (.string vc.seatOrderLabel) ∧
        data "Order_Amount" = some (.string (text vc.price)) := by
  refine (orders_of_run h hdata).imp_right fun hnew => ?_
  obtain ⟨vc, hvc, order, hbooked, rfl⟩ := hnew
  obtain ⟨-, hbooked⟩ := Prod.mk.inj hbooked
  obtain ⟨hcount, hamount⟩ := Prod.mk.inj hbooked
  refine ⟨vc, hvc, ?_, ?_⟩
  · rw [← hcount]
    rfl
  · rw [← hamount]
    rfl

/-! ## Two payments in one visit -/

/-- One seat is booked and paid for by card; the write of the pay pops the payment screen
from under its last alert. Then a second seat is added and `payButton` pressed again, and
only now the prime of the first payment arrives. -/
def twoPayments : List VisitAction :=
  [.seat (.showAllStations (some [Station.documentData ⟨{ one := [2, 2] }, stationDocument⟩])),
    .seat (.didSelectItemAt ⟨.one, 0⟩), .seat (.cellForItemAt ⟨.one, 0⟩), .seat (.add .adult), .pay,
    .flow 0 .checkButton, .flow 0 .agreeButton, .flow 0 .orderInfoOk, .flow 0 .creditCard,
    .flow 0 .creditOk, .blockReplaced 0 false, .flow 0 (.payOk "kYx0" "2021-03-12 13:00:00"),
    .seat (.didSelectItemAt ⟨.one, 1⟩), .seat (.cellForItemAt ⟨.one, 0⟩),
    .seat (.cellForItemAt ⟨.one, 1⟩), .seat (.minus .adult), .seat (.add .adult),
    .seat (.add .child), .pay, .flow 0 (.primeSucceeded 0 "prime")]

abbrev visitTrace (as : List VisitAction) : List (Edge Visit VisitAction) :=
  Lts.trace Visit.next { defaults := fun _ => none, orders := fun _ => none } as

theorem run_twoPayments : ∃ v, visit.Run (visitTrace twoPayments) v ∧
    v.flows.map (fun st => (st.charges.map fun c => c.request.amount, st.placed.length)) =
      [(["300"], 1), ([], 0)] ∧
    (v.orders "kYx0").isSome ∧ ((Lts.origin (visitTrace twoPayments) v).orders "kYx0").isNone :=
  Lts.exists_run_trace ⟨fun _ => none, fun _ => none, rfl⟩ (by decide +kernel)

/-- The charge that comes late is for the first payment. -/
theorem visit_accounts_twoPayments : ∃ v, visit.Run (visitTrace twoPayments) v ∧
    v.flows.map (fun st => (st.charges.map fun c => c.request.amount, st.placed.length)) =
      [(["300"], 1), ([], 0)] ∧
    List.Forall₂ SeatVC.Accounts (pays (visitTrace twoPayments)) v.flows := by
  obtain ⟨v, hrun, hflows, -⟩ := run_twoPayments
  exact ⟨v, hrun, hflows, visit_accounts hrun⟩

theorem visit_orders_twoPayments : ∃ v data, visit.Run (visitTrace twoPayments) v ∧
    v.orders "kYx0" = some data ∧ ∃ vc ∈ pays (visitTrace twoPayments),
      data "Order_Count" = some (.string vc.seatOrderLabel) ∧
        data "Order_Amount" = some (.string (text vc.price)) := by
  obtain ⟨v, hrun, -, horder, hnone⟩ := run_twoPayments
  obtain ⟨data, hdata⟩ := Option.isSome_iff_exists.mp horder
  refine ⟨v, data, hrun, hdata, (visit_orders hrun hdata).resolve_left fun hold => ?_⟩
  rw [hold] at hnone
  exact absurd hnone (by simp)

end Takeit
