import Takeit.Logic.Lts
import Takeit.Order.OrderRulesVC

/-!
# The payment flow

One instance of `OrderRulesVC`, from its `viewDidLoad` on: the alert on the
screen, the calls of `getPrime` that have not called back, the charges that
were issued and the orders that were written. The user, the payment library,
the server and Firestore act in any order.

What is outside the source is an input of the step: the prime, the answer to a
charge, whether the Line app is there, the id of a new document and the
formatted date.
-/

namespace Takeit

open Takeit.Logic Takeit.Firestore

/-! ## States -/

/-- The screen on top of the navigation stack; `root` stands for all screens
below `SeatVC`. -/
inductive Screen
  | orderRules
  | seat
  | root
deriving DecidableEq, Repr

/-- The alerts, with the call of `showPay` they belong to. -/
inductive Dialog
  | orderInfo
  | paySheet (attempt : Nat)
  | creditAlert (attempt : Nat)
  | payOkAlert (attempt : Nat)
  | appleOkAlert
deriving DecidableEq, Repr

/-- Who is asked for a prime. -/
inductive PrimeSource
  | tpdCard
  | linePay
deriving DecidableEq, Repr

/-- A call of `getPrime`: for whom, in which call of `showPay`, and what was on
top of the navigation stack then. -/
structure GetPrime where
  source : PrimeSource
  attempt : Nat
  screen : Screen
deriving DecidableEq, Repr

/-- How a charge was answered. -/
inductive ChargeAnswer
  | approved
  | declined
  | error
deriving DecidableEq, Repr

/-- A charge request, the prime it came from and its answer, if there is one. -/
structure Charge where
  asked : GetPrime
  request : PaymentRequest
  answer : Option ChargeAnswer := none
deriving DecidableEq, Repr

/-- An order that was passed to `addOrder`. -/
structure Placed where
  attempt : Nat
  order : Order
deriving DecidableEq, Repr

/-- The flow. `replacing` says that the write of `SeatVC.replaceBlock` has not
called back. -/
structure Checkout where
  vc : OrderRulesVC
  orders : Collection
  screen : Screen := .orderRules
  presented : Option Dialog := none
  attempts : Nat := 0
  pending : List GetPrime := []
  charges : List Charge := []
  placed : List Placed := []
  replacing : Bool := true

namespace Checkout

/-- The flow when the screen has loaded. -/
def viewDidLoad (ud : UserDefaults) (orders : Collection) : Checkout where
  vc := .viewDidLoad ud
  orders := orders

/-! ## UIKit -/

/-- `self.present(alert, ...)`: ignored when the screen is not in the window. -/
def present (st : Checkout) (alert : Dialog) : Checkout :=
  { st with presented := if st.screen = .orderRules then some alert else st.presented }

/-- `self.navigationController?.popToRootViewController(...)`: a screen that
has been popped has no navigation controller. -/
def popToRoot (st : Checkout) : Checkout :=
  { st with screen := if st.screen = .orderRules then .root else st.screen }

/-- The top of the navigation stack is popped. -/
def popTop (st : Checkout) : Checkout :=
  { st with screen := if st.screen = .orderRules then .seat else .root }

/-! ## The handlers -/

/-- `showPay()`. -/
def showPay (st : Checkout) : Checkout :=
  { st with attempts := st.attempts + 1 }.present (.paySheet st.attempts)

/-- 信用卡: the card form. -/
def creditCard (st : Checkout) (attempt : Nat) : Checkout :=
  st.present (.creditAlert attempt)

/-- `getPrime()` of the card or of Line Pay. -/
def getPrime (st : Checkout) (source : PrimeSource) (attempt : Nat) : Checkout :=
  { st with pending := st.pending ++ [⟨source, attempt, st.screen⟩] }

/-- 確定 below the card form: the prime is asked for, and the success alert
comes up at once. -/
def creditOk (st : Checkout) (attempt : Nat) : Checkout :=
  (st.getPrime .tpdCard attempt).present (.payOkAlert attempt)

/-- 確定 in the success alert: the order is written. -/
def payOk (st : Checkout) (attempt : Nat) (id result : String) : Checkout :=
  let vc := st.vc.fillOrder id result
  { st with
    vc := vc
    placed := st.placed ++ [Placed.mk attempt vc.orders]
    orders := OrderRulesVC.addOrder st.orders vc.orders }.popToRoot

/-- ApplePay: a success alert, and nothing else. -/
def apple (st : Checkout) : Checkout := st.present .appleOkAlert

/-- LinePay: the prime is asked for if the app is installed. -/
def line (st : Checkout) (attempt : Nat) (isLinePayAvailable : Bool) : Checkout :=
  { st with
    pending :=
      if isLinePayAvailable then (st.getPrime .linePay attempt).pending
      else st.pending }.popToRoot

/-- `onSuccessCallback` of either: the charge is issued. -/
def onSuccessCallback (st : Checkout) (k : Nat) (asked : GetPrime) (prime : String) :
    Checkout :=
  { st with
    pending := st.pending.eraseIdx k
    charges := st.charges ++ [⟨asked, st.vc.generatePayByPrimeForSandBox prime, none⟩] }

/-- `onFailureCallback` of either only prints. -/
def onFailureCallback (st : Checkout) (k : Nat) : Checkout :=
  { st with pending := st.pending.eraseIdx k }

/-- The completion handler of the charge only prints. -/
def completionHandler (st : Checkout) (k : Nat) (charge : Charge) (answer : ChargeAnswer) :
    Checkout :=
  { st with charges := st.charges.set k { charge with answer := some answer } }

end Checkout

/-! ## Steps -/

/-- What can happen. -/
inductive CheckoutAction
  | checkButton
  | agreeButton
  | orderInfoOk
  | cancel
  | creditCard
  | creditOk
  | creditCancel
  | payOk (id result : String)
  | apple
  | appleOk
  | line (isLinePayAvailable : Bool)
  | primeSucceeded (k : Nat) (prime : String)
  | primeFailed (k : Nat)
  | chargeAnswered (k : Nat) (answer : ChargeAnswer)
  | back
  | blockReplaced (error : Bool)
deriving DecidableEq, Repr

namespace Checkout

/-- The buttons of the screen take touches. -/
def Touchable (st : Checkout) : Prop := st.screen = .orderRules ∧ st.presented = none

instance (st : Checkout) : Decidable st.Touchable := inferInstanceAs (Decidable (_ ∧ _))

/-- The alert is gone when its handler runs. -/
def dismiss (st : Checkout) : Checkout := { st with presented := none }

/-- One step. Of `getPrime` at most one of the two callbacks arrives, once, and
a charge is answered once. -/
def next (st : Checkout) : CheckoutAction → Option Checkout
  | .checkButton => if st.Touchable then some { st with vc := st.vc.checkButton } else none
  | .agreeButton =>
      if st.Touchable ∧ st.vc.isEnabled = true then
        some ({ st with vc := st.vc.agreeButton }.present .orderInfo)
      else none
  | .orderInfoOk =>
      match st.presented with
      | some .orderInfo => some st.dismiss.showPay
      | _ => none
  | .cancel =>
      match st.presented with
      | some (.paySheet _) => some st.dismiss
      | _ => none
  | .creditCard =>
      match st.presented with
      | some (.paySheet n) => some (st.dismiss.creditCard n)
      | _ => none
  | .apple =>
      match st.presented with
      | some (.paySheet _) => some st.dismiss.apple
      | _ => none
  | .line isLinePayAvailable =>
      match st.presented with
      | some (.paySheet n) => some (st.dismiss.line n isLinePayAvailable)
      | _ => none
  | .creditOk =>
      match st.presented with
      | some (.creditAlert n) => some (st.dismiss.creditOk n)
      | _ => none
  | .creditCancel =>
      match st.presented with
      | some (.creditAlert _) => some st.dismiss
      | _ => none
  | .payOk id result =>
      match st.presented with
      | some (.payOkAlert n) => some (st.dismiss.payOk n id result)
      | _ => none
  | .appleOk =>
      match st.presented with
      | some .appleOkAlert => some st.dismiss.popToRoot
      | _ => none
  | .primeSucceeded k prime => st.pending[k]?.map fun asked => st.onSuccessCallback k asked prime
  | .primeFailed k => st.pending[k]?.map fun _ => st.onFailureCallback k
  | .chargeAnswered k answer =>
      match st.charges[k]? with
      | some charge =>
          if charge.answer = none then some (st.completionHandler k charge answer) else none
      | none => none
  | .back => if st.presented = none ∧ st.screen ≠ .root then some st.popTop else none
  | .blockReplaced error =>
      if st.replacing = true then
        let st := { st with replacing := false }
        some (if error then st else st.popTop)
      else none

end Checkout

/-- The flow of a booking with these stored values. -/
def checkout (ud : UserDefaults) : Lts Checkout CheckoutAction :=
  .ofNext (fun st => ∃ orders, st = .viewDidLoad ud orders) Checkout.next

/-- A list of actions that is possible from the start is a run. -/
theorem exists_checkout_run (ud : UserDefaults) (orders : Collection)
    (as : List CheckoutAction) {P : Checkout → Prop}
    (h : ∃ t ∈ Lts.runList Checkout.next (.viewDidLoad ud orders) as, P t) :
    ∃ t, (checkout ud).Run (Lts.trace Checkout.next (.viewDidLoad ud orders) as) t ∧ P t :=
  Lts.exists_run_trace ⟨orders, rfl⟩ h

/-- Every way a step can go. -/
inductive CheckoutStep (st : Checkout) : CheckoutAction → Checkout → Prop
  | checkButton : st.Touchable → CheckoutStep st .checkButton { st with vc := st.vc.checkButton }
  | agreeButton : st.Touchable → st.vc.isEnabled = true →
      CheckoutStep st .agreeButton { st with
        vc := st.vc.agreeButton, presented := some .orderInfo }
  | orderInfoOk : st.presented = some .orderInfo →
      CheckoutStep st .orderInfoOk st.dismiss.showPay
  | cancel {n} : st.presented = some (.paySheet n) → CheckoutStep st .cancel st.dismiss
  | creditCard {n} : st.presented = some (.paySheet n) →
      CheckoutStep st .creditCard (st.dismiss.creditCard n)
  | apple {n} : st.presented = some (.paySheet n) → CheckoutStep st .apple st.dismiss.apple
  | line {n available} : st.presented = some (.paySheet n) →
      CheckoutStep st (.line available) (st.dismiss.line n available)
  | creditOk {n} : st.presented = some (.creditAlert n) →
      CheckoutStep st .creditOk (st.dismiss.creditOk n)
  | creditCancel {n} : st.presented = some (.creditAlert n) →
      CheckoutStep st .creditCancel st.dismiss
  | payOk {n id result} : st.presented = some (.payOkAlert n) →
      CheckoutStep st (.payOk id result) (st.dismiss.payOk n id result)
  | appleOk : st.presented = some .appleOkAlert →
      CheckoutStep st .appleOk st.dismiss.popToRoot
  | primeSucceeded {k prime asked} : st.pending[k]? = some asked →
      CheckoutStep st (.primeSucceeded k prime) (st.onSuccessCallback k asked prime)
  | primeFailed {k asked} : st.pending[k]? = some asked →
      CheckoutStep st (.primeFailed k) (st.onFailureCallback k)
  | chargeAnswered {k charge answer} : st.charges[k]? = some charge → charge.answer = none →
      CheckoutStep st (.chargeAnswered k answer) (st.completionHandler k charge answer)
  | back : st.presented = none → st.screen ≠ .root → CheckoutStep st .back st.popTop
  | blockFailed : st.replacing = true →
      CheckoutStep st (.blockReplaced true) { st with replacing := false }
  | blockReplaced : st.replacing = true →
      CheckoutStep st (.blockReplaced false) { st with replacing := false }.popTop

theorem checkoutStep_of_next {st t : Checkout} {a : CheckoutAction} (h : st.next a = some t) :
    CheckoutStep st a t := by
  cases a with
  | checkButton =>
      simp only [Checkout.next, Option.ite_none_right_eq_some, Option.some.injEq] at h
      obtain ⟨htouch, rfl⟩ := h
      exact .checkButton htouch
  | agreeButton =>
      simp only [Checkout.next, Option.ite_none_right_eq_some, Option.some.injEq] at h
      obtain ⟨⟨htouch, hon⟩, rfl⟩ := h
      have hstep : CheckoutStep st .agreeButton _ := .agreeButton htouch hon
      simpa [Checkout.present, htouch.1] using hstep
  | primeSucceeded k prime =>
      obtain ⟨asked, hasked, rfl⟩ := Option.map_eq_some_iff.mp h
      exact .primeSucceeded hasked
  | primeFailed k =>
      obtain ⟨asked, hasked, rfl⟩ := Option.map_eq_some_iff.mp h
      exact .primeFailed hasked
  | chargeAnswered k answer =>
      simp only [Checkout.next] at h
      split at h
      · rename_i charge hcharge
        obtain ⟨hnone, rfl⟩ := (Option.ite_none_right_eq_some.mp h).imp_right Option.some.inj
        exact .chargeAnswered hcharge hnone
      · exact absurd h (by simp)
  | back =>
      simp only [Checkout.next, Option.ite_none_right_eq_some, Option.some.injEq] at h
      obtain ⟨⟨hfree, hscreen⟩, rfl⟩ := h
      exact .back hfree hscreen
  | blockReplaced error =>
      simp only [Checkout.next, Option.ite_none_right_eq_some, Option.some.injEq] at h
      obtain ⟨hrep, rfl⟩ := h
      cases error with
      | true => exact .blockFailed hrep
      | false => exact .blockReplaced hrep
  -- the handlers of the alerts
  | orderInfoOk | cancel | creditCard | apple | line | creditOk | creditCancel | payOk | appleOk =>
      simp only [Checkout.next] at h
      split at h
      · rename_i hpresented
        obtain rfl := Option.some.inj h
        first
          | exact .orderInfoOk hpresented
          | exact .cancel hpresented
          | exact .creditCard hpresented
          | exact .apple hpresented
          | exact .line hpresented
          | exact .creditOk hpresented
          | exact .creditCancel hpresented
          | exact .payOk hpresented
          | exact .appleOk hpresented
      · exact absurd h (by simp)

end Takeit
