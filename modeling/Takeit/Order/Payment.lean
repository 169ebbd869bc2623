import Mathlib.Data.List.Perm.Basic
import Takeit.Order.Checkout

/-!
# Charges and orders

`Phase` follows one flow from the choice of a payment method to its end; it is
what every run is in (`run_phase`). From it follow the two accountings: which
orders have been paid for, and which charges have got an order.
-/

namespace Takeit

open Takeit.Logic Takeit.Firestore

namespace Checkout

/-- All calls of `getPrime` that are still open or have led to a charge. -/
def primes (st : Checkout) : List GetPrime := st.pending ++ st.charges.map Charge.asked

end Checkout

/-- The success alert of the credit card branch came up with the call. -/
def GetPrime.Noticed (asked : GetPrime) : Prop :=
  asked.source = .tpdCard ∧ asked.screen = .orderRules

instance (asked : GetPrime) : Decidable asked.Noticed := inferInstanceAs (Decidable (_ ∧ _))

/-- How far the flow is: the user is choosing; or the card's success alert is
up; or the flow is over, after that alert or without it. -/
inductive Phase (st : Checkout) : Prop
  | choosing : st.primes = [] → st.placed = [] →
      (∀ n, st.presented ≠ some (.payOkAlert n)) → Phase st
  | noticed (n : Nat) : st.presented = some (.payOkAlert n) → st.placed = [] →
      (∀ asked ∈ st.primes, asked.Noticed ∧ asked.attempt = n) → st.primes.length ≤ 1 → Phase st
  | ordered (p : Placed) : st.presented = none → st.screen ≠ .orderRules → st.placed = [p] →
      (∀ asked ∈ st.primes, asked.Noticed ∧ asked.attempt = p.attempt) →
      st.primes.length ≤ 1 → Phase st
  | unordered : st.presented = none → st.screen ≠ .orderRules → st.placed = [] →
      (∀ asked ∈ st.primes, ¬ asked.Noticed) → st.primes.length ≤ 1 → Phase st

variable {ud : UserDefaults} {es : List (Edge Checkout CheckoutAction)} {st t : Checkout}
  {a : CheckoutAction}

/-! ## Phases from step to step -/

/-- An alert is up only if it was presented. -/
theorem presented_present {alert : Dialog} {n : Nat} (hclosed : st.presented = none)
    (hne : alert ≠ .payOkAlert n) : (st.present alert).presented ≠ some (.payOkAlert n) := by
  by_cases hscreen : st.screen = .orderRules <;>
    simp [Checkout.present, hscreen, hclosed, hne]

theorem screen_popToRoot (st : Checkout) : st.popToRoot.screen ≠ .orderRules := by
  by_cases hscreen : st.screen = .orderRules <;> simp [Checkout.popToRoot, hscreen]

theorem screen_popTop (st : Checkout) : st.popTop.screen ≠ .orderRules := by
  by_cases hscreen : st.screen = .orderRules <;> simp [Checkout.popTop, hscreen]

/-- Callbacks and pops keep the phase: they open no alert, ask for no prime and
write no order. -/
theorem Phase.mono (h : Phase st) (hpresented : t.presented = st.presented)
    (hscreen : st.screen ≠ .orderRules → t.screen ≠ .orderRules) (hplaced : t.placed = st.placed)
    (hsub : ∀ asked ∈ t.primes, asked ∈ st.primes)
    (hlen : t.primes.length ≤ st.primes.length) : Phase t := by
  cases h with
  | choosing hprimes hnone halert =>
      refine .choosing ?_ (hplaced.trans hnone) (by rwa [hpresented])
      rw [hprimes] at hlen
      exact List.eq_nil_of_length_eq_zero (Nat.le_zero.mp hlen)
  | noticed n halert hnone hcard hone =>
      exact .noticed n (hpresented.trans halert) (hplaced.trans hnone)
        (fun r hr => hcard r (hsub r hr)) (Nat.le_trans hlen hone)
  | ordered p hclosed hleft hp hcard hone =>
      exact .ordered p (hpresented.trans hclosed) (hscreen hleft) (hplaced.trans hp)
        (fun r hr => hcard r (hsub r hr)) (Nat.le_trans hlen hone)
  | unordered hclosed hleft hnone hcard hone =>
      exact .unordered (hpresented.trans hclosed) (hscreen hleft) (hplaced.trans hnone)
        (fun r hr => hcard r (hsub r hr)) (Nat.le_trans hlen hone)

/-- While another alert is up the user is choosing. -/
theorem Phase.of_alert {alert : Dialog} (h : Phase st) (hup : st.presented = some alert)
    (hne : ∀ n, alert ≠ .payOkAlert n) : st.primes = [] ∧ st.placed = [] := by
  cases h with
  | choosing hprimes hnone _ => exact ⟨hprimes, hnone⟩
  | noticed n halert =>
      rw [hup] at halert
      exact absurd (Option.some.inj halert) (hne n)
  | ordered _ hclosed => rw [hup] at hclosed; exact absurd hclosed (by simp)
  | unordered hclosed => rw [hup] at hclosed; exact absurd hclosed (by simp)

/-- So it is while the buttons take touches. -/
theorem Phase.of_touchable (h : Phase st) (htouch : st.Touchable) :
    st.primes = [] ∧ st.placed = [] := by
  obtain ⟨hscreen, hclosed⟩ := htouch
  cases h with
  | choosing hprimes hnone _ => exact ⟨hprimes, hnone⟩
  | noticed _ halert => rw [hclosed] at halert; exact absurd halert (by simp)
  | ordered _ _ hleft => exact absurd hscreen hleft
  | unordered _ hleft => exact absurd hscreen hleft

/-- The success alert is that of the calls there are. -/
theorem Phase.of_payOkAlert {n : Nat} (h : Phase st) (hup : st.presented = some (.payOkAlert n)) :
    st.placed = [] ∧ (∀ asked ∈ st.primes, asked.Noticed ∧ asked.attempt = n) ∧
      st.primes.length ≤ 1 := by
  cases h with
  | choosing _ _ halert => exact absurd hup (halert n)
  | noticed m halert hnone hcard hone =>
      rw [hup] at halert
      simp only [Option.some.injEq, Dialog.payOkAlert.injEq] at halert
      subst halert
      exact ⟨hnone, hcard, hone⟩
  | ordered _ hclosed => rw [hup] at hclosed; exact absurd hclosed (by simp)
  | unordered hclosed => rw [hup] at hclosed; exact absurd hclosed (by simp)

/-- So the order it writes is the first one of the flow. -/
theorem Phase.placed_payOk {n : Nat} (h : Phase st) (id result : String)
    (hup : st.presented = some (.payOkAlert n)) :
    (st.dismiss.payOk n id result).placed = [⟨n, (st.vc.fillOrder id result).orders⟩] := by
  simp [Checkout.payOk, Checkout.popToRoot, Checkout.dismiss, (h.of_payOkAlert hup).1]

/-- A prime that arrives turns a call into a charge. -/
theorem primes_onSuccessCallback {k : Nat} {asked : GetPrime} (prime : String)
    (hk : st.pending[k]? = some asked) :
    List.Perm (st.onSuccessCallback k asked prime).primes st.primes := by
  obtain ⟨hlt, rfl⟩ := List.getElem?_eq_some_iff.mp hk
  have hlast := List.perm_append_singleton st.pending[k]
    (st.pending.eraseIdx k ++ st.charges.map Charge.asked)
  have hback := (List.getElem_cons_eraseIdx_perm hlt).append_right (st.charges.map Charge.asked)
  simp only [Checkout.primes, Checkout.onSuccessCallback, List.map_append, List.map_cons,
    List.map_nil, ← List.append_assoc]
  exact hlast.trans hback

/-- An answer changes no charge's call. -/
theorem asked_set {cs : List Charge} {k : Nat} {charge : Charge} (answer : Option ChargeAnswer)
    (hk : cs[k]? = some charge) :
    (cs.set k { charge with answer := answer }).map Charge.asked = cs.map Charge.asked := by
  obtain ⟨hlt, rfl⟩ := List.getElem?_eq_some_iff.mp hk
  rw [List.map_set]
  apply List.ext_getElem (by simp)
  intro i h₁ h₂
  rw [List.getElem_set]
  split
  · rename_i heq
    subst heq
    simp
  · rfl

theorem primes_completionHandler {k : Nat} {charge : Charge} (answer : ChargeAnswer)
    (hk : st.charges[k]? = some charge) :
    (st.completionHandler k charge answer).primes = st.primes := by
  simp only [Checkout.primes, Checkout.completionHandler, asked_set _ hk]

/-- Where there was no call there is one after `getPrime`. -/
theorem primes_getPrime (source : PrimeSource) (n : Nat) (h : t.primes = []) :
    (t.getPrime source n).primes = [⟨source, n, t.screen⟩] := by
  have hpending := (List.append_eq_nil_iff.mp h).1
  have hcharges := (List.append_eq_nil_iff.mp h).2
  simp [Checkout.getPrime, Checkout.primes, hpending, hcharges]

/-- LinePay leaves without an alert and so without an order. -/
theorem Phase.line (n : Nat) (available : Bool) (hprimes : st.primes = [])
    (hnone : st.placed = []) : Phase (st.dismiss.line n available) := by
  have hone : (st.dismiss.line n available).primes =
      if available then [⟨.linePay, n, st.screen⟩] else [] := by
    cases available with
    | false => exact hprimes
    | true => exact primes_getPrime (t := st.dismiss) .linePay n hprimes
  refine .unordered rfl (screen_popToRoot _) hnone ?_ ?_
  · rw [hone]
    cases available <;> simp [GetPrime.Noticed]
  · rw [hone]
    cases available <;> simp

/-- The card form brings up the success alert, unless the screen has been
popped under it. -/
theorem Phase.creditOk (n : Nat) (hprimes : st.primes = []) (hnone : st.placed = []) :
    Phase (st.dismiss.creditOk n) := by
  have hone : (st.dismiss.creditOk n).primes = [⟨.tpdCard, n, st.screen⟩] :=
    primes_getPrime (t := st.dismiss) .tpdCard n hprimes
  by_cases hscreen : st.screen = .orderRules
  · refine .noticed n ?_ hnone ?_ ?_
    · simp [Checkout.creditOk, Checkout.present, Checkout.getPrime, Checkout.dismiss, hscreen]
    · simp [hone, GetPrime.Noticed, hscreen]
    · simp [hone]
  · refine .unordered ?_ hscreen hnone ?_ ?_
    · simp [Checkout.creditOk, Checkout.present, Checkout.getPrime, Checkout.dismiss, hscreen]
    · simp [hone, GetPrime.Noticed, hscreen]
    · simp [hone]

theorem CheckoutStep.phase (h : CheckoutStep st a t) (hst : Phase st) : Phase t := by
  cases h with
  | checkButton htouch =>
      exact hst.mono rfl id rfl (fun _ hr => hr) (Nat.le_refl _)
  | agreeButton htouch =>
      obtain ⟨hprimes, hnone⟩ := hst.of_touchable htouch
      exact .choosing hprimes hnone (by simp)
  | orderInfoOk hup =>
      obtain ⟨hprimes, hnone⟩ := hst.of_alert hup (by simp)
      exact .choosing hprimes hnone fun n => presented_present rfl (by simp)
  | cancel hup | creditCancel hup =>
      obtain ⟨hprimes, hnone⟩ := hst.of_alert hup (by simp)
      exact .choosing hprimes hnone (by simp [Checkout.dismiss])
  | creditCard hup | apple hup =>
      obtain ⟨hprimes, hnone⟩ := hst.of_alert hup (by simp)
      exact .choosing hprimes hnone fun n => presented_present rfl (by simp)
  | appleOk hup =>
      obtain ⟨hprimes, hnone⟩ := hst.of_alert hup (by simp)
      exact .choosing hprimes hnone (by simp [Checkout.dismiss, Checkout.popToRoot])
  | line hup =>
      obtain ⟨hprimes, hnone⟩ := hst.of_alert hup (by simp)
      exact .line _ _ hprimes hnone
  | creditOk hup =>
      obtain ⟨hprimes, hnone⟩ := hst.of_alert hup (by simp)
      exact .creditOk _ hprimes hnone
  | @payOk n id result hup =>
      obtain ⟨-, hcard, hone⟩ := hst.of_payOkAlert hup
      exact .ordered _ rfl (screen_popToRoot _) (hst.placed_payOk id result hup) hcard hone
  | @primeSucceeded k prime asked hk =>
      have hperm := primes_onSuccessCallback prime hk
      exact hst.mono rfl id rfl (fun _ hr => hperm.subset hr)
        (Nat.le_of_eq hperm.length_eq)
  | @primeFailed k asked hk =>
      have hsub : List.Sublist (st.onFailureCallback k).primes st.primes :=
        (List.eraseIdx_sublist _ _).append_right _
      exact hst.mono rfl id rfl (fun _ hr => hsub.subset hr) hsub.length_le
  | @chargeAnswered k charge answer hk =>
      have hsame := primes_completionHandler answer hk
      exact hst.mono rfl id rfl (fun _ hr => hsame ▸ hr)
        (Nat.le_of_eq (by rw [hsame]))
  | back =>
      exact hst.mono rfl (fun _ => screen_popTop _) rfl (fun _ hr => hr) (Nat.le_refl _)
  | blockFailed => exact hst.mono rfl id rfl (fun _ hr => hr) (Nat.le_refl _)
  | blockReplaced =>
      exact hst.mono rfl (fun _ => screen_popTop _) rfl (fun _ hr => hr) (Nat.le_refl _)

/-- Every state a flow reaches is in one of the phases. -/
theorem run_phase (h : (checkout ud).Run es st) : Phase st :=
  h.invariant (I := Phase)
    (by rintro _ ⟨orders, rfl⟩; exact .choosing rfl rfl (by simp [Checkout.viewDidLoad]))
    fun _ _ _ hs hst => (checkoutStep_of_next hst).phase hs

/-- Every order that was placed is a document of the orders collection. -/
theorem placed_written (h : (checkout ud).Run es st) :
    ∀ p ∈ st.placed, st.orders p.order.orderId = some p.order.documentData := by
  induction h with
  | start h0 =>
      obtain ⟨orders, rfl⟩ := h0
      intro p hp
      exact absurd hp List.not_mem_nil
  | step hrun hst ih =>
      cases checkoutStep_of_next hst with
      | payOk hup =>
          intro p hp
          rw [(run_phase hrun).placed_payOk _ _ hup] at hp
          rw [List.mem_singleton.mp hp]
          exact Collection.setData_self _ _ _
      | _ => exact ih

/-! ## Orders that have been paid for -/

/-- Every order a step writes belongs to a charge that has been reported
approved before. -/
def OrderPaid (e : Edge Checkout CheckoutAction) : Prop :=
  ∀ p ∈ e.post.placed, p ∈ e.pre.placed ∨
    ∃ c ∈ e.pre.charges, c.asked.attempt = p.attempt ∧ c.answer = some .approved

instance (e : Edge Checkout CheckoutAction) : Decidable (OrderPaid e) :=
  inferInstanceAs (Decidable (∀ _ ∈ _, _ ∨ ∃ _ ∈ _, _))

/-- The success alert of the card is confirmed only after an approving answer
has arrived. -/
def ApprovedFirst (acts : List CheckoutAction) : Prop :=
  ∀ before id result, before ++ [.payOk id result] <+: acts →
    ∃ k, .chargeAnswered k .approved ∈ before

theorem approvedFirst_step {acts : List CheckoutAction} : ApprovedFirst (acts ++ [a]) ↔
    ApprovedFirst acts ∧
      ∀ id result, a = .payOk id result → ∃ k, .chargeAnswered k .approved ∈ acts := by
  constructor
  · intro h
    refine ⟨fun before id result hpre => ?_, ?_⟩
    · exact h before id result (hpre.trans (List.prefix_append _ _))
    · rintro id result rfl
      exact h acts id result (List.prefix_refl _)
  · rintro ⟨hbefore, hlast⟩ before id result hpre
    rcases List.prefix_concat_iff.mp hpre with heq | hpre
    · obtain ⟨rfl, hact⟩ := List.append_inj' heq rfl
      exact hlast id result (List.head_eq_of_cons_eq hact).symm
    · exact hbefore before id result hpre

/-- An answer to a charge that had none approves it or leaves what is approved
as it was. -/
theorem approved_set {cs : List Charge} {k : Nat} {charge : Charge} (answer : ChargeAnswer)
    (hk : cs[k]? = some charge) (hnone : charge.answer = none) :
    (∃ c ∈ cs.set k { charge with answer := some answer }, c.answer = some .approved) ↔
      (∃ c ∈ cs, c.answer = some .approved) ∨ answer = .approved := by
  obtain ⟨hlt, hcharge⟩ := List.getElem?_eq_some_iff.mp hk
  constructor
  · rintro ⟨c, hc, happ⟩
    rcases List.mem_or_eq_of_mem_set hc with hc | rfl
    · exact .inl ⟨c, hc, happ⟩
    · exact .inr (Option.some.inj happ)
  · rintro (⟨c, hc, happ⟩ | rfl)
    · obtain ⟨i, hi, rfl⟩ := List.getElem_of_mem hc
      have hik : k ≠ i := by
        rintro rfl
        rw [hcharge, hnone] at happ
        exact absurd happ (by simp)
      refine ⟨cs[i], ?_, happ⟩
      rw [← List.getElem_set_ne hik (by simpa using hi)]
      exact List.getElem_mem _
    · exact ⟨_, List.mem_set hlt _, rfl⟩

/-- A charge is approved once an answer has said so. -/
theorem run_approved (h : (checkout ud).Run es st) :
    (∃ c ∈ st.charges, c.answer = some .approved) ↔
      ∃ k, .chargeAnswered k .approved ∈ es.map Edge.act := by
  induction h with
  | start h0 =>
      obtain ⟨orders, rfl⟩ := h0
      simp [Checkout.viewDidLoad]
  | @step es st a t _ hst ih =>
      rw [List.map_append, List.map_singleton]
      simp only [List.mem_append, List.mem_singleton, exists_or]
      rw [← ih]
      cases checkoutStep_of_next hst with
      | @chargeAnswered k charge answer hk hnone =>
          refine (approved_set answer hk hnone).trans ?_
          simp [eq_comm]
      | primeSucceeded => simp [Checkout.onSuccessCallback, or_and_right, exists_or]
      | _ =>
          -- the charges are the same, and the action answers none
          exact (Iff.rfl : _ ↔ ∃ c ∈ st.charges, _).trans (by simp)

/-- Only the success alert of the card writes an order. -/
theorem CheckoutStep.placed (h : CheckoutStep st a t) (hact : ∀ id result, a ≠ .payOk id result) :
    t.placed = st.placed := by
  cases h with
  | payOk => exact absurd rfl (hact _ _)
  | _ => rfl

/-- Writing an order is in order exactly after an approving answer. -/
theorem orderPaid_payOk {n : Nat} {id result : String} (hphase : Phase st)
    (hup : st.presented = some (.payOkAlert n)) :
    OrderPaid ⟨st, .payOk id result, st.dismiss.payOk n id result⟩ ↔
      ∃ c ∈ st.charges, c.answer = some .approved := by
  obtain ⟨hnone, hcard, -⟩ := hphase.of_payOkAlert hup
  have hplaced := hphase.placed_payOk id result hup
  have hattempt : ∀ c ∈ st.charges, c.asked.attempt = n := fun c hc =>
    (hcard _ (List.mem_append_right _ (List.mem_map_of_mem hc))).2
  simp only [OrderPaid, hplaced, hnone, List.mem_singleton, forall_eq, List.not_mem_nil, false_or]
  constructor
  · rintro ⟨c, hc, -, happ⟩
    exact ⟨c, hc, happ⟩
  · rintro ⟨c, hc, happ⟩
    exact ⟨c, hc, hattempt c hc, happ⟩

/-- All orders of a run have been paid for precisely if the success alert is
confirmed only after an approving answer. -/
theorem orderPaid_iff_approvedFirst (h : (checkout ud).Run es st) :
    (∀ e ∈ es, OrderPaid e) ↔ ApprovedFirst (es.map Edge.act) := by
  induction h with
  | start _ =>
      refine ⟨fun _ before id result hpre => ?_, fun _ e he => absurd he List.not_mem_nil⟩
      exact absurd (List.prefix_nil.mp hpre) (by simp)
  | @step es st a t hrun hst ih =>
      have hlast : OrderPaid ⟨st, a, t⟩ ↔
          ∀ id result, a = .payOk id result → ∃ k, .chargeAnswered k .approved ∈
            es.map Edge.act := by
        have hstep := checkoutStep_of_next hst
        by_cases hact : ∀ id result, a ≠ .payOk id result
        · have hsame := hstep.placed hact
          refine ⟨fun _ id result heq => absurd heq (hact id result), fun _ p hp => .inl ?_⟩
          rw [← hsame]
          exact hp
        · cases hstep with
          | @payOk n id result hup =>
              rw [orderPaid_payOk (run_phase hrun) hup, run_approved hrun]
              exact ⟨fun happ _ _ _ => happ, fun happ => happ id result rfl⟩
          | _ => exact absurd (by simp) hact
      rw [List.map_append, List.map_singleton, approvedFirst_step, ← ih, ← hlast]
      simp only [List.mem_append, List.mem_singleton, or_imp, forall_and, forall_eq]

/-- Up to the card form. -/
def cardForm : List CheckoutAction := [.checkButton, .agreeButton, .orderInfoOk, .creditCard]

/-- A customer who waits for the bank before confirming. -/
def patientCustomer : List CheckoutAction :=
  cardForm ++ [.creditOk, .primeSucceeded 0 "prime", .chargeAnswered 0 .approved,
    .payOk "kYx0" "2021-03-12 13:00:00"]

/-- The steps of a flow with nothing stored and no order yet. -/
abbrev checkoutTrace (as : List CheckoutAction) : List (Edge Checkout CheckoutAction) :=
  Lts.trace Checkout.next (.viewDidLoad (fun _ => none) fun _ => none) as

theorem orderPaid_patientCustomer : ∃ st,
    (checkout fun _ => none).Run (checkoutTrace patientCustomer) st ∧ st.placed.length = 1 ∧
    ApprovedFirst ((checkoutTrace patientCustomer).map Edge.act) := by
  obtain ⟨st, hrun, hone⟩ := exists_checkout_run (fun _ => none) (fun _ => none) patientCustomer
    (P := fun st => st.placed.length = 1) (by decide)
  exact ⟨st, hrun, hone, (orderPaid_iff_approvedFirst hrun).mp (by decide)⟩

/-- The card is refused, the success alert is up all the same, and confirming
it writes an order. -/
theorem orderPaid_refusedCard : ∃ st,
    (checkout fun _ => none).Run (checkoutTrace (cardForm ++
      [.creditOk, .primeFailed 0, .payOk "kYx0" "2021-03-12 13:00:00"])) st ∧
    st.placed.length = 1 ∧ st.charges = [] ∧
    ¬ ∀ e ∈ checkoutTrace (cardForm ++
      [.creditOk, .primeFailed 0, .payOk "kYx0" "2021-03-12 13:00:00"]), OrderPaid e := by
  obtain ⟨st, hrun, hone, hnone⟩ := exists_checkout_run (fun _ => none) (fun _ => none)
    (cardForm ++ [.creditOk, .primeFailed 0, .payOk "kYx0" "2021-03-12 13:00:00"])
    (P := fun st => st.placed.length = 1 ∧ st.charges = []) (by decide)
  exact ⟨st, hrun, hone, hnone, by decide⟩

/-! ## Charges that have got an order -/

/-- The flow is back at the root screen, and every callback has arrived. -/
structure Checkout.Ended (st : Checkout) : Prop where
  screen : st.screen = .root
  presented : st.presented = none
  pending : st.pending = []
  answered : ∀ c ∈ st.charges, c.answer ≠ none

instance (st : Checkout) : Decidable st.Ended :=
  decidable_of_iff (st.screen = .root ∧ st.presented = none ∧ st.pending = [] ∧
      ∀ c ∈ st.charges, c.answer ≠ none)
    ⟨fun ⟨hscreen, hpresented, hpending, hanswered⟩ =>
      ⟨hscreen, hpresented, hpending, hanswered⟩,
      fun h => ⟨h.screen, h.presented, h.pending, h.answered⟩⟩

/-- The charges are of different calls of `showPay`, and for each exactly one
order was written in its call. -/
def Checkout.Matched (st : Checkout) : Prop :=
  (st.charges.map fun c => c.asked.attempt).Nodup ∧
    ∀ c ∈ st.charges, (st.placed.filter fun p => p.attempt = c.asked.attempt).length = 1

instance (st : Checkout) : Decidable st.Matched := inferInstanceAs (Decidable (_ ∧ ∀ _ ∈ _, _))

/-- Where the accounting comes out: a prime that arrives is that of a card
whose success alert came up. -/
def Checkout.PrimeGuard (st : Checkout) : CheckoutAction → Prop
  | .primeSucceeded k _ => ∀ asked ∈ st.pending[k]?, asked.Noticed
  | _ => True

instance (st : Checkout) : ∀ a, Decidable (st.PrimeGuard a)
  | .primeSucceeded _ _ => inferInstanceAs (Decidable (∀ _ ∈ _, _))
  | .checkButton | .agreeButton | .orderInfoOk | .cancel | .creditCard | .creditOk
  | .creditCancel | .payOk _ _ | .apple | .appleOk | .line _ | .primeFailed _
  | .chargeAnswered _ _ | .back | .blockReplaced _ => inferInstanceAs (Decidable True)

/-- The charges are those of the primes that have arrived. -/
theorem run_noticed (h : (checkout ud).Run es st) :
    (∀ asked ∈ st.charges.map Charge.asked, asked.Noticed) ↔
      ∀ e ∈ es, e.pre.PrimeGuard e.act := by
  induction h with
  | start h0 =>
      obtain ⟨orders, rfl⟩ := h0
      simp [Checkout.viewDidLoad]
  | @step es st a t _ hst ih =>
      rw [Lts.guards_step, ← ih]
      cases checkoutStep_of_next hst with
      | @primeSucceeded k prime asked hk =>
          simp only [Checkout.onSuccessCallback, Checkout.PrimeGuard, List.map_append,
            List.map_singleton, List.mem_append, List.mem_singleton, or_imp, forall_and,
            forall_eq, hk, Option.mem_def, Option.some.injEq, forall_eq']
      | @chargeAnswered k charge answer hk =>
          have hsame : (st.completionHandler k charge answer).charges.map Charge.asked =
              st.charges.map Charge.asked := asked_set _ hk
          rw [hsame]
          exact (and_iff_left trivial).symm
      | _ => exact (and_iff_left trivial).symm

/-- A flow that has ended has an order for its charge precisely if the charge
is that of a card whose success alert came up. -/
theorem matched_iff_noticed (hphase : Phase st) (hend : st.Ended) :
    st.Matched ↔ ∀ asked ∈ st.charges.map Charge.asked, asked.Noticed := by
  have hprimes : st.primes = st.charges.map Charge.asked := by
    simp [Checkout.primes, hend.pending]
  cases hphase with
  | choosing hnil =>
      rw [hprimes] at hnil
      simp [Checkout.Matched, List.map_eq_nil_iff.mp hnil]
  | noticed _ halert =>
      rw [hend.presented] at halert
      exact absurd halert (by simp)
  | ordered p _ _ hplaced hcard hone =>
      rw [hprimes] at hcard hone
      refine ⟨fun _ asked hasked => (hcard asked hasked).1, fun _ => ⟨?_, ?_⟩⟩
      · match hcharges : st.charges with
        | [] => simp
        | [c] => simp
        | _ :: _ :: _ => simp [hcharges] at hone
      · intro c hc
        have hattempt := (hcard _ (List.mem_map_of_mem hc)).2
        simp [hplaced, hattempt]
  | unordered _ _ hplaced hcard _ =>
      rw [hprimes] at hcard
      constructor
      · rintro ⟨-, hmatch⟩ asked hasked
        obtain ⟨c, hc, -⟩ := List.mem_map.mp hasked
        have hone := hmatch c hc
        rw [hplaced] at hone
        exact absurd hone (by simp)
      · intro hall
        have hnil : st.charges = [] := by
          apply List.eq_nil_iff_forall_not_mem.mpr
          intro c hc
          have hmem := List.mem_map_of_mem (f := Charge.asked) hc
          exact hcard _ hmem (hall _ hmem)
        simp [Checkout.Matched, hnil]

/-- Once a flow has ended, each charge is matched by exactly one order
precisely if every prime that arrived was that of a card whose success alert
came up. -/
theorem matched_iff_guard (h : (checkout ud).Run es st) (hend : st.Ended) :
    st.Matched ↔ ∀ e ∈ es, e.pre.PrimeGuard e.act :=
  (matched_iff_noticed (run_phase h) hend).trans (run_noticed h)

theorem matched_patientCustomer : ∃ st,
    (checkout fun _ => none).Run (checkoutTrace patientCustomer) st ∧ st.Ended ∧
    st.charges.length = 1 ∧ st.Matched := by
  obtain ⟨st, hrun, hend, hone⟩ :=
    exists_checkout_run (fun _ => none) (fun _ => none) patientCustomer
      (P := fun st => st.Ended ∧ st.charges.length = 1) (by decide)
  exact ⟨st, hrun, hend, hone, (matched_iff_guard hrun hend).mpr (by decide)⟩

/-- Paid with the Line app: the charge is approved, and there is no order. -/
def linePurchase : List CheckoutAction :=
  [.checkButton, .agreeButton, .orderInfoOk, .line true, .primeSucceeded 0 "prime",
    .chargeAnswered 0 .approved]

theorem matched_linePurchase : ∃ st,
    (checkout fun _ => none).Run (checkoutTrace linePurchase) st ∧ st.Ended ∧
    st.charges.map Charge.answer = [some .approved] ∧ st.placed = [] ∧ ¬ st.Matched :=
  exists_checkout_run (fun _ => none) (fun _ => none) linePurchase (by decide)

end Takeit
