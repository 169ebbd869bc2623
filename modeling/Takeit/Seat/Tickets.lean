import Takeit.Seat.Steps

/-!
# Tickets and the pay button

The ticket handlers compare label texts. `TicketPanel.Inv` ties the texts and
the minus buttons to the counters in every reachable state, so that each of
these comparisons is one of integers; `payOffered_iff_guard` then says in which
runs the pay button is enabled exactly for a fully ticketed selection.
-/

namespace Takeit

open Takeit.Logic Takeit.Firestore

namespace TicketPanel

/-- Adult and child tickets together. -/
def total (tp : TicketPanel) : Int := tp.adultCount + tp.childCount

/-! ## What the ticket handlers do -/

/-- `t` is `tp` with one more ticket of kind `k`; `full` says that this makes
as many tickets as seats. -/
structure Added (tp : TicketPanel) (k : Ticket) (full : Prop) (t : TicketPanel) : Prop where
  seatCount : t.seatCount = tp.seatCount
  total : t.total = tp.total + 1
  count : ∀ k', t.count k' = if k' = k then tp.count k + 1 else tp.count k'
  amount : t.seatAmount = t.adultCount * 300 + t.childCount * 250
  orderLabel : t.seatOrderLabel = tp.seatOrderLabel
  selectLabel : t.seatSelectLabel = text (tp.total + 1)
  countLabel : ∀ k', t.countLabel k' =
    if k' = k then text (tp.count k + 1) else tp.countLabel k'
  minusEnabled : ∀ k', t.minusEnabled k' = true ↔ k' = k ∨ tp.minusEnabled k' = true
  addEnabled : ∀ k', t.addEnabled k' = true ↔ ¬ full ∧ tp.addEnabled k' = true
  payEnabled : t.payEnabled = true ↔ full ∨ tp.payEnabled = true

/-- `t` is `tp` with one ticket of kind `k` less; `last` says that it was the
last one of its kind. -/
structure Taken (tp : TicketPanel) (k : Ticket) (last : Prop) (t : TicketPanel) : Prop where
  seatCount : t.seatCount = tp.seatCount
  total : t.total = tp.total - 1
  count : ∀ k', t.count k' = if k' = k then tp.count k - 1 else tp.count k'
  amount : t.seatAmount = t.adultCount * 300 + t.childCount * 250
  orderLabel : t.seatOrderLabel = tp.seatOrderLabel
  selectLabel : t.seatSelectLabel = text (tp.total - 1)
  countLabel : ∀ k', t.countLabel k' =
    if k' = k then text (tp.count k - 1) else tp.countLabel k'
  minusEnabled : ∀ k', t.minusEnabled k' = true ↔
    ¬ (k' = k ∧ last) ∧ tp.minusEnabled k' = true
  addEnabled : ∀ k', t.addEnabled k' = true
  payEnabled : t.payEnabled = false

theorem addTicket_spec (tp : TicketPanel) (k : Ticket) :
    tp.Added k (text (tp.total + 1) = tp.seatOrderLabel) (tp.addTicket k) := by
  have hadult : tp.adultCount + 1 + tp.childCount = tp.adultCount + tp.childCount + 1 := by
    omega
  have hchild : tp.adultCount + (tp.childCount + 1) = tp.adultCount + tp.childCount + 1 := by
    omega
  by_cases hfull : text (tp.adultCount + tp.childCount + 1) = tp.seatOrderLabel <;>
    cases k <;> constructor <;> (try intro k'; cases k') <;>
    simp [addTicket, refresh, setCount, setMinusEnabled, count, total, countLabel, addEnabled,
      minusEnabled, hadult, hchild, hfull]

theorem minusTicket_spec (tp : TicketPanel) (k : Ticket) :
    tp.Taken k (text (tp.count k - 1) = "0") (tp.minusTicket k) := by
  have hadult : tp.adultCount - 1 + tp.childCount = tp.adultCount + tp.childCount - 1 := by
    omega
  have hchild : tp.adultCount + (tp.childCount - 1) = tp.adultCount + tp.childCount - 1 := by
    omega
  by_cases hlast : text (tp.count k - 1) = "0" <;> cases k <;>
    simp only [count] at hlast <;> constructor <;> (try intro k'; cases k') <;>
    simp [minusTicket, refresh, setCount, setMinusEnabled, count, total, countLabel, addEnabled,
      minusEnabled, hadult, hchild, hlast]

/-! ## Labels and minus buttons follow the counters -/

/-- The labels show the counters, the minus buttons follow them, and the
amount is that of the tickets. -/
structure Inv (tp : TicketPanel) : Prop where
  selectLabel : tp.seatSelectLabel = text tp.total
  orderLabel : tp.seatOrderLabel = text tp.seatCount
  countLabel : ∀ k, tp.countLabel k = text (tp.count k)
  nonneg : ∀ k, 0 ≤ tp.count k
  minusEnabled : ∀ k, tp.minusEnabled k = true ↔ 0 < tp.count k
  amount : tp.seatAmount = tp.adultCount * 300 + tp.childCount * 250

variable {tp t : TicketPanel} {k : Ticket}

theorem inv_viewDidLoad : SeatVC.viewDidLoad.toTicketPanel.Inv := by
  constructor <;> first | rfl | (intro k; cases k <;> decide)

theorem Inv.total_nonneg (inv : tp.Inv) : 0 ≤ tp.total := by
  have hadult := inv.nonneg .adult
  have hchild := inv.nonneg .child
  simp only [count] at hadult hchild
  simp only [total]
  omega

theorem Inv.added {full : Prop} (inv : tp.Inv) (h : tp.Added k full t) : t.Inv where
  selectLabel := by rw [h.selectLabel, h.total]
  orderLabel := by rw [h.orderLabel, h.seatCount, inv.orderLabel]
  countLabel k' := by
    rw [h.countLabel, h.count]
    split
    · rfl
    · exact inv.countLabel k'
  nonneg k' := by
    have hk := inv.nonneg k
    have hk' := inv.nonneg k'
    rw [h.count]
    split <;> omega
  minusEnabled k' := by
    rw [h.minusEnabled, h.count, inv.minusEnabled]
    have hk := inv.nonneg k
    by_cases hkk : k' = k
    · simp only [hkk, if_true, true_or, true_iff]
      omega
    · simp [hkk]
  amount := h.amount

/-- The text comparison of `minusAdult` and `minusChild` is one with 0. -/
theorem last_iff (tp : TicketPanel) (k : Ticket) :
    text (tp.count k - 1) = "0" ↔ tp.count k = 1 := by
  rw [show "0" = text 0 from rfl, text_inj]
  omega

theorem Inv.taken (inv : tp.Inv) (hk : tp.minusEnabled k = true)
    (h : tp.Taken k (text (tp.count k - 1) = "0") t) : t.Inv where
  selectLabel := by rw [h.selectLabel, h.total]
  orderLabel := by rw [h.orderLabel, h.seatCount, inv.orderLabel]
  countLabel k' := by
    rw [h.countLabel, h.count]
    split
    · rfl
    · exact inv.countLabel k'
  nonneg k' := by
    have hpos := (inv.minusEnabled k).mp hk
    have hk' := inv.nonneg k'
    rw [h.count]
    split <;> omega
  minusEnabled k' := by
    have hpos := (inv.minusEnabled k).mp hk
    rw [h.minusEnabled, h.count, inv.minusEnabled, last_iff]
    by_cases hkk : k' = k
    · simp only [hkk, if_true, true_and]
      omega
    · simp [hkk]
  amount := h.amount

theorem Inv.seatTaken (inv : tp.Inv) : tp.seatTaken.Inv where
  selectLabel := inv.selectLabel
  orderLabel := rfl
  countLabel k := by cases k with
    | adult => exact inv.countLabel .adult
    | child => exact inv.countLabel .child
  nonneg k := by cases k with
    | adult => exact inv.nonneg .adult
    | child => exact inv.nonneg .child
  minusEnabled k := by cases k with
    | adult => exact inv.minusEnabled .adult
    | child => exact inv.minusEnabled .child
  amount := inv.amount

theorem Inv.seatReturned (tp : TicketPanel) : tp.seatReturned.Inv where
  selectLabel := rfl
  orderLabel := rfl
  countLabel k := by cases k <;> rfl
  nonneg k := by cases k <;> exact Int.le_refl 0
  minusEnabled k := by
    have hoff : tp.seatReturned.minusEnabled k = false := by cases k <;> rfl
    have hzero : tp.seatReturned.count k = 0 := by cases k <;> rfl
    rw [hoff, hzero]
    decide
  amount := rfl

/-- The amount label is no part of it. -/
theorem Inv.setSeatID (inv : tp.Inv) (s : String) : { tp with seatID := s }.Inv :=
  ⟨inv.selectLabel, inv.orderLabel, inv.countLabel, inv.nonneg, inv.minusEnabled, inv.amount⟩

/-! ## When pay is offered -/

/-- Pay is enabled exactly for a selection with a ticket for every seat. -/
def PayOffered (tp : TicketPanel) : Prop :=
  tp.payEnabled = true ↔ 1 ≤ tp.seatCount ∧ tp.adultCount + tp.childCount = tp.seatCount

instance (tp : TicketPanel) : Decidable tp.PayOffered :=
  inferInstanceAs (Decidable (_ ↔ _))

/-- What carries `PayOffered` from step to step: an enabled pay button closes
the two buttons that add tickets. -/
structure PayState (tp : TicketPanel) : Prop where
  inv : tp.Inv
  offered : tp.PayOffered
  closed : tp.payEnabled = true → ∀ k, tp.addEnabled k = false

/-- The text comparison of `addAdult` and `addChild` is one with the number
of seats. -/
theorem Inv.full_iff (inv : tp.Inv) :
    text (tp.total + 1) = tp.seatOrderLabel ↔ tp.total + 1 = tp.seatCount := by
  rw [inv.orderLabel, text_inj]

theorem PayState.added (st : tp.PayState) (hk : tp.addEnabled k = true) :
    (tp.addTicket k).PayState := by
  have hspec := tp.addTicket_spec k
  have hoff : tp.payEnabled = false := by
    cases hpay : tp.payEnabled with
    | false => rfl
    | true => exact absurd hk (by simp [st.closed hpay k])
  have hpay : (tp.addTicket k).payEnabled = true ↔ tp.total + 1 = tp.seatCount := by
    rw [hspec.payEnabled, st.inv.full_iff, hoff]
    simp
  refine ⟨st.inv.added hspec, ?_, ?_⟩
  · have htotal : (tp.addTicket k).adultCount + (tp.addTicket k).childCount = tp.total + 1 :=
      hspec.total
    have hnonneg := st.inv.total_nonneg
    unfold PayOffered
    rw [hpay, hspec.seatCount, htotal]
    omega
  · intro hon k'
    have hfull := st.inv.full_iff.mpr (hpay.mp hon)
    cases hadd : (tp.addTicket k).addEnabled k' with
    | false => rfl
    | true => exact absurd hfull ((hspec.addEnabled k').mp hadd).1

theorem PayState.taken (st : tp.PayState) (hk : tp.minusEnabled k = true)
    (hguard : ¬ (1 ≤ tp.seatCount ∧ tp.total = tp.seatCount + 1)) :
    (tp.minusTicket k).PayState := by
  have hspec := tp.minusTicket_spec k
  have htotal : (tp.minusTicket k).adultCount + (tp.minusTicket k).childCount = tp.total - 1 :=
    hspec.total
  refine ⟨st.inv.taken hk hspec, ?_, ?_⟩
  · unfold PayOffered
    rw [hspec.payEnabled, hspec.seatCount, htotal]
    simp only [Bool.false_eq_true, false_iff]
    omega
  · intro hon
    exact absurd hon (by simp [hspec.payEnabled])

/-- After a minus pay is off, so it is offered rightly only if the tickets
left are not those of all seats. -/
theorem PayOffered.guard_minus (h : (tp.minusTicket k).PayOffered) :
    ¬ (1 ≤ tp.seatCount ∧ tp.total = tp.seatCount + 1) := by
  have hspec := tp.minusTicket_spec k
  have htotal : (tp.minusTicket k).adultCount + (tp.minusTicket k).childCount = tp.total - 1 :=
    hspec.total
  unfold PayOffered at h
  rw [hspec.payEnabled, hspec.seatCount, htotal] at h
  simp only [Bool.false_eq_true, false_iff] at h
  omega

/-- A tap that takes a seat leaves the pay button as it is. -/
theorem payOffered_seatTaken (h : tp.PayOffered) : tp.seatTaken.PayOffered ↔
    tp.payEnabled = false ∧ ¬ (0 ≤ tp.seatCount ∧ tp.total = tp.seatCount + 1) := by
  simp only [PayOffered, TicketPanel.seatTaken, total] at *
  cases hpay : tp.payEnabled with
  | false => simp only [hpay, Bool.false_eq_true, false_iff, true_and] at *; omega
  | true => simp only [hpay, true_iff, Bool.true_eq_false, false_and, iff_false] at *; omega

/-- A tap that gives a seat back leaves no ticket and the pay button as it is. -/
theorem payOffered_seatReturned (tp : TicketPanel) : tp.seatReturned.PayOffered ↔
    tp.payEnabled = false := by
  simp only [PayOffered, TicketPanel.seatReturned]
  cases tp.payEnabled with
  | false => simp only [Bool.false_eq_true, false_iff, iff_true]; omega
  | true => simp only [true_iff, Bool.true_eq_false, iff_false]; omega

theorem PayState.seatTaken (st : tp.PayState) (hoff : tp.payEnabled = false)
    (h : ¬ (0 ≤ tp.seatCount ∧ tp.total = tp.seatCount + 1)) : tp.seatTaken.PayState where
  inv := st.inv.seatTaken
  offered := (payOffered_seatTaken st.offered).mpr ⟨hoff, h⟩
  closed hon := absurd (show tp.payEnabled = true from hon) (by simp [hoff])

theorem PayState.seatReturned (hoff : tp.payEnabled = false) :
    tp.seatReturned.PayState where
  inv := .seatReturned tp
  offered := (payOffered_seatReturned tp).mpr hoff
  closed hon := absurd (show tp.payEnabled = true from hon) (by simp [hoff])

theorem PayState.setSeatID (st : tp.PayState) (s : String) :
    { tp with seatID := s }.PayState :=
  ⟨st.inv.setSeatID s, st.offered, fun hon k => by
    have hclosed := st.closed hon k
    cases k <;> exact hclosed⟩

/-! ## When a ticket can be added -/

/-- Both buttons that add a ticket are enabled exactly while there are fewer
tickets than seats, and there are never more. -/
def AddOffered (tp : TicketPanel) : Prop :=
  (∀ k, tp.addEnabled k = true ↔ tp.adultCount + tp.childCount < tp.seatCount) ∧
    tp.adultCount + tp.childCount ≤ tp.seatCount

instance (tp : TicketPanel) : Decidable tp.AddOffered :=
  inferInstanceAs (Decidable (_ ∧ _))

/-- What carries `AddOffered` from step to step. -/
structure AddState (tp : TicketPanel) : Prop where
  inv : tp.Inv
  offered : tp.AddOffered

theorem AddState.added (st : tp.AddState) (hk : tp.addEnabled k = true) :
    (tp.addTicket k).AddState := by
  have hspec := tp.addTicket_spec k
  have hroom : tp.total < tp.seatCount := (st.offered.1 k).mp hk
  have htotal : (tp.addTicket k).adultCount + (tp.addTicket k).childCount = tp.total + 1 :=
    hspec.total
  refine ⟨st.inv.added hspec, fun k' => ?_, ?_⟩
  · have hk' : tp.addEnabled k' = true := (st.offered.1 k').mpr hroom
    rw [hspec.addEnabled, st.inv.full_iff, hspec.seatCount, htotal]
    simp only [hk', and_true]
    omega
  · rw [hspec.seatCount, htotal]
    omega

theorem AddState.taken (st : tp.AddState) (hk : tp.minusEnabled k = true) :
    (tp.minusTicket k).AddState := by
  have hspec := tp.minusTicket_spec k
  have hle : tp.total ≤ tp.seatCount := st.offered.2
  have htotal : (tp.minusTicket k).adultCount + (tp.minusTicket k).childCount = tp.total - 1 :=
    hspec.total
  refine ⟨st.inv.taken hk hspec, fun k' => ?_, ?_⟩
  · rw [hspec.addEnabled, hspec.seatCount, htotal]
    simp only [true_iff]
    omega
  · rw [hspec.seatCount, htotal]
    omega

/-- A tap that takes a seat opens the two buttons only for the first seat. -/
theorem AddState.offered_seatTaken (st : tp.AddState) :
    tp.seatTaken.AddOffered ↔ tp.seatCount = 0 ∨ tp.total < tp.seatCount := by
  have hnonneg := st.inv.total_nonneg
  have hle : tp.total ≤ tp.seatCount := st.offered.2
  have hadd : ∀ k, tp.seatTaken.addEnabled k = true ↔
      tp.seatCount = 0 ∨ tp.total < tp.seatCount := by
    intro k
    have hbefore : tp.addEnabled k = true ↔ tp.total < tp.seatCount := st.offered.1 k
    by_cases hfirst : tp.seatCount = 0
    · cases k <;> simp [TicketPanel.seatTaken, addEnabled, hfirst]
    · have hmore : ¬ tp.seatCount + 1 = 1 := by omega
      cases k <;> simpa [TicketPanel.seatTaken, addEnabled, hfirst, hmore] using hbefore
  have htotal : tp.seatTaken.adultCount + tp.seatTaken.childCount = tp.total := rfl
  have hseats : tp.seatTaken.seatCount = tp.seatCount + 1 := rfl
  constructor
  · intro h
    refine (hadd .adult).mp ((h.1 .adult).mpr ?_)
    rw [htotal, hseats]
    omega
  · intro h
    refine ⟨fun k => ?_, ?_⟩
    · rw [hadd, htotal, hseats]
      omega
    · rw [htotal, hseats]
      omega

/-- A tap that gives a seat back opens both buttons, whether or not there is
a seat left. -/
theorem addOffered_seatReturned (tp : TicketPanel) :
    tp.seatReturned.AddOffered ↔ 1 < tp.seatCount := by
  have hadd : ∀ k, tp.seatReturned.addEnabled k = true := by
    intro k
    cases k <;> rfl
  have htotal : tp.seatReturned.adultCount + tp.seatReturned.childCount = 0 := rfl
  have hseats : tp.seatReturned.seatCount = tp.seatCount - 1 := rfl
  unfold AddOffered
  rw [htotal, hseats]
  simp only [hadd, true_iff]
  constructor
  · intro h
    have hpos := h.1 .adult
    omega
  · intro h
    exact ⟨fun _ => by omega, by omega⟩

theorem AddState.setSeatID (st : tp.AddState) (s : String) :
    { tp with seatID := s }.AddState :=
  ⟨st.inv.setSeatID s, fun k => by
    have hadd := st.offered.1 k
    cases k <;> exact hadd, st.offered.2⟩

end TicketPanel

/-! ## Runs -/

variable {vc t : SeatVC} {a : SeatAction}

theorem SeatStep.inv (h : SeatStep vc a t) (inv : vc.toTicketPanel.Inv) :
    t.toTicketPanel.Inv := by
  cases h with
  | tapFree => rw [SeatVC.ticketPanel_tapFree]; exact inv.seatTaken
  | tapSelected => rw [SeatVC.ticketPanel_tapSelected]; exact .seatReturned _
  | @add k => exact inv.added (vc.addTicket_spec k)
  | @minus k hk => exact inv.taken hk (vc.minusTicket_spec k)
  | foodAdded | foodRemoved => exact inv.setSeatID _
  | _ => exact inv

/-- The label texts and the minus buttons follow the counters in every
reachable state. -/
theorem ticketPanel_inv (h : seatPage.Reachable vc) : vc.toTicketPanel.Inv :=
  h.invariant (fun _ h0 => h0 ▸ TicketPanel.inv_viewDidLoad)
    fun _ _ _ inv hst => (seatStep_of_step hst).inv inv

/-- Where the handlers keep the pay button right: no seat is tapped while pay
is enabled, or when the tap makes as many seats as there already are tickets,
and no ticket is taken away when this does so. -/
def SeatVC.PayGuard (vc : SeatVC) : SeatAction → Prop
  | .didSelectItemAt p => vc.Taps p → vc.payEnabled = false ∧
      (¬ vc.Selected p → ¬ (0 ≤ vc.seatCount ∧ vc.total = vc.seatCount + 1))
  | .minus _ => ¬ (1 ≤ vc.seatCount ∧ vc.total = vc.seatCount + 1)
  | _ => True

instance (vc : SeatVC) : ∀ a, Decidable (vc.PayGuard a)
  | .didSelectItemAt _ => inferInstanceAs (Decidable (_ → _ ∧ (_ → ¬ (_ ∧ _))))
  | .minus _ => inferInstanceAs (Decidable (¬ (_ ∧ _)))
  | .showAllStations _ | .showAllFoods _ | .cellForItemAt _ | .add _ | .clickAdd _
  | .clickMinus _ | .payButton => inferInstanceAs (Decidable True)

theorem SeatStep.payState (h : SeatStep vc a t) (st : vc.toTicketPanel.PayState)
    (hguard : vc.PayGuard a) : t.toTicketPanel.PayState := by
  cases h with
  | @tapFree p v hv h0 h1 h3 =>
      have hfree : ¬ vc.Selected p := (SeatGrid.selected_iff hv).not.mpr h3
      obtain ⟨hoff, hseats⟩ := hguard ((SeatGrid.taps_iff hv).mpr ⟨h0, h1⟩)
      rw [SeatVC.ticketPanel_tapFree]
      exact st.seatTaken hoff (hseats hfree)
  | @tapSelected p hsel =>
      rw [SeatVC.ticketPanel_tapSelected]
      exact .seatReturned (hguard ((SeatGrid.taps_iff hsel).mpr (by omega))).1
  | add hk => exact st.added hk
  | minus hk => exact st.taken hk hguard
  | foodAdded | foodRemoved => exact st.setSeatID _
  | _ => exact st

theorem SeatStep.payGuard (h : SeatStep vc a t) (st : vc.toTicketPanel.PayState)
    (hoffered : t.toTicketPanel.PayOffered) : vc.PayGuard a := by
  cases h with
  | tapInert hv hdead =>
      intro htap
      have hlive := (SeatGrid.taps_iff hv).mp htap
      omega
  | tapFree =>
      rw [SeatVC.ticketPanel_tapFree, TicketPanel.payOffered_seatTaken st.offered] at hoffered
      exact fun _ => ⟨hoffered.1, fun _ => hoffered.2⟩
  | tapSelected hsel =>
      rw [SeatVC.ticketPanel_tapSelected, TicketPanel.payOffered_seatReturned] at hoffered
      exact fun _ => ⟨hoffered, fun hfree => absurd hsel hfree⟩
  | minus => exact TicketPanel.PayOffered.guard_minus hoffered
  | _ => trivial

/-- Pay is offered exactly for fully ticketed selections in every state of a
run whose steps all meet `PayGuard`, and in no other run. -/
theorem payOffered_iff_guard {es : List (Edge SeatVC SeatAction)} (h : seatPage.Run es vc) :
    Lts.Throughout (fun s => s.PayOffered) es vc ↔ ∀ e ∈ es, e.pre.PayGuard e.act :=
  h.always_iff (J := fun s => s.toTicketPanel.PayState)
    (fun _ h0 => h0 ▸ ⟨TicketPanel.inv_viewDidLoad, by decide, fun hon => absurd hon (by decide)⟩)
    (fun _ _ _ st hst hguard => (seatStep_of_step hst).payState st hguard)
    (fun _ st => st.offered)
    (fun _ _ _ st hst hoffered => (seatStep_of_step hst).payGuard st hoffered)

/-- A hall with two free seats, one of them taken and its ticket added. -/
def oneSeatBooked : List SeatAction :=
  [.showAllStations (some [Station.documentData ⟨{ one := [2, 2] }, stationDocument⟩]),
    .didSelectItemAt ⟨.one, 0⟩, .add .adult]

theorem payOffered_oneSeatBooked : ∃ s, seatPage.Run (seatTrace oneSeatBooked) s ∧
    s.payEnabled = true ∧
    Lts.Throughout (fun s => s.PayOffered) (seatTrace oneSeatBooked) s := by
  obtain ⟨s, hrun, hon⟩ : ∃ s, seatPage.Run (seatTrace oneSeatBooked) s ∧
      s.payEnabled = true := Lts.exists_run_trace rfl (by decide)
  exact ⟨s, hrun, hon, (payOffered_iff_guard hrun).mpr (by decide)⟩

/-- When the second seat is tapped then, pay stays enabled with one ticket for
two seats. -/
theorem payOffered_lateTap : ∃ s,
    seatPage.Run (seatTrace (oneSeatBooked ++ [.didSelectItemAt ⟨.one, 1⟩])) s ∧
    ¬ s.PayOffered :=
  Lts.exists_run_trace rfl (by decide)

/-- Where the handlers keep the two buttons right: a further seat is taken
only while a ticket is missing, and the last seat is not given back. -/
def SeatVC.AddGuard (vc : SeatVC) : SeatAction → Prop
  | .didSelectItemAt p =>
      (vc.Taps p → ¬ vc.Selected p → vc.seatCount = 0 ∨ vc.total < vc.seatCount) ∧
      (vc.Selected p → 1 < vc.seatCount)
  | _ => True

instance (vc : SeatVC) : ∀ a, Decidable (vc.AddGuard a)
  | .didSelectItemAt _ => inferInstanceAs (Decidable ((_ → ¬ _ → _ ∨ _) ∧ (_ → _)))
  | .showAllStations _ | .showAllFoods _ | .cellForItemAt _ | .add _ | .minus _ | .clickAdd _
  | .clickMinus _ | .payButton => inferInstanceAs (Decidable True)

theorem SeatStep.addState (h : SeatStep vc a t) (st : vc.toTicketPanel.AddState)
    (hguard : vc.AddGuard a) : t.toTicketPanel.AddState := by
  cases h with
  | @tapFree p v hv h0 h1 h3 =>
      have hfree : ¬ vc.Selected p := (SeatGrid.selected_iff hv).not.mpr h3
      have htap : vc.Taps p := (SeatGrid.taps_iff hv).mpr ⟨h0, h1⟩
      rw [SeatVC.ticketPanel_tapFree]
      exact ⟨st.inv.seatTaken, st.offered_seatTaken.mpr (hguard.1 htap hfree)⟩
  | tapSelected hsel =>
      rw [SeatVC.ticketPanel_tapSelected]
      exact ⟨.seatReturned _, (TicketPanel.addOffered_seatReturned _).mpr (hguard.2 hsel)⟩
  | add hk => exact st.added hk
  | minus hk => exact st.taken hk
  | foodAdded | foodRemoved => exact st.setSeatID _
  | _ => exact st

theorem SeatStep.addGuard (h : SeatStep vc a t) (st : vc.toTicketPanel.AddState)
    (hoffered : t.toTicketPanel.AddOffered) : vc.AddGuard a := by
  cases h with
  | tapInert hv hdead =>
      refine ⟨fun htap => ?_, fun hsel => ?_⟩
      · have hlive := (SeatGrid.taps_iff hv).mp htap
        omega
      · have hthree := (SeatGrid.selected_iff hv).mp hsel
        omega
  | tapFree hv _ _ h3 =>
      rw [SeatVC.ticketPanel_tapFree] at hoffered
      refine ⟨fun _ _ => st.offered_seatTaken.mp hoffered, fun hsel => ?_⟩
      exact absurd ((SeatGrid.selected_iff hv).mp hsel) h3
  | tapSelected hsel =>
      rw [SeatVC.ticketPanel_tapSelected, TicketPanel.addOffered_seatReturned] at hoffered
      exact ⟨fun _ hfree => absurd hsel hfree, fun _ => hoffered⟩
  | _ => trivial

/-- Tickets can be added exactly while a seat is without one, and never exceed
the seats, in every state of a run whose steps all meet `AddGuard`, and in no
other run. -/
theorem addOffered_iff_guard {es : List (Edge SeatVC SeatAction)} (h : seatPage.Run es vc) :
    Lts.Throughout (fun s => s.AddOffered) es vc ↔ ∀ e ∈ es, e.pre.AddGuard e.act :=
  h.always_iff (J := fun s => s.toTicketPanel.AddState)
    (fun _ h0 => h0 ▸ ⟨TicketPanel.inv_viewDidLoad, by decide⟩)
    (fun _ _ _ st hst hguard => (seatStep_of_step hst).addState st hguard)
    (fun _ st => st.offered)
    (fun _ _ _ st hst hoffered => (seatStep_of_step hst).addGuard st hoffered)

theorem addOffered_oneSeatBooked : ∃ s, seatPage.Run (seatTrace oneSeatBooked) s ∧
    s.adultCount = 1 ∧
    Lts.Throughout (fun s => s.AddOffered) (seatTrace oneSeatBooked) s := by
  obtain ⟨s, hrun, hone⟩ : ∃ s, seatPage.Run (seatTrace oneSeatBooked) s ∧
      s.adultCount = (1 : Int) := Lts.exists_run_trace rfl (by decide)
  exact ⟨s, hrun, hone, (addOffered_iff_guard hrun).mpr (by decide)⟩

/-- The only seat is given back, and a ticket for no seat is added. -/
theorem addOffered_lastSeatReturned : ∃ s,
    seatPage.Run (seatTrace (oneSeatBooked ++ [.didSelectItemAt ⟨.one, 0⟩, .add .child])) s ∧
    s.seatCount = 0 ∧ s.adultCount + s.childCount = 1 ∧ ¬ s.AddOffered :=
  Lts.exists_run_trace rfl (by decide)

end Takeit
