import Takeit.Booking.World
import Takeit.Order.Record

/-!
# A booking that is abandoned

From a press of `payButton` on: the write of the station on its way to the
server, and the payment flow. No way out of the flow writes the station
document again, so the seats stay sold.
-/

namespace Takeit

open Takeit.Logic Takeit.Firestore

/-- Where the write of the pay is. -/
inductive Write
  | onItsWay (station : Station)
  | applied
  | rejected
deriving DecidableEq

/-- The collection, the write and the flow. -/
structure Booking where
  stations : Collection
  write : Write
  flow : Checkout

/-- The server applies the write, or the flow goes on. -/
inductive BookingAction
  | apply
  | flow (a : CheckoutAction)

namespace Booking

/-- The flow takes a step. -/
def flowNext (b : Booking) (a : CheckoutAction) : Option Booking :=
  (b.flow.next a).map fun flow => { b with flow := flow }

/-- One step. The completion handler of `setData` runs without an error once
the write is applied, and with one when it is rejected. -/
def next (b : Booking) : BookingAction → Option Booking
  | .apply =>
      match b.write with
      | .onItsWay station => some { b with
          stations := SeatVC.replaceBlock b.stations station, write := .applied }
      | _ => none
  | .flow (.blockReplaced false) =>
      if b.write = .applied then b.flowNext (.blockReplaced false) else none
  | .flow (.blockReplaced true) =>
      match b.write with
      | .onItsWay _ => { b with write := .rejected }.flowNext (.blockReplaced true)
      | _ => none
  | .flow a => b.flowNext a

/-- `payButton` has just been pressed on the screen `vc`. -/
def Pressed (before : Collection) (vc : SeatVC) (ud : UserDefaults) (b : Booking) : Prop :=
  ∃ pay orders, vc.payButton = some pay ∧
    b = ⟨before, .onItsWay pay.written, .viewDidLoad (pay.save ud) orders⟩

end Booking

/-- The booking, with nobody else writing. -/
def booking (before : Collection) (vc : SeatVC) (ud : UserDefaults) :
    Lts Booking BookingAction :=
  .ofNext (Booking.Pressed before vc ud) Booking.next

/-- The flow has been left, its write applied and no order written. -/
structure Booking.Abandoned (b : Booking) : Prop where
  write : b.write = .applied
  screen : b.flow.screen ≠ .orderRules
  presented : b.flow.presented = none
  placed : b.flow.placed = []

/-- The document is that of before, until the write of the pay is applied to
it. -/
structure Booking.Inv (before : Collection) (pay : SeatVC.Payment) (b : Booking) : Prop where
  sent : ∀ station, b.write = .onItsWay station → b.stations = before ∧ station = pay.written
  applied : b.write = .applied → b.stations = SeatVC.replaceBlock before pay.written
  rejected : b.write = .rejected → b.stations = before

variable {before : Collection} {vc : SeatVC} {ud : UserDefaults} {pay : SeatVC.Payment}
  {b b' : Booking} {a : BookingAction} {es : List (Edge Booking BookingAction)}

/-- Steps of the flow leave the document and the write alone. -/
theorem Booking.Inv.flowNext {a : CheckoutAction} (inv : b.Inv before pay)
    (h : b.flowNext a = some b') : b'.Inv before pay := by
  obtain ⟨flow, -, rfl⟩ := Option.map_eq_some_iff.mp h
  exact ⟨inv.sent, inv.applied, inv.rejected⟩

theorem Booking.Inv.next (inv : b.Inv before pay) (h : b.next a = some b') :
    b'.Inv before pay := by
  unfold Booking.next at h
  split at h
  · split at h
    · rename_i station hwrite
      obtain rfl := Option.some.inj h
      obtain ⟨hbefore, hpay⟩ := inv.sent station hwrite
      refine ⟨fun _ hsent => ?_, fun _ => by rw [hbefore, hpay], fun hrej => ?_⟩
      · exact absurd hsent (by simp)
      · exact absurd hrej (by simp)
    · exact absurd h (by simp)
  · obtain ⟨-, hflow⟩ := Option.ite_none_right_eq_some.mp h
    exact inv.flowNext hflow
  · split at h
    · rename_i station hwrite
      have hrejected : Booking.Inv before pay { b with write := .rejected } :=
        ⟨fun _ hsent => absurd hsent (by simp), fun happ => absurd happ (by simp),
          fun _ => (inv.sent station hwrite).1⟩
      exact hrejected.flowNext h
    · exact absurd h (by simp)
  · exact inv.flowNext h

theorem run_inv (hpay : vc.payButton = some pay) (h : (booking before vc ud).Run es b) :
    b.Inv before pay := by
  refine h.invariant (M := booking before vc ud) (I := Booking.Inv before pay) ?_ ?_
  · rintro _ ⟨pay', orders, hpay', rfl⟩
    obtain rfl := Option.some.inj (hpay.symm.trans hpay')
    refine ⟨fun station hsent => ⟨rfl, ?_⟩, fun happ => ?_, fun hrej => ?_⟩
    · simpa [eq_comm] using hsent
    · exact absurd happ (by simp)
    · exact absurd hrej (by simp)
  · intro b a b' inv hst
    exact inv.next hst

/-- After an abandoned booking the station document is as the pay wrote it, and
every seat the pay turned from free to sold is sold. -/
theorem abandoned_keeps_sale (hpay : vc.payButton = some pay)
    (h : (booking before vc ud).Run es b) (hleft : b.Abandoned) :
    b.stations = SeatVC.replaceBlock before pay.written ∧
    ∀ p, stationCell before p = some 2 → pay.written.cell? p = some 1 →
      stationCell b.stations p = some 1 := by
  have hstations := (run_inv hpay h).applied hleft.write
  refine ⟨hstations, fun p _ hsold => ?_⟩
  rw [hstations, stationCell_replaceBlock, hsold]

/-- The payment sheet is cancelled, and the user goes back. -/
def cancelled : List BookingAction :=
  [.apply, .flow .checkButton, .flow .agreeButton, .flow .orderInfoOk, .flow .cancel, .flow .back]

/-- Whatever the booking, this is a run that abandons it. -/
theorem exists_cancelled (before : Collection) (ud : UserDefaults)
    (hpay : vc.payButton = some pay) :
    ∃ es b, (booking before vc ud).Run es b ∧ b.Abandoned ∧
      b.stations = SeatVC.replaceBlock before pay.written := by
  let start : Booking :=
    ⟨before, .onItsWay pay.written, .viewDidLoad (pay.save ud) fun _ => none⟩
  have hinit : Booking.Pressed before vc ud start := ⟨pay, _, hpay, rfl⟩
  have hlist : ∃ b ∈ Lts.runList Booking.next start cancelled,
      b.Abandoned ∧ b.stations = SeatVC.replaceBlock before pay.written := by
    refine ⟨_, rfl, ⟨rfl, ?_, rfl, rfl⟩, rfl⟩
    show Screen.seat ≠ Screen.orderRules
    decide
  obtain ⟨b, hrun, hleft, hstations⟩ := Lts.exists_run_trace hinit hlist
  exact ⟨_, b, hrun, hleft, hstations⟩

theorem abandoned_firstSeat : ∃ s pay es b, seatPage.Run (seatTrace firstSeat) s ∧
    s.payButton = some pay ∧
    (booking (oneHall { one := [2, 2] }) s fun _ => none).Run es b ∧ b.Abandoned ∧
    stationCell b.stations ⟨.one, 0⟩ = some 1 := by
  obtain ⟨s, hs, pay, hpay, hsold⟩ : ∃ s, seatPage.Run (seatTrace firstSeat) s ∧
      ∃ pay ∈ s.payButton, pay.written.cell? ⟨.one, 0⟩ = some 1 :=
    Lts.exists_run_trace rfl (by decide)
  obtain ⟨es, b, hrun, hleft, -⟩ :=
    exists_cancelled (oneHall { one := [2, 2] }) (fun _ => none) hpay
  exact ⟨s, pay, es, b, hs, hpay, hrun, hleft,
    (abandoned_keeps_sale hpay hrun hleft).2 _ (by decide) hsold⟩

/-- The seat was free before the pay, and is not free again. -/
theorem abandoned_notReleased : ∃ s pay es b, seatPage.Run (seatTrace firstSeat) s ∧
    s.payButton = some pay ∧
    (booking (oneHall { one := [2, 2] }) s fun _ => none).Run es b ∧ b.Abandoned ∧
    stationCell (oneHall { one := [2, 2] }) ⟨.one, 0⟩ = some 2 ∧
    stationCell b.stations ⟨.one, 0⟩ ≠ some 2 ∧ b.stations ≠ oneHall { one := [2, 2] } := by
  obtain ⟨s, hs, pay, hpay, hsold⟩ : ∃ s, seatPage.Run (seatTrace firstSeat) s ∧
      ∃ pay ∈ s.payButton, pay.written.cell? ⟨.one, 0⟩ = some 1 :=
    Lts.exists_run_trace rfl (by decide)
  obtain ⟨es, b, hrun, hleft, hstations⟩ :=
    exists_cancelled (oneHall { one := [2, 2] }) (fun _ => none) hpay
  have hfree : stationCell (oneHall { one := [2, 2] }) ⟨.one, 0⟩ = some 2 := by decide
  have hcell : stationCell b.stations ⟨.one, 0⟩ ≠ some 2 := by
    rw [hstations, stationCell_replaceBlock, hsold]
    decide
  refine ⟨s, pay, es, b, hs, hpay, hrun, hleft, hfree, hcell, fun hsame => ?_⟩
  rw [hsame] at hcell
  exact hcell hfree

end Takeit
