import Takeit.Booking.World
import Takeit.Seat.Progress

/-!
# Every free seat can be bought

Whatever the clients have done so far: one whose booking screen has just been opened, and
whose query answers with the station document first, can buy any seats that are free in
it, with any tickets for them, and nothing else in the collection changes
(`seats_in_reach`).
-/

namespace Takeit

open Takeit.Logic Takeit.Firestore

variable {vc s t : SeatVC} {ps : List IndexPath}

/-! ## Taking the seats -/

/-- The action taps a cell. -/
def SeatAction.Taps : SeatAction → Prop
  | .didSelectItemAt _ => True
  | _ => False

namespace SeatVC

/-- The screen when the stations have just arrived. -/
def stationsShown (data : DocumentData) (documents : List DocumentData) : SeatVC :=
  { viewDidLoad with
    stationsAwaited := false
    stationArray := Station.ofDocumentData data :: documents.map Station.ofDocumentData
    seatLayout := (Station.ofDocumentData data).toSeatLayout }

theorem next_showAllStations (data : DocumentData) (documents : List DocumentData) :
    viewDidLoad.next (.showAllStations (some (data :: documents))) =
      some (stationsShown data documents) :=
  rfl

theorem next_didSelectItemAt {p : IndexPath} (hp : vc.seatLayout.cell? p = some 2) :
    vc.next (.didSelectItemAt p) = some (vc.selectSeat p).finishTap := by
  simp [next, permits, exec, didSelectItemAt, hp]

/-- Free cells can be tapped one after the other: then they are selected, and the other
cells are as they were. -/
theorem leads_tapped (hnodup : ps.Nodup) (hps : ∀ p ∈ ps, vc.seatLayout.cell? p = some 2) :
    ∃ s, Lts.Leads next SeatAction.Taps vc s ∧ s.seatCount = vc.seatCount + ps.length ∧
      s.stationArray = vc.stationArray ∧ (∀ p ∈ ps, s.Selected p) ∧
      (∀ p, p ∉ ps → s.seatLayout.cell? p = vc.seatLayout.cell? p) ∧
      ∀ p, s.Sells p → vc.Sells p := by
  induction ps generalizing vc with
  | nil =>
      exact ⟨vc, .refl vc, by simp, rfl, fun _ hp => absurd hp List.not_mem_nil, fun _ _ => rfl,
        fun _ h => h⟩
  | cons p rest ih =>
      obtain ⟨hp, hrest⟩ := List.nodup_cons.mp hnodup
      have hfree := hps p List.mem_cons_self
      have hself : (vc.selectSeat p).finishTap.seatLayout.cell? p = some 3 := by
        rw [seatGrid_tapFree]
        exact SeatLayout.cell?_setCell_self 3 (by rw [hfree]; rfl)
      have hne : ∀ q, q ≠ p →
          (vc.selectSeat p).finishTap.seatLayout.cell? q = vc.seatLayout.cell? q := by
        intro q hq
        rw [seatGrid_tapFree]
        exact SeatLayout.cell?_setCell_ne 3 hq
      have hfree' : ∀ q ∈ rest, (vc.selectSeat p).finishTap.seatLayout.cell? q = some 2 := by
        intro q hq
        rw [hne q fun heq => hp (heq ▸ hq)]
        exact hps q (List.mem_cons_of_mem _ hq)
      obtain ⟨s, hleads, hcount, harr, hsel, hkept, hsells⟩ :=
        ih hrest hfree'
      refine ⟨s, (Lts.Leads.one trivial (next_didSelectItemAt hfree)).trans hleads,
        ?_, ?_, ?_, ?_, ?_⟩
      · rw [hcount, ticketPanel_tapFree]
        show vc.seatCount + 1 + _ = _
        rw [List.length_cons]
        omega
      · rw [harr, seatGrid_tapFree]
        rfl
      · intro q hq
        rcases List.mem_cons.mp hq with rfl | hq
        · exact (hkept _ hp).trans hself
        · exact hsel q hq
      · intro q hq
        obtain ⟨hqp, hqrest⟩ := not_or.mp (List.mem_cons.not.mp hq)
        exact (hkept q hqrest).trans (hne q hqp)
      · intro q hq
        have hsold := hsells q hq
        rw [SeatGrid.Sells, seatGrid_tapFree, SeatGrid.selectedSection_clearSelected] at hsold
        exact absurd hsold List.not_mem_nil

end SeatVC

/-! ## One client at work -/

variable {ι : Type} [DecidableEq ι] {w w' : World ι} {c : ι} {cl : Client}

/-- Everything on the screen but the stations and the pay. -/
def SeatAction.Local (a : SeatAction) : Prop :=
  a ≠ .payButton ∧ ∀ snapshot, a ≠ .showAllStations snapshot

theorem SeatAction.Taps.isLocal {a : SeatAction} (h : a.Taps) : a.Local := by
  cases a <;> first | exact absurd h id | exact ⟨by simp, by simp⟩

theorem SeatAction.Finishes.isLocal {a : SeatAction} (h : a.Finishes) : a.Local := by
  cases a <;> first | exact absurd h id | exact ⟨by simp, by simp⟩

theorem Client.ui_local {a : SeatAction} (h : a.Local) :
    cl.ui a = (cl.vc.next a).map fun vc => { cl with vc := vc } := by
  cases a with
  | payButton => exact absurd rfl h.1
  | showAllStations snapshot => exact absurd rfl (h.2 snapshot)
  | _ => rfl

theorem World.setClient_setClient (cl' : Client) :
    (w.setClient c cl).setClient c cl' = w.setClient c cl' := by
  simp [World.setClient]

theorem World.Steps.one {a : WorldAction ι} (h : w.next a = some w') (hpermits : w.permits a) :
    (world ι).Steps w w' :=
  Relation.ReflTransGen.single ⟨a, h, hpermits⟩

/-- What the screen can be brought to, the world can be brought to. -/
theorem World.steps_screen {A : SeatAction → Prop} (hA : ∀ a, A a → a.Local)
    (h : Lts.Leads SeatVC.next A cl.vc s) :
    (world ι).Steps (w.setClient c cl) (w.setClient c { cl with vc := s }) := by
  obtain ⟨as, has, hrun⟩ := h
  induction as generalizing cl with
  | nil =>
      obtain rfl := Option.some.inj hrun
      exact .refl
  | cons a rest ih =>
      obtain ⟨vc, hvc, hrest⟩ := Option.bind_eq_some_iff.mp hrun
      have hui : cl.ui a = some { cl with vc := vc } := by
        rw [Client.ui_local (hA a (has a List.mem_cons_self)), hvc]
        rfl
      have hstep : (world ι).Steps (w.setClient c cl) (w.setClient c { cl with vc := vc }) := by
        refine World.Steps.one (a := .ui c a) ?_ trivial
        show (((w.setClient c cl).clients c).ui a).map _ = _
        rw [clients_setClient_self, hui, Option.map_some, World.setClient_setClient]
      exact hstep.trans (ih (fun b hb => has b (List.mem_cons_of_mem _ hb)) hrest)

/-- The station document comes first in the answer, and the screen shows it. -/
theorem World.steps_loaded {data : DocumentData} {docs : List (String × DocumentData)}
    (hc : w.clients c = {}) (hdocs : w.stations.Lists ((stationDocument, data) :: docs)) :
    (world ι).Steps w (w.setClient c { vc := .stationsShown data (docs.map Prod.snd) }) := by
  let reply := data :: docs.map Prod.snd
  have hserve : (world ι).Steps w (w.setClient c { reply := some reply }) := by
    refine World.Steps.one (a := .serve c ((stationDocument, data) :: docs)) ?_ ⟨?_, hdocs⟩
    · show some (w.setClient c { w.clients c with reply := some reply }) = _
      rw [hc]
    · rw [hc]
      rfl
  refine hserve.trans (World.Steps.one (a := .deliver c) ?_ trivial)
  show ((w.setClient c { reply := some reply }).clients c).deliver.map _ = _
  rw [clients_setClient_self]
  show some ((w.setClient c _).setClient c _) = _
  rw [World.setClient_setClient]
  rfl

/-- The pay and its write. -/
theorem World.steps_paid {pay : SeatVC.Payment} (hon : s.payEnabled = true)
    (hpay : s.payButton = some pay) :
    (world ι).Steps (w.setClient c { vc := s })
      { w.setClient c { vc := pay.vc } with
        stations := SeatVC.replaceBlock w.stations pay.written } := by
  have hsent : (world ι).Steps (w.setClient c { vc := s })
      (w.setClient c { vc := pay.vc, outbox := [pay.written] }) := by
    refine World.Steps.one (a := .ui c .payButton) ?_ trivial
    show (((w.setClient c { vc := s }).clients c).ui .payButton).map _ = _
    rw [clients_setClient_self]
    show (if s.payEnabled = true then s.payButton.map _ else none).map _ = _
    rw [if_pos hon, hpay, Option.map_some, Option.map_some, World.setClient_setClient]
    rfl
  refine hsent.trans (World.Steps.one (a := .apply c) ?_ trivial)
  simp only [World.next, clients_setClient_self, World.setClient_setClient]
  rfl

/-- From any state of the world, a client whose screen has just been opened can buy any
free seats of the station document, for any adults and children that make as many, as long
as the query answers with this document first; no other seat, document or client is
touched. -/
theorem seats_in_reach {data : DocumentData} {docs : List (String × DocumentData)} {n m : Nat}
    (hc : w.clients c = {}) (hdocs : w.stations.Lists ((stationDocument, data) :: docs))
    (hnodup : ps.Nodup) (hfree : ∀ p ∈ ps, stationCell w.stations p = some 2)
    (hseats : ps.length = n + m) (hpos : 0 < n + m) :
    ∃ w', (world ι).Steps w w' ∧ (∀ p ∈ ps, w'.Sold p) ∧
      (∀ p, p ∉ ps → stationCell w'.stations p = stationCell w.stations p) ∧
      (∀ id, id ≠ stationDocument → w'.stations id = w.stations id) ∧
      (∀ d, d ≠ c → w'.clients d = w.clients d) ∧ (w'.clients c).outbox = [] ∧
      (w'.clients c).vc.seatAmount = n * 300 + m * 250 := by
  have hstored : w.stations stationDocument = some data :=
    (hdocs.mem_iff _ _).mp List.mem_cons_self
  have hcell : ∀ p, stationCell w.stations p = (Station.ofDocumentData data).cell? p := by
    intro p
    rw [stationCell, hstored, Option.bind_some]
  have hloaded := World.steps_loaded hc hdocs
  have hshown : seatPage.Reachable (.stationsShown data (docs.map Prod.snd)) :=
    ⟨_, (Lts.Run.start rfl).step (SeatVC.next_showAllStations data (docs.map Prod.snd))⟩
  have hcells : ∀ p ∈ ps,
      (SeatVC.stationsShown data (docs.map Prod.snd)).seatLayout.cell? p = some 2 :=
    fun p hp => (hcell p).symm.trans (hfree p hp)
  obtain ⟨s₁, hleads₁, hcount, harr, hsel, -, hsells⟩ :=
    SeatVC.leads_tapped hnodup hcells
  have hreach : seatPage.Reachable s₁ := hleads₁.reachable hshown
  obtain ⟨p, hp⟩ := List.exists_mem_of_length_pos (hseats ▸ hpos)
  have hcount' : s₁.seatCount = n + m := by
    rw [hcount, hseats]
    show (0 : Int) + _ = _
    omega
  obtain ⟨s₂, pay, hleads₂, hoffers, -, harr₂⟩ := SeatVC.leads_offers hreach hcount' hpos hp hsel
  have hnone : ∀ p, ¬ s₁.Sells p := by
    rintro ⟨title, row⟩ hsold
    have hbefore := hsells _ hsold
    cases title <;> exact absurd hbefore List.not_mem_nil
  obtain ⟨_, _, _, -, -, -, hpayVc, -, -⟩ := SeatVC.payButton_spec hoffers.pays
  refine ⟨_, hloaded.trans ((World.steps_screen (fun _ => SeatAction.Taps.isLocal) hleads₁).trans
    ((World.steps_screen (fun _ => SeatAction.Finishes.isLocal) hleads₂).trans
      (World.steps_paid hoffers.enabled hoffers.pays))), fun p hp => ?_, fun p hp => ?_,
    fun id hid => SeatVC.replaceBlock_ne _ _ hid, fun d hd => clients_setClient_ne _ _ _ hd, ?_, ?_⟩
  · show stationCell _ p = some 1
    rw [stationCell_replaceBlock]
    exact hoffers.sold p (.inr hp)
  · rw [stationCell_replaceBlock, hcell]
    refine hoffers.kept (Station.ofDocumentData data) ?_ p fun h => h.elim (hnone p) hp
    rw [harr₂, harr]
    rfl
  · show ((w.setClient c { vc := pay.vc }).clients c).outbox = []
    rw [clients_setClient_self]
  · show ((w.setClient c { vc := pay.vc }).clients c).vc.seatAmount = _
    rw [clients_setClient_self, hpayVc]
    exact hoffers.amount

/-- One of two clients buys both seats, for an adult and a child. -/
theorem seats_in_reach_both : ∃ w', (world Bool).Steps (twoClients { one := [2, 2] }) w' ∧
    w'.Sold ⟨.one, 0⟩ ∧ w'.Sold ⟨.one, 1⟩ ∧ w'.clients true = {} ∧
    (w'.clients false).vc.seatAmount = 550 := by
  have hnodup : [(⟨.one, 0⟩ : IndexPath), ⟨.one, 1⟩].Nodup := by decide
  have hfree : ∀ p ∈ [(⟨.one, 0⟩ : IndexPath), ⟨.one, 1⟩],
      stationCell (oneHall { one := [2, 2] }) p = some 2 := by
    decide
  obtain ⟨w', hsteps, hsold, -, -, hother, -, hamount⟩ :=
    seats_in_reach (w := twoClients { one := [2, 2] }) (c := false) (n := 1) (m := 1) rfl
      (lists_oneHall { one := [2, 2] }) hnodup hfree rfl (by decide)
  exact ⟨w', hsteps, hsold _ (by simp), hsold _ (by simp), hother true (by decide), hamount⟩

end Takeit
