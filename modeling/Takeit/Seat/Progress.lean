import Takeit.Logic.Progress
import Takeit.Seat.Hall
import Takeit.Seat.Traps

/-!
# No dead ends

However a customer came to the seats that are selected now, the ticket buttons and the
drawing of the cells lead to a pay for exactly these seats, with whatever tickets
(`pay_in_reach`): the tickets are first taken away (`leads_empty`) and then chosen
anew (`leads_chosen`), and the cells are drawn once more (`leads_drawn`).
-/

namespace Takeit

open Takeit.Logic Takeit.Firestore

/-- The actions that are left to do: tickets and drawing. -/
def SeatAction.Finishes : SeatAction → Prop
  | .add _ | .minus _ | .cellForItemAt _ => True
  | _ => False

variable {vc s t : SeatVC} {a : SeatAction} {tp : TicketPanel} {k : Ticket} {p : IndexPath}

/-! ## Tickets -/

namespace TicketPanel

/-- With a seat there is a button to press: the two that add a ticket, or one that
takes one away. -/
def Open (tp : TicketPanel) : Prop :=
  1 ≤ tp.seatCount → (∀ k, tp.addEnabled k = true) ∨ 0 < tp.total

theorem Open.seatTaken (h : tp.Open) : tp.seatTaken.Open := by
  intro hseats
  by_cases hfirst : tp.seatCount + 1 = 1
  · refine .inl fun k => ?_
    cases k <;> exact if_pos hfirst
  · replace hseats : 1 ≤ tp.seatCount + 1 := hseats
    refine (h (by omega)).imp (fun hadd k => ?_) id
    cases k with
    | adult => exact (if_neg hfirst).trans (hadd .adult)
    | child => exact (if_neg hfirst).trans (hadd .child)

/-- Of some kind there is a ticket. -/
theorem exists_count (h : 0 < tp.total) : ∃ k, 0 < tp.count k := by
  by_cases hadult : 0 < tp.count .adult
  · exact ⟨.adult, hadult⟩
  · refine ⟨.child, ?_⟩
    have hsum : tp.total = tp.count .adult + tp.count .child := rfl
    omega

/-- On the way to `a` and `c` tickets. -/
structure Choosing (a c : Nat) (tp : TicketPanel) : Prop where
  adults : tp.count .adult ≤ a
  children : tp.count .child ≤ c
  more : tp.total < a + c → ∀ k, tp.addEnabled k = true
  done : tp.total = a + c → tp.payEnabled = true

/-- One more ticket that is wanted. -/
theorem Choosing.added {n m : Nat} (h : tp.Choosing n m) (inv : tp.Inv)
    (hseats : tp.seatCount = n + m) (hmore : tp.total < n + m)
    (hk : tp.count k < match k with | .adult => n | .child => m) :
    (tp.addTicket k).Choosing n m := by
  have hspec := tp.addTicket_spec k
  have hfull := inv.full_iff
  have htotal := hspec.total
  refine ⟨?_, ?_, fun hless k' => ?_, fun hdone => ?_⟩
  · have hadults := h.adults
    rw [hspec.count]
    cases k with
    | adult =>
        rw [if_pos rfl]
        exact hk
    | child =>
        rw [if_neg (by simp)]
        exact hadults
  · have hchildren := h.children
    rw [hspec.count]
    cases k with
    | adult =>
        rw [if_neg (by simp)]
        exact hchildren
    | child =>
        rw [if_pos rfl]
        exact hk
  · rw [hspec.addEnabled, hfull]
    exact ⟨by omega, h.more hmore k'⟩
  · rw [hspec.payEnabled, hfull]
    exact .inl (by omega)

end TicketPanel

theorem SeatStep.ticketsOpen (h : SeatStep vc a t) (inv : vc.toTicketPanel.Inv)
    (hopen : vc.toTicketPanel.Open) : t.toTicketPanel.Open := by
  cases h with
  | tapFree =>
      rw [SeatVC.ticketPanel_tapFree]
      exact hopen.seatTaken
  | tapSelected =>
      rw [SeatVC.ticketPanel_tapSelected]
      exact fun _ => .inl fun k => by cases k <;> rfl
  | @add k =>
      have hnonneg := inv.total_nonneg
      refine fun _ => .inr ?_
      show 0 < (vc.toTicketPanel.addTicket k).total
      rw [(vc.addTicket_spec k).total]
      omega
  | @minus k => exact fun _ => .inl (vc.minusTicket_spec k).addEnabled
  | _ => exact hopen

/-- A button to press, in every reachable state with a seat. -/
theorem ticketsOpen_of_reachable (h : seatPage.Reachable vc) : vc.toTicketPanel.Open := by
  have both : vc.toTicketPanel.Inv ∧ vc.toTicketPanel.Open :=
    h.invariant (I := fun vc => vc.toTicketPanel.Inv ∧ vc.toTicketPanel.Open)
      (fun _ h0 => h0 ▸ ⟨TicketPanel.inv_viewDidLoad, fun hseats => absurd hseats (by decide)⟩)
      fun _ _ _ hs hst => ⟨(seatStep_of_step hst).inv hs.1,
        (seatStep_of_step hst).ticketsOpen hs.1 hs.2⟩
  exact both.2

namespace SeatVC

/-! ## Presses and draws -/

theorem next_minus (hk : vc.minusEnabled k = true) : vc.next (.minus k) =
    some { vc with toTicketPanel := vc.toTicketPanel.minusTicket k } := by
  refine (if_pos hk).trans ?_
  cases k <;> rfl

theorem next_add (hk : vc.addEnabled k = true) : vc.next (.add k) =
    some { vc with toTicketPanel := vc.toTicketPanel.addTicket k } := by
  refine (if_pos hk).trans ?_
  cases k <;> rfl

theorem next_cellForItemAt (hp : vc.Selected p) : vc.next (.cellForItemAt p) =
    some { vc with toSeatGrid := vc.toSeatGrid.drawSelected p } := by
  have hcell : vc.seatLayout.cell? p = some 3 := hp
  simp [next, permits, exec, cellForItemAt, hcell]

/-- Only tickets have been added and taken away. -/
structure OnlyTickets (vc s : SeatVC) : Prop where
  rest : s = { vc with toTicketPanel := s.toTicketPanel }
  seatCount : s.seatCount = vc.seatCount
  inv : s.toTicketPanel.Inv

theorem OnlyTickets.minus (h : vc.OnlyTickets s) (hk : s.minusEnabled k = true) :
    vc.OnlyTickets { s with toTicketPanel := s.toTicketPanel.minusTicket k } where
  rest := by rw [h.rest]
  seatCount := (s.minusTicket_spec k).seatCount.trans h.seatCount
  inv := h.inv.taken hk (s.minusTicket_spec k)

theorem OnlyTickets.add (h : vc.OnlyTickets s) :
    vc.OnlyTickets { s with toTicketPanel := s.toTicketPanel.addTicket k } where
  rest := by rw [h.rest]
  seatCount := (s.addTicket_spec k).seatCount.trans h.seatCount
  inv := h.inv.added (s.addTicket_spec k)

/-- All tickets can be taken away, and then others added. -/
theorem leads_empty (inv : vc.toTicketPanel.Inv) (hopen : vc.toTicketPanel.Open)
    (hseats : 1 ≤ vc.seatCount) : ∃ s, Lts.Leads next SeatAction.Finishes vc s ∧
      vc.OnlyTickets s ∧ s.total = 0 ∧ ∀ k, s.addEnabled k = true := by
  have hdown : ∀ s : SeatVC, vc.OnlyTickets s ∧ s.toTicketPanel.Open → 0 < s.total.toNat →
      ∃ a t, SeatAction.Finishes a ∧ s.next a = some t ∧
        (vc.OnlyTickets t ∧ t.toTicketPanel.Open) ∧ t.total.toNat < s.total.toNat := by
    intro s hs hpos
    obtain ⟨k, hk⟩ := TicketPanel.exists_count (show 0 < s.total by omega)
    have hminus := (hs.1.inv.minusEnabled k).mpr hk
    have hspec := s.minusTicket_spec k
    refine ⟨.minus k, _, trivial, next_minus hminus,
      ⟨hs.1.minus hminus, fun _ => .inl hspec.addEnabled⟩, ?_⟩
    show (s.toTicketPanel.minusTicket k).total.toNat < _
    rw [hspec.total]
    omega
  obtain ⟨s, hleads, ⟨honly, hopen⟩, hzero⟩ :=
    Lts.Leads.exists_of_measure (fun s : SeatVC => s.total.toNat) hdown ⟨⟨rfl, rfl, inv⟩, hopen⟩
  have hnonneg := honly.inv.total_nonneg
  have htotal : s.total = 0 := by omega
  refine ⟨s, hleads, honly, htotal, (hopen ?_).resolve_right (by omega)⟩
  rw [honly.seatCount]
  exact hseats

/-- From no ticket on, any tickets for the seats can be chosen, and then pay is
enabled. -/
theorem leads_chosen {n m : Nat} (inv : vc.toTicketPanel.Inv) (hseats : vc.seatCount = n + m)
    (hpos : 0 < n + m) (hzero : vc.total = 0) (hadd : ∀ k, vc.addEnabled k = true) :
    ∃ s, Lts.Leads next SeatAction.Finishes vc s ∧ vc.OnlyTickets s ∧ s.adultCount = n ∧
      s.childCount = m ∧ s.payEnabled = true := by
  have hup : ∀ s : SeatVC, vc.OnlyTickets s ∧ s.toTicketPanel.Choosing n m →
      0 < (n + m - s.total).toNat → ∃ a t, SeatAction.Finishes a ∧ s.next a = some t ∧
        (vc.OnlyTickets t ∧ t.toTicketPanel.Choosing n m) ∧
        (n + m - t.total).toNat < (n + m - s.total).toNat := by
    intro s hs hless
    have hmore : s.total < n + m := by omega
    have htotal : s.total = s.count .adult + s.count .child := rfl
    have hwanted : ∃ k, s.count k < match k with | .adult => (n : Int) | .child => m := by
      by_cases hadult : s.count .adult < n
      · exact ⟨.adult, hadult⟩
      · exact ⟨.child, show s.count .child < m by omega⟩
    obtain ⟨k, hk⟩ := hwanted
    refine ⟨.add k, _, trivial, next_add (hs.2.more hmore k), ⟨hs.1.add, ?_⟩, ?_⟩
    · exact hs.2.added hs.1.inv (hs.1.seatCount.trans hseats) hmore hk
    · show (n + m - (s.toTicketPanel.addTicket k).total).toNat < _
      rw [(s.addTicket_spec k).total]
      omega
  have hnone : vc.toTicketPanel.Choosing n m := by
    have hadults := inv.nonneg .adult
    have hchildren := inv.nonneg .child
    have hsum : vc.total = vc.count .adult + vc.count .child := rfl
    exact ⟨by omega, by omega, fun _ => hadd, fun h => by omega⟩
  obtain ⟨s, hleads, ⟨honly, hchoosing⟩, hdone⟩ :=
    Lts.Leads.exists_of_measure (fun s : SeatVC => (n + m - s.total).toNat) hup
      ⟨⟨rfl, rfl, inv⟩, hnone⟩
  have hadults : s.adultCount ≤ n := hchoosing.adults
  have hchildren : s.childCount ≤ m := hchoosing.children
  have htotal : s.total = s.adultCount + s.childCount := rfl
  exact ⟨s, hleads, honly, by omega, by omega, hchoosing.done (by omega)⟩

/-! ## Drawing -/

/-- The selected cells `ps` can be drawn, and then they are collected too. -/
theorem leads_drawn {ps : List IndexPath} (hps : ∀ p ∈ ps, vc.Selected p) :
    ∃ s, Lts.Leads next SeatAction.Finishes vc s ∧
      s = { vc with toSeatGrid := s.toSeatGrid } ∧ s.seatLayout = vc.seatLayout ∧
      s.stationArray = vc.stationArray ∧ ∀ p, s.Sells p ↔ vc.Sells p ∨ p ∈ ps := by
  have hsells : ∀ (g : SeatGrid) (p q : IndexPath),
      (g.drawSelected p).Sells q ↔ g.Sells q ∨ q = p := by
    intro g p q
    unfold SeatGrid.Sells
    rw [selectedSection_drawSelected, List.mem_append]
    refine or_congr Iff.rfl ?_
    obtain ⟨title, row⟩ := p
    obtain ⟨title', row'⟩ := q
    by_cases htitle : title = title'
    · subst htitle
      simp
    · simp [htitle, Ne.symm htitle]
  have hdraw : ∀ (s : SeatVC) (p : IndexPath), p ∈ ps →
      (s = { vc with toSeatGrid := s.toSeatGrid } ∧ s.seatLayout = vc.seatLayout ∧
        s.stationArray = vc.stationArray ∧ ∀ p, s.Sells p → vc.Sells p ∨ p ∈ ps) →
      ∃ t, s.next (.cellForItemAt p) = some t ∧
        (t = { vc with toSeatGrid := t.toSeatGrid } ∧ t.seatLayout = vc.seatLayout ∧
          t.stationArray = vc.stationArray ∧ ∀ p, t.Sells p → vc.Sells p ∨ p ∈ ps) ∧
        t.Sells p ∧ ∀ q, s.Sells q → t.Sells q := by
    intro s p hp hs
    obtain ⟨hrest, hlayout, harr, hsold⟩ := hs
    have hsel : s.Selected p := by
      rw [SeatGrid.Selected, hlayout]
      exact hps p hp
    refine ⟨_, next_cellForItemAt hsel, ⟨by rw [hrest], ?_, ?_, fun q hq => ?_⟩, ?_, fun q hq => ?_⟩
    · exact (seatLayout_drawSelected _ _).trans hlayout
    · exact (stationArray_drawSelected _ _).trans harr
    · rcases (hsells _ _ _).mp hq with hq | rfl
      · exact hsold q hq
      · exact .inr hp
    · exact (hsells _ _ _).mpr (.inr rfl)
    · exact (hsells _ _ _).mpr (.inl hq)
  obtain ⟨s, hleads, ⟨hrest, hlayout, harr, hsold⟩, hall, hkeep⟩ :=
    Lts.Leads.exists_of_tasks (A := SeatAction.Finishes) (D := fun p (s : SeatVC) => s.Sells p)
      SeatAction.cellForItemAt (fun _ => trivial) hdraw ⟨rfl, rfl, rfl, fun _ => .inl⟩
  refine ⟨s, hleads, hrest, hlayout, harr, fun p => ⟨hsold p, fun h => ?_⟩⟩
  exact h.elim (hkeep p) (hall p)

/-! ## Paying -/

/-- A press of `payButton` goes through: it sells the cells `seats` and no other, for `n`
adults and `m` children. -/
structure Offers (s : SeatVC) (seats : IndexPath → Prop) (n m : Nat) (pay : Payment) : Prop where
  enabled : s.payEnabled = true
  pays : s.payButton = some pay
  adults : s.adultCount = n
  children : s.childCount = m
  amount : s.seatAmount = n * 300 + m * 250
  sold : ∀ p, seats p → pay.written.cell? p = some 1
  kept : ∀ shown ∈ s.stationArray.head?, ∀ p, ¬ seats p → pay.written.cell? p = shown.cell? p

/-- A selected cell is one of the station in memory. -/
theorem exists_shown (h : seatPage.Reachable vc) (hp : vc.Selected p) :
    ∃ shown others, vc.stationArray = shown :: others ∧
      ∀ q, vc.Selected q → (shown.cell? q).isSome := by
  obtain ⟨es, hrun⟩ := h
  have hhall := run_hallState hrun
  have hloaded : ∀ q, vc.Selected q → ((loaded es).cell? q).isSome := by
    intro q hq
    have hcell : vc.seatLayout.cell? q = some 3 := hq
    rw [hhall.cell, Option.map_eq_some_iff] at hcell
    obtain ⟨v, hv, -⟩ := hcell
    rw [hv]
    rfl
  cases harr : vc.stationArray with
  | nil =>
      have hsome := hloaded p hp
      rw [hhall.empty harr, SeatLayout.cell?_empty] at hsome
      exact absurd hsome (by simp)
  | cons shown others =>
      refine ⟨shown, others, rfl, fun q hq => ?_⟩
      rw [hhall.inRange shown (by rw [harr]; rfl)]
      exact hloaded q hq

/-- What is sold has been collected with its label. -/
theorem seatSelectedArray_ne_nil (h : seatPage.Reachable vc) (hp : vc.Sells p) :
    vc.seatSelectedArray ≠ [] := by
  obtain ⟨es, hrun⟩ := h
  have hrow : p.row ∈ vc.selectedSection p.title := hp
  rw [(run_drawState hrun).collected.rows] at hrow
  obtain ⟨q, hq, -⟩ := List.mem_map.mp hrow
  obtain ⟨hmem, hsel⟩ := List.mem_filter.mp hq
  exact (seatSelectedArray_ne_nil_iff hrun).mpr ⟨q, hmem, (of_decide_eq_true hsel).1⟩

/-- With the selected cells `ps` drawn, a pay for any tickets can be reached. -/
theorem leads_offers {n m : Nat} {ps : List IndexPath} (h : seatPage.Reachable vc)
    (hseats : vc.seatCount = n + m) (hpos : 0 < n + m) (hp : p ∈ ps)
    (hps : ∀ p ∈ ps, vc.Selected p) :
    ∃ s pay, Lts.Leads next SeatAction.Finishes vc s ∧
      s.Offers (fun q => vc.Sells q ∨ q ∈ ps) n m pay ∧ s.seatLayout = vc.seatLayout ∧
      s.stationArray = vc.stationArray := by
  obtain ⟨s₁, hleads₁, honly₁, hzero, hadd⟩ :=
    leads_empty (ticketPanel_inv h) (ticketsOpen_of_reachable h) (by omega)
  obtain ⟨s₂, hleads₂, honly₂, hadults, hchildren, hpay⟩ :=
    leads_chosen honly₁.inv (honly₁.seatCount.trans hseats) hpos hzero hadd
  have hgrid : s₂.toSeatGrid = vc.toSeatGrid := by rw [honly₂.rest, honly₁.rest]
  have hps₂ : ∀ p ∈ ps, s₂.Selected p := by
    rw [hgrid]
    exact hps
  obtain ⟨s, hleads₃, hrest, hlayout, harr, hsells⟩ := leads_drawn hps₂
  rw [hgrid] at hlayout harr hsells
  have hleads := (hleads₁.trans hleads₂).trans hleads₃
  have hreach : seatPage.Reachable s := hleads.reachable h
  have htickets : s.toTicketPanel = s₂.toTicketPanel := by rw [hrest]
  have hsold : s.Sells p := (hsells p).mpr (.inr hp)
  obtain ⟨shown, others, hshown, hin⟩ := exists_shown hreach (selected_of_sells hreach hsold)
  obtain ⟨pay, hpayButton⟩ := Option.isSome_iff_exists.mp
    (isSome_payButton (seatSelectedArray_ne_nil hreach hsold) hshown
      fun q hq => hin q (selected_of_sells hreach hq))
  obtain ⟨shown', others', sold, -, hshown', hfrom, -, -, hwritten⟩ := payButton_spec hpayButton
  obtain ⟨rfl, rfl⟩ := List.cons.inj (hshown.symm.trans hshown')
  refine ⟨s, pay, hleads, ⟨?_, hpayButton, ?_, ?_, ?_, fun q hq => ?_, fun shown' hs q hq => ?_⟩,
    hlayout, harr⟩
  · rw [htickets]
    exact hpay
  · rw [htickets]
    exact hadults
  · rw [htickets]
    exact hchildren
  · rw [htickets, honly₂.inv.amount, hadults, hchildren]
  · rw [hwritten]
    exact (hfrom.cell q).trans (if_pos ((hsells q).mpr hq))
  · rw [hshown] at hs
    obtain rfl := Option.some.inj hs
    rw [hwritten]
    exact (hfrom.cell q).trans (if_neg fun hsells' => hq ((hsells q).mp hsells'))

end SeatVC

end Takeit
