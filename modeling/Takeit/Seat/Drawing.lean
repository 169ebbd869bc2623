import Mathlib.Data.List.Count
import Mathlib.Data.List.Perm.Subperm
import Takeit.Seat.Steps

/-!
# Drawing the grid and collecting the selection

What a pay sells and lists is collected by `cellForItemAt`, that is by
whatever cells the collection view happens to draw after a tap. `drawn` reads
the drawn cells off a run, `run_drawState` says that the collected arrays are
what these cells left, and `soldOnce_iff_drawnOnce` when they are the selected
seats.
-/

namespace Takeit

open Takeit.Logic Takeit.Firestore

/-! ## The drawn cells -/

/-- A drawn cell is noted, and a tap that changes the layout starts over. -/
def drawnStep (ps : List IndexPath) (e : Edge SeatVC SeatAction) : List IndexPath :=
  match e.act with
  | .cellForItemAt p => ps ++ [p]
  | .didSelectItemAt p => if e.pre.Taps p then [] else ps
  | _ => ps

/-- The cells drawn since the last tap that changed the layout, in order and
with repetitions. -/
def drawn (es : List (Edge SeatVC SeatAction)) : List IndexPath := es.foldl drawnStep []

theorem drawn_step (es : List (Edge SeatVC SeatAction)) (e : Edge SeatVC SeatAction) :
    drawn (es ++ [e]) = drawnStep (drawn es) e := by
  simp [drawn]

theorem selectedSection_drawSelected (g : SeatGrid) (p : IndexPath) (t : ClassTitle) :
    (g.drawSelected p).selectedSection t =
      g.selectedSection t ++ if p.title = t then [p.row] else [] := by
  obtain ⟨title, row⟩ := p
  cases title <;> cases t <;> simp [SeatGrid.drawSelected, SeatGrid.selectRow,
    SeatGrid.selectedSection]

theorem seatSelectedArray_drawSelected (g : SeatGrid) (p : IndexPath) :
    (g.drawSelected p).seatSelectedArray = g.seatSelectedArray ++ [SeatGrid.seatLabel p] := by
  obtain ⟨title, row⟩ := p
  cases title <;> rfl

@[simp] theorem seatLayout_drawSelected (g : SeatGrid) (p : IndexPath) :
    (g.drawSelected p).seatLayout = g.seatLayout := by
  obtain ⟨title, row⟩ := p
  cases title <;> rfl

@[simp] theorem stationArray_drawSelected (g : SeatGrid) (p : IndexPath) :
    (g.drawSelected p).stationArray = g.stationArray := by
  obtain ⟨title, row⟩ := p
  cases title <;> rfl

@[simp] theorem seatSelected_drawSelected (g : SeatGrid) (p : IndexPath) :
    (g.drawSelected p).seatSelected = g.seatSelected := by
  obtain ⟨title, row⟩ := p
  cases title <;> rfl

/-! ## The collected arrays -/

/-- The labels and rows the grid has collected are those of the selected cells
among `ps`. -/
structure SeatGrid.Collected (g : SeatGrid) (ps : List IndexPath) : Prop where
  labels : g.seatSelectedArray = (ps.filter (g.Selected ·)).map seatLabel
  rows : ∀ t, g.selectedSection t =
    (ps.filter fun p => g.Selected p ∧ p.title = t).map IndexPath.row

variable {g g' : SeatGrid} {vc t : SeatVC} {a : SeatAction} {ps : List IndexPath}

/-- Nothing drawn, nothing collected. -/
theorem collected_clearSelected (g : SeatGrid) : g.clearSelected.Collected [] :=
  ⟨rfl, fun t => by simp⟩

/-- Only the layout and the collected arrays matter. -/
theorem SeatGrid.Collected.congr (h : g.Collected ps) (hlayout : g'.seatLayout = g.seatLayout)
    (hlabels : g'.seatSelectedArray = g.seatSelectedArray)
    (hrows : ∀ t, g'.selectedSection t = g.selectedSection t) : g'.Collected ps := by
  have hsel : ∀ p, g'.Selected p ↔ g.Selected p := fun p => by
    rw [Selected, Selected, hlayout]
  constructor
  · rw [hlabels, h.labels]
    simp only [hsel]
  · intro t
    rw [hrows, h.rows]
    simp only [hsel]

theorem SeatGrid.Collected.drawSelected {p : IndexPath} (h : g.Collected ps)
    (hp : g.Selected p) : (g.drawSelected p).Collected (ps ++ [p]) := by
  have hsel : ∀ q, (g.drawSelected p).Selected q ↔ g.Selected q := fun q => by
    rw [Selected, Selected, seatLayout_drawSelected]
  constructor
  · rw [seatSelectedArray_drawSelected, h.labels]
    simp [List.filter_append, hsel, hp]
  · intro t
    rw [selectedSection_drawSelected, h.rows]
    by_cases ht : p.title = t <;> simp [List.filter_append, hsel, hp, ht]

theorem SeatGrid.Collected.drawOther {p : IndexPath} (h : g.Collected ps)
    (hp : ¬ g.Selected p) : g.Collected (ps ++ [p]) := by
  constructor
  · rw [h.labels]
    simp [List.filter_append, hp]
  · intro t
    rw [h.rows]
    simp [List.filter_append, hp]

/-- While the stations are on their way there is no cell, so none is drawn. -/
structure DrawState (vc : SeatVC) (ps : List IndexPath) : Prop where
  collected : vc.toSeatGrid.Collected ps
  early : vc.stationsAwaited = true → vc.seatLayout = {} ∧ ps = []

/-- A cell exists only once the stations are there. -/
theorem DrawState.loaded {p : IndexPath} {v : Int} (st : DrawState vc ps)
    (hv : vc.seatLayout.cell? p = some v) : vc.stationsAwaited = false := by
  cases hawaited : vc.stationsAwaited with
  | false => rfl
  | true =>
      rw [(st.early hawaited).1, SeatLayout.cell?_empty] at hv
      exact absurd hv (by simp)

theorem SeatStep.drawState (h : SeatStep vc a t) (st : DrawState vc ps) :
    DrawState t (drawnStep ps ⟨vc, a, t⟩) := by
  have hloaded : ∀ {p v}, vc.seatLayout.cell? p = some v → ∀ {q : Prop},
      vc.stationsAwaited = true → q := by
    intro p v hv q hawaited
    exact absurd hawaited (by simp [st.loaded hv])
  cases h with
  | stationsFailed => exact ⟨st.collected, fun haw => absurd haw (by simp)⟩
  | stationsShown hawaited =>
      obtain ⟨-, rfl⟩ := st.early hawaited
      exact ⟨⟨st.collected.labels, st.collected.rows⟩, fun haw => absurd haw (by simp)⟩
  | drawSelected hsel => exact ⟨st.collected.drawSelected hsel, hloaded hsel⟩
  | drawOther hv h3 =>
      have hnot : ¬ vc.Selected _ := (SeatGrid.selected_iff hv).not.mpr h3
      exact ⟨st.collected.drawOther hnot, hloaded hv⟩
  | @tapInert p v hv hdead =>
      have hnot : ¬ vc.Taps p := by
        rw [SeatGrid.taps_iff hv]
        omega
      simpa [drawnStep, hnot] using st
  | @tapFree p v hv h0 h1 h3 =>
      have htap : vc.Taps p := (SeatGrid.taps_iff hv).mpr ⟨h0, h1⟩
      have hnil : drawnStep ps ⟨vc, .didSelectItemAt p, (vc.selectSeat p).finishTap⟩ = [] := by
        simp [drawnStep, htap]
      rw [hnil]
      refine ⟨?_, fun haw => hloaded hv (by simpa using haw)⟩
      rw [SeatVC.seatGrid_tapFree]
      exact collected_clearSelected _
  | @tapSelected p hsel =>
      have htap : vc.Taps p := (SeatGrid.taps_iff hsel).mpr (by omega)
      have hnil : drawnStep ps ⟨vc, .didSelectItemAt p, (vc.deselectSeat p).finishTap⟩ = [] := by
        simp [drawnStep, htap]
      rw [hnil]
      refine ⟨?_, fun haw => hloaded hsel (by simpa using haw)⟩
      rw [SeatVC.seatGrid_tapSelected]
      exact collected_clearSelected _
  | paid => exact ⟨st.collected.congr rfl rfl (by simp), st.early⟩
  | _ => exact ⟨st.collected, st.early⟩

/-- What the grid has collected is what the drawn cells left. -/
theorem run_drawState {es : List (Edge SeatVC SeatAction)} (h : seatPage.Run es vc) :
    DrawState vc (drawn es) := by
  induction h with
  | start h0 =>
      obtain rfl : _ = SeatVC.viewDidLoad := h0
      exact ⟨collected_clearSelected {}, fun _ => ⟨rfl, rfl⟩⟩
  | step _ hst ih =>
      rw [drawn_step]
      exact (seatStep_of_step hst).drawState ih

/-- Only selected seats are sold. -/
theorem selected_of_sells {p : IndexPath} (h : seatPage.Reachable vc) (hp : vc.Sells p) :
    vc.Selected p := by
  obtain ⟨es, hrun⟩ := h
  have hp' : p.row ∈ vc.selectedSection p.title := hp
  rw [(run_drawState hrun).collected.rows] at hp'
  obtain ⟨q, hq, hrow⟩ := List.mem_map.mp hp'
  obtain ⟨hsel, htitle⟩ := of_decide_eq_true (List.mem_filter.mp hq).2
  obtain rfl : q = p := by
    cases p; cases q
    simp_all
  exact hsel

/-! ## What a pay makes of it -/

/-- Every selected seat is collected once, in its section and in the seat
list, and a pay sells it and names it once. -/
structure SeatVC.SoldOnce (vc : SeatVC) : Prop where
  index : ∀ p, vc.Selected p → (vc.selectedSection p.title).count p.row = 1
  label : ∀ p, vc.Selected p → vc.seatSelectedArray.count (SeatGrid.seatLabel p) = 1
  written : ∀ pay, vc.payButton = some pay → ∀ p, vc.Selected p →
    pay.written.cell? p = some 1
  listed : ∀ pay, vc.payButton = some pay → ∃ labels : List String,
    pay.vc.seatSelected = String.join (labels.map (· ++ "\n")) ∧
    ∀ p, vc.Selected p → labels.count (SeatGrid.seatLabel p) = 1

/-- The row of a selected cell is collected as often as the cell was drawn. -/
theorem SeatGrid.Collected.count_row {p : IndexPath} (h : g.Collected ps)
    (hp : g.Selected p) : (g.selectedSection p.title).count p.row = ps.count p := by
  rw [h.rows, List.count, List.countP_map, List.countP_filter, List.count]
  apply List.countP_congr
  intro q _
  constructor
  · intro hq
    simp only [Function.comp, Bool.and_eq_true, beq_iff_eq, decide_eq_true_eq] at hq
    obtain ⟨hrow, -, htitle⟩ := hq
    cases p; cases q
    simp_all
  · intro hq
    obtain rfl := eq_of_beq hq
    simp [hp]

theorem SeatGrid.Collected.count_label (h : g.Collected ps) (p : IndexPath) :
    g.seatSelectedArray.count (seatLabel p) =
      (ps.filter fun q => seatLabel q = seatLabel p ∧ g.Selected q).length := by
  rw [h.labels, List.count, List.countP_map, List.countP_filter, ← List.countP_eq_length_filter]
  apply List.countP_congr
  intro q _
  simp

/-- Selected cells have labels of their own. -/
def SeatGrid.LabelsDiffer (g : SeatGrid) : Prop :=
  ∀ p q, g.Selected p → g.Selected q → seatLabel p = seatLabel q → p = q

/-- With the cells drawn once, the labels are collected once if they differ. -/
theorem SeatGrid.Collected.label_iff (h : g.Collected ps)
    (honce : ∀ p, g.Selected p → ps.count p = 1) :
    (∀ p, g.Selected p → g.seatSelectedArray.count (seatLabel p) = 1) ↔ g.LabelsDiffer := by
  have hmem : ∀ p, g.Selected p → p ∈ ps := fun p hp =>
    List.count_pos_iff.mp (by rw [honce p hp]; exact Nat.one_pos)
  constructor
  · intro hlabel p q hp hq heq
    by_contra hne
    have hpair : List.Subperm [p, q]
        (ps.filter fun r => seatLabel r = seatLabel p ∧ g.Selected r) := by
      apply List.subperm_of_subset
      · simp [hne]
      · intro r hr
        rw [List.mem_filter]
        rcases List.mem_pair.mp hr with rfl | rfl
        · exact ⟨hmem _ hp, by simp [hp]⟩
        · exact ⟨hmem _ hq, by simp [hq, heq]⟩
    have htwo := hpair.length_le
    rw [← h.count_label, hlabel p hp] at htwo
    simp at htwo
  · intro hdiffer p hp
    rw [h.count_label, ← List.countP_eq_length_filter, ← honce p hp, List.count]
    apply List.countP_congr
    intro q _
    constructor
    · intro hq
      obtain ⟨heq, hsel⟩ := of_decide_eq_true hq
      exact beq_iff_eq.mpr (hdiffer q p hsel hp heq)
    · intro hq
      obtain rfl := eq_of_beq hq
      simp [hp]

/-- Only a pay touches the seat list. -/
theorem SeatStep.seatSelected (h : SeatStep vc a t) (hpay : a ≠ .payButton) :
    t.seatSelected = vc.seatSelected := by
  cases h with
  | drawSelected => exact seatSelected_drawSelected _ _
  | tapFree => rw [SeatVC.seatGrid_tapFree]; rfl
  | tapSelected => rw [SeatVC.seatGrid_tapSelected]; rfl
  | paid => exact absurd rfl hpay
  | _ => rfl

/-- Before the first pay the seat list is empty. -/
theorem seatSelected_unpaid {es : List (Edge SeatVC SeatAction)} (h : seatPage.Run es vc)
    (hfirst : ∀ e ∈ es, e.act ≠ .payButton) : vc.seatSelected = "" := by
  induction h with
  | start h0 =>
      obtain rfl : _ = SeatVC.viewDidLoad := h0
      rfl
  | step _ hst ih =>
      obtain ⟨hbefore, hact⟩ :=
        (Lts.guards_step (G := fun _ act => act ≠ SeatAction.payButton)).mp hfirst
      rw [(seatStep_of_step hst).seatSelected hact, ih hbefore]

theorem seatSelected_listed (g : SeatGrid) : g.listed.seatSelected =
    g.seatSelected ++ String.join (g.seatSelectedArray.map (· ++ "\n")) := by
  have hfold : ∀ (labels : List String) (s : String),
      labels.foldl (fun s label => s ++ (label ++ "\n")) s =
        s ++ String.join (labels.map (· ++ "\n")) := by
    intro labels
    induction labels with
    | nil => intro s; simp [String.join]
    | cons label rest ih =>
        intro s
        rw [List.foldl_cons, ih]
        simp [String.append_assoc]
  exact hfold _ _

/-- At the first pay every selected seat is sold and listed exactly once
precisely if each of them was drawn exactly once since the last tap and no two
of them have the same label. -/
theorem soldOnce_iff_drawnOnce {es : List (Edge SeatVC SeatAction)}
    (h : seatPage.Run es vc) (hfirst : ∀ e ∈ es, e.act ≠ .payButton) :
    vc.SoldOnce ↔
      (∀ p, vc.Selected p → (drawn es).count p = 1) ∧ vc.toSeatGrid.LabelsDiffer := by
  have hcollected := (run_drawState h).collected
  constructor
  · intro hsold
    have honce : ∀ p, vc.Selected p → (drawn es).count p = 1 := fun p hp => by
      rw [← hcollected.count_row hp, hsold.index p hp]
    exact ⟨honce, (hcollected.label_iff honce).mp hsold.label⟩
  · rintro ⟨honce, hdiffer⟩
    have hindex : ∀ p, vc.Selected p → (vc.selectedSection p.title).count p.row = 1 :=
      fun p hp => by rw [hcollected.count_row hp, honce p hp]
    have hlabel := (hcollected.label_iff honce).mpr hdiffer
    refine ⟨hindex, hlabel, ?_, ?_⟩
    · intro pay hpay p hp
      obtain ⟨shown, others, sold, -, -, hsold, -, -, hwritten⟩ := SeatVC.payButton_spec hpay
      have hsells : vc.Sells p := List.count_pos_iff.mp (by rw [hindex p hp]; exact Nat.one_pos)
      rw [hwritten]
      exact (hsold.cell p).trans (if_pos hsells)
    · intro pay hpay
      obtain ⟨shown, others, sold, -, -, -, hvc, -⟩ := SeatVC.payButton_spec hpay
      refine ⟨vc.seatSelectedArray, ?_, hlabel⟩
      rw [hvc]
      show vc.toSeatGrid.listed.seatSelected = _
      rw [seatSelected_listed, seatSelected_unpaid h hfirst, String.empty_append]

/-- Two seats selected, and a ticket for each. -/
def twoSeatsBooked (draws : List IndexPath) : List SeatAction :=
  [.showAllStations (some [Station.documentData ⟨{ one := [2, 2] }, stationDocument⟩]),
    .didSelectItemAt ⟨.one, 0⟩, .cellForItemAt ⟨.one, 0⟩, .didSelectItemAt ⟨.one, 1⟩] ++
    draws.map .cellForItemAt ++ [.add .adult, .add .adult]

/-- Two seats booked, each drawn once after the last tap. -/
def bothDrawn : List SeatAction := twoSeatsBooked [⟨.one, 1⟩, ⟨.one, 0⟩]

theorem selected_bothDrawn {s : SeatVC} (hlayout : s.seatLayout = { one := [3, 3] })
    {p : IndexPath} : s.Selected p ↔ p = ⟨.one, 0⟩ ∨ p = ⟨.one, 1⟩ := by
  unfold SeatGrid.Selected
  rw [hlayout]
  constructor
  · intro hp
    obtain ⟨title, row⟩ := p
    match title, row, hp with
    | .one, 0, _ => exact .inl rfl
    | .one, 1, _ => exact .inr rfl
  · rintro (rfl | rfl) <;> rfl

theorem exists_bothDrawn {P : SeatVC → Prop}
    (h : ∃ s ∈ Lts.runList SeatVC.next SeatVC.viewDidLoad bothDrawn,
      s.seatLayout = { one := [3, 3] } ∧ P s) :
    ∃ s, seatPage.Run (seatTrace bothDrawn) s ∧ P s ∧
      (∀ e ∈ seatTrace bothDrawn, e.act ≠ .payButton) ∧
      (∀ p, s.Selected p → (drawn (seatTrace bothDrawn)).count p = 1) ∧
      s.toSeatGrid.LabelsDiffer := by
  obtain ⟨s, hrun, hlayout, hP⟩ : ∃ s, seatPage.Run (seatTrace bothDrawn) s ∧
      s.seatLayout = { one := [3, 3] } ∧ P s := Lts.exists_run_trace rfl h
  have hfirst : ∀ e ∈ seatTrace bothDrawn, e.act ≠ .payButton := by
    intro e he hact
    have hmem := Lts.act_mem_of_mem_trace he
    simp [bothDrawn, twoSeatsBooked, hact] at hmem
  have hdrawn : drawn (seatTrace bothDrawn) = [⟨.one, 1⟩, ⟨.one, 0⟩] := by decide
  refine ⟨s, hrun, hP, hfirst, ?_, ?_⟩
  · intro p hp
    rw [hdrawn]
    rcases (selected_bothDrawn hlayout).mp hp with rfl | rfl <;> decide
  · intro p q hp hq
    rcases (selected_bothDrawn hlayout).mp hp with rfl | rfl <;>
      rcases (selected_bothDrawn hlayout).mp hq with rfl | rfl <;> decide

/-- Both seats are on the screen. -/
theorem soldOnce_bothDrawn : ∃ s,
    seatPage.Run (seatTrace (twoSeatsBooked [⟨.one, 1⟩, ⟨.one, 0⟩])) s ∧
    s.payEnabled = true ∧ s.SoldOnce := by
  obtain ⟨s, hrun, hpay, hfirst, honce, hdiffer⟩ :=
    exists_bothDrawn (P := fun s => s.payEnabled = true) (by decide)
  exact ⟨s, hrun, hpay, (soldOnce_iff_drawnOnce hrun hfirst).mpr ⟨honce, hdiffer⟩⟩

/-- The first seat has been scrolled away when the second is tapped: it is
paid for, selected, and not among the rows the pay sells. -/
theorem soldOnce_scrolledAway : ∃ s,
    seatPage.Run (seatTrace (twoSeatsBooked [⟨.one, 1⟩])) s ∧
    s.payEnabled = true ∧ (s.payButton.map fun pay => pay.written.one) = some [2, 1] ∧
    ¬ s.SoldOnce := by
  obtain ⟨s, hrun, hpay, hwritten, hsel, hcount⟩ : ∃ s,
      seatPage.Run (seatTrace (twoSeatsBooked [⟨.one, 1⟩])) s ∧
      s.payEnabled = true ∧ (s.payButton.map fun pay => pay.written.one) = some [2, 1] ∧
      s.Selected ⟨.one, 0⟩ ∧ (s.selectedSection .one).count 0 = 0 :=
    Lts.exists_run_trace rfl (by decide)
  refine ⟨s, hrun, hpay, hwritten, fun hsold => ?_⟩
  exact absurd ((hsold.index _ hsel).symm.trans hcount) (by decide)

end Takeit
