import Takeit.Seat.Drawing
import Takeit.Seat.Tickets

/-!
# The hall on the screen and the hall in memory

`seatLayout` is toggled by taps and `stationArray[0]` is sold from by pays;
both start as the hall that was loaded. `HallState` gives every cell of the
one in closed form and keeps the cells of the other in range:

* **seat map** — `seatMap_closedForm`: a free seat is selected after an odd
  number of taps, whatever else happens in between;
* **sale** — `sells_free`: what a pay sells was loaded as free and is selected;
* **agreement** — `soldShown_iff_unpaid`: the two agree on what is sold until
  the first pay, and never after it.
-/

namespace Takeit

open Takeit.Logic Takeit.Firestore

/-! ## The loaded hall and the taps -/

/-- The hall that is shown when the stations arrive. -/
def loadedStep (l : SeatLayout) (e : Edge SeatVC SeatAction) : SeatLayout :=
  match e.act with
  | .showAllStations (some documents) =>
      match documents.map Station.ofDocumentData with
      | [] => l
      | shown :: _ => shown.toSeatLayout
  | _ => l

/-- The hall a run has loaded; no cells before it has. -/
def loaded (es : List (Edge SeatVC SeatAction)) : SeatLayout := es.foldl loadedStep {}

/-- The cell a step taps. -/
def tapAt (e : Edge SeatVC SeatAction) : Option IndexPath :=
  match e.act with
  | .didSelectItemAt p => some p
  | _ => none

/-- The cells a run taps, in order and with repetitions. -/
def taps (es : List (Edge SeatVC SeatAction)) : List IndexPath := es.filterMap tapAt

theorem loaded_step (es : List (Edge SeatVC SeatAction)) (e : Edge SeatVC SeatAction) :
    loaded (es ++ [e]) = loadedStep (loaded es) e := by
  simp [loaded]

theorem taps_step (es : List (Edge SeatVC SeatAction)) (e : Edge SeatVC SeatAction) :
    taps (es ++ [e]) = taps es ++ (tapAt e).toList := by
  unfold taps
  rw [List.filterMap_append]
  cases h : tapAt e <;> simp [h]

/-! ## Toggling -/

/-- What a tap makes of the value of a cell. -/
def toggled (v : Int) : Int := if v ≠ 0 ∧ v ≠ 1 then if v ≠ 3 then 3 else 2 else v

/-- Any number of taps on a stored value. -/
theorem toggled_iterate {v : Int} (hv : v = 0 ∨ v = 1 ∨ v = 2) (n : Nat) :
    toggled^[n] v = if v = 2 ∧ n % 2 = 1 then 3 else v := by
  induction n with
  | zero => simp
  | succ n ih =>
      rw [Function.iterate_succ_apply', ih]
      rcases hv with rfl | rfl | rfl
      · rfl
      · rfl
      · rcases Nat.mod_two_eq_zero_or_one n with hn | hn
        · have hsucc : (n + 1) % 2 = 1 := by omega
          simp [hn, hsucc, toggled]
        · have hsucc : (n + 1) % 2 = 0 := by omega
          simp [hn, hsucc, toggled]

/-- One more tap on `p`, everywhere else the cells as before. -/
theorem cell_tapped {l shown shown' : SeatLayout} {ps : List IndexPath} {p : IndexPath} {v : Int}
    (hcell : ∀ q, shown.cell? q = (l.cell? q).map toggled^[ps.count q])
    (hv : shown.cell? p = some v)
    (hself : shown'.cell? p = some (toggled v)) (hne : ∀ q, q ≠ p → shown'.cell? q = shown.cell? q)
    (q : IndexPath) : shown'.cell? q = (l.cell? q).map toggled^[(ps ++ [p]).count q] := by
  by_cases hq : q = p
  · subst hq
    rw [hcell, Option.map_eq_some_iff] at hv
    obtain ⟨w, hw, rfl⟩ := hv
    rw [hself, hw, List.count_append, List.count_singleton_self, Option.map_some,
      Function.iterate_succ_apply']
  · rw [hne q hq, hcell, List.count_append, List.count_singleton]
    simp [Ne.symm hq]

/-! ## The bar at the bottom -/

/-- The bar with the amount and the pay button: its height and the title of
the button. -/
def SeatVC.bar (vc : SeatVC) : Nat × String := (vc.bottomViewHeight, vc.payTitle)

/-- The bar as `showBottomView` leaves it. -/
def barShown : Nat × String := (50, "結帳")

/-- The bar as `hideBottomView` leaves it, and as the storyboard draws it. -/
def barHidden : Nat × String := (0, "")

variable {vc t : SeatVC} {a : SeatAction} {l : SeatLayout} {ps : List IndexPath}

/-- The first seat shows the bar. -/
theorem bar_tapFree (vc : SeatVC) (p : IndexPath) : (vc.selectSeat p).finishTap.bar =
    if vc.seatCount + 1 = 1 then barShown else vc.bar := by
  simp only [SeatVC.selectSeat, SeatVC.finishTap]
  split <;> rfl

/-- The last seat hides it. -/
theorem bar_tapSelected (vc : SeatVC) (p : IndexPath) : (vc.deselectSeat p).finishTap.bar =
    if vc.seatCount - 1 = 0 then barHidden else vc.bar := by
  simp only [SeatVC.deselectSeat, SeatVC.finishTap]
  split <;> rfl

/-! ## The two halls -/

/-- The screen after the hall `l` was loaded and the cells `ps` were tapped. -/
structure HallState (vc : SeatVC) (l : SeatLayout) (ps : List IndexPath) : Prop where
  early : vc.stationsAwaited = true → l = {} ∧ ps = []
  cell : ∀ p, vc.seatLayout.cell? p = (l.cell? p).map toggled^[ps.count p]
  seatCount : vc.seatCount = vc.seatLayout.cells.count 3 - l.cells.count 3
  bar : vc.bar = if 0 < vc.seatCount then barShown else barHidden
  empty : vc.stationArray = [] → l = {}
  inRange : ∀ shown ∈ vc.stationArray.head?, ∀ p, (shown.cell? p).isSome = (l.cell? p).isSome

/-- The tickets, the food and what drawing collects are no part of it. -/
theorem HallState.congr (st : HallState vc l ps)
    (hawaited : t.stationsAwaited = vc.stationsAwaited) (hlayout : t.seatLayout = vc.seatLayout)
    (hcount : t.seatCount = vc.seatCount) (hbar : t.bar = vc.bar)
    (harr : t.stationArray = vc.stationArray) : HallState t l ps where
  early h := st.early (hawaited ▸ h)
  cell := hlayout ▸ st.cell
  seatCount := by rw [hcount, hlayout, st.seatCount]
  bar := by rw [hbar, hcount, st.bar]
  empty h := st.empty (harr ▸ h)
  inRange := harr ▸ st.inRange

/-- A sale moves no cell in or out of range. -/
theorem isSome_of_soldFrom {g : SeatGrid} {shown : Station} {sold : SeatLayout}
    (h : g.SoldFrom shown sold) (p : IndexPath) :
    (sold.cell? p).isSome = (shown.cell? p).isSome := by
  rw [h.cell]
  split
  · rename_i hsells
    rw [h.inRange p hsells]
    rfl
  · rfl

/-- A cell exists only once the stations are there. -/
theorem HallState.loaded {p : IndexPath} {v : Int} (st : HallState vc l ps)
    (hv : vc.seatLayout.cell? p = some v) : vc.stationsAwaited ≠ true := by
  intro hawaited
  rw [st.cell, (st.early hawaited).1, SeatLayout.cell?_empty] at hv
  exact absurd hv (by simp)

/-- The stations arrive before any cell is there to be tapped. -/
theorem HallState.stationsShown {shown : Station} {others : List Station} (st : HallState vc l ps)
    (hawaited : vc.stationsAwaited = true) :
    HallState { vc with
      stationsAwaited := false
      stationArray := shown :: others
      seatLayout := shown.toSeatLayout } shown.toSeatLayout ps := by
  obtain ⟨rfl, rfl⟩ := st.early hawaited
  -- no hall was shown, so no seat was selected either
  have hempty : vc.seatLayout = {} := by
    apply SeatLayout.ext_cell?
    intro p
    simp [st.cell]
  have hseats : vc.seatCount = 0 := by
    rw [st.seatCount, hempty]
    rfl
  refine ⟨fun h => absurd h (by simp), fun p => ?_, ?_, st.bar, fun h => absurd h (by simp), ?_⟩
  · simp
  · show vc.seatCount = _
    rw [hseats, Int.sub_self]
  · intro shown' hshown' p
    obtain rfl := Option.some.inj hshown'
    rfl

/-- A free seat is selected. -/
theorem HallState.tapFree {p : IndexPath} {v : Int} (st : HallState vc l ps)
    (hv : vc.seatLayout.cell? p = some v) (h0 : v ≠ 0) (h1 : v ≠ 1) (h3 : v ≠ 3) :
    HallState (vc.selectSeat p).finishTap l (ps ++ [p]) where
  early := by
    rw [SeatVC.stationsAwaited_tapFree]
    exact fun h => absurd h (st.loaded hv)
  cell := by
    have hthree : toggled v = 3 := by
      unfold toggled
      rw [if_pos ⟨h0, h1⟩, if_pos h3]
    rw [SeatVC.seatGrid_tapFree]
    refine cell_tapped st.cell hv ?_ fun q hq => SeatLayout.cell?_setCell_ne 3 hq
    rw [hthree]
    exact SeatLayout.cell?_setCell_self 3 (by rw [hv]; rfl)
  seatCount := by
    have hcount : ((vc.seatLayout.setCell p 3).cells.count 3 : Int) =
        vc.seatLayout.cells.count 3 + 1 := by
      rw [SeatLayout.count_cells_setCell 3 3 hv, if_neg h3, if_pos rfl]
      omega
    rw [SeatVC.ticketPanel_tapFree, SeatVC.seatGrid_tapFree]
    show vc.seatCount + 1 = (vc.seatLayout.setCell p 3).cells.count 3 - _
    rw [hcount, st.seatCount]
    omega
  bar := by
    rw [bar_tapFree, SeatVC.ticketPanel_tapFree, st.bar]
    show _ = if 0 < vc.seatCount + 1 then barShown else barHidden
    -- shown with the first seat, and left as it is with any other
    by_cases hfirst : vc.seatCount + 1 = 1
    · rw [if_pos hfirst, if_pos (by omega)]
    · rw [if_neg hfirst]
      exact if_congr (by omega) rfl rfl
  empty := by
    rw [SeatVC.seatGrid_tapFree]
    exact st.empty
  inRange := by
    rw [SeatVC.seatGrid_tapFree]
    exact st.inRange

/-- A selected seat is given back. -/
theorem HallState.tapSelected {p : IndexPath} (st : HallState vc l ps) (hsel : vc.Selected p) :
    HallState (vc.deselectSeat p).finishTap l (ps ++ [p]) where
  early := by
    rw [SeatVC.stationsAwaited_tapSelected]
    exact fun h => absurd h (st.loaded hsel)
  cell := by
    have hthree : vc.seatLayout.cell? p = some 3 := hsel
    rw [SeatVC.seatGrid_tapSelected]
    refine cell_tapped st.cell hthree ?_ fun q hq => SeatLayout.cell?_setCell_ne 2 hq
    exact SeatLayout.cell?_setCell_self 2 (by rw [hthree]; rfl)
  seatCount := by
    have hcount : ((vc.seatLayout.setCell p 2).cells.count 3 : Int) =
        vc.seatLayout.cells.count 3 - 1 := by
      rw [SeatLayout.count_cells_setCell 2 3 hsel, if_pos rfl, if_neg (by decide)]
      omega
    rw [SeatVC.ticketPanel_tapSelected, SeatVC.seatGrid_tapSelected]
    show vc.seatCount - 1 = (vc.seatLayout.setCell p 2).cells.count 3 - _
    rw [hcount, st.seatCount]
    omega
  bar := by
    rw [bar_tapSelected, SeatVC.ticketPanel_tapSelected, st.bar]
    show _ = if 0 < vc.seatCount - 1 then barShown else barHidden
    by_cases hlast : vc.seatCount - 1 = 0
    · rw [if_pos hlast, if_neg (by omega)]
    · rw [if_neg hlast]
      exact if_congr (by omega) rfl rfl
  empty := by
    rw [SeatVC.seatGrid_tapSelected]
    exact st.empty
  inRange := by
    rw [SeatVC.seatGrid_tapSelected]
    exact st.inRange

/-- A pay leaves the screen as it is and every cell in range in range. -/
theorem HallState.paid {shown : Station} {others : List Station} {sold : SeatLayout}
    (st : HallState vc l ps) (harr : vc.stationArray = shown :: others)
    (hsold : vc.toSeatGrid.SoldFrom shown sold) :
    HallState { vc with toSeatGrid := vc.toSeatGrid.paid shown others sold } l ps := by
  refine ⟨st.early, st.cell, st.seatCount, st.bar, fun h => absurd h (List.cons_ne_nil _ _), ?_⟩
  intro shown' hshown' p
  obtain rfl := Option.some.inj hshown'
  have hbefore := st.inRange shown (by rw [harr]; rfl) p
  rw [← hbefore]
  exact isSome_of_soldFrom hsold p

theorem SeatStep.hallState (h : SeatStep vc a t) (st : HallState vc l ps) :
    HallState t (loadedStep l ⟨vc, a, t⟩) (ps ++ (tapAt ⟨vc, a, t⟩).toList) := by
  -- most actions load nothing and tap nothing
  have hquiet : loadedStep l ⟨vc, a, t⟩ = l → tapAt ⟨vc, a, t⟩ = none → HallState t l ps →
      HallState t (loadedStep l ⟨vc, a, t⟩) (ps ++ (tapAt ⟨vc, a, t⟩).toList) := by
    intro hload htap hst
    rw [hload, htap, Option.toList_none, List.append_nil]
    exact hst
  cases h with
  | stationsFailed hawaited =>
      exact hquiet rfl rfl
        ⟨fun h => absurd h (by simp), st.cell, st.seatCount, st.bar, st.empty, st.inRange⟩
  | stationsShown hawaited hdocs =>
      simp only [loadedStep, hdocs, tapAt, Option.toList_none, List.append_nil]
      exact st.stationsShown hawaited
  | drawSelected =>
      exact hquiet rfl rfl
        (st.congr rfl (seatLayout_drawSelected _ _) rfl rfl (stationArray_drawSelected _ _))
  | @tapInert p v hv hdead =>
      refine ⟨fun h => absurd h (st.loaded hv), ?_, st.seatCount, st.bar, st.empty, st.inRange⟩
      refine cell_tapped st.cell hv ?_ fun q _ => rfl
      have hstay : toggled v = v := if_neg (by omega)
      rw [hv, hstay]
  | tapFree hv h0 h1 h3 => exact st.tapFree hv h0 h1 h3
  | tapSelected hsel => exact st.tapSelected hsel
  | @add k =>
      exact hquiet rfl rfl (st.congr rfl rfl (vc.addTicket_spec k).seatCount rfl rfl)
  | @minus k =>
      exact hquiet rfl rfl (st.congr rfl rfl (vc.minusTicket_spec k).seatCount rfl rfl)
  | paid _ _ harr hsold => exact hquiet rfl rfl (st.paid harr hsold)
  | _ => exact hquiet rfl rfl (st.congr rfl rfl rfl rfl rfl)

/-- The two halls, in every state a run reaches. -/
theorem run_hallState {es : List (Edge SeatVC SeatAction)} (h : seatPage.Run es vc) :
    HallState vc (loaded es) (taps es) := by
  induction h with
  | start h0 =>
      obtain rfl : _ = SeatVC.viewDidLoad := h0
      refine ⟨fun _ => ⟨rfl, rfl⟩, fun p => ?_, rfl, rfl, fun _ => rfl, fun _ h => ?_⟩
      · simp [loaded, SeatVC.viewDidLoad]
      · simp [SeatVC.viewDidLoad] at h
  | step _ hst ih =>
      rw [loaded_step, taps_step]
      exact (seatStep_of_step hst).hallState ih

/-! ## The seat map in closed form -/

/-- For a stored hall: a cell is selected if it was loaded as free and tapped
an odd number of times, and is as loaded otherwise; the seats are counted; the
bar is shown while there are any. Taps in another order come to the same. -/
theorem seatMap_closedForm {es : List (Edge SeatVC SeatAction)} (h : seatPage.Run es vc)
    (hstored : (loaded es).Stored) :
    (∀ p, vc.seatLayout.cell? p = ((loaded es).cell? p).map fun v =>
      if v = 2 ∧ (taps es).count p % 2 = 1 then 3 else v) ∧
    vc.seatCount = vc.seatLayout.cells.count 3 ∧
    vc.bar = (if 0 < vc.seatCount then barShown else barHidden) ∧
    ∀ es' vc', seatPage.Run es' vc' → loaded es' = loaded es → (taps es').Perm (taps es) →
      vc'.seatLayout = vc.seatLayout ∧ vc'.seatCount = vc.seatCount := by
  have st := run_hallState h
  refine ⟨fun p => ?_, ?_, st.bar, fun es' vc' h' hloaded htaps => ?_⟩
  · rw [st.cell]
    refine Option.map_congr fun v hv => ?_
    exact toggled_iterate (hstored.cell hv) _
  · have hnone : (loaded es).cells.count 3 = 0 := by
      rw [List.count_eq_zero]
      intro hmem
      simp only [SeatLayout.cells, List.mem_append] at hmem
      rcases hmem with (hmem | hmem) | hmem
      · exact absurd (hstored .one 3 hmem) (by decide)
      · exact absurd (hstored .two 3 hmem) (by decide)
      · exact absurd (hstored .three 3 hmem) (by decide)
    rw [st.seatCount, hnone]
    omega
  · have st' := run_hallState h'
    have hlayout : vc'.seatLayout = vc.seatLayout := by
      apply SeatLayout.ext_cell?
      intro p
      rw [st.cell, st'.cell, hloaded, htaps.count_eq]
    refine ⟨hlayout, ?_⟩
    rw [st'.seatCount, st.seatCount, hlayout, hloaded]

/-- A sold seat and two free ones; one of these is tapped three times. -/
def threeTaps : List SeatAction :=
  [.showAllStations (some [Station.documentData ⟨{ one := [1, 2], two := [2] }, stationDocument⟩]),
    .didSelectItemAt ⟨.one, 1⟩, .didSelectItemAt ⟨.two, 0⟩, .didSelectItemAt ⟨.one, 0⟩,
    .add .adult, .didSelectItemAt ⟨.one, 1⟩, .didSelectItemAt ⟨.one, 1⟩]

theorem seatMap_threeTaps : ∃ s, seatPage.Run (seatTrace threeTaps) s ∧
    s.seatLayout.cell? ⟨.one, 1⟩ = some 3 ∧ s.seatCount = s.seatLayout.cells.count 3 := by
  obtain ⟨s, hrun, -⟩ : ∃ s, seatPage.Run (seatTrace threeTaps) s ∧
      s.seatCount = (2 : Int) := Lts.exists_run_trace rfl (by decide)
  obtain ⟨hcell, hcount, -⟩ := seatMap_closedForm hrun (by decide)
  exact ⟨s, hrun, (hcell _).trans (by decide), hcount⟩

/-! ## What a pay sells -/

/-- What a pay would sell is in range of the stations in memory. -/
theorem sells_inRange {es : List (Edge SeatVC SeatAction)} (h : seatPage.Run es vc)
    {p : IndexPath} (hp : vc.Sells p) :
    ∃ shown others, vc.stationArray = shown :: others ∧ (shown.cell? p).isSome := by
  have st := run_hallState h
  have hthree : vc.seatLayout.cell? p = some 3 := selected_of_sells ⟨es, h⟩ hp
  rw [st.cell, Option.map_eq_some_iff] at hthree
  obtain ⟨v, hv, -⟩ := hthree
  cases harr : vc.stationArray with
  | nil =>
      rw [st.empty harr, SeatLayout.cell?_empty] at hv
      exact absurd hv (by simp)
  | cons shown others =>
      refine ⟨shown, others, rfl, ?_⟩
      rw [st.inRange shown (by rw [harr]; rfl) p, hv]
      rfl

/-- From a stored hall a pay sells only cells that exist in `stationArray[0]`,
were loaded as free and are selected. -/
theorem sells_free {es : List (Edge SeatVC SeatAction)} (h : seatPage.Run es vc)
    (hstored : (loaded es).Stored) :
    (∀ p, vc.Sells p → (∃ shown ∈ vc.stationArray.head?, (shown.cell? p).isSome) ∧
      (loaded es).cell? p = some 2 ∧ vc.Selected p) ∧
    ∀ pay, vc.payButton = some pay → ∃ shown ∈ vc.stationArray.head?,
      ∀ p, pay.written.cell? p = if vc.Sells p then some 1 else shown.cell? p := by
  have st := run_hallState h
  refine ⟨fun p hp => ?_, fun pay hpay => ?_⟩
  · have hsel : vc.Selected p := selected_of_sells ⟨es, h⟩ hp
    have hthree : vc.seatLayout.cell? p = some 3 := hsel
    rw [st.cell, Option.map_eq_some_iff] at hthree
    obtain ⟨v, hv, htoggled⟩ := hthree
    have hfree : v = 2 := by
      rw [toggled_iterate (hstored.cell hv)] at htoggled
      have hvalue := hstored.cell hv
      split at htoggled <;> omega
    obtain ⟨shown, others, harr, hin⟩ := sells_inRange h hp
    exact ⟨⟨shown, by rw [harr]; rfl, hin⟩, hfree ▸ hv, hsel⟩
  · obtain ⟨shown, others, sold, -, harr, hsold, -, -, hwritten⟩ := SeatVC.payButton_spec hpay
    refine ⟨shown, by rw [harr]; rfl, fun p => ?_⟩
    rw [hwritten]
    exact hsold.cell p

/-- Of the two seats selected the one tapped three times is drawn, and both get tickets. -/
def threeTapsDrawn : List SeatAction :=
  threeTaps ++ [.cellForItemAt ⟨.one, 1⟩, .add .adult, .add .child]

/-- The pay sells the seat that is drawn, and not the one that is selected only. -/
theorem sells_free_threeTaps : ∃ s pay, seatPage.Run (seatTrace threeTapsDrawn) s ∧
    s.payButton = some pay ∧ s.next .payButton = some pay.vc ∧
    (loaded (seatTrace threeTapsDrawn)).cell? ⟨.one, 1⟩ = some 2 ∧
    pay.written.cell? ⟨.one, 1⟩ = some 1 ∧ pay.written.cell? ⟨.two, 0⟩ = some 2 := by
  obtain ⟨s, hrun, hon, hsells, hnot, hfree, hpays⟩ : ∃ s,
      seatPage.Run (seatTrace threeTapsDrawn) s ∧ s.payEnabled = true ∧ s.Sells ⟨.one, 1⟩ ∧
      ¬ s.Sells ⟨.two, 0⟩ ∧
      (s.stationArray.head?.bind fun shown => shown.cell? ⟨.two, 0⟩) = some 2 ∧
      s.payButton.isSome = true := Lts.exists_run_trace rfl (by decide)
  obtain ⟨pay, hpay⟩ := Option.isSome_iff_exists.mp hpays
  obtain ⟨hsold, hwrites⟩ := sells_free hrun (by decide)
  obtain ⟨shown, hshown, hwritten⟩ := hwrites pay hpay
  have hkept : shown.cell? ⟨.two, 0⟩ = some 2 := by
    rwa [hshown] at hfree
  refine ⟨s, pay, hrun, hpay, ?_, (hsold _ hsells).2.1, (hwritten _).trans (if_pos hsells),
    (hwritten _).trans ((if_neg hnot).trans hkept)⟩
  rw [SeatVC.next, if_pos (show s.permits .payButton = true from hon)]
  show s.payButton.map _ = _
  rw [hpay, Option.map_some]

/-! ## Sold in memory, sold on the screen -/

/-- What `stationArray[0]` has sold is shown as sold, so that it can neither be
selected nor sold again. -/
def SeatVC.SoldShown (vc : SeatVC) : Prop :=
  ∀ shown ∈ vc.stationArray.head?, ∀ p, shown.cell? p = some 1 →
    vc.seatLayout.cell? p = some 1 ∧ ¬ vc.Selected p ∧ ¬ vc.Sells p

/-- What is shown as sold is neither selected nor collected. -/
theorem soldShown_of_cell (h : seatPage.Reachable vc)
    (hcell : ∀ shown ∈ vc.stationArray.head?, ∀ p, shown.cell? p = some 1 →
      vc.seatLayout.cell? p = some 1) : vc.SoldShown := by
  intro shown hshown p hp
  have hone := hcell shown hshown p hp
  have hsel : ¬ vc.Selected p := by
    intro hthree
    exact absurd (hone.symm.trans hthree) (by decide)
  exact ⟨hone, hsel, fun hsells => hsel (selected_of_sells h hsells)⟩

/-- A label that is collected comes with a row. -/
theorem exists_sells (h : seatPage.Reachable vc) (hne : vc.seatSelectedArray ≠ []) :
    ∃ p, vc.Sells p := by
  obtain ⟨es, hrun⟩ := h
  have hcollected := (run_drawState hrun).collected
  have hdrawn : (drawn es).filter (vc.Selected ·) ≠ [] := by
    intro hnil
    rw [hcollected.labels, hnil] at hne
    exact hne rfl
  obtain ⟨p, hp⟩ := List.exists_mem_of_ne_nil _ hdrawn
  obtain ⟨hmem, hsel⟩ := List.mem_filter.mp hp
  refine ⟨p, ?_⟩
  show p.row ∈ vc.selectedSection p.title
  rw [hcollected.rows]
  exact List.mem_map.mpr ⟨p, List.mem_filter.mpr ⟨hmem, by simpa using hsel⟩, rfl⟩

/-- Taps leave alone what is shown as sold, and only a pay sells. -/
theorem SeatStep.soldShown (h : SeatStep vc a t) (ht : seatPage.Reachable t)
    (hshown : vc.SoldShown) (hpay : a ≠ .payButton) : t.SoldShown := by
  apply soldShown_of_cell ht
  have hcell : ∀ shown ∈ vc.stationArray.head?, ∀ p, shown.cell? p = some 1 →
      vc.seatLayout.cell? p = some 1 := fun shown hs p hp => (hshown shown hs p hp).1
  cases h with
  | stationsShown =>
      intro shown hs p hp
      obtain rfl := Option.some.inj hs
      exact hp
  | drawSelected =>
      rw [seatLayout_drawSelected, stationArray_drawSelected]
      exact hcell
  | @tapFree q v hv h0 h1 h3 =>
      rw [SeatVC.seatGrid_tapFree]
      intro shown hs p hp
      have hone := hcell shown hs p hp
      have hne : p ≠ q := by
        rintro rfl
        exact h1 (Option.some.inj (hv.symm.trans hone))
      exact (SeatLayout.cell?_setCell_ne 3 hne).trans hone
  | @tapSelected q hsel =>
      rw [SeatVC.seatGrid_tapSelected]
      intro shown hs p hp
      have hone := hcell shown hs p hp
      have hne : p ≠ q := by
        rintro rfl
        exact absurd (hone.symm.trans hsel) (by decide)
      exact (SeatLayout.cell?_setCell_ne 2 hne).trans hone
  | paid => exact absurd rfl hpay
  | _ => exact hcell

/-- Every pay sells a seat that stays selected on the screen. -/
theorem SeatStep.unpaid_of_soldShown (h : SeatStep vc a t) (hvc : seatPage.Reachable vc)
    (hshown : t.SoldShown) : a ≠ .payButton := by
  rintro rfl
  cases h with
  | @paid shown others sold _ hne _ hsold =>
      obtain ⟨p, hp⟩ := exists_sells hvc hne
      have hone : sold.cell? p = some 1 := by
        rw [hsold.cell, if_pos hp]
      have hnot := (hshown _ rfl p hone).2.2
      exact hnot (by simpa [SeatGrid.Sells] using hp)

/-- What is sold in memory is shown as sold in every state of a run without a
pay, and in no run with one. -/
theorem soldShown_iff_unpaid {es : List (Edge SeatVC SeatAction)} (h : seatPage.Run es vc) :
    Lts.Throughout SeatVC.SoldShown es vc ↔ ∀ e ∈ es, e.act ≠ .payButton :=
  h.always_iff (J := fun s => seatPage.Reachable s ∧ s.SoldShown)
    (G := fun _ a => a ≠ SeatAction.payButton)
    (by
      rintro s rfl
      exact ⟨⟨[], .start rfl⟩, fun shown hs => absurd hs (by simp [SeatVC.viewDidLoad])⟩)
    (fun _ _ _ hs hst hpay =>
      ⟨hs.1.step hst, (seatStep_of_step hst).soldShown (hs.1.step hst) hs.2 hpay⟩)
    (fun _ hs => hs.2)
    (fun _ _ _ hs hst hshown => (seatStep_of_step hst).unpaid_of_soldShown hs.1 hshown)

theorem soldShown_threeTaps : ∃ s, seatPage.Run (seatTrace threeTaps) s ∧
    (s.stationArray.head?.bind fun shown => shown.cell? ⟨.one, 0⟩) = some 1 ∧
    Lts.Throughout SeatVC.SoldShown (seatTrace threeTaps) s := by
  obtain ⟨s, hrun, hsold⟩ : ∃ s, seatPage.Run (seatTrace threeTaps) s ∧
      (s.stationArray.head?.bind fun shown => shown.cell? ⟨.one, 0⟩) = some 1 :=
    Lts.exists_run_trace rfl (by decide)
  refine ⟨s, hrun, hsold, (soldShown_iff_unpaid hrun).mpr fun e he hact => ?_⟩
  have hmem := Lts.act_mem_of_mem_trace he
  simp [threeTaps, hact] at hmem

/-- A seat is paid for, and the pay button is pressed again. -/
def paidTwice : List SeatAction :=
  oneSeatBooked ++ [.cellForItemAt ⟨.one, 0⟩, .payButton, .payButton]

/-- The seat sold is still selected, and each pay sells it. -/
theorem soldShown_paidTwice : ∃ s, seatPage.Run (seatTrace paidTwice) s ∧
    s.payEnabled = true ∧
    (s.stationArray.head?.bind fun shown => shown.cell? ⟨.one, 0⟩) = some 1 ∧
    s.Sells ⟨.one, 0⟩ ∧ ¬ s.SoldShown := by
  obtain ⟨s, hrun, hon, hsold, hsells⟩ : ∃ s, seatPage.Run (seatTrace paidTwice) s ∧
      s.payEnabled = true ∧
      (s.stationArray.head?.bind fun shown => shown.cell? ⟨.one, 0⟩) = some 1 ∧
      s.Sells ⟨.one, 0⟩ := Lts.exists_run_trace rfl (by decide)
  refine ⟨s, hrun, hon, hsold, hsells, fun hshown => ?_⟩
  obtain ⟨shown, hhead, hone⟩ := Option.bind_eq_some_iff.mp hsold
  exact (hshown shown hhead _ hone).2.2 hsells

end Takeit
