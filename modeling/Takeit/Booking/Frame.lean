import Takeit.Booking.World
import Takeit.Seat.Drawing

/-!
# What a pay changes

One client and nobody else writing: its stations are loaded from the
collection and its pays are applied to it. The hall shown is the first
document of the answer, the document written is always the same one, and it is
replaced by the four fields of a `Station`.
-/

namespace Takeit

open Takeit.Logic Takeit.Firestore

/-- The collection, the document whose hall is shown, and the screen. -/
structure Solo where
  stations : Collection
  shown : Option String := none
  vc : SeatVC := SeatVC.viewDidLoad

/-- The stations arrive, or anything else happens to the screen. -/
inductive SoloAction
  | load (docs : List (String × DocumentData))
  | ui (a : SeatAction)

namespace Solo

/-- The effect of an action. -/
def next (st : Solo) : SoloAction → Option Solo
  | .load docs =>
      (st.vc.next (.showAllStations (some (docs.map Prod.snd)))).map fun vc =>
        { st with shown := docs.head?.map Prod.fst, vc := vc }
  | .ui (.showAllStations (some _)) => none
  | .ui .payButton =>
      if st.vc.payEnabled = true then
        st.vc.payButton.map fun pay =>
          { st with stations := SeatVC.replaceBlock st.stations pay.written, vc := pay.vc }
      else none
  | .ui a => (st.vc.next a).map fun vc => { st with vc := vc }

/-- The answer has all documents, in any order. -/
def permits (st : Solo) : SoloAction → Prop
  | .load docs => st.stations.Lists docs
  | .ui _ => True

/-- The three arrays of a hall are arrays of integers. -/
def WellTyped (data : DocumentData) : Prop := ∀ t : ClassTitle, ∃ xs, data t.key = some (.ints xs)

/-- Well-typed halls, and the screen just loaded. -/
def Opened (st : Solo) : Prop :=
  (∀ id data, st.stations id = some data → WellTyped data) ∧ st.shown = none ∧
    st.vc = SeatVC.viewDidLoad

end Solo

/-- The client over its collection. -/
def solo : Lts Solo SoloAction := (Lts.ofNext Solo.Opened Solo.next).restrict Solo.permits

/-! ## The document and the stations in memory -/

/-- Only the arrival of the stations and a pay touch the stations in memory. -/
theorem SeatStep.stationArray {vc t : SeatVC} {a : SeatAction} (h : SeatStep vc a t)
    (hload : ∀ documents, a ≠ .showAllStations (some documents)) (hpay : a ≠ .payButton) :
    t.stationArray = vc.stationArray := by
  cases h with
  | stationsShown => exact absurd rfl (hload _)
  | paid => exact absurd rfl hpay
  | drawSelected => exact stationArray_drawSelected _ _
  | tapFree => rw [SeatVC.seatGrid_tapFree]; rfl
  | tapSelected => rw [SeatVC.seatGrid_tapSelected]; rfl
  | _ => rfl

/-- The halls stay well typed; the hall shown has a document, and if that is
the one written, the first station in memory has its arrays. -/
structure Solo.Inv (st : Solo) : Prop where
  typed : ∀ id data, st.stations id = some data → Solo.WellTyped data
  screen : seatPage.Reachable st.vc
  unloaded : st.shown = none → st.vc.stationArray = []
  shown : ∀ id, st.shown = some id → ∃ data s others, st.stations id = some data ∧
    st.vc.stationArray = s :: others ∧
    (id = stationDocument → ∀ t : ClassTitle, data t.key = some (.ints (s.block t)))

theorem wellTyped_documentData (s : Station) : Solo.WellTyped s.documentData :=
  fun t => ⟨s.block t, s.documentData_block t⟩

/-- A well-typed hall is decoded to its arrays. -/
theorem block_of_wellTyped {data : DocumentData} (h : Solo.WellTyped data) (t : ClassTitle) :
    data t.key = some (.ints ((Station.ofDocumentData data).block t)) := by
  obtain ⟨xs, hxs⟩ := h t
  have hread : Casts.snapshot.ints (.ints xs) = some xs := Value.asIntArray_ints xs
  rw [Station.block_ofDocumentData, hxs, Casts.intsField, hxs, Option.bind_some, hread,
    Option.getD_some]

variable {st st' : Solo} {a : SoloAction}

theorem Solo.Inv.load {docs : List (String × DocumentData)} {vc : SeatVC} (inv : st.Inv)
    (hlists : st.stations.Lists docs)
    (hvc : st.vc.next (.showAllStations (some (docs.map Prod.snd))) = some vc) :
    Solo.Inv { st with shown := docs.head?.map Prod.fst, vc := vc } := by
  have hreach : seatPage.Reachable vc := inv.screen.step hvc
  cases seatStep_of_next hvc with
  | @stationsShown _ s others _ hdocs =>
      cases docs with
      | nil => simp at hdocs
      | cons doc rest =>
          obtain ⟨id, data⟩ := doc
          have hid : st.stations id = some data := (hlists.mem_iff id data).mp List.mem_cons_self
          refine ⟨inv.typed, hreach, fun hnone => absurd hnone (by simp), ?_⟩
          intro id' hid'
          obtain rfl : id = id' := Option.some.inj hid'
          refine ⟨data, s, others, hid, rfl, fun _ t => ?_⟩
          obtain rfl : Station.ofDocumentData data = s := (List.cons.inj hdocs).1
          exact block_of_wellTyped (inv.typed id data hid) t

theorem Solo.Inv.pay {pay : SeatVC.Payment} (inv : st.Inv) (hon : st.vc.payEnabled = true)
    (hpay : st.vc.payButton = some pay) :
    Solo.Inv { st with
      stations := SeatVC.replaceBlock st.stations pay.written, vc := pay.vc } := by
  have hreach : seatPage.Reachable pay.vc := by
    refine inv.screen.step (a := .payButton) ?_
    show st.vc.next .payButton = some pay.vc
    simp [SeatVC.next, SeatVC.permits, SeatVC.exec, hon, hpay]
  obtain ⟨s, others, sold, -, harr, hsold, hvc, -, hwritten⟩ := SeatVC.payButton_spec hpay
  refine ⟨?_, hreach, ?_, ?_⟩
  · intro id data hdata
    replace hdata : SeatVC.replaceBlock st.stations pay.written id = some data := hdata
    by_cases hid : id = stationDocument
    · subst hid
      rw [SeatVC.replaceBlock_self] at hdata
      obtain rfl := Option.some.inj hdata
      exact wellTyped_documentData _
    · rw [SeatVC.replaceBlock_ne _ _ hid] at hdata
      exact inv.typed id data hdata
  · intro hnone
    rw [inv.unloaded hnone] at harr
    exact absurd harr (by simp)
  · intro id hid
    obtain ⟨data, -, -, hdata, -, -⟩ := inv.shown id hid
    have harr' : pay.vc.stationArray = { s with toSeatLayout := sold } :: others := by
      rw [hvc]
      rfl
    by_cases hdoc : id = stationDocument
    · subst hdoc
      refine ⟨pay.written.documentData, _, others, by simp, harr', fun _ t => ?_⟩
      rw [Station.documentData_block, hwritten]
    · exact ⟨data, _, others, by simp [hdoc, hdata], harr',
        fun h => absurd h hdoc⟩

theorem solo_inv (h : solo.Reachable st) : st.Inv := by
  refine h.invariant (M := solo) (I := Solo.Inv) ?_ ?_
  · rintro st ⟨htyped, hshown, hvc⟩
    refine ⟨htyped, hvc ▸ ⟨[], .start rfl⟩, fun _ => by rw [hvc]; rfl, fun id hid => ?_⟩
    rw [hshown] at hid
    exact absurd hid (by simp)
  · rintro st a st' inv ⟨hnext, hpermits⟩
    replace hnext : st.next a = some st' := hnext
    unfold Solo.next at hnext
    split at hnext
    · obtain ⟨vc, hvc, rfl⟩ := Option.map_eq_some_iff.mp hnext
      exact inv.load hpermits hvc
    · exact absurd hnext (by simp)
    · obtain ⟨hon, hmap⟩ := Option.ite_none_right_eq_some.mp hnext
      obtain ⟨pay, hpay, rfl⟩ := Option.map_eq_some_iff.mp hmap
      exact inv.pay hon hpay
    · rename_i a hload hpay
      obtain ⟨vc, hvc, rfl⟩ := Option.map_eq_some_iff.mp hnext
      have harr := (seatStep_of_next hvc).stationArray
        (fun documents h => hload documents (by rw [h])) (fun h => hpay (by rw [h]))
      exact ⟨inv.typed, inv.screen.step hvc, fun hnone => harr.trans (inv.unloaded hnone),
        fun id hid => by
          obtain ⟨data, s, others, hdata, hs, hsame⟩ := inv.shown id hid
          exact ⟨data, s, others, hdata, harr.trans hs, hsame⟩⟩

/-! ## The frame -/

/-- From `before` to `after` only entries of the three arrays of the document
`id` have changed, and only those at cells in `cells`. -/
structure Framed (before after : Collection) (id : String) (cells : IndexPath → Prop) :
    Prop where
  documents : ∀ id', id' ≠ id → after id' = before id'
  document : ∃ data data', before id = some data ∧ after id = some data' ∧
    (∀ key, (∀ t : ClassTitle, key ≠ t.key) → data' key = data key) ∧
    ∀ t : ClassTitle, ∃ xs ys, data t.key = some (.ints xs) ∧ data' t.key = some (.ints ys) ∧
      ys.length = xs.length ∧ ∀ k, ¬ cells ⟨t, k⟩ → ys[k]? = xs[k]?

/-- The pay changes only the selected entries of the hall shown. -/
def Solo.PayFramed (st : Solo) (pay : SeatVC.Payment) : Prop :=
  ∃ id, st.shown = some id ∧
    Framed st.stations (SeatVC.replaceBlock st.stations pay.written) id st.vc.Selected

/-- The document that is written has the four fields of a `Station` with its
own id, and it is the one shown or has the arrays already that the pay makes
of the hall shown. -/
def Solo.Fits (st : Solo) : Prop :=
  ∃ l : SeatLayout,
    st.stations stationDocument = some (Station.documentData ⟨l, stationDocument⟩) ∧
    (st.shown = some stationDocument ∨ ∀ s ∈ st.vc.stationArray.head?, ∀ p,
      l.cell? p = if st.vc.Sells p then some 1 else s.cell? p)

/-- A document with these four fields is the encoding of a station. -/
theorem eq_documentData {data : DocumentData} {s : Station}
    (hid : data "Staion_ID" = some (.string s.stationId))
    (hblock : ∀ t : ClassTitle, data t.key = some (.ints (s.block t)))
    (hother : ∀ key, key ≠ "Staion_ID" → (∀ t : ClassTitle, key ≠ t.key) → data key = none) :
    data = s.documentData := by
  funext key
  by_cases hkey : key = "Staion_ID"
  · rw [hkey, hid, Station.documentData_id]
  · by_cases ht : ∃ t : ClassTitle, key = t.key
    · obtain ⟨t, rfl⟩ := ht
      rw [hblock, Station.documentData_block]
    · have hne : ∀ t : ClassTitle, key ≠ t.key := fun t h => ht ⟨t, h⟩
      rw [hother key hkey hne, s.documentData_other hkey hne]

/-- Blocks with cells in the same range are of the same length. -/
theorem length_block_eq {l l' : SeatLayout} {t : ClassTitle}
    (h : ∀ k, (l.cell? ⟨t, k⟩).isSome ↔ (l'.cell? ⟨t, k⟩).isSome) :
    (l.block t).length = (l'.block t).length := by
  have hlt : ∀ k, k < (l.block t).length ↔ k < (l'.block t).length := by
    intro k
    simpa [SeatLayout.cell?] using h k
  have hle := (hlt (l'.block t).length).not.mpr (Nat.lt_irrefl _)
  have hge := (hlt (l.block t).length).not.mp (Nat.lt_irrefl _)
  omega

/-- A write that changes nothing is in every frame. -/
theorem Framed.refl {stations : Collection} {id : String} {data : DocumentData}
    (cells : IndexPath → Prop) (hdata : stations id = some data) (h : Solo.WellTyped data) :
    Framed stations stations id cells where
  documents _ _ := rfl
  document := ⟨data, data, hdata, hdata, fun _ _ => rfl, fun t => by
    obtain ⟨xs, hxs⟩ := h t
    exact ⟨xs, xs, hxs, hxs, rfl, fun _ _ => rfl⟩⟩

variable {s : Station} {sold : SeatLayout}

/-- The hall written is the hall shown: a pay sets the sold entries of a
document with the four fields. -/
theorem Solo.framed_shown (hreach : seatPage.Reachable st.vc)
    (hsold : st.vc.SoldFrom s sold) (hs : s.stationId = stationDocument)
    (hdoc : st.stations stationDocument = some s.documentData) :
    Framed st.stations (SeatVC.replaceBlock st.stations ⟨sold, stationDocument⟩)
      stationDocument st.vc.Selected where
  documents id' hid' := SeatVC.replaceBlock_ne _ _ hid'
  document := by
    refine ⟨_, _, hdoc, SeatVC.replaceBlock_self _ _, fun key hkey => ?_, fun t => ?_⟩
    · by_cases hid : key = "Staion_ID"
      · rw [hid, Station.documentData_id, Station.documentData_id, hs]
      · rw [Station.documentData_other _ hid hkey, Station.documentData_other _ hid hkey]
    · refine ⟨s.block t, sold.block t, s.documentData_block t, Station.documentData_block _ t,
        length_block_eq fun k => ?_, fun k hk => ?_⟩
      · rw [hsold.cell]
        split
        · rename_i hsells
          simp [hsold.inRange _ hsells]
        · exact Iff.rfl
      · have hkeep := hsold.cell ⟨t, k⟩
        rw [if_neg fun hsells => hk (selected_of_sells hreach hsells)] at hkeep
        exact hkeep

/-- If no more changes than the entries of the document written, it has the
four fields already. -/
theorem eq_documentData_of_framed {stations : Collection} {data : DocumentData}
    {cells : IndexPath → Prop} (hdata : stations stationDocument = some data)
    (hsame : ∀ t : ClassTitle, data t.key = some (.ints (s.block t)))
    (hframe : Framed stations (SeatVC.replaceBlock stations ⟨sold, stationDocument⟩)
      stationDocument cells) :
    data = Station.documentData ⟨s.toSeatLayout, stationDocument⟩ := by
  obtain ⟨_, _, hbefore, hafter, hfields, -⟩ := hframe.document
  obtain rfl := Option.some.inj (hdata.symm.trans hbefore)
  rw [SeatVC.replaceBlock_self] at hafter
  obtain rfl := Option.some.inj hafter
  refine eq_documentData ?_ hsame fun key hkey hne => ?_
  · rw [← hfields _ fun t => by cases t <;> decide]
    rfl
  · rw [← hfields _ hne, Station.documentData_other _ hkey hne]

/-- A station document says what its arrays are. -/
theorem layout_eq_of_documentData {l : SeatLayout} {id : String}
    (h : ∀ t : ClassTitle, Station.documentData ⟨l, id⟩ t.key = some (.ints (s.block t))) :
    l = s.toSeatLayout := by
  apply SeatLayout.ext_cell?
  intro p
  have hblock := h p.title
  rw [Station.documentData_block] at hblock
  have heq := Value.ints_injective (Option.some.inj hblock)
  unfold SeatLayout.cell?
  rw [← heq]

/-- Writing what is there changes nothing. -/
theorem replaceBlock_eq_self {stations : Collection}
    (hs : stations stationDocument = some s.documentData) :
    SeatVC.replaceBlock stations s = stations := by
  funext id
  by_cases hid : id = stationDocument
  · rw [hid, SeatVC.replaceBlock_self, hs]
  · exact SeatVC.replaceBlock_ne _ _ hid

/-- A pay changes only the selected entries of the hall shown precisely if the
document that is written fits. -/
theorem payFramed_iff_fits {pay : SeatVC.Payment} (h : solo.Reachable st)
    (hpay : st.vc.payButton = some pay) : st.PayFramed pay ↔ st.Fits := by
  have inv := solo_inv h
  obtain ⟨s, others, sold, -, harr, hsold, -, -, hwritten⟩ := SeatVC.payButton_spec hpay
  cases hshown : st.shown with
  | none =>
      rw [inv.unloaded hshown] at harr
      exact absurd harr (by simp)
  | some id =>
      obtain ⟨data, s', others', hdata, harr', hsame⟩ := inv.shown id hshown
      obtain ⟨rfl, -⟩ := List.cons.inj (harr'.symm.trans harr)
      unfold Solo.PayFramed Solo.Fits
      rw [hwritten, hshown]
      constructor
      · rintro ⟨_, hid', hframe⟩
        obtain rfl := Option.some.inj hid'
        by_cases hid : id = stationDocument
        · subst hid
          exact ⟨s'.toSeatLayout,
            by rw [hdata, eq_documentData_of_framed hdata (hsame rfl) hframe], .inl rfl⟩
        · -- the document written must not change at all
          have hkeep := hframe.documents stationDocument (Ne.symm hid)
          rw [SeatVC.replaceBlock_self] at hkeep
          refine ⟨sold, hkeep.symm, .inr fun s hs p => ?_⟩
          rw [harr] at hs
          obtain rfl := Option.some.inj hs
          exact hsold.cell p
      · rintro ⟨l, hdoc, hfits⟩
        refine ⟨id, rfl, ?_⟩
        by_cases hid : id = stationDocument
        · subst hid
          obtain rfl := Option.some.inj (hdata.symm.trans hdoc)
          obtain rfl := layout_eq_of_documentData (hsame rfl)
          exact Solo.framed_shown inv.screen (s := ⟨s'.toSeatLayout, stationDocument⟩)
            ⟨hsold.inRange, hsold.cell⟩ rfl hdoc
        · have hl : l = sold := by
            apply SeatLayout.ext_cell?
            intro p
            rcases hfits with heq | hcell
            · exact absurd (Option.some.inj heq) hid
            · rw [hcell s' (by rw [harr]; rfl) p, hsold.cell p]
          subst hl
          rw [replaceBlock_eq_self hdoc]
          exact Framed.refl _ hdata (inv.typed id data hdata)

/-- The stations arrive, the first seat is tapped and drawn, and a ticket
added. -/
def firstSeatBooked (docs : List (String × DocumentData)) : List SoloAction :=
  [.load docs, .ui (.didSelectItemAt ⟨.one, 0⟩), .ui (.cellForItemAt ⟨.one, 0⟩),
    .ui (.add .adult)]

theorem exists_solo_run {stations : Collection} {docs : List (String × DocumentData)}
    {P : Solo → Prop} (htyped : ∀ id data, stations id = some data → Solo.WellTyped data)
    (hlists : stations.Lists docs)
    (h : ∃ st ∈ Lts.runList Solo.next { stations := stations } (firstSeatBooked docs), P st) :
    ∃ st, solo.Reachable st ∧ P st := by
  have hinit : Solo.Opened { stations := stations } := ⟨htyped, rfl, rfl⟩
  obtain ⟨st, hrun, hP⟩ := Lts.exists_run_trace hinit h
  refine ⟨st, ⟨_, Lts.run_restrict_iff.mpr ⟨hrun, fun e he => ?_⟩⟩, hP⟩
  -- only the first action asks for anything
  unfold firstSeatBooked Lts.trace at he
  split at he
  · exact absurd he List.not_mem_nil
  · rcases List.mem_cons.mp he with rfl | he
    · exact hlists
    · have hact := Lts.act_mem_of_mem_trace he
      obtain ⟨pre, act, post⟩ := e
      cases act with
      | load docs => exact absurd hact (by simp)
      | ui a => trivial

theorem wellTyped_setData {stations : Collection} {id : String} {s : Station}
    (h : ∀ id data, stations id = some data → Solo.WellTyped data) :
    ∀ id' data, stations.setData id s.documentData id' = some data → Solo.WellTyped data := by
  intro id' data hdata
  by_cases hid : id' = id
  · subst hid
    rw [Collection.setData_self] at hdata
    obtain rfl := Option.some.inj hdata
    exact wellTyped_documentData _
  · rw [Collection.setData_ne _ _ hid] at hdata
    exact h id' data hdata

theorem wellTyped_oneHall (l : SeatLayout) :
    ∀ id data, oneHall l id = some data → Solo.WellTyped data :=
  wellTyped_setData fun _ _ h => absurd h (by simp)

theorem payFramed_oneHall : ∃ st pay, solo.Reachable st ∧ st.vc.payEnabled = true ∧
    st.vc.payButton = some pay ∧ pay.written.one = [1, 2] ∧ st.PayFramed pay := by
  obtain ⟨st, hreach, hstations, hshown, hon, pay, hpay, hone⟩ := exists_solo_run
    (P := fun st => st.stations = oneHall { one := [2, 2] } ∧ st.shown = some stationDocument ∧
      st.vc.payEnabled = true ∧ ∃ pay ∈ st.vc.payButton, pay.written.one = [1, 2])
    (wellTyped_oneHall _) (lists_oneHall { one := [2, 2] })
    ⟨_, rfl, rfl, rfl, by decide, by decide⟩
  refine ⟨st, pay, hreach, hon, hpay, hone, (payFramed_iff_fits hreach hpay).mpr ?_⟩
  exact ⟨{ one := [2, 2] }, by rw [hstations, oneHall, Collection.setData_self], .inl hshown⟩

/-- A hall with one seat in the document that is written, and another hall. -/
def twoHalls : Collection :=
  (oneHall { one := [2] }).setData "hall" (Station.documentData ⟨{ one := [2, 2] }, "hall"⟩)

/-- Shown the other hall, a pay overwrites the first one with it. -/
theorem payFramed_twoHalls : ∃ st pay, solo.Reachable st ∧ st.vc.payEnabled = true ∧
    st.vc.payButton = some pay ∧ st.shown = some "hall" ∧
    st.stations stationDocument =
      some (Station.documentData ⟨{ one := [2] }, stationDocument⟩) ∧
    SeatVC.replaceBlock st.stations pay.written stationDocument =
      some (Station.documentData ⟨{ one := [1, 2] }, stationDocument⟩) ∧
    ¬ st.PayFramed pay := by
  have hlists : twoHalls.Lists (("hall", _) :: oneHallDocs { one := [2] }) :=
    (lists_oneHall _).setData rfl _
  obtain ⟨st, hreach, hstations, hshown, hon, pay, hpay, hwritten⟩ := exists_solo_run
    (P := fun st => st.stations = twoHalls ∧ st.shown = some "hall" ∧
      st.vc.payEnabled = true ∧ ∃ pay ∈ st.vc.payButton,
        pay.written = ⟨{ one := [1, 2] }, stationDocument⟩)
    (wellTyped_setData (wellTyped_oneHall _)) hlists ⟨_, rfl, rfl, rfl, by decide, by decide⟩
  have hbefore : st.stations stationDocument =
      some (Station.documentData ⟨{ one := [2] }, stationDocument⟩) := by
    rw [hstations]
    rfl
  have hafter : SeatVC.replaceBlock st.stations pay.written stationDocument =
      some (Station.documentData ⟨{ one := [1, 2] }, stationDocument⟩) := by
    rw [SeatVC.replaceBlock_self, hwritten]
  refine ⟨st, pay, hreach, hon, hpay, hshown, hbefore, hafter, ?_⟩
  rintro ⟨id, hid, hframe⟩
  obtain rfl := Option.some.inj (hshown.symm.trans hid)
  have hsame := hframe.documents stationDocument (by decide)
  rw [hbefore, hafter] at hsame
  have hone := congrArg (Option.map fun data => Casts.snapshot.intsField data "one") hsame
  exact absurd hone (by decide)

end Takeit
