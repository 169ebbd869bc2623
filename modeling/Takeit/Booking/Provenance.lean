import Takeit.Booking.Frame

/-!
# Where a stored hall comes from

Clients, each of them one booking screen, read halls, sell seats of them and write them
back, in any order and over each other. Sales get lost on the way and seats are sold
twice, but nothing is made up: a stored hall is one that was there at the start, with
seats set to sold that a pay of the run sold (`hall_provenance`). No client forgets a
sale of its own (`own_sales_written`), so that it takes two that pay to free a seat
(`sole_payer_keeps`).
-/

namespace Takeit

open Takeit.Logic Takeit.Firestore

variable {ι : Type} [DecidableEq ι]

/-! ## Steps -/

/-- Every way a step can go, seen from the halls the clients have in memory. -/
inductive HallStep (w : World ι) : WorldAction ι → World ι → Prop
  | served {c docs} : (w.clients c).vc.stationsAwaited = true → w.stations.Lists docs →
      HallStep w (.serve c docs)
        (w.setClient c { w.clients c with reply := some (docs.map Prod.snd) })
  | delivered {c documents shown others cl} : (w.clients c).reply = some documents →
      (w.clients c).vc.stationsAwaited = true →
      documents.map Station.ofDocumentData = shown :: others →
      cl.vc.stationArray = shown :: others → cl.vc.stationsAwaited = false →
      cl.reply = none → cl.outbox = (w.clients c).outbox →
      HallStep w (.deliver c) (w.setClient c cl)
  | idle {a c cl} : soldBy w a = none → cl.vc.stationArray = (w.clients c).vc.stationArray →
      (cl.vc.stationsAwaited = true → (w.clients c).vc.stationsAwaited = true) →
      (∀ docs ∈ cl.reply, (w.clients c).reply = some docs) →
      cl.outbox = (w.clients c).outbox → HallStep w a (w.setClient c cl)
  | paid {c cl shown others sold} : (w.clients c).vc.stationArray = shown :: others →
      (w.clients c).vc.SoldFrom shown sold →
      cl.vc.stationArray = { shown with toSeatLayout := sold } :: others →
      cl.vc.stationsAwaited = (w.clients c).vc.stationsAwaited →
      cl.reply = (w.clients c).reply →
      cl.outbox = (w.clients c).outbox ++ [⟨sold, stationDocument⟩] →
      HallStep w (.ui c .payButton) (w.setClient c cl)
  | applied {c s rest} : (w.clients c).outbox = s :: rest →
      HallStep w (.apply c) { w.setClient c { w.clients c with outbox := rest } with
        stations := SeatVC.replaceBlock w.stations s }

/-- Nothing makes a screen wait for the stations again. -/
theorem SeatStep.stationsAwaited {vc t : SeatVC} {a : SeatAction} (h : SeatStep vc a t)
    (ht : t.stationsAwaited = true) : vc.stationsAwaited = true := by
  cases h with
  | stationsFailed | stationsShown => exact absurd ht (by simp)
  | tapFree => rwa [SeatVC.stationsAwaited_tapFree] at ht
  | tapSelected => rwa [SeatVC.stationsAwaited_tapSelected] at ht
  | _ => exact ht

variable {w w' : World ι} {a : WorldAction ι} {es : List (Edge (World ι) (WorldAction ι))}

theorem hallStep_ui {c : ι} {cl : Client} {action : SeatAction}
    (h : (w.clients c).ui action = some cl) : HallStep w (.ui c action) (w.setClient c cl) := by
  unfold Client.ui at h
  split at h
  · exact absurd h (by simp)
  · obtain ⟨-, hmap⟩ := Option.ite_none_right_eq_some.mp h
    obtain ⟨pay, hpay, rfl⟩ := Option.map_eq_some_iff.mp hmap
    obtain ⟨shown, others, sold, -, harr, hsold, hvc, -, hwritten⟩ := SeatVC.payButton_spec hpay
    refine .paid harr hsold ?_ ?_ rfl ?_
    · show pay.vc.stationArray = _
      rw [hvc]
      rfl
    · show pay.vc.stationsAwaited = _
      rw [hvc]
    · rw [hwritten]
  · rename_i hload hpay
    obtain ⟨vc, hvc, rfl⟩ := Option.map_eq_some_iff.mp h
    have hstep := seatStep_of_next hvc
    refine .idle ?_ (hstep.stationArray (fun documents heq => hload _ heq) hpay)
      hstep.stationsAwaited (fun docs hdocs => hdocs) rfl
    unfold soldBy
    split
    · rename_i heq
      simp only [WorldAction.ui.injEq] at heq
      exact absurd heq.2 hpay
    · rfl

theorem hallStep_of_step (h : (world ι).step w a w') : HallStep w a w' := by
  obtain ⟨hnext, hpermits⟩ := h
  replace hnext : w.next a = some w' := hnext
  cases a with
  | serve c docs =>
      obtain rfl := Option.some.inj hnext
      exact .served hpermits.1 hpermits.2
  | deliver c =>
      obtain ⟨cl, hcl, rfl⟩ := Option.map_eq_some_iff.mp hnext
      simp only [Client.deliver, Option.bind_eq_bind, Option.bind_eq_some_iff] at hcl
      obtain ⟨documents, hreply, vc, hvc, hcl⟩ := hcl
      obtain rfl := Option.some.inj hcl
      cases seatStep_of_next hvc with
      | stationsShown hawaited hdocs => exact .delivered hreply hawaited hdocs rfl rfl rfl rfl
  | failed c =>
      obtain ⟨cl, hcl, rfl⟩ := Option.map_eq_some_iff.mp hnext
      simp only [Client.failed, Option.bind_eq_bind, Option.bind_eq_some_iff] at hcl
      obtain ⟨vc, hvc, hcl⟩ := hcl
      obtain rfl := Option.some.inj hcl
      cases seatStep_of_next hvc with
      | stationsFailed hawaited =>
          exact .idle rfl rfl (fun h => absurd h (by simp))
            (fun _ hdocs => absurd hdocs (by simp)) rfl
  | ui c action =>
      obtain ⟨cl, hcl, rfl⟩ := Option.map_eq_some_iff.mp hnext
      exact hallStep_ui hcl
  | apply c =>
      simp only [World.next] at hnext
      split at hnext
      · exact absurd hnext (by simp)
      · rename_i s rest houtbox
        obtain rfl := Option.some.inj hnext
        exact .applied houtbox

/-! ## Nothing is made up -/

/-- The hall is on its way to the client, in its memory or on its way back. -/
inductive Client.Holds (cl : Client) : SeatLayout → Prop
  | replied {docs data} : cl.reply = some docs → data ∈ docs →
      cl.Holds (Station.ofDocumentData data).toSeatLayout
  | shown {s} : s ∈ cl.vc.stationArray → cl.Holds s.toSeatLayout
  | written {s} : s ∈ cl.outbox → cl.Holds s.toSeatLayout

/-- The hall is stored, or with a client. -/
inductive World.Holds (w : World ι) : SeatLayout → Prop
  | stored {id data} : w.stations id = some data →
      w.Holds (Station.ofDocumentData data).toSeatLayout
  | client {c l} : (w.clients c).Holds l → w.Holds l

variable {c : ι} {cl : Client} {l : SeatLayout}

theorem World.Holds.of_setClient (h : (w.setClient c cl).Holds l) : w.Holds l ∨ cl.Holds l := by
  cases h with
  | stored hdata => exact .inl (.stored hdata)
  | @client d _ h =>
      by_cases hd : d = c
      · subst hd
        rw [clients_setClient_self] at h
        exact .inr h
      · rw [clients_setClient_ne _ _ _ hd] at h
        exact .inl (.client h)

/-- A hall that comes to be held is what a pay makes of one that was held. -/
theorem HallStep.holds (h : HallStep w a w') (hl : w'.Holds l) :
    w.Holds l ∨ ∃ c shown, a = .ui c .payButton ∧ w.Holds (Station.toSeatLayout shown) ∧
      (w.clients c).vc.SoldFrom shown l := by
  cases h with
  | @served c docs _ hlists =>
      left
      rcases hl.of_setClient with hl | hl
      · exact hl
      · cases hl with
        | replied hreply hdata =>
            obtain rfl := Option.some.inj hreply
            obtain ⟨⟨id, data⟩, hmem, rfl⟩ := List.mem_map.mp hdata
            exact .stored ((hlists.mem_iff id data).mp hmem)
        | shown hs => exact .client (.shown hs)
        | written hs => exact .client (.written hs)
  | @delivered c documents shown others cl hreply _ hdocs harr _ hnone houtbox =>
      left
      rcases hl.of_setClient with hl | hl
      · exact hl
      · cases hl with
        | replied hreply' _ => exact absurd (hnone.symm.trans hreply') (by simp)
        | shown hs =>
            rw [harr, ← hdocs] at hs
            obtain ⟨data, hdata, rfl⟩ := List.mem_map.mp hs
            exact .client (.replied hreply hdata)
        | written hs => exact .client (.written (houtbox ▸ hs))
  | @idle a c cl _ harr _ hreply houtbox =>
      left
      rcases hl.of_setClient with hl | hl
      · exact hl
      · cases hl with
        | replied hreply' hdata => exact .client (.replied (hreply _ hreply') hdata)
        | shown hs => exact .client (.shown (harr ▸ hs))
        | written hs => exact .client (.written (houtbox ▸ hs))
  | @paid c cl shown others sold harr hsold harr' _ hreply houtbox =>
      have hshown : (w.clients c).Holds shown.toSeatLayout :=
        .shown (by rw [harr]; exact List.mem_cons_self)
      have hpaid : ∃ c' shown, WorldAction.ui c .payButton = .ui c' .payButton ∧
          w.Holds (Station.toSeatLayout shown) ∧ (w.clients c').vc.SoldFrom shown sold :=
        ⟨c, shown, rfl, .client hshown, hsold⟩
      rcases hl.of_setClient with hl | hl
      · exact .inl hl
      · cases hl with
        | replied hreply' hdata => exact .inl (.client (.replied (hreply ▸ hreply') hdata))
        | shown hs =>
            rw [harr'] at hs
            rcases List.mem_cons.mp hs with rfl | hs
            · exact .inr hpaid
            · exact .inl (.client (.shown (harr ▸ List.mem_cons_of_mem _ hs)))
        | written hs =>
            rw [houtbox] at hs
            rcases List.mem_append.mp hs with hs | hs
            · exact .inl (.client (.written hs))
            · obtain rfl := List.mem_singleton.mp hs
              exact .inr hpaid
  | @applied c s rest houtbox =>
      left
      have hfirst : (w.clients c).Holds s.toSeatLayout :=
        .written (by rw [houtbox]; exact List.mem_cons_self)
      cases hl with
      | @stored id data hdata =>
          replace hdata : SeatVC.replaceBlock w.stations s id = some data := hdata
          by_cases hid : id = stationDocument
          · subst hid
            rw [SeatVC.replaceBlock_self] at hdata
            obtain rfl := Option.some.inj hdata
            rw [Station.ofDocumentData_documentData]
            exact .client hfirst
          · rw [SeatVC.replaceBlock_ne _ _ hid] at hdata
            exact .stored hdata
      | @client d _ hl =>
          have hafter : (w.setClient c { w.clients c with outbox := rest }).Holds l := .client hl
          rcases hafter.of_setClient with hl | hl
          · exact hl
          · cases hl with
            | replied hreply hdata => exact .client (.replied hreply hdata)
            | shown hs => exact .client (.shown hs)
            | written hs =>
                have hmem := List.mem_cons_of_mem s hs
                rw [← houtbox] at hmem
                exact .client (.written hmem)

/-- `l` is the hall `l₀` with seats set to sold, each of which a pay of the run
sold. -/
def SoldDuring (es : List (Edge (World ι) (WorldAction ι))) (l₀ l : SeatLayout) : Prop :=
  ∀ p, l.cell? p = l₀.cell? p ∨
    l.cell? p = some 1 ∧ (l₀.cell? p).isSome ∧ ∃ sale ∈ sales es, p ∈ sale.goods

omit [DecidableEq ι] in
theorem mem_sales_step {e : Edge (World ι) (WorldAction ι)} {sale : Sale ι IndexPath} :
    sale ∈ sales (es ++ [e]) ↔ sale ∈ sales es ∨ soldBy e.pre e.act = some sale := by
  rw [sales, Lts.labels_step, List.mem_append, Option.mem_toList]

omit [DecidableEq ι] in
theorem SoldDuring.step {l₀ : SeatLayout} (h : SoldDuring es l₀ l)
    (e : Edge (World ι) (WorldAction ι)) : SoldDuring (es ++ [e]) l₀ l := by
  intro p
  rcases h p with hp | ⟨hp, hrange, sale, hsale, hgoods⟩
  · exact .inl hp
  · exact .inr ⟨hp, hrange, sale, mem_sales_step.mpr (.inl hsale), hgoods⟩

omit [DecidableEq ι] in
/-- A pay sells on. -/
theorem SoldDuring.pay {l₀ : SeatLayout} {shown : Station} (h : SoldDuring es l₀ shown.toSeatLayout)
    (hsold : (w.clients c).vc.SoldFrom shown l) :
    SoldDuring (es ++ [⟨w, .ui c .payButton, w'⟩]) l₀ l := by
  intro p
  by_cases hp : (w.clients c).vc.Sells p
  · right
    refine ⟨by rw [hsold.cell, if_pos hp], ?_, _, mem_sales_step.mpr (.inr rfl), hp⟩
    have hrange := hsold.inRange p hp
    rcases h p with hsame | ⟨-, hrange₀, -⟩
    · rwa [hsame] at hrange
    · exact hrange₀
  · have hcell := hsold.cell p
    rw [if_neg hp] at hcell
    rw [hcell]
    exact h.step _ p

/-- Every hall that is held is a stored one of the start, sold on. -/
theorem holds_of_run (h : (world ι).Run es w) (hl : w.Holds l) :
    ∃ id₀ data₀, (Lts.origin es w).stations id₀ = some data₀ ∧
      SoldDuring es (Station.ofDocumentData data₀).toSeatLayout l := by
  induction h generalizing l with
  | @start w hopened =>
      cases hl with
      | @stored id data hdata => exact ⟨id, data, hdata, fun p => .inl rfl⟩
      | @client c _ hl =>
          -- the screens have just been loaded
          rw [hopened c] at hl
          cases hl with
          | replied hreply _ => exact absurd hreply (by simp)
          | shown hs => exact absurd hs List.not_mem_nil
          | written hs => exact absurd hs List.not_mem_nil
  | @step es w a w' hrun hst ih =>
      rw [Lts.origin_step]
      rcases (hallStep_of_step hst).holds hl with hl | ⟨c, shown, rfl, hshown, hsold⟩
      · obtain ⟨id₀, data₀, hdata₀, hfrom⟩ := ih hl
        exact ⟨id₀, data₀, hdata₀, hfrom.step _⟩
      · obtain ⟨id₀, data₀, hdata₀, hfrom⟩ := ih hshown
        exact ⟨id₀, data₀, hdata₀, hfrom.pay hsold⟩

/-- Only one document is ever written. -/
theorem stations_of_run (h : (world ι).Run es w) {id : String} (hid : id ≠ stationDocument) :
    w.stations id = (Lts.origin es w).stations id := by
  induction h with
  | start _ => rfl
  | @step es w a w' hrun hst ih =>
      rw [Lts.origin_step, ← ih]
      cases hallStep_of_step hst with
      | applied _ => exact SeatVC.replaceBlock_ne _ _ hid
      | _ => rfl

/-- In every run of any number of clients a stored hall is one that was stored at
the start with some seats set to sold, each of which a pay of the run sold; and all
documents but one are as they were. -/
theorem hall_provenance (h : (world ι).Run es w) :
    (∀ id data, w.stations id = some data →
      ∃ id₀ data₀, (Lts.origin es w).stations id₀ = some data₀ ∧
        SoldDuring es (Station.ofDocumentData data₀).toSeatLayout
          (Station.ofDocumentData data).toSeatLayout) ∧
    ∀ id, id ≠ stationDocument → w.stations id = (Lts.origin es w).stations id :=
  ⟨fun _ _ hdata => holds_of_run h (.stored hdata), fun _ hid => stations_of_run h hid⟩

/-- One of two clients books the first seat, and the write is applied. -/
def firstSeatWritten : List (WorldAction Bool) :=
  bookSeat true 0 ++ [.ui true .payButton, .apply true]

theorem run_firstSeatWritten : ∃ w, (world Bool).Run (Lts.trace World.next
    (twoClients { one := [2, 2] }) (bothServed { one := [2, 2] } ++ firstSeatWritten)) w ∧
    w.Sold ⟨.one, 0⟩ :=
  exists_bothServed_run { one := [2, 2] } firstSeatWritten
    (P := fun w => stationCell w.stations ⟨.one, 0⟩ = some 1)
    (by simp [firstSeatWritten, bookSeat]) (by decide)

theorem hall_provenance_firstSeat : ∃ es w, (world Bool).Run es w ∧ w.Sold ⟨.one, 0⟩ ∧
    ∀ id data, w.stations id = some data →
      ∃ id₀ data₀, (Lts.origin es w).stations id₀ = some data₀ ∧
        SoldDuring es (Station.ofDocumentData data₀).toSeatLayout
          (Station.ofDocumentData data).toSeatLayout := by
  obtain ⟨w, hrun, hsold⟩ := run_firstSeatWritten
  exact ⟨_, w, hrun, hsold, (hall_provenance hrun).1⟩

/-! ## No client forgets a sale of its own -/

/-- What the client has sold is sold in its memory, and a client that waits for the
stations has none. -/
structure World.Remembers (es : List (Edge (World ι) (WorldAction ι))) (w : World ι) (c : ι) :
    Prop where
  waiting : (w.clients c).vc.stationsAwaited = true → (w.clients c).vc.stationArray = []
  sold : ∀ sale ∈ sales es, sale.buyer = c → ∀ p ∈ sale.goods,
    ∃ shown ∈ (w.clients c).vc.stationArray.head?, shown.cell? p = some 1

omit [DecidableEq ι] in
/-- A step that is no pay of the client, and leaves its stations. -/
theorem World.Remembers.congr {e : Edge (World ι) (WorldAction ι)} (h : w.Remembers es c)
    (hsale : ∀ sale, soldBy e.pre e.act = some sale → sale.buyer ≠ c)
    (harr : (w'.clients c).vc.stationArray = (w.clients c).vc.stationArray)
    (hwait : (w'.clients c).vc.stationsAwaited = true → (w.clients c).vc.stationsAwaited = true) :
    w'.Remembers (es ++ [e]) c where
  waiting hawaited := harr.trans (h.waiting (hwait hawaited))
  sold sale hmem hbuyer p hp := by
    rw [harr]
    rcases mem_sales_step.mp hmem with hmem | hlast
    · exact h.sold sale hmem hbuyer p hp
    · exact absurd hbuyer (hsale sale hlast)

theorem vc_setClient {d : ι} (h : cl.vc = (w.clients d).vc) :
    ((w.setClient d cl).clients c).vc = (w.clients c).vc := by
  by_cases hd : d = c
  · subst hd
    rw [clients_setClient_self, h]
  · rw [clients_setClient_ne _ _ _ (Ne.symm hd)]

/-- A step of another client. -/
theorem World.Remembers.setClient_ne {d : ι} {e : Edge (World ι) (WorldAction ι)}
    (h : w.Remembers es c) (hd : d ≠ c)
    (hsale : ∀ sale, soldBy e.pre e.act = some sale → sale.buyer ≠ c) :
    (w.setClient d cl).Remembers (es ++ [e]) c := by
  have hsame : (w.setClient d cl).clients c = w.clients c := clients_setClient_ne _ _ _ (Ne.symm hd)
  exact h.congr hsale (by rw [hsame]) (by rw [hsame]; exact id)

theorem remembers_of_run (h : (world ι).Run es w) (c : ι) : w.Remembers es c := by
  induction h with
  | @start w hopened =>
      have hfresh : w.clients c = {} := hopened c
      refine ⟨fun _ => by rw [hfresh]; rfl, fun sale hmem => absurd hmem List.not_mem_nil⟩
  | @step es w a w' hrun hst ih =>
      cases hallStep_of_step hst with
      | @served d docs _ _ =>
          have hvc : ((w.setClient d { w.clients d with
              reply := some (docs.map Prod.snd) }).clients c).vc = (w.clients c).vc :=
            vc_setClient rfl
          exact ih.congr (fun _ hsale => absurd hsale (by simp [soldBy])) (by rw [hvc])
            (by rw [hvc]; exact id)
      | @delivered d documents shown others cl _ hawaited _ _ hwait _ _ =>
          by_cases hd : d = c
          · subst hd
            -- it has not sold anything yet
            have hnone := ih.waiting hawaited
            refine ⟨fun h => ?_, fun sale hmem hbuyer p hp => ?_⟩
            · rw [clients_setClient_self, hwait] at h
              exact absurd h (by simp)
            · have hbefore : sale ∈ sales es := by
                rcases mem_sales_step.mp hmem with hmem | hlast
                · exact hmem
                · exact absurd hlast (by simp [soldBy])
              obtain ⟨shown, hshown, -⟩ := ih.sold sale hbefore hbuyer p hp
              rw [hnone] at hshown
              exact absurd hshown (by simp)
          · exact ih.setClient_ne hd fun _ hsale => absurd hsale (by simp [soldBy])
      | @idle a d cl hsold harr hwait _ _ =>
          have hnone : ∀ sale, soldBy w a = some sale → sale.buyer ≠ c :=
            fun sale hsale => absurd (hsold.symm.trans hsale) (by simp)
          by_cases hd : d = c
          · subst hd
            refine ih.congr hnone ?_ ?_
            · rw [clients_setClient_self, harr]
            · rw [clients_setClient_self]
              exact hwait
          · exact ih.setClient_ne hd hnone
      | @paid d cl shown others sold harr hsold harr' hwait _ _ =>
          by_cases hd : d = c
          · subst hd
            refine ⟨fun h => ?_, fun sale hmem hbuyer p hp => ?_⟩
            · rw [clients_setClient_self, hwait] at h
              exact absurd (harr.symm.trans (ih.waiting h)) (by simp)
            · rw [clients_setClient_self, harr']
              refine ⟨_, rfl, ?_⟩
              rcases mem_sales_step.mp hmem with hmem | hlast
              · obtain ⟨shown', hshown, hcell⟩ := ih.sold sale hmem hbuyer p hp
                rw [harr] at hshown
                obtain rfl := Option.some.inj hshown
                exact hsold.keeps hcell
              · obtain rfl := Option.some.inj hlast
                exact (hsold.cell p).trans (if_pos hp)
          · refine ih.setClient_ne hd fun sale hsale => ?_
            obtain rfl := Option.some.inj hsale
            exact hd
      | @applied d s rest _ =>
          have hvc : ((w.setClient d { w.clients d with outbox := rest }).clients c).vc =
              (w.clients c).vc := vc_setClient rfl
          exact ih.congr (fun _ hsale => absurd hsale (by simp [soldBy]))
            (congrArg (·.stationArray) hvc)
            (fun h => (congrArg (·.stationsAwaited) hvc).symm.trans h)

/-- Whatever the others write in the meantime, a pay writes all seats as sold that
its client has sold so far. -/
theorem own_sales_written {pay : SeatVC.Payment} (h : (world ι).Run es w)
    (hpay : (w.clients c).vc.payButton = some pay) :
    ∀ sale ∈ sales es, sale.buyer = c → ∀ p ∈ sale.goods, pay.written.cell? p = some 1 := by
  intro sale hmem hbuyer p hp
  obtain ⟨shown, hshown, hcell⟩ := (remembers_of_run h c).sold sale hmem hbuyer p hp
  obtain ⟨shown', others, sold, -, harr, hsold, -, -, hwritten⟩ := SeatVC.payButton_spec hpay
  rw [harr] at hshown
  obtain rfl := Option.some.inj hshown
  rw [hwritten]
  exact hsold.keeps hcell

/-- One client sells the first of three seats. The other, which has read the empty hall,
sells the last and so frees the first again. Then the one gives back its seat, and takes
the second. -/
def freedBetween : List (WorldAction Bool) :=
  bookSeat true 0 ++ [.ui true .payButton, .apply true] ++ bookSeat false 2 ++
    [.ui false .payButton, .apply false, .ui true (.didSelectItemAt ⟨.one, 0⟩)] ++ bookSeat true 1

/-- What it pays for next is written with both of its seats. -/
theorem own_sales_written_secondSeat : ∃ es w pay, (world Bool).Run es w ∧
    (w.clients true).vc.payButton = some pay ∧ (sales es).map Sale.buyer = [true, false] ∧
    stationCell w.stations ⟨.one, 0⟩ = some 2 ∧ pay.written.one = [1, 1, 2] ∧
    ∀ sale ∈ sales es, sale.buyer = true → ∀ p ∈ sale.goods, pay.written.cell? p = some 1 := by
  obtain ⟨w, hrun, hfreed, pay, hpay, hwritten⟩ := exists_bothServed_run { one := [2, 2, 2] }
    freedBetween (P := fun w => stationCell w.stations ⟨.one, 0⟩ = some 2 ∧
      ∃ pay ∈ (w.clients true).vc.payButton, pay.written.one = [1, 1, 2])
    (by simp [freedBetween, bookSeat]) (by decide)
  exact ⟨_, w, pay, hrun, hpay, by decide +kernel, hfreed, hwritten, own_sales_written hrun hpay⟩

/-! ## One client that pays -/

/-- Only `c` has writes on their way. What the document has sold is sold in all of
them, in the hall `c` waits for and in the one it has in memory, and what a write
has sold is sold in the later ones and in that hall. -/
structure World.Sole (w : World ι) (c : ι) : Prop where
  alone : ∀ d, d ≠ c → (w.clients d).outbox = []
  one : ∀ id, id ≠ stationDocument → w.stations id = none
  waiting : (w.clients c).vc.stationsAwaited = true →
    (w.clients c).vc.stationArray = [] ∧ (w.clients c).outbox = []
  replied : (w.clients c).vc.stationsAwaited = true → ∀ docs ∈ (w.clients c).reply,
    ∀ data ∈ docs, ∀ p, w.Sold p → (Station.ofDocumentData data).cell? p = some 1
  shown : ∀ s ∈ (w.clients c).vc.stationArray.head?, (∀ p, w.Sold p → s.cell? p = some 1) ∧
    ∀ s' ∈ (w.clients c).outbox, s'.SoldWithin s.toSeatLayout
  document : ∀ s ∈ (w.clients c).outbox, ∀ p, w.Sold p → s.cell? p = some 1
  outbox : (w.clients c).outbox.Pairwise fun s s' => s.SoldWithin s'.toSeatLayout

/-- A step of another client, that puts no write on its way. -/
theorem World.Sole.setClient_ne {d : ι} (h : w.Sole c) (hd : d ≠ c)
    (houtbox : cl.outbox = (w.clients d).outbox) : (w.setClient d cl).Sole c := by
  have hsame : (w.setClient d cl).clients c = w.clients c := clients_setClient_ne _ _ _ (Ne.symm hd)
  exact {
    alone := fun d' hd' => by rw [outbox_setClient houtbox]; exact h.alone d' hd'
    one := h.one
    waiting := by rw [hsame]; exact h.waiting
    replied := by rw [hsame]; exact h.replied
    shown := by rw [hsame]; exact h.shown
    document := by rw [hsame]; exact h.document
    outbox := by rw [hsame]; exact h.outbox }

/-- The client itself changes, and neither its stations nor its writes do. -/
theorem World.Sole.setClient_self (h : w.Sole c)
    (harr : cl.vc.stationArray = (w.clients c).vc.stationArray)
    (houtbox : cl.outbox = (w.clients c).outbox)
    (hwait : cl.vc.stationsAwaited = true → (w.clients c).vc.stationsAwaited = true)
    (hreply : cl.vc.stationsAwaited = true → ∀ docs ∈ cl.reply, ∀ data ∈ docs, ∀ p, w.Sold p →
      (Station.ofDocumentData data).cell? p = some 1) : (w.setClient c cl).Sole c where
  alone d hd := by
    rw [outbox_setClient houtbox]
    exact h.alone d hd
  one := h.one
  waiting := by
    rw [clients_setClient_self, harr, houtbox]
    exact fun hawaited => h.waiting (hwait hawaited)
  replied := by
    rw [clients_setClient_self]
    exact hreply
  shown := by
    rw [clients_setClient_self, harr, houtbox]
    exact h.shown
  document := by
    rw [clients_setClient_self, houtbox]
    exact h.document
  outbox := by
    rw [clients_setClient_self, houtbox]
    exact h.outbox

/-- The hall the client has waited for arrives. -/
theorem World.Sole.delivered {documents : List DocumentData} {first : Station}
    {others : List Station} (h : w.Sole c) (hreply : (w.clients c).reply = some documents)
    (hawaited : (w.clients c).vc.stationsAwaited = true)
    (hdocs : documents.map Station.ofDocumentData = first :: others)
    (harr : cl.vc.stationArray = first :: others) (hwait : cl.vc.stationsAwaited = false)
    (houtbox : cl.outbox = (w.clients c).outbox) : (w.setClient c cl).Sole c := by
  obtain ⟨-, hnone⟩ := h.waiting hawaited
  have hempty : cl.outbox = [] := houtbox.trans hnone
  refine ⟨fun d hd => ?_, h.one, ?_, ?_, ?_, ?_, ?_⟩
  · rw [outbox_setClient houtbox]
    exact h.alone d hd
  all_goals rw [clients_setClient_self]
  · exact fun hawaited' => absurd (hwait.symm.trans hawaited') (by simp)
  · exact fun hawaited' => absurd (hwait.symm.trans hawaited') (by simp)
  · intro s hs
    rw [harr] at hs
    obtain rfl := Option.some.inj hs
    have hfirst : first ∈ documents.map Station.ofDocumentData := by
      rw [hdocs]
      exact List.mem_cons_self
    obtain ⟨data, hdata, rfl⟩ := List.mem_map.mp hfirst
    refine ⟨fun p hp => h.replied hawaited documents hreply data hdata p hp, fun s' hs' => ?_⟩
    rw [hempty] at hs'
    exact absurd hs' List.not_mem_nil
  · intro s hs
    rw [hempty] at hs
    exact absurd hs List.not_mem_nil
  · rw [hempty]
    exact List.Pairwise.nil

theorem World.Sole.paid {first : Station} {others : List Station} {sold : SeatLayout}
    (h : w.Sole c) (harr : (w.clients c).vc.stationArray = first :: others)
    (hsold : (w.clients c).vc.SoldFrom first sold)
    (harr' : cl.vc.stationArray = { first with toSeatLayout := sold } :: others)
    (hwait : cl.vc.stationsAwaited = (w.clients c).vc.stationsAwaited)
    (houtbox : cl.outbox = (w.clients c).outbox ++ [⟨sold, stationDocument⟩]) :
    (w.setClient c cl).Sole c := by
  obtain ⟨hdocument, hwritten⟩ := h.shown first (by rw [harr]; rfl)
  have hloaded : cl.vc.stationsAwaited ≠ true := by
    rw [hwait]
    intro hawaited
    exact absurd ((h.waiting hawaited).1.symm.trans harr) (by simp)
  have hlater : ∀ s ∈ (w.clients c).outbox, s.SoldWithin sold :=
    fun s hs p hp => hsold.keeps (hwritten s hs p hp)
  refine ⟨fun d hd => ?_, h.one, ?_, ?_, ?_, ?_, ?_⟩
  · rw [clients_setClient_ne _ _ _ hd]
    exact h.alone d hd
  all_goals rw [clients_setClient_self]
  · exact fun hawaited => absurd hawaited hloaded
  · exact fun hawaited => absurd hawaited hloaded
  · intro s hs
    rw [harr'] at hs
    obtain rfl := Option.some.inj hs
    refine ⟨fun p hp => hsold.keeps (hdocument p hp), fun s' hs' => ?_⟩
    rw [houtbox] at hs'
    rcases List.mem_append.mp hs' with hs' | hs'
    · exact hlater s' hs'
    · obtain rfl := List.mem_singleton.mp hs'
      exact fun p hp => hp
  · intro s hs p hp
    rw [houtbox] at hs
    rcases List.mem_append.mp hs with hs | hs
    · exact h.document s hs p hp
    · obtain rfl := List.mem_singleton.mp hs
      exact hsold.keeps (hdocument p hp)
  · rw [houtbox, List.pairwise_append]
    refine ⟨h.outbox, List.pairwise_singleton _ _, fun s hs s' hs' => ?_⟩
    obtain rfl := List.mem_singleton.mp hs'
    exact hlater s hs

theorem World.Sole.applied {s : Station} {rest : List Station} (h : w.Sole c)
    (houtbox : (w.clients c).outbox = s :: rest) :
    World.Sole { w.setClient c { w.clients c with outbox := rest } with
      stations := SeatVC.replaceBlock w.stations s } c := by
  have hpair := h.outbox
  rw [houtbox, List.pairwise_cons] at hpair
  have hmem : ∀ s' ∈ rest, s' ∈ (w.clients c).outbox := by
    intro s' hs'
    rw [houtbox]
    exact List.mem_cons_of_mem s hs'
  have hloaded : (w.clients c).vc.stationsAwaited ≠ true := by
    intro hawaited
    exact absurd ((h.waiting hawaited).2.symm.trans houtbox) (by simp)
  have hsold : ∀ p, World.Sold { w.setClient c { w.clients c with outbox := rest } with
      stations := SeatVC.replaceBlock w.stations s } p → s.cell? p = some 1 := by
    intro p hp
    rwa [World.Sold, stationCell_replaceBlock] at hp
  have hself : (w.setClient c { w.clients c with outbox := rest }).clients c =
      { w.clients c with outbox := rest } := clients_setClient_self _ _ _
  refine ⟨fun d hd => ?_, fun id hid => ?_, ?_, ?_, ?_, ?_, ?_⟩
  · show ((w.setClient c _).clients d).outbox = []
    rw [clients_setClient_ne _ _ _ hd]
    exact h.alone d hd
  · show SeatVC.replaceBlock w.stations s id = none
    rw [SeatVC.replaceBlock_ne _ _ hid]
    exact h.one id hid
  all_goals
    simp only [hself]
  · exact fun hawaited => absurd hawaited hloaded
  · exact fun hawaited => absurd hawaited hloaded
  · intro first hfirst
    obtain ⟨-, hwritten⟩ := h.shown first hfirst
    refine ⟨fun p hp => ?_, fun s' hs' => hwritten s' (hmem s' hs')⟩
    exact hwritten s (by rw [houtbox]; exact List.mem_cons_self) p (hsold p hp)
  · exact fun s' hs' p hp => hpair.1 s' hs' p (hsold p hp)
  · exact hpair.2

theorem HallStep.sole (h : HallStep w a w') (hsale : ∀ sale ∈ soldBy w a, sale.buyer = c)
    (hsole : w.Sole c) : w'.Sole c ∧ ∀ p, w.Sold p → w'.Sold p := by
  cases h with
  | @served d docs hawaited hlists =>
      refine ⟨?_, fun _ hp => hp⟩
      by_cases hd : d = c
      · subst hd
        refine hsole.setClient_self rfl rfl id ?_
        intro _ documents hdocuments data hdata p hp
        obtain rfl := Option.some.inj hdocuments
        obtain ⟨⟨id, data⟩, hmem, rfl⟩ := List.mem_map.mp hdata
        have hstored := (hlists.mem_iff id data).mp hmem
        have hid : id = stationDocument := by
          by_contra hne
          rw [hsole.one id hne] at hstored
          exact absurd hstored (by simp)
        rw [World.Sold, stationCell, ← hid, hstored] at hp
        exact hp
      · exact hsole.setClient_ne hd rfl
  | @delivered d documents first others cl hreply hawaited hdocs harr hwait _ houtbox =>
      refine ⟨?_, fun _ hp => hp⟩
      by_cases hd : d = c
      · subst hd
        exact hsole.delivered hreply hawaited hdocs harr hwait houtbox
      · exact hsole.setClient_ne hd houtbox
  | @idle a d cl _ harr hwait hreply houtbox =>
      refine ⟨?_, fun _ hp => hp⟩
      by_cases hd : d = c
      · subst hd
        exact hsole.setClient_self harr houtbox hwait fun hawaited docs hdocs =>
          hsole.replied (hwait hawaited) docs (hreply docs hdocs)
      · exact hsole.setClient_ne hd houtbox
  | @paid d cl first others sold harr hsold harr' hwait _ houtbox =>
      refine ⟨?_, fun _ hp => hp⟩
      obtain rfl : d = c := hsale _ rfl
      exact hsole.paid harr hsold harr' hwait houtbox
  | @applied d s rest houtbox =>
      have hd : d = c := by
        by_contra hne
        rw [hsole.alone d hne] at houtbox
        exact absurd houtbox (by simp)
      subst hd
      refine ⟨hsole.applied houtbox, fun p hp => ?_⟩
      rw [World.Sold, stationCell_replaceBlock]
      exact hsole.document s (by rw [houtbox]; exact List.mem_cons_self) p hp

/-- It takes two who pay to free a seat: in a run from a collection with the one hall,
in which only `c` pays and anybody else may do anything else, a seat that is sold in
the document is sold from then on. -/
theorem sole_payer_keeps (h : (world ι).Run es w)
    (hone : ∀ id, id ≠ stationDocument → (Lts.origin es w).stations id = none)
    (hpays : ∀ sale ∈ sales es, sale.buyer = c) :
    ∀ e ∈ es, ∀ p, e.pre.Sold p → w.Sold p := by
  have both : w.Sole c ∧ ∀ e ∈ es, ∀ p, e.pre.Sold p → w.Sold p := by
    induction h with
    | @start w hopened =>
        refine ⟨?_, fun e he => absurd he List.not_mem_nil⟩
        have hfresh : ∀ d, w.clients d = {} := hopened
        exact {
          alone := fun d _ => by rw [hfresh d]
          one := hone
          waiting := fun _ => by rw [hfresh c]; exact ⟨rfl, rfl⟩
          replied := by rw [hfresh c]; exact nofun
          shown := by rw [hfresh c]; exact nofun
          document := by rw [hfresh c]; exact nofun
          outbox := by rw [hfresh c]; exact List.Pairwise.nil }
    | @step es w a w' hrun hst ih =>
        rw [Lts.origin_step] at hone
        obtain ⟨hsole, hkept⟩ :=
          ih hone fun sale hmem => hpays sale (mem_sales_step.mpr (.inl hmem))
        have hlast : ∀ sale ∈ soldBy w a, sale.buyer = c :=
          fun sale hsale => hpays sale (mem_sales_step.mpr (.inr hsale))
        obtain ⟨hsole', hstep⟩ := (hallStep_of_step hst).sole hlast hsole
        refine ⟨hsole', fun e he p hp => ?_⟩
        rcases List.mem_append.mp he with he | he
        · exact hstep p (hkept e he p hp)
        · rw [List.mem_singleton.mp he] at hp
          exact hstep p hp
  exact both.2

theorem sole_payer_keeps_firstSeat : ∃ es w, (world Bool).Run es w ∧ w.Sold ⟨.one, 0⟩ ∧
    ∀ e ∈ es, ∀ p, e.pre.Sold p → w.Sold p := by
  obtain ⟨w, hrun, hsold⟩ := run_firstSeatWritten
  refine ⟨_, w, hrun, hsold, sole_payer_keeps (c := true) hrun (fun id hid => ?_)
    (by decide +kernel)⟩
  show oneHall { one := [2, 2] } id = none
  rw [oneHall, Collection.setData_ne _ _ hid]

end Takeit
