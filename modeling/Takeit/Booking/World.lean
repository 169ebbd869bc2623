import Mathlib.Data.Fintype.Basic
import Takeit.Logic.Ledger
import Takeit.Seat.Steps

/-!
# Many clients and one station document

Any number of `SeatVC`s over one stations collection. A client's query is
served from the committed documents at one moment and calls back at a later
one; what its `payButton` hands to `setData` waits in the client's outbox until
the server applies it, each client's writes in their order and those of
different clients in any order.
-/

namespace Takeit

open Takeit.Logic Takeit.Firestore

/-- One instance of the booking screen, with the snapshot that is on its way
to it and the writes that are on their way to the server. -/
structure Client where
  vc : SeatVC := SeatVC.viewDidLoad
  reply : Option (List DocumentData) := none
  outbox : List Station := []

/-- The server's collection and the clients. -/
structure World (ι : Type) where
  stations : Collection
  clients : ι → Client

/-- What can happen. `ui` is an action of the screen other than the arrival of
the stations. -/
inductive WorldAction (ι : Type)
  | serve (c : ι) (docs : List (String × DocumentData))
  | deliver (c : ι)
  | failed (c : ι)
  | ui (c : ι) (a : SeatAction)
  | apply (c : ι)

namespace Client

/-- The completion handler of the stations query runs. -/
def deliver (cl : Client) : Option Client := do
  let documents ← cl.reply
  let vc ← cl.vc.next (.showAllStations (some documents))
  some { cl with vc := vc, reply := none }

/-- The query calls back without a snapshot. -/
def failed (cl : Client) : Option Client := do
  let vc ← cl.vc.next (.showAllStations none)
  some { cl with vc := vc, reply := none }

/-- An action of the screen; a pay puts its write into the outbox. -/
def ui (cl : Client) (a : SeatAction) : Option Client :=
  match a with
  | .showAllStations _ => none
  | .payButton =>
      if cl.vc.payEnabled = true then
        cl.vc.payButton.map fun pay =>
          { cl with vc := pay.vc, outbox := cl.outbox ++ [pay.written] }
      else none
  | a => (cl.vc.next a).map fun vc => { cl with vc := vc }

end Client

namespace World

variable {ι : Type} [DecidableEq ι]

/-- The world with one client changed. -/
def setClient (w : World ι) (c : ι) (cl : Client) : World ι :=
  { w with clients := Function.update w.clients c cl }

/-- The effect of an action. -/
def next (w : World ι) : WorldAction ι → Option (World ι)
  | .serve c docs =>
      some (w.setClient c { w.clients c with reply := some (docs.map Prod.snd) })
  | .deliver c => (w.clients c).deliver.map (w.setClient c)
  | .failed c => (w.clients c).failed.map (w.setClient c)
  | .ui c a => ((w.clients c).ui a).map (w.setClient c)
  | .apply c =>
      match (w.clients c).outbox with
      | [] => none
      | s :: rest => some { w.setClient c { w.clients c with outbox := rest } with
          stations := SeatVC.replaceBlock w.stations s }

/-- A query is served all committed documents, in any order. -/
def permits (w : World ι) : WorldAction ι → Prop
  | .serve c docs => (w.clients c).vc.stationsAwaited = true ∧ w.stations.Lists docs
  | _ => True

/-- All screens have just been loaded. -/
def Opened (w : World ι) : Prop := ∀ c, w.clients c = {}

end World

variable {ι : Type} [DecidableEq ι]

/-- The clients over a collection. -/
def world (ι : Type) [DecidableEq ι] : Lts (World ι) (WorldAction ι) :=
  (Lts.ofNext World.Opened World.next).restrict World.permits

/-- The value of a seat in the station document. -/
def stationCell (stations : Collection) (p : IndexPath) : Option Int :=
  (stations stationDocument).bind fun data => (Station.ofDocumentData data).cell? p

/-- The seat is sold in the station document. -/
def World.Sold (w : World ι) (p : IndexPath) : Prop := stationCell w.stations p = some 1

@[simp] theorem stationCell_replaceBlock (stations : Collection) (s : Station) (p : IndexPath) :
    stationCell (SeatVC.replaceBlock stations s) p = s.cell? p := by
  simp [stationCell, SeatVC.replaceBlock]

/-- The sets of seats the pays of a run sell, in order. -/
def soldBy (w : World ι) : WorldAction ι → Option (Sale ι IndexPath)
  | .ui c .payButton => some ⟨c, {p | (w.clients c).vc.Sells p}⟩
  | _ => none

abbrev sales (es : List (Edge (World ι) (WorldAction ι))) : List (Sale ι IndexPath) :=
  Lts.labels soldBy es

/-! ## Steps -/

section SetClient

variable (w : World ι) (c : ι) (cl : Client)

@[simp] theorem clients_setClient_self : (w.setClient c cl).clients c = cl := by
  simp [World.setClient]

@[simp] theorem clients_setClient_ne {d : ι} (h : d ≠ c) :
    (w.setClient c cl).clients d = w.clients d := by
  simp [World.setClient, h]

end SetClient

/-- Every way a step can go, seen from the documents and the outboxes. -/
inductive WorldStep (w : World ι) : WorldAction ι → World ι → Prop
  | screen {a c cl} : soldBy w a = none → cl.outbox = (w.clients c).outbox →
      WorldStep w a (w.setClient c cl)
  | pay {c cl shown others sold} : (w.clients c).vc.stationArray = shown :: others →
      (w.clients c).vc.SoldFrom shown sold →
      cl.outbox = (w.clients c).outbox ++ [⟨sold, stationDocument⟩] →
      WorldStep w (.ui c .payButton) (w.setClient c cl)
  | apply {c s rest} : (w.clients c).outbox = s :: rest →
      WorldStep w (.apply c) { w.setClient c { w.clients c with outbox := rest } with
        stations := SeatVC.replaceBlock w.stations s }

theorem worldStep_of_next {w w' : World ι} {a : WorldAction ι} (h : w.next a = some w') :
    WorldStep w a w' := by
  cases a with
  | serve c docs =>
      obtain rfl := Option.some.inj h
      exact .screen rfl rfl
  | deliver c =>
      obtain ⟨cl, hcl, rfl⟩ := Option.map_eq_some_iff.mp h
      simp only [Client.deliver, Option.bind_eq_bind, Option.bind_eq_some_iff] at hcl
      obtain ⟨_, _, _, _, hcl⟩ := hcl
      obtain rfl := Option.some.inj hcl
      exact .screen rfl rfl
  | failed c =>
      obtain ⟨cl, hcl, rfl⟩ := Option.map_eq_some_iff.mp h
      simp only [Client.failed, Option.bind_eq_bind, Option.bind_eq_some_iff] at hcl
      obtain ⟨_, _, hcl⟩ := hcl
      obtain rfl := Option.some.inj hcl
      exact .screen rfl rfl
  | ui c a =>
      obtain ⟨cl, hcl, rfl⟩ := Option.map_eq_some_iff.mp h
      unfold Client.ui at hcl
      split at hcl
      · exact absurd hcl (by simp)
      · obtain ⟨-, hmap⟩ := Option.ite_none_right_eq_some.mp hcl
        obtain ⟨pay, hpay, rfl⟩ := Option.map_eq_some_iff.mp hmap
        obtain ⟨shown, others, sold, -, harr, hsold, -, -, hwritten⟩ :=
          SeatVC.payButton_spec hpay
        exact .pay harr hsold (by rw [hwritten])
      · rename_i hpay
        obtain ⟨vc, -, rfl⟩ := Option.map_eq_some_iff.mp hcl
        refine .screen ?_ rfl
        unfold soldBy
        split
        · rename_i heq
          simp only [WorldAction.ui.injEq] at heq
          exact absurd heq.2 (by simpa using hpay)
        · rfl
  | apply c =>
      simp only [World.next] at h
      split at h
      · exact absurd h (by simp)
      · rename_i s rest houtbox
        obtain rfl := Option.some.inj h
        exact .apply houtbox

theorem worldStep_of_step {w w' : World ι} {a : WorldAction ι} (h : (world ι).step w a w') :
    WorldStep w a w' :=
  worldStep_of_next h.1

/-! ## Pays on an up-to-date hall -/

/-- No other client has a write on its way, and the client's stations show as
sold every seat that is sold in the document or in a write of its own. -/
structure World.UpToDate (w : World ι) (c : ι) (shown : Station) : Prop where
  alone : ∀ d, d ≠ c → (w.clients d).outbox = []
  document : ∀ p, w.Sold p → shown.cell? p = some 1
  outbox : ∀ s ∈ (w.clients c).outbox, s.SoldWithin shown.toSeatLayout

/-- Besides, they show none as sold of the seats that it sells now. -/
structure World.Fresh (w : World ι) (c : ι) (shown : Station) : Prop
    extends w.UpToDate c shown where
  unsold : ∀ p, (w.clients c).vc.Sells p → shown.cell? p ≠ some 1

instance [Fintype ι] (w : World ι) (c : ι) (shown : Station) : Decidable (w.UpToDate c shown) :=
  decidable_of_iff
    ((∀ d, d ≠ c → (w.clients d).outbox.isEmpty = true) ∧
      (∀ data ∈ w.stations stationDocument,
        (Station.ofDocumentData data).SoldWithin shown.toSeatLayout) ∧
      ∀ s ∈ (w.clients c).outbox, s.SoldWithin shown.toSeatLayout) <| by
    constructor
    · rintro ⟨halone, hdoc, houtbox⟩
      refine ⟨fun d hd => List.isEmpty_iff.mp (halone d hd), fun p hp => ?_, houtbox⟩
      obtain ⟨data, hdata, hcell⟩ := Option.bind_eq_some_iff.mp hp
      exact hdoc data hdata p hcell
    · intro h
      refine ⟨fun d hd => List.isEmpty_iff.mpr (h.alone d hd), fun data hdata p hp => ?_, h.outbox⟩
      exact h.document p (Option.bind_eq_some_iff.mpr ⟨data, hdata, hp⟩)

instance [Fintype ι] (w : World ι) (c : ι) (shown : Station) : Decidable (w.Fresh c shown) :=
  decidable_of_iff (w.UpToDate c shown ∧
      ∀ t, ∀ k ∈ (w.clients c).vc.selectedSection t, shown.cell? ⟨t, k⟩ ≠ some 1)
    ⟨fun ⟨hcurrent, hunsold⟩ => ⟨hcurrent, fun p hp => hunsold p.title p.row hp⟩,
      fun h => ⟨h.toUpToDate, fun t k hk => h.unsold ⟨t, k⟩ hk⟩⟩

/-- If the action is a pay, `Q` holds of the client and the hall it pays from. -/
def World.PayMeets (w : World ι) (Q : ι → Station → Prop) : WorldAction ι → Prop
  | .ui c .payButton => ∀ shown ∈ (w.clients c).vc.stationArray.head?, Q c shown
  | _ => True

instance (w : World ι) (Q : ι → Station → Prop) [∀ c shown, Decidable (Q c shown)] :
    ∀ a, Decidable (w.PayMeets Q a)
  | .ui c .payButton => inferInstanceAs (Decidable (∀ shown ∈ _, Q c shown))
  | .ui _ (.showAllStations _) | .ui _ (.showAllFoods _) | .ui _ (.cellForItemAt _)
  | .ui _ (.didSelectItemAt _) | .ui _ (.add _) | .ui _ (.minus _) | .ui _ (.clickAdd _)
  | .ui _ (.clickMinus _) | .serve _ _ | .deliver _ | .failed _ | .apply _ =>
      inferInstanceAs (Decidable True)

/-- Every pay is made on an up-to-date hall. -/
def World.UpToDatePay (w : World ι) : WorldAction ι → Prop := w.PayMeets w.UpToDate

/-- Every pay is fresh. -/
def World.FreshPay (w : World ι) : WorldAction ι → Prop := w.PayMeets w.Fresh

instance [Fintype ι] (w : World ι) (a : WorldAction ι) : Decidable (w.UpToDatePay a) :=
  inferInstanceAs (Decidable (w.PayMeets w.UpToDate a))

instance [Fintype ι] (w : World ι) (a : WorldAction ι) : Decidable (w.FreshPay a) :=
  inferInstanceAs (Decidable (w.PayMeets w.Fresh a))

omit [DecidableEq ι] in
theorem World.FreshPay.upToDate {w : World ι} {a : WorldAction ι} (h : w.FreshPay a) :
    w.UpToDatePay a := by
  unfold FreshPay PayMeets at h
  unfold UpToDatePay PayMeets
  split
  · exact fun shown hshown => (h shown hshown).toUpToDate
  · trivial

/-- At most one client has writes on their way, and each of them keeps what is
sold before it. -/
structure World.Ordered (w : World ι) : Prop where
  single : ∀ c d, (w.clients c).outbox ≠ [] → (w.clients d).outbox ≠ [] → c = d
  document : ∀ c, ∀ s ∈ (w.clients c).outbox, ∀ p, w.Sold p → s.cell? p = some 1
  outbox : ∀ c, (w.clients c).outbox.Pairwise fun s s' => s.SoldWithin s'.toSeatLayout

/-- The seat is sold in the document or in a write on its way to it. -/
def World.Taken (w : World ι) (p : IndexPath) : Prop :=
  w.Sold p ∨ ∃ c, ∃ s ∈ (w.clients c).outbox, s.cell? p = some 1

variable {w w' : World ι} {a : WorldAction ι} {c : ι} {cl : Client} {p : IndexPath}

omit [DecidableEq ι] in
/-- The documents and the outboxes decide both. -/
theorem World.Ordered.congr (ord : w.Ordered) (hsold : ∀ p, w'.Sold p ↔ w.Sold p)
    (houtbox : ∀ d, (w'.clients d).outbox = (w.clients d).outbox) : w'.Ordered := by
  constructor
  · intro c d
    rw [houtbox, houtbox]
    exact ord.single c d
  · intro c s hs p hp
    rw [houtbox] at hs
    exact ord.document c s hs p ((hsold p).mp hp)
  · intro c
    rw [houtbox]
    exact ord.outbox c

omit [DecidableEq ι] in
theorem World.Taken.congr (h : w.Taken p) (hsold : ∀ p, w'.Sold p ↔ w.Sold p)
    (houtbox : ∀ d, (w'.clients d).outbox = (w.clients d).outbox) : w'.Taken p := by
  rcases h with h | ⟨d, s, hs, hp⟩
  · exact .inl ((hsold p).mpr h)
  · exact .inr ⟨d, s, by rwa [houtbox], hp⟩

theorem outbox_setClient (h : cl.outbox = (w.clients c).outbox) (d : ι) :
    ((w.setClient c cl).clients d).outbox = (w.clients d).outbox := by
  by_cases hd : d = c
  · subst hd
    simpa using h
  · simp [hd]

omit [DecidableEq ι] in
/-- With all outboxes but one empty, only one client has writes on their way. -/
theorem World.single_of_alone (h : ∀ d, d ≠ c → (w.clients d).outbox = []) (d d' : ι)
    (hd : (w.clients d).outbox ≠ []) (hd' : (w.clients d').outbox ≠ []) : d = d' := by
  have hdc : d = c := by_contra fun hne => hd (h d hne)
  have hdc' : d' = c := by_contra fun hne => hd' (h d' hne)
  rw [hdc, hdc']

theorem World.Ordered.pay {shown : Station} {sold : SeatLayout} (ord : w.Ordered)
    (hcurrent : w.UpToDate c shown) (hsold : (w.clients c).vc.SoldFrom shown sold)
    (hcl : cl.outbox = (w.clients c).outbox ++ [⟨sold, stationDocument⟩]) :
    (w.setClient c cl).Ordered := by
  have hother : ∀ d, d ≠ c → ((w.setClient c cl).clients d).outbox = [] := by
    intro d hd
    rw [clients_setClient_ne _ _ _ hd]
    exact hcurrent.alone d hd
  refine ⟨World.single_of_alone hother, ?_, ?_⟩
  · intro d s hs q hq
    by_cases hd : d = c
    · subst hd
      rw [clients_setClient_self, hcl] at hs
      rcases List.mem_append.mp hs with hs | hs
      · exact ord.document d s hs q hq
      · rw [List.mem_singleton.mp hs]
        exact hsold.keeps (hcurrent.document q hq)
    · rw [hother d hd] at hs
      exact absurd hs List.not_mem_nil
  · intro d
    by_cases hd : d = c
    · subst hd
      rw [clients_setClient_self, hcl, List.pairwise_append]
      refine ⟨ord.outbox d, List.pairwise_singleton _ _, fun s hs s' hs' q hq => ?_⟩
      rw [List.mem_singleton.mp hs']
      exact hsold.keeps (hcurrent.outbox s hs q hq)
    · rw [hother d hd]
      exact List.Pairwise.nil

/-- The document after the write `s` of client `c`. -/
theorem World.Ordered.apply {s : Station} {rest : List Station} (ord : w.Ordered)
    (houtbox : (w.clients c).outbox = s :: rest) :
    World.Ordered { w.setClient c { w.clients c with outbox := rest } with
      stations := SeatVC.replaceBlock w.stations s } := by
  have hpair := ord.outbox c
  rw [houtbox, List.pairwise_cons] at hpair
  have hempty : ∀ d, d ≠ c →
      ((w.setClient c { w.clients c with outbox := rest }).clients d).outbox = [] := by
    intro d hd
    rw [clients_setClient_ne _ _ _ hd]
    by_contra hne
    exact hd (ord.single d c hne (by simp [houtbox]))
  refine ⟨World.single_of_alone hempty, ?_, ?_⟩
  · intro d s' hs' q hq
    have hsq : s.cell? q = some 1 := by simpa [World.Sold] using hq
    by_cases hd : d = c
    · subst hd
      have hmem : s' ∈ rest := by simpa using hs'
      exact hpair.1 s' hmem q hsq
    · rw [hempty d hd] at hs'
      exact absurd hs' List.not_mem_nil
  · intro d
    by_cases hd : d = c
    · subst hd
      simpa using hpair.2
    · show (((w.setClient c _).clients d).outbox).Pairwise _
      rw [hempty d hd]
      exact List.Pairwise.nil

theorem WorldStep.ordered (h : WorldStep w a w') (hcurrent : w.UpToDatePay a) (ord : w.Ordered) :
    w'.Ordered := by
  cases h with
  | screen _ houtbox => exact ord.congr (fun _ => Iff.rfl) (outbox_setClient houtbox)
  | pay harr hsold hcl =>
      exact ord.pay (hcurrent _ (by rw [harr]; rfl)) hsold hcl
  | apply houtbox => exact ord.apply houtbox

theorem WorldStep.taken (h : WorldStep w a w') (ord : w.Ordered) (hp : w.Taken p) :
    w'.Taken p := by
  cases h with
  | screen _ houtbox => exact hp.congr (fun _ => Iff.rfl) (outbox_setClient houtbox)
  | @pay c cl shown others sold harr hsold hcl =>
      rcases hp with hp | ⟨d, s, hs, hp⟩
      · exact .inl hp
      · refine .inr ⟨d, s, ?_, hp⟩
        by_cases hd : d = c
        · subst hd
          rw [clients_setClient_self, hcl]
          exact List.mem_append_left _ hs
        · rwa [clients_setClient_ne _ _ _ hd]
  | @apply c s rest houtbox =>
      rcases hp with hp | ⟨d, s', hs', hp⟩
      · refine .inl ?_
        have hs := ord.document c s (by simp [houtbox]) p hp
        simpa [World.Sold] using hs
      · by_cases hd : d = c
        · subst hd
          rw [houtbox] at hs'
          rcases List.mem_cons.mp hs' with rfl | hs'
          · exact .inl (by simpa [World.Sold] using hp)
          · exact .inr ⟨d, s', by simpa using hs', hp⟩
        · exact .inr ⟨d, s', by simpa [hd] using hs', hp⟩

/-- Under an ordered outbox a sold seat stays sold in the document. -/
theorem WorldStep.sold (h : WorldStep w a w') (ord : w.Ordered) (hp : w.Sold p) : w'.Sold p := by
  cases h with
  | screen => exact hp
  | pay => exact hp
  | @apply c s rest houtbox =>
      have hs := ord.document c s (by simp [houtbox]) p hp
      simpa [World.Sold] using hs

/-! ## Runs of such pays -/

/-- The runs all of whose pays are made on an up-to-date hall. -/
def upToDateWorld (ι : Type) [DecidableEq ι] : Lts (World ι) (WorldAction ι) :=
  (world ι).restrict World.UpToDatePay

/-- The runs all of whose pays are fresh. -/
def freshWorld (ι : Type) [DecidableEq ι] : Lts (World ι) (WorldAction ι) :=
  (world ι).restrict World.FreshPay

theorem ordered_init (h : (world ι).init w) : w.Ordered := by
  have hempty : ∀ c, (w.clients c).outbox = [] := fun c => by rw [h c]
  constructor
  · intro c d hc
    exact absurd (hempty c) hc
  · intro c s hs
    rw [hempty c] at hs
    exact absurd hs List.not_mem_nil
  · intro c
    rw [hempty c]
    exact List.Pairwise.nil

theorem upToDateWorld_ordered (h : (upToDateWorld ι).Reachable w) : w.Ordered :=
  h.invariant (M := upToDateWorld ι) (I := World.Ordered) (fun _ h0 => ordered_init h0)
    fun _ _ _ ord ⟨hst, hcurrent⟩ => (worldStep_of_step hst).ordered hcurrent ord

/-- Fresh pays are sales of the ledger: who owns a seat has it sold in the
document or in a write on its way. -/
theorem freshWorld_simulation : Lts.Simulation (freshWorld ι) (Ledger.system ι IndexPath) soldBy
    fun w owner => w.Ordered ∧ ∀ p, owner p ≠ none → w.Taken p where
  init w h0 := ⟨_, rfl, ordered_init h0, fun p hp => absurd rfl hp⟩
  silent := by
    rintro w owner a w' ⟨ord, htaken⟩ ⟨hst, hfresh⟩ -
    have hstep := worldStep_of_step hst
    exact ⟨hstep.ordered hfresh.upToDate ord, fun p hp => hstep.taken ord (htaken p hp)⟩
  visible := by
    rintro w owner a w' sale ⟨ord, htaken⟩ ⟨hst, hfresh⟩ hlabel
    have hstep := worldStep_of_step hst
    have hord := hstep.ordered hfresh.upToDate ord
    have hkeep : ∀ p, owner p ≠ none → w'.Taken p := fun p hp => hstep.taken ord (htaken p hp)
    cases hstep with
    | screen hnone => rw [hnone] at hlabel; exact absurd hlabel (by simp)
    | apply => exact absurd hlabel (by simp [soldBy])
    | @pay c cl shown others sold harr hsold hcl =>
        obtain rfl := Option.some.inj hlabel
        have hfr := hfresh shown (by rw [harr]; rfl)
        refine ⟨_, ⟨?_, rfl⟩, hord, ?_⟩
        · -- a seat that has an owner is shown as sold
          intro p hp
          by_contra howned
          refine hfr.unsold p hp ?_
          rcases htaken p howned with hdoc | ⟨d, s, hs, hcell⟩
          · exact hfr.document p hdoc
          · by_cases hd : d = c
            · subst hd
              exact hfr.outbox s hs p hcell
            · rw [hfr.alone d hd] at hs
              exact absurd hs List.not_mem_nil
        · intro p hp
          by_cases hsells : (w.clients c).vc.Sells p
          · refine .inr ⟨c, ⟨sold, stationDocument⟩, ?_, ?_⟩
            · rw [clients_setClient_self, hcl]
              exact List.mem_append_right _ List.mem_cons_self
            · exact (hsold.cell p).trans (if_pos hsells)
          · exact hkeep p (by rwa [Ledger.record_not_mem hsells] at hp)

/-- In a run whose pays are all fresh no two pays sell a common seat. -/
theorem sales_disjoint {es : List (Edge (World ι) (WorldAction ι))} (h : (world ι).Run es w)
    (hfresh : ∀ e ∈ es, e.pre.FreshPay e.act) :
    (sales es).Pairwise fun s₁ s₂ => Disjoint s₁.goods s₂.goods := by
  obtain ⟨fs, owner, hrun, -, hlabels⟩ :=
    freshWorld_simulation.run (Lts.run_restrict_iff.mpr ⟨h, hfresh⟩)
  have hdisjoint := Ledger.run_disjoint hrun
  rwa [hlabels] at hdisjoint

/-- A collection whose one document is the station `l`. -/
def oneHall (l : SeatLayout) : Collection :=
  Collection.setData (fun _ => none) stationDocument
    (Station.documentData ⟨l, stationDocument⟩)

/-- The snapshot of it. -/
def oneHallDocs (l : SeatLayout) : List (String × DocumentData) :=
  [(stationDocument, Station.documentData ⟨l, stationDocument⟩)]

theorem lists_oneHall (l : SeatLayout) : (oneHall l).Lists (oneHallDocs l) :=
  Collection.lists_empty.setData rfl _

/-- Two clients over it. -/
def twoClients (l : SeatLayout) : World Bool where
  stations := oneHall l
  clients _ := {}

/-- The collection has one document, written as `s`. -/
def World.OneStation (w : World ι) (s : Station) : Prop :=
  w.stations = SeatVC.replaceBlock (fun _ => none) s

/-- Writing it again leaves one. -/
theorem WorldStep.oneStation (h : WorldStep w a w') (hone : ∃ s, w.OneStation s) :
    ∃ s, w'.OneStation s := by
  cases h with
  | screen => exact hone
  | pay => exact hone
  | @apply c s rest _ =>
      obtain ⟨s₀, hs₀⟩ := hone
      refine ⟨s, ?_⟩
      show SeatVC.replaceBlock w.stations s = _
      rw [hs₀, SeatVC.replaceBlock, SeatVC.replaceBlock, Collection.setData, Collection.setData,
        Function.update_idem]
      rfl

/-- There is always one. -/
theorem exists_oneStation {l : SeatLayout} {as : List (WorldAction Bool)} {w : World Bool}
    (hw : Lts.runList World.next (twoClients l) as = some w) :
    ∀ e ∈ Lts.trace World.next (twoClients l) as, ∃ s, e.pre.OneStation s := by
  have hrun : (Lts.ofNext (· = twoClients l) World.next).Run _ w := Lts.run_trace rfl hw
  intro e he
  refine (hrun.edge e he).1.invariant (I := fun w => ∃ s, w.OneStation s) ?_ ?_
  · rintro _ rfl
    exact ⟨⟨l, stationDocument⟩, rfl⟩
  · intro w a w' hone hst
    exact (worldStep_of_next hst).oneStation hone

/-- A client whose query is served waits for it, and the hall is then `halls c`. -/
def World.ServesHall (w : World ι) (halls : ι → SeatLayout) : WorldAction ι → Prop
  | .serve c _ => (w.clients c).vc.stationsAwaited = true ∧
      (w.stations stationDocument).map Station.ofDocumentData = some ⟨halls c, stationDocument⟩
  | _ => True

instance (w : World ι) (halls : ι → SeatLayout) : ∀ a, Decidable (w.ServesHall halls a)
  | .serve _ _ => inferInstanceAs (Decidable (_ ∧ _))
  | .ui _ _ | .deliver _ | .failed _ | .apply _ => inferInstanceAs (Decidable True)

/-- What two clients can do over one hall is a run, if each query is served the hall as
it is then. -/
theorem exists_world_run (l : SeatLayout) (halls : Bool → SeatLayout)
    (as : List (WorldAction Bool)) {P : World Bool → Prop}
    (hdocs : ∀ c docs, .serve c docs ∈ as → docs = oneHallDocs (halls c))
    (hserves : ∀ e ∈ Lts.trace World.next (twoClients l) as, e.pre.ServesHall halls e.act)
    (h : ∃ w ∈ Lts.runList World.next (twoClients l) as, P w) :
    ∃ w, (world Bool).Run (Lts.trace World.next (twoClients l) as) w ∧ P w := by
  obtain ⟨w, hw, hP⟩ := h
  have hopened : (twoClients l).Opened := fun _ => rfl
  refine ⟨w, Lts.run_restrict_iff.mpr ⟨Lts.run_trace hopened hw, fun e he => ?_⟩, hP⟩
  have hone := exists_oneStation hw e he
  have hact := Lts.act_mem_of_mem_trace he
  have hserve := hserves e he
  obtain ⟨pre, act, post⟩ := e
  cases act with
  | serve c docs =>
      obtain ⟨hawaited, hhall⟩ := hserve
      obtain ⟨s, hs⟩ := hone
      -- the one document is the hall that is served
      have hstation : s = ⟨halls c, stationDocument⟩ := by
        rw [hs, SeatVC.replaceBlock_self, Option.map_some,
          Station.ofDocumentData_documentData] at hhall
        exact Option.some.inj hhall
      refine ⟨hawaited, ?_⟩
      show pre.stations.Lists docs
      rw [hdocs c docs hact, hs, hstation]
      exact lists_oneHall (halls c)
  | _ => trivial

/-- Both have their query served before anything else happens. -/
def bothServed (l : SeatLayout) : List (WorldAction Bool) :=
  [.serve true (oneHallDocs l), .serve false (oneHallDocs l), .deliver true, .deliver false]

/-- Once both are served, anything the world can do is a run. -/
theorem exists_bothServed_run (l : SeatLayout) (as : List (WorldAction Bool))
    {P : World Bool → Prop} (hserve : ∀ c docs, .serve c docs ∉ as)
    (h : ∃ w ∈ Lts.runList World.next (twoClients l) (bothServed l ++ as), P w) :
    ∃ w, (world Bool).Run (Lts.trace World.next (twoClients l) (bothServed l ++ as)) w ∧ P w := by
  refine exists_world_run l (fun _ => l) _ (fun c docs hmem => ?_) (fun e he => ?_) h
  · rcases List.mem_append.mp hmem with hboth | hmem
    · simp only [bothServed, List.mem_cons, WorldAction.serve.injEq, reduceCtorEq,
        List.not_mem_nil, or_false] at hboth
      rcases hboth with ⟨-, rfl⟩ | ⟨-, rfl⟩ <;> rfl
    · exact absurd hmem (hserve c docs)
  · have hone : ∀ l : SeatLayout, (oneHall l stationDocument).map Station.ofDocumentData =
        some ⟨l, stationDocument⟩ := by
      intro l
      rw [oneHall, Collection.setData_self, Option.map_some, Station.ofDocumentData_documentData]
    -- both queries are served before the first write
    rcases List.mem_cons.mp he with rfl | he
    · exact ⟨rfl, hone l⟩
    · rcases List.mem_cons.mp he with rfl | he
      · exact ⟨rfl, hone l⟩
      · have hact := Lts.act_mem_of_mem_trace he
        obtain ⟨pre, act, post⟩ := e
        cases act with
        | serve c docs => exact absurd hact (by simpa using hserve c docs)
        | _ => trivial

/-- A tap, the cell drawn, and a ticket. -/
def bookSeat (c : Bool) (k : Nat) : List (WorldAction Bool) :=
  [.ui c (.didSelectItemAt ⟨.one, k⟩), .ui c (.cellForItemAt ⟨.one, k⟩), .ui c (.add .adult)]

/-- One client books the first of two seats. Once that is written, the other client loads
the hall and books the second seat. -/
def twoPays : List (WorldAction Bool) :=
  [.serve true (oneHallDocs { one := [2, 2] }), .deliver true] ++ bookSeat true 0 ++
    [.ui true .payButton, .apply true, .serve false (oneHallDocs { one := [1, 2] }),
      .deliver false] ++ bookSeat false 1 ++ [.ui false .payButton]

theorem run_twoPays {P : World Bool → Prop}
    (h : ∃ w ∈ Lts.runList World.next (twoClients { one := [2, 2] }) twoPays, P w) :
    ∃ w, (world Bool).Run (Lts.trace World.next (twoClients { one := [2, 2] }) twoPays) w ∧
      P w := by
  refine exists_world_run _ (fun c => if c then { one := [2, 2] } else { one := [1, 2] }) twoPays
    ?_ (by decide) h
  intro c docs hmem
  simp only [twoPays, bookSeat, List.cons_append, List.nil_append, List.mem_cons,
    WorldAction.serve.injEq, reduceCtorEq, false_or, List.not_mem_nil, or_false] at hmem
  rcases hmem with ⟨rfl, rfl⟩ | ⟨rfl, rfl⟩ <;> rfl

theorem sales_disjoint_twoPays : ∃ es w, (world Bool).Run es w ∧
    (sales es).map Sale.buyer = [true, false] ∧ w.Sold ⟨.one, 0⟩ ∧
    ((w.clients false).outbox.map fun s => s.one) = [[1, 1]] ∧
    (sales es).Pairwise fun s₁ s₂ => Disjoint s₁.goods s₂.goods := by
  obtain ⟨w, hrun, hsold, hone⟩ := run_twoPays
    (P := fun w => stationCell w.stations ⟨.one, 0⟩ = some 1 ∧
      ((w.clients false).outbox.map fun s => s.one) = [[1, 1]]) (by decide)
  exact ⟨_, w, hrun, by decide, hsold, hone, sales_disjoint hrun (by decide)⟩

/-- Two clients that both read the hall with the seat free both sell it. -/
theorem sales_sameSeat : ∃ es w s₁ s₂, (world Bool).Run es w ∧ s₁ ∈ sales es ∧ s₂ ∈ sales es ∧
    s₁.buyer ≠ s₂.buyer ∧ ⟨.one, 0⟩ ∈ s₁.goods ∧ ⟨.one, 0⟩ ∈ s₂.goods ∧
    ¬ (sales es).Pairwise fun s₁ s₂ => Disjoint s₁.goods s₂.goods := by
  obtain ⟨w, hrun, hsells₁, hsells₂, hpay₁, hpay₂⟩ := exists_bothServed_run { one := [2, 2] }
    (bookSeat true 0 ++ bookSeat false 0)
    (P := fun w => (w.clients true).vc.Sells ⟨.one, 0⟩ ∧ (w.clients false).vc.Sells ⟨.one, 0⟩ ∧
      ((w.clients true).ui .payButton).isSome ∧ ((w.clients false).ui .payButton).isSome)
    (by simp [bookSeat]) (by decide)
  obtain ⟨cl₁, hcl₁⟩ := Option.isSome_iff_exists.mp hpay₁
  obtain ⟨cl₂, hcl₂⟩ := Option.isSome_iff_exists.mp hpay₂
  have hstep₁ : (world Bool).step w (.ui true .payButton) (w.setClient true cl₁) :=
    ⟨by simp [Lts.ofNext, World.next, hcl₁], trivial⟩
  have hstep₂ : (world Bool).step (w.setClient true cl₁) (.ui false .payButton)
      ((w.setClient true cl₁).setClient false cl₂) :=
    ⟨by simp [Lts.ofNext, World.next, hcl₂], trivial⟩
  refine ⟨_, _, ⟨true, {p | (w.clients true).vc.Sells p}⟩,
    ⟨false, {p | (w.clients false).vc.Sells p}⟩, (hrun.step hstep₁).step hstep₂,
    by simp [Lts.labels, soldBy], by simp [Lts.labels, soldBy], by simp, hsells₁, hsells₂,
    fun hpairwise => ?_⟩
  simp only [sales, Lts.labels, List.filterMap_append, List.pairwise_append] at hpairwise
  have hdisjoint := hpairwise.2.2 ⟨true, {p | (w.clients true).vc.Sells p}⟩
    (by simp [soldBy]) ⟨false, {p | (w.clients false).vc.Sells p}⟩ (by simp [soldBy])
  exact Set.disjoint_left.mp hdisjoint hsells₁ hsells₂

/-- While all pays are made on an up-to-date hall, a seat that is sold in the station
document is sold in every later state of it. -/
theorem sold_stays (h : (upToDateWorld ι).Reachable w) (hsteps : (upToDateWorld ι).Steps w w') :
    ∀ p, w.Sold p → w'.Sold p := fun p hp =>
  hsteps.preserve (M := upToDateWorld ι) (P := fun w => w.Sold p) h
    (fun _ _ _ hr hsold ⟨hst, _⟩ =>
      (worldStep_of_step hst).sold (upToDateWorld_ordered hr) hsold) hp

/-- What the first client has sold is still sold once the write of the second is
applied. -/
theorem sold_stays_secondSeat : ∃ w w', (upToDateWorld Bool).Reachable w ∧
    (upToDateWorld Bool).Steps w w' ∧ stationCell w.stations ⟨.one, 1⟩ = some 2 ∧
    stationCell w'.stations ⟨.one, 1⟩ = some 1 ∧ w'.Sold ⟨.one, 0⟩ := by
  obtain ⟨w, hrun, hfree, hsold, w', hnext, hwritten⟩ := run_twoPays
    (P := fun w => stationCell w.stations ⟨.one, 1⟩ = some 2 ∧
      stationCell w.stations ⟨.one, 0⟩ = some 1 ∧
      ∃ w' ∈ w.next (.apply false), stationCell w'.stations ⟨.one, 1⟩ = some 1) (by decide)
  have hreach : (upToDateWorld Bool).Reachable w :=
    ⟨_, Lts.run_restrict_iff.mpr ⟨hrun, by decide⟩⟩
  have hsteps : (upToDateWorld Bool).Steps w w' :=
    Relation.ReflTransGen.single ⟨.apply false, ⟨hnext, trivial⟩, trivial⟩
  exact ⟨w, w', hreach, hsteps, hfree, hwritten, sold_stays hreach hsteps _ hsold⟩

/-- Two clients that both read the empty hall sell one seat each, and the
second write frees the seat of the first. -/
theorem sold_freed : ∃ w w', (world Bool).Reachable w ∧ (world Bool).Steps w w' ∧
    w.Sold ⟨.one, 0⟩ ∧ stationCell w'.stations ⟨.one, 0⟩ = some 2 := by
  obtain ⟨w, hrun, hsold, w', hnext, hfreed⟩ := exists_bothServed_run { one := [2, 2] }
    (bookSeat true 0 ++ bookSeat false 1 ++
      [.ui true .payButton, .ui false .payButton, .apply true])
    (P := fun w => stationCell w.stations ⟨.one, 0⟩ = some 1 ∧
      ∃ w' ∈ w.next (.apply false), stationCell w'.stations ⟨.one, 0⟩ = some 2)
    (by simp [bookSeat]) (by decide)
  exact ⟨w, w', ⟨_, hrun⟩, Relation.ReflTransGen.single ⟨.apply false, hnext, trivial⟩, hsold,
    hfreed⟩

end Takeit
