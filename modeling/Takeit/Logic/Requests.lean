import Mathlib.Data.List.Perm.Basic
import Mathlib.Logic.Function.Basic

/-!
# Requests that answer into slots

A request is started for a slot and answered some time later: its answer is
first put into one queue and then, in the order of the queue, handled. Between
the two the slot may have been given to another request. `last` is the request
that was handled last for a slot; once nothing is on its way any more, every
request that was not dropped has been handled (`Tracks.handled`).

Nothing here mentions what a request asks for.
-/

namespace Takeit.Logic

/-- A request, numbered in the order of starting. -/
structure Request (κ : Type*) where
  number : Nat
  slot : Nat
  key : κ
deriving DecidableEq, Repr

/-- The requests that run, the answers in the queue, and the answers handled so
far, in order. -/
structure Requests (κ δ : Type*) where
  started : Nat := 0
  running : List (Request κ) := []
  queue : List (Request κ × δ) := []
  handled : List (Request κ × δ) := []

namespace Requests

variable {κ δ : Type*}

/-- The request `start` starts. -/
def request (rs : Requests κ δ) (slot : Nat) (key : κ) : Request κ := ⟨rs.started, slot, key⟩

def start (rs : Requests κ δ) (slot : Nat) (key : κ) : Requests κ δ :=
  { rs with started := rs.started + 1, running := rs.running ++ [rs.request slot key] }

/-- The `k`-th running request is answered. -/
def answer (rs : Requests κ δ) (k : Nat) (d : δ) : Requests κ δ :=
  match rs.running[k]? with
  | none => rs
  | some r => { rs with running := rs.running.eraseIdx k, queue := rs.queue ++ [(r, d)] }

/-- The `k`-th running request ends without an answer. -/
def drop (rs : Requests κ δ) (k : Nat) : Requests κ δ :=
  { rs with running := rs.running.eraseIdx k }

/-- The request with this number ends without an answer, if it still runs. -/
def cancel (rs : Requests κ δ) (number : Nat) : Requests κ δ :=
  { rs with running := rs.running.filter fun r => r.number ≠ number }

/-- The first answer of the queue is handled. -/
def handle (rs : Requests κ δ) : Requests κ δ :=
  match rs.queue with
  | [] => rs
  | a :: rest => { rs with queue := rest, handled := rs.handled ++ [a] }

/-- Nothing runs and nothing is queued. -/
def Quiet (rs : Requests κ δ) : Prop := rs.running = [] ∧ rs.queue = []

instance [DecidableEq κ] [DecidableEq δ] (rs : Requests κ δ) : Decidable rs.Quiet :=
  inferInstanceAs (Decidable (_ ∧ _))

/-- The answer handled last for a slot. -/
def last (rs : Requests κ δ) (slot : Nat) : Option (Request κ × δ) :=
  (rs.handled.filter fun a => a.1.slot = slot).getLast?

variable {rs : Requests κ δ} {r : Request κ} {d : δ}

@[simp] theorem handled_answer (k : Nat) : (rs.answer k d).handled = rs.handled := by
  unfold answer
  split <;> rfl

@[simp] theorem last_answer (k i : Nat) : (rs.answer k d).last i = rs.last i := by
  simp [last]

/-- Handling an answer makes it the last one of its slot. -/
theorem last_handle {rest : List (Request κ × δ)} (h : rs.queue = (r, d) :: rest) (i : Nat) :
    rs.handle.last i = if i = r.slot then some (r, d) else rs.last i := by
  unfold handle last
  rw [h]
  by_cases hi : i = r.slot
  · subst hi
    simp
  · simp [hi, Ne.symm hi]

/-! ## No request is lost -/

/-- The request runs, waits in the queue or was handled. -/
def Tracks (rs : Requests κ δ) (r : Request κ) : Prop :=
  r ∈ rs.running ∨ (∃ d, (r, d) ∈ rs.queue) ∨ ∃ d, (r, d) ∈ rs.handled

theorem tracks_request (rs : Requests κ δ) (slot : Nat) (key : κ) :
    (rs.start slot key).Tracks (rs.request slot key) :=
  .inl (List.mem_append_right _ List.mem_cons_self)

theorem Tracks.start (h : rs.Tracks r) (slot : Nat) (key : κ) : (rs.start slot key).Tracks r :=
  h.imp_left (List.mem_append_left _)

theorem Tracks.answer (h : rs.Tracks r) (k : Nat) (d : δ) : (rs.answer k d).Tracks r := by
  unfold Requests.answer
  split
  · exact h
  · rename_i r' hk
    rcases h with hrun | ⟨d', hqueue⟩ | hdone
    · -- the request that is answered moves to the queue
      obtain ⟨hlt, rfl⟩ := List.getElem?_eq_some_iff.mp hk
      rcases List.mem_cons.mp ((List.getElem_cons_eraseIdx_perm hlt).mem_iff.mpr hrun) with
        rfl | hrest
      · exact .inr (.inl ⟨d, List.mem_append_right _ List.mem_cons_self⟩)
      · exact .inl hrest
    · exact .inr (.inl ⟨d', List.mem_append_left _ hqueue⟩)
    · exact .inr (.inr hdone)

theorem Tracks.handle (h : rs.Tracks r) : rs.handle.Tracks r := by
  unfold Requests.handle
  split
  · exact h
  · rename_i a rest hq
    rcases h with hrun | ⟨d, hqueue⟩ | ⟨d, hdone⟩
    · exact .inl hrun
    · rw [hq] at hqueue
      rcases List.mem_cons.mp hqueue with rfl | hrest
      · exact .inr (.inr ⟨d, List.mem_append_right _ List.mem_cons_self⟩)
      · exact .inr (.inl ⟨d, hrest⟩)
    · exact .inr (.inr ⟨d, List.mem_append_left _ hdone⟩)

/-- Once all is quiet a request that was not dropped has been handled. -/
theorem Tracks.handled (h : rs.Tracks r) (hquiet : rs.Quiet) : ∃ d, (r, d) ∈ rs.handled := by
  rcases h with hrun | ⟨d, hqueue⟩ | hdone
  · rw [hquiet.1] at hrun
    exact absurd hrun List.not_mem_nil
  · rw [hquiet.2] at hqueue
    exact absurd hqueue List.not_mem_nil
  · exact hdone

/-! ## Slots that hold answers -/

variable {γ π : Type*} {render : Request κ → δ → π} {own : γ → Option (Request κ)}
  {held : γ → Option π} {cells : Nat → γ}

/-- Every slot holds what the answer handled last for it leaves there, and was
given requests of its own. -/
structure Feeds (render : Request κ → δ → π) (own : γ → Option (Request κ)) (held : γ → Option π)
    (rs : Requests κ δ) (cells : Nat → γ) : Prop where
  slot : ∀ i r, own (cells i) = some r → r.slot = i
  last : ∀ i, held (cells i) = (rs.last i).map fun a => render a.1 a.2

theorem feeds_empty {x : γ} (hown : own x = none) (hheld : held x = none) :
    Feeds render own held ({} : Requests κ δ) fun _ => x := by
  refine ⟨fun i r hr => ?_, fun i => hheld⟩
  rw [hown] at hr
  exact absurd hr (by simp)

/-- A slot changed in what is not observed here. -/
theorem Feeds.touch (h : Feeds render own held rs cells) (slot : Nat) {x : γ}
    (hown : own x = own (cells slot)) (hheld : held x = held (cells slot)) :
    Feeds render own held rs (Function.update cells slot x) where
  slot := (Function.forall_update_iff cells fun i c => ∀ r, own c = some r → r.slot = i).mpr
    ⟨fun r hr => h.slot slot r (hown ▸ hr), fun i _ => h.slot i⟩
  last := (Function.forall_update_iff cells fun i c =>
      held c = (rs.last i).map fun a => render a.1 a.2).mpr
    ⟨hheld.trans (h.last slot), fun i _ => h.last i⟩

/-- A request is started for a slot. -/
theorem Feeds.start (h : Feeds render own held rs cells) (slot : Nat) (key : κ) {x : γ}
    (hown : own x = some (rs.request slot key)) (hheld : held x = held (cells slot)) :
    Feeds render own held (rs.start slot key) (Function.update cells slot x) where
  slot := by
    rw [Function.forall_update_iff cells fun i c => ∀ r, own c = some r → r.slot = i]
    refine ⟨fun r hr => ?_, fun i _ => h.slot i⟩
    rw [hown] at hr
    rw [← Option.some.inj hr]
    rfl
  last := (Function.forall_update_iff cells fun i c =>
      held c = (rs.last i).map fun a => render a.1 a.2).mpr
    ⟨hheld.trans (h.last slot), fun i _ => h.last i⟩

theorem Feeds.answer (h : Feeds render own held rs cells) (k : Nat) (d : δ) :
    Feeds render own held (rs.answer k d) cells :=
  ⟨h.slot, fun i => by rw [last_answer]; exact h.last i⟩

theorem Feeds.drop (h : Feeds render own held rs cells) (k : Nat) :
    Feeds render own held (rs.drop k) cells :=
  ⟨h.slot, h.last⟩

/-- An answer is handled and left in its slot. -/
theorem Feeds.handle (h : Feeds render own held rs cells) {rest : List (Request κ × δ)}
    (hqueue : rs.queue = (r, d) :: rest) {x : γ} (hown : own x = own (cells r.slot))
    (hheld : held x = some (render r d)) :
    Feeds render own held rs.handle (Function.update cells r.slot x) where
  slot := (Function.forall_update_iff cells fun i c => ∀ r, own c = some r → r.slot = i).mpr
    ⟨fun r' hr => h.slot r.slot r' (hown ▸ hr), fun i _ => h.slot i⟩
  last := by
    rw [Function.forall_update_iff cells fun i c =>
      held c = (rs.handle.last i).map fun a => render a.1 a.2]
    refine ⟨?_, fun i hi => ?_⟩
    · rw [hheld, last_handle hqueue, if_pos rfl]
      rfl
    · rw [last_handle hqueue, if_neg hi]
      exact h.last i

/-- No request a slot was given last is lost. -/
def Keeps (own : γ → Option (Request κ)) (rs : Requests κ δ) (cells : Nat → γ) : Prop :=
  ∀ i r, own (cells i) = some r → rs.Tracks r

theorem Keeps.touch (h : Keeps own rs cells) (slot : Nat) {x : γ}
    (hown : own x = own (cells slot)) : Keeps own rs (Function.update cells slot x) :=
  (Function.forall_update_iff cells fun _ c => ∀ r, own c = some r → rs.Tracks r).mpr
    ⟨fun r hr => h slot r (hown ▸ hr), fun i _ => h i⟩

theorem Keeps.start (h : Keeps own rs cells) (slot : Nat) (key : κ) {x : γ}
    (hown : own x = some (rs.request slot key)) :
    Keeps own (rs.start slot key) (Function.update cells slot x) := by
  unfold Keeps
  rw [Function.forall_update_iff cells fun _ c =>
    ∀ r, own c = some r → (rs.start slot key).Tracks r]
  refine ⟨fun r hr => ?_, fun i _ r hr => (h i r hr).start slot key⟩
  rw [hown] at hr
  rw [← Option.some.inj hr]
  exact tracks_request rs slot key

theorem Keeps.answer (h : Keeps own rs cells) (k : Nat) (d : δ) : Keeps own (rs.answer k d) cells :=
  fun i r hr => (h i r hr).answer k d

theorem Keeps.handle (h : Keeps own rs cells) : Keeps own rs.handle cells :=
  fun i r hr => (h i r hr).handle

end Requests

end Takeit.Logic
