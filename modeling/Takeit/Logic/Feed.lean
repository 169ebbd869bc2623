import Mathlib.Data.List.Nodup
import Mathlib.Logic.Function.Basic
import Takeit.Logic.Lts

/-!
# A store that is only added to

Writers put documents under new keys. A write waits in its writer's outbox until
the store applies it, each outbox in order. A reader is served what is stored
together with what its own outbox holds, and is given the answers in the order
in which they were served.

Whatever the order of all this:

* **nothing is lost or made up** — what is stored or waiting is what was there at
  first and what was written since (`Feed.present_iff_of_run`);
* **views only grow** — what a reader was shown it is shown again by every later
  answer (`Feed.Sound.view_mono`);
* **answers arrive** — what was stored when a reader was served is shown to it
  once no answer is on its way (`Feed.Sound.promised_mono`).

Nothing here mentions a particular system.
-/

namespace Takeit.Logic

/-- One reader and writer: the writes that wait, the answers on their way, oldest
first, and the one that was delivered last. -/
structure Reader (κ ν : Type*) where
  outbox : List (κ × ν) := []
  replies : List (List (κ × ν)) := []
  view : List (κ × ν) := []

namespace Reader

variable {κ ν : Type*} (r : Reader κ ν)

/-- The answers a reader has been or will be given, from the last delivered on. -/
def answers : List (List (κ × ν)) := r.view :: r.replies

/-- One more write waits. -/
def put (p : κ × ν) : Reader κ ν := { r with outbox := r.outbox ++ [p] }

/-- Only these writes still wait. -/
def waiting (rest : List (κ × ν)) : Reader κ ν := { r with outbox := rest }

/-- One more answer is on its way. -/
def served (docs : List (κ × ν)) : Reader κ ν := { r with replies := r.replies ++ [docs] }

/-- An answer is delivered, these are left. -/
def shown (docs : List (κ × ν)) (rest : List (List (κ × ν))) : Reader κ ν :=
  { r with replies := rest, view := docs }

end Reader

/-- The store and everybody who uses it. -/
structure Feed (ι κ ν : Type*) where
  stored : κ → Option ν
  readers : ι → Reader κ ν

/-- What can happen. -/
inductive FeedAction (ι κ ν : Type*)
  | write (c : ι) (k : κ) (v : ν)
  | apply (c : ι)
  | serve (c : ι) (docs : List (κ × ν))
  | deliver (c : ι)

namespace Feed

variable {ι κ ν : Type*}

/-- The document is stored, or `c` has written it. -/
def Known (f : Feed ι κ ν) (c : ι) (p : κ × ν) : Prop :=
  f.stored p.1 = some p.2 ∨ p ∈ (f.readers c).outbox

/-- The document is stored or waits somewhere. -/
def Present (f : Feed ι κ ν) (p : κ × ν) : Prop :=
  f.stored p.1 = some p.2 ∨ ∃ c, p ∈ (f.readers c).outbox

/-- `c` has been shown the document, or an answer with it is on its way. -/
def Promised (f : Feed ι κ ν) (c : ι) (p : κ × ν) : Prop :=
  ∃ docs ∈ (f.readers c).answers, p ∈ docs

/-- The key is taken. -/
def Used (f : Feed ι κ ν) (k : κ) : Prop :=
  f.stored k ≠ none ∨ ∃ c v, (k, v) ∈ (f.readers c).outbox

variable [DecidableEq ι] [DecidableEq κ]

/-- The feed with one reader changed. -/
def setReader (f : Feed ι κ ν) (c : ι) (r : Reader κ ν) : Feed ι κ ν :=
  { f with readers := Function.update f.readers c r }

/-- The feed with one document stored. -/
def store (f : Feed ι κ ν) (p : κ × ν) : Feed ι κ ν :=
  { f with stored := Function.update f.stored p.1 (some p.2) }

/-- Every way a step can go. -/
inductive Step (f : Feed ι κ ν) : FeedAction ι κ ν → Feed ι κ ν → Prop
  | write {c k v} : ¬ f.Used k → Step f (.write c k v)
      (f.setReader c ((f.readers c).put (k, v)))
  | apply {c p rest} : (f.readers c).outbox = p :: rest →
      Step f (.apply c) ((f.setReader c ((f.readers c).waiting rest)).store p)
  | serve {c docs} : (docs.map Prod.fst).Nodup → (∀ p, p ∈ docs ↔ f.Known c p) →
      Step f (.serve c docs) (f.setReader c ((f.readers c).served docs))
  | deliver {c docs rest} : (f.readers c).replies = docs :: rest →
      Step f (.deliver c) (f.setReader c ((f.readers c).shown docs rest))

/-- Nobody has written or been served anything. -/
def Quiet (f : Feed ι κ ν) : Prop := ∀ c, f.readers c = {}

/-! ## One reader changed -/

section SetReader

variable {f : Feed ι κ ν} {c : ι} {r : Reader κ ν} {p q : κ × ν}

omit [DecidableEq κ] in
@[simp] theorem readers_setReader_self : (f.setReader c r).readers c = r := by
  simp [setReader]

omit [DecidableEq κ] in
@[simp] theorem readers_setReader_ne {d : ι} (h : d ≠ c) :
    (f.setReader c r).readers d = f.readers d := by
  simp [setReader, h]

omit [DecidableEq ι] in
@[simp] theorem readers_store : (f.store p).readers = f.readers := rfl

omit [DecidableEq ι] in
@[simp] theorem stored_store_self : (f.store p).stored p.1 = some p.2 := by
  simp [store]

omit [DecidableEq ι] in
@[simp] theorem stored_store_ne {k : κ} (h : k ≠ p.1) : (f.store p).stored k = f.stored k := by
  simp [store, h]

omit [DecidableEq κ] in
theorem outbox_setReader (h : r.outbox = (f.readers c).outbox) (d : ι) :
    ((f.setReader c r).readers d).outbox = (f.readers d).outbox := by
  by_cases hd : d = c
  · rw [hd, readers_setReader_self, h]
  · rw [readers_setReader_ne hd]

omit [DecidableEq κ] in
theorem answers_setReader (h : r.answers = (f.readers c).answers) (d : ι) :
    ((f.setReader c r).readers d).answers = (f.readers d).answers := by
  by_cases hd : d = c
  · rw [hd, readers_setReader_self, h]
  · rw [readers_setReader_ne hd]

omit [DecidableEq κ] in
/-- Who has the same outbox knows the same. -/
theorem known_setReader (h : r.outbox = (f.readers c).outbox) (d : ι) :
    (f.setReader c r).Known d p ↔ f.Known d p := by
  show f.stored p.1 = some p.2 ∨ p ∈ ((f.setReader c r).readers d).outbox ↔ _
  rw [outbox_setReader h]
  rfl

omit [DecidableEq κ] in
/-- Who has the same outboxes has the same documents present. -/
theorem present_setReader (h : r.outbox = (f.readers c).outbox) :
    (f.setReader c r).Present p ↔ f.Present p := by
  show (_ ∨ ∃ d, p ∈ ((f.setReader c r).readers d).outbox) ↔ _
  simp only [outbox_setReader h]
  rfl

omit [DecidableEq κ] in
theorem known_served (docs : List (κ × ν)) (d : ι) :
    (f.setReader c ((f.readers c).served docs)).Known d p ↔ f.Known d p :=
  known_setReader (r := (f.readers c).served docs) rfl d

omit [DecidableEq κ] in
theorem known_shown (docs : List (κ × ν)) (rest : List (List (κ × ν))) (d : ι) :
    (f.setReader c ((f.readers c).shown docs rest)).Known d p ↔ f.Known d p :=
  known_setReader (r := (f.readers c).shown docs rest) rfl d

omit [DecidableEq κ] in
/-- One more write in an outbox. -/
theorem mem_outbox_put {d : ι} : p ∈ ((f.setReader c ((f.readers c).put q)).readers d).outbox ↔
    p ∈ (f.readers d).outbox ∨ d = c ∧ p = q := by
  by_cases hd : d = c
  · subst hd
    simp [Reader.put]
  · rw [readers_setReader_ne hd]
    simp [hd]

omit [DecidableEq κ] in
/-- One write less. -/
theorem mem_outbox_waiting {rest : List (κ × ν)} {d : ι}
    (houtbox : (f.readers c).outbox = q :: rest) : p ∈ (f.readers d).outbox ↔
      p ∈ ((f.setReader c ((f.readers c).waiting rest)).readers d).outbox ∨ d = c ∧ p = q := by
  by_cases hd : d = c
  · subst hd
    simp [Reader.waiting, houtbox, or_comm]
  · simp [hd]

end SetReader

end Feed

/-- The system. -/
def feed (ι κ ν : Type*) [DecidableEq ι] [DecidableEq κ] : Lts (Feed ι κ ν) (FeedAction ι κ ν) where
  init := Feed.Quiet
  step := Feed.Step

namespace Feed

variable {ι κ ν : Type*} {f f' : Feed ι κ ν} {a : FeedAction ι κ ν} {c d : ι} {p q : κ × ν}

/-! ## Keys are taken once -/

/-- A key that waits is not stored and waits only once, and what a reader is
given is known to it and given again by all later answers. -/
structure Sound (f : Feed ι κ ν) : Prop where
  waits : ∀ c, ∀ p ∈ (f.readers c).outbox, f.stored p.1 = none
  once : ∀ c, ((f.readers c).outbox.map Prod.fst).Nodup
  apart : ∀ c d, ∀ p ∈ (f.readers c).outbox, ∀ q ∈ (f.readers d).outbox, p.1 = q.1 → c = d
  nested : ∀ c, (f.readers c).answers.Pairwise fun before after => ∀ p ∈ before, p ∈ after
  known : ∀ c, ∀ docs ∈ (f.readers c).answers, ∀ p ∈ docs, f.Known c p
  distinct : ∀ c, ∀ docs ∈ (f.readers c).answers, (docs.map Prod.fst).Nodup

theorem Quiet.sound (h : f.Quiet) : f.Sound := by
  have houtbox : ∀ c, (f.readers c).outbox = [] := fun c => by rw [h c]
  have hanswers : ∀ c, (f.readers c).answers = [[]] := fun c => by rw [h c]; rfl
  constructor
  case once => exact fun c => by rw [houtbox]; exact List.nodup_nil
  case nested => exact fun c => by rw [hanswers]; exact List.pairwise_singleton _ _
  case distinct => exact fun c => by simp [hanswers]
  all_goals simp [houtbox, hanswers]

variable [DecidableEq ι] [DecidableEq κ]

/-- What a reader knows it goes on knowing. -/
theorem Sound.known_mono (hf : f.Sound) (h : f.Step a f') (hp : f.Known d p) : f'.Known d p := by
  cases h with
  | write _ => exact hp.imp_right fun hp => mem_outbox_put.mpr (.inl hp)
  | @apply c q rest houtbox =>
      have hq : f.stored q.1 = none := hf.waits c q (by rw [houtbox]; exact List.mem_cons_self)
      rcases hp with hp | hp
      · left
        have hne : p.1 ≠ q.1 := by
          intro heq
          rw [heq, hq] at hp
          exact absurd hp (by simp)
        rw [stored_store_ne hne]
        exact hp
      · rcases (mem_outbox_waiting houtbox).mp hp with hp | ⟨-, rfl⟩
        · exact .inr hp
        · exact .inl stored_store_self
  | serve _ _ => exact (known_served _ d).mpr hp
  | deliver _ => exact (known_shown _ _ d).mpr hp

/-- What is present after a step was present before or has just been written. -/
theorem Step.present_iff (h : f.Step a f') (hf : f.Sound) :
    f'.Present p ↔ f.Present p ∨ ∃ c, a = .write c p.1 p.2 := by
  cases h with
  | @write c k v =>
      show (f.stored p.1 = some p.2 ∨ _) ↔ (f.stored p.1 = some p.2 ∨ _) ∨ _
      rw [or_assoc]
      refine or_congr_right ?_
      simp only [mem_outbox_put, exists_or, FeedAction.write.injEq]
      refine or_congr_right ⟨?_, ?_⟩
      · rintro ⟨d, rfl, rfl⟩
        exact ⟨d, rfl, rfl, rfl⟩
      · rintro ⟨d, rfl, rfl, rfl⟩
        exact ⟨c, rfl, rfl⟩
  | @apply c q rest houtbox =>
      have hq : f.stored q.1 = none := hf.waits c q (by rw [houtbox]; exact List.mem_cons_self)
      have hstored : (∃ d, p ∈ (f.readers d).outbox) ↔
          (∃ d, p ∈ ((f.setReader c ((f.readers c).waiting rest)).readers d).outbox) ∨ p = q := by
        simp only [mem_outbox_waiting houtbox, exists_or, exists_eq_left]
      show (_ ∨ ∃ d, p ∈ ((f.setReader c ((f.readers c).waiting rest)).readers d).outbox) ↔
        (_ ∨ _) ∨ _
      rw [hstored]
      by_cases hpq : p.1 = q.1
      · -- the key was free, so that what is stored under it is `q`
        rw [hpq, stored_store_self, hq]
        have hpair : some q.2 = some p.2 ↔ p = q := by
          rw [Option.some.injEq, Prod.ext_iff, eq_comm, and_iff_right hpq]
        rw [hpair]
        simp [or_comm]
      · rw [stored_store_ne hpq]
        have hne : p ≠ q := fun heq => hpq (congrArg Prod.fst heq)
        simp [hne]
        rfl
  | @serve c docs _ _ =>
      rw [present_setReader (r := (f.readers c).served docs) rfl]
      simp
  | @deliver c docs rest _ =>
      rw [present_setReader (r := (f.readers c).shown docs rest) rfl]
      simp

/-! ## The steps keep a feed sound -/

theorem Sound.write {k : κ} {v : ν} (hf : f.Sound) (hk : ¬ f.Used k) :
    (f.setReader c ((f.readers c).put (k, v))).Sound := by
  obtain ⟨hstored, hwaiting⟩ := not_or.mp hk
  have hnew : ∀ d, ∀ p ∈ (f.readers d).outbox, p.1 ≠ k := by
    rintro d ⟨k', v'⟩ hp rfl
    exact hwaiting ⟨d, v', hp⟩
  have hanswers : ∀ d, _ = (f.readers d).answers :=
    answers_setReader (r := (f.readers c).put (k, v)) rfl
  constructor
  · intro d p hp
    show f.stored p.1 = none
    rcases mem_outbox_put.mp hp with hp | ⟨-, rfl⟩
    · exact hf.waits d p hp
    · exact not_not.mp hstored
  · intro d
    by_cases hd : d = c
    · subst hd
      show (((f.setReader d _).readers d).outbox.map Prod.fst).Nodup
      rw [readers_setReader_self, Reader.put, List.map_append, List.nodup_append]
      refine ⟨hf.once d, List.nodup_singleton _, fun k' hk' k'' hk'' => ?_⟩
      obtain ⟨p, hp, rfl⟩ := List.mem_map.mp hk'
      rw [List.mem_singleton.mp hk'']
      exact hnew d p hp
    · rw [readers_setReader_ne hd]
      exact hf.once d
  · intro d e p hp q hq heq
    rcases mem_outbox_put.mp hp with hp' | ⟨rfl, rfl⟩
    · rcases mem_outbox_put.mp hq with hq' | ⟨rfl, rfl⟩
      · exact hf.apart d e p hp' q hq' heq
      · exact absurd heq (hnew d p hp')
    · rcases mem_outbox_put.mp hq with hq' | ⟨rfl, rfl⟩
      · exact absurd heq.symm (hnew e q hq')
      · rfl
  · intro d
    rw [hanswers]
    exact hf.nested d
  · intro d docs hdocs p hp
    rw [hanswers] at hdocs
    exact hf.known_mono (.write hk) (hf.known d docs hdocs p hp)
  · intro d docs hdocs
    rw [hanswers] at hdocs
    exact hf.distinct d docs hdocs

theorem Sound.apply {rest : List (κ × ν)} (hf : f.Sound)
    (houtbox : (f.readers c).outbox = q :: rest) :
    ((f.setReader c ((f.readers c).waiting rest)).store q).Sound := by
  have hback : ∀ d, ∀ p ∈ ((f.setReader c ((f.readers c).waiting rest)).readers d).outbox,
      p ∈ (f.readers d).outbox := fun d p hp => (mem_outbox_waiting houtbox).mpr (.inl hp)
  have hq : q ∈ (f.readers c).outbox := by rw [houtbox]; exact List.mem_cons_self
  have honce := hf.once c
  rw [houtbox, List.map_cons, List.nodup_cons] at honce
  have hanswers : ∀ d, _ = (f.readers d).answers :=
    answers_setReader (r := (f.readers c).waiting rest) rfl
  constructor
  · intro d p hp
    have hne : p.1 ≠ q.1 := by
      intro heq
      obtain rfl := hf.apart d c p (hback d p hp) q hq heq
      -- the key would have waited twice
      have hrest : p ∈ rest := by
        rwa [readers_store, readers_setReader_self] at hp
      exact honce.1 (heq ▸ List.mem_map_of_mem hrest)
    rw [stored_store_ne hne]
    exact hf.waits d p (hback d p hp)
  · intro d
    rw [readers_store]
    by_cases hd : d = c
    · subst hd
      rw [readers_setReader_self]
      exact honce.2
    · rw [readers_setReader_ne hd]
      exact hf.once d
  · intro d e p hp r hr heq
    exact hf.apart d e p (hback d p hp) r (hback e r hr) heq
  · intro d
    rw [readers_store, hanswers]
    exact hf.nested d
  · intro d docs hdocs p hp
    rw [readers_store, hanswers] at hdocs
    exact hf.known_mono (.apply houtbox) (hf.known d docs hdocs p hp)
  · intro d docs hdocs
    rw [readers_store, hanswers] at hdocs
    exact hf.distinct d docs hdocs

omit [DecidableEq κ] in
/-- A reader whose answers have changed. -/
theorem Sound.setReader {r : Reader κ ν} (hf : f.Sound) (houtbox : r.outbox = (f.readers c).outbox)
    (hnested : r.answers.Pairwise fun before after => ∀ p ∈ before, p ∈ after)
    (hknown : ∀ docs ∈ r.answers, ∀ p ∈ docs, f.Known c p)
    (hdistinct : ∀ docs ∈ r.answers, (docs.map Prod.fst).Nodup) : (f.setReader c r).Sound := by
  have hsame := outbox_setReader houtbox
  constructor
  · intro d p hp
    rw [hsame] at hp
    exact hf.waits d p hp
  · intro d
    rw [hsame]
    exact hf.once d
  · intro d e p hp q hq heq
    rw [hsame] at hp hq
    exact hf.apart d e p hp q hq heq
  · intro d
    by_cases hd : d = c
    · rwa [hd, readers_setReader_self]
    · rw [readers_setReader_ne hd]
      exact hf.nested d
  · intro d docs hdocs p hp
    rw [known_setReader houtbox]
    by_cases hd : d = c
    · subst hd
      rw [readers_setReader_self] at hdocs
      exact hknown docs hdocs p hp
    · rw [readers_setReader_ne hd] at hdocs
      exact hf.known d docs hdocs p hp
  · intro d docs hdocs
    by_cases hd : d = c
    · subst hd
      rw [readers_setReader_self] at hdocs
      exact hdistinct docs hdocs
    · rw [readers_setReader_ne hd] at hdocs
      exact hf.distinct d docs hdocs

theorem Sound.step (hf : f.Sound) (h : f.Step a f') : f'.Sound := by
  cases h with
  | write hk => exact hf.write hk
  | apply houtbox => exact hf.apply houtbox
  | @serve c docs hnodup hdocs =>
      have hanswers : ((f.readers c).served docs).answers = (f.readers c).answers ++ [docs] := rfl
      refine hf.setReader rfl ?_ ?_ ?_
      · rw [hanswers, List.pairwise_append]
        refine ⟨hf.nested c, List.pairwise_singleton _ _,
          fun before hbefore after hafter p hp => ?_⟩
        rw [List.mem_singleton.mp hafter, hdocs]
        exact hf.known c before hbefore p hp
      · intro docs' hdocs' p hp
        rw [hanswers] at hdocs'
        rcases List.mem_append.mp hdocs' with hdocs' | hdocs'
        · exact hf.known c docs' hdocs' p hp
        · rw [List.mem_singleton.mp hdocs'] at hp
          exact (hdocs p).mp hp
      · intro docs' hdocs'
        rw [hanswers] at hdocs'
        rcases List.mem_append.mp hdocs' with hdocs' | hdocs'
        · exact hf.distinct c docs' hdocs'
        · rwa [List.mem_singleton.mp hdocs']
  | @deliver c docs rest hreplies =>
      have hanswers : ((f.readers c).shown docs rest).answers = (f.readers c).replies :=
        hreplies.symm
      have hlater : ∀ docs' ∈ (f.readers c).replies, docs' ∈ (f.readers c).answers :=
        fun docs' hdocs' => List.mem_cons_of_mem _ hdocs'
      refine hf.setReader rfl ?_ ?_ ?_ <;> rw [hanswers]
      · exact (List.pairwise_cons.mp (hf.nested c)).2
      · exact fun docs' hdocs' => hf.known c docs' (hlater docs' hdocs')
      · exact fun docs' hdocs' => hf.distinct c docs' (hlater docs' hdocs')

/-- What a reader has been shown it is shown again. -/
theorem Sound.view_mono (hf : f.Sound) (h : f.Step a f') (hp : p ∈ (f.readers d).view) :
    p ∈ (f'.readers d).view := by
  have hkeeps : ∀ c r, r.view = (f.readers c).view → p ∈ ((f.setReader c r).readers d).view := by
    intro c r hview
    by_cases hd : d = c
    · subst hd
      rwa [readers_setReader_self, hview]
    · rwa [readers_setReader_ne hd]
  cases h with
  | write _ => exact hkeeps _ _ rfl
  | apply _ => exact hkeeps _ _ rfl
  | serve _ _ => exact hkeeps _ _ rfl
  | @deliver c docs rest hreplies =>
      by_cases hd : d = c
      · subst hd
        rw [readers_setReader_self]
        -- the answer delivered now is later than the one shown so far
        have hdocs : docs ∈ (f.readers d).replies := by rw [hreplies]; exact List.mem_cons_self
        exact (List.pairwise_cons.mp (hf.nested d)).1 docs hdocs p hp
      · rwa [readers_setReader_ne hd]

/-- An answer that is on its way is shown in the end, or a later one is. -/
theorem Sound.promised_mono (hf : f.Sound) (h : f.Step a f') (hp : f.Promised d p) :
    f'.Promised d p := by
  obtain ⟨docs, hdocs, hp⟩ := hp
  have hkeeps : ∀ c r, (∀ docs ∈ (f.readers c).answers, docs ∈ r.answers) →
      (f.setReader c r).Promised d p := by
    intro c r hr
    refine ⟨docs, ?_, hp⟩
    by_cases hd : d = c
    · subst hd
      rw [readers_setReader_self]
      exact hr docs hdocs
    · rwa [readers_setReader_ne hd]
  cases h with
  | write _ => exact hkeeps _ _ fun _ h => h
  | apply _ => exact hkeeps _ _ fun _ h => h
  | serve _ _ => exact hkeeps _ _ fun _ h => List.mem_append_left _ h
  | @deliver c next rest hreplies =>
      by_cases hd : d = c
      · subst hd
        have hnext : next ∈ (f.readers d).replies := by rw [hreplies]; exact List.mem_cons_self
        rcases List.mem_cons.mp hdocs with rfl | hdocs
        · refine ⟨next, ?_, (List.pairwise_cons.mp (hf.nested d)).1 next hnext p hp⟩
          rw [readers_setReader_self]
          exact List.mem_cons_self
        · refine ⟨docs, ?_, hp⟩
          rw [readers_setReader_self]
          rwa [hreplies] at hdocs
      · refine ⟨docs, ?_, hp⟩
        rwa [readers_setReader_ne hd]

omit [DecidableEq ι] [DecidableEq κ] in
/-- Once no answer is on its way, what was promised is shown. -/
theorem Promised.view (hp : f.Promised c p) (hreplies : (f.readers c).replies = []) :
    p ∈ (f.readers c).view := by
  obtain ⟨docs, hdocs, hp⟩ := hp
  rw [Reader.answers, hreplies] at hdocs
  rwa [← List.mem_singleton.mp hdocs]

/-! ## Runs -/

theorem sound_of_reachable (h : (feed ι κ ν).Reachable f) : f.Sound :=
  h.invariant (fun _ => Quiet.sound) fun _ _ _ hf hst => hf.step hst

/-- What was stored at first and what has been written since is stored or waits,
and nothing else is. -/
theorem present_iff_of_run {es : List (Edge (Feed ι κ ν) (FeedAction ι κ ν))}
    (h : (feed ι κ ν).Run es f) : f.Present p ↔
      (Lts.origin es f).Present p ∨ ∃ c, .write c p.1 p.2 ∈ es.map Edge.act := by
  induction h with
  | start _ => simp [Lts.origin]
  | @step es s a t hrun hst ih =>
      rw [hst.present_iff (sound_of_reachable ⟨es, hrun⟩), ih, Lts.origin_step, or_assoc]
      refine or_congr_right ?_
      simp only [List.map_append, List.map_singleton, List.mem_append, List.mem_singleton,
        exists_or, eq_comm]

end Feed

end Takeit.Logic
