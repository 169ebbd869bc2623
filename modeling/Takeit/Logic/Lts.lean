import Mathlib.Data.List.Basic
import Mathlib.Logic.Relation

/-!
# Labelled transition systems

States, actions and runs, with the three rules the rest of the development
instantiates:

* **invariants** — a predicate that holds initially and survives every step
  holds at the end of every run (`Run.invariant`);
* **exact guards** — when a step keeps the property precisely if its guard
  holds, a run keeps the property throughout precisely if all of its steps
  meet the guard (`Run.always_iff`);
* **simulation** — a run is matched, action by action, by a run of a more
  abstract system (`Simulation.run`, and `Refinement.run` where the abstract
  state is a function of the concrete one).

Nothing here mentions a particular system.
-/

namespace Takeit.Logic

/-- A labelled transition system: initial states and labelled steps. -/
structure Lts (σ α : Type*) where
  init : σ → Prop
  step : σ → α → σ → Prop

/-- One step of a run, with the states around it. -/
structure Edge (σ α : Type*) where
  pre : σ
  act : α
  post : σ

namespace Lts

variable {σ α τ β : Type*}

/-- `M.Run es s`: the steps `es`, taken in order from an initial state, lead
to `s`. -/
inductive Run (M : Lts σ α) : List (Edge σ α) → σ → Prop
  | start {s} : M.init s → Run M [] s
  | step {es s a t} : Run M es s → M.step s a t → Run M (es ++ [⟨s, a, t⟩]) t

/-- Some run ends in `s`. -/
def Reachable (M : Lts σ α) (s : σ) : Prop := ∃ es, M.Run es s

/-- Any number of steps from one state to another. -/
def Steps (M : Lts σ α) : σ → σ → Prop :=
  Relation.ReflTransGen fun s t => ∃ a, M.step s a t

/-- The runs of `M` whose steps all meet the guard `G`. -/
def restrict (M : Lts σ α) (G : σ → α → Prop) : Lts σ α where
  init := M.init
  step s a t := M.step s a t ∧ G s a

variable {M : Lts σ α}

/-! ## Invariants -/

theorem Run.invariant {I : σ → Prop} (hinit : ∀ s, M.init s → I s)
    (hstep : ∀ s a t, I s → M.step s a t → I t) {es : List (Edge σ α)} {s : σ}
    (h : M.Run es s) : I s := by
  induction h with
  | start h0 => exact hinit _ h0
  | step _ hst ih => exact hstep _ _ _ ih hst

theorem Reachable.invariant {I : σ → Prop} (hinit : ∀ s, M.init s → I s)
    (hstep : ∀ s a t, I s → M.step s a t → I t) {s : σ} (h : M.Reachable s) : I s := by
  obtain ⟨es, hrun⟩ := h
  exact hrun.invariant hinit hstep

theorem Reachable.step {s t : σ} {a : α} (h : M.Reachable s) (hst : M.step s a t) :
    M.Reachable t := by
  obtain ⟨es, hrun⟩ := h
  exact ⟨_, hrun.step hst⟩

/-- A property kept by the steps out of reachable states is kept by any
number of them. -/
theorem Steps.preserve {P : σ → Prop} {s t : σ} (hs : M.Reachable s)
    (hstep : ∀ s a t, M.Reachable s → P s → M.step s a t → P t)
    (h : M.Steps s t) (hp : P s) : P t := by
  have both : M.Reachable t ∧ P t := by
    induction h with
    | refl => exact ⟨hs, hp⟩
    | tail _ hst ih =>
        obtain ⟨a, hst⟩ := hst
        exact ⟨ih.1.step hst, hstep _ a _ ih.1 ih.2 hst⟩
  exact both.2

theorem Reachable.steps {s t : σ} (h : M.Reachable s) (hsteps : M.Steps s t) : M.Reachable t :=
  hsteps.preserve h (fun _ _ _ _ hr hst => hr.step hst) h

/-- A step of a run is one of the system, out of a reachable state. -/
theorem Run.edge {es : List (Edge σ α)} {s : σ} (h : M.Run es s) :
    ∀ e ∈ es, M.Reachable e.pre ∧ M.step e.pre e.act e.post := by
  induction h with
  | start _ => exact fun e he => absurd he List.not_mem_nil
  | @step es s a t hrun hst ih =>
      intro e he
      rcases List.mem_append.mp he with he | he
      · exact ih e he
      · rw [List.mem_singleton.mp he]
        exact ⟨⟨es, hrun⟩, hst⟩

/-! ## Guarded runs -/

/-- `P` holds in every state the run passes through, its end included. -/
def Throughout (P : σ → Prop) (es : List (Edge σ α)) (s : σ) : Prop :=
  (∀ e ∈ es, P e.pre) ∧ P s

theorem throughout_step {P : σ → Prop} {es : List (Edge σ α)} {s t : σ} {a : α} :
    Throughout P (es ++ [⟨s, a, t⟩]) t ↔ Throughout P es s ∧ P t := by
  constructor
  · rintro ⟨hpre, ht⟩
    refine ⟨⟨fun e he => hpre e (List.mem_append_left _ he), ?_⟩, ht⟩
    exact hpre ⟨s, a, t⟩ (List.mem_append_right _ List.mem_cons_self)
  · rintro ⟨⟨hpre, hs⟩, ht⟩
    refine ⟨fun e he => ?_, ht⟩
    rcases List.mem_append.mp he with he | he
    · exact hpre e he
    · rw [List.mem_singleton.mp he]
      exact hs

theorem guards_step {G : σ → α → Prop} {es : List (Edge σ α)} {s t : σ} {a : α} :
    (∀ e ∈ es ++ [⟨s, a, t⟩], G e.pre e.act) ↔ (∀ e ∈ es, G e.pre e.act) ∧ G s a := by
  simp only [List.mem_append, List.mem_singleton, or_imp, forall_and, forall_eq]

theorem run_restrict_iff {G : σ → α → Prop} {es : List (Edge σ α)} {s : σ} :
    (M.restrict G).Run es s ↔ M.Run es s ∧ ∀ e ∈ es, G e.pre e.act := by
  constructor
  · intro h
    induction h with
    | start h0 => exact ⟨.start h0, fun e he => absurd he List.not_mem_nil⟩
    | step _ hst ih => exact ⟨ih.1.step hst.1, guards_step.mpr ⟨ih.2, hst.2⟩⟩
  · rintro ⟨h, hG⟩
    induction h with
    | start h0 => exact .start h0
    | step _ hst ih =>
        obtain ⟨hbefore, hguard⟩ := guards_step.mp hG
        exact (ih hbefore).step ⟨hst, hguard⟩

/-- **Exact guards.** `J` carries the property `P`; from a `J`-state a step
whose guard holds leads to a `J`-state, and a step that leads to a `P`-state
meets its guard. Then `P` holds in all states of a run precisely if every step
of it meets the guard. -/
theorem Run.always_iff {J P : σ → Prop} {G : σ → α → Prop}
    (hinit : ∀ s, M.init s → J s)
    (hkeep : ∀ s a t, J s → M.step s a t → G s a → J t)
    (hprop : ∀ s, J s → P s)
    (hbreak : ∀ s a t, J s → M.step s a t → P t → G s a)
    {es : List (Edge σ α)} {s : σ} (h : M.Run es s) :
    Throughout P es s ↔ ∀ e ∈ es, G e.pre e.act := by
  constructor
  · intro hP
    have both : J s ∧ ∀ e ∈ es, G e.pre e.act := by
      induction h with
      | start h0 => exact ⟨hinit _ h0, fun e he => absurd he List.not_mem_nil⟩
      | step _ hst ih =>
          obtain ⟨hbefore, hlast⟩ := throughout_step.mp hP
          obtain ⟨hJ, hG⟩ := ih hbefore
          have hguard := hbreak _ _ _ hJ hst hlast
          exact ⟨hkeep _ _ _ hJ hst hguard, guards_step.mpr ⟨hG, hguard⟩⟩
    exact both.2
  · intro hG
    have both : J s ∧ Throughout P es s := by
      induction h with
      | start h0 =>
          exact ⟨hinit _ h0, fun e he => absurd he List.not_mem_nil, hprop _ (hinit _ h0)⟩
      | step _ hst ih =>
          obtain ⟨hbefore, hguard⟩ := guards_step.mp hG
          obtain ⟨hJ, hP⟩ := ih hbefore
          have hJ' := hkeep _ _ _ hJ hst hguard
          exact ⟨hJ', throughout_step.mpr ⟨hP, hprop _ hJ'⟩⟩
    exact both.2

/-- The same for a property of steps: where it holds of a step precisely if the
guard does, it holds of all steps of a run precisely if the guard does. -/
theorem Run.steps_iff {Q : σ → α → σ → Prop} {G : σ → α → Prop}
    (hstep : ∀ s a t, M.Reachable s → M.step s a t → (Q s a t ↔ G s a))
    {es : List (Edge σ α)} {s : σ} (h : M.Run es s) :
    (∀ e ∈ es, Q e.pre e.act e.post) ↔ ∀ e ∈ es, G e.pre e.act := by
  induction h with
  | start _ =>
      exact iff_of_true (fun e he => absurd he List.not_mem_nil)
        (fun e he => absurd he List.not_mem_nil)
  | @step es s a t hrun hst ih =>
      rw [guards_step]
      simp only [List.mem_append, List.mem_singleton, or_imp, forall_and, forall_eq]
      exact and_congr ih (hstep s a t ⟨es, hrun⟩ hst)

/-! ## Simulation -/

/-- `R` relates the states of `A` to those of `B` so that each step of `A` is
matched by the step of `B` it is labelled with, or by none. -/
structure Simulation (A : Lts σ α) (B : Lts τ β) (label : σ → α → Option β)
    (R : σ → τ → Prop) : Prop where
  init : ∀ s, A.init s → ∃ b, B.init b ∧ R s b
  silent : ∀ s b a t, R s b → A.step s a t → label s a = none → R t b
  visible : ∀ s b a t l, R s b → A.step s a t → label s a = some l →
    ∃ b', B.step b l b' ∧ R t b'

/-- The labels a run shows, in order. -/
def labels (label : σ → α → Option β) (es : List (Edge σ α)) : List β :=
  es.filterMap fun e => label e.pre e.act

theorem Simulation.run {A : Lts σ α} {B : Lts τ β} {label : σ → α → Option β}
    {R : σ → τ → Prop} (sim : Simulation A B label R) {es : List (Edge σ α)} {s : σ}
    (h : A.Run es s) :
    ∃ fs b, B.Run fs b ∧ R s b ∧ fs.map Edge.act = labels label es := by
  induction h with
  | start h0 =>
      obtain ⟨b, hb, hR⟩ := sim.init _ h0
      exact ⟨[], b, .start hb, hR, rfl⟩
  | @step es s a t _ hst ih =>
      obtain ⟨fs, b, hrun, hR, hlab⟩ := ih
      cases hl : label s a with
      | none =>
          refine ⟨fs, b, hrun, sim.silent _ _ _ _ hR hst hl, ?_⟩
          simp [labels, hl, hlab]
      | some l =>
          obtain ⟨b', hb', hR'⟩ := sim.visible _ _ _ _ _ hR hst hl
          refine ⟨_, b', hrun.step hb', hR', ?_⟩
          simp [labels, hl, hlab]

/-! ## Refinement mappings -/

/-- The state a run starts from, if it ends in `s`. -/
def origin (es : List (Edge σ α)) (s : σ) : σ := (es.head?.map Edge.pre).getD s

theorem origin_step {es : List (Edge σ α)} {s t : σ} {a : α} :
    origin (es ++ [⟨s, a, t⟩]) t = origin es s := by
  cases es <;> rfl

theorem Run.init_origin {es : List (Edge σ α)} {s : σ} (h : M.Run es s) : M.init (origin es s) := by
  induction h with
  | start h0 => exact h0
  | step _ _ ih => rwa [origin_step]

/-- `f` takes each step of `A` to the step of `B` it is labelled with, or to
none. -/
structure Refinement (A : Lts σ α) (B : Lts τ β) (label : σ → α → Option β) (f : σ → τ) : Prop where
  init : ∀ s, A.init s → B.init (f s)
  silent : ∀ s a t, A.step s a t → label s a = none → f t = f s
  visible : ∀ s a t l, A.step s a t → label s a = some l → B.step (f s) l (f t)

theorem Refinement.run {A : Lts σ α} {B : Lts τ β} {label : σ → α → Option β} {f : σ → τ}
    (ref : Refinement A B label f) {es : List (Edge σ α)} {s : σ} (h : A.Run es s) :
    ∃ fs, B.Run fs (f s) ∧ fs.map Edge.act = labels label es ∧
      origin fs (f s) = f (origin es s) := by
  induction h with
  | start h0 => exact ⟨[], .start (ref.init _ h0), rfl, rfl⟩
  | @step es s a t _ hst ih =>
      obtain ⟨fs, hrun, hlab, horigin⟩ := ih
      rw [origin_step]
      cases hl : label s a with
      | none =>
          rw [ref.silent _ _ _ hst hl]
          exact ⟨fs, hrun, by simp [labels, hl, hlab], horigin⟩
      | some l =>
          refine ⟨_, hrun.step (ref.visible _ _ _ _ hst hl), ?_, ?_⟩
          · simp [labels, hl, hlab]
          · rw [origin_step, horigin]

theorem Refinement.reachable {A : Lts σ α} {B : Lts τ β} {label : σ → α → Option β} {f : σ → τ}
    (ref : Refinement A B label f) {s : σ} (h : A.Reachable s) : B.Reachable (f s) := by
  obtain ⟨es, hrun⟩ := h
  obtain ⟨fs, hrun, -⟩ := ref.run hrun
  exact ⟨fs, hrun⟩

/-- One step more shows its label, if it has one. -/
theorem labels_step {label : σ → α → Option β} {es : List (Edge σ α)} {s t : σ} {a : α} :
    labels label (es ++ [⟨s, a, t⟩]) = labels label es ++ (label s a).toList := by
  unfold labels
  rw [List.filterMap_append]
  cases h : label s a <;> simp [h]

/-- A label the abstract run shows is that of a step. -/
theorem mem_labels {label : σ → α → Option β} {es : List (Edge σ α)} {l : β} :
    l ∈ labels label es ↔ ∃ e ∈ es, label e.pre e.act = some l := by
  rw [labels, List.mem_filterMap]

/-! ## Systems given by a step function -/

/-- The system of a partial step function. -/
def ofNext (init : σ → Prop) (next : σ → α → Option σ) : Lts σ α where
  init := init
  step s a t := next s a = some t

/-- The state after a list of actions, if all of them are possible. -/
def runList (next : σ → α → Option σ) : σ → List α → Option σ
  | s, [] => some s
  | s, a :: rest => (next s a).bind (runList next · rest)

/-- The steps a list of actions takes. -/
def trace (next : σ → α → Option σ) : σ → List α → List (Edge σ α)
  | _, [] => []
  | s, a :: rest =>
      match next s a with
      | none => []
      | some t => ⟨s, a, t⟩ :: trace next t rest

/-- Every step of a trace takes one of the listed actions. -/
theorem act_mem_of_mem_trace {next : σ → α → Option σ} {e : Edge σ α} :
    ∀ {as : List α} {s : σ}, e ∈ trace next s as → e.act ∈ as := by
  intro as
  induction as with
  | nil => intro s he; exact absurd he List.not_mem_nil
  | cons a rest ih =>
      intro s he
      unfold trace at he
      split at he
      · exact absurd he List.not_mem_nil
      · rcases List.mem_cons.mp he with rfl | he
        · exact List.mem_cons_self
        · exact List.mem_cons_of_mem _ (ih he)

theorem Run.append_trace {init : σ → Prop} {next : σ → α → Option σ} :
    ∀ {as : List α} {es : List (Edge σ α)} {s t : σ},
    (ofNext init next).Run es s → runList next s as = some t →
    (ofNext init next).Run (es ++ trace next s as) t := by
  intro as
  induction as with
  | nil =>
      intro es s t hrun heq
      simp only [runList, Option.some.injEq] at heq
      subst heq
      simpa [trace] using hrun
  | cons a rest ih =>
      intro es s t hrun heq
      cases hn : next s a with
      | none => simp [runList, hn] at heq
      | some u =>
          simp only [runList, hn, Option.bind_some] at heq
          have hstep : (ofNext init next).step s a u := hn
          simpa [trace, hn] using ih (hrun.step hstep) heq

/-- A list of actions that is possible from an initial state is a run. -/
theorem run_trace {init : σ → Prop} {next : σ → α → Option σ} {as : List α} {s t : σ}
    (hinit : init s) (h : runList next s as = some t) :
    (ofNext init next).Run (trace next s as) t := by
  simpa using (Run.start (M := ofNext init next) hinit).append_trace h

/-- The same, for a property of its last state. -/
theorem exists_run_trace {init : σ → Prop} {next : σ → α → Option σ} {as : List α} {s : σ}
    {P : σ → Prop} (hinit : init s) (h : ∃ t ∈ runList next s as, P t) :
    ∃ t, (ofNext init next).Run (trace next s as) t ∧ P t := by
  obtain ⟨t, ht, hP⟩ := h
  exact ⟨t, run_trace hinit ht, hP⟩

end Lts

end Takeit.Logic
