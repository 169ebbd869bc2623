import Takeit.Logic.Lts

/-!
# What can still be done

`Leads next A s t`: actions of the kind `A` are possible from `s`, one after the
other, and lead to `t`. Two rules find such actions:

* **measure** — while the measure is positive, some action lowers it
  (`Leads.exists_of_measure`);
* **tasks** — each of a list of tasks has an action that does it and undoes none
  (`Leads.exists_of_tasks`).

Both keep an invariant on the way.
-/

namespace Takeit.Logic.Lts

variable {σ α β : Type*} {next : σ → α → Option σ} {A : α → Prop} {s t u : σ}

/-- The state after two lists of actions. -/
theorem runList_append (s : σ) (as bs : List α) :
    runList next s (as ++ bs) = (runList next s as).bind (runList next · bs) := by
  induction as generalizing s with
  | nil => rfl
  | cons a rest ih =>
      show (next s a).bind (fun t => runList next t (rest ++ bs)) = _
      rw [funext fun t => ih t, ← Option.bind_assoc]
      rfl

/-- Actions of the kind `A` lead from `s` to `t`. -/
def Leads (next : σ → α → Option σ) (A : α → Prop) (s t : σ) : Prop :=
  ∃ as, (∀ a ∈ as, A a) ∧ runList next s as = some t

namespace Leads

theorem refl (s : σ) : Leads next A s s := ⟨[], fun _ ha => absurd ha List.not_mem_nil, rfl⟩

theorem one {a : α} (ha : A a) (h : next s a = some t) : Leads next A s t := by
  refine ⟨[a], fun b hb => ?_, ?_⟩
  · rwa [List.mem_singleton.mp hb]
  · show (next s a).bind _ = _
    rw [h]
    rfl

theorem trans (h : Leads next A s t) (h' : Leads next A t u) : Leads next A s u := by
  obtain ⟨as, has, hst⟩ := h
  obtain ⟨bs, hbs, htu⟩ := h'
  refine ⟨as ++ bs, fun a ha => ?_, ?_⟩
  · rcases List.mem_append.mp ha with ha | ha
    · exact has a ha
    · exact hbs a ha
  · rw [runList_append, hst, Option.bind_some, htu]

/-- What each step keeps is kept. -/
theorem invariant {I : σ → Prop} (hstep : ∀ s a t, A a → I s → next s a = some t → I t)
    (h : Leads next A s t) (hs : I s) : I t := by
  obtain ⟨as, has, hst⟩ := h
  induction as generalizing s with
  | nil =>
      obtain rfl := Option.some.inj hst
      exact hs
  | cons a rest ih =>
      obtain ⟨u, hu, hst⟩ := Option.bind_eq_some_iff.mp hst
      have hu' : I u := hstep s a u (has a List.mem_cons_self) hs hu
      exact ih hu' (fun b hb => has b (List.mem_cons_of_mem _ hb)) hst

theorem reachable {init : σ → Prop} (h : Leads next A s t)
    (hs : (ofNext init next).Reachable s) : (ofNext init next).Reachable t :=
  h.invariant (fun _ a _ _ hr hst => hr.step (a := a) hst) hs

/-- **Measure.** While `μ` is positive, an action of the kind `A` lowers it and keeps
`I`: then it can be brought to zero. -/
theorem exists_of_measure {I : σ → Prop} (μ : σ → Nat)
    (hstep : ∀ s, I s → 0 < μ s → ∃ a t, A a ∧ next s a = some t ∧ I t ∧ μ t < μ s)
    (hs : I s) : ∃ t, Leads next A s t ∧ I t ∧ μ t = 0 := by
  induction hm : μ s using Nat.strongRecOn generalizing s with
  | ind m ih =>
      rcases Nat.eq_zero_or_pos (μ s) with hzero | hpos
      · exact ⟨s, refl s, hs, hzero⟩
      · obtain ⟨a, t, ha, hst, ht, hlt⟩ := hstep s hs hpos
        obtain ⟨u, htu, hu, hzero⟩ := ih (μ t) (hm ▸ hlt) ht rfl
        exact ⟨u, (one ha hst).trans htu, hu, hzero⟩

/-- **Tasks.** The task `x` is done by the action `f x`, which keeps `I` and what is
done already: then all tasks of a list can be done. -/
theorem exists_of_tasks {I : σ → Prop} {D : β → σ → Prop} (f : β → α) {xs : List β}
    (hA : ∀ x, A (f x))
    (hstep : ∀ s x, x ∈ xs → I s →
      ∃ t, next s (f x) = some t ∧ I t ∧ D x t ∧ ∀ y, D y s → D y t)
    (hs : I s) : ∃ t, Leads next A s t ∧ I t ∧ (∀ x ∈ xs, D x t) ∧ ∀ y, D y s → D y t := by
  induction xs generalizing s with
  | nil => exact ⟨s, refl s, hs, fun _ hx => absurd hx List.not_mem_nil, fun _ h => h⟩
  | cons x rest ih =>
      obtain ⟨t, hst, ht, hx, hkeep⟩ := hstep s x List.mem_cons_self hs
      obtain ⟨u, htu, hu, hrest, hkeep'⟩ :=
        ih (fun s y hy => hstep s y (List.mem_cons_of_mem _ hy)) ht
      refine ⟨u, (one (hA x) hst).trans htu, hu, fun y hy => ?_, fun y hy => hkeep' y (hkeep y hy)⟩
      rcases List.mem_cons.mp hy with rfl | hy
      · exact hkeep' _ hx
      · exact hrest y hy

end Leads

end Takeit.Logic.Lts
