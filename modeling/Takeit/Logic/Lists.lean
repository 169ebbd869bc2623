import Mathlib.Data.List.Basic

/-!
# Lists

Lists under a function that may fail, changed in one place, and split at a
separator.
-/

namespace Takeit.Logic

/-! ## Under a partial function -/

section Partial

variable {α β : Type} {f : α → Option β} {xs : List α} {ys : List β}

theorem mapM_eq_some_iff : ∀ {xs : List α} {ys : List β},
    xs.mapM f = some ys ↔ xs.map f = ys.map some := by
  intro xs
  induction xs with
  | nil => intro ys; cases ys <;> simp
  | cons x xs ih =>
      intro ys
      rw [List.mapM_cons, List.map_cons]
      cases ys with
      | nil => cases f x <;> cases xs.mapM f <;> simp
      | cons y ys =>
          simp only [Option.bind_eq_bind, Option.bind_eq_some_iff, Option.pure_def,
            Option.some.injEq, List.cons.injEq, List.map_cons, ih]
          constructor
          · rintro ⟨_, hx, _, hxs, rfl, rfl⟩
            exact ⟨hx, hxs⟩
          · rintro ⟨hx, hxs⟩
            exact ⟨y, hx, ys, hxs, rfl, rfl⟩

theorem exists_of_mem_mapM (h : xs.mapM f = some ys) {y : β} (hy : y ∈ ys) :
    ∃ x ∈ xs, f x = some y := by
  have hmem : some y ∈ xs.map f := by
    rw [mapM_eq_some_iff.mp h]
    exact List.mem_map_of_mem hy
  exact List.mem_map.mp hmem

theorem mem_mapM_of_mem (h : xs.mapM f = some ys) {x : α} (hx : x ∈ xs) :
    ∃ y ∈ ys, f x = some y := by
  have hmem : f x ∈ ys.map some := by
    rw [← mapM_eq_some_iff.mp h]
    exact List.mem_map_of_mem hx
  obtain ⟨y, hy, heq⟩ := List.mem_map.mp hmem
  exact ⟨y, hy, heq.symm⟩

theorem isSome_mapM_iff : (xs.mapM f).isSome = true ↔ ∀ x ∈ xs, (f x).isSome = true := by
  induction xs with
  | nil => simp
  | cons x xs ih =>
      rw [List.mapM_cons, List.forall_mem_cons, ← ih]
      cases f x <;> cases xs.mapM f <;> simp

end Partial

/-! ## Changed in one place -/

theorem zipWith_set {α β γ : Type*} (f : α → β → γ) (x : α) {y : β} :
    ∀ {xs : List α} {ys : List β} {i : Nat}, ys[i]? = some y →
    List.zipWith f (xs.set i x) ys = (List.zipWith f xs ys).set i (f x y) := by
  intro xs
  induction xs with
  | nil => intro ys i _; simp
  | cons x₀ rest ih =>
      intro ys i h
      cases ys with
      | nil => simp
      | cons y₀ ys =>
          cases i with
          | zero =>
              obtain rfl := Option.some.inj h
              rfl
          | succ i =>
              have hset := ih (i := i) h
              simp [hset]

/-- Two ways to change one place of a list are the same if they agree there. -/
theorem set_eq_modify_iff {α : Type*} {xs : List α} {i : Nat} {x y : α} (f : α → α)
    (hx : xs[i]? = some x) : xs.set i y = xs.modify i f ↔ y = f x := by
  obtain ⟨hlt, rfl⟩ := List.getElem?_eq_some_iff.mp hx
  rw [List.modify_eq_set_getElem?, hx]
  constructor
  · intro h
    have hat := congrArg (fun ys : List α => ys[i]?) h
    simpa [hlt] using hat
  · rintro rfl
    rfl

/-! ## Split -/

/-- Two lists are split alike at the first occurrence of `a`. -/
theorem append_cons_inj {α : Type*} {a : α} {xs ys xs' ys' : List α} (h : a ∉ xs) (h' : a ∉ xs') :
    xs ++ a :: ys = xs' ++ a :: ys' ↔ xs = xs' ∧ ys = ys' := by
  constructor
  · intro heq
    rcases List.append_eq_append_iff.mp heq with ⟨zs, rfl, hrest⟩ | ⟨zs, rfl, hrest⟩
    · cases zs with
      | nil => simpa using hrest
      | cons z zs =>
          obtain rfl := (List.cons.inj hrest).1
          exact absurd (List.mem_append_right _ List.mem_cons_self) h'
    · cases zs with
      | nil => simpa [eq_comm] using hrest
      | cons z zs =>
          obtain rfl := (List.cons.inj hrest).1
          exact absurd (List.mem_append_right _ List.mem_cons_self) h
  · rintro ⟨rfl, rfl⟩
    rfl

end Takeit.Logic
