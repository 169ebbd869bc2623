import Mathlib.Data.List.Sort

/-!
# Stable sorting by a "comes before" predicate

`sortedBy before` sorts by a strict weak order and keeps the order of elements
neither of which comes before the other. Besides the two standard facts (a
permutation, and in order) there is the one that says what *another* order
sees of the result: `pairwise_sortedBy_iff` reads a relation off every pair of
the unsorted list, the right way round.

Nothing here mentions a particular kind of element.
-/

namespace Takeit.Logic

/-- `before` is a strict weak order: at most one of two elements comes before
the other, and not coming before is transitive. -/
structure StrictWeak {α : Type*} (before : α → α → Prop) : Prop where
  asymm : ∀ {a b}, before a b → ¬ before b a
  trans_not : ∀ {a b c}, ¬ before a b → ¬ before b c → ¬ before a c

/-- Comparing by a key is a strict weak order. -/
theorem StrictWeak.comap {α β : Type*} {before : β → β → Prop} (h : StrictWeak before)
    (key : α → β) : StrictWeak fun a b => before (key a) (key b) :=
  ⟨h.asymm, h.trans_not⟩

/-- The reverse of a strict weak order is one. -/
theorem StrictWeak.flip {α : Type*} {before : α → α → Prop} (h : StrictWeak before) :
    StrictWeak fun a b => before b a :=
  ⟨h.asymm, fun hab hbc => h.trans_not hbc hab⟩

/-- A linear order compares strictly. -/
theorem StrictWeak.of_linearOrder {α : Type*} [LinearOrder α] :
    StrictWeak fun a b : α => a < b :=
  ⟨fun h => h.asymm, fun hab hbc => not_lt.mpr ((not_lt.mp hbc).trans (not_lt.mp hab))⟩

section Sorting

variable {α : Type*} (before : α → α → Prop) [DecidableRel before]

/-- The stable sort. -/
def sortedBy (xs : List α) : List α := xs.insertionSort fun a b => ¬ before b a

theorem perm_sortedBy (xs : List α) : (sortedBy before xs).Perm xs :=
  List.perm_insertionSort _ xs

variable {before}

theorem pairwise_sortedBy (h : StrictWeak before) (xs : List α) :
    (sortedBy before xs).Pairwise fun a b => ¬ before b a := by
  have htotal : Std.Total fun a b => ¬ before b a := by
    refine ⟨fun a b => ?_⟩
    by_cases hab : before a b
    · exact .inl (h.asymm hab)
    · exact .inr hab
  have htrans : IsTrans α fun a b => ¬ before b a :=
    ⟨fun _ _ _ hab hbc => h.trans_not hbc hab⟩
  exact List.pairwise_insertionSort _ xs

/-- Inserting one element into a sorted list: it precedes what it does not
have to follow. -/
theorem pairwise_orderedInsert_iff (h : StrictWeak before) {q : α → α → Prop} (x : α) :
    ∀ {ys : List α}, ys.Pairwise (fun a b => ¬ before b a) →
    ((ys.orderedInsert (fun a b => ¬ before b a) x).Pairwise q ↔
      (∀ y ∈ ys, if before y x then q y x else q x y) ∧ ys.Pairwise q) := by
  intro ys
  induction ys with
  | nil => simp
  | cons y rest ih =>
      intro hsorted
      obtain ⟨hy, hrest⟩ := List.pairwise_cons.mp hsorted
      by_cases hyx : before y x
      · rw [List.orderedInsert_of_not_le _ _ (not_not.mpr hyx), List.pairwise_cons, ih hrest,
          List.pairwise_cons]
        simp only [List.mem_orderedInsert, List.mem_cons, forall_eq_or_imp, hyx, if_true]
        constructor
        · rintro ⟨⟨hq, hall⟩, hins, hpair⟩
          exact ⟨⟨hq, hins⟩, hall, hpair⟩
        · rintro ⟨⟨hq, hins⟩, hall, hpair⟩
          exact ⟨⟨hq, hall⟩, hins, hpair⟩
      · -- `x` goes first, and so does not follow anything after `y` either
        have hall : ∀ z ∈ rest, ¬ before z x := fun z hz => h.trans_not (hy z hz) hyx
        rw [List.orderedInsert_cons_of_le _ _ hyx, List.pairwise_cons]
        simp only [List.mem_cons, forall_eq_or_imp, hyx, if_false]
        refine and_congr_left fun _ => and_congr_right fun _ => ?_
        refine forall₂_congr fun z hz => ?_
        rw [if_neg (hall z hz)]

/-- A relation holds along the sorted list if it holds of every pair of the
unsorted one, taken the other way round where the second comes before the
first. -/
theorem pairwise_sortedBy_iff (h : StrictWeak before) {q : α → α → Prop} (xs : List α) :
    (sortedBy before xs).Pairwise q ↔
      xs.Pairwise fun a b => if before b a then q b a else q a b := by
  induction xs with
  | nil => simp [sortedBy]
  | cons x rest ih =>
      have hrest : (sortedBy before rest).Pairwise fun a b => ¬ before b a :=
        pairwise_sortedBy h rest
      have hcons : sortedBy before (x :: rest) =
          (sortedBy before rest).orderedInsert (fun a b => ¬ before b a) x := rfl
      rw [hcons, pairwise_orderedInsert_iff h x hrest, List.pairwise_cons, ih]
      simp only [(perm_sortedBy before rest).mem_iff]

/-- The same of what a filter leaves of the sorted list. -/
theorem pairwise_filter_sortedBy_iff (h : StrictWeak before) {q : α → α → Prop} (p : α → Bool)
    (xs : List α) :
    ((sortedBy before xs).filter p).Pairwise q ↔
      (xs.filter p).Pairwise fun a b => if before b a then q b a else q a b := by
  rw [List.pairwise_filter, pairwise_sortedBy_iff h, List.pairwise_filter]
  refine List.Pairwise.iff fun {a b} => ?_
  by_cases hba : before b a
  · simp only [hba, if_true]
    exact ⟨fun hq ha hb => hq hb ha, fun hq hb ha => hq ha hb⟩
  · simp only [hba, if_false]

/-- A list sorted by one order and found in another's nowhere disagrees with
it. -/
theorem forall_of_pairwise_sortedBy {before' : α → α → Prop} (h : StrictWeak before) {xs : List α}
    (hpair : (sortedBy before xs).Pairwise fun a b => ¬ before' b a) :
    ∀ a ∈ xs, ∀ b ∈ xs, before a b → ¬ before' b a := by
  intro a ha b hb
  have hself : ∀ a ∈ sortedBy before xs, before a a → ¬ before' a a :=
    fun a _ haa => absurd haa (h.asymm haa)
  have hforth : (sortedBy before xs).Pairwise fun a b => before a b → ¬ before' b a := by
    refine hpair.imp ?_
    exact fun hab _ => hab
  -- the other way round the sorted list has no such pair
  have hback : (sortedBy before xs).Pairwise fun a b => before b a → ¬ before' a b := by
    refine (pairwise_sortedBy h xs).imp ?_
    exact fun hab hba => absurd hba hab
  have hmem : ∀ a, a ∈ sortedBy before xs ↔ a ∈ xs := fun a => (perm_sortedBy before xs).mem_iff
  exact hforth.forall_of_forall_of_flip hself hback ((hmem a).mpr ha) ((hmem b).mpr hb)

/-- A list sorted by one order is, once sorted by another, still sorted by the
first if no two elements are in strict disagreement. -/
theorem pairwise_sortedBy_of_pairwise {before' : α → α → Prop} (h : StrictWeak before)
    {xs : List α} (hxs : xs.Pairwise fun a b => ¬ before' b a) :
    (sortedBy before xs).Pairwise (fun a b => ¬ before' b a) ↔
      ∀ a ∈ xs, ∀ b ∈ xs, before a b → ¬ before' b a := by
  refine ⟨forall_of_pairwise_sortedBy h, fun hall => ?_⟩
  rw [pairwise_sortedBy_iff h]
  refine hxs.imp_of_mem fun {a b} ha hb hab => ?_
  split
  · rename_i hba
    exact hall b hb a ha hba
  · exact hab

/-- A list sorted by one order is sorted by another if they nowhere disagree,
provided the other puts no two elements in order that the first one leaves in
either. -/
theorem pairwise_sortedBy_iff_forall {before' : α → α → Prop} (h : StrictWeak before)
    {xs : List α}
    (hties : ∀ a ∈ xs, ∀ b ∈ xs, ¬ before a b → ¬ before b a → ¬ before' b a) :
    (sortedBy before xs).Pairwise (fun a b => ¬ before' b a) ↔
      ∀ a ∈ xs, ∀ b ∈ xs, before a b → ¬ before' b a := by
  refine ⟨forall_of_pairwise_sortedBy h, fun hall => ?_⟩
  refine (pairwise_sortedBy h xs).imp_of_mem fun {a b} ha hb hba => ?_
  have ha := (perm_sortedBy before xs).mem_iff.mp ha
  have hb := (perm_sortedBy before xs).mem_iff.mp hb
  by_cases hab : before a b
  · exact hall a ha b hb hab
  · exact hties a ha b hb hab hba

end Sorting

/-- A filter takes nothing away precisely if it lets everything through. -/
theorem perm_filter_iff {α : Type*} (xs : List α) (q : α → Bool) :
    xs.Perm (xs.filter q) ↔ ∀ x ∈ xs, q x = true := by
  constructor
  · intro hperm
    exact List.length_filter_eq_length_iff.mp hperm.length_eq.symm
  · intro hall
    rw [List.filter_eq_self.mpr hall]

/-- The same of a second filter. -/
theorem perm_filter_and_iff {α : Type*} (xs : List α) (p q : α → Bool) :
    (xs.filter q).Perm (xs.filter fun x => p x && q x) ↔ ∀ x ∈ xs, q x = true → p x = true := by
  rw [← List.filter_filter, perm_filter_iff]
  simp only [List.mem_filter, and_imp]

end Takeit.Logic
