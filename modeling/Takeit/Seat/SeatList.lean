import Mathlib.Algebra.BigOperators.Group.List.Basic
import Takeit.Seat.Drawing

/-!
# The seat list over several pays

`seatSelected` is the list a pay stores. A pay appends the labels that were
collected and nothing ever empties it, so with every selected cell drawn once
the list is that of the selection at the first pay (`listsSelection_iff_first`)
and at no later one.
-/

namespace Takeit

open Takeit.Logic Takeit.Firestore

/-- The lines of a seat list. -/
def seatLines (ps : List IndexPath) : List String := ps.map fun p => SeatGrid.seatLabel p ++ "\n"

/-- The list a pay stores names exactly the selected seats, each once. -/
def SeatVC.ListsSelection (vc : SeatVC) (pay : SeatVC.Payment) : Prop :=
  ∃ ps : List IndexPath, ps.Nodup ∧ (∀ p, p ∈ ps ↔ vc.Selected p) ∧
    ∀ ud, pay.save ud "seatSelection" = some (.string (String.join (seatLines ps)))

variable {vc t : SeatVC} {a : SeatAction} {es : List (Edge SeatVC SeatAction)}

/-- Lists of the same lines are of the same length. -/
theorem length_join_perm {ps qs : List IndexPath} (h : ps.Perm qs) :
    (String.join (seatLines ps)).length = (String.join (seatLines qs)).length := by
  unfold seatLines
  rw [String.length_join, String.length_join]
  exact ((h.map _).map _).sum_eq

/-- A seat list that is extended by lines is not empty. -/
theorem listed_ne_empty {g : SeatGrid} (h : g.seatSelectedArray ≠ [] ∨ g.seatSelected ≠ "") :
    g.listed.seatSelected ≠ "" := by
  intro hempty
  have hlength := congrArg String.length hempty
  rw [seatSelected_listed, String.length_append, String.length_empty] at hlength
  rcases h with hne | hne
  · obtain ⟨label, rest, harr⟩ := List.exists_cons_of_ne_nil hne
    rw [harr, List.map_cons, String.join_cons, String.length_append, String.length_append] at hlength
    have hline : ("\n" : String).length = 1 := rfl
    omega
  · exact hne (String.length_eq_zero_iff.mp (by omega))

/-- The seat list is empty as long as there was no pay, and not after one. -/
theorem seatSelected_eq_empty_iff (h : seatPage.Run es vc) :
    vc.seatSelected = "" ↔ ∀ e ∈ es, e.act ≠ .payButton := by
  constructor
  · intro hempty
    induction h with
    | start _ => exact fun e he => absurd he List.not_mem_nil
    | @step es s a t _ hst ih =>
        by_cases hpay : a = .payButton
        · subst hpay
          cases seatStep_of_step hst with
          | paid _ hne => exact absurd hempty (listed_ne_empty (.inl hne))
        · rw [(seatStep_of_step hst).seatSelected hpay] at hempty
          exact (Lts.guards_step (G := fun _ act => act ≠ SeatAction.payButton)).mpr
            ⟨ih hempty, hpay⟩
  · exact seatSelected_unpaid h

/-- A stored list that is right is as long as the list of the selected seats
in any order. -/
theorem SeatVC.ListsSelection.length {pay : SeatVC.Payment} {ps : List IndexPath} {stored : String}
    (h : vc.ListsSelection pay) (hnodup : ps.Nodup) (hmem : ∀ p, p ∈ ps ↔ vc.Selected p)
    (hstored : ∀ ud, pay.save ud "seatSelection" = some (.string stored)) :
    stored.length = (String.join (seatLines ps)).length := by
  obtain ⟨qs, hqs, hmemq, hsaveq⟩ := h
  have hperm : qs.Perm ps := (List.perm_ext_iff_of_nodup hqs hnodup).mpr fun p =>
    (hmemq p).trans (hmem p).symm
  have hsame := (hstored fun _ => none).symm.trans (hsaveq fun _ => none)
  simp only [Option.some.injEq, DefaultsValue.string.injEq] at hsame
  rw [hsame, length_join_perm hperm]

/-- Every selected cell having been drawn exactly once since the last tap, a
pay stores the list of the selected seats precisely if it is the first. -/
theorem listsSelection_iff_first {pay : SeatVC.Payment} (h : seatPage.Run es vc)
    (hdrawn : ∀ p, vc.Selected p → (drawn es).count p = 1) (hpay : vc.payButton = some pay) :
    vc.ListsSelection pay ↔ ∀ e ∈ es, e.act ≠ .payButton := by
  have hcollected := (run_drawState h).collected
  obtain ⟨-, -, -, -, -, -, -, hsave, -⟩ := SeatVC.payButton_spec hpay
  -- the selected cells in the order they were drawn
  let ps := (drawn es).filter (vc.Selected ·)
  have hmem : ∀ p, p ∈ ps ↔ vc.Selected p := by
    intro p
    refine ⟨fun hp => by simpa using (List.mem_filter.mp hp).2, fun hp => ?_⟩
    have honce : p ∈ drawn es := List.count_pos_iff.mp (by rw [hdrawn p hp]; exact Nat.one_pos)
    exact List.mem_filter.mpr ⟨honce, by simpa using hp⟩
  have hnodup : ps.Nodup := by
    rw [List.nodup_iff_count]
    intro p
    by_cases hp : vc.Selected p
    · exact (List.filter_sublist.count_le p).trans (hdrawn p hp).le
    · rw [List.count_eq_zero.mpr fun hmem' => hp ((hmem p).mp hmem')]
      exact Nat.zero_le 1
  have hstored : ∀ ud, pay.save ud "seatSelection" =
      some (.string (vc.seatSelected ++ String.join (seatLines ps))) := by
    intro ud
    rw [hsave, SeatVC.saveData_seatSelection, seatSelected_listed, hcollected.labels,
      List.map_map]
    rfl
  rw [← seatSelected_eq_empty_iff h]
  constructor
  · -- a list with lines of an earlier pay in front is too long in any order
    intro hlists
    have hlength := hlists.length hnodup hmem hstored
    rw [String.length_append] at hlength
    exact String.length_eq_zero_iff.mp (by omega)
  · intro hempty
    refine ⟨ps, hnodup, hmem, fun ud => ?_⟩
    rw [hstored, hempty, String.empty_append]

/-- Both seats are drawn and paid for. -/
theorem listsSelection_bothDrawn : ∃ s pay, seatPage.Run (seatTrace bothDrawn) s ∧
    s.payButton = some pay ∧ pay.vc.seatSelected = "第1排2號\n第1排1號\n" ∧
    s.ListsSelection pay := by
  obtain ⟨s, hrun, ⟨pay, hpay, hlist⟩, hfirst, hdrawn, -⟩ :=
    exists_bothDrawn (P := fun s => ∃ pay ∈ s.payButton,
      pay.vc.seatSelected = "第1排2號\n第1排1號\n") (by decide)
  exact ⟨s, pay, hrun, hpay, hlist, (listsSelection_iff_first hrun hdrawn hpay).mpr hfirst⟩

/-- The same, and the pay button pressed. -/
def bothPaid : List SeatAction := bothDrawn ++ [.payButton]

/-- A second pay for the same two seats stores each of them twice, although
each was drawn once since the last tap. -/
theorem listsSelection_secondPay : ∃ s pay,
    seatPage.Run (seatTrace bothPaid) s ∧ s.payEnabled = true ∧
    s.payButton = some pay ∧
    pay.vc.seatSelected = "第1排2號\n第1排1號\n第1排2號\n第1排1號\n" ∧
    (∀ p, s.Selected p → (drawn (seatTrace bothPaid)).count p = 1) ∧
    ¬ s.ListsSelection pay := by
  obtain ⟨s, hrun, hlayout, hon, pay, hpay, hlist⟩ : ∃ s,
      seatPage.Run (seatTrace bothPaid) s ∧
      s.seatLayout = { one := [3, 3] } ∧ s.payEnabled = true ∧ ∃ pay ∈ s.payButton,
        pay.vc.seatSelected = "第1排2號\n第1排1號\n第1排2號\n第1排1號\n" :=
    Lts.exists_run_trace rfl (by decide)
  have hdrawn : drawn (seatTrace bothPaid) = [⟨.one, 1⟩, ⟨.one, 0⟩] := by
    decide
  obtain ⟨shown, others, sold, -, -, -, hvc, hsave, -⟩ := SeatVC.payButton_spec hpay
  refine ⟨s, pay, hrun, hon, hpay, hlist, fun p hp => ?_, fun hlists => ?_⟩
  · rw [hdrawn]
    rcases (selected_bothDrawn hlayout).mp hp with rfl | rfl <;> decide
  · have hstored : ∀ ud, pay.save ud "seatSelection" = some (.string pay.vc.seatSelected) := by
      intro ud
      rw [hsave, SeatVC.saveData_seatSelection, hvc]
      rfl
    have hnodup : [(⟨.one, 0⟩ : IndexPath), ⟨.one, 1⟩].Nodup := by decide
    have hlength := hlists.length hnodup
      (fun p => by rw [selected_bothDrawn hlayout, List.mem_pair]) hstored
    rw [hlist] at hlength
    exact absurd hlength (by decide)

end Takeit
