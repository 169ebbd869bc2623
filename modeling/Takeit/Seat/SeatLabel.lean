import Mathlib.Algebra.Order.Group.Nat
import Takeit.Logic.Lists
import Takeit.Seat.SeatList

/-!
# Which seats a label names

The row in a label is the section's number plus the tens of the index, so the
eleventh seat of a section is labelled like the first of the next one.
`labelsDiffer_iff` says for which halls labels are unique: no section reaches
into the rows of a later one that has seats.
-/

namespace Takeit

open Takeit.Logic SeatGrid

/-! ## Labels and lists as texts -/

theorem isDigit_of_mem_text {n : Nat} {c : Char} (h : c ∈ (text n).toList) :
    c.isDigit = true := by
  have htext : text n = n.repr := rfl
  rw [htext, Nat.repr_eq_ofList_toDigits, String.toList_ofList] at h
  exact Nat.isDigit_of_mem_toDigits (by decide) (by decide) h

/-- What is no digit does not occur in the text of a number. -/
theorem notMem_text {c : Char} (h : c.isDigit = false) (n : Nat) : c ∉ (text n).toList := by
  intro hmem
  rw [isDigit_of_mem_text hmem] at h
  exact absurd h (by decide)

theorem toList_seatLabel (p : IndexPath) : (seatLabel p).toList =
    '第' :: ((text (seatNumber p).1).toList ++
      '排' :: ((text (seatNumber p).2).toList ++ ['號'])) := by
  simp [seatLabel]

/-- A label names one row and one seat number. -/
theorem seatLabel_inj {p q : IndexPath} : seatLabel p = seatLabel q ↔
    seatNumber p = seatNumber q := by
  constructor
  · intro h
    have hsep : ∀ n : Nat, '排' ∉ (text n).toList := notMem_text (by decide)
    have hlist := congrArg String.toList h
    rw [toList_seatLabel, toList_seatLabel, List.cons_inj_right,
      append_cons_inj (hsep _) (hsep _)] at hlist
    obtain ⟨hrow, hrest⟩ := hlist
    have hcolumn := List.append_cancel_right hrest
    rw [String.toList_inj, text_inj] at hrow hcolumn
    exact Prod.ext (by omega) (by omega)
  · intro h
    unfold seatLabel
    rw [h]

theorem newline_notMem_seatLabel (p : IndexPath) : '\n' ∉ (seatLabel p).toList := by
  have hrow := notMem_text (c := '\n') (by decide) (seatNumber p).1
  have hcolumn := notMem_text (c := '\n') (by decide) (seatNumber p).2
  simp [toList_seatLabel, hrow, hcolumn]

/-- A stored list is read back line by line. -/
theorem map_seatLabel_of_join : ∀ {ps qs : List IndexPath},
    String.join (seatLines ps) = String.join (seatLines qs) →
    ps.map seatLabel = qs.map seatLabel := by
  have hline : ∀ (p : IndexPath) (ps : List IndexPath),
      (String.join (seatLines (p :: ps))).toList =
        (seatLabel p).toList ++ '\n' :: (String.join (seatLines ps)).toList := by
    intro p ps
    simp [seatLines]
  intro ps
  induction ps with
  | nil =>
      intro qs h
      cases qs with
      | nil => rfl
      | cons q qs =>
          have hlist := congrArg String.toList h
          rw [hline] at hlist
          simp [seatLines] at hlist
  | cons p ps ih =>
      intro qs h
      have hlist := congrArg String.toList h
      cases qs with
      | nil =>
          rw [hline] at hlist
          simp [seatLines] at hlist
      | cons q qs =>
          rw [hline, hline, append_cons_inj (newline_notMem_seatLabel p)
            (newline_notMem_seatLabel q)] at hlist
          obtain ⟨hlabel, hrest⟩ := hlist
          rw [List.map_cons, List.map_cons, String.toList_inj.mp hlabel,
            ih (String.toList_inj.mp hrest)]

/-! ## Halls whose labels are unique -/

/-- Any two cells of the hall have different labels. -/
def SeatLayout.LabelsDiffer (l : SeatLayout) : Prop :=
  ∀ p q, (l.cell? p).isSome → (l.cell? q).isSome → seatLabel p = seatLabel q → p = q

/-- Ten cells to a row, no section reaches a row of a later section with
seats. -/
def SeatLayout.RowsApart (l : SeatLayout) : Prop :=
  ∀ t t' : ClassTitle, t.number < t'.number → l.block t' ≠ [] →
    (l.block t).length ≤ 10 * (t'.number - t.number)

instance (l : SeatLayout) : Decidable l.RowsApart :=
  inferInstanceAs (Decidable (∀ _ _ : ClassTitle, _ → _ → _))

/-- The two branches of `cellForItemAt` compute the same. -/
theorem seatNumber_eq (p : IndexPath) :
    seatNumber p = (p.title.number + 1 + p.row / 10, p.row % 10 + 1) := by
  unfold seatNumber
  split
  · rfl
  · exact Prod.ext (by dsimp only; omega) (by dsimp only; omega)

theorem seatNumber_inj {p q : IndexPath} : seatNumber p = seatNumber q ↔
    p.title.number * 10 + p.row = q.title.number * 10 + q.row := by
  rw [seatNumber_eq, seatNumber_eq, Prod.mk.injEq]
  omega

theorem isSome_cell?_iff {l : SeatLayout} {p : IndexPath} :
    (l.cell? p).isSome ↔ p.row < (l.block p.title).length := by
  simp [SeatLayout.cell?]

/-- In such a hall no earlier section has a cell with the number of a later
one's. -/
theorem SeatLayout.RowsApart.seatNumber_ne {l : SeatLayout} (h : l.RowsApart) {p q : IndexPath}
    (hp : (l.cell? p).isSome) (hq : (l.cell? q).isSome)
    (hlt : p.title.number < q.title.number) : seatNumber p ≠ seatNumber q := by
  rw [isSome_cell?_iff] at hp hq
  have hfit := h p.title q.title hlt (List.ne_nil_of_length_pos (Nat.zero_lt_of_lt hq))
  rw [Ne, seatNumber_inj]
  omega

theorem number_inj : ∀ t t' : ClassTitle, t.number = t'.number → t = t' := by decide

/-- Labels are unique precisely in the halls whose sections keep to rows of
their own; there a stored list names the seats it was made from. -/
theorem labelsDiffer_iff (l : SeatLayout) : (l.LabelsDiffer ↔ l.RowsApart) ∧
    (l.RowsApart → ∀ ps qs : List IndexPath,
      (∀ p ∈ ps, (l.cell? p).isSome) → (∀ q ∈ qs, (l.cell? q).isSome) →
      String.join (seatLines ps) = String.join (seatLines qs) → ps = qs) := by
  have hdiffer : l.RowsApart → l.LabelsDiffer := by
    intro h p q hp hq hlabel
    have hnumber := seatLabel_inj.mp hlabel
    rcases Nat.lt_trichotomy p.title.number q.title.number with hlt | heq | hgt
    · exact absurd hnumber (h.seatNumber_ne hp hq hlt)
    · have htitle := number_inj _ _ heq
      rw [seatNumber_inj, heq] at hnumber
      obtain ⟨t, i⟩ := p
      obtain ⟨t', j⟩ := q
      rw [IndexPath.mk.injEq]
      exact ⟨htitle, by dsimp only at hnumber; omega⟩
    · exact absurd hnumber.symm (h.seatNumber_ne hq hp hgt)
  refine ⟨⟨fun h t t' hlt hne => ?_, hdiffer⟩, fun h ps qs hps hqs hjoin => ?_⟩
  · -- else the cell that many tens further is labelled like the later section's first
    by_contra hlong
    have hfirst : (l.cell? ⟨t', 0⟩).isSome :=
      isSome_cell?_iff.mpr (List.length_pos_of_ne_nil hne)
    have hfar : (l.cell? ⟨t, 10 * (t'.number - t.number)⟩).isSome :=
      isSome_cell?_iff.mpr (by dsimp only; omega)
    have hsame := h _ _ hfar hfirst (seatLabel_inj.mpr (seatNumber_inj.mpr (by dsimp only; omega)))
    have htitle := congrArg IndexPath.title hsame
    dsimp only at htitle
    rw [htitle] at hlt
    exact absurd hlt (Nat.lt_irrefl _)
  · have hlabels := map_seatLabel_of_join hjoin
    have hinj : ∀ p q : IndexPath, p ∈ ps → q ∈ qs → seatLabel p = seatLabel q → p = q :=
      fun p q hp hq => hdiffer h p q (hps p hp) (hqs q hq)
    clear hjoin hps hqs
    induction ps generalizing qs with
    | nil => exact (List.map_eq_nil_iff.mp hlabels.symm).symm
    | cons p ps ih =>
        cases qs with
        | nil => exact absurd hlabels (by simp)
        | cons q qs =>
            rw [List.map_cons, List.map_cons, List.cons.injEq] at hlabels
            rw [hinj p q List.mem_cons_self List.mem_cons_self hlabels.1,
              ih qs hlabels.2 fun p' q' hp hq =>
                hinj p' q' (List.mem_cons_of_mem _ hp) (List.mem_cons_of_mem _ hq)]

/-- Eleven seats in the first section and one in the second. -/
def elevenAndOne : SeatLayout := { one := List.replicate 11 2, two := [2] }

/-- Both `第2排1號`. -/
theorem labelsDiffer_elevenAndOne : ¬ elevenAndOne.LabelsDiffer := by
  intro h
  have hsame := h ⟨.one, 10⟩ ⟨.two, 0⟩ (by decide) (by decide) (by decide)
  exact absurd hsame (by decide)

end Takeit
