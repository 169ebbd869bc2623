import Takeit.Comments.CommentDetailVC
import Takeit.Logic.Calendar
import Takeit.Logic.Digits

/-!
# The order of the comments (`CommentDetailVC.swift`)

A comment is stored with the text of its time, and the list is sorted by these
texts. `newestFirst` says that this is the order of the times.
-/

namespace Takeit

open Takeit.Logic Takeit.Firestore

/-- The characters of a time in the format `yyyy-MM-dd HH:mm:ss`. -/
def timeDigits (t : DateTime) : List Char :=
  padded 4 t.year ++ '-' :: (padded 2 t.month ++ '-' :: (padded 2 t.day ++ ' ' ::
    (padded 2 t.hour ++ ':' :: (padded 2 t.minute ++ ':' :: (padded 2 t.second ++ [])))))

/-- `formatter.string(from:)`. -/
def timeText (t : DateTime) : String := String.ofList (timeDigits t)

/-- The texts compare as the fields. -/
theorem timeDigits_lt_iff {t u : DateTime} : timeDigits t < timeDigits u ↔ DateTime.Before t u := by
  have hyear := t.year_mem.2
  have hyear' := u.year_mem.2
  have hmonth := t.month_mem.2
  have hmonth' := u.month_mem.2
  have hday := t.day_mem.2.trans (daysIn_le t.year t.month)
  have hday' := u.day_mem.2.trans (daysIn_le u.year u.month)
  have hhour := t.hour_lt
  have hhour' := u.hour_lt
  have hminute := t.minute_lt
  have hminute' := u.minute_lt
  have hsecond := t.second_lt
  have hsecond' := u.second_lt
  unfold timeDigits
  rw [padded_append_lt_iff (by decide) (by omega) (by omega), List.cons_lt_cons_self,
    padded_append_lt_iff (by decide) (by omega) (by omega), List.cons_lt_cons_self,
    padded_append_lt_iff (by decide) (by omega) (by omega), List.cons_lt_cons_self,
    padded_append_lt_iff (by decide) (by omega) (by omega), List.cons_lt_cons_self,
    padded_append_lt_iff (by decide) (by omega) (by omega), List.cons_lt_cons_self,
    padded_append_lt_iff (by decide) (by omega) (by omega)]
  simp only [List.not_lt_nil, and_false, or_false]
  rfl

theorem timeText_lt_128 (t : DateTime) : ∀ c ∈ (timeText t).toList, c.toNat < 128 := by
  have hdigit : ∀ width n, ∀ c ∈ padded width n, c.toNat < 128 := fun width n c hc => by
    have hbounds := isDigit_iff.mp (isDigit_of_mem_padded c hc)
    omega
  intro c hc
  rw [timeText, String.toList_ofList, timeDigits] at hc
  simp only [List.mem_append, List.mem_cons, List.not_mem_nil, or_false] at hc
  rcases hc with hc | rfl | hc | rfl | hc | rfl | hc | rfl | hc | rfl | hc
  all_goals first
    | exact hdigit _ _ c hc
    | decide

/-- The texts compare as the times. -/
theorem less_timeText_iff {sw : SwiftString} (hsw : sw.KeepsAscii) {t u : DateTime} :
    sw.Less (timeText t) (timeText u) ↔ t.instant < u.instant := by
  rw [hsw.less_iff (timeText_lt_128 t) (timeText_lt_128 u), timeText, timeText,
    String.toList_ofList, String.toList_ofList, timeDigits_lt_iff, DateTime.instant_lt_iff]

/-- `a` was not written before `b`. -/
def Commenta.NotOlder (a b : Commenta) : Prop :=
  ∃ t u : DateTime, a.commentUpdatetime = timeText t ∧ b.commentUpdatetime = timeText u ∧
    u.instant ≤ t.instant

/-- Documents with the texts of times are listed newest first, and texts of
times compare as the times. -/
theorem newestFirst {sw : SwiftString} (hsw : sw.KeepsAscii) (vc : CommentDetailVC)
    {documents : List DocumentData}
    (htimes : ∀ data ∈ documents,
      ∃ t : DateTime, data "Comment_Updatetime" = some (.string (timeText t))) :
    (vc.getDocuments sw (some documents)).commentsArray.Perm
      (documents.map Commenta.ofDocumentData) ∧
    (vc.getDocuments sw (some documents)).commentsArray.Pairwise Commenta.NotOlder ∧
    ∀ t u : DateTime, sw.Less (timeText t) (timeText u) ↔ t.instant < u.instant := by
  have hperm := perm_sortedBy (CommentDetailVC.Newer sw) (documents.map Commenta.ofDocumentData)
  have htime : ∀ a ∈ (vc.getDocuments sw (some documents)).commentsArray,
      ∃ t : DateTime, a.commentUpdatetime = timeText t := by
    intro a ha
    obtain ⟨data, hdata, rfl⟩ := List.mem_map.mp (hperm.mem_iff.mp ha)
    obtain ⟨t, ht⟩ := htimes data hdata
    refine ⟨t, ?_⟩
    show stringField data "Comment_Updatetime" = _
    rw [stringField, Casts.stringField, ht]
    rfl
  refine ⟨hperm, ?_, fun t u => less_timeText_iff hsw⟩
  have hsorted := pairwise_sortedBy (sw.strictWeak_less.comap Commenta.commentUpdatetime).flip
    (documents.map Commenta.ofDocumentData)
  refine hsorted.imp_of_mem fun {a b} ha hb hba => ?_
  obtain ⟨t, ht⟩ := htime a ha
  obtain ⟨u, hu⟩ := htime b hb
  rw [ht, hu, less_timeText_iff hsw, Nat.not_lt] at hba
  exact ⟨t, u, ht, hu, hba⟩

/-- The last second of a February and the first one of a March. -/
def lastOfFebruary : DateTime :=
  ⟨2024, 2, 29, 23, 59, 59, by decide, by decide, by decide, by decide, by decide, by decide⟩

def firstOfMarch : DateTime :=
  ⟨2024, 3, 1, 0, 0, 0, by decide, by decide, by decide, by decide, by decide, by decide⟩

/-- Comments of these two times. -/
def midnightComments : List DocumentData :=
  [lastOfFebruary, firstOfMarch].map fun t =>
    dictionary [("Comment_Updatetime", .string (timeText t))]

theorem newestFirst_midnight :
    (((CommentDetailVC.viewDidLoad (fun _ => none) fun _ => none).getDocuments .ascii
      (some midnightComments)).commentsArray.Pairwise Commenta.NotOlder) ∧
    SwiftString.ascii.Less (timeText lastOfFebruary) (timeText firstOfMarch) := by
  have htimes : ∀ data ∈ midnightComments,
      ∃ t : DateTime, data "Comment_Updatetime" = some (.string (timeText t)) := by
    intro data hdata
    obtain ⟨t, -, rfl⟩ := List.mem_map.mp hdata
    exact ⟨t, rfl⟩
  obtain ⟨-, hsorted, htexts⟩ := newestFirst SwiftString.keepsAscii_ascii
    (CommentDetailVC.viewDidLoad (fun _ => none) fun _ => none) htimes
  exact ⟨hsorted, (htexts _ _).mpr (by decide +kernel)⟩

end Takeit
