import Takeit.Comments.CommentDetailVC

/-!
# What the two dialogs write

Each dialog shows one thing and writes another. The comment dialog shows the
stars of the last tap and stores what its construction loop left in
`commentStars` (`storedRating_iff`). The report dialog shows the picker and
stores what the picker was last moved to, in whichever dialog
(`storedReason_iff`); and it names a comment by the row, in whatever list is
there by then, and by the text of a cell that has just been dequeued
(`reportsSwiped_iff`).
-/

namespace Takeit

open Takeit.Logic Takeit.Firestore

variable {sw : SwiftString} {vc t : CommentDetailVC} {a : CommentAction}
  {es : List (Edge CommentDetailVC CommentAction)}

/-! ## The rating -/

/-- The star tapped last, after a step. -/
def tapStep (last : Option Nat) (e : Edge CommentDetailVC CommentAction) : Option Nat :=
  match e.act with
  | .comment => none
  | .rating tag => some tag
  | _ => last

/-- The star a run has tapped last in the comment dialog it opened last. -/
def lastTap (es : List (Edge CommentDetailVC CommentAction)) : Option Nat := es.foldl tapStep none

theorem lastTap_step (es : List (Edge CommentDetailVC CommentAction))
    (e : Edge CommentDetailVC CommentAction) : lastTap (es ++ [e]) = tapStep (lastTap es) e := by
  simp [lastTap]

/-- The stars a tap fills: the one tapped and those before it. -/
def starsUpTo : Option Nat → Nat
  | none => 0
  | some tag => tag + 1

/-- The row of five stars, the first `n` of them filled. -/
def starRow (n : Nat) : List Star :=
  (List.range 5).map fun i => { tag := i, normalImage := if i < n then "star.fill" else "star" }

/-- The number of stars shown as filled. -/
def CommentDetailVC.filled (vc : CommentDetailVC) : Nat :=
  vc.ratingStar.countP fun star => star.normalImage = "star.fill"

/-- Submitting writes a comment whose rating is the number of filled stars. -/
def CommentDetailVC.StoresRating (vc : CommentDetailVC) : Prop :=
  ∀ id result text, ∃ data, (vc.submitComment id result text).commentDocuments id = some data ∧
    data "Comment_Star" = some (.int vc.filled)

/-- Setting the images of stars that are there returns, and sets these only. -/
theorem setImages_spec (image : String) : ∀ (is : List Nat) (stars : List Star),
    (∀ i ∈ is, i < stars.length) →
    ∃ stars', CommentDetailVC.setImages image is stars = some stars' ∧
      stars'.length = stars.length ∧ ∀ j : Nat, stars'[j]? = stars[j]?.map fun star =>
        if j ∈ is then { star with normalImage := image } else star := by
  intro is
  induction is with
  | nil =>
      intro stars _
      exact ⟨stars, rfl, rfl, fun j => by simp⟩
  | cons i rest ih =>
      intro stars hin
      have hi : i < stars.length := hin i List.mem_cons_self
      let marked := stars.set i { stars[i] with normalImage := image }
      have hmarked : marked.length = stars.length := List.length_set
      obtain ⟨stars', hset, hlength, hstars'⟩ := ih marked fun j hj => by
        rw [hmarked]
        exact hin j (List.mem_cons_of_mem _ hj)
      refine ⟨stars', ?_, hlength.trans hmarked, fun j => ?_⟩
      · simp only [CommentDetailVC.setImages, List.getElem?_eq_getElem hi, Option.bind_eq_bind,
          Option.bind_some]
        exact hset
      · rw [hstars', List.getElem?_set]
        by_cases hj : i = j
        · subst hj
          simp [hi]
        · simp [hj, Ne.symm hj]

theorem starRow_getElem? {n j : Nat} (hj : j < 5) : (starRow n)[j]? =
    some { tag := j, normalImage := if j < n then "star.fill" else "star" } := by
  rw [starRow, List.getElem?_map, List.getElem?_range hj, Option.map_some]

/-- A tap on a star of the row fills it and those before it, and empties the
others. -/
theorem rating_starRow {n tag : Nat} (hrow : vc.ratingStar = starRow n) (htag : tag < 5) :
    vc.rating tag = some { vc with ratingStar := starRow (tag + 1) } := by
  have hlength : (starRow n).length = 5 := by simp [starRow]
  obtain ⟨filled, hfilled, hlength', hfill⟩ := setImages_spec "star.fill"
    (List.range (tag + 1)) (starRow n) fun i hi => by
      have hi' := List.mem_range.mp hi
      omega
  obtain ⟨stars, hstars, -, hempty⟩ := setImages_spec "star"
    (List.range' (tag + 1) (5 - (tag + 1))) filled fun i hi => by
      have hi' := List.mem_range'_1.mp hi
      omega
  have hresult : stars = starRow (tag + 1) := by
    apply List.ext_getElem?
    intro j
    rw [hempty, hfill]
    by_cases hj : j < 5
    · rw [starRow_getElem? hj, starRow_getElem? hj, Option.map_some, Option.map_some]
      by_cases hle : j < tag + 1
      · have hrest : j ∉ List.range' (tag + 1) (5 - (tag + 1)) := by
          rw [List.mem_range'_1]
          omega
        rw [if_pos (List.mem_range.mpr hle), if_neg hrest, if_pos hle]
      · have hrest : j ∈ List.range' (tag + 1) (5 - (tag + 1)) := by
          rw [List.mem_range'_1]
          omega
        rw [if_pos hrest, if_neg (mt List.mem_range.mp hle), if_neg hle]
    · have hnone : ∀ m, (starRow m)[j]? = none := fun m => by
        rw [List.getElem?_eq_none_iff]
        simpa [starRow] using hj
      rw [hnone, hnone]
      rfl
  simp only [CommentDetailVC.rating, hrow, hfilled, Option.bind_eq_bind, Option.bind_some,
    Nat.succ_le_of_lt htag, if_true, hstars, hresult]

/-- An open comment dialog: its stars show the last tap, and `commentStars` is
the tag of the last star that was built. -/
structure RatingState (es : List (Edge CommentDetailVC CommentAction)) (vc : CommentDetailVC) :
    Prop where
  row : vc.ratingStar = starRow (starsUpTo (lastTap es))
  range : starsUpTo (lastTap es) ≤ 5
  stars : vc.commentStars = 4

/-- What a step of an open comment dialog does to it, if it is open then. -/
theorem CommentStep.ratingState (h : CommentStep sw vc a t)
    (hstate : vc.screen = .commentAlert → RatingState es vc) (hopen : t.screen = .commentAlert) :
    RatingState (es ++ [⟨vc, a, t⟩]) t := by
  -- all but the opening and the taps leave the dialog as it was
  have hframe : ∀ {a t}, vc.screen = .commentAlert → t.ratingStar = vc.ratingStar →
      t.commentStars = vc.commentStars → tapStep (lastTap es) ⟨vc, a, t⟩ = lastTap es →
      RatingState (es ++ [⟨vc, a, t⟩]) t := by
    intro a t hscreen hrow hstars htap
    obtain ⟨hrow', hrange, hstars'⟩ := hstate hscreen
    refine ⟨?_, ?_, hstars.trans hstars'⟩
    · rw [lastTap_step, htap, hrow, hrow']
    · rw [lastTap_step, htap]
      exact hrange
  cases h with
  | listFailed | listShown | configured _ _ | answered | pictured _ =>
      exact hframe hopen rfl rfl rfl
  | commentOpened =>
      refine ⟨?_, ?_, rfl⟩
      · rw [lastTap_step]
        rfl
      · rw [lastTap_step]
        exact Nat.zero_le 5
  | @rated tag stars hscreen htag hrating =>
      obtain ⟨hrow, -, hstars⟩ := hstate hscreen
      rw [hrow] at htag
      have hlt : tag < 5 := by simpa [starRow] using htag
      rw [rating_starRow hrow hlt] at hrating
      refine ⟨?_, ?_, hstars⟩
      · rw [lastTap_step, ← Option.some.inj hrating]
        rfl
      · rw [lastTap_step]
        exact Nat.succ_le_of_lt hlt
  | commentSent _ | swiped _ | reportOpened _ _ | moved _ _ | reportSent _ _ | dismissed _ =>
      exact CommentScreen.noConfusion hopen

theorem run_ratingState (h : (commentPage sw).Run es vc) (hopen : vc.screen = .commentAlert) :
    RatingState es vc := by
  induction h with
  | start h0 =>
      obtain ⟨comments, reports, rfl⟩ := h0
      exact CommentScreen.noConfusion hopen
  | step _ hst ih => exact (commentStep_of_step hst).ratingState ih hopen

theorem filled_starRow {n : Nat} (hrow : vc.ratingStar = starRow n) (hn : n ≤ 5) :
    vc.filled = n := by
  unfold CommentDetailVC.filled
  rw [hrow, starRow, List.countP_map]
  have hcount : ∀ n : Fin 6, ((List.range 5).countP fun i =>
      decide ((if i < n.val then "star.fill" else "star") = "star.fill")) = n.val := by decide
  exact hcount ⟨n, by omega⟩

/-- The number stored is `commentStars`. -/
theorem storesRating_iff_commentStars : vc.StoresRating ↔ vc.commentStars = vc.filled := by
  constructor
  · intro h
    obtain ⟨data, hdata, hstar⟩ := h "" "" ""
    rw [CommentDetailVC.commentDocuments_submitComment] at hdata
    rw [← Option.some.inj hdata] at hstar
    have hsame : some (Value.int vc.commentStars) = some (Value.int vc.filled) := hstar
    simpa using hsame
  · intro h id result text
    refine ⟨_, vc.commentDocuments_submitComment id result text, ?_⟩
    rw [← h]
    rfl

/-- An open comment dialog shows the stars up to the one tapped last, and
stores their number precisely if that was the fourth. -/
theorem storedRating_iff (h : (commentPage sw).Run es vc) (hopen : vc.screen = .commentAlert) :
    vc.filled = starsUpTo (lastTap es) ∧ (vc.StoresRating ↔ lastTap es = some 3) := by
  obtain ⟨hrow, hrange, hstars⟩ := run_ratingState h hopen
  have hfilled := filled_starRow hrow hrange
  refine ⟨hfilled, ?_⟩
  rw [storesRating_iff_commentStars, hstars, hfilled]
  cases htap : lastTap es with
  | none => simp [starsUpTo]
  | some tag =>
      simp only [starsUpTo, Option.some.injEq]
      omega

/-- Two dialogs, the first one left; in the second the last tap is on the
fourth star. -/
def fourthStar : List CommentAction := [.comment, .rating 1, .dismiss, .comment, .rating 0, .rating 3]

theorem storedRating_fourthStar : ∃ s, (commentPage .ascii).Run (commentTrace fourthStar) s ∧
    s.filled = 4 ∧ s.StoresRating := by
  obtain ⟨s, hrun, hopen⟩ := exists_commentTrace fourthStar
    (P := fun s => s.screen = .commentAlert) (by decide)
  have htap : lastTap (commentTrace fourthStar) = some 3 := by decide
  obtain ⟨hfilled, hstores⟩ := storedRating_iff hrun hopen
  exact ⟨s, hrun, by rw [hfilled, htap, starsUpTo], hstores.mpr htap⟩

/-- A tap on the second star. -/
def secondStar : List CommentAction := [.comment, .rating 1]

/-- Two stars are shown and four are stored. -/
theorem storedRating_secondStar : ∃ s, (commentPage .ascii).Run (commentTrace secondStar) s ∧
    s.screen = .commentAlert ∧ s.filled = 2 ∧ ¬ s.StoresRating := by
  obtain ⟨s, hrun, hopen, hfilled, hstars⟩ := exists_commentTrace secondStar
    (P := fun s => s.screen = .commentAlert ∧ s.filled = 2 ∧ s.commentStars = 4) (by decide)
  refine ⟨s, hrun, hopen, hfilled, ?_⟩
  rw [storesRating_iff_commentStars, hstars, hfilled]
  decide

/-! ## The reason -/

/-- What a run has done to the pickers: whether that of the report dialog opened
last has been moved, and the row to which any picker was moved last. -/
structure Picking where
  moved : Bool := false
  row : Option Nat := none
deriving DecidableEq

def pickingStep (p : Picking) (e : Edge CommentDetailVC CommentAction) : Picking :=
  match e.act with
  | .report _ => { p with moved := false }
  | .didSelectRow row => ⟨true, some row⟩
  | _ => p

def picking (es : List (Edge CommentDetailVC CommentAction)) : Picking := es.foldl pickingStep {}

theorem picking_step (es : List (Edge CommentDetailVC CommentAction))
    (e : Edge CommentDetailVC CommentAction) : picking (es ++ [e]) = pickingStep (picking es) e := by
  simp [picking]

/-- The reason the picker of the open report dialog shows. -/
def CommentDetailVC.reasonShown (vc : CommentDetailVC) : Option String :=
  match vc.screen with
  | .reportAlert _ _ pickerRow => reportRes[pickerRow]?
  | _ => none

/-- The report with this id, written in the step from `vc` to `t`, has the
reason that was shown. -/
def CommentDetailVC.StoresReason (vc t : CommentDetailVC) (id : String) : Prop :=
  ∃ data reason, t.reportDocuments id = some data ∧ vc.reasonShown = some reason ∧
    data "Report_Reason" = some (.string reason)

/-- `reportReason` is the entry the last movement ended at; the picker of an
open dialog is there too if it was moved, and else at the first entry. -/
structure PickingState (es : List (Edge CommentDetailVC CommentAction)) (vc : CommentDetailVC) :
    Prop where
  reason : vc.reportReason = ((picking es).row.bind (reportRes[·]?)).getD ""
  range : ∀ row, (picking es).row = some row → row < reportRes.length
  shown : ∀ swiped cell pickerRow, vc.screen = .reportAlert swiped cell pickerRow →
    if (picking es).moved then (picking es).row = some pickerRow else pickerRow = 0

theorem CommentStep.pickingState (h : CommentStep sw vc a t) (hstate : PickingState es vc) :
    PickingState (es ++ [⟨vc, a, t⟩]) t := by
  obtain ⟨hreason, hrange, hshown⟩ := hstate
  -- a step that moves no picker and opens no report dialog
  have hframe : pickingStep (picking es) ⟨vc, a, t⟩ = picking es →
      t.reportReason = vc.reportReason →
      (∀ swiped cell pickerRow, t.screen = .reportAlert swiped cell pickerRow →
        vc.screen = .reportAlert swiped cell pickerRow) →
      PickingState (es ++ [⟨vc, a, t⟩]) t := by
    intro hpick hsame hscreen
    have hpicking : picking (es ++ [⟨vc, a, t⟩]) = picking es := by rw [picking_step, hpick]
    refine ⟨?_, ?_, ?_⟩
    · rw [hpicking, hsame, hreason]
    · rw [hpicking]
      exact hrange
    · rw [hpicking]
      exact fun swiped cell pickerRow h => hshown _ _ _ (hscreen swiped cell pickerRow h)
  cases h with
  | listFailed | listShown | configured _ _ | answered | pictured _ | rated _ _ _ =>
      exact hframe rfl rfl fun _ _ _ h => h
  | commentOpened | commentSent _ | swiped _ | reportSent _ _ | dismissed _ =>
      exact hframe rfl rfl fun _ _ _ h => CommentScreen.noConfusion h
  | reportOpened _ _ =>
      refine ⟨?_, ?_, fun swiped cell pickerRow h => ?_⟩
      · rw [picking_step]
        exact hreason
      · rw [picking_step]
        exact hrange
      · rw [picking_step]
        obtain ⟨-, -, rfl⟩ := CommentScreen.reportAlert.inj h
        rfl
  | @moved swiped cell before row reason _ hrow =>
      have hpicking : ∀ t, picking (es ++ [⟨vc, .didSelectRow row, t⟩]) = ⟨true, some row⟩ :=
        fun t => picking_step es _
      refine ⟨?_, ?_, fun swiped cell pickerRow h => ?_⟩
      · rw [hpicking]
        simp [hrow]
      · rw [hpicking]
        rintro _ ⟨⟩
        exact (List.getElem?_eq_some_iff.mp hrow).1
      · rw [hpicking]
        obtain ⟨-, -, rfl⟩ := CommentScreen.reportAlert.inj h
        rfl

theorem run_pickingState (h : (commentPage sw).Run es vc) : PickingState es vc := by
  induction h with
  | start h0 =>
      obtain ⟨comments, reports, rfl⟩ := h0
      exact ⟨rfl, nofun, fun _ _ _ h => CommentScreen.noConfusion h⟩
  | step _ hst ih => exact (commentStep_of_step hst).pickingState ih

/-- Two entries of the picker are the same only in the same row. -/
theorem reportRes_inj {i j : Nat} (hi : i < reportRes.length) (h : reportRes[i]? = reportRes[j]?) :
    i = j := by
  have hnodup : reportRes.Nodup := by decide
  exact (List.getElem?_inj hi hnodup).mp h

/-- The reason stored is `reportReason`. -/
theorem storesReason_iff_reportReason {row cell pickerRow : Nat} {commentb : Commenta}
    {id result : String} (hscreen : vc.screen = .reportAlert row cell pickerRow) :
    vc.StoresReason (vc.fileReport commentb cell id result) id ↔
      reportRes[pickerRow]? = some vc.reportReason := by
  have hshown : vc.reasonShown = reportRes[pickerRow]? := by
    simp [CommentDetailVC.reasonShown, hscreen]
  constructor
  · rintro ⟨data, reason, hdata, hreason, hfield⟩
    rw [CommentDetailVC.reportDocuments_fileReport] at hdata
    rw [← Option.some.inj hdata] at hfield
    have hsame : some (Value.string vc.reportReason) = some (Value.string reason) := hfield
    rw [← hshown, hreason]
    simpa using hsame.symm
  · intro h
    exact ⟨_, vc.reportReason, vc.reportDocuments_fileReport commentb cell id result,
      hshown.trans h, rfl⟩

/-- A report is stored with the reason its dialog shows precisely if the picker
of this dialog has been moved, or the picker moved last, in an earlier one, was
moved to the first row. -/
theorem storedReason_iff {id result : String} (h : (commentPage sw).Run es vc)
    (hst : (commentPage sw).step vc (.submitReport id result) t) :
    vc.StoresReason t id ↔ (picking es).moved = true ∨ (picking es).row = some 0 := by
  obtain ⟨hreason, hrange, hshown⟩ := run_pickingState h
  cases commentStep_of_step hst with
  | @reportSent row cell pickerRow commentb _ _ hscreen _ =>
      have hpicker := hshown _ _ _ hscreen
      rw [storesReason_iff_reportReason hscreen, hreason]
      cases hmoved : (picking es).moved with
      | true =>
          rw [hmoved, if_pos rfl] at hpicker
          have hentry := List.getElem?_eq_getElem (hrange _ hpicker)
          simp [hpicker, hentry]
      | false =>
          rw [hmoved, if_neg Bool.false_ne_true] at hpicker
          subst hpicker
          cases hlast : (picking es).row with
          | none => decide
          | some last =>
              have hentry := List.getElem?_eq_getElem (hrange _ hlast)
              simp only [Option.bind_some, hentry, Option.getD_some, Bool.false_eq_true, false_or,
                Option.some.injEq]
              rw [← hentry]
              constructor
              · intro hsame
                exact (reportRes_inj (by decide) hsame).symm
              · rintro rfl
                rfl

/-- A comment on the server. -/
def praise : Commenta :=
  ⟨"uid-1", "A masterpiece", 5, "comment-1", "2021-03-01 12:00:00"⟩

/-- The comment is listed, its row is swiped, and the report dialog opened with
a new cell. -/
def praiseSwiped : List CommentAction :=
  [.getDocuments (some [praise.documentData]), .cellForRowAt 0 0, .swipe 0, .report 1]

/-- The same, with a movement of the picker. -/
def praiseReason : List CommentAction := praiseSwiped ++ [.didSelectRow 2]

theorem storedReason_moved : ∃ s t,
    (commentPage .ascii).Run (commentTrace praiseReason) s ∧
    (commentPage .ascii).step s (.submitReport "report-1" "2021-03-02 12:00:00") t ∧
    s.StoresReason t "report-1" ∧ s.reasonShown = some "散佈廣告" := by
  obtain ⟨s, hrun, hscreen, harr⟩ := exists_commentTrace praiseReason
    (P := fun s => s.screen = .reportAlert 0 1 2 ∧ s.commentsArray = [praise]) (by decide)
  have hrow : s.commentsArray[0]? = some praise := by rw [harr]; rfl
  have hst := next_submitReport .ascii "report-1" "2021-03-02 12:00:00" hscreen hrow
  refine ⟨s, _, hrun, hst, (storedReason_iff hrun hst).mpr (.inl (by decide)), ?_⟩
  simp [CommentDetailVC.reasonShown, hscreen, reportRes]

/-- The first report of all, with the picker left where it opened, is stored
without a reason. -/
theorem storedReason_notMoved : ∃ s t,
    (commentPage .ascii).Run (commentTrace praiseSwiped) s ∧
    (commentPage .ascii).step s (.submitReport "report-1" "2021-03-02 12:00:00") t ∧
    s.reasonShown = some "歧視語言" ∧ s.reportReason = "" ∧ ¬ s.StoresReason t "report-1" := by
  obtain ⟨s, hrun, hscreen, harr, hreason⟩ := exists_commentTrace praiseSwiped
    (P := fun s => s.screen = .reportAlert 0 1 0 ∧ s.commentsArray = [praise] ∧
      s.reportReason = "") (by decide)
  have hrow : s.commentsArray[0]? = some praise := by rw [harr]; rfl
  refine ⟨s, _, hrun, next_submitReport _ _ _ hscreen hrow, ?_, hreason, ?_⟩
  · simp [CommentDetailVC.reasonShown, hscreen, reportRes]
  · rw [storesReason_iff_reportReason hscreen, hreason]
    decide

/-! ## The comment reported -/

/-- What a run has shown and taken for a report: the comment of the row swiped
last, when it was swiped, whether comments have arrived since, and the text of
the cell the report action dequeued last, when it was dequeued. -/
structure Swipe where
  shown : Option Commenta := none
  reloaded : Bool := false
  taken : String := ""
deriving DecidableEq

def swipeStep (w : Swipe) (e : Edge CommentDetailVC CommentAction) : Swipe :=
  match e.act with
  | .getDocuments (some _) => { w with reloaded := true }
  | .swipe row => { w with shown := e.pre.commentsArray[row]?, reloaded := false }
  | .report cell => { w with taken := (e.pre.cells cell).commentLabel }
  | _ => w

def swipe (es : List (Edge CommentDetailVC CommentAction)) : Swipe := es.foldl swipeStep {}

theorem swipe_step (es : List (Edge CommentDetailVC CommentAction))
    (e : Edge CommentDetailVC CommentAction) : swipe (es ++ [e]) = swipeStep (swipe es) e := by
  simp [swipe]

/-- The row the swipe and the report dialog are about. -/
def CommentScreen.row? : CommentScreen → Option Nat
  | .swiped row | .reportAlert row _ _ => some row
  | _ => none

/-- Submitting returns, and writes a report that names `shown` by its author, its
id and its text. -/
def CommentDetailVC.ReportsComment (sw : SwiftString) (vc : CommentDetailVC) (shown : Commenta) :
    Prop :=
  ∀ id result, ∃ t data, vc.next sw (.submitReport id result) = some t ∧
    t.reportDocuments id = some data ∧
    data "Report_UID" = some (.string shown.uid) ∧
    data "Report_Comment_ID" = some (.string shown.commentId) ∧
    data "Report_Detail" = some (.string shown.commentDetail)

/-- Until comments arrive the swiped row holds what was swiped, and the cell of
an open report dialog keeps its text. -/
structure SwipeState (es : List (Edge CommentDetailVC CommentAction)) (vc : CommentDetailVC) :
    Prop where
  shown : ∀ row, vc.screen.row? = some row → ∃ shown, (swipe es).shown = some shown ∧
    ((swipe es).reloaded = false → vc.commentsArray[row]? = some shown)
  taken : ∀ row cell pickerRow, vc.screen = .reportAlert row cell pickerRow →
    (vc.cells cell).inTable = false ∧ (vc.cells cell).commentLabel = (swipe es).taken

theorem CommentStep.swipeState (h : CommentStep sw vc a t) (hstate : SwipeState es vc) :
    SwipeState (es ++ [⟨vc, a, t⟩]) t := by
  obtain ⟨hshown, htaken⟩ := hstate
  -- a step that keeps the list and the texts of the cells, or closes the dialog
  have hframe : swipeStep (swipe es) ⟨vc, a, t⟩ = swipe es →
      t.screen.row? = none ∨ t.screen = vc.screen ∧ t.commentsArray = vc.commentsArray ∧
        (∀ cell, (vc.cells cell).inTable = false →
          (t.cells cell).inTable = false ∧
            (t.cells cell).commentLabel = (vc.cells cell).commentLabel) →
      SwipeState (es ++ [⟨vc, a, t⟩]) t := by
    intro hswipe hkeep
    have hswipe' : swipe (es ++ [⟨vc, a, t⟩]) = swipe es := by rw [swipe_step, hswipe]
    refine ⟨fun row hrow => ?_, fun row cell pickerRow hscreen => ?_⟩
    · rcases hkeep with hnone | ⟨hscreen, harr, -⟩
      · rw [hnone] at hrow
        exact absurd hrow (by simp)
      · rw [hswipe', harr]
        exact hshown row (hscreen ▸ hrow)
    · rcases hkeep with hnone | ⟨hsame, -, hcells⟩
      · rw [hscreen] at hnone
        exact absurd hnone (by simp [CommentScreen.row?])
      · obtain ⟨hout, hlabel⟩ := htaken row cell pickerRow (hsame ▸ hscreen)
        rw [hswipe', (hcells cell hout).2]
        exact ⟨(hcells cell hout).1, hlabel⟩
  cases h with
  | listFailed | answered | rated _ _ _ =>
      exact hframe rfl (.inr ⟨rfl, rfl, fun _ hout => ⟨hout, rfl⟩⟩)
  | @configured cell row commentb hin _ =>
      refine hframe rfl (.inr ⟨rfl, rfl, fun cell' hout => ?_⟩)
      -- the cell of the dialog is not the table's to configure
      have hne : cell' ≠ cell := fun heq => by simp [heq, hin] at hout
      simp [hne, hout]
  | @pictured r _ _ _ =>
      refine hframe rfl (.inr ⟨rfl, rfl, fun cell' hout => ?_⟩)
      by_cases heq : cell' = r.slot
      · subst heq
        simp [hout]
      · simp [heq, hout]
  | commentOpened | commentSent _ | reportSent _ _ | dismissed _ => exact hframe rfl (.inl rfl)
  | @listShown documents =>
      refine ⟨fun row hrow => ?_, fun row cell pickerRow hscreen => ?_⟩
      · obtain ⟨shown, hshown', -⟩ := hshown row hrow
        rw [swipe_step]
        exact ⟨shown, hshown', nofun⟩
      · rw [swipe_step]
        exact htaken row cell pickerRow hscreen
  | @swiped row shown hrow =>
      refine ⟨fun row' hrow' => ?_, fun _ _ _ h => CommentScreen.noConfusion h⟩
      obtain rfl : row = row' := Option.some.inj hrow'
      rw [swipe_step]
      exact ⟨shown, hrow, fun _ => hrow⟩
  | @reportOpened row cell hscreen _ =>
      refine ⟨fun row' hrow' => ?_, fun row' cell' pickerRow h => ?_⟩
      · rw [swipe_step]
        exact hshown row' (by rw [hscreen]; exact hrow')
      · rw [swipe_step]
        obtain ⟨-, rfl, -⟩ := CommentScreen.reportAlert.inj h
        simp [CommentDetailVC.report, swipeStep]
  | @moved row cell before pickerRow _ hscreen _ =>
      refine ⟨fun row' hrow' => ?_, fun row' cell' pickerRow' h => ?_⟩
      · rw [swipe_step]
        exact hshown row' (by rw [hscreen]; exact hrow')
      · rw [swipe_step]
        obtain ⟨-, rfl, -⟩ := CommentScreen.reportAlert.inj h
        exact htaken _ _ _ hscreen

theorem run_swipeState (h : (commentPage sw).Run es vc) : SwipeState es vc := by
  induction h with
  | start h0 =>
      obtain ⟨comments, reports, rfl⟩ := h0
      exact ⟨nofun, fun _ _ _ h => CommentScreen.noConfusion h⟩
  | step _ hst ih => exact (commentStep_of_step hst).swipeState ih

/-- A report takes the author and the id from the list and the text from the
cell. -/
theorem reportsComment_iff {row cell pickerRow : Nat} {shown : Commenta}
    (hscreen : vc.screen = .reportAlert row cell pickerRow) :
    vc.ReportsComment sw shown ↔ (vc.cells cell).commentLabel = shown.commentDetail ∧
      ∃ commentb, vc.commentsArray[row]? = some commentb ∧ commentb.uid = shown.uid ∧
        commentb.commentId = shown.commentId := by
  constructor
  · intro h
    obtain ⟨t, data, hnext, hdata, huid, hid, hdetail⟩ := h "" ""
    cases commentStep_of_next hnext with
    | reportSent hscreen' hrow =>
        obtain ⟨rfl, rfl, -⟩ := CommentScreen.reportAlert.inj (hscreen.symm.trans hscreen')
        rw [CommentDetailVC.reportDocuments_fileReport] at hdata
        obtain rfl := Option.some.inj hdata
        have hfield : ∀ {s s' : String}, some (Value.string s) = some (Value.string s') → s = s' := by
          simp
        exact ⟨hfield hdetail, _, hrow, hfield huid, hfield hid⟩
  · rintro ⟨hdetail, commentb, hrow, huid, hid⟩ id result
    refine ⟨_, _, next_submitReport sw id result hscreen hrow,
      vc.reportDocuments_fileReport commentb cell id result, ?_⟩
    rw [← huid, ← hid, ← hdetail]
    exact ⟨rfl, rfl, rfl⟩

/-- An open report dialog reports the comment its row showed when it was swiped
precisely if the cell it dequeued had the text of that comment, and the row of
the list is still that of a comment with this author and id; which it is as
long as no comments have arrived. -/
theorem reportsSwiped_iff {row cell pickerRow : Nat} (h : (commentPage sw).Run es vc)
    (hscreen : vc.screen = .reportAlert row cell pickerRow) :
    ∃ shown, (swipe es).shown = some shown ∧
      (vc.ReportsComment sw shown ↔ (swipe es).taken = shown.commentDetail ∧
        ∃ commentb, vc.commentsArray[row]? = some commentb ∧ commentb.uid = shown.uid ∧
          commentb.commentId = shown.commentId) ∧
      ((swipe es).reloaded = false → vc.commentsArray[row]? = some shown) := by
  obtain ⟨hshown, htaken⟩ := run_swipeState h
  obtain ⟨shown, hswiped, hkept⟩ := hshown row (by rw [hscreen]; rfl)
  refine ⟨shown, hswiped, ?_, hkept⟩
  rw [reportsComment_iff hscreen, (htaken row cell pickerRow hscreen).2]

/-- The cell that showed the comment has gone back to the pool when the action
dequeues one. -/
def praisePooled : List CommentAction :=
  [.getDocuments (some [praise.documentData]), .cellForRowAt 0 0, .cellForRowAt 1 0, .swipe 0,
    .report 0]

theorem reportsSwiped_pooled : ∃ s, (commentPage .ascii).Run (commentTrace praisePooled) s ∧
    s.ReportsComment .ascii praise := by
  obtain ⟨s, hrun, hscreen, harr⟩ := exists_commentTrace praisePooled
    (P := fun s => s.screen = .reportAlert 0 0 0 ∧ s.commentsArray = [praise]) (by decide)
  obtain ⟨shown, hshown, hreports, -⟩ := reportsSwiped_iff hrun hscreen
  have hpraise : (swipe (commentTrace praisePooled)).shown = some praise := by decide
  obtain rfl : praise = shown := Option.some.inj (hpraise.symm.trans hshown)
  refine ⟨s, hrun, hreports.mpr ⟨by decide, praise, ?_, rfl, rfl⟩⟩
  rw [harr]
  rfl

/-- The action dequeues a new cell, as it does while the pool is empty: the
report has the placeholder of the storyboard as the comment's text. -/
theorem reportsSwiped_newCell : ∃ s t, (commentPage .ascii).Run (commentTrace praiseSwiped) s ∧
    (swipe (commentTrace praiseSwiped)).shown = some praise ∧
    (commentPage .ascii).step s (.submitReport "report-1" "2021-03-02 12:00:00") t ∧
    t.reports.reportDetail = "Label" ∧ ¬ s.ReportsComment .ascii praise := by
  obtain ⟨s, hrun, hscreen, harr, hlabel⟩ := exists_commentTrace praiseSwiped
    (P := fun s => s.screen = .reportAlert 0 1 0 ∧ s.commentsArray = [praise] ∧
      (s.cells 1).commentLabel = "Label") (by decide)
  have hrow : s.commentsArray[0]? = some praise := by rw [harr]; rfl
  refine ⟨s, _, hrun, by decide, next_submitReport _ _ _ hscreen hrow, hlabel, ?_⟩
  rw [reportsComment_iff hscreen, hlabel]
  exact fun h => absurd h.1 (by decide)

end Takeit
