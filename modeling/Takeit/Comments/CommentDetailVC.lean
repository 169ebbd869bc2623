import Takeit.Foundation
import Takeit.Logic.Lts
import Takeit.Logic.Requests
import Takeit.Models
import Takeit.UIKit

/-!
# The comment page (`CommentDetailVC.swift`, `CommentDetailCell.swift`)

The comments of one movie, newest first, with two dialogs: one in which a
comment with a rating is written, and one in which the comment of a swiped row
is reported for a reason.

`tableView.dequeueReusableCell` hands out a cell of the reuse pool or a new one;
which one is an input of the step that asks for it. The pool and the cells not
made yet are one supply of numbered cells.
-/

namespace Takeit

open Takeit.Logic Takeit.Firestore

/-- `movieID`, as `viewDidLoad` sets it. -/
def commentMovieID : String := "2gqYScw0gbYnCQmPul7v"

/-- The user both dialogs write under. -/
def commentUserID : String := "SJwwaqgTGiQRxjdlwYV6Yhj6Kb33"

/-- The reasons the picker offers. -/
def reportRes : List String :=
  ["歧視語言", "色情內容", "散佈廣告", "洩漏劇情", "重複留言", "攻擊他人", "其他原因"]

/-- A star button: its tag and the system image of its normal state. -/
structure Star where
  tag : Nat
  normalImage : String := "star"
deriving DecidableEq, Repr

/-- A `CommentDetailCell`, as the storyboard makes it. Of what is not seen, it
is recorded which download the cell was given last, and that a cell the report
action has taken does not come back to the table. -/
structure CommentCell where
  commentLabel : String := "Label"
  starImage : Option Picture := none
  photoImage : Option Picture := none
  download : Option (Request String) := none
  inTable : Bool := true
deriving DecidableEq, Repr

/-- What lies over the table. -/
inductive CommentScreen
  | list
  | swiped (row : Nat)
  | commentAlert
  | reportAlert (row cell pickerRow : Nat)
  | checkalert
deriving DecidableEq, Repr

/-- The view controller. `queries` counts the calls of `getDocuments` that have
not called back; `downloads` are those of `userPhoto`, by uid. -/
structure CommentDetailVC where
  ratingStar : List Star := []
  commentStars : Int := 0
  commentsArray : List Commenta := []
  comments : Commenta := {}
  reports : Report := {}
  reportedPerson : String := ""
  reportReason : String := ""
  cells : Nat → CommentCell := fun _ => {}
  screen : CommentScreen := .list
  queries : Nat := 0
  downloads : Requests String (Option ImageData) := {}
  commentDocuments : Collection
  reportDocuments : Collection

namespace CommentDetailVC

/-! ## The list -/

/-- `showAllComments()`: the query goes out. -/
def showAllComments (vc : CommentDetailVC) : CommentDetailVC :=
  { vc with queries := vc.queries + 1 }

/-- The page after `viewDidLoad`, over what the two collections hold. -/
def viewDidLoad (commentDocuments reportDocuments : Collection) : CommentDetailVC :=
  showAllComments { commentDocuments, reportDocuments }

/-- `$0.comment_updatetime > $1.comment_updatetime`. -/
def Newer (sw : SwiftString) (a b : Commenta) : Prop :=
  sw.Less b.commentUpdatetime a.commentUpdatetime

instance (sw : SwiftString) : DecidableRel (Newer sw) :=
  fun _ _ => inferInstanceAs (Decidable (sw.Less _ _))

/-- The completion handler of `showAllComments()`; no snapshot is a failed
query. -/
def getDocuments (sw : SwiftString) (vc : CommentDetailVC) :
    Option (List DocumentData) → CommentDetailVC
  | none => vc
  | some documents =>
      { vc with commentsArray := sortedBy (Newer sw) (documents.map Commenta.ofDocumentData) }

/-- `tableView(_:cellForRowAt:)`; `cell` is the one dequeued. -/
def cellForRowAt (vc : CommentDetailVC) (cell row : Nat) : Option CommentDetailVC := do
  let commentb ← vc.commentsArray[row]?
  some { vc with
    reportedPerson := commentb.uid
    cells := Function.update vc.cells cell { vc.cells cell with
      commentLabel := commentb.commentDetail
      starImage := some (.named (text commentb.commentStar ++ "star"))
      download := some (vc.downloads.request cell commentb.uid) }
    downloads := vc.downloads.start cell commentb.uid }

/-- What the completion handler of `getData` puts into the cell: the downloaded
picture, or `noImage` if there are no data. -/
def avatar (r : Request String) : Option ImageData → Picture
  | some imageData => .downloaded r.key imageData
  | none => .named "noImage"

/-- The completion handler that is next runs, for the cell it was made for. -/
def getData (vc : CommentDetailVC) : CommentDetailVC :=
  match vc.downloads.queue with
  | [] => vc
  | (r, data) :: _ => { vc with
      cells := Function.update vc.cells r.slot
        { vc.cells r.slot with photoImage := some (avatar r data) }
      downloads := vc.downloads.handle }

/-! ## The comment dialog -/

/-- One round of the loop of `comment(_:)`. -/
def addStar (vc : CommentDetailVC) (i : Nat) : CommentDetailVC :=
  { vc with commentStars := i, ratingStar := vc.ratingStar ++ [{ tag := i }] }

/-- `comment(_:)`. -/
def comment (vc : CommentDetailVC) : CommentDetailVC :=
  let vc := { vc with commentStars := 0, ratingStar := [] }
  { (List.range 5).foldl addStar vc with screen := .commentAlert }

/-- `ratingStar[i].setImage(UIImage(systemName: image), for: .normal)` for the
listed indices. -/
def setImages (image : String) : List Nat → List Star → Option (List Star)
  | [], stars => some stars
  | i :: rest, stars => do
      let star ← stars[i]?
      setImages image rest (stars.set i { star with normalImage := image })

/-- `rating(_:)`, sent by the star with this tag. -/
def rating (vc : CommentDetailVC) (tag : Nat) : Option CommentDetailVC := do
  let stars ← setImages "star.fill" (List.range (tag + 1)) vc.ratingStar
  -- `tag + 1 ..< 5`
  if tag + 1 ≤ 5 then
    let stars ← setImages "star" (List.range' (tag + 1) (5 - (tag + 1))) stars
    some { vc with ratingStar := stars }
  else none

/-- `addComment(comment:)`. -/
def addComment (vc : CommentDetailVC) (comment : Commenta) : CommentDetailVC :=
  { vc with commentDocuments :=
      vc.commentDocuments.setData comment.commentId comment.documentData }

/-- The handler of 送出 in the comment dialog, with the id Firestore makes, the
time and the text of the text field. -/
def submitComment (vc : CommentDetailVC) (id result text : String) : CommentDetailVC :=
  let comments : Commenta := {
    commentId := id
    commentDetail := text
    commentStar := vc.commentStars
    uid := commentUserID
    commentUpdatetime := result }
  let vc := ({ vc with comments := comments }.addComment comments).showAllComments
  { vc with screen := .checkalert }

/-! ## The report dialog -/

/-- The handler of 檢舉 in the swiped row; it dequeues `cell`, and the picker of
its dialog shows row 0. -/
def report (vc : CommentDetailVC) (row cell : Nat) : CommentDetailVC :=
  { vc with
    cells := Function.update vc.cells cell { vc.cells cell with inTable := false }
    screen := .reportAlert row cell 0 }

/-- `pickerView(_:didSelectRow:inComponent:)`. -/
def didSelectRow (vc : CommentDetailVC) (row : Nat) : Option CommentDetailVC := do
  let reason ← reportRes[row]?
  some { vc with reportReason := reason }

/-- `addReport(report:)`; it writes `reports`. -/
def addReport (vc : CommentDetailVC) : CommentDetailVC :=
  { vc with reportDocuments :=
      vc.reportDocuments.setData vc.reports.reportId vc.reports.documentData }

/-- The handler of 送出 in the report dialog, `commentb` being what it finds in
`commentsArray`. -/
def fileReport (vc : CommentDetailVC) (commentb : Commenta) (cell : Nat) (id result : String) :
    CommentDetailVC :=
  let reports : Report := {
    reportId := id
    uid := commentUserID
    reportUid := commentb.uid
    reportDetail := (vc.cells cell).commentLabel
    reportReason := vc.reportReason
    reportMovieId := commentMovieID
    reportCommentId := commentb.commentId
    reportUpdatetime := result }
  { { vc with reports := reports }.addReport with screen := .checkalert }

/-- The same, `commentsArray[indexPath.row]` read. -/
def submitReport (vc : CommentDetailVC) (row cell : Nat) (id result : String) :
    Option CommentDetailVC := do
  let commentb ← vc.commentsArray[row]?
  some (vc.fileReport commentb cell id result)

/-! ## What is written -/

/-- The document a submitted comment is written as. -/
theorem commentDocuments_submitComment (vc : CommentDetailVC) (id result text : String) :
    (vc.submitComment id result text).commentDocuments id =
      some (Commenta.documentData ⟨commentUserID, text, vc.commentStars, id, result⟩) :=
  Collection.setData_self _ id _

/-- The document a filed report is written as. -/
theorem reportDocuments_fileReport (vc : CommentDetailVC) (commentb : Commenta) (cell : Nat)
    (id result : String) :
    (vc.fileReport commentb cell id result).reportDocuments id =
      some (Report.documentData ⟨commentUserID, id, commentb.uid, (vc.cells cell).commentLabel,
        vc.reportReason, result, commentMovieID, commentb.commentId⟩) :=
  Collection.setData_self _ id _

end CommentDetailVC

/-! ## The page as a transition system -/

/-- What can happen to the page. -/
inductive CommentAction
  | getDocuments (snapshot : Option (List DocumentData))
  | cellForRowAt (cell row : Nat)
  | downloaded (k : Nat) (data : Option ImageData)
  | getData
  | comment
  | rating (tag : Nat)
  | submitComment (id result text : String)
  | swipe (row : Nat)
  | report (cell : Nat)
  | didSelectRow (row : Nat)
  | submitReport (id result : String)
  | dismiss

namespace CommentDetailVC

/-- What UIKit and Firebase may deliver. The comments are others' to change, so
an answer of the query is any list of documents; the table asks for rows that
exist, and dialogs cover it. -/
def permits (vc : CommentDetailVC) : CommentAction → Bool
  | .getDocuments _ => 0 < vc.queries
  | .cellForRowAt cell row => (vc.cells cell).inTable && (row < vc.commentsArray.length)
  | .downloaded k _ => k < vc.downloads.running.length
  | .getData => !vc.downloads.queue.isEmpty
  | .comment =>
      match vc.screen with
      | .list | .swiped _ => true
      | _ => false
  | .rating tag => vc.screen = .commentAlert && tag ∈ vc.ratingStar.map Star.tag
  | .submitComment _ _ _ => vc.screen = .commentAlert
  | .swipe row =>
      match vc.screen with
      | .list | .swiped _ => row < vc.commentsArray.length
      | _ => false
  | .report cell =>
      match vc.screen with
      | .swiped _ => (vc.cells cell).inTable
      | _ => false
  | .didSelectRow row =>
      match vc.screen with
      | .reportAlert _ _ _ => row < reportRes.length
      | _ => false
  | .submitReport _ _ =>
      match vc.screen with
      | .reportAlert _ _ _ => true
      | _ => false
  | .dismiss => vc.screen ≠ .list

/-- The handler that runs. -/
def exec (sw : SwiftString) (vc : CommentDetailVC) : CommentAction → Option CommentDetailVC
  | .getDocuments snapshot => some ({ vc with queries := vc.queries - 1 }.getDocuments sw snapshot)
  | .cellForRowAt cell row => vc.cellForRowAt cell row
  | .downloaded k data => some { vc with downloads := vc.downloads.answer k data }
  | .getData => some vc.getData
  | .comment => some vc.comment
  | .rating tag => vc.rating tag
  | .submitComment id result text => some (vc.submitComment id result text)
  | .swipe row => some { vc with screen := .swiped row }
  | .report cell =>
      match vc.screen with
      | .swiped row => some (vc.report row cell)
      | _ => none
  | .didSelectRow row =>
      match vc.screen with
      | .reportAlert swiped cell _ =>
          { vc with screen := .reportAlert swiped cell row }.didSelectRow row
      | _ => none
  | .submitReport id result =>
      match vc.screen with
      | .reportAlert row cell _ => vc.submitReport row cell id result
      | _ => none
  | .dismiss => some { vc with screen := .list }

/-- One step: an action that is delivered and does not trap. -/
def next (sw : SwiftString) (vc : CommentDetailVC) (a : CommentAction) : Option CommentDetailVC :=
  if vc.permits a then vc.exec sw a else none

end CommentDetailVC

/-- The comment page, from `viewDidLoad` on. -/
def commentPage (sw : SwiftString) : Lts CommentDetailVC CommentAction :=
  .ofNext (fun vc => ∃ comments reports, vc = CommentDetailVC.viewDidLoad comments reports)
    (CommentDetailVC.next sw)

/-- The page over two empty collections. -/
def CommentDetailVC.fresh : CommentDetailVC :=
  CommentDetailVC.viewDidLoad (fun _ => none) fun _ => none

/-- The steps the listed actions take from there. -/
abbrev commentTrace (as : List CommentAction) : List (Edge CommentDetailVC CommentAction) :=
  Lts.trace (CommentDetailVC.next .ascii) .fresh as

/-- Listed actions that are possible make a run. -/
theorem exists_commentTrace (as : List CommentAction) {P : CommentDetailVC → Prop}
    (h : ∃ t ∈ Lts.runList (CommentDetailVC.next .ascii) .fresh as, P t) :
    ∃ s, (commentPage .ascii).Run (commentTrace as) s ∧ P s :=
  Lts.exists_run_trace ⟨_, _, rfl⟩ h

/-! ## The outcomes of a step -/

open CommentDetailVC

/-- Every way a step can go. -/
inductive CommentStep (sw : SwiftString) (vc : CommentDetailVC) :
    CommentAction → CommentDetailVC → Prop
  | listFailed : CommentStep sw vc (.getDocuments none) { vc with queries := vc.queries - 1 }
  | listShown {documents} : CommentStep sw vc (.getDocuments (some documents)) { vc with
      queries := vc.queries - 1
      commentsArray := sortedBy (Newer sw) (documents.map Commenta.ofDocumentData) }
  | configured {cell row commentb} : (vc.cells cell).inTable = true →
      vc.commentsArray[row]? = some commentb →
      CommentStep sw vc (.cellForRowAt cell row) { vc with
        reportedPerson := commentb.uid
        cells := Function.update vc.cells cell { vc.cells cell with
          commentLabel := commentb.commentDetail
          starImage := some (.named (text commentb.commentStar ++ "star"))
          download := some (vc.downloads.request cell commentb.uid) }
        downloads := vc.downloads.start cell commentb.uid }
  | answered {k data} : CommentStep sw vc (.downloaded k data)
      { vc with downloads := vc.downloads.answer k data }
  | pictured {r data rest} : vc.downloads.queue = (r, data) :: rest →
      CommentStep sw vc .getData { vc with
        cells := Function.update vc.cells r.slot
          { vc.cells r.slot with photoImage := some (avatar r data) }
        downloads := vc.downloads.handle }
  | commentOpened : CommentStep sw vc .comment vc.comment
  | rated {tag stars} : vc.screen = .commentAlert → tag ∈ vc.ratingStar.map Star.tag →
      vc.rating tag = some { vc with ratingStar := stars } →
      CommentStep sw vc (.rating tag) { vc with ratingStar := stars }
  | commentSent {id result text} : vc.screen = .commentAlert →
      CommentStep sw vc (.submitComment id result text) (vc.submitComment id result text)
  | swiped {row shown} : vc.commentsArray[row]? = some shown →
      CommentStep sw vc (.swipe row) { vc with screen := .swiped row }
  | reportOpened {row cell} : vc.screen = .swiped row → (vc.cells cell).inTable = true →
      CommentStep sw vc (.report cell) (vc.report row cell)
  | moved {swiped cell before row reason} : vc.screen = .reportAlert swiped cell before →
      reportRes[row]? = some reason →
      CommentStep sw vc (.didSelectRow row)
        { vc with screen := .reportAlert swiped cell row, reportReason := reason }
  | reportSent {row cell pickerRow commentb id result} :
      vc.screen = .reportAlert row cell pickerRow → vc.commentsArray[row]? = some commentb →
      CommentStep sw vc (.submitReport id result) (vc.fileReport commentb cell id result)
  | dismissed : vc.screen ≠ .list → CommentStep sw vc .dismiss { vc with screen := .list }

variable {sw : SwiftString} {vc t : CommentDetailVC} {a : CommentAction}

theorem commentStep_of_next (h : vc.next sw a = some t) : CommentStep sw vc a t := by
  unfold next at h
  split at h
  case isFalse => exact absurd h (by simp)
  rename_i hperm
  cases a with
  | getDocuments snapshot =>
      obtain rfl := Option.some.inj h
      cases snapshot with
      | none => exact .listFailed
      | some documents => exact .listShown
  | cellForRowAt cell row =>
      simp only [exec, cellForRowAt, Option.bind_eq_bind, Option.bind_eq_some_iff] at h
      obtain ⟨commentb, hrow, h⟩ := h
      obtain rfl := Option.some.inj h
      simp only [permits, Bool.and_eq_true] at hperm
      exact .configured hperm.1 hrow
  | downloaded k data =>
      obtain rfl := Option.some.inj h
      exact .answered
  | getData =>
      obtain rfl := Option.some.inj h
      unfold getData
      split
      · rename_i hnil
        exact absurd hperm (by simp [permits, hnil])
      · rename_i r data rest hqueue
        exact .pictured hqueue
  | comment =>
      obtain rfl := Option.some.inj h
      exact .commentOpened
  | rating tag =>
      have hrating : vc.rating tag = some t := h
      simp only [permits, Bool.and_eq_true, decide_eq_true_eq] at hperm
      simp only [exec, rating, Option.bind_eq_bind, Option.bind_eq_some_iff] at h
      obtain ⟨filled, -, h⟩ := h
      split at h
      case isFalse => exact absurd h (by simp)
      simp only [Option.bind_eq_some_iff] at h
      obtain ⟨stars, -, h⟩ := h
      obtain rfl := Option.some.inj h
      exact .rated hperm.1 hperm.2 hrating
  | submitComment id result text =>
      obtain rfl := Option.some.inj h
      exact .commentSent (by simpa [permits] using hperm)
  | swipe row =>
      obtain rfl := Option.some.inj h
      have hrow : row < vc.commentsArray.length := by
        simp only [permits] at hperm
        split at hperm <;> simp_all
      exact .swiped (List.getElem?_eq_getElem hrow)
  | report cell =>
      simp only [exec] at h
      split at h
      · rename_i row hscreen
        obtain rfl := Option.some.inj h
        exact .reportOpened hscreen (by simpa [permits, hscreen] using hperm)
      · exact absurd h (by simp)
  | didSelectRow row =>
      simp only [exec] at h
      split at h
      · rename_i swiped cell before hscreen
        simp only [didSelectRow, Option.bind_eq_bind, Option.bind_eq_some_iff] at h
        obtain ⟨reason, hreason, h⟩ := h
        obtain rfl := Option.some.inj h
        exact .moved hscreen hreason
      · exact absurd h (by simp)
  | submitReport id result =>
      simp only [exec] at h
      split at h
      · rename_i row cell pickerRow hscreen
        simp only [submitReport, Option.bind_eq_bind, Option.bind_eq_some_iff] at h
        obtain ⟨commentb, hrow, h⟩ := h
        obtain rfl := Option.some.inj h
        exact .reportSent hscreen hrow
      · exact absurd h (by simp)
  | dismiss =>
      obtain rfl := Option.some.inj h
      exact .dismissed (by simpa [permits] using hperm)

/-- A step of the page has one of the listed outcomes. -/
theorem commentStep_of_step (h : (commentPage sw).step vc a t) : CommentStep sw vc a t :=
  commentStep_of_next h

/-- Submitting a report returns if the row is still there. -/
theorem next_submitReport {row cell pickerRow : Nat} {commentb : Commenta} (sw : SwiftString)
    (id result : String)
    (hscreen : vc.screen = .reportAlert row cell pickerRow)
    (hrow : vc.commentsArray[row]? = some commentb) :
    vc.next sw (.submitReport id result) = some (vc.fileReport commentb cell id result) := by
  simp [next, permits, exec, submitReport, hscreen, hrow]

end Takeit
