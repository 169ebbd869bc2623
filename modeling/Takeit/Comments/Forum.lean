import Mathlib.Data.Fintype.Basic
import Takeit.Comments.CommentDetailVC
import Takeit.Logic.Feed

/-!
# Many readers and one list of comments

Any number of `CommentDetailVC`s over one comments collection and one reports
collection. What a page hands to `setData` waits in its outbox until the server
applies it, in order. Firestore answers a query with the server's documents and
the client's own that wait, and a client's answers come in the order in which
they were served. Document ids are new when Firestore makes them.

The comments are a `Feed`: `forum_feed` takes every step of the forum to one of
the feed, so that nothing written is lost and no list forgets a comment.
-/

namespace Takeit

open Takeit.Logic Takeit.Firestore

/-- What a page hands to `setData`. -/
inductive Posting
  | comment (c : Commenta)
  | report (r : Report)
deriving DecidableEq

/-- The id and the document of a comment, as written. -/
def Posting.document : Posting → Option (String × DocumentData)
  | .comment c => some (c.commentId, c.documentData)
  | .report _ => none

/-- The id of a report. -/
def Posting.reportId : Posting → Option String
  | .comment _ => none
  | .report r => some r.reportId

/-- A page, with the writes that are on their way to the server, the snapshots
that are on their way to the page, and the one that arrived last. -/
structure ForumClient where
  vc : CommentDetailVC
  outbox : List Posting := []
  replies : List (List (String × DocumentData)) := []
  shown : List (String × DocumentData) := []

/-- The server's collections and the clients. -/
structure Forum (ι : Type) where
  comments : Collection
  reports : Collection
  clients : ι → ForumClient

/-- What can happen. `ui` is an action of the page other than the arrival of
comments. -/
inductive ForumAction (ι : Type)
  | serve (c : ι) (docs : List (String × DocumentData))
  | deliver (c : ι)
  | failed (c : ι)
  | ui (c : ι) (a : CommentAction)
  | apply (c : ι)

namespace ForumClient

variable (sw : SwiftString)

/-- The comments that wait, by document id. -/
def waiting (cl : ForumClient) : List (String × DocumentData) :=
  cl.outbox.filterMap Posting.document

/-- The oldest answer arrives. -/
def deliver (cl : ForumClient) : Option ForumClient :=
  match cl.replies with
  | [] => none
  | docs :: rest => do
      let vc ← cl.vc.next sw (.getDocuments (some (docs.map Prod.snd)))
      some { cl with vc := vc, replies := rest, shown := docs }

/-- A query calls back without a snapshot. -/
def failed (cl : ForumClient) : Option ForumClient := do
  let vc ← cl.vc.next sw (.getDocuments none)
  some { cl with vc := vc }

/-- An action of the page; what it writes is put into the outbox. -/
def ui (cl : ForumClient) (a : CommentAction) : Option ForumClient :=
  match a with
  | .getDocuments _ => none
  | .submitComment id result text => do
      let vc ← cl.vc.next sw (.submitComment id result text)
      some { cl with vc := vc, outbox := cl.outbox ++ [.comment vc.comments] }
  | .submitReport id result => do
      let vc ← cl.vc.next sw (.submitReport id result)
      some { cl with vc := vc, outbox := cl.outbox ++ [.report vc.reports] }
  | a => do
      let vc ← cl.vc.next sw a
      some { cl with vc := vc }

end ForumClient

namespace Forum

variable {ι : Type}

/-- A write of `addComment` or `addReport` is applied. -/
def write (w : Forum ι) : Posting → Forum ι
  | .comment c => { w with comments := w.comments.setData c.commentId c.documentData }
  | .report r => { w with reports := w.reports.setData r.reportId r.documentData }

/-- The id is that of no comment, stored or on its way. -/
def NewComment (w : Forum ι) (id : String) : Prop :=
  w.comments id = none ∧ ∀ c, ∀ p ∈ (w.clients c).waiting, p.1 ≠ id

/-- The id is that of no report, stored or on its way. -/
def NewReport (w : Forum ι) (id : String) : Prop :=
  w.reports id = none ∧ ∀ c, ∀ posting ∈ (w.clients c).outbox, posting.reportId ≠ some id

instance [Fintype ι] (w : Forum ι) (id : String) : Decidable (w.NewComment id) :=
  decidable_of_iff ((w.comments id).isNone = true ∧ ∀ c, ∀ p ∈ (w.clients c).waiting, p.1 ≠ id)
    (and_congr_left' Option.isNone_iff_eq_none)

instance [Fintype ι] (w : Forum ι) (id : String) : Decidable (w.NewReport id) :=
  decidable_of_iff ((w.reports id).isNone = true ∧
    ∀ c, ∀ posting ∈ (w.clients c).outbox, posting.reportId ≠ some id)
    (and_congr_left' Option.isNone_iff_eq_none)

/-- `docs` are the documents of the server, and the client's own that wait, in any
order. -/
structure Serves (w : Forum ι) (c : ι) (docs : List (String × DocumentData)) : Prop where
  nodup : (docs.map Prod.fst).Nodup
  mem_iff : ∀ p, p ∈ docs ↔ w.comments p.1 = some p.2 ∨ p ∈ (w.clients c).waiting

/-- A query that has not been answered is served or fails. -/
def Answers (w : Forum ι) : ForumAction ι → Prop
  | .serve c docs => (w.clients c).replies.length < (w.clients c).vc.queries ∧ w.Serves c docs
  | .failed c => (w.clients c).replies.length < (w.clients c).vc.queries
  | _ => True

/-- The ids of what is submitted are new. -/
def NewIds (w : Forum ι) : ForumAction ι → Prop
  | .ui _ (.submitComment id _ _) => w.NewComment id
  | .ui _ (.submitReport id _) => w.NewReport id
  | _ => True

instance [Fintype ι] (w : Forum ι) : ∀ a, Decidable (w.NewIds a)
  | .ui _ (.submitComment _ _ _) => inferInstanceAs (Decidable (NewComment ..))
  | .ui _ (.submitReport _ _) => inferInstanceAs (Decidable (NewReport ..))
  | .ui _ (.getDocuments _) | .ui _ (.cellForRowAt _ _) | .ui _ (.downloaded _ _) | .ui _ .getData
  | .ui _ .comment | .ui _ (.rating _) | .ui _ (.swipe _) | .ui _ (.report _)
  | .ui _ (.didSelectRow _) | .ui _ .dismiss | .serve _ _ | .deliver _ | .failed _ | .apply _ =>
      inferInstanceAs (Decidable True)

/-- What Firestore delivers. -/
def permits (w : Forum ι) (a : ForumAction ι) : Prop := w.Answers a ∧ w.NewIds a

/-- The documents are comments and reports of the page's own format, and no report
names a comment that is not there. -/
structure OwnDocuments (w : Forum ι) : Prop where
  comments : ∀ id, ∀ data ∈ w.comments id, ∃ c : Commenta, c.commentId = id ∧ data = c.documentData
  reports : ∀ id, ∀ data ∈ w.reports id, ∃ r : Report, r.reportId = id ∧ data = r.documentData ∧
    w.comments r.reportCommentId ≠ none

/-- All pages have just been loaded. -/
def Opened (w : Forum ι) : Prop :=
  w.OwnDocuments ∧ ∀ c, ∃ comments reports,
    w.clients c = { vc := CommentDetailVC.viewDidLoad comments reports }

variable [DecidableEq ι]

/-- The forum with one client changed. -/
def setClient (w : Forum ι) (c : ι) (cl : ForumClient) : Forum ι :=
  { w with clients := Function.update w.clients c cl }

/-- The effect of an action. -/
def next (sw : SwiftString) (w : Forum ι) : ForumAction ι → Option (Forum ι)
  | .serve c docs =>
      some (w.setClient c { w.clients c with replies := (w.clients c).replies ++ [docs] })
  | .deliver c => ((w.clients c).deliver sw).map (w.setClient c)
  | .failed c => ((w.clients c).failed sw).map (w.setClient c)
  | .ui c a => ((w.clients c).ui sw a).map (w.setClient c)
  | .apply c =>
      match (w.clients c).outbox with
      | [] => none
      | posting :: rest =>
          some ((w.setClient c { w.clients c with outbox := rest }).write posting)

end Forum

/-- The pages over the two collections. -/
def forum (sw : SwiftString) (ι : Type) [DecidableEq ι] : Lts (Forum ι) (ForumAction ι) :=
  (Lts.ofNext Forum.Opened (Forum.next sw)).restrict Forum.permits

/-! ## Steps -/

/-- A page changes its list only when an answer arrives. -/
theorem CommentStep.commentsArray {sw : SwiftString} {vc t : CommentDetailVC} {a : CommentAction}
    (h : CommentStep sw vc a t) (ha : ∀ documents, a ≠ .getDocuments (some documents)) :
    t.commentsArray = vc.commentsArray := by
  cases h with
  | listShown => exact absurd rfl (ha _)
  | _ => rfl

section SetClient

variable {ι : Type} [DecidableEq ι] (w : Forum ι) (c : ι) (cl : ForumClient)

@[simp] theorem Forum.clients_setClient_self : (w.setClient c cl).clients c = cl := by
  simp [Forum.setClient]

@[simp] theorem Forum.clients_setClient_ne {d : ι} (h : d ≠ c) :
    (w.setClient c cl).clients d = w.clients d := by
  simp [Forum.setClient, h]

omit [DecidableEq ι] in
@[simp] theorem Forum.clients_write (posting : Posting) :
    (w.write posting).clients = w.clients := by
  cases posting <;> rfl

end SetClient

/-- Every way a step can go. -/
inductive ForumStep (sw : SwiftString) {ι : Type} [DecidableEq ι] (w : Forum ι) :
    ForumAction ι → Forum ι → Prop
  | served {c docs} : w.Serves c docs → ForumStep sw w (.serve c docs)
      (w.setClient c { w.clients c with replies := (w.clients c).replies ++ [docs] })
  | delivered {c docs rest vc} : (w.clients c).replies = docs :: rest →
      (w.clients c).vc.next sw (.getDocuments (some (docs.map Prod.snd))) = some vc →
      ForumStep sw w (.deliver c)
        (w.setClient c { w.clients c with vc := vc, replies := rest, shown := docs })
  | failed {c vc} : (w.clients c).vc.next sw (.getDocuments none) = some vc →
      ForumStep sw w (.failed c) (w.setClient c { w.clients c with vc := vc })
  | screen {c a vc} : (∀ snapshot, a ≠ .getDocuments snapshot) →
      (∀ id result text, a ≠ .submitComment id result text) →
      (∀ id result, a ≠ .submitReport id result) →
      (w.clients c).vc.next sw a = some vc →
      ForumStep sw w (.ui c a) (w.setClient c { w.clients c with vc := vc })
  | commented {c id result text vc} : w.NewComment id →
      (w.clients c).vc.next sw (.submitComment id result text) = some vc →
      ForumStep sw w (.ui c (.submitComment id result text)) (w.setClient c
        { w.clients c with vc := vc, outbox := (w.clients c).outbox ++ [.comment vc.comments] })
  | reported {c id result vc} : w.NewReport id →
      (w.clients c).vc.next sw (.submitReport id result) = some vc →
      ForumStep sw w (.ui c (.submitReport id result)) (w.setClient c
        { w.clients c with vc := vc, outbox := (w.clients c).outbox ++ [.report vc.reports] })
  | applied {c posting rest} : (w.clients c).outbox = posting :: rest →
      ForumStep sw w (.apply c)
        ((w.setClient c { w.clients c with outbox := rest }).write posting)

variable {sw : SwiftString} {ι : Type} [DecidableEq ι] {w w' : Forum ι} {a : ForumAction ι} {c : ι}

theorem forumStep_of_step (h : (forum sw ι).step w a w') : ForumStep sw w a w' := by
  obtain ⟨hnext, hperm⟩ := h
  replace hnext : w.next sw a = some w' := hnext
  cases a with
  | serve c docs =>
      obtain rfl := Option.some.inj hnext
      exact .served hperm.1.2
  | deliver c =>
      obtain ⟨cl, hcl, rfl⟩ := Option.map_eq_some_iff.mp hnext
      unfold ForumClient.deliver at hcl
      split at hcl
      · exact absurd hcl (by simp)
      · rename_i docs rest hreplies
        obtain ⟨vc, hvc, hcl⟩ := Option.bind_eq_some_iff.mp hcl
        obtain rfl := Option.some.inj hcl
        exact .delivered hreplies hvc
  | failed c =>
      obtain ⟨cl, hcl, rfl⟩ := Option.map_eq_some_iff.mp hnext
      obtain ⟨vc, hvc, hcl⟩ := Option.bind_eq_some_iff.mp hcl
      obtain rfl := Option.some.inj hcl
      exact .failed hvc
  | ui c a =>
      obtain ⟨cl, hcl, rfl⟩ := Option.map_eq_some_iff.mp hnext
      unfold ForumClient.ui at hcl
      split at hcl
      · exact absurd hcl (by simp)
      · obtain ⟨vc, hvc, hcl⟩ := Option.bind_eq_some_iff.mp hcl
        obtain rfl := Option.some.inj hcl
        exact .commented hperm.2 hvc
      · obtain ⟨vc, hvc, hcl⟩ := Option.bind_eq_some_iff.mp hcl
        obtain rfl := Option.some.inj hcl
        exact .reported hperm.2 hvc
      · rename_i hlist hcomment hreport
        obtain ⟨vc, hvc, hcl⟩ := Option.bind_eq_some_iff.mp hcl
        obtain rfl := Option.some.inj hcl
        exact .screen hlist hcomment hreport hvc
  | apply c =>
      simp only [Forum.next] at hnext
      split at hnext
      · exact absurd hnext (by simp)
      · rename_i posting rest houtbox
        obtain rfl := Option.some.inj hnext
        exact .applied houtbox

/-! ## Every page is a comment page -/

/-- What happens to the page of a client. -/
def pageAction (c : ι) (w : Forum ι) : ForumAction ι → Option CommentAction
  | .deliver d => if d = c then
      (w.clients d).replies.head?.map fun docs => .getDocuments (some (docs.map Prod.snd)) else none
  | .failed d => if d = c then some (.getDocuments none) else none
  | .ui d a => if d = c then some a else none
  | .serve _ _ | .apply _ => none

/-- The page of a client. -/
def clientPage (c : ι) (w : Forum ι) : CommentDetailVC := (w.clients c).vc

theorem clientPage_setClient (w : Forum ι) (c d : ι) (cl : ForumClient) :
    clientPage c (w.setClient d cl) = if d = c then cl.vc else clientPage c w := by
  unfold clientPage
  split
  · rename_i hd
    rw [hd, Forum.clients_setClient_self]
  · rename_i hd
    rw [Forum.clients_setClient_ne _ _ _ (Ne.symm hd)]

/-- A client whose page is the same. -/
theorem clientPage_setClient_same {d : ι} {cl : ForumClient} (h : cl.vc = (w.clients d).vc) :
    clientPage c (w.setClient d cl) = clientPage c w := by
  rw [clientPage_setClient]
  split
  · rename_i hd
    rw [h, hd, clientPage]
  · rfl

/-- A client whose page takes a step. -/
theorem clientPage_setClient_next {d : ι} {cl : ForumClient} {l : CommentAction}
    (h : (w.clients d).vc.next sw l = some cl.vc) (c : ι) :
    match if d = c then some l else none with
    | none => clientPage c (w.setClient d cl) = clientPage c w
    | some l => (clientPage c w).next sw l = some (clientPage c (w.setClient d cl)) := by
  rw [clientPage_setClient]
  by_cases hd : d = c
  · subst hd
    rw [if_pos rfl, if_pos rfl]
    exact h
  · rw [if_neg hd, if_neg hd]

/-- What a step does to the page of a client. -/
theorem ForumStep.clientPage (h : ForumStep sw w a w') (c : ι) :
    match pageAction c w a with
    | none => clientPage c w' = clientPage c w
    | some l => (clientPage c w).next sw l = some (clientPage c w') := by
  cases h with
  | served _ => exact clientPage_setClient_same rfl
  | @delivered d docs rest vc hreplies hvc =>
      have hlabel : pageAction c w (.deliver d) =
          if d = c then some (.getDocuments (some (docs.map Prod.snd))) else none := by
        simp [pageAction, hreplies]
      rw [hlabel]
      exact clientPage_setClient_next hvc c
  | failed hvc => exact clientPage_setClient_next hvc c
  | screen _ _ _ hvc => exact clientPage_setClient_next hvc c
  | commented _ hvc => exact clientPage_setClient_next hvc c
  | reported _ hvc => exact clientPage_setClient_next hvc c
  | @applied d posting rest _ =>
      show (((w.setClient d _).write posting).clients c).vc = _
      rw [Forum.clients_write]
      exact clientPage_setClient_same rfl

/-- Each client runs `commentPage`, so that what holds of its runs holds here. -/
theorem forum_page (sw : SwiftString) (c : ι) :
    Lts.Refinement (forum sw ι) (commentPage sw) (pageAction c) (clientPage c) where
  init w hw := by
    obtain ⟨comments, reports, hcl⟩ := hw.2 c
    exact ⟨comments, reports, by rw [clientPage, hcl]⟩
  silent w a w' hst hlabel := by
    have hpage := (forumStep_of_step hst).clientPage c
    rwa [hlabel] at hpage
  visible w a w' l hst hlabel := by
    have hpage := (forumStep_of_step hst).clientPage c
    rwa [hlabel] at hpage

/-! ## The comments are a feed -/

/-- A client as a reader and writer of comments. -/
def ForumClient.reader (cl : ForumClient) : Reader String DocumentData :=
  ⟨cl.waiting, cl.replies, cl.shown⟩

/-- The comments, without the pages and the reports. -/
def Forum.feed (w : Forum ι) : Feed ι String DocumentData :=
  ⟨w.comments, fun c => (w.clients c).reader⟩

/-- The document that the page would write for this text. -/
def CommentDetailVC.written (vc : CommentDetailVC) (id result text : String) : DocumentData :=
  Commenta.documentData ⟨commentUserID, text, vc.commentStars, id, result⟩

/-- What happens to the feed. -/
def feedAction (w : Forum ι) : ForumAction ι → Option (FeedAction ι String DocumentData)
  | .serve c docs => some (.serve c docs)
  | .deliver c => some (.deliver c)
  | .ui c (.submitComment id result text) =>
      some (.write c id ((w.clients c).vc.written id result text))
  | .apply c =>
      match (w.clients c).outbox with
      | .comment _ :: _ => some (.apply c)
      | _ => none
  | _ => none

theorem feed_setClient (w : Forum ι) (c : ι) (cl : ForumClient) :
    (w.setClient c cl).feed = w.feed.setReader c cl.reader := by
  show Feed.mk _ _ = Feed.mk _ _
  congr 1
  funext d
  show (Function.update w.clients c cl d).reader = Function.update w.feed.readers c cl.reader d
  by_cases hd : d = c
  · subst hd
    simp
  · simp [hd, Forum.feed]

/-- A client that writes no comment and is shown none is the same reader. -/
theorem feed_setClient_same {cl : ForumClient} (h : cl.reader = (w.clients c).reader) :
    (w.setClient c cl).feed = w.feed := by
  rw [feed_setClient, h]
  show Feed.mk _ (Function.update w.feed.readers c (w.feed.readers c)) = _
  rw [Function.update_eq_self]

/-- What a submitted comment is. -/
theorem next_submitComment {vc t : CommentDetailVC} {id result text : String}
    (h : vc.next sw (.submitComment id result text) = some t) :
    t.comments = ⟨commentUserID, text, vc.commentStars, id, result⟩ := by
  cases commentStep_of_next h with
  | commentSent _ => rfl

theorem ForumStep.feed (h : ForumStep sw w a w') :
    match feedAction w a with
    | none => w'.feed = w.feed
    | some l => w.feed.Step l w'.feed := by
  cases h with
  | @served c docs hserves =>
      rw [feed_setClient]
      exact .serve hserves.nodup hserves.mem_iff
  | @delivered c docs rest vc hreplies _ =>
      rw [feed_setClient]
      exact .deliver hreplies
  | failed _ => exact feed_setClient_same rfl
  | @screen c a vc hlist hcomment hreport _ =>
      have hnone : feedAction w (.ui c a) = none := by
        cases a with
        | submitComment id result text => exact absurd rfl (hcomment id result text)
        | _ => rfl
      rw [hnone]
      exact feed_setClient_same rfl
  | @commented c id result text vc hnew hvc =>
      have hcomments := next_submitComment hvc
      have hreader : ForumClient.reader
          { w.clients c with vc := vc, outbox := (w.clients c).outbox ++ [.comment vc.comments] } =
          (w.clients c).reader.put (id, (w.clients c).vc.written id result text) := by
        simp [ForumClient.reader, ForumClient.waiting, Reader.put, Posting.document, hcomments,
          CommentDetailVC.written]
      rw [feed_setClient, hreader]
      refine .write fun hused => ?_
      rcases hused with hstored | ⟨d, data, hwaits⟩
      · exact hstored hnew.1
      · exact hnew.2 d (id, data) hwaits rfl
  | @reported c id result vc _ _ =>
      exact feed_setClient_same
        (by simp [ForumClient.reader, ForumClient.waiting, Posting.document])
  | @applied c posting rest houtbox =>
      cases posting with
      | comment cm =>
          have hlabel : feedAction w (.apply c) = some (.apply c) := by
            simp [feedAction, houtbox]
          have hwaiting : (w.clients c).waiting = (cm.commentId, cm.documentData) ::
              rest.filterMap Posting.document := by
            simp [ForumClient.waiting, houtbox, Posting.document]
          have hfeed : ((w.setClient c { w.clients c with outbox := rest }).write
              (.comment cm)).feed = (w.feed.setReader c ((w.feed.readers c).waiting
                (rest.filterMap Posting.document))).store (cm.commentId, cm.documentData) := by
            have hset := feed_setClient w c { w.clients c with outbox := rest }
            exact congrArg (Feed.store · (cm.commentId, cm.documentData)) hset
          rw [hlabel, hfeed]
          exact .apply hwaiting
      | report r =>
          have hlabel : feedAction w (.apply c) = none := by
            simp [feedAction, houtbox]
          have hreader : ForumClient.reader { w.clients c with outbox := rest } =
              (w.clients c).reader := by
            show Reader.mk _ _ _ = Reader.mk _ _ _
            rw [ForumClient.waiting, ForumClient.waiting, houtbox]
            rfl
          rw [hlabel]
          exact feed_setClient_same hreader

/-- Seen without pages and reports the forum is a feed. -/
theorem forum_feed (sw : SwiftString) :
    Lts.Refinement (forum sw ι) (feed ι String DocumentData) feedAction Forum.feed where
  init w hw c := by
    obtain ⟨comments, reports, hcl⟩ := hw.2 c
    show (w.clients c).reader = {}
    rw [hcl]
    rfl
  silent w a w' hst hlabel := by
    have hfeed := (forumStep_of_step hst).feed
    rwa [hlabel] at hfeed
  visible w a w' l hst hlabel := by
    have hfeed := (forumStep_of_step hst).feed
    rwa [hlabel] at hfeed

end Takeit
