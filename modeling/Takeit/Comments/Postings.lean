import Takeit.Comments.Dialogs
import Takeit.Comments.Forum

/-!
# What becomes of comments and reports

Whatever the order in which pages are used, queries answered and writes applied:
every comment that was submitted is stored or on its way, unchanged
(`comments_kept`); a list shows no comment twice and none that is not there, and
what it has shown it shows again (`list_sound`, `listed_stays`); an answered query
shows what the server had (`served_listed`); and a report that is stored names a
comment that is stored (`reports_name_comments`).
-/

namespace Takeit

open Takeit.Logic Takeit.Firestore

variable {sw : SwiftString} {ι : Type} [DecidableEq ι] {w w' : Forum ι} {a : ForumAction ι} {c : ι}

/-! ## Comments -/

theorem sound_feed (h : (forum sw ι).Reachable w) : w.feed.Sound :=
  Feed.sound_of_reachable ((forum_feed sw).reachable h)

/-- What the steps of a sound feed keep, the steps of the forum keep. -/
theorem preserve_feed {P : Feed ι String DocumentData → Prop}
    (hstep : ∀ f l f', f.Sound → f.Step l f' → P f → P f') (h : (forum sw ι).Reachable w)
    (hst : (forum sw ι).step w a w') (hp : P w.feed) : P w'.feed := by
  have hfeed := (forumStep_of_step hst).feed
  cases hlabel : feedAction w a with
  | none =>
      rw [hlabel] at hfeed
      rwa [hfeed]
  | some l =>
      rw [hlabel] at hfeed
      exact hstep _ _ _ (sound_feed h) hfeed hp

omit [DecidableEq ι] in
/-- A label of the feed that writes is a comment that was submitted. -/
theorem feedAction_eq_write {id : String} {data : DocumentData} :
    feedAction w a = some (.write c id data) ↔
      ∃ result text, a = .ui c (.submitComment id result text) ∧
        data = (w.clients c).vc.written id result text := by
  constructor
  · intro h
    unfold feedAction at h
    split at h
    · exact absurd h (by simp)
    · exact absurd h (by simp)
    · obtain ⟨rfl, rfl, rfl⟩ := by simpa using h
      exact ⟨_, _, rfl, rfl⟩
    · split at h <;> exact absurd h (by simp)
    · exact absurd h (by simp)
  · rintro ⟨result, text, rfl, rfl⟩
    rfl

/-- A comment is submitted with four stars, whatever stars were tapped. -/
theorem written_of_step (h : (forum sw ι).Reachable w) {id result text : String}
    (hst : (forum sw ι).step w (.ui c (.submitComment id result text)) w') :
    (w.clients c).vc.written id result text =
      Commenta.documentData ⟨commentUserID, text, 4, id, result⟩ := by
  obtain ⟨es, hrun⟩ := (forum_page sw c).reachable h
  cases forumStep_of_step hst with
  | screen _ hcomment _ _ => exact absurd rfl (hcomment id result text)
  | commented _ hvc =>
      cases commentStep_of_next hvc with
      | commentSent hscreen =>
          show Commenta.documentData ⟨_, _, (clientPage c w).commentStars, _, _⟩ = _
          rw [(run_ratingState hrun hscreen).stars]

/-- At every moment the comments that are stored or on their way are those that
were there at first and those that have been submitted, with the text they were
given and four stars: none is lost, overwritten or made up. -/
theorem comments_kept {es : List (Edge (Forum ι) (ForumAction ι))} (h : (forum sw ι).Run es w)
    (id : String) (data : DocumentData) :
    (w.comments id = some data ∨ ∃ c, (id, data) ∈ (w.clients c).waiting) ↔
      (Lts.origin es w).comments id = some data ∨
        ∃ e ∈ es, ∃ c result text, e.act = .ui c (.submitComment id result text) ∧
          data = Commenta.documentData ⟨commentUserID, text, 4, id, result⟩ := by
  obtain ⟨fs, hrun, hlabels, horigin⟩ := (forum_feed sw).run h
  have hpresent := Feed.present_iff_of_run (p := (id, data)) hrun
  have hquiet := hrun.init_origin
  rw [horigin] at hpresent hquiet
  have hfirst : (Lts.origin es w).feed.Present (id, data) ↔
      (Lts.origin es w).comments id = some data := by
    refine or_iff_left ?_
    rintro ⟨c, hc⟩
    rw [hquiet c] at hc
    exact absurd hc List.not_mem_nil
  rw [hfirst, hlabels] at hpresent
  refine hpresent.trans (or_congr_right ?_)
  simp only [Lts.mem_labels, feedAction_eq_write]
  have hwritten : ∀ e ∈ es, ∀ c result text, e.act = .ui c (.submitComment id result text) →
      (e.pre.clients c).vc.written id result text =
        Commenta.documentData ⟨commentUserID, text, 4, id, result⟩ := by
    intro e he c result text hact
    obtain ⟨hreach, hst⟩ := h.edge e he
    rw [hact] at hst
    exact written_of_step hreach hst
  constructor
  · rintro ⟨c, e, he, result, text, hact, rfl⟩
    exact ⟨e, he, c, result, text, hact, hwritten e he c result text hact⟩
  · rintro ⟨e, he, c, result, text, hact, rfl⟩
    exact ⟨c, e, he, result, text, hact, (hwritten e he c result text hact).symm⟩

/-! ## A forum of two -/

/-- A comment and a report of it. -/
def firstComment : Commenta := { uid := commentUserID, commentStar := 4, commentId := "a" }

def firstReport : Report := { uid := commentUserID, reportId := "r", reportCommentId := "a" }

/-- Two pages over them. -/
def twoPages : Forum Bool where
  comments := Collection.setData (fun _ => none) "a" firstComment.documentData
  reports := Collection.setData (fun _ => none) "r" firstReport.documentData
  clients _ := { vc := .fresh }

/-- Their documents. -/
def firstDocs : List (String × DocumentData) := [("a", firstComment.documentData)]

theorem lists_comments : twoPages.comments.Lists firstDocs := Collection.lists_empty.setData rfl _

theorem lists_reports : twoPages.reports.Lists [("r", firstReport.documentData)] :=
  Collection.lists_empty.setData rfl _

theorem opened_twoPages : twoPages.Opened := by
  refine ⟨⟨fun id data hdata => ?_, fun id data hdata => ?_⟩, fun c => ⟨_, _, rfl⟩⟩
  · obtain ⟨rfl, rfl⟩ := Prod.mk.inj
      (List.mem_singleton.mp ((lists_comments.mem_iff id data).mpr hdata))
    exact ⟨firstComment, rfl, rfl⟩
  · obtain ⟨rfl, rfl⟩ := Prod.mk.inj
      (List.mem_singleton.mp ((lists_reports.mem_iff id data).mpr hdata))
    exact ⟨firstReport, rfl, rfl, fun hnone => absurd (congrArg Option.isNone hnone) (by decide)⟩

theorem serves_twoPages (c : Bool) : twoPages.Serves c firstDocs where
  nodup := List.nodup_singleton _
  mem_iff p := (lists_comments.mem_iff p.1 p.2).trans
    (or_iff_left (fun hwaits => absurd hwaits List.not_mem_nil)).symm

/-- Once the first page has been served, anything pages and server can do is a
run. -/
theorem exists_forum_run (as : List (ForumAction Bool)) {P : Forum Bool → Prop}
    (hanswers : ∀ c docs, .serve c docs ∉ as ∧ .failed c ∉ as)
    (hids : ∀ e ∈ Lts.trace (Forum.next .ascii) twoPages (.serve true firstDocs :: as),
      e.pre.NewIds e.act)
    (h : ∃ w ∈ Lts.runList (Forum.next .ascii) twoPages (.serve true firstDocs :: as), P w) :
    ∃ w, (forum .ascii Bool).Run
      (Lts.trace (Forum.next .ascii) twoPages (.serve true firstDocs :: as)) w ∧ P w := by
  obtain ⟨w, hw, hP⟩ := Lts.exists_run_trace opened_twoPages h
  refine ⟨w, Lts.run_restrict_iff.mpr ⟨hw, fun e he => ⟨?_, hids e he⟩⟩, hP⟩
  rcases List.mem_cons.mp he with rfl | he
  · exact ⟨by decide, serves_twoPages true⟩
  · have hact := Lts.act_mem_of_mem_trace he
    obtain ⟨pre, act, post⟩ := e
    cases act with
    | serve c docs => exact absurd hact (hanswers c docs).1
    | failed c => exact absurd hact (hanswers c []).2
    | _ => trivial

/-- Both pages submit a comment, and that of the second is applied. -/
theorem comments_kept_twoPages : ∃ es w, (forum .ascii Bool).Run es w ∧
    (w.comments "c").isSome = true ∧ (w.clients true).waiting.map Prod.fst = ["b"] ∧
    (w.clients false).waiting = [] ∧ ∀ id data,
    (w.comments id = some data ∨ ∃ c, (id, data) ∈ (w.clients c).waiting) ↔
      (Lts.origin es w).comments id = some data ∨
        ∃ e ∈ es, ∃ c result text, e.act = .ui c (.submitComment id result text) ∧
          data = Commenta.documentData ⟨commentUserID, text, 4, id, result⟩ := by
  obtain ⟨w, hrun, hstored, hwaits, happlied⟩ := exists_forum_run
    [.deliver true, .ui true .comment, .ui true (.submitComment "b" "" "好看"),
      .ui false .comment, .ui false (.submitComment "c" "" "難看"), .apply false]
    (P := fun w => (w.comments "c").isSome = true ∧
      (w.clients true).waiting.map Prod.fst = ["b"] ∧
      (w.clients false).waiting.isEmpty = true) (by simp) (by decide) (by decide)
  exact ⟨_, w, hrun, hstored, hwaits, List.isEmpty_iff.mp happlied,
    fun id data => comments_kept hrun id data⟩

/-! ## Lists -/

/-- The list of a page is made of the documents delivered last. -/
def Forum.Lists (sw : SwiftString) (w : Forum ι) : Prop :=
  ∀ c, (w.clients c).vc.commentsArray = sortedBy (CommentDetailVC.Newer sw)
    ((w.clients c).shown.map fun p => Commenta.ofDocumentData p.2)

/-- A client that shows the same documents in the same list. -/
theorem Forum.Lists.setClient {cl : ForumClient} (hw : w.Lists sw)
    (hlist : cl.vc.commentsArray = sortedBy (CommentDetailVC.Newer sw)
      (cl.shown.map fun p => Commenta.ofDocumentData p.2)) : (w.setClient c cl).Lists sw := by
  intro d
  by_cases hd : d = c
  · subst hd
    rwa [Forum.clients_setClient_self]
  · rw [Forum.clients_setClient_ne _ _ _ hd]
    exact hw d

theorem ForumStep.lists (h : ForumStep sw w a w') (hw : w.Lists sw) : w'.Lists sw := by
  have hsame : ∀ {c l vc}, (w.clients c).vc.next sw l = some vc →
      (∀ documents, l ≠ .getDocuments (some documents)) →
      vc.commentsArray = sortedBy (CommentDetailVC.Newer sw)
        ((w.clients c).shown.map fun p => Commenta.ofDocumentData p.2) := by
    intro c l vc hvc hl
    rw [(commentStep_of_next hvc).commentsArray hl]
    exact hw c
  cases h with
  | served _ => exact hw.setClient (hw _)
  | @delivered c docs rest vc _ hvc =>
      refine hw.setClient ?_
      cases commentStep_of_next hvc with
      | listShown =>
          show sortedBy _ ((docs.map Prod.snd).map _) = sortedBy _ (docs.map _)
          rw [List.map_map]
          rfl
  | failed hvc => exact hw.setClient (hsame hvc (by simp))
  | screen hlist _ _ hvc => exact hw.setClient (hsame hvc fun documents => hlist _)
  | commented _ hvc => exact hw.setClient (hsame hvc (by simp))
  | reported _ hvc => exact hw.setClient (hsame hvc (by simp))
  | @applied c posting rest _ =>
      have hset : (w.setClient c { w.clients c with outbox := rest }).Lists sw :=
        hw.setClient (hw c)
      intro d
      rw [Forum.clients_write]
      exact hset d

theorem lists_of_reachable (h : (forum sw ι).Reachable w) : w.Lists sw := by
  refine h.invariant ?_ fun _ _ _ hw hst => (forumStep_of_step hst).lists hw
  intro w hw c
  obtain ⟨comments, reports, hcl⟩ := hw.2 c
  rw [hcl]
  rfl

omit [DecidableEq ι] in
/-- What a page lists are the documents shown. -/
theorem Forum.Lists.mem_iff (hw : w.Lists sw) {cm : Commenta} :
    cm ∈ (w.clients c).vc.commentsArray ↔
      ∃ p ∈ (w.clients c).shown, Commenta.ofDocumentData p.2 = cm := by
  rw [hw c, (perm_sortedBy _ _).mem_iff, List.mem_map]

/-! ## Documents -/

/-- The comments that are stored are in the page's own format. -/
def Forum.OwnComments (w : Forum ι) : Prop :=
  ∀ id, ∀ data ∈ w.comments id, ∃ cm : Commenta, cm.commentId = id ∧ data = cm.documentData

omit [DecidableEq ι] in
theorem Forum.OwnComments.write (hw : w.OwnComments) (posting : Posting) :
    (w.write posting).OwnComments := by
  cases posting with
  | report r => exact hw
  | comment cm =>
      intro id data hdata
      have hset : w.comments.setData cm.commentId cm.documentData id = some data := hdata
      by_cases hid : id = cm.commentId
      · subst hid
        rw [Collection.setData_self] at hset
        exact ⟨cm, rfl, (Option.some.inj hset).symm⟩
      · rw [Collection.setData_ne _ _ hid] at hset
        exact hw id data hset

theorem ForumStep.ownComments (h : ForumStep sw w a w') (hw : w.OwnComments) :
    w'.OwnComments := by
  cases h with
  | @applied c posting rest _ =>
      have hset : (w.setClient c { w.clients c with outbox := rest }).OwnComments := hw
      exact hset.write posting
  | _ => exact hw

theorem ownComments_of_reachable (h : (forum sw ι).Reachable w) : w.OwnComments :=
  h.invariant (I := Forum.OwnComments) (fun _ (hw : Forum.Opened _) => hw.1.comments)
    fun _ _ _ hw hst => (forumStep_of_step hst).ownComments hw

/-- The comment is stored as it is, or waits in this client's outbox. -/
def Forum.Posted (w : Forum ι) (c : ι) (cm : Commenta) : Prop :=
  w.comments cm.commentId = some cm.documentData ∨ .comment cm ∈ (w.clients c).outbox

/-- What a page is shown are comments, by their ids. -/
theorem posted_of_shown (h : (forum sw ι).Reachable w) {p : String × DocumentData}
    (hp : p ∈ (w.clients c).shown) :
    ∃ cm, w.Posted c cm ∧ cm.commentId = p.1 ∧ Commenta.ofDocumentData p.2 = cm := by
  have hknown : w.feed.Known c p := (sound_feed h).known c _ List.mem_cons_self p hp
  rcases hknown with hstored | hwaits
  · obtain ⟨cm, hid, hdata⟩ := ownComments_of_reachable h p.1 p.2 hstored
    refine ⟨cm, .inl ?_, hid, ?_⟩
    · rw [hid, ← hdata]
      exact hstored
    · rw [hdata, Commenta.ofDocumentData_documentData]
  · obtain ⟨posting, hposting, hdoc⟩ := List.mem_filterMap.mp hwaits
    cases posting with
    | report r => exact absurd hdoc (by simp [Posting.document])
    | comment cm =>
        obtain rfl := Option.some.inj hdoc
        exact ⟨cm, .inr hposting, rfl, Commenta.ofDocumentData_documentData cm⟩

/-- So are the comments that it lists. -/
theorem posted_of_listed (h : (forum sw ι).Reachable w) {cm : Commenta}
    (hcm : cm ∈ (w.clients c).vc.commentsArray) : w.Posted c cm := by
  obtain ⟨p, hp, rfl⟩ := (lists_of_reachable h).mem_iff.mp hcm
  obtain ⟨cm, hposted, -, hdecode⟩ := posted_of_shown h hp
  rwa [hdecode]

/-- A page lists no comment twice and none that is not there: each is stored with
this content or waits in the page's own outbox. And none is followed by a newer
one. -/
theorem list_sound (h : (forum sw ι).Reachable w) (c : ι) :
    ((w.clients c).vc.commentsArray.map Commenta.commentId).Nodup ∧
    (∀ cm ∈ (w.clients c).vc.commentsArray, w.Posted c cm) ∧
    (w.clients c).vc.commentsArray.Pairwise fun a b => ¬ CommentDetailVC.Newer sw b a := by
  have hlists := lists_of_reachable h
  refine ⟨?_, fun cm hcm => posted_of_listed h hcm, ?_⟩
  · have hids : ((w.clients c).shown.map fun p => Commenta.ofDocumentData p.2).map
        Commenta.commentId = (w.clients c).shown.map Prod.fst := by
      rw [List.map_map]
      refine List.map_congr_left fun p hp => ?_
      obtain ⟨cm, -, hid, hdecode⟩ := posted_of_shown h hp
      show (Commenta.ofDocumentData p.2).commentId = p.1
      rw [hdecode, hid]
    rw [hlists c, ((perm_sortedBy _ _).map Commenta.commentId).nodup_iff, hids]
    exact (sound_feed h).distinct c _ List.mem_cons_self
  · rw [hlists c]
    exact pairwise_sortedBy (sw.strictWeak_less.comap Commenta.commentUpdatetime).flip _

theorem list_sound_twoPages : ∃ w, (forum .ascii Bool).Reachable w ∧
    (w.clients true).vc.commentsArray = [firstComment] ∧ w.Posted true firstComment := by
  obtain ⟨w, hrun, hlisted⟩ := exists_forum_run [.deliver true]
    (P := fun w => (w.clients true).vc.commentsArray = [firstComment])
    (by simp) (by decide) (by decide)
  obtain ⟨-, hposted, -⟩ := list_sound ⟨_, hrun⟩ true
  exact ⟨w, ⟨_, hrun⟩, hlisted, hposted firstComment (by rw [hlisted]; exact List.mem_cons_self)⟩

/-- A comment that a page has listed it lists in every later state: no reload
loses it. -/
theorem listed_stays (h : (forum sw ι).Reachable w) (hsteps : (forum sw ι).Steps w w') (c : ι) :
    ∀ cm ∈ (w.clients c).vc.commentsArray, cm ∈ (w'.clients c).vc.commentsArray := by
  intro cm hcm
  refine hsteps.preserve (P := fun w => cm ∈ (w.clients c).vc.commentsArray) h ?_ hcm
  intro w a w' hr hcm hst
  obtain ⟨p, hp, rfl⟩ := (lists_of_reachable hr).mem_iff.mp hcm
  have hshown : p ∈ (w'.feed.readers c).view :=
    preserve_feed (P := fun f => p ∈ (f.readers c).view)
      (fun _ _ _ hf hstep hp => hf.view_mono hstep hp) hr hst hp
  exact (lists_of_reachable (hr.step hst)).mem_iff.mpr ⟨p, hshown, rfl⟩

theorem listed_stays_twoPages : ∃ w w', (forum .ascii Bool).Reachable w ∧
    (forum .ascii Bool).Steps w w' ∧ (w'.clients true).vc.screen = .commentAlert ∧
    firstComment ∈ (w'.clients true).vc.commentsArray := by
  obtain ⟨w, hrun, hlisted, w', hnext, hscreen⟩ := exists_forum_run [.deliver true]
    (P := fun w => firstComment ∈ (w.clients true).vc.commentsArray ∧
      ∃ w' ∈ w.next .ascii (.ui true .comment), (w'.clients true).vc.screen = .commentAlert)
    (by simp) (by decide) (by decide)
  have hreach : (forum .ascii Bool).Reachable w := ⟨_, hrun⟩
  have hsteps : (forum .ascii Bool).Steps w w' := .single ⟨_, hnext, trivial, trivial⟩
  exact ⟨w, w', hreach, hsteps, hscreen, listed_stays hreach hsteps true _ hlisted⟩

/-- When no answer is on its way to a page that was served, it lists every comment
the server had then. -/
theorem served_listed {w₁ : Forum ι} {docs : List (String × DocumentData)}
    (h : (forum sw ι).Reachable w) (hserve : (forum sw ι).step w (.serve c docs) w₁)
    (hsteps : (forum sw ι).Steps w₁ w') (hreplies : (w'.clients c).replies = []) {id : String}
    {data : DocumentData} (hdata : w.comments id = some data) :
    Commenta.ofDocumentData data ∈ (w'.clients c).vc.commentsArray := by
  have hr₁ := h.step hserve
  have hpromised : w₁.feed.Promised c (id, data) := by
    cases forumStep_of_step hserve with
    | served hserves =>
        refine ⟨docs, ?_, (hserves.mem_iff _).mpr (.inl hdata)⟩
        rw [feed_setClient, Feed.readers_setReader_self]
        exact List.mem_cons_of_mem _ (List.mem_append_right _ List.mem_cons_self)
  have hkept : w'.feed.Promised c (id, data) := by
    refine hsteps.preserve (P := fun w => w.feed.Promised c (id, data)) hr₁ ?_ hpromised
    intro w a w' hr hp hst
    exact preserve_feed (P := fun f => f.Promised c (id, data))
      (fun _ _ _ hf hstep hp => hf.promised_mono hstep hp) hr hst hp
  exact (lists_of_reachable (hr₁.steps hsteps)).mem_iff.mpr
    ⟨(id, data), hkept.view hreplies, rfl⟩

theorem served_listed_twoPages : ∃ w₁ w', (forum .ascii Bool).Steps w₁ w' ∧
    (w'.clients true).replies = [] ∧
    Commenta.ofDocumentData firstComment.documentData ∈ (w'.clients true).vc.commentsArray := by
  have hserve : (forum .ascii Bool).step twoPages (.serve true firstDocs) _ :=
    ⟨rfl, ⟨by decide, serves_twoPages true⟩, trivial⟩
  obtain ⟨w', hnext, hreplies⟩ : ∃ w' ∈ (twoPages.setClient true
      { twoPages.clients true with replies := [firstDocs] }).next .ascii (.deliver true),
      (w'.clients true).replies = [] := by
    refine ⟨_, rfl, ?_⟩
    rfl
  have hsteps : (forum .ascii Bool).Steps _ w' := .single ⟨_, hnext, trivial, trivial⟩
  have hdata : twoPages.comments "a" = some firstComment.documentData := rfl
  exact ⟨_, w', hsteps, hreplies,
    served_listed ⟨[], .start opened_twoPages⟩ hserve hsteps hreplies hdata⟩

/-! ## Reports -/

/-- Every report in an outbox names a comment that is known or is written before
it. -/
def Grounded (known : String → Prop) : List Posting → Prop
  | [] => True
  | .comment cm :: rest => Grounded (fun id => id = cm.commentId ∨ known id) rest
  | .report r :: rest => known r.reportCommentId ∧ Grounded known rest

theorem Grounded.mono {known known' : String → Prop} {outbox : List Posting}
    (h : Grounded known outbox) (hmono : ∀ id, known id → known' id) : Grounded known' outbox := by
  induction outbox generalizing known known' with
  | nil => trivial
  | cons posting rest ih =>
      cases posting with
      | comment cm => exact ih h fun id hid => hid.imp_right (hmono id)
      | report r => exact ⟨hmono _ h.1, ih h.2 hmono⟩

/-- One more posting, which may name what the outbox writes before it. -/
theorem Grounded.append {known : String → Prop} {outbox : List Posting} {posting : Posting}
    (h : Grounded known outbox) (hnew : ∀ r, posting = .report r → known r.reportCommentId ∨
      ∃ cm, .comment cm ∈ outbox ∧ cm.commentId = r.reportCommentId) :
    Grounded known (outbox ++ [posting]) := by
  induction outbox generalizing known with
  | nil =>
      cases posting with
      | comment cm => trivial
      | report r =>
          refine ⟨(hnew r rfl).resolve_right ?_, trivial⟩
          rintro ⟨cm, hcm, -⟩
          exact absurd hcm List.not_mem_nil
  | cons first rest ih =>
      cases first with
      | comment cm =>
          refine ih h fun r hr => ?_
          rcases hnew r hr with hknown | ⟨cm', hcm', hid⟩
          · exact .inl (.inr hknown)
          · rcases List.mem_cons.mp hcm' with heq | hcm'
            · obtain rfl := Posting.comment.inj heq
              exact .inl (.inl hid.symm)
            · exact .inr ⟨cm', hcm', hid⟩
      | report r' =>
          refine ⟨h.1, ih h.2 fun r hr => ?_⟩
          rcases hnew r hr with hknown | ⟨cm', hcm', hid⟩
          · exact .inl hknown
          · exact .inr ⟨cm', (List.mem_cons.mp hcm').resolve_left (by simp), hid⟩

/-- A comment with this id is stored. -/
def Forum.Stored (w : Forum ι) (id : String) : Prop := w.comments id ≠ none

/-- Every report that is stored names a stored comment, and every report that
waits will. -/
structure Forum.Referenced (w : Forum ι) : Prop where
  stored : ∀ id, ∀ data ∈ w.reports id, ∃ r : Report, r.reportId = id ∧ data = r.documentData ∧
    w.Stored r.reportCommentId
  waits : ∀ c, Grounded w.Stored (w.clients c).outbox

/-- The report a page writes names a comment that it lists. -/
theorem next_submitReport_names {vc t : CommentDetailVC} {id result : String}
    (h : vc.next sw (.submitReport id result) = some t) :
    ∃ commentb ∈ vc.commentsArray, t.reports.reportCommentId = commentb.commentId := by
  cases commentStep_of_next h with
  | @reportSent row cell pickerRow commentb _ _ _ hrow =>
      exact ⟨commentb, List.mem_of_getElem? hrow, rfl⟩

/-- A client with another outbox. -/
theorem Forum.Referenced.setClient {cl : ForumClient} (hw : w.Referenced)
    (houtbox : Grounded w.Stored cl.outbox) : (w.setClient c cl).Referenced where
  stored := hw.stored
  waits d := by
    show Grounded w.Stored _
    by_cases hd : d = c
    · subst hd
      rwa [Forum.clients_setClient_self]
    · rw [Forum.clients_setClient_ne _ _ _ hd]
      exact hw.waits d

/-- The first posting of an outbox is applied. -/
theorem Forum.Referenced.apply {posting : Posting} {rest : List Posting} (hw : w.Referenced)
    (houtbox : (w.clients c).outbox = posting :: rest) :
    ((w.setClient c { w.clients c with outbox := rest }).write posting).Referenced := by
  have hfirst : Grounded w.Stored (posting :: rest) := houtbox ▸ hw.waits c
  cases posting with
  | comment cm =>
      have hstored : ∀ id, id = cm.commentId ∨ w.Stored id ↔
          w.comments.setData cm.commentId cm.documentData id ≠ none := by
        intro id
        by_cases hid : id = cm.commentId
        · simp [hid]
        · simp [hid, Forum.Stored]
      have hmono : ∀ id, w.Stored id →
          w.comments.setData cm.commentId cm.documentData id ≠ none :=
        fun id hid => (hstored id).mp (.inr hid)
      constructor
      · intro id data hdata
        obtain ⟨r, hid, hdoc, hcomment⟩ := hw.stored id data hdata
        exact ⟨r, hid, hdoc, hmono _ hcomment⟩
      · intro d
        rw [Forum.clients_write]
        by_cases hd : d = c
        · subst hd
          rw [Forum.clients_setClient_self]
          have hrest : Grounded (fun id => id = cm.commentId ∨ w.Stored id) rest := hfirst
          exact hrest.mono fun id => (hstored id).mp
        · rw [Forum.clients_setClient_ne _ _ _ hd]
          exact (hw.waits d).mono hmono
  | report r =>
      have hset : (w.setClient c { w.clients c with outbox := rest }).Referenced :=
        hw.setClient hfirst.2
      refine ⟨fun id data hdata => ?_, hset.waits⟩
      have hwritten : w.reports.setData r.reportId r.documentData id = some data := hdata
      by_cases hid : id = r.reportId
      · subst hid
        rw [Collection.setData_self] at hwritten
        exact ⟨r, rfl, (Option.some.inj hwritten).symm, hfirst.1⟩
      · rw [Collection.setData_ne _ _ hid] at hwritten
        exact hw.stored id data hwritten

theorem ForumStep.referenced (h : ForumStep sw w a w') (hw : w.Referenced)
    (hr : (forum sw ι).Reachable w) : w'.Referenced := by
  cases h with
  | served _ => exact hw.setClient (hw.waits _)
  | delivered _ _ => exact hw.setClient (hw.waits _)
  | failed _ => exact hw.setClient (hw.waits _)
  | screen _ _ _ _ => exact hw.setClient (hw.waits _)
  | commented _ _ => exact hw.setClient ((hw.waits _).append (by simp))
  | @reported c id result vc _ hvc =>
      refine hw.setClient ((hw.waits c).append fun r heq => ?_)
      obtain rfl := Posting.report.inj heq
      obtain ⟨commentb, hlisted, hid⟩ := next_submitReport_names hvc
      rw [hid]
      rcases posted_of_listed hr hlisted with hstored | hwaits
      · exact .inl fun hnone => by simp [hnone] at hstored
      · exact .inr ⟨commentb, hwaits, rfl⟩
  | applied houtbox => exact hw.apply houtbox

/-- A report that is stored names a comment that is stored: it was listed when it
was reported, and a client's writes are applied in order. -/
theorem reports_name_comments (h : (forum sw ι).Reachable w) {id : String} {data : DocumentData}
    (hdata : w.reports id = some data) :
    ∃ r : Report, r.reportId = id ∧ data = r.documentData ∧
      w.comments r.reportCommentId ≠ none := by
  have both : (forum sw ι).Reachable w ∧ w.Referenced := by
    refine h.invariant (I := fun w => (forum sw ι).Reachable w ∧ w.Referenced) ?_ ?_
    · intro w hw
      refine ⟨⟨[], .start hw⟩, hw.1.reports, fun c => ?_⟩
      obtain ⟨comments, reports, hcl⟩ := hw.2 c
      rw [hcl]
      trivial
    · rintro w a w' ⟨hr, hw⟩ hst
      exact ⟨hr.step hst, (forumStep_of_step hst).referenced hw hr⟩
  exact both.2.stored id data hdata

/-- The first page reports the comment that it lists. -/
theorem reports_name_comments_twoPages : ∃ w, (forum .ascii Bool).Reachable w ∧
    ∃ data, w.reports "s" = some data ∧ ∃ r : Report, r.reportId = "s" ∧
      data = r.documentData ∧ w.comments r.reportCommentId ≠ none := by
  obtain ⟨w, hrun, hstored⟩ := exists_forum_run
    [.deliver true, .ui true (.swipe 0), .ui true (.report 0), .ui true (.submitReport "s" ""),
      .apply true]
    (P := fun w => (w.reports "s").isSome = true) (by simp) (by decide) (by decide)
  obtain ⟨data, hdata⟩ := Option.isSome_iff_exists.mp hstored
  exact ⟨w, ⟨_, hrun⟩, data, hdata, reports_name_comments ⟨_, hrun⟩ hdata⟩

end Takeit
