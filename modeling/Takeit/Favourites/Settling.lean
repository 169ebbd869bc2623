import Takeit.Comments.CommentDetailVC
import Takeit.Favourites.WwTableViewController

/-!
# What the cells show when all is quiet

The comment list and the favourites put a picture into the cell it was
downloaded for, whatever row the cell has been given since. So a cell shows the
picture of the answer handled last for it, of all downloads it ever was given
(`comments_fed`, `favourites_fed`), and that is a picture of its row precisely if that download was for
the same picture as the last one started (`settled_iff`).
-/

namespace Takeit

open Takeit.Logic Takeit.Firestore

/-! ## The avatars -/

section Avatars

open CommentDetailVC

variable {sw : SwiftString} {vc t : CommentDetailVC} {a : CommentAction}
  {es : List (Edge CommentDetailVC CommentAction)}

/-- The cells hold what the answers handled last leave in them, and no download
a cell was given last is lost. -/
structure CommentDetailVC.Fed (vc : CommentDetailVC) : Prop where
  feeds : Requests.Feeds avatar CommentCell.download CommentCell.photoImage vc.downloads vc.cells
  keeps : Requests.Keeps CommentCell.download vc.downloads vc.cells

theorem CommentStep.fed (h : CommentStep sw vc a t) (hfed : vc.Fed) : t.Fed := by
  obtain ⟨hfeeds, hkeeps⟩ := hfed
  cases h with
  | listFailed | listShown | commentOpened | rated _ _ _ | commentSent _ | swiped _ | moved _ _
  | reportSent _ _ | dismissed _ => exact ⟨hfeeds, hkeeps⟩
  | @configured cell row commentb _ _ =>
      exact ⟨hfeeds.start cell commentb.uid rfl rfl, hkeeps.start cell commentb.uid rfl⟩
  | @answered k data => exact ⟨hfeeds.answer k data, hkeeps.answer k data⟩
  | @pictured r data rest hqueue =>
      exact ⟨hfeeds.handle hqueue rfl rfl, hkeeps.handle.touch r.slot rfl⟩
  | @reportOpened row cell _ _ => exact ⟨hfeeds.touch cell rfl rfl, hkeeps.touch cell rfl⟩

theorem comments_fed (h : (commentPage sw).Run es vc) : vc.Fed := by
  refine h.invariant ?_ fun _ _ _ hfed hst => (commentStep_of_step hst).fed hfed
  rintro _ ⟨comments, reports, rfl⟩
  exact ⟨Requests.feeds_empty rfl rfl, nofun⟩

/-- The cell shows an avatar of the uid of its download, or `noImage` after that
download has failed. -/
def CommentDetailVC.ShowsAvatar (vc : CommentDetailVC) (cell : Nat) (r : Request String) : Prop :=
  (∃ data, (vc.cells cell).photoImage = some (.downloaded r.key data)) ∨
    (vc.cells cell).photoImage = some (.named "noImage") ∧ (r, none) ∈ vc.downloads.handled

/-- The answer handled last for the cell is data for the same uid, or a failure
and the cell's own download has failed. -/
def CommentDetailVC.LastForAvatar (vc : CommentDetailVC) (cell : Nat) (r : Request String) : Prop :=
  ∃ r' d, vc.downloads.last cell = some (r', d) ∧
    ((∃ data, d = some data ∧ r'.key = r.key) ∨ d = none ∧ (r, none) ∈ vc.downloads.handled)

theorem CommentDetailVC.Fed.showsAvatar_iff (hfed : vc.Fed) (cell : Nat) (r : Request String) :
    vc.ShowsAvatar cell r ↔ vc.LastForAvatar cell r := by
  have hphoto : (vc.cells cell).photoImage = _ := hfed.feeds.last cell
  unfold CommentDetailVC.ShowsAvatar CommentDetailVC.LastForAvatar
  rw [hphoto]
  rcases vc.downloads.last cell with _ | ⟨r', _ | data⟩
  · simp
  · simp [avatar]
  · simp [avatar]

end Avatars

/-! ## The posters -/

section Posters

open WwTable

variable {isURL : String → Bool} {vc t : WwTable} {a : WwAction} {es : List (Edge WwTable WwAction)}

/-- The cells hold what the blocks run last leave in them. -/
def WwTable.Fed (vc : WwTable) : Prop :=
  Requests.Feeds poster WwTableViewCell.download WwTableViewCell.imgView vc.tasks vc.cells

theorem WwStep.fed (h : WwStep isURL vc a t) (hfed : vc.Fed) : t.Fed := by
  cases h with
  | asked | listFailed | listShown _ | deleted _ => exact hfed
  | @configured cell row movie _ _ => exact hfed.start cell movie.poster rfl rfl
  | @answered k data => exact hfed.answer k data
  | @dropped k => exact hfed.drop k
  | pictured hqueue => exact hfed.handle hqueue rfl rfl

theorem favourites_fed (h : (favourites isURL).Run es vc) : vc.Fed := by
  refine h.invariant ?_ fun _ _ _ hfed hst => (wwStep_of_step hst).fed hfed
  rintro _ rfl
  exact Requests.feeds_empty rfl rfl

/-- If its download has succeeded, the cell shows the poster of that URL. -/
def WwTable.ShowsPoster (vc : WwTable) (cell : Nat) (r : Request String) : Prop :=
  (∃ data, (r, data) ∈ vc.tasks.handled) →
    ∃ data, (vc.cells cell).imgView = some (.downloaded r.key data)

/-- If its download has succeeded, the block run last for the cell is one for
the same URL. -/
def WwTable.LastForPoster (vc : WwTable) (cell : Nat) (r : Request String) : Prop :=
  (∃ data, (r, data) ∈ vc.tasks.handled) →
    ∃ r' data, vc.tasks.last cell = some (r', data) ∧ r'.key = r.key

theorem WwTable.Fed.showsPoster_iff (hfed : vc.Fed) (cell : Nat) (r : Request String) :
    vc.ShowsPoster cell r ↔ vc.LastForPoster cell r := by
  have himg : (vc.cells cell).imgView = _ := hfed.last cell
  unfold WwTable.ShowsPoster WwTable.LastForPoster
  rw [himg]
  rcases vc.tasks.last cell with _ | ⟨r', data⟩
  · simp
  · simp [poster]

end Posters

/-- When nothing is on its way any more, every download a cell of the comment
list was given last has been answered, and a cell of either list shows the image
of its row precisely if the answer handled last for the cell is one for that
image. -/
theorem settled_iff (sw : SwiftString) (isURL : String → Bool) :
    (∀ es vc, (commentPage sw).Run es vc → vc.downloads.Quiet →
      ∀ cell r, (vc.cells cell).download = some r →
        (∃ d, (r, d) ∈ vc.downloads.handled) ∧
        (vc.ShowsAvatar cell r ↔ vc.LastForAvatar cell r)) ∧
    ∀ es vc, (favourites isURL).Run es vc → vc.tasks.Quiet →
      ∀ cell r, (vc.cells cell).download = some r →
        (vc.ShowsPoster cell r ↔ vc.LastForPoster cell r) := by
  constructor
  · intro es vc hrun hquiet cell r hown
    have hfed := comments_fed hrun
    exact ⟨(hfed.keeps cell r hown).handled hquiet, hfed.showsAvatar_iff cell r⟩
  · intro es vc hrun _ cell r _
    exact (favourites_fed hrun).showsPoster_iff cell r

/-- Two comments by different users, the newer one first. -/
def twoComments : List DocumentData :=
  [Commenta.documentData ⟨"uid-1", "A masterpiece", 5, "comment-1", "2021-03-02 12:00:00"⟩,
    Commenta.documentData ⟨"uid-2", "So so", 2, "comment-2", "2021-03-01 12:00:00"⟩]

/-- One cell is given the first row and then the second; the two downloads
succeed in the order in which they are `answered`. -/
def cellTwice (answered : List CommentAction) : List CommentAction :=
  [.getDocuments (some twoComments), .cellForRowAt 0 0, .cellForRowAt 0 1] ++ answered ++
    [.getData, .getData]

/-- The order of starting. -/
def inOrder : List CommentAction :=
  cellTwice [.downloaded 0 (some ⟨some "one"⟩), .downloaded 0 (some ⟨some "two"⟩)]

/-- The other order. -/
def overtaken : List CommentAction :=
  cellTwice [.downloaded 1 (some ⟨some "two"⟩), .downloaded 0 (some ⟨some "one"⟩)]

/-- Two movies with posters. -/
def twoPosters : List DocumentData :=
  [dictionary [("movieName", .string "Amelie"), ("poster", .string "https://posters/amelie")],
    dictionary [("movieName", .string "Alien"), ("poster", .string "https://posters/alien")]]

/-- The same on the page of the favourites. -/
def rowTwice (answered : List WwAction) : List WwAction :=
  [.showAllMovies, .getDocuments (some twoPosters), .cellForRowAt 0 0, .cellForRowAt 0 1] ++
    answered ++ [.runBlock, .runBlock]

def rowsInOrder : List WwAction :=
  rowTwice [.downloaded 0 ⟨some "amelie"⟩, .downloaded 0 ⟨some "alien"⟩]

def rowsOvertaken : List WwAction :=
  rowTwice [.downloaded 1 ⟨some "alien"⟩, .downloaded 0 ⟨some "amelie"⟩]

theorem settled_inOrder :
    (∃ s r, (commentPage .ascii).Run (commentTrace inOrder) s ∧ s.downloads.Quiet ∧
      (s.cells 0).download = some r ∧ r.key = "uid-2" ∧ s.ShowsAvatar 0 r) ∧
    ∃ s r, (favourites fun _ => true).Run (favouritesTrace (fun _ => true) rowsInOrder) s ∧
      s.tasks.Quiet ∧ (s.cells 0).download = some r ∧ r.key = "https://posters/alien" ∧
      s.ShowsPoster 0 r := by
  obtain ⟨havatar, hposter⟩ := settled_iff .ascii fun _ => true
  constructor
  · obtain ⟨s, hrun, hquiet, hown, hlast⟩ := exists_commentTrace inOrder
      (P := fun s => s.downloads.Quiet ∧ (s.cells 0).download = some ⟨1, 0, "uid-2"⟩ ∧
        s.downloads.last 0 = some (⟨1, 0, "uid-2"⟩, some ⟨some "two"⟩)) (by decide +kernel)
    refine ⟨s, _, hrun, hquiet, hown, rfl, (havatar _ s hrun hquiet 0 _ hown).2.mpr ?_⟩
    exact ⟨_, _, hlast, .inl ⟨_, rfl, rfl⟩⟩
  · obtain ⟨s, hrun, hquiet, hown, hlast⟩ := exists_favouritesTrace (fun _ => true) rowsInOrder
      (P := fun s => s.tasks.Quiet ∧
        (s.cells 0).download = some ⟨1, 0, "https://posters/alien"⟩ ∧
        s.tasks.last 0 = some (⟨1, 0, "https://posters/alien"⟩, ⟨some "alien"⟩))
      (by decide +kernel)
    refine ⟨s, _, hrun, hquiet, hown, rfl, (hposter _ s hrun hquiet 0 _ hown).mpr fun _ => ?_⟩
    exact ⟨_, _, hlast, rfl⟩

/-- The later download overtakes the earlier one: either cell ends with the
image of the row it was given first. -/
theorem settled_overtaken :
    (∃ s r, (commentPage .ascii).Run (commentTrace overtaken) s ∧ s.downloads.Quiet ∧
      (s.cells 0).download = some r ∧ r.key = "uid-2" ∧
      (s.cells 0).photoImage = some (.downloaded "uid-1" ⟨some "one"⟩) ∧ ¬ s.ShowsAvatar 0 r) ∧
    ∃ s r, (favourites fun _ => true).Run (favouritesTrace (fun _ => true) rowsOvertaken) s ∧
      s.tasks.Quiet ∧ (s.cells 0).download = some r ∧ r.key = "https://posters/alien" ∧
      (s.cells 0).imgView = some (.downloaded "https://posters/amelie" ⟨some "amelie"⟩) ∧
      ¬ s.ShowsPoster 0 r := by
  constructor
  · obtain ⟨s, hrun, hquiet, hown, hphoto⟩ := exists_commentTrace overtaken
      (P := fun s => s.downloads.Quiet ∧ (s.cells 0).download = some ⟨1, 0, "uid-2"⟩ ∧
        (s.cells 0).photoImage = some (.downloaded "uid-1" ⟨some "one"⟩)) (by decide +kernel)
    refine ⟨s, _, hrun, hquiet, hown, rfl, hphoto, ?_⟩
    simp [CommentDetailVC.ShowsAvatar, hphoto]
  · obtain ⟨s, hrun, hquiet, hown, himg, hdone⟩ := exists_favouritesTrace (fun _ => true) rowsOvertaken
      (P := fun s => s.tasks.Quiet ∧
        (s.cells 0).download = some ⟨1, 0, "https://posters/alien"⟩ ∧
        (s.cells 0).imgView = some (.downloaded "https://posters/amelie" ⟨some "amelie"⟩) ∧
        ((⟨1, 0, "https://posters/alien"⟩ : Request String), (⟨some "alien"⟩ : ImageData)) ∈
          s.tasks.handled)
      (by decide +kernel)
    refine ⟨s, _, hrun, hquiet, hown, rfl, himg, fun hshows => ?_⟩
    obtain ⟨data, hdata⟩ := hshows ⟨_, hdone⟩
    rw [himg] at hdata
    simp at hdata

end Takeit
