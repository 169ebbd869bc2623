import Takeit.Foundation
import Takeit.Logic.Lts
import Takeit.Models

/-!
# The movie page (`TopViewController.swift`)

The list of movies under three segmented controls and a search bar. The
handlers rebuild or narrow `searchedMovie` and call each other; each is
translated from the source.

`Top.storyboard` draws every control with its first segment selected and the
search bar empty.
-/

namespace Takeit

open Takeit.Logic Takeit.Firestore

/-! ## The controls -/

/-- The segments of `segtype`, in order: 全部, 動畫, 動作片, 愛情片, 恐怖片. -/
inductive TypeSegment
  | all
  | anime
  | act
  | love
  | hor
deriving DecidableEq, Repr

/-- The segments of `segtime`, in order: 上映日, 評分. -/
inductive KeySegment
  | release
  | imdb
deriving DecidableEq, Repr

/-- The segments of `segindex`, in order: ▲排序▲, ▼排序▼. -/
inductive OrderSegment
  | descending
  | ascending
deriving DecidableEq, Repr

/-- The genre a type segment stands for. -/
def TypeSegment.genre : TypeSegment → Option String
  | .all => none
  | .anime => some "動畫"
  | .act => some "動作"
  | .love => some "愛情"
  | .hor => some "恐怖"

/-- The text a key segment compares. -/
def KeySegment.key : KeySegment → Movie → String
  | .release => Movie.release
  | .imdb => Movie.imdb

/-- The view controller; `moviesAwaited` says that `getMovies` has not called
back yet. -/
structure TopVC where
  allMovie : List Movie := []
  searchedMovie : List Movie := []
  segtype : TypeSegment := .all
  segtime : KeySegment := .release
  segindex : OrderSegment := .descending
  searchText : String := ""
  moviesAwaited : Bool := true

/-- The storyboard's screen after `viewDidLoad`, the query on its way. -/
def TopVC.viewDidLoad : TopVC := {}

/-- `$0.key > $1.key` for the first segment of `segindex`, `<` for the
second. -/
def Movie.Before (sw : SwiftString) (k : KeySegment) : OrderSegment → Movie → Movie → Prop
  | .descending, m₁, m₂ => sw.Less (k.key m₂) (k.key m₁)
  | .ascending, m₁, m₂ => sw.Less (k.key m₁) (k.key m₂)

instance (sw : SwiftString) (k : KeySegment) : ∀ d, DecidableRel (Movie.Before sw k d)
  | .descending => fun _ _ => inferInstanceAs (Decidable (sw.Less _ _))
  | .ascending => fun _ _ => inferInstanceAs (Decidable (sw.Less _ _))

theorem Movie.strictWeak_before (sw : SwiftString) (k : KeySegment) :
    ∀ d, StrictWeak (Movie.Before sw k d)
  | .descending => (sw.strictWeak_less.comap k.key).flip
  | .ascending => sw.strictWeak_less.comap k.key

namespace TopVC

variable (sw : SwiftString)

/-! ## Sorting and filtering -/

/-- `searchedMovie = searchedMovie.sorted { … }`. -/
def sortMovies (vc : TopVC) (k : KeySegment) (d : OrderSegment) : TopVC :=
  { vc with searchedMovie := sortedBy (Movie.Before sw k d) vc.searchedMovie }

/-- `sortNew()`. -/
def sortNew (vc : TopVC) : TopVC := vc.sortMovies sw .release .descending

/-- `sortOld()`. -/
def sortOld (vc : TopVC) : TopVC := vc.sortMovies sw .release .ascending

/-- `sorthigh()`. -/
def sorthigh (vc : TopVC) : TopVC := vc.sortMovies sw .imdb .descending

/-- `sortlow()`. -/
def sortlow (vc : TopVC) : TopVC := vc.sortMovies sw .imdb .ascending

/-- `searchedMovie = searchedMovie.filter { $0.type.contains(genre) }`. -/
def filterGenre (vc : TopVC) (genre : String) : TopVC :=
  { vc with searchedMovie := vc.searchedMovie.filter fun m => sw.contains m.type genre }

/-- `sortanime()`. -/
def sortanime (vc : TopVC) : TopVC := vc.filterGenre sw "動畫"

/-- `sortAct()`. -/
def sortAct (vc : TopVC) : TopVC := vc.filterGenre sw "動作"

/-- `sortLove()`. -/
def sortLove (vc : TopVC) : TopVC := vc.filterGenre sw "愛情"

/-- `sortHor()`. -/
def sortHor (vc : TopVC) : TopVC := vc.filterGenre sw "恐怖"

/-! ## Searching -/

/-- The switches of `search()`, which the source writes out once for an empty
text and once for any other. -/
def searchSwitch (vc : TopVC) : TopVC :=
  match vc.segindex with
  | .descending =>
      -- 3 and 4 fall under `default`
      match vc.segtype with
      | .all => vc.sortNew sw
      | .anime => (vc.sortNew sw).sortanime sw
      | .act => (vc.sortNew sw).sortAct sw
      | .love | .hor => vc.sortNew sw
  | .ascending =>
      match vc.segtype with
      | .all => vc.sortOld sw
      | .anime => (vc.sortOld sw).sortanime sw
      | .act => (vc.sortOld sw).sortAct sw
      | .love | .hor => vc.sortOld sw

/-- `search()`. -/
def search (vc : TopVC) : TopVC :=
  if vc.searchText = "" then vc.searchSwitch sw
  else
    { vc with searchedMovie := vc.allMovie.filter fun m =>
        sw.contains (sw.uppercased m.movieName) (sw.uppercased vc.searchText) }.searchSwitch sw

/-! ## The handlers -/

/-- The completion handler of `getMovies`; without a snapshot it is not
called. -/
def getMovies (vc : TopVC) : Option (List DocumentData) → Option TopVC
  | none => some vc
  | some documents => do
      let movies ← documents.mapM Movie.ofDocumentData
      -- the segments and the search bar may have been used by now; nothing asks them
      some ({ vc with allMovie := movies, searchedMovie := movies }.sortMovies sw
        .release .descending)

/-- `searchBar(_:textDidChange:)`; the search bar shows the new text. -/
def textDidChange (vc : TopVC) (text : String) : TopVC :=
  { vc with searchText := text, searchedMovie := vc.allMovie }.search sw

/-- `sortType(_:)`, the segment just selected. -/
def sortType (vc : TopVC) (segment : TypeSegment) : TopVC :=
  let vc := { vc with segtype := segment, searchedMovie := vc.allMovie }
  let vc :=
    match vc.segindex, vc.segtime with
    | .descending, .release => vc.sortNew sw
    | .ascending, .release => vc.sortOld sw
    | .descending, .imdb => vc.sorthigh sw
    | .ascending, .imdb => vc.sortlow sw
  match segment with
  | .all => vc.search sw
  | .anime => (vc.sortanime sw).search sw
  | .act => (vc.sortAct sw).search sw
  | .love => (vc.sortLove sw).search sw
  | .hor => (vc.sortHor sw).search sw

/-- `sortTimeAndScore(_:)`, the segment just selected. -/
def sortTimeAndScore (vc : TopVC) (segment : KeySegment) : TopVC :=
  let vc := { vc with segtime := segment }.search sw
  match vc.segindex with
  | .descending => vc.sortMovies sw vc.segtime .descending
  -- the second call of `search()` is the source's
  | .ascending => (vc.search sw).sortMovies sw vc.segtime .ascending

/-- `sortRelease(_:)`, the segment just selected. -/
def sortRelease (vc : TopVC) (segment : OrderSegment) : TopVC :=
  let vc := { vc with segindex := segment }.search sw
  vc.sortMovies sw vc.segtime segment

end TopVC

/-! ## The page as a transition system -/

/-- What can happen to the page. -/
inductive TopAction
  | getMovies (snapshot : Option (List DocumentData))
  | sortType (segment : TypeSegment)
  | sortTimeAndScore (segment : KeySegment)
  | sortRelease (segment : OrderSegment)
  | textDidChange (text : String)

/-- One step: an event, the query calling back at most once. -/
def TopVC.next (sw : SwiftString) (vc : TopVC) : TopAction → Option TopVC
  | .getMovies snapshot =>
      if vc.moviesAwaited then { vc with moviesAwaited := false }.getMovies sw snapshot else none
  | .sortType segment => some (vc.sortType sw segment)
  | .sortTimeAndScore segment => some (vc.sortTimeAndScore sw segment)
  | .sortRelease segment => some (vc.sortRelease sw segment)
  | .textDidChange text => some (vc.textDidChange sw text)

/-- The movie page, from the storyboard's state on. -/
def topPage (sw : SwiftString) : Lts TopVC TopAction :=
  .ofNext (· = TopVC.viewDidLoad) (TopVC.next sw)

/-- The steps the listed actions take from there. -/
abbrev topTrace (sw : SwiftString) (as : List TopAction) : List (Edge TopVC TopAction) :=
  Lts.trace (TopVC.next sw) TopVC.viewDidLoad as

end Takeit
