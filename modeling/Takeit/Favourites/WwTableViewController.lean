import Takeit.Logic.Lts
import Takeit.Logic.Requests
import Takeit.Models
import Takeit.UIKit

/-!
# The favourites (`WwTableViewController.swift`, `WwTableViewCell.swift`)

The list of movies with their posters. Rows are removed by a swipe, and the
list is loaded anew whenever the page appears or is pulled down.

`URL(string:)` is a parameter: `isURL` says which texts are URLs.
-/

namespace Takeit

open Takeit.Logic Takeit.Firestore

/-- A movie of the favourites; the class has the fields and the decoder of
`Movie`. -/
abbrev MovieByPei := Movie

/-- A `WwTableViewCell`, as the storyboard makes it, and which download it was
given last. -/
structure WwTableViewCell where
  imgView : Option Picture := none
  lebView : String := "Label"
  download : Option (Request String) := none
deriving DecidableEq, Repr

/-- The view controller. `queries` counts the calls of `getDocuments` that have
not called back; `tasks` are the downloads of posters, by their URLs, and the
blocks these have put into the main queue. -/
structure WwTable where
  movies : List MovieByPei := []
  cells : Nat → WwTableViewCell := fun _ => {}
  queries : Nat := 0
  tasks : Requests String ImageData := {}

/-- The page after `viewDidLoad`. -/
def WwTable.viewDidLoad : WwTable := {}

namespace WwTable

/-- `showAllMovies()`: the query goes out, from `viewWillAppear` or the refresh
control. -/
def showAllMovies (vc : WwTable) : WwTable := { vc with queries := vc.queries + 1 }

/-- The completion handler of `showAllMovies()`; no snapshot is a failed
query. -/
def getDocuments (vc : WwTable) : Option (List DocumentData) → Option WwTable
  | none => some vc
  | some documents => do
      let movies ← documents.mapM Movie.ofDocumentData
      some { vc with movies := movies }

/-- The handler of 移除收藏 in a swiped row. -/
def delete (vc : WwTable) (row : Nat) : Option WwTable :=
  if row < vc.movies.length then some { vc with movies := vc.movies.eraseIdx row } else none

/-- `tableView(_:cellForRowAt:)`; `cell` is the one dequeued. -/
def cellForRowAt (isURL : String → Bool) (vc : WwTable) (cell row : Nat) : Option WwTable := do
  let movie ← vc.movies[row]?
  -- `URL(string: movie.poster)!`; the test before it, of the text `URL`, succeeds
  if isURL movie.poster then
    some { vc with
      cells := Function.update vc.cells cell { vc.cells cell with
        lebView := movie.movieName
        download := some (vc.tasks.request cell movie.poster) }
      tasks := vc.tasks.start cell movie.poster }
  else none

/-- What the block of the main queue puts into the cell. -/
def poster (r : Request String) (data : ImageData) : Picture := .downloaded r.key data

/-- The next block of the main queue runs, for the cell it was made for. -/
def runBlock (vc : WwTable) : WwTable :=
  match vc.tasks.queue with
  | [] => vc
  | (r, data) :: _ => { vc with
      cells := Function.update vc.cells r.slot
        { vc.cells r.slot with imgView := some (poster r data) }
      tasks := vc.tasks.handle }

end WwTable

/-! ## The page as a transition system -/

/-- What can happen to the page. -/
inductive WwAction
  | showAllMovies
  | getDocuments (snapshot : Option (List DocumentData))
  | delete (row : Nat)
  | cellForRowAt (cell row : Nat)
  | downloaded (k : Nat) (data : ImageData)
  | failed (k : Nat)
  | runBlock

namespace WwTable

/-- What UIKit, Firestore and the downloads may deliver. -/
def permits (vc : WwTable) : WwAction → Bool
  | .showAllMovies => true
  | .getDocuments _ => 0 < vc.queries
  | .delete row => row < vc.movies.length
  | .cellForRowAt _ row => row < vc.movies.length
  | .downloaded k _ => k < vc.tasks.running.length
  | .failed k => k < vc.tasks.running.length
  | .runBlock => !vc.tasks.queue.isEmpty

/-- The handler that runs. -/
def exec (isURL : String → Bool) (vc : WwTable) : WwAction → Option WwTable
  | .showAllMovies => some vc.showAllMovies
  | .getDocuments snapshot => { vc with queries := vc.queries - 1 }.getDocuments snapshot
  | .delete row => vc.delete row
  | .cellForRowAt cell row => vc.cellForRowAt isURL cell row
  | .downloaded k data => some { vc with tasks := vc.tasks.answer k data }
  | .failed k => some { vc with tasks := vc.tasks.drop k }
  | .runBlock => some vc.runBlock

/-- One step: an action that is delivered and does not trap. -/
def next (isURL : String → Bool) (vc : WwTable) (a : WwAction) : Option WwTable :=
  if vc.permits a then vc.exec isURL a else none

end WwTable

/-- The favourites, from `viewDidLoad` on. -/
def favourites (isURL : String → Bool) : Lts WwTable WwAction :=
  .ofNext (· = WwTable.viewDidLoad) (WwTable.next isURL)

/-- The steps the listed actions take from there. -/
abbrev favouritesTrace (isURL : String → Bool) (as : List WwAction) : List (Edge WwTable WwAction) :=
  Lts.trace (WwTable.next isURL) WwTable.viewDidLoad as

/-- Listed actions that are possible make a run. -/
theorem exists_favouritesTrace (isURL : String → Bool) (as : List WwAction) {P : WwTable → Prop}
    (h : ∃ t ∈ Lts.runList (WwTable.next isURL) WwTable.viewDidLoad as, P t) :
    ∃ s, (favourites isURL).Run (favouritesTrace isURL as) s ∧ P s :=
  Lts.exists_run_trace rfl h

/-! ## The outcomes of a step -/

open WwTable

/-- Every way a step can go. -/
inductive WwStep (isURL : String → Bool) (vc : WwTable) : WwAction → WwTable → Prop
  | asked : WwStep isURL vc .showAllMovies vc.showAllMovies
  | listFailed : WwStep isURL vc (.getDocuments none) { vc with queries := vc.queries - 1 }
  | listShown {documents movies} : documents.mapM Movie.ofDocumentData = some movies →
      WwStep isURL vc (.getDocuments (some documents))
        { vc with queries := vc.queries - 1, movies := movies }
  | deleted {row} : row < vc.movies.length →
      WwStep isURL vc (.delete row) { vc with movies := vc.movies.eraseIdx row }
  | configured {cell row movie} : vc.movies[row]? = some movie → isURL movie.poster = true →
      WwStep isURL vc (.cellForRowAt cell row) { vc with
        cells := Function.update vc.cells cell { vc.cells cell with
          lebView := movie.movieName
          download := some (vc.tasks.request cell movie.poster) }
        tasks := vc.tasks.start cell movie.poster }
  | answered {k data} : WwStep isURL vc (.downloaded k data)
      { vc with tasks := vc.tasks.answer k data }
  | dropped {k} : WwStep isURL vc (.failed k) { vc with tasks := vc.tasks.drop k }
  | pictured {r data rest} : vc.tasks.queue = (r, data) :: rest →
      WwStep isURL vc .runBlock { vc with
        cells := Function.update vc.cells r.slot
          { vc.cells r.slot with imgView := some (poster r data) }
        tasks := vc.tasks.handle }

variable {isURL : String → Bool} {vc t : WwTable} {a : WwAction}

theorem wwStep_of_next (h : vc.next isURL a = some t) : WwStep isURL vc a t := by
  unfold next at h
  split at h
  case isFalse => exact absurd h (by simp)
  rename_i hperm
  cases a with
  | showAllMovies =>
      obtain rfl := Option.some.inj h
      exact .asked
  | getDocuments snapshot =>
      cases snapshot with
      | none =>
          obtain rfl := Option.some.inj h
          exact .listFailed
      | some documents =>
          simp only [exec, getDocuments, Option.bind_eq_bind, Option.bind_eq_some_iff] at h
          obtain ⟨movies, hmovies, h⟩ := h
          obtain rfl := Option.some.inj h
          exact .listShown hmovies
  | delete row =>
      simp only [exec, delete] at h
      split at h
      · rename_i hrow
        obtain rfl := Option.some.inj h
        exact .deleted hrow
      · exact absurd h (by simp)
  | cellForRowAt cell row =>
      simp only [exec, cellForRowAt, Option.bind_eq_bind, Option.bind_eq_some_iff] at h
      obtain ⟨movie, hrow, h⟩ := h
      split at h
      · rename_i hurl
        obtain rfl := Option.some.inj h
        exact .configured hrow hurl
      · exact absurd h (by simp)
  | downloaded k data =>
      obtain rfl := Option.some.inj h
      exact .answered
  | failed k =>
      obtain rfl := Option.some.inj h
      exact .dropped
  | runBlock =>
      obtain rfl := Option.some.inj h
      unfold runBlock
      split
      · rename_i hnil
        exact absurd hperm (by simp [permits, hnil])
      · rename_i r data rest hqueue
        exact .pictured hqueue

/-- A step of the page has one of the listed outcomes. -/
theorem wwStep_of_step (h : (favourites isURL).step vc a t) : WwStep isURL vc a t :=
  wwStep_of_next h

end Takeit
