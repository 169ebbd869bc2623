import Takeit.Logic.Requests
import Takeit.Movies.TopViewController
import Takeit.UIKit

/-!
# The cells of the movie page (`TVCells.swift`)

A cell of the movie list that is used again cancels its download and drops its
image; its text stays. `cellForRowAt` writes the text only for a movie with a
poster, and a download that has already put its block into the main queue is not
called back by the cancel. `cellsShow_iff_guard` says in which runs a cell
nevertheless shows nothing of another movie.

`URL(string:)` is a parameter: `isURL` says which texts are URLs.
-/

namespace Takeit

open Takeit.Logic Takeit.Firestore

/-! ## The text of a movie -/

/-- `%0.2d` of an `NSInteger`: its low 32 bits, signed, in at least two
digits. -/
def format02d (n : Int) : String :=
  let n := n.bmod (2 ^ 32)
  let digits := text n.natAbs
  (if n < 0 then "-" else "") ++ if digits.length < 2 then "0" ++ digits else digits

/-- `calTime(interval:)`. A runtime was read from a double, so it comes back from
one as it is. -/
def Movie.calTime (interval : Int) : String :=
  format02d (interval.tdiv 100) ++ "時 " ++ format02d (interval.tmod 100) ++ "分"

/-- `info`. -/
def Movie.info (m : Movie) : String :=
  "電影名: " ++ m.movieName ++ "\n上映日: " ++ m.release ++ "\n類型: " ++ m.type ++
    "\nIMDB分數: " ++ m.imdb ++ "\n片長: " ++ Movie.calTime m.runtime

/-! ## The cells -/

/-- A `TVCells`, its task by the number of the request. `movie` is the one the
cell was last configured for. -/
structure TVCells where
  imageViewCell : Option Picture := none
  textViewCell : String := ""
  task : Option Nat := none
  movie : Option Movie := none
deriving DecidableEq

/-- The page with its cells. `tasks` are the downloads of posters, by their URLs,
and the blocks these have put into the main queue. -/
structure TVTable where
  top : TopVC := TopVC.viewDidLoad
  cells : Nat → TVCells := fun _ => {}
  tasks : Requests String ImageData := {}

/-- `prepareForReuse()`, apart from the cancel of the task. -/
def TVCells.prepareForReuse (cell : TVCells) : TVCells :=
  { cell with task := none, imageViewCell := none }

/-- `task?.cancel()`. -/
def TVCells.cancel (cell : TVCells) (tasks : Requests String ImageData) :
    Requests String ImageData :=
  match cell.task with
  | none => tasks
  | some number => tasks.cancel number

namespace TVTable

/-- `tableView(_:cellForRowAt:)`; `cell` is the one dequeued, prepared for reuse
by then. -/
def cellForRowAt (isURL : String → Bool) (vc : TVTable) (cell row : Nat) : Option TVTable := do
  let showCell ← vc.top.searchedMovie[row]?
  let tasks := (vc.cells cell).cancel vc.tasks
  let tvCell := { (vc.cells cell).prepareForReuse with movie := some showCell }
  if showCell.poster = "" then
    some { vc with
      tasks := tasks
      cells := Function.update vc.cells cell
        { tvCell with imageViewCell := some (.named "noimage") } }
  -- `URL(string: showCell.poster)!`
  else if isURL showCell.poster then
    some { vc with
      tasks := tasks.start cell showCell.poster
      cells := Function.update vc.cells cell
        { tvCell with task := some tasks.started, textViewCell := showCell.info } }
  else none

/-- The next block of the main queue runs, for the cell it was made for. -/
def runBlock (vc : TVTable) : TVTable :=
  match vc.tasks.queue with
  | [] => vc
  | (r, data) :: _ => { vc with
      cells := Function.update vc.cells r.slot
        { vc.cells r.slot with imageViewCell := some (.downloaded r.key data) }
      tasks := vc.tasks.handle }

end TVTable

/-! ## The page with its cells as a transition system -/

/-- What can happen: an event of the page, or one of its cells and downloads. -/
inductive TVAction
  | top (a : TopAction)
  | cellForRowAt (cell row : Nat)
  | downloaded (k : Nat) (data : ImageData)
  | failed (k : Nat)
  | runBlock

namespace TVTable

variable (sw : SwiftString) (isURL : String → Bool)

/-- One step: an event that is delivered and does not trap. -/
def next (vc : TVTable) : TVAction → Option TVTable
  | .top a => (vc.top.next sw a).map fun top => { vc with top := top }
  | .cellForRowAt cell row => vc.cellForRowAt isURL cell row
  | .downloaded k data =>
      if k < vc.tasks.running.length then some { vc with tasks := vc.tasks.answer k data } else none
  | .failed k =>
      if k < vc.tasks.running.length then some { vc with tasks := vc.tasks.drop k } else none
  | .runBlock => if vc.tasks.queue = [] then none else some vc.runBlock

end TVTable

/-- The movie page with its cells. -/
def moviePage (sw : SwiftString) (isURL : String → Bool) : Lts TVTable TVAction :=
  .ofNext (· = {}) (TVTable.next sw isURL)

/-- The steps the listed actions take from its start. -/
abbrev movieTrace (as : List TVAction) : List (Edge TVTable TVAction) :=
  Lts.trace (TVTable.next .ascii fun _ => true) {} as

/-- Listed actions that are possible make a run. -/
theorem exists_movieTrace (as : List TVAction) {P : TVTable → Prop}
    (h : ∃ t ∈ Lts.runList (TVTable.next .ascii fun _ => true) {} as, P t) :
    ∃ s, (moviePage .ascii fun _ => true).Run (movieTrace as) s ∧ P s :=
  Lts.exists_run_trace rfl h

/-- Every way a step can go. -/
inductive TVStep (sw : SwiftString) (isURL : String → Bool) (vc : TVTable) :
    TVAction → TVTable → Prop
  | page {a top} : vc.top.next sw a = some top → TVStep sw isURL vc (.top a) { vc with top := top }
  | noPoster {cell row m} : vc.top.searchedMovie[row]? = some m → m.poster = "" →
      TVStep sw isURL vc (.cellForRowAt cell row) { vc with
        tasks := (vc.cells cell).cancel vc.tasks
        cells := Function.update vc.cells cell { (vc.cells cell).prepareForReuse with
          movie := some m
          imageViewCell := some (.named "noimage") } }
  | poster {cell row m} : vc.top.searchedMovie[row]? = some m → m.poster ≠ "" →
      isURL m.poster = true →
      TVStep sw isURL vc (.cellForRowAt cell row) { vc with
        tasks := ((vc.cells cell).cancel vc.tasks).start cell m.poster
        cells := Function.update vc.cells cell { (vc.cells cell).prepareForReuse with
          movie := some m
          task := some ((vc.cells cell).cancel vc.tasks).started
          textViewCell := m.info } }
  | answered {k data} : TVStep sw isURL vc (.downloaded k data)
      { vc with tasks := vc.tasks.answer k data }
  | dropped {k} : TVStep sw isURL vc (.failed k) { vc with tasks := vc.tasks.drop k }
  | pictured {r data rest} : vc.tasks.queue = (r, data) :: rest →
      TVStep sw isURL vc .runBlock { vc with
        cells := Function.update vc.cells r.slot
          { vc.cells r.slot with imageViewCell := some (.downloaded r.key data) }
        tasks := vc.tasks.handle }

variable {sw : SwiftString} {isURL : String → Bool} {vc t : TVTable} {a : TVAction}

open TVTable in
theorem tvStep_of_step (h : (moviePage sw isURL).step vc a t) : TVStep sw isURL vc a t := by
  have hnext : vc.next sw isURL a = some t := h
  cases a with
  | top a =>
      simp only [next, Option.map_eq_some_iff] at hnext
      obtain ⟨top, htop, rfl⟩ := hnext
      exact .page htop
  | cellForRowAt cell row =>
      simp only [next, cellForRowAt, Option.bind_eq_bind, Option.bind_eq_some_iff] at hnext
      obtain ⟨m, hrow, hnext⟩ := hnext
      split at hnext
      · rename_i hempty
        obtain rfl := Option.some.inj hnext
        exact .noPoster hrow hempty
      · rename_i hposter
        split at hnext
        · rename_i hurl
          obtain rfl := Option.some.inj hnext
          exact .poster hrow hposter hurl
        · exact absurd hnext (by simp)
  | downloaded k data =>
      obtain ⟨-, hnext⟩ := Option.ite_none_right_eq_some.mp hnext
      obtain rfl := Option.some.inj hnext
      exact .answered
  | failed k =>
      obtain ⟨-, hnext⟩ := Option.ite_none_right_eq_some.mp hnext
      obtain rfl := Option.some.inj hnext
      exact .dropped
  | runBlock =>
      obtain ⟨hne, hnext⟩ := Option.ite_none_left_eq_some.mp hnext
      obtain rfl := Option.some.inj hnext
      unfold runBlock
      split
      · rename_i hnil
        exact absurd hnil hne
      · rename_i r data rest hqueue
        exact .pictured hqueue

/-! ## What a cell shows -/

/-- An image view that shows nothing. -/
def ShowsNothing : Option Picture → Prop
  | none => True
  | some (.downloaded _ data) => data.image = none
  | some (.named _) => False

/-- The cell shows the text of the movie it was last configured for, and nothing,
the placeholder of a movie without a poster, or the downloaded poster. -/
def TVCells.ShowsMovie (cell : TVCells) : Prop :=
  ∀ m, cell.movie = some m → cell.textViewCell = m.info ∧
    (ShowsNothing cell.imageViewCell ∨
      cell.imageViewCell = some (.named "noimage") ∧ m.poster = "" ∨
      ∃ data, cell.imageViewCell = some (.downloaded m.poster data))

def TVTable.CellsShow (vc : TVTable) : Prop := ∀ cell, (vc.cells cell).ShowsMovie

/-- A movie without a poster is given to a cell that has its text already; and a
block that holds a picture runs while its cell is configured for a movie with
the poster it was downloaded from. -/
def TVTable.ShowGuard (vc : TVTable) : TVAction → Prop
  | .cellForRowAt cell row => ∀ m ∈ vc.top.searchedMovie[row]?, m.poster = "" →
      (vc.cells cell).textViewCell = m.info
  | .runBlock => ∀ b ∈ vc.tasks.queue.head?, b.2.image ≠ none →
      ∀ m ∈ (vc.cells b.1.slot).movie, b.1.key = m.poster
  | _ => True

instance (vc : TVTable) : ∀ a, Decidable (vc.ShowGuard a)
  | .cellForRowAt cell row => inferInstanceAs (Decidable (∀ m ∈ vc.top.searchedMovie[row]?,
      m.poster = "" → (vc.cells cell).textViewCell = m.info))
  | .runBlock => inferInstanceAs (Decidable (∀ b ∈ vc.tasks.queue.head?, b.2.image ≠ none →
      ∀ m ∈ (vc.cells b.1.slot).movie, b.1.key = m.poster))
  | .top _ | .downloaded _ _ | .failed _ => inferInstanceAs (Decidable True)

/-- A step that changes one cell keeps all cells right if that one comes out
right. -/
theorem cellsShow_update {tvCell : TVCells} {cells : Nat → TVCells} (cell : Nat)
    (hshow : ∀ cell, (cells cell).ShowsMovie) :
    (∀ cell', (Function.update cells cell tvCell cell').ShowsMovie) ↔ tvCell.ShowsMovie := by
  rw [Function.forall_update_iff cells fun _ tvCell => tvCell.ShowsMovie]
  exact and_iff_left fun cell' _ => hshow cell'

/-- A step keeps the cells right precisely if its guard holds. -/
theorem TVStep.cellsShow_iff (h : TVStep sw isURL vc a t) (hshow : vc.CellsShow) :
    t.CellsShow ↔ vc.ShowGuard a := by
  cases h with
  | page _ | answered | dropped => exact iff_of_true hshow trivial
  | @noPoster cell row m hrow hempty =>
      refine (cellsShow_update cell hshow).trans ?_
      simp [TVCells.ShowsMovie, TVCells.prepareForReuse, TVTable.ShowGuard, hrow, hempty]
  | @poster cell row m hrow hposter _ =>
      refine (cellsShow_update cell hshow).trans ?_
      simp [TVCells.ShowsMovie, TVCells.prepareForReuse, TVTable.ShowGuard, ShowsNothing, hrow,
        hposter]
  | @pictured r data rest hqueue =>
      refine (cellsShow_update r.slot hshow).trans ?_
      have hbefore := hshow r.slot
      simp only [TVTable.ShowGuard, hqueue, List.head?_cons]
      constructor
      · rintro hafter _ ⟨⟩ hpicture m hm
        rcases (hafter m hm).2 with hnothing | ⟨hnamed, -⟩ | ⟨data', hdata⟩
        · exact absurd hnothing hpicture
        · exact absurd hnamed (by simp)
        · simp only [Option.some.injEq, Picture.downloaded.injEq] at hdata
          exact hdata.1
      · intro hguard m hm
        refine ⟨(hbefore m hm).1, ?_⟩
        by_cases hpicture : data.image = none
        · exact .inl hpicture
        · rw [← hguard (r, data) rfl hpicture m hm]
          exact .inr (.inr ⟨data, rfl⟩)

/-- Throughout a run the cells show what they were configured for precisely if
every step of it meets its guard. -/
theorem cellsShow_iff_guard {es : List (Edge TVTable TVAction)}
    (h : (moviePage sw isURL).Run es vc) :
    Lts.Throughout TVTable.CellsShow es vc ↔ ∀ e ∈ es, e.pre.ShowGuard e.act :=
  h.always_iff (J := TVTable.CellsShow)
    (by rintro _ rfl cell m hm; exact absurd hm (by simp))
    (fun _ _ _ hshow hst => ((tvStep_of_step hst).cellsShow_iff hshow).mpr)
    (fun _ hshow => hshow)
    (fun _ _ _ hshow hst => ((tvStep_of_step hst).cellsShow_iff hshow).mp)

/-- Two movies with posters and one without. -/
def threeMovies : List DocumentData :=
  [dictionary [("movieName", .string "Amelie"), ("release", .string "2001/04/25"),
      ("poster", .string "https://posters/amelie"), ("runtime", .int 202)],
    dictionary [("movieName", .string "Alien"), ("release", .string "1979/05/25"),
      ("poster", .string "https://posters/alien"), ("runtime", .int 157)],
    dictionary [("movieName", .string "Metropolis"), ("release", .string "1927/01/10"),
      ("runtime", .int 233)]]

/-- The movies arrive, the first one is given to a cell, and its download
succeeds. -/
def posterAnswered : List TVAction :=
  [.top (.getMovies (some threeMovies)), .cellForRowAt 0 0, .downloaded 0 ⟨some "amelie"⟩]

/-- The block runs before the cell is used again. -/
def posterShown : List TVAction := posterAnswered ++ [.runBlock, .cellForRowAt 0 1]

theorem cellsShow_posterShown : ∃ s,
    (moviePage .ascii fun _ => true).Run (movieTrace posterShown) s ∧
    Lts.Throughout TVTable.CellsShow (movieTrace posterShown) s := by
  obtain ⟨s, hrun, -⟩ := exists_movieTrace posterShown (P := fun _ => True) (by decide +kernel)
  exact ⟨s, hrun, (cellsShow_iff_guard hrun).mpr (by decide +kernel)⟩

/-- The cell is used again before the block runs. -/
def posterLate : List TVAction := posterAnswered ++ [.cellForRowAt 0 1, .runBlock]

/-- The cell is used again for the movie without a poster. -/
def posterMissing : List TVAction := posterAnswered ++ [.runBlock, .cellForRowAt 0 2]

/-- In the first run the cell of one movie ends with the poster of another, in
the second with its text. -/
theorem cellsShow_stale :
    (∃ s m, (moviePage .ascii fun _ => true).Run (movieTrace posterLate) s ∧
      (s.cells 0).movie = some m ∧ m.movieName = "Alien" ∧
      (s.cells 0).imageViewCell =
        some (.downloaded "https://posters/amelie" ⟨some "amelie"⟩) ∧ ¬ s.CellsShow) ∧
    ∃ (s : TVTable) (m m' : Movie), (moviePage .ascii fun _ => true).Run (movieTrace posterMissing) s ∧
      (s.cells 0).movie = some m ∧ m.movieName = "Metropolis" ∧
      m'.movieName = "Amelie" ∧ (s.cells 0).textViewCell = m'.info ∧ ¬ s.CellsShow := by
  constructor
  · obtain ⟨s, hrun, m, hm, hname, himage, hposter⟩ := exists_movieTrace posterLate
      (P := fun s => ∃ m ∈ (s.cells 0).movie, m.movieName = "Alien" ∧
        (s.cells 0).imageViewCell =
          some (.downloaded "https://posters/amelie" ⟨some "amelie"⟩) ∧
        m.poster = "https://posters/alien") (by decide +kernel)
    refine ⟨s, m, hrun, hm, hname, himage, fun hshow => ?_⟩
    have himages := (hshow 0 m hm).2
    simp [himage, hposter, ShowsNothing] at himages
  · obtain ⟨s, hrun, m, hm, hname, m', hm', hname', htext, hne⟩ := exists_movieTrace posterMissing
      (P := fun s => ∃ m ∈ (s.cells 0).movie, m.movieName = "Metropolis" ∧
        ∃ m' ∈ s.top.searchedMovie[0]?, m'.movieName = "Amelie" ∧
          (s.cells 0).textViewCell = m'.info ∧ (s.cells 0).textViewCell ≠ m.info)
      (by decide +kernel)
    exact ⟨s, m, m', hrun, hm, hname, hname', htext, fun hshow => hne (hshow 0 m hm).1⟩

end Takeit
