import Takeit.Movies.TopViewController

/-!
# What one step of the movie page does

`search_eq` gives `search()` as one expression: the movies found, by release
date, and of these the ones of the selected genre if it is one of the two
`search()` knows. `TopStep` lists the outcome of every event with it.
-/

namespace Takeit

open Takeit.Logic Takeit.Firestore

namespace Movie

variable (sw : SwiftString)

/-- The movie is of the genre of the segment. -/
def matchesType (s : TypeSegment) (m : Movie) : Bool :=
  match s.genre with
  | none => true
  | some genre => sw.contains m.type genre

/-- The movie's name contains the search text, upper and lower case alike. -/
def matchesName (text : String) (m : Movie) : Bool :=
  text = "" || sw.contains (sw.uppercased m.movieName) (sw.uppercased text)

/-- What the switches of `search()` let through. -/
def searchKeeps (s : TypeSegment) (m : Movie) : Bool :=
  match s with
  | .love | .hor => true
  | _ => m.matchesType sw s

variable {sw} {s : TypeSegment} {m : Movie}

@[simp] theorem filter_matchesName_empty (xs : List Movie) :
    xs.filter (matchesName sw "") = xs := by
  simp [matchesName]

/-- The switches let through what is of the genre. -/
theorem searchKeeps_of_matchesType (h : m.matchesType sw s = true) :
    m.searchKeeps sw s = true := by
  cases s <;> first | rfl | exact h

/-- The two segments `search()` does not know are its only gap. -/
theorem matchesType_of_searchKeeps (hs : s ≠ .love ∧ s ≠ .hor)
    (h : m.searchKeeps sw s = true) : m.matchesType sw s = true := by
  cases s with
  | love => exact absurd rfl hs.1
  | hor => exact absurd rfl hs.2
  | _ => exact h

end Movie

namespace TopVC

variable (sw : SwiftString) (vc : TopVC)

/-- The movies `search()` starts from. -/
def searchBase : List Movie :=
  if vc.searchText = "" then vc.searchedMovie
  else vc.allMovie.filter (Movie.matchesName sw vc.searchText)

/-- The movies `search()` leaves. -/
def found : List Movie :=
  (sortedBy (Movie.Before sw .release vc.segindex) (vc.searchBase sw)).filter
    (Movie.searchKeeps sw vc.segtype)

theorem searchSwitch_eq : vc.searchSwitch sw =
    { vc with
      searchedMovie := (sortedBy (Movie.Before sw .release vc.segindex) vc.searchedMovie).filter
        (Movie.searchKeeps sw vc.segtype) } := by
  obtain ⟨all, searched, type, time, index, text, awaited⟩ := vc
  have hkeep : ∀ xs : List Movie, xs.filter (fun _ => true) = xs := fun xs => by simp
  cases index <;> cases type <;> first
    | rfl
    | exact congrArg (TopVC.mk all · _ time _ text awaited) (hkeep _).symm

theorem search_eq : vc.search sw = { vc with searchedMovie := vc.found sw } := by
  unfold search found searchBase
  split
  · exact searchSwitch_eq sw vc
  · rename_i hne
    have hname : (fun m : Movie => sw.contains (sw.uppercased m.movieName)
        (sw.uppercased vc.searchText)) = Movie.matchesName sw vc.searchText := by
      funext m
      simp [Movie.matchesName, hne]
    rw [searchSwitch_eq, hname]

theorem perm_found : (vc.found sw).Perm ((vc.searchBase sw).filter
    (Movie.searchKeeps sw vc.segtype)) :=
  (perm_sortedBy _ _).filter _

/-- A second search finds what the first has found. -/
theorem perm_found_search : ((vc.search sw).found sw).Perm ((vc.searchBase sw).filter
    (Movie.searchKeeps sw vc.segtype)) := by
  have hfirst := vc.perm_found sw
  refine ((vc.search sw).perm_found sw).trans ?_
  rw [search_eq]
  unfold searchBase at hfirst ⊢
  dsimp only
  split
  · rename_i hempty
    rw [if_pos hempty] at hfirst
    refine (hfirst.filter _).trans ?_
    simp [List.filter_filter]
  · exact List.Perm.refl _

end TopVC

/-- Every way a step can go. -/
inductive TopStep (sw : SwiftString) (vc : TopVC) : TopAction → TopVC → Prop
  | moviesFailed : vc.moviesAwaited = true →
      TopStep sw vc (.getMovies none) { vc with moviesAwaited := false }
  | moviesShown {documents movies} : vc.moviesAwaited = true →
      documents.mapM Movie.ofDocumentData = some movies →
      TopStep sw vc (.getMovies (some documents)) { vc with
        moviesAwaited := false
        allMovie := movies
        searchedMovie := sortedBy (Movie.Before sw .release .descending) movies }
  | textChanged {text} :
      TopStep sw vc (.textDidChange text) { vc with
        searchText := text
        searchedMovie := (sortedBy (Movie.Before sw .release vc.segindex)
          (vc.allMovie.filter (Movie.matchesName sw text))).filter
            (Movie.searchKeeps sw vc.segtype) }
  | typeChangedAll {s} : vc.searchText = "" →
      TopStep sw vc (.sortType s) { vc with
        segtype := s
        searchedMovie := sortedBy (Movie.Before sw .release vc.segindex)
          ((sortedBy (Movie.Before sw vc.segtime vc.segindex) vc.allMovie).filter
            (Movie.matchesType sw s)) }
  | typeChangedFound {s} : vc.searchText ≠ "" →
      TopStep sw vc (.sortType s) { vc with
        segtype := s
        searchedMovie := (sortedBy (Movie.Before sw .release vc.segindex)
          (vc.allMovie.filter (Movie.matchesName sw vc.searchText))).filter
            (Movie.searchKeeps sw s) }
  | keyChanged {k movies} :
      movies.Perm ((vc.searchBase sw).filter (Movie.searchKeeps sw vc.segtype)) →
      TopStep sw vc (.sortTimeAndScore k) { vc with
        segtime := k
        searchedMovie := sortedBy (Movie.Before sw k vc.segindex) movies }
  | orderChanged {d movies} :
      movies.Perm ((vc.searchBase sw).filter (Movie.searchKeeps sw vc.segtype)) →
      TopStep sw vc (.sortRelease d) { vc with
        segindex := d
        searchedMovie := sortedBy (Movie.Before sw vc.segtime d) movies }

namespace TopVC

variable (sw : SwiftString) (vc : TopVC)

theorem topStep_textDidChange (text : String) :
    TopStep sw vc (.textDidChange text) (vc.textDidChange sw text) := by
  have hbase : { vc with searchText := text, searchedMovie := vc.allMovie }.searchBase sw =
      vc.allMovie.filter (Movie.matchesName sw text) := by
    unfold searchBase
    dsimp only
    split
    · rename_i hempty
      simp [hempty]
    · rfl
  unfold textDidChange
  rw [search_eq, found, hbase]
  exact .textChanged

/-- The sort and the filter of `sortType`, before it calls `search()`. -/
theorem sortType_eq (s : TypeSegment) : vc.sortType sw s =
    { vc with
      segtype := s
      searchedMovie := (sortedBy (Movie.Before sw vc.segtime vc.segindex) vc.allMovie).filter
        (Movie.matchesType sw s) }.search sw := by
  obtain ⟨all, searched, type, time, index, text, awaited⟩ := vc
  have hkeep : ∀ xs : List Movie, xs.filter (fun _ => true) = xs := fun xs => by simp
  cases index <;> cases time <;> cases s <;> first
    | rfl
    | exact congrArg (fun xs => (TopVC.mk all xs _ _ _ text awaited).search sw) (hkeep _).symm

theorem topStep_sortType (s : TypeSegment) :
    TopStep sw vc (.sortType s) (vc.sortType sw s) := by
  rw [sortType_eq, search_eq]
  by_cases hempty : vc.searchText = ""
  · have hall : ∀ xs : List Movie,
        (sortedBy (Movie.Before sw .release vc.segindex) (xs.filter (Movie.matchesType sw s))).filter
          (Movie.searchKeeps sw s) =
        sortedBy (Movie.Before sw .release vc.segindex) (xs.filter (Movie.matchesType sw s)) := by
      intro xs
      rw [List.filter_eq_self]
      intro m hm
      have hmem := (perm_sortedBy _ _).mem_iff.mp hm
      exact Movie.searchKeeps_of_matchesType (List.mem_filter.mp hmem).2
    have hstep : TopStep sw vc (.sortType s) _ := .typeChangedAll hempty
    simpa only [found, searchBase, hempty, if_true, hall] using hstep
  · have hstep : TopStep sw vc (.sortType s) _ := .typeChangedFound hempty
    simpa only [found, searchBase, hempty, if_false] using hstep

theorem topStep_sortTimeAndScore (k : KeySegment) :
    TopStep sw vc (.sortTimeAndScore k) (vc.sortTimeAndScore sw k) := by
  have hfound := perm_found sw { vc with segtime := k }
  have htwice := perm_found_search sw { vc with segtime := k }
  obtain ⟨all, searched, type, time, index, text, awaited⟩ := vc
  simp only [search_eq] at htwice
  cases index with
  | descending =>
      simp only [sortTimeAndScore, search_eq, sortMovies]
      exact .keyChanged hfound
  | ascending =>
      simp only [sortTimeAndScore, search_eq, sortMovies]
      exact .keyChanged htwice

theorem topStep_sortRelease (d : OrderSegment) :
    TopStep sw vc (.sortRelease d) (vc.sortRelease sw d) := by
  have hfound : ({ vc with segindex := d }.found sw).Perm
      ((vc.searchBase sw).filter (Movie.searchKeeps sw vc.segtype)) := perm_found sw _
  have hstep : TopStep sw vc (.sortRelease d) _ := .orderChanged hfound
  unfold sortRelease
  rw [search_eq]
  exact hstep

end TopVC

theorem topStep_of_step {sw : SwiftString} {vc t : TopVC} {a : TopAction}
    (h : (topPage sw).step vc a t) : TopStep sw vc a t := by
  replace h : vc.next sw a = some t := h
  cases a with
  | getMovies snapshot =>
      simp only [TopVC.next, Option.ite_none_right_eq_some] at h
      obtain ⟨hawaited, h⟩ := h
      cases snapshot with
      | none =>
          obtain rfl := Option.some.inj h
          exact .moviesFailed hawaited
      | some documents =>
          simp only [TopVC.getMovies, Option.bind_eq_bind, Option.bind_eq_some_iff] at h
          obtain ⟨movies, hmovies, h⟩ := h
          obtain rfl := Option.some.inj h
          exact .moviesShown hawaited hmovies
  | sortType s =>
      obtain rfl := Option.some.inj h
      exact vc.topStep_sortType sw s
  | sortTimeAndScore k =>
      obtain rfl := Option.some.inj h
      exact vc.topStep_sortTimeAndScore sw k
  | sortRelease d =>
      obtain rfl := Option.some.inj h
      exact vc.topStep_sortRelease sw d
  | textDidChange text =>
      obtain rfl := Option.some.inj h
      exact vc.topStep_textDidChange sw text

end Takeit
