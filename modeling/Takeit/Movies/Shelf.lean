import Takeit.Movies.Listing

/-!
# What the movie list shows after any history

The list is narrowed and sorted in place, and the handlers do so by different
settings. All that a history leaves of itself is a `Shelf`: the genre and the text
the list was narrowed by last, and the key and the order it was sorted by last.
`list_on_shelf` says that in every run the list is the loaded movies on that shelf, in
that order.
-/

namespace Takeit

open Takeit.Logic Takeit.Firestore

/-- The settings the list is made with. -/
structure Shelf where
  genre : TypeSegment := .all
  text : String := ""
  key : KeySegment := .release
  order : OrderSegment := .descending
deriving DecidableEq, Repr

/-- The genres `search()` knows; the other two are all movies to it. -/
def TypeSegment.searched : TypeSegment → TypeSegment
  | .love | .hor => .all
  | s => s

namespace Shelf

/-- The movie is on the shelf. -/
def Keeps (sw : SwiftString) (sh : Shelf) (m : Movie) : Bool :=
  m.matchesType sw sh.genre && m.matchesName sw sh.text

/-- What `search()` narrows the list by: a text makes it start over, and without one
it goes on from what there is. -/
def narrow (vc : TopVC) (sh : Shelf) : Shelf :=
  if vc.searchText = "" then
    { sh with genre := if vc.segtype.searched = .all then sh.genre else vc.segtype.searched }
  else { sh with genre := vc.segtype.searched, text := vc.searchText }

/-- The shelf after an action, by the settings before it. -/
def next (vc : TopVC) (sh : Shelf) : TopAction → Shelf
  | .getMovies none => sh
  | .getMovies (some _) => {}
  | .textDidChange text =>
      { genre := vc.segtype.searched, text, key := .release, order := vc.segindex }
  | .sortType s =>
      { genre := if vc.searchText = "" then s else s.searched
        text := vc.searchText
        key := .release
        order := vc.segindex }
  | .sortTimeAndScore k => { sh.narrow vc with key := k, order := vc.segindex }
  | .sortRelease d => { sh.narrow vc with key := vc.segtime, order := d }

end Shelf

/-- The shelf a run leaves. -/
def shelf (es : List (Edge TopVC TopAction)) : Shelf :=
  es.foldl (fun sh e => sh.next e.pre e.act) {}

theorem shelf_step (es : List (Edge TopVC TopAction)) (e : Edge TopVC TopAction) :
    shelf (es ++ [e]) = (shelf es).next e.pre e.act := by
  simp [shelf]

variable {sw : SwiftString} {vc t : TopVC} {a : TopAction} {sh : Shelf}

/-- The list has the movies of the shelf, in its order. The genre is the selected one
or none, and there is no text without one in the search bar. -/
structure TopVC.Shows (sw : SwiftString) (vc : TopVC) (sh : Shelf) : Prop where
  movies : vc.searchedMovie.Perm (vc.allMovie.filter (sh.Keeps sw))
  sorted : vc.searchedMovie.Pairwise fun a b => ¬ Movie.Before sw sh.key sh.order b a
  genre : sh.genre = .all ∨ sh.genre = vc.segtype
  text : vc.searchText = "" → sh.text = ""

/-! ## One step -/

theorem searchKeeps_eq (s : TypeSegment) :
    Movie.searchKeeps sw s = Movie.matchesType sw s.searched := by
  funext m
  cases s <;> rfl

@[simp] theorem matchesType_all (m : Movie) : m.matchesType sw .all = true := rfl

theorem searched_eq_all_or (s : TypeSegment) : s.searched = .all ∨ s.searched = s := by
  cases s <;> simp [TypeSegment.searched]

/-- What `search()` finds is what is on the narrowed shelf. -/
theorem TopVC.Shows.found {movies : List Movie} (h : vc.Shows sw sh)
    (hmovies : movies.Perm ((vc.searchBase sw).filter (Movie.searchKeeps sw vc.segtype))) :
    movies.Perm (vc.allMovie.filter ((sh.narrow vc).Keeps sw)) := by
  refine hmovies.trans ?_
  rw [searchKeeps_eq]
  unfold TopVC.searchBase Shelf.narrow
  by_cases hempty : vc.searchText = ""
  · rw [if_pos hempty, if_pos hempty]
    refine (h.movies.filter _).trans (List.Perm.of_eq ?_)
    rw [List.filter_filter]
    refine List.filter_congr fun m _ => ?_
    unfold Shelf.Keeps
    by_cases hall : vc.segtype.searched = .all
    · simp [hall]
    · -- the list is of no genre, or of this one already
      rw [if_neg hall]
      have hself : vc.segtype.searched = vc.segtype :=
        (searched_eq_all_or vc.segtype).resolve_left hall
      rcases h.genre with hgenre | hgenre
      · simp [hgenre]
      · rw [hgenre, hself]
        cases m.matchesType sw vc.segtype <;> simp
  · rw [if_neg hempty, if_neg hempty, List.filter_filter]
    exact List.Perm.refl _

theorem Shelf.genre_narrow (h : vc.Shows sw sh) :
    (sh.narrow vc).genre = .all ∨ (sh.narrow vc).genre = vc.segtype := by
  unfold Shelf.narrow
  split
  · dsimp only
    split
    · exact h.genre
    · exact searched_eq_all_or vc.segtype
  · exact searched_eq_all_or vc.segtype

theorem Shelf.text_narrow (h : vc.Shows sw sh) (hempty : vc.searchText = "") :
    (sh.narrow vc).text = "" := by
  unfold Shelf.narrow
  rw [if_pos hempty]
  exact h.text hempty

theorem TopStep.shows (h : TopStep sw vc a t) (hshows : vc.Shows sw sh) :
    t.Shows sw (sh.next vc a) := by
  cases h with
  | moviesFailed _ => exact ⟨hshows.movies, hshows.sorted, hshows.genre, hshows.text⟩
  | @moviesShown documents movies _ _ =>
      have hkeeps : movies.filter (Shelf.Keeps sw {}) = movies :=
        List.filter_eq_self.mpr fun m _ => by simp [Shelf.Keeps, Movie.matchesName]
      refine ⟨?_, pairwise_sortedBy (Movie.strictWeak_before sw _ _) _, .inl rfl, fun _ => rfl⟩
      show (sortedBy _ movies).Perm (movies.filter (Shelf.Keeps sw {}))
      rw [hkeeps]
      exact perm_sortedBy _ _
  | @textChanged text =>
      refine ⟨?_, ?_, searched_eq_all_or vc.segtype, fun hempty => hempty⟩
      · refine ((perm_sortedBy _ _).filter _).trans (List.Perm.of_eq ?_)
        rw [searchKeeps_eq, List.filter_filter]
        rfl
      · exact (pairwise_sortedBy (Movie.strictWeak_before sw _ _) _).filter _
  | @typeChangedAll s hempty =>
      refine ⟨?_, ?_, ?_, fun h => h⟩
      · refine (perm_sortedBy _ _).trans (((perm_sortedBy _ _).filter _).trans
          (List.Perm.of_eq (List.filter_congr fun m _ => ?_)))
        simp [Shelf.next, Shelf.Keeps, hempty, Movie.matchesName]
      · exact pairwise_sortedBy (Movie.strictWeak_before sw _ _) _
      · simp [Shelf.next, hempty]
  | @typeChangedFound s hne =>
      refine ⟨?_, ?_, ?_, fun h => absurd h hne⟩
      · refine ((perm_sortedBy _ _).filter _).trans (List.Perm.of_eq ?_)
        rw [searchKeeps_eq, List.filter_filter]
        refine List.filter_congr fun m _ => ?_
        simp [Shelf.next, Shelf.Keeps, hne]
      · exact (pairwise_sortedBy (Movie.strictWeak_before sw _ _) _).filter _
      · simpa [Shelf.next, hne] using searched_eq_all_or s
  | @keyChanged k movies hmovies =>
      refine ⟨(perm_sortedBy _ _).trans (hshows.found hmovies),
        pairwise_sortedBy (Movie.strictWeak_before sw _ _) _, Shelf.genre_narrow hshows,
        fun hempty => show (sh.narrow vc).text = "" from Shelf.text_narrow hshows hempty⟩
  | @orderChanged d movies hmovies =>
      refine ⟨(perm_sortedBy _ _).trans (hshows.found hmovies),
        pairwise_sortedBy (Movie.strictWeak_before sw _ _) _, Shelf.genre_narrow hshows,
        fun hempty => show (sh.narrow vc).text = "" from Shelf.text_narrow hshows hempty⟩

/-! ## Every run -/

/-- Whatever has been done, the list has the loaded movies of the shelf that the run
leaves, each as often as it was loaded, in the shelf's order. -/
theorem list_on_shelf {es : List (Edge TopVC TopAction)} (h : (topPage sw).Run es vc) :
    vc.searchedMovie.Perm (vc.allMovie.filter ((shelf es).Keeps sw)) ∧
      vc.searchedMovie.Pairwise fun a b =>
        ¬ Movie.Before sw (shelf es).key (shelf es).order b a := by
  have hshows : vc.Shows sw (shelf es) := by
    induction h with
    | start h0 =>
        obtain rfl := h0
        exact ⟨List.Perm.nil, List.Pairwise.nil, .inl rfl, fun _ => rfl⟩
    | @step es vc a t _ hst ih =>
        rw [shelf_step]
        exact (topStep_of_step hst).shows ih
  exact ⟨hshows.movies, hshows.sorted⟩

/-- The love stories, searched for by name: the shelf is of no genre. -/
theorem list_on_shelf_loveSearched : ∃ s, (topPage .ascii).Run (topTrace .ascii loveSearched) s ∧
    shelf (topTrace .ascii loveSearched) = { text := "a" } ∧
    s.searchedMovie.Perm (s.allMovie.filter (Shelf.Keeps .ascii { text := "a" })) := by
  have hrun : ∃ s, (topPage .ascii).Run (topTrace .ascii loveSearched) s ∧ True :=
    Lts.exists_run_trace rfl (by decide +kernel)
  obtain ⟨s, hrun, -⟩ := hrun
  have hshelf : shelf (topTrace .ascii loveSearched) = { text := "a" } := by decide +kernel
  have hmovies := (list_on_shelf hrun).1
  rw [hshelf] at hmovies
  exact ⟨s, hrun, hshelf, hmovies⟩

end Takeit
