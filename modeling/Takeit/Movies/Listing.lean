import Mathlib.Data.List.Infix
import Takeit.Movies.Steps

/-!
# Which movies the page lists, and in which order

`search()` knows two genres out of four, and the arrival of the movies asks no
setting. `listed_iff_guard` says in which runs the list holds exactly the
movies of the selected genre whose name matches.

`search()` also sorts by release date whatever is selected. Two of the
handlers sort once more after it, the others do not. `ordered_iff_guard` says
in which runs the list is in the selected order.
-/

namespace Takeit

open Takeit.Logic Takeit.Firestore

/-! ## The movies listed -/

namespace TopVC

variable (sw : SwiftString)

/-- The page lists exactly the matching movies, each as often as it was
loaded. -/
def Listed (vc : TopVC) : Prop :=
  vc.searchedMovie.Perm (vc.allMovie.filter fun m =>
    m.matchesType sw vc.segtype && m.matchesName sw vc.searchText)

instance (vc : TopVC) : Decidable (vc.Listed sw) := inferInstanceAs (Decidable (List.Perm _ _))

/-- With 愛情片 or 恐怖片 selected, which `search()` does not know, all movies
with a matching name are of that genre. -/
def SearchGuard (vc : TopVC) (s : TypeSegment) (text : String) : Prop :=
  s = .love ∨ s = .hor →
    ∀ m ∈ vc.allMovie, m.matchesName sw text = true → m.matchesType sw s = true

instance (vc : TopVC) (s : TypeSegment) (text : String) : Decidable (vc.SearchGuard sw s text) :=
  inferInstanceAs (Decidable (_ ∨ _ → ∀ m ∈ vc.allMovie, _ → _))

/-- Where the handlers list the right movies. -/
def ListGuard (vc : TopVC) : TopAction → Prop
  | .getMovies snapshot =>
      ∀ documents ∈ snapshot, ∀ movies ∈ documents.mapM Movie.ofDocumentData, ∀ m ∈ movies,
        m.matchesType sw vc.segtype = true ∧ m.matchesName sw vc.searchText = true
  | .textDidChange text => vc.SearchGuard sw vc.segtype text
  | .sortType s => vc.searchText ≠ "" → vc.SearchGuard sw s vc.searchText
  | .sortTimeAndScore _ | .sortRelease _ =>
      vc.searchText ≠ "" → vc.SearchGuard sw vc.segtype vc.searchText

instance (vc : TopVC) : ∀ a, Decidable (vc.ListGuard sw a)
  | .getMovies snapshot => inferInstanceAs (Decidable (∀ documents ∈ snapshot, ∀ movies ∈
      documents.mapM Movie.ofDocumentData, ∀ m ∈ movies, _ ∧ _))
  | .textDidChange _ => inferInstanceAs (Decidable (SearchGuard ..))
  | .sortType _ | .sortTimeAndScore _ | .sortRelease _ =>
      inferInstanceAs (Decidable (_ → SearchGuard ..))

variable {sw} {vc : TopVC}

/-- What `search()` finds among the movies with a matching name is right
precisely under the guard. -/
theorem perm_iff_searchGuard {s : TypeSegment} {text : String} {movies : List Movie}
    (h : movies.Perm ((vc.allMovie.filter (Movie.matchesName sw text)).filter
      (Movie.searchKeeps sw s))) :
    movies.Perm (vc.allMovie.filter fun m => m.matchesType sw s && m.matchesName sw text) ↔
      vc.SearchGuard sw s text := by
  have hsplit : (fun m : Movie => m.matchesType sw s && m.matchesName sw text) =
      fun m => m.matchesType sw s && (m.searchKeeps sw s && m.matchesName sw text) := by
    funext m
    cases htype : m.matchesType sw s with
    | false => rfl
    | true => simp [Movie.searchKeeps_of_matchesType htype]
  -- nothing of the genre is missing from what was found, so only the rest can be wrong
  rw [h.congr_left, List.filter_filter, hsplit, perm_filter_and_iff]
  simp only [Bool.and_eq_true, and_imp]
  constructor
  · intro hall hs m hm hname
    refine hall m hm ?_ hname
    rcases hs with rfl | rfl <;> rfl
  · intro hguard m hm hkeeps hname
    by_cases hs : s = .love ∨ s = .hor
    · exact hguard hs m hm hname
    · exact Movie.matchesType_of_searchKeeps (not_or.mp hs) hkeeps

/-- What a search finds is right if the list was right before or the text
makes it start over. -/
theorem Listed.perm_iff {movies : List Movie} (hlisted : vc.Listed sw)
    (h : movies.Perm ((vc.searchBase sw).filter (Movie.searchKeeps sw vc.segtype))) :
    movies.Perm (vc.allMovie.filter fun m =>
      m.matchesType sw vc.segtype && m.matchesName sw vc.searchText) ↔
    (vc.searchText ≠ "" → vc.SearchGuard sw vc.segtype vc.searchText) := by
  unfold searchBase at h
  by_cases hempty : vc.searchText = ""
  · -- without a text the search filters the list that was right before
    refine iff_of_true ?_ fun hne => absurd hempty hne
    rw [if_pos hempty] at h
    refine h.trans ((hlisted.filter _).trans ?_)
    rw [List.filter_filter]
    refine List.Perm.of_eq (List.filter_congr fun m _ => ?_)
    cases htype : m.matchesType sw vc.segtype with
    | false => simp
    | true => simp [Movie.searchKeeps_of_matchesType htype]
  · -- with one it starts from all movies, the genre's filter lost
    rw [if_neg hempty] at h
    rw [perm_iff_searchGuard h]
    exact ⟨fun hguard _ => hguard, fun hguard => hguard hempty⟩

end TopVC

variable {sw : SwiftString} {vc t : TopVC} {a : TopAction}

/-- From a right list a step leads to a right list precisely if it meets its
guard. -/
theorem TopStep.listed_iff (h : TopStep sw vc a t) (hlisted : vc.Listed sw) :
    t.Listed sw ↔ vc.ListGuard sw a := by
  cases h with
  | moviesFailed => exact iff_of_true hlisted fun _ h => absurd h (by simp)
  | @moviesShown documents movies _ hmovies =>
      unfold TopVC.Listed
      rw [(perm_sortedBy _ movies).congr_left, perm_filter_iff]
      simp only [TopVC.ListGuard, Option.mem_def, Option.some.injEq, forall_eq', hmovies,
        Bool.and_eq_true]
  | textChanged => exact TopVC.perm_iff_searchGuard ((perm_sortedBy _ _).filter _)
  | @typeChangedAll s hempty =>
      -- `sortType` knows all genres, and the search after it finds nothing to do
      refine iff_of_true ?_ fun hne => absurd hempty hne
      unfold TopVC.Listed
      refine (perm_sortedBy _ _).trans (((perm_sortedBy _ _).filter _).trans ?_)
      simp [hempty, Movie.matchesName]
  | @typeChangedFound s hne =>
      have hfound := (perm_sortedBy (Movie.Before sw .release vc.segindex)
        (vc.allMovie.filter (Movie.matchesName sw vc.searchText))).filter (Movie.searchKeeps sw s)
      exact (TopVC.perm_iff_searchGuard hfound).trans ⟨fun h _ => h, fun h => h hne⟩
  | @keyChanged k movies hmovies =>
      have hfound := (perm_sortedBy (Movie.Before sw k vc.segindex) movies).trans hmovies
      exact hlisted.perm_iff hfound
  | @orderChanged d movies hmovies =>
      have hfound := (perm_sortedBy (Movie.Before sw vc.segtime d) movies).trans hmovies
      exact hlisted.perm_iff hfound

/-- The page lists exactly the matching movies in every state of a run whose
steps all meet `ListGuard`, and in no other run. -/
theorem listed_iff_guard {es : List (Edge TopVC TopAction)} (h : (topPage sw).Run es vc) :
    Lts.Throughout (TopVC.Listed sw) es vc ↔ ∀ e ∈ es, e.pre.ListGuard sw e.act :=
  h.always_iff (J := TopVC.Listed sw)
    (by rintro _ rfl; exact List.Perm.nil)
    (fun _ _ _ hlisted hst => ((topStep_of_step hst).listed_iff hlisted).mpr)
    (fun _ hlisted => hlisted)
    (fun _ _ _ hlisted hst => ((topStep_of_step hst).listed_iff hlisted).mp)

/-- A love story and an action movie. -/
def twoMovies : List DocumentData :=
  [dictionary [("movieName", .string "Amelie"), ("type", .string "愛情"),
      ("release", .string "2001/04/25"), ("imdb", .string "8.3")],
    dictionary [("movieName", .string "Avatar"), ("type", .string "動作"),
      ("release", .string "2009/12/18"), ("imdb", .string "7.8")]]

/-- The action movies among them, searched for by name and sorted by score. -/
def actionSearched : List TopAction :=
  [.getMovies (some twoMovies), .sortType .act, .textDidChange "av", .sortTimeAndScore .imdb]

theorem listed_actionSearched : ∃ s, (topPage .ascii).Run (topTrace .ascii actionSearched) s ∧
    s.searchedMovie.map Movie.movieName = ["Avatar"] ∧
    Lts.Throughout (TopVC.Listed .ascii) (topTrace .ascii actionSearched) s := by
  obtain ⟨s, hrun, hnames⟩ : ∃ s, (topPage .ascii).Run (topTrace .ascii actionSearched) s ∧
      s.searchedMovie.map Movie.movieName = ["Avatar"] := Lts.exists_run_trace rfl (by decide +kernel)
  exact ⟨s, hrun, hnames, (listed_iff_guard hrun).mpr (by decide +kernel)⟩

/-- A search among the love stories finds the action movie too. -/
def loveSearched : List TopAction :=
  [.getMovies (some twoMovies), .sortType .love, .textDidChange "a"]

theorem listed_loveSearched : ∃ s, (topPage .ascii).Run (topTrace .ascii loveSearched) s ∧
    s.segtype = .love ∧ s.searchedMovie.map Movie.movieName = ["Avatar", "Amelie"] ∧
    ¬ s.Listed .ascii :=
  Lts.exists_run_trace rfl (by decide +kernel)

/-! ## The order of the list -/

namespace TopVC

variable (sw : SwiftString)

/-- The list is in the selected order: nothing belongs before what it
follows. -/
def Ordered (vc : TopVC) : Prop :=
  vc.searchedMovie.Pairwise fun a b => ¬ Movie.Before sw vc.segtime vc.segindex b a

instance (vc : TopVC) : Decidable (vc.Ordered sw) :=
  inferInstanceAs (Decidable (List.Pairwise _ _))

/-- Sorted by release date, the movies are in the selected order too: of any
two, in the order they were loaded, the one the sort puts first does not
belong after the other. -/
def ReleaseFits (vc : TopVC) (d : OrderSegment) (movies : List Movie) : Prop :=
  movies.Pairwise fun a b =>
    if Movie.Before sw .release d b a then ¬ Movie.Before sw vc.segtime vc.segindex a b
    else ¬ Movie.Before sw vc.segtime vc.segindex b a

instance (vc : TopVC) (d : OrderSegment) (movies : List Movie) :
    Decidable (vc.ReleaseFits sw d movies) :=
  inferInstanceAs (Decidable (List.Pairwise _ _))

/-- No movie with a strictly better place by release date has a strictly worse
one by score. -/
def ReleaseAgrees (vc : TopVC) (movies : List Movie) : Prop :=
  ∀ a ∈ movies, ∀ b ∈ movies, Movie.Before sw .release vc.segindex a b →
    ¬ Movie.Before sw .imdb vc.segindex b a

instance (vc : TopVC) (movies : List Movie) : Decidable (vc.ReleaseAgrees sw movies) :=
  inferInstanceAs (Decidable (∀ a ∈ movies, ∀ b ∈ movies, _ → _))

/-- Where the handlers leave the list in the selected order. -/
def OrderGuard (vc : TopVC) : TopAction → Prop
  | .getMovies snapshot =>
      ∀ documents ∈ snapshot, ∀ movies ∈ documents.mapM Movie.ofDocumentData,
        vc.ReleaseFits sw .descending movies
  | .textDidChange text =>
      vc.segtime = .imdb → vc.ReleaseFits sw vc.segindex
        ((vc.allMovie.filter (Movie.matchesName sw text)).filter
          (Movie.searchKeeps sw vc.segtype))
  | .sortType s =>
      vc.segtime = .imdb →
        if vc.searchText = "" then
          vc.ReleaseAgrees sw (vc.allMovie.filter (Movie.matchesType sw s))
        else vc.ReleaseFits sw vc.segindex
          ((vc.allMovie.filter (Movie.matchesName sw vc.searchText)).filter
            (Movie.searchKeeps sw s))
  | .sortTimeAndScore _ | .sortRelease _ => True

instance (vc : TopVC) : ∀ a, Decidable (vc.OrderGuard sw a)
  | .getMovies snapshot => inferInstanceAs (Decidable (∀ documents ∈ snapshot, ∀ movies ∈
      documents.mapM Movie.ofDocumentData, ReleaseFits ..))
  | .textDidChange _ => inferInstanceAs (Decidable (_ → ReleaseFits ..))
  | .sortType _ => inferInstanceAs (Decidable (_ → ite ..))
  | .sortTimeAndScore _ | .sortRelease _ => inferInstanceAs (Decidable True)

variable (vc : TopVC)

/-- The last sort of `search()` is right if the release date is selected or
fits. -/
theorem pairwise_search_iff (p : Movie → Bool) (movies : List Movie) :
    ((sortedBy (Movie.Before sw .release vc.segindex) movies).filter p).Pairwise
        (fun a b => ¬ Movie.Before sw vc.segtime vc.segindex b a) ↔
      (vc.segtime = .imdb → vc.ReleaseFits sw vc.segindex (movies.filter p)) := by
  cases hkey : vc.segtime with
  | release =>
      -- the selected sort is the one `search()` makes
      have hsorted := pairwise_sortedBy (Movie.strictWeak_before sw .release vc.segindex) movies
      exact iff_of_true (hsorted.filter p) nofun
  | imdb =>
      rw [pairwise_filter_sortedBy_iff (Movie.strictWeak_before sw .release vc.segindex)]
      unfold ReleaseFits
      rw [hkey]
      exact ⟨fun h _ => h, fun h => h rfl⟩

/-- The same of the sort `sortType` makes of movies it has sorted already. -/
theorem pairwise_sortType_iff (p : Movie → Bool) :
    (sortedBy (Movie.Before sw .release vc.segindex)
        ((sortedBy (Movie.Before sw vc.segtime vc.segindex) vc.allMovie).filter p)).Pairwise
        (fun a b => ¬ Movie.Before sw vc.segtime vc.segindex b a) ↔
      (vc.segtime = .imdb → vc.ReleaseAgrees sw (vc.allMovie.filter p)) := by
  have hrelease := Movie.strictWeak_before sw .release vc.segindex
  cases hkey : vc.segtime with
  | release => exact iff_of_true (pairwise_sortedBy hrelease _) nofun
  | imdb =>
      have hsorted := pairwise_sortedBy (Movie.strictWeak_before sw .imdb vc.segindex) vc.allMovie
      rw [pairwise_sortedBy_of_pairwise hrelease (hsorted.filter p)]
      have hperm := (perm_sortedBy (Movie.Before sw .imdb vc.segindex) vc.allMovie).filter p
      simp only [hperm.mem_iff]
      exact ⟨fun h _ => h, fun h => h trivial⟩

end TopVC

/-- From an ordered list a step leads to an ordered list precisely if it meets
its guard. -/
theorem TopStep.ordered_iff (h : TopStep sw vc a t) (hordered : vc.Ordered sw) :
    t.Ordered sw ↔ vc.OrderGuard sw a := by
  cases h with
  | moviesFailed => exact iff_of_true hordered nofun
  | @moviesShown documents movies _ hmovies =>
      have hsort := pairwise_sortedBy_iff (Movie.strictWeak_before sw .release .descending)
        (q := fun a b => ¬ Movie.Before sw vc.segtime vc.segindex b a) movies
      refine hsort.trans ?_
      simp only [TopVC.OrderGuard, TopVC.ReleaseFits, Option.mem_def, Option.some.injEq,
        forall_eq', hmovies]
  | textChanged => exact vc.pairwise_search_iff sw _ _
  | @typeChangedAll s hempty =>
      have hsort := vc.pairwise_sortType_iff sw (Movie.matchesType sw s)
      refine hsort.trans ?_
      simp only [TopVC.OrderGuard, if_pos hempty]
  | @typeChangedFound s hne =>
      have hsearch := vc.pairwise_search_iff sw (Movie.searchKeeps sw s)
        (vc.allMovie.filter (Movie.matchesName sw vc.searchText))
      refine hsearch.trans ?_
      simp only [TopVC.OrderGuard, if_neg hne]
  | @keyChanged k movies =>
      -- these two sort last
      exact iff_of_true (pairwise_sortedBy (Movie.strictWeak_before sw k vc.segindex) movies)
        trivial
  | @orderChanged d movies =>
      exact iff_of_true (pairwise_sortedBy (Movie.strictWeak_before sw vc.segtime d) movies)
        trivial

/-- The list is in the selected order in every state of a run whose steps all
meet `OrderGuard`, and in no other run. -/
theorem ordered_iff_guard {es : List (Edge TopVC TopAction)} (h : (topPage sw).Run es vc) :
    Lts.Throughout (TopVC.Ordered sw) es vc ↔ ∀ e ∈ es, e.pre.OrderGuard sw e.act :=
  h.always_iff (J := TopVC.Ordered sw)
    (by rintro _ rfl; exact List.Pairwise.nil)
    (fun _ _ _ hordered hst => ((topStep_of_step hst).ordered_iff hordered).mpr)
    (fun _ hordered => hordered)
    (fun _ _ _ hordered hst => ((topStep_of_step hst).ordered_iff hordered).mp)

/-- The two movies by score, the better one last. -/
def scoreSelected : List TopAction :=
  [.getMovies (some twoMovies), .textDidChange "a", .sortTimeAndScore .imdb,
    .sortRelease .ascending]

theorem ordered_scoreSelected : ∃ s, (topPage .ascii).Run (topTrace .ascii scoreSelected) s ∧
    s.searchedMovie.map Movie.movieName = ["Avatar", "Amelie"] ∧
    Lts.Throughout (TopVC.Ordered .ascii) (topTrace .ascii scoreSelected) s := by
  obtain ⟨s, hrun, hnames⟩ : ∃ s, (topPage .ascii).Run (topTrace .ascii scoreSelected) s ∧
      s.searchedMovie.map Movie.movieName = ["Avatar", "Amelie"] :=
    Lts.exists_run_trace rfl (by decide +kernel)
  exact ⟨s, hrun, hnames, (ordered_iff_guard hrun).mpr (by decide +kernel)⟩

/-- A letter typed under the best score first: the newest movie leads. -/
def scoreSearched : List TopAction :=
  [.getMovies (some twoMovies), .sortTimeAndScore .imdb, .textDidChange "a"]

theorem ordered_scoreSearched : ∃ s, (topPage .ascii).Run (topTrace .ascii scoreSearched) s ∧
    s.segtime = .imdb ∧ s.segindex = .descending ∧
    s.searchedMovie.map Movie.imdb = ["7.8", "8.3"] ∧ ¬ s.Ordered .ascii :=
  Lts.exists_run_trace rfl (by decide +kernel)

end Takeit
