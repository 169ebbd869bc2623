import Takeit.Doubles
import Takeit.Favourites.WwTableViewController
import Takeit.Logic.Lists
import Takeit.Movies.Cells
import Takeit.Movies.Steps

/-!
# What a document of the movies can do to the pages

Decoding a movie converts its runtime to an `Int`, the cells and the page of a
movie unwrap the URL of its poster, and the text of a cell converts the runtime
back and forth once more. `crashFree_iff` says with which documents none of this
traps, on any page and in any run.

`URL(string:)` is a parameter: `isURL` says which texts are URLs.
-/

namespace Takeit

open Takeit.Logic Takeit.Firestore

/-! ## The page of a movie (`DetailMovie.swift`) -/

/-- The view controller, its download on its way. -/
structure DetailMovie where
  title : String
  movieImage01 : Option Picture
  movieLabel01 : String
  tasks : Requests String ImageData

/-- `viewDidLoad()`; a decoded movie has no image of its own. -/
def DetailMovie.viewDidLoad (isURL : String → Bool) (movies01 : MovieByPei) : Option DetailMovie := do
  let tasks : Requests String ImageData ←
    if isURL "URL" then
      -- `URL(string: movies01.poster)!`
      if isURL movies01.poster then some (({} : Requests String ImageData).start 0 movies01.poster)
      else none
    else some {}
  some {
    title := movies01.movieName
    movieImage01 := none
    movieLabel01 := "影名: " ++ movies01.movieName ++ "\n" ++ movies01.intro
    tasks := tasks }

/-! ## Decoding -/

/-- `NSInteger(interval)` in `calTime(interval:)`, the interval being
`TimeInterval(runtime)`. -/
def Movie.nsInteger (m : Movie) : Option Int := (Double.ofInt m.runtime).toInt?

/-- The numbers Firestore stores: integers of 64 bits, and doubles. -/
def StoredNumber : Value → Prop
  | .int n => -2 ^ 63 ≤ n ∧ n < 2 ^ 63
  | .double (.finite q) => IsDouble q
  | _ => True

/-- A runtime that is a double is finite, and in the range of `Int` once it is
cut to an integer. -/
def RuntimeFits (data : DocumentData) : Prop :=
  ∀ d, data "runtime" = some (.double d) → d.Fits

/-- `documentData["runtime"] as? TimeInterval ?? 0`. -/
def runtimeField (data : DocumentData) : Double := Casts.snapshot.timeIntervalField data "runtime"

/-- A runtime is a double, or read as an integer a double can hold. -/
theorem runtimeField_cases {data : DocumentData}
    (hnumber : ∀ v, data "runtime" = some v → StoredNumber v) :
    (∃ d, data "runtime" = some (.double d) ∧ runtimeField data = d) ∨
      RuntimeFits data ∧ ∃ n : Int, runtimeField data = .finite n ∧ Exact n ∧
        -2 ^ 63 ≤ n ∧ n < 2 ^ 63 := by
  have hzero : ((0 : Int) : Rat) = 0 := rfl
  have hone : ((1 : Int) : Rat) = 1 := rfl
  unfold runtimeField Casts.timeIntervalField
  cases hdata : data "runtime" with
  | none => exact .inr ⟨fun d hd => by simp [hdata] at hd, 0, rfl, by decide, by decide, by decide⟩
  | some v =>
      have hv := hnumber v hdata
      cases v with
      | double d => exact .inl ⟨d, rfl, rfl⟩
      | int n =>
          refine .inr ⟨fun d hd => by simp [hdata] at hd, ?_⟩
          by_cases hexact : n.natAbs % 2 ^ (n.natAbs.log2 - 52) = 0
          · exact ⟨n, by simp [Casts.snapshot, Value.asDouble, hexact], hexact, hv⟩
          · exact ⟨0, by simp [Casts.snapshot, Value.asDouble, hexact], by decide, by decide,
              by decide⟩
      | bool b =>
          refine .inr ⟨fun d hd => by simp [hdata] at hd, ?_⟩
          cases b with
          | false => exact ⟨0, rfl, by decide, by decide, by decide⟩
          | true => exact ⟨1, rfl, by decide, by decide, by decide⟩
      | _ =>
          exact .inr ⟨fun d hd => by simp [hdata] at hd, 0, rfl, by decide, by decide, by decide⟩

theorem Movie.ofDocumentData_eq_some {data : DocumentData} {m : Movie}
    (h : Movie.ofDocumentData data = some m) :
    (runtimeField data).toInt? = some m.runtime ∧ m.poster = stringField data "poster" := by
  simp only [Movie.ofDocumentData, Movie.decode, Option.bind_eq_bind, Option.bind_eq_some_iff] at h
  obtain ⟨runtime, hruntime, h⟩ := h
  obtain rfl := Option.some.inj h
  exact ⟨hruntime, rfl⟩

/-- A document decodes precisely if its runtime fits. -/
theorem Movie.isSome_ofDocumentData_iff {data : DocumentData}
    (hnumber : ∀ v, data "runtime" = some v → StoredNumber v) :
    (Movie.ofDocumentData data).isSome = true ↔ RuntimeFits data := by
  have hdecode : (Movie.ofDocumentData data).isSome = (runtimeField data).toInt?.isSome := by
    unfold Movie.ofDocumentData Movie.decode
    show ((runtimeField data).toInt?.bind _).isSome = _
    cases (runtimeField data).toInt? <;> rfl
  rw [hdecode]
  rcases runtimeField_cases hnumber with ⟨d, hdata, hfield⟩ | ⟨hfits, n, hfield, -, hrange⟩
  · rw [hfield, Double.isSome_toInt?_iff]
    constructor
    · intro h d' hd'
      rw [hdata] at hd'
      cases hd'
      exact h
    · intro h
      exact h d hdata
  · rw [hfield, Double.toInt?_intCast hrange]
    exact iff_of_true rfl hfits

/-- The runtime of a decoded movie goes to a double and comes back. -/
theorem Movie.isSome_nsInteger {data : DocumentData} {m : Movie}
    (hnumber : ∀ v, data "runtime" = some v → StoredNumber v)
    (h : Movie.ofDocumentData data = some m) : m.nsInteger.isSome = true := by
  have hruntime := (Movie.ofDocumentData_eq_some h).1
  have hback : ∀ n : Int, Exact n → -2 ^ 63 ≤ n ∧ n < 2 ^ 63 → m.runtime = n →
      m.nsInteger.isSome = true := by
    intro n hexact hrange hn
    rw [Movie.nsInteger, hn, Double.toInt?_ofInt hexact hrange]
    rfl
  rcases runtimeField_cases hnumber with ⟨d, hdata, hfield⟩ | ⟨-, n, hfield, hexact, hrange⟩
  · rw [hfield] at hruntime
    cases d with
    | nan => exact absurd hruntime (by simp [Double.toInt?])
    | infinity negative => exact absurd hruntime (by simp [Double.toInt?])
    | finite q =>
        rw [Double.toInt?_finite] at hruntime
        obtain ⟨hrange, heq⟩ := Option.ite_none_right_eq_some.mp hruntime
        exact hback _ (exact_truncate (hnumber _ hdata)) hrange (Option.some.inj heq).symm
  · rw [hfield, Double.toInt?_intCast hrange] at hruntime
    exact hback n hexact hrange (Option.some.inj hruntime).symm

/-! ## The pages -/

/-- What the queries of the pages answer, the collection holding `content`. -/
def TVAction.From (content : List DocumentData) : TVAction → Prop
  | .top (.getMovies (some documents)) => documents = content
  | _ => True

/-- The same for the favourites. -/
def WwAction.From (content : List DocumentData) : WwAction → Prop
  | .getDocuments (some documents) => documents = content
  | _ => True

namespace TVTable

/-- What UIKit, Firestore and the downloads may deliver. -/
def permits (vc : TVTable) : TVAction → Bool
  | .top (.getMovies _) => vc.top.moviesAwaited
  | .top _ => true
  | .cellForRowAt _ row => row < vc.top.searchedMovie.length
  | .downloaded k _ => k < vc.tasks.running.length
  | .failed k => k < vc.tasks.running.length
  | .runBlock => !vc.tasks.queue.isEmpty

/-- The handler returns; a cell with a text has read it from the movie. -/
def returns (sw : SwiftString) (isURL : String → Bool) (vc : TVTable) (a : TVAction) : Bool :=
  (vc.next sw isURL a).isSome &&
    match a with
    | .cellForRowAt _ row =>
        vc.top.searchedMovie[row]?.all fun m => m.poster = "" || m.nsInteger.isSome
    | _ => true

end TVTable

/-- No page traps with this content of the movies: neither the list, nor the
favourites, in any run, nor the page of any decoded movie. -/
structure CrashFree (sw : SwiftString) (isURL : String → Bool) (content : List DocumentData) :
    Prop where
  list : ∀ es vc, (moviePage sw isURL).Run es vc → (∀ e ∈ es, e.act.From content) →
    ∀ a : TVAction, a.From content → vc.permits a = true → vc.returns sw isURL a = true
  favourites : ∀ es vc, (favourites isURL).Run es vc → (∀ e ∈ es, e.act.From content) →
    ∀ a : WwAction, a.From content → vc.permits a = true → (vc.exec isURL a).isSome = true
  detail : ∀ movies, content.mapM Movie.ofDocumentData = some movies →
    ∀ m ∈ movies, (DetailMovie.viewDidLoad isURL m).isSome = true

variable {sw : SwiftString} {isURL : String → Bool} {content : List DocumentData}
  {P : Movie → Prop}

/-- The movies of the page, listed or not. -/
def TopVC.AllMovies (P : Movie → Prop) (vc : TopVC) : Prop :=
  (∀ m ∈ vc.allMovie, P m) ∧ ∀ m ∈ vc.searchedMovie, P m

theorem TopVC.AllMovies.of_searchBase {vc : TopVC} (h : vc.AllMovies P) {k : KeySegment}
    {d : OrderSegment} {movies : List Movie}
    (hperm : movies.Perm ((vc.searchBase sw).filter (Movie.searchKeeps sw vc.segtype))) :
    ∀ m ∈ sortedBy (Movie.Before sw k d) movies, P m := by
  intro m hm
  have hfound := hperm.mem_iff.mp ((perm_sortedBy _ _).mem_iff.mp hm)
  have hbase := (List.mem_filter.mp hfound).1
  unfold TopVC.searchBase at hbase
  split at hbase
  · exact h.2 m hbase
  · exact h.1 m (List.mem_filter.mp hbase).1

/-- A step of the page brings no movies but those of the query. -/
theorem TopStep.allMovies {vc t : TopVC} {a : TopAction} (h : TopStep sw vc a t)
    (hquery : ∀ documents movies, a = .getMovies (some documents) →
      documents.mapM Movie.ofDocumentData = some movies → ∀ m ∈ movies, P m)
    (hmovies : vc.AllMovies P) : t.AllMovies P := by
  cases h with
  | moviesFailed _ => exact hmovies
  | @moviesShown documents movies _ hdecoded =>
      have hall := hquery documents movies rfl hdecoded
      exact ⟨hall, fun m hm => hall m ((perm_sortedBy _ _).mem_iff.mp hm)⟩
  | textChanged =>
      refine ⟨hmovies.1, fun m hm => ?_⟩
      have hsorted := (perm_sortedBy _ _).mem_iff.mp (List.mem_filter.mp hm).1
      exact hmovies.1 m (List.mem_filter.mp hsorted).1
  | typeChangedAll _ =>
      refine ⟨hmovies.1, fun m hm => ?_⟩
      have hkept := (List.mem_filter.mp ((perm_sortedBy _ _).mem_iff.mp hm)).1
      exact hmovies.1 m ((perm_sortedBy _ _).mem_iff.mp hkept)
  | typeChangedFound _ =>
      refine ⟨hmovies.1, fun m hm => ?_⟩
      have hsorted := (perm_sortedBy _ _).mem_iff.mp (List.mem_filter.mp hm).1
      exact hmovies.1 m (List.mem_filter.mp hsorted).1
  | keyChanged hperm => exact ⟨hmovies.1, hmovies.of_searchBase hperm⟩
  | orderChanged hperm => exact ⟨hmovies.1, hmovies.of_searchBase hperm⟩

section Runs

variable (hdecoded : ∀ movies, content.mapM Movie.ofDocumentData = some movies → ∀ m ∈ movies, P m)

include hdecoded

/-- The list shows decoded movies only. -/
theorem moviePage_allMovies {es : List (Edge TVTable TVAction)} {vc : TVTable}
    (h : (moviePage sw isURL).Run es vc) (hfrom : ∀ e ∈ es, e.act.From content) :
    vc.top.AllMovies P := by
  refine (Lts.run_restrict_iff (G := fun _ a => a.From content).mpr ⟨h, hfrom⟩).invariant
    (I := fun vc => vc.top.AllMovies P) ?_ ?_
  · rintro _ rfl
    exact ⟨fun m hm => absurd hm List.not_mem_nil, fun m hm => absurd hm List.not_mem_nil⟩
  · rintro vc a t hmovies ⟨hstep, hfrom⟩
    cases tvStep_of_step hstep with
    | page htop =>
        refine (topStep_of_step htop).allMovies (fun documents movies ha hmovies => ?_) hmovies
        subst ha
        obtain rfl : documents = content := hfrom
        exact hdecoded movies hmovies
    | noPoster _ _ | poster _ _ _ | answered | dropped | pictured _ => exact hmovies

/-- And so do the favourites. -/
theorem favourites_allMovies {es : List (Edge WwTable WwAction)} {vc : WwTable}
    (h : (favourites isURL).Run es vc) (hfrom : ∀ e ∈ es, e.act.From content) :
    ∀ m ∈ vc.movies, P m := by
  refine (Lts.run_restrict_iff (G := fun _ a => a.From content).mpr ⟨h, hfrom⟩).invariant
    (I := fun vc => ∀ m ∈ vc.movies, P m) ?_ ?_
  · rintro _ rfl
    exact fun m hm => absurd hm List.not_mem_nil
  · rintro vc a t hmovies ⟨hstep, hfrom⟩
    cases wwStep_of_step hstep with
    | @listShown documents movies hlist =>
        obtain rfl : documents = content := hfrom
        exact hdecoded movies hlist
    | deleted _ => exact fun m hm => hmovies m (List.mem_of_mem_eraseIdx hm)
    | asked | listFailed | configured _ _ | answered | dropped | pictured _ => exact hmovies

end Runs

/-! ## Which contents are harmless -/

/-- The page of a movie opens precisely if its poster is a URL. -/
theorem DetailMovie.isSome_viewDidLoad_iff (hURL : isURL "URL" = true) (m : MovieByPei) :
    (DetailMovie.viewDidLoad isURL m).isSome = true ↔ isURL m.poster = true := by
  unfold DetailMovie.viewDidLoad
  rw [if_pos hURL]
  by_cases hposter : isURL m.poster = true
  · rw [if_pos hposter]
    exact iff_of_true rfl hposter
  · rw [if_neg hposter]
    exact iff_of_false Bool.false_ne_true hposter

/-- What the cells ask of a movie. -/
def Movie.Shows (isURL : String → Bool) (m : Movie) : Prop :=
  isURL m.poster = true ∧ m.nsInteger.isSome = true

/-- A handler of the list that is delivered returns, if the documents decode. -/
theorem TVTable.returns_of_shows {vc : TVTable} {a : TVAction}
    (hmovies : vc.top.AllMovies (Movie.Shows isURL))
    (hdecodes : (content.mapM Movie.ofDocumentData).isSome = true)
    (hfrom : a.From content) (hperm : vc.permits a = true) : vc.returns sw isURL a = true := by
  cases a with
  | top a =>
      cases a with
      | getMovies snapshot =>
          have hawaited : vc.top.moviesAwaited = true := hperm
          cases snapshot with
          | none => simp [returns, next, TopVC.next, TopVC.getMovies, hawaited]
          | some documents =>
              obtain rfl : documents = content := hfrom
              obtain ⟨movies, hlist⟩ := Option.isSome_iff_exists.mp hdecodes
              simp [returns, next, TopVC.next, TopVC.getMovies, hawaited, hlist]
      | _ => rfl
  | cellForRowAt cell row =>
      have hrow : row < vc.top.searchedMovie.length := of_decide_eq_true hperm
      have hmovie := List.getElem?_eq_getElem hrow
      obtain ⟨hurl, hint⟩ := hmovies.2 _ (List.getElem_mem hrow)
      have hreturns : (vc.cellForRowAt isURL cell row).isSome = true := by
        simp only [TVTable.cellForRowAt, hmovie, Option.bind_eq_bind, Option.bind_some]
        rw [if_pos hurl]
        split <;> rfl
      simp [returns, next, hreturns, hmovie, hint]
  | downloaded k data =>
      have hk : k < vc.tasks.running.length := of_decide_eq_true hperm
      simp [returns, next, hk]
  | failed k =>
      have hk : k < vc.tasks.running.length := of_decide_eq_true hperm
      simp [returns, next, hk]
  | runBlock =>
      have hqueue : vc.tasks.queue ≠ [] := by simpa [permits] using hperm
      simp [returns, next, hqueue]

/-- And so does one of the favourites. -/
theorem WwTable.isSome_exec_of_shows {vc : WwTable} {a : WwAction}
    (hmovies : ∀ m ∈ vc.movies, Movie.Shows isURL m)
    (hdecodes : (content.mapM Movie.ofDocumentData).isSome = true)
    (hfrom : a.From content) (hperm : vc.permits a = true) :
    (vc.exec isURL a).isSome = true := by
  cases a with
  | getDocuments snapshot =>
      cases snapshot with
      | none => rfl
      | some documents =>
          obtain rfl : documents = content := hfrom
          obtain ⟨movies, hlist⟩ := Option.isSome_iff_exists.mp hdecodes
          simp [exec, getDocuments, hlist]
  | delete row =>
      have hrow : row < vc.movies.length := of_decide_eq_true hperm
      simp [exec, delete, hrow]
  | cellForRowAt cell row =>
      have hrow : row < vc.movies.length := of_decide_eq_true hperm
      have hmovie := List.getElem?_eq_getElem hrow
      have hurl := (hmovies _ (List.getElem_mem hrow)).1
      simp [exec, cellForRowAt, hmovie, hurl]
  | showAllMovies | downloaded _ _ | failed _ | runBlock => rfl

/-- **Crashes.** No page traps precisely if every runtime fits and every poster,
a missing one being empty, is a URL. -/
theorem crashFree_iff (sw : SwiftString) (isURL : String → Bool) (hURL : isURL "URL" = true)
    (content : List DocumentData)
    (hnumbers : ∀ data ∈ content, ∀ v, data "runtime" = some v → StoredNumber v) :
    CrashFree sw isURL content ↔
      ∀ data ∈ content, RuntimeFits data ∧ isURL (stringField data "poster") = true := by
  have hdecode : ∀ data ∈ content,
      ((Movie.ofDocumentData data).isSome = true ↔ RuntimeFits data) :=
    fun data hdata => Movie.isSome_ofDocumentData_iff (hnumbers data hdata)
  constructor
  · intro hfree
    have hreturns := hfree.list [] {} (.start rfl) (fun e he => absurd he List.not_mem_nil)
      (.top (.getMovies (some content))) rfl rfl
    have hdecodes : (content.mapM Movie.ofDocumentData).isSome = true := by
      cases hlist : content.mapM Movie.ofDocumentData with
      | some movies => rfl
      | none =>
          simp [TVTable.returns, TVTable.next, TopVC.next, TopVC.getMovies, hlist] at hreturns
    obtain ⟨movies, hlist⟩ := Option.isSome_iff_exists.mp hdecodes
    intro data hdata
    refine ⟨(hdecode data hdata).mp (isSome_mapM_iff.mp hdecodes data hdata), ?_⟩
    obtain ⟨m, hm, hmovie⟩ := mem_mapM_of_mem hlist hdata
    have hopens := (DetailMovie.isSome_viewDidLoad_iff hURL m).mp (hfree.detail movies hlist m hm)
    rwa [(Movie.ofDocumentData_eq_some hmovie).2] at hopens
  · intro hfits
    have hdecodes : (content.mapM Movie.ofDocumentData).isSome = true :=
      isSome_mapM_iff.mpr fun data hdata => (hdecode data hdata).mpr (hfits data hdata).1
    have hshows : ∀ movies, content.mapM Movie.ofDocumentData = some movies →
        ∀ m ∈ movies, Movie.Shows isURL m := by
      intro movies hlist m hm
      obtain ⟨data, hdata, hmovie⟩ := exists_of_mem_mapM hlist hm
      refine ⟨?_, Movie.isSome_nsInteger (hnumbers data hdata) hmovie⟩
      rw [(Movie.ofDocumentData_eq_some hmovie).2]
      exact (hfits data hdata).2
    constructor
    case list =>
      intro es vc hrun hfroms a hfrom hperm
      exact TVTable.returns_of_shows (moviePage_allMovies hshows hrun hfroms) hdecodes hfrom hperm
    case favourites =>
      intro es vc hrun hfroms a hfrom hperm
      exact WwTable.isSome_exec_of_shows (favourites_allMovies hshows hrun hfroms) hdecodes hfrom
        hperm
    case detail =>
      intro movies hlist m hm
      exact (DetailMovie.isSome_viewDidLoad_iff hURL m).mpr (hshows movies hlist m hm).1

/-- What `URL(string:)` takes of the texts below: nothing empty, and no
bracket. -/
def plainURL (s : String) : Bool := s ≠ "" && !s.toList.contains '['

/-- The movies of the list that have a poster do no harm. -/
theorem crashFree_posters : CrashFree .ascii plainURL (threeMovies.take 2) := by
  have hcontent : ∀ data ∈ threeMovies.take 2, (∃ n : Int, data "runtime" = some (.int n) ∧
      -2 ^ 63 ≤ n ∧ n < 2 ^ 63) ∧ plainURL (stringField data "poster") = true := by
    intro data hdata
    rcases List.mem_cons.mp hdata with rfl | hdata
    · exact ⟨⟨202, rfl, by decide, by decide⟩, by decide⟩
    · obtain rfl := List.mem_singleton.mp hdata
      exact ⟨⟨157, rfl, by decide, by decide⟩, by decide⟩
  refine (crashFree_iff .ascii plainURL (by decide) _ ?_).mpr ?_
  · intro data hdata v hv
    obtain ⟨⟨n, hn, hrange⟩, -⟩ := hcontent data hdata
    obtain rfl := Option.some.inj (hn.symm.trans hv)
    exact hrange
  · intro data hdata
    obtain ⟨⟨n, hn, -⟩, hposter⟩ := hcontent data hdata
    exact ⟨fun d hd => by simp [hn] at hd, hposter⟩

/-- A movie whose runtime is not a number. -/
def endless : DocumentData :=
  dictionary [("movieName", .string "Empire"), ("poster", .string "https://posters/empire"),
    ("runtime", .double .nan)]

/-- A movie without a poster. -/
def posterless : DocumentData := dictionary [("movieName", .string "Metropolis")]

/-- A movie with a text for a poster that is no URL. -/
def misprinted : DocumentData :=
  dictionary [("movieName", .string "Alien"), ("poster", .string "https://[alien")]

/-- The page of the movie traps. -/
theorem posterless_traps : ∃ m, Movie.ofDocumentData posterless = some m ∧
    DetailMovie.viewDidLoad plainURL m = none :=
  ⟨{ movieName := "Metropolis" }, by decide +kernel, rfl⟩

/-- The first row of the list traps. -/
theorem misprinted_traps : ∃ es vc, (moviePage .ascii plainURL).Run es vc ∧
    (∀ e ∈ es, e.act.From [misprinted]) ∧ vc.permits (.cellForRowAt 0 0) = true ∧
    vc.cellForRowAt plainURL 0 0 = none := by
  have hshown : ∃ vc ∈ Lts.runList (TVTable.next .ascii plainURL) {}
      [.top (.getMovies (some [misprinted]))],
      vc.permits (.cellForRowAt 0 0) = true ∧ (vc.cellForRowAt plainURL 0 0).isNone = true := by
    decide +kernel
  obtain ⟨vc, hlast, hperm, hnone⟩ := hshown
  refine ⟨_, vc, Lts.run_trace rfl hlast, fun e he => ?_, hperm, Option.isNone_iff_eq_none.mp hnone⟩
  rw [List.mem_singleton.mp (Lts.act_mem_of_mem_trace he)]
  rfl

/-- The runtime traps in `Int(_:)`, a missing poster on the page of the movie, and
a poster that is no URL in the rows of the list already. -/
theorem crashFree_trapped :
    ¬ CrashFree .ascii plainURL [endless] ∧ ¬ CrashFree .ascii plainURL [posterless] ∧
      ¬ CrashFree .ascii plainURL [misprinted] := by
  refine ⟨fun hfree => ?_, fun hfree => ?_, fun hfree => ?_⟩
  · have hreturns := hfree.list [] {} (.start rfl) (fun e he => absurd he List.not_mem_nil)
      (.top (.getMovies (some [endless]))) rfl rfl
    exact absurd hreturns (by decide +kernel)
  · obtain ⟨m, hm, hnone⟩ := posterless_traps
    have hlist : [posterless].mapM Movie.ofDocumentData = some [m] :=
      mapM_eq_some_iff.mpr (by rw [List.map_singleton, hm, List.map_singleton])
    have hopens := hfree.detail [m] hlist m List.mem_cons_self
    rw [hnone] at hopens
    exact absurd hopens Bool.false_ne_true
  · obtain ⟨es, vc, hrun, hfrom, hperm, hnone⟩ := misprinted_traps
    have hreturns := hfree.list es vc hrun hfrom (.cellForRowAt 0 0) trivial hperm
    simp [TVTable.returns, TVTable.next, hnone] at hreturns

end Takeit
