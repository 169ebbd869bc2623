import Takeit.Codecs
import Takeit.Movies.Crashes

/-!
# Documents read, written and read again

A document can have any fields of any kinds; what a decoder does not understand it
replaces by a default. Once is enough: what a decoder has made of a document is
written and read unchanged from then on (`read_settles`).
-/

namespace Takeit

open Takeit.Firestore

/-- The classes with `init(documentData:)` and `documentData()`. -/
inductive ModelClass
  | commenta
  | food
  | order
  | report
  | station
  | movie
  | movieByPei
deriving DecidableEq, Repr

/-- `init(documentData:)` of a document of a snapshot; `none` is a trap. -/
def ModelClass.read (data : DocumentData) : ModelClass → Option Model
  | .commenta => some (.commenta (Commenta.decode .snapshot data))
  | .food => some (.food (Food.decode .snapshot data))
  | .order => some (.order (Order.decode .snapshot data))
  | .report => some (.report (Report.decode .snapshot data))
  | .station => some (.station (Station.decode .snapshot data))
  | .movie => (Movie.decode .snapshot data).map .movie
  | .movieByPei => (MovieByPei.decode .snapshot data).map .movieByPei

/-- `documentData()`. -/
def Model.documentData : Model → DocumentData
  | .commenta v => v.documentData
  | .food v => v.documentData
  | .order v => v.documentData
  | .report v => v.documentData
  | .station v => v.documentData
  | .movie v => Movie.documentData v
  | .movieByPei v => MovieByPei.documentData v

/-- The numbers of the document are numbers Firestore stores. -/
def WellStored (data : DocumentData) : Prop := ∀ key v, data key = some v → StoredNumber v

/-! ## Runtimes -/

/-- A runtime that is read is one that a double holds. -/
theorem Movie.exact_runtime {data : DocumentData} {m : Movie} (hdata : WellStored data)
    (h : Movie.ofDocumentData data = some m) :
    Exact m.runtime ∧ -2 ^ 63 ≤ m.runtime ∧ m.runtime < 2 ^ 63 := by
  have hruntime := (Movie.ofDocumentData_eq_some h).1
  rcases runtimeField_cases (hdata "runtime") with
    ⟨d, hd, hfield⟩ | ⟨-, n, hfield, hexact, hrange⟩
  · rw [hfield] at hruntime
    cases d with
    | nan => exact absurd hruntime (by simp [Double.toInt?])
    | infinity negative => exact absurd hruntime (by simp [Double.toInt?])
    | finite q =>
        rw [Double.toInt?_finite] at hruntime
        obtain ⟨hrange, heq⟩ := Option.ite_none_right_eq_some.mp hruntime
        rw [← Option.some.inj (by rw [heq] : some (truncate q) = some m.runtime)]
        exact ⟨exact_truncate (hdata _ _ hd), hrange⟩
  · rw [hfield, Double.toInt?_intCast hrange] at hruntime
    obtain rfl := Option.some.inj hruntime
    exact ⟨hexact, hrange⟩

/-- A movie that was read is read again as it is. -/
theorem Movie.decode_settles {data : DocumentData} {m : Movie} (hdata : WellStored data)
    (h : Movie.decode .snapshot data = some m) :
    Movie.decode .snapshot m.documentData = some m := by
  obtain ⟨hexact, hrange⟩ := Movie.exact_runtime hdata h
  have hdouble : Casts.snapshot.timeInterval (.int m.runtime) = some (.finite m.runtime) :=
    if_pos hexact
  rw [Movie.decode_eq_map .snapshot (fun _ => rfl), hdouble, Option.getD_some,
    Double.toInt?_intCast hrange, Option.map_some]

/-! ## All classes -/

/-- Whatever is in a document, what any of the classes makes of it is read again as
it is once it has been written. -/
theorem read_settles {k : ModelClass} {data : DocumentData} {m : Model} (hdata : WellStored data)
    (h : k.read data = some m) : k.read m.documentData = some m := by
  cases k with
  | commenta | food | order | report =>
      obtain rfl := Option.some.inj h
      rfl
  | station =>
      obtain rfl := Option.some.inj h
      show some (Model.station (Station.ofDocumentData (Station.documentData _))) = _
      rw [Station.ofDocumentData_documentData]
  | movie =>
      obtain ⟨v, hv, rfl⟩ := Option.map_eq_some_iff.mp h
      show (Movie.decode .snapshot v.documentData).map Model.movie = _
      rw [Movie.decode_settles hdata hv, Option.map_some]
  | movieByPei =>
      obtain ⟨v, hv, rfl⟩ := Option.map_eq_some_iff.mp h
      show (Movie.decode .snapshot (Movie.documentData v)).map Model.movieByPei = _
      rw [Movie.decode_settles hdata hv, Option.map_some]

/-- A name that is a number, half a minute and a field nobody reads. -/
def oddMovie : DocumentData :=
  dictionary [("movieName", .int 8), ("runtime", .double (.finite (203 / 2))), ("rating", .null)]

theorem wellStored_oddMovie : WellStored oddMovie := by
  intro key v hv
  obtain ⟨_, _, hentries, -⟩ := List.lookup_eq_some_iff.mp hv
  have hmem : (key, v) ∈ [("movieName", Value.int 8), ("runtime", .double (.finite (203 / 2))),
      ("rating", .null)] := by
    rw [hentries]
    simp
  simp only [List.mem_cons, Prod.mk.injEq, List.not_mem_nil, or_false] at hmem
  rcases hmem with ⟨-, rfl⟩ | ⟨-, rfl⟩ | ⟨-, rfl⟩
  · show StoredNumber (.int 8)
    simp [StoredNumber]
  · show IsDouble (203 / 2)
    exact ⟨203, 1, by decide, .inr (by norm_num)⟩
  · trivial

theorem read_settles_oddMovie :
    ModelClass.movie.read (Model.movie { runtime := 101 }).documentData =
      some (.movie { runtime := 101 }) := by
  have hread : Movie.decode .snapshot oddMovie = some { runtime := 101 } := by decide +kernel
  exact read_settles wellStored_oddMovie (congrArg (Option.map Model.movie) hread)

end Takeit
