import Takeit.Favourites.WwTableViewController
import Takeit.Models

/-!
# Encoding and decoding a document model (`Comment.swift`, `Movie.swift`, `MovieByPei.swift`)

`documentData()` followed by `init(documentData:)` on the dictionary as it is,
without Firestore in between: its values are held as `Any`, and a cast succeeds
only to the type a value has. The runtime of a movie is an `Int` that is read as
a `TimeInterval`; `roundTrips_iff_runtime` says what that costs.
-/

namespace Takeit

open Takeit.Firestore

/-! ## Values held as `Any` -/

namespace Casts

/-- `as? Int` on a value held as `Any`. -/
def anyInt : Value → Option Int
  | .int n => some n
  | _ => none

/-- The casts of values held as `Any`: an `Int` is no `Double`. -/
def any : Casts where
  string
    | .string s => some s
    | _ => none
  int := anyInt
  ints
    | .array xs => xs.mapM anyInt
    | _ => none
  timeInterval
    | .double d => some d
    | _ => none

@[simp] theorem any_ints (xs : List Int) : any.ints (.ints xs) = some xs := by
  show (xs.map Value.int).mapM anyInt = some xs
  rw [Logic.mapM_eq_some_iff, List.map_map]
  rfl

end Casts

/-! ## The decoders and encoders the screens do not use -/

section Decoders

variable (casts : Casts) (data : DocumentData)

/-- `Order(documentData:)`. -/
def Order.decode : Order where
  uid := casts.stringField data "UID"
  movieId := casts.stringField data "Movie_ID"
  orderId := casts.stringField data "Order_ID"
  movieName := casts.stringField data "Movie_Name"
  orderStation := casts.stringField data "Order_Station"
  orderDate := casts.stringField data "Order_Date"
  orderTime := casts.stringField data "Order_Time"
  orderCount := casts.stringField data "Order_Count"
  orderAmount := casts.stringField data "Order_Amount"
  orderSeat := casts.stringField data "Order_Seat"
  orderUpdatetime := casts.stringField data "Order_Updatetime"

/-- `Report(documentData:)`. -/
def Report.decode : Report where
  uid := casts.stringField data "UID"
  reportId := casts.stringField data "Report_ID"
  reportUid := casts.stringField data "Report_UID"
  reportDetail := casts.stringField data "Report_Detail"
  reportReason := casts.stringField data "Report_Reason"
  reportMovieId := casts.stringField data "Report_Movie_ID"
  reportCommentId := casts.stringField data "Report_Comment_ID"
  reportUpdatetime := casts.stringField data "Report_Updatetime"

/-- `MovieByPei(documentData:)`, which is that of `Movie`. -/
def MovieByPei.decode : Option MovieByPei := Movie.decode casts data

end Decoders

/-- `documentData()`. -/
def Food.documentData (f : Food) : DocumentData :=
  dictionary [("Food_ID", .string f.foodId), ("Food_Price", .int f.foodPrice),
    ("Movie_ID", .string f.movieId)]

/-- `documentData()`. -/
def Movie.documentData (m : Movie) : DocumentData :=
  dictionary [("Movie_ID", .string m.movieId), ("imdb", .string m.imdb),
    ("intro", .string m.intro), ("movieName", .string m.movieName),
    ("poster", .string m.poster), ("release", .string m.release),
    ("runtime", .int m.runtime), ("type", .string m.type), ("viedourl", .string m.viedourl)]

/-- `documentData()`, which is that of `Movie`. -/
def MovieByPei.documentData (m : MovieByPei) : DocumentData := Movie.documentData m

/-! ## Round trips -/

theorem Commenta.decode_documentData (v : Commenta) : decode .any v.documentData = v := rfl

theorem Food.decode_documentData (v : Food) : decode .any v.documentData = v := rfl

theorem Order.decode_documentData (v : Order) : decode .any v.documentData = v := rfl

theorem Report.decode_documentData (v : Report) : decode .any v.documentData = v := rfl

theorem Station.decode_documentData (v : Station) : decode .any v.documentData = v :=
  decode_documentData_of (fun _ => rfl) Casts.any_ints v

/-- A movie that is encoded and decoded has the runtime its casts make of an `Int`. -/
theorem Movie.decode_eq_map (casts : Casts) (hstring : ∀ x, casts.string (.string x) = some x)
    (v : Movie) : decode casts v.documentData =
      ((casts.timeInterval (.int v.runtime)).getD (.finite 0)).toInt?.map
        fun runtime => { v with runtime := runtime } := by
  have hfield : ∀ key x, v.documentData key = some (.string x) →
      casts.stringField v.documentData key = x := by
    intro key x hx
    rw [Casts.stringField, hx, Option.bind_some, hstring, Option.getD_some]
  unfold decode
  rw [hfield "Movie_ID" _ rfl, hfield "imdb" _ rfl, hfield "intro" _ rfl,
    hfield "movieName" _ rfl, hfield "poster" _ rfl, hfield "release" _ rfl,
    hfield "type" _ rfl, hfield "viedourl" _ rfl]
  show Option.bind (((casts.timeInterval (.int v.runtime)).getD (.finite 0)).toInt?) _ = _
  cases ((casts.timeInterval (.int v.runtime)).getD (.finite 0)).toInt? <;> rfl

/-- Of a movie everything comes back but its runtime, which is 0. -/
theorem Movie.decode_documentData (v : Movie) :
    decode .any v.documentData = some { v with runtime := 0 } := by
  have hruntime : (((Casts.any.timeInterval (.int v.runtime)).getD (.finite 0))).toInt? =
      some 0 := by
    show (Double.finite 0).toInt? = some 0
    decide +kernel
  rw [decode_eq_map .any (fun _ => rfl), hruntime, Option.map_some]

theorem Movie.roundTrips_iff (v : Movie) :
    decode .any v.documentData = some v ↔ v.runtime = 0 := by
  rw [decode_documentData, Option.some.injEq]
  constructor
  · intro h
    rw [← h]
  · intro h
    rw [← h]

/-- A value of one of the model classes. -/
inductive Model
  | commenta (v : Commenta)
  | food (v : Food)
  | order (v : Order)
  | report (v : Report)
  | station (v : Station)
  | movie (v : Movie)
  | movieByPei (v : MovieByPei)

namespace Model

/-- Decoding what was encoded gives the value back. -/
def RoundTrips : Model → Prop
  | commenta v => Commenta.decode .any v.documentData = v
  | food v => Food.decode .any v.documentData = v
  | order v => Order.decode .any v.documentData = v
  | report v => Report.decode .any v.documentData = v
  | station v => Station.decode .any v.documentData = v
  | movie v => Movie.decode .any v.documentData = some v
  | movieByPei v => MovieByPei.decode .any (MovieByPei.documentData v) = some v

/-- The runtime, of a movie. -/
def runtime? : Model → Option Int
  | movie v | movieByPei v => some v.runtime
  | _ => none

end Model

/-- **Codecs.** A model comes back from its dictionary precisely if it is no movie
or its runtime is 0. -/
theorem roundTrips_iff_runtime (m : Model) :
    m.RoundTrips ↔ ∀ runtime ∈ m.runtime?, runtime = 0 := by
  have hruntime : ∀ n : Int, n = 0 ↔ ∀ runtime ∈ some n, runtime = 0 := by simp
  cases m with
  | commenta v => exact iff_of_true v.decode_documentData nofun
  | food v => exact iff_of_true v.decode_documentData nofun
  | order v => exact iff_of_true v.decode_documentData nofun
  | report v => exact iff_of_true v.decode_documentData nofun
  | station v => exact iff_of_true v.decode_documentData nofun
  | movie v => exact v.roundTrips_iff.trans (hruntime v.runtime)
  | movieByPei v => exact (Movie.roundTrips_iff v).trans (hruntime v.runtime)

/-- A movie of two hours comes back without its runtime. -/
theorem roundTrips_twoHours :
    Movie.decode .any (Movie.documentData { movieName := "Amelie", runtime := 202 }) =
      some { movieName := "Amelie", runtime := 0 } ∧
    ¬ (Model.movie { movieName := "Amelie", runtime := 202 }).RoundTrips := by
  refine ⟨Movie.decode_documentData _, fun h => ?_⟩
  have hruntime := (Movie.roundTrips_iff _).mp h
  exact absurd hruntime (by decide)

end Takeit
