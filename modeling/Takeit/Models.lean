import Takeit.Firestore
import Takeit.Seat.Layout

/-!
# The document models of `Comment.swift` and `Movie.swift`

Each model has the decoder `init(documentData:)`, which puts a default for
every field that is missing or of another type, and the encoder
`documentData()`. A decoder is given over the casts it makes (`decode`), and
`ofDocumentData` is what it makes of the documents of a snapshot.
-/

namespace Takeit

open Takeit.Firestore

/-! ## Casts -/

/-- The casts of the decoders: `as? String`, `as? Int`, `as? [Int]` and
`as? TimeInterval`. -/
structure Casts where
  string : Value → Option String
  int : Value → Option Int
  ints : Value → Option (List Int)
  timeInterval : Value → Option Double

namespace Casts

/-- Those of the values of a snapshot. -/
def snapshot : Casts := ⟨Value.asString, Value.asInt, Value.asIntArray, Value.asDouble⟩

variable (casts : Casts) (data : DocumentData) (key : String)

/-- `documentData[key] as? String ?? ""`. -/
def stringField : String := ((data key).bind casts.string).getD ""

/-- `documentData[key] as? Int ?? 0`. -/
def intField : Int := ((data key).bind casts.int).getD 0

/-- `documentData[key] as? [Int] ?? [0]`. -/
def intsField : List Int := ((data key).bind casts.ints).getD [0]

/-- `documentData[key] as? TimeInterval ?? 0`. -/
def timeIntervalField : Double := ((data key).bind casts.timeInterval).getD (.finite 0)

end Casts

/-- `documentData[key] as? String ?? ""`, of a snapshot. -/
abbrev stringField : DocumentData → String → String := Casts.snapshot.stringField

variable (casts : Casts) (data : DocumentData)

/-! ## Station -/

/-- A hall: its id and its three arrays. -/
structure Station extends SeatLayout where
  stationId : String := ""
deriving DecidableEq, Repr

namespace Station

/-- `Station(documentData:)`. -/
def decode : Station where
  stationId := casts.stringField data "Staion_ID"
  one := casts.intsField data "one"
  two := casts.intsField data "two"
  three := casts.intsField data "three"

/-- The same, of a document of a snapshot. -/
def ofDocumentData : Station := decode .snapshot data

/-- `documentData()`. -/
def documentData (s : Station) : DocumentData :=
  dictionary [("Staion_ID", .string s.stationId), ("one", .ints s.one),
    ("two", .ints s.two), ("three", .ints s.three)]

@[simp] theorem documentData_id (s : Station) :
    s.documentData "Staion_ID" = some (.string s.stationId) := rfl

@[simp] theorem documentData_block (s : Station) (t : ClassTitle) :
    s.documentData t.key = some (.ints (s.block t)) := by
  cases t <;> rfl

/-- The four keys are all a stored station has. -/
theorem documentData_other (s : Station) {key : String} (hid : key ≠ "Staion_ID")
    (hkey : ∀ t : ClassTitle, key ≠ t.key) : s.documentData key = none := by
  apply dictionary_eq_none
  have hone := hkey .one
  have htwo := hkey .two
  have hthree := hkey .three
  simp only [ClassTitle.key] at hone htwo hthree
  simp [hid.symm, hone.symm, htwo.symm, hthree.symm]

theorem block_ofDocumentData (t : ClassTitle) :
    (ofDocumentData data).block t = Casts.snapshot.intsField data t.key := by
  cases t <;> rfl

/-- Casts that take strings and arrays of integers for what they are decode the station
that was encoded. -/
theorem decode_documentData_of {casts : Casts} (hstring : ∀ x, casts.string (.string x) = some x)
    (hints : ∀ xs, casts.ints (.ints xs) = some xs) (s : Station) :
    decode casts s.documentData = s := by
  have hblock : ∀ t : ClassTitle, casts.intsField s.documentData t.key = s.block t := by
    intro t
    simp [Casts.intsField, hints]
  have hone := hblock .one
  have htwo := hblock .two
  have hthree := hblock .three
  simp only [ClassTitle.key, SeatLayout.block] at hone htwo hthree
  simp [decode, Casts.stringField, hstring, hone, htwo, hthree]

/-- Decoding what was encoded gives the station back. -/
@[simp] theorem ofDocumentData_documentData (s : Station) :
    ofDocumentData s.documentData = s :=
  decode_documentData_of (fun _ => rfl) Value.asIntArray_ints s

end Station

/-! ## Food -/

/-- A dish on offer. -/
structure Food where
  foodId : String := ""
  foodPrice : Int := 0
  movieId : String := ""
deriving DecidableEq, Repr

/-- `Food(documentData:)`. -/
def Food.decode : Food where
  foodId := casts.stringField data "Food_ID"
  foodPrice := casts.intField data "Food_Price"
  movieId := casts.stringField data "Movie_ID"

/-- The same, of a document of a snapshot. -/
def Food.ofDocumentData : Food := Food.decode .snapshot data

/-! ## Order -/

/-- An order. -/
structure Order where
  uid : String := ""
  movieId : String := ""
  orderId : String := ""
  movieName : String := ""
  orderStation : String := ""
  orderDate : String := ""
  orderTime : String := ""
  orderCount : String := ""
  orderAmount : String := ""
  orderSeat : String := ""
  orderUpdatetime : String := ""
deriving DecidableEq, Repr

/-- `documentData()`. -/
def Order.documentData (o : Order) : DocumentData :=
  dictionary [("UID", .string o.uid), ("Movie_ID", .string o.movieId),
    ("Order_ID", .string o.orderId), ("Movie_Name", .string o.movieName),
    ("Order_Station", .string o.orderStation), ("Order_Date", .string o.orderDate),
    ("Order_Time", .string o.orderTime), ("Order_Count", .string o.orderCount),
    ("Order_Amount", .string o.orderAmount), ("Order_Seat", .string o.orderSeat),
    ("Order_Updatetime", .string o.orderUpdatetime)]

/-! ## Movies -/

/-- A movie. -/
structure Movie where
  movieId : String := ""
  imdb : String := ""
  intro : String := ""
  movieName : String := ""
  poster : String := ""
  release : String := ""
  runtime : Int := 0
  type : String := ""
  viedourl : String := ""
deriving DecidableEq, Repr

/-- `Movie(documentData:)`; the runtime is read as a `TimeInterval` and
converted, which traps if it does not fit. -/
def Movie.decode : Option Movie := do
  let runtime ← (casts.timeIntervalField data "runtime").toInt?
  some {
    movieId := casts.stringField data "Movie_ID"
    imdb := casts.stringField data "imdb"
    intro := casts.stringField data "intro"
    movieName := casts.stringField data "movieName"
    poster := casts.stringField data "poster"
    release := casts.stringField data "release"
    runtime := runtime
    type := casts.stringField data "type"
    viedourl := casts.stringField data "viedourl" }

/-- The same, of a document of a snapshot. -/
def Movie.ofDocumentData : Option Movie := Movie.decode .snapshot data

/-! ## Comments and reports -/

/-- A comment on a movie (`Commenta`). -/
structure Commenta where
  uid : String := ""
  commentDetail : String := ""
  commentStar : Int := 0
  commentId : String := ""
  commentUpdatetime : String := ""
deriving DecidableEq, Repr

namespace Commenta

/-- `Commenta(documentData:)`. -/
def decode : Commenta where
  uid := casts.stringField data "UID"
  commentDetail := casts.stringField data "Comment_Detail"
  commentStar := casts.intField data "Comment_Star"
  commentId := casts.stringField data "Comment_ID"
  commentUpdatetime := casts.stringField data "Comment_Updatetime"

/-- The same, of a document of a snapshot. -/
def ofDocumentData : Commenta := decode .snapshot data

/-- `documentData()`. -/
def documentData (c : Commenta) : DocumentData :=
  dictionary [("UID", .string c.uid), ("Comment_Detail", .string c.commentDetail),
    ("Comment_Star", .int c.commentStar), ("Comment_ID", .string c.commentId),
    ("Comment_Updatetime", .string c.commentUpdatetime)]

/-- Decoding what was encoded gives the comment back. -/
@[simp] theorem ofDocumentData_documentData (c : Commenta) :
    ofDocumentData c.documentData = c := rfl

end Commenta

/-- A report of a comment. -/
structure Report where
  uid : String := ""
  reportId : String := ""
  reportUid : String := ""
  reportDetail : String := ""
  reportReason : String := ""
  reportUpdatetime : String := ""
  reportMovieId : String := ""
  reportCommentId : String := ""
deriving DecidableEq, Repr

/-- `documentData()`. -/
def Report.documentData (r : Report) : DocumentData :=
  dictionary [("UID", .string r.uid), ("Report_ID", .string r.reportId),
    ("Report_UID", .string r.reportUid), ("Report_Detail", .string r.reportDetail),
    ("Report_Reason", .string r.reportReason), ("Report_Movie_ID", .string r.reportMovieId),
    ("Report_Comment_ID", .string r.reportCommentId),
    ("Report_Updatetime", .string r.reportUpdatetime)]

end Takeit
