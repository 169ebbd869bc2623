import Takeit.Foundation
import Takeit.Models

/-!
# The booking screen (`SeatVC.swift`)

The state of the view controller and its handlers, each translated from the
source. A handler that can reach a Swift trap (an index out of range, or a
range `0...-1`) returns an `Option`; `none` is the trap.

What the interface builder sets is in `viewDidLoad`: `Seat.storyboard` draws
the four ticket buttons and the pay button disabled, the four count labels
with the text `0` and the amount label with `TEST`.
-/

namespace Takeit

open Takeit.Firestore

/-- The two kinds of tickets, each with its count, label and buttons. -/
inductive Ticket
  | adult
  | child
deriving DecidableEq, Repr

/-- A statement about every kind of ticket is one about two. -/
instance {P : Ticket → Prop} [DecidablePred P] : Decidable (∀ k, P k) :=
  decidable_of_iff (P .adult ∧ P .child)
    ⟨fun ⟨hadult, hchild⟩ k => by cases k <;> assumption, fun h => ⟨h .adult, h .child⟩⟩

/-- The document id all writes of the stations collection go to. -/
def stationDocument : String := "EaIHFDOomX8cczurdJ7I"

/-- The seats: the grid, the stations in memory and the collected selection. -/
structure SeatGrid where
  seatLayout : SeatLayout := {}
  stationArray : List Station := []
  station : Station := {}
  selectedSectionOneArray : List Nat := []
  selectedSectionTwoArray : List Nat := []
  selectedSectionThreeArray : List Nat := []
  seatSelected : String := ""
  seatSelectedArray : List String := []
  seatRow : Nat := 0
  seatColumn : Nat := 0

/-- The tickets: the counters, the texts of the labels and `isEnabled` of the
buttons. -/
structure TicketPanel where
  seatCount : Int := 0
  adultCount : Int := 0
  childCount : Int := 0
  seatAmount : Int := 0
  childCountLabel : String := "0"
  adultCountLabel : String := "0"
  seatSelectLabel : String := "0"
  seatOrderLabel : String := "0"
  seatID : String := "TEST"
  minusChildEnabled : Bool := false
  addChildEnabled : Bool := false
  minusAdultEnabled : Bool := false
  addAdultEnabled : Bool := false
  payEnabled : Bool := false

/-- The dishes: what is on offer and the texts of the labels below. -/
structure FoodPanel where
  totalFoodCount : Int := 0
  foodAmount : Int := 0
  foodArray : List Food := []
  foodCountArray : List String := []

/-- The view controller. The last two fields say that `getDocuments` has not
called back yet. -/
structure SeatVC extends SeatGrid, TicketPanel, FoodPanel where
  payTitle : String := ""
  bottomViewHeight : Nat := 0
  stationsAwaited : Bool := true
  foodsAwaited : Bool := true

/-- The storyboard's screen after `viewDidLoad`, both queries on their way. -/
def SeatVC.viewDidLoad : SeatVC := {}

namespace SeatGrid

/-- The row and the seat number `cellForItemAt` prints for a cell. -/
def seatNumber (p : IndexPath) : Nat × Nat :=
  if p.row / 10 > 0 then (p.title.number + 1 + p.row / 10, p.row % 10 + 1)
  else (p.title.number + 1, p.row + 1)

/-- `"第\(seatRow)排\(seatColumn)號"`. -/
def seatLabel (p : IndexPath) : String :=
  "第" ++ text (seatNumber p).1 ++ "排" ++ text (seatNumber p).2 ++ "號"

/-- The array of selected rows of a section. -/
def selectedSection (g : SeatGrid) : ClassTitle → List Nat
  | .one => g.selectedSectionOneArray
  | .two => g.selectedSectionTwoArray
  | .three => g.selectedSectionThreeArray

/-- Append a row to the array of its section. -/
def selectRow (g : SeatGrid) (p : IndexPath) : SeatGrid :=
  match p.title with
  | .one => { g with selectedSectionOneArray := g.selectedSectionOneArray ++ [p.row] }
  | .two => { g with selectedSectionTwoArray := g.selectedSectionTwoArray ++ [p.row] }
  | .three => { g with selectedSectionThreeArray := g.selectedSectionThreeArray ++ [p.row] }

/-- Drawing a selected cell stores its label and its row. -/
def drawSelected (g : SeatGrid) (p : IndexPath) : SeatGrid :=
  { g with
    seatRow := (seatNumber p).1
    seatColumn := (seatNumber p).2
    seatSelectedArray := g.seatSelectedArray ++ [seatLabel p] }.selectRow p

/-- The stored selection is dropped, to be collected again by the cells drawn
next. -/
def clearSelected (g : SeatGrid) : SeatGrid :=
  { g with
    selectedSectionOneArray := []
    selectedSectionTwoArray := []
    selectedSectionThreeArray := []
    seatSelectedArray := [] }

/-- The loop of `payButton` over the labels of the selected seats. -/
def collectSeatSelected (g : SeatGrid) : Option SeatGrid :=
  -- `0...seatSelectedArray.count-1`
  if g.seatSelectedArray = [] then none
  else some { g with
    seatSelected := g.seatSelectedArray.foldl (fun s label => s ++ (label ++ "\n"))
      g.seatSelected }

/-- `stationArray[0].<title>[...] = 1` for the selected rows of one section. -/
def sellSection (g : SeatGrid) (t : ClassTitle) : Option SeatGrid :=
  if g.selectedSection t = [] then some g
  else
    match g.stationArray with
    | [] => none
    | shown :: others => do
        let sold ← shown.toSeatLayout.sell t (g.selectedSection t)
        some { g with stationArray := { shown with toSeatLayout := sold } :: others }

/-- The station object that is written: the id of the fixed document and the
arrays of `stationArray[0]`. -/
def fillStation (g : SeatGrid) : Option SeatGrid :=
  match g.stationArray with
  | [] => none
  | shown :: _ => some { g with
      station := { toSeatLayout := shown.toSeatLayout, stationId := stationDocument } }

end SeatGrid

/-! ## The ticket buttons -/

namespace TicketPanel

/-- The number of tickets of a kind. -/
def count (tp : TicketPanel) : Ticket → Int
  | .adult => tp.adultCount
  | .child => tp.childCount

/-- The text that shows it. -/
def countLabel (tp : TicketPanel) : Ticket → String
  | .adult => tp.adultCountLabel
  | .child => tp.childCountLabel

/-- `isEnabled` of the button that adds a ticket of a kind. -/
def addEnabled (tp : TicketPanel) : Ticket → Bool
  | .adult => tp.addAdultEnabled
  | .child => tp.addChildEnabled

/-- `isEnabled` of the button that takes one away. -/
def minusEnabled (tp : TicketPanel) : Ticket → Bool
  | .adult => tp.minusAdultEnabled
  | .child => tp.minusChildEnabled

def setCount (tp : TicketPanel) (k : Ticket) (n : Int) : TicketPanel :=
  match k with
  | .adult => { tp with adultCount := n, adultCountLabel := text n }
  | .child => { tp with childCount := n, childCountLabel := text n }

def setMinusEnabled (tp : TicketPanel) (k : Ticket) (enabled : Bool) : TicketPanel :=
  match k with
  | .adult => { tp with minusAdultEnabled := enabled }
  | .child => { tp with minusChildEnabled := enabled }

/-- The ticket total and the amount, recomputed by all four handlers. -/
def refresh (tp : TicketPanel) : TicketPanel :=
  { tp with
    seatSelectLabel := text (tp.adultCount + tp.childCount)
    seatAmount := tp.adultCount * 300 + tp.childCount * 250
    seatID := "金額：" ++ text (tp.adultCount * 300 + tp.childCount * 250) }

/-- The common body of `addAdult` and `addChild`. -/
def addTicket (tp : TicketPanel) (k : Ticket) : TicketPanel :=
  let tp := (tp.setCount k (tp.count k + 1)).refresh
  let tp :=
    if tp.seatSelectLabel = tp.seatOrderLabel then
      { tp with addAdultEnabled := false, addChildEnabled := false, payEnabled := true }
    else tp
  tp.setMinusEnabled k true

/-- The common body of `minusAdult` and `minusChild`. -/
def minusTicket (tp : TicketPanel) (k : Ticket) : TicketPanel :=
  let tp := { tp with payEnabled := false }
  let tp := (tp.setCount k (tp.count k - 1)).refresh
  let tp := if tp.countLabel k = "0" then tp.setMinusEnabled k false else tp
  { tp with addAdultEnabled := true, addChildEnabled := true }

end TicketPanel

namespace SeatVC

/-- `addAdult(_:)`. -/
def addAdult (vc : SeatVC) : SeatVC :=
  { vc with toTicketPanel := vc.toTicketPanel.addTicket .adult }

/-- `minusAdult(_:)`. -/
def minusAdult (vc : SeatVC) : SeatVC :=
  { vc with toTicketPanel := vc.toTicketPanel.minusTicket .adult }

/-- `addChild(_:)`. -/
def addChild (vc : SeatVC) : SeatVC :=
  { vc with toTicketPanel := vc.toTicketPanel.addTicket .child }

/-- `minusChild(_:)`. -/
def minusChild (vc : SeatVC) : SeatVC :=
  { vc with toTicketPanel := vc.toTicketPanel.minusTicket .child }

/-! ## Loading -/

/-- `addScrollFood()`: a label with the text `0` for every dish. -/
def addScrollFood (vc : SeatVC) : Option SeatVC :=
  -- `0 ... foodArray.count-1`
  if vc.foodArray = [] then none
  else some { vc with
    foodCountArray := vc.foodCountArray ++ List.replicate vc.foodArray.length "0" }

/-- The completion handler of `showAllFoods()`; no snapshot is a failed
query. -/
def showAllFoods (vc : SeatVC) : Option (List DocumentData) → Option SeatVC
  | none => some vc
  | some documents =>
      { vc with foodArray := documents.map Food.ofDocumentData }.addScrollFood

/-- The completion handler of `showAllStations()`: the layout shown is that of
the first document. -/
def showAllStations (vc : SeatVC) : Option (List DocumentData) → Option SeatVC
  | none => some vc
  | some documents =>
      match documents.map Station.ofDocumentData with
      -- `stationArray[0]`
      | [] => none
      | shown :: others => some { vc with
          stationArray := shown :: others
          seatLayout := shown.toSeatLayout }

/-! ## The collection view -/

/-- What `cellForItemAt` does to the screen's state. -/
def cellForItemAt (vc : SeatVC) (p : IndexPath) : Option SeatVC :=
  match vc.seatLayout.cell? p with
  | none => none
  | some v =>
      if v = 3 then some { vc with toSeatGrid := vc.toSeatGrid.drawSelected p } else some vc

/-- `showBottomView()`, its animation run to the end. -/
def showBottomView (vc : SeatVC) : SeatVC :=
  { vc with bottomViewHeight := 50, seatID := "金額：0", payTitle := "結帳" }

/-- `hideBottomView()`, its animation run to the end. -/
def hideBottomView (vc : SeatVC) : SeatVC :=
  { vc with bottomViewHeight := 0, payTitle := "" }

/-- `didSelectItemAt` on a free cell. -/
def selectSeat (vc : SeatVC) (p : IndexPath) : SeatVC :=
  let vc := { vc with seatLayout := vc.seatLayout.setCell p 3, seatCount := vc.seatCount + 1 }
  if vc.seatCount = 1 then
    { vc.showBottomView with addAdultEnabled := true, addChildEnabled := true }
  else vc

/-- `didSelectItemAt` on a selected cell: the tickets start over. -/
def deselectSeat (vc : SeatVC) (p : IndexPath) : SeatVC :=
  let vc := { vc with seatLayout := vc.seatLayout.setCell p 2, seatCount := vc.seatCount - 1 }
  let vc :=
    if vc.seatCount = 0 then
      { vc.hideBottomView with addAdultEnabled := false, addChildEnabled := false }
    else vc
  { vc with
    adultCount := 0
    childCount := 0
    seatAmount := 0
    adultCountLabel := text 0
    childCountLabel := text 0
    seatSelectLabel := text (0 + 0)
    seatID := "金額：" ++ text 0
    addAdultEnabled := true
    addChildEnabled := true
    minusAdultEnabled := false
    minusChildEnabled := false }

/-- The end of `didSelectItemAt`, after either kind of tap. -/
def finishTap (vc : SeatVC) : SeatVC :=
  { vc with seatOrderLabel := text vc.seatCount, toSeatGrid := vc.toSeatGrid.clearSelected }

/-- `collectionView(_:didSelectItemAt:)`. -/
def didSelectItemAt (vc : SeatVC) (p : IndexPath) : Option SeatVC :=
  match vc.seatLayout.cell? p with
  | none => none
  | some v =>
      if v ≠ 0 ∧ v ≠ 1 then
        if v ≠ 3 then some (vc.selectSeat p).finishTap
        else some (vc.deselectSeat p).finishTap
      else some vc

/-! ## The food buttons -/

/-- The loop of `clickAdd` over the labels of the dishes; it is entered only
after `foodArray[tag]` was read, so that its range is not inverted. -/
def foodTotal (vc : SeatVC) : Option Int :=
  if vc.foodArray.length ≤ vc.foodCountArray.length then
    some ((vc.foodCountArray.take vc.foodArray.length).map numberShown).sum
  else none

/-- Show `total` below dish `tag` and charge that many of it. -/
def setFoodCount (vc : SeatVC) (tag : Nat) (food : Food) (total : Int) : SeatVC :=
  let vc := { vc with
    totalFoodCount := total
    foodCountArray := vc.foodCountArray.set tag (text total)
    foodAmount := numberShown (text total) * food.foodPrice }
  { vc with seatID := "金額：" ++ text (vc.seatAmount + vc.foodAmount) }

/-- `clickAdd(_:)` of the button with this tag. -/
def clickAdd (vc : SeatVC) (tag : Nat) : Option SeatVC := do
  let food ← vc.foodArray[tag]?
  let _ ← vc.foodCountArray[tag]?
  let total ← vc.foodTotal
  if total < numberShown vc.seatSelectLabel then
    some (vc.setFoodCount tag food (vc.totalFoodCount + 1))
  else some vc

/-- `clickMinus(_:)`; the sum its loop computes is only printed. -/
def clickMinus (vc : SeatVC) (tag : Nat) : Option SeatVC := do
  let food ← vc.foodArray[tag]?
  let _ ← vc.foodCountArray[tag]?
  let total := vc.totalFoodCount - 1
  some (vc.setFoodCount tag food (if total < 0 then 0 else total))

/-! ## Paying -/

/-- `saveData()`. -/
def saveData (vc : SeatVC) (ud : UserDefaults) : UserDefaults :=
  ((ud.set "amount" (.int (vc.seatAmount + vc.foodAmount))).set
    "seatSelection" (.string vc.seatSelected)).set "orderCount" (.string vc.seatOrderLabel)

section Save

variable (vc : SeatVC) (ud : UserDefaults)

@[simp] theorem saveData_amount :
    vc.saveData ud "amount" = some (.int (vc.seatAmount + vc.foodAmount)) := by
  simp [saveData, UserDefaults.set]

@[simp] theorem saveData_seatSelection :
    vc.saveData ud "seatSelection" = some (.string vc.seatSelected) := by
  simp [saveData, UserDefaults.set]

@[simp] theorem saveData_orderCount :
    vc.saveData ud "orderCount" = some (.string vc.seatOrderLabel) := by
  simp [saveData, UserDefaults.set]

end Save

/-- `prepare(for:sender:)`. -/
def prepare (vc : SeatVC) : UserDefaults → UserDefaults := vc.saveData

/-- What a press of `payButton` leaves behind: the screen, the change to the
user defaults, and the station handed to `replaceBlock`, whose
`documentData()` is written to `stationDocument` without merge. -/
structure Payment where
  vc : SeatVC
  save : UserDefaults → UserDefaults
  written : Station

/-- `payButton(_:)`. -/
def payButton (vc : SeatVC) : Option Payment := do
  let g ← vc.toSeatGrid.collectSeatSelected
  -- `performSegue` prepares the segue before it returns
  let save := { vc with toSeatGrid := g }.prepare
  let g ← g.sellSection .one
  let g ← g.sellSection .two
  let g ← g.sellSection .three
  let g ← g.fillStation
  some { vc := { vc with toSeatGrid := g }, save := save, written := g.station }

/-- The effect of `replaceBlock(station:)` when Firestore applies it. -/
def replaceBlock (stations : Collection) (station : Station) : Collection :=
  stations.setData stationDocument station.documentData

@[simp] theorem replaceBlock_self (stations : Collection) (station : Station) :
    replaceBlock stations station stationDocument = some station.documentData := by
  simp [replaceBlock]

@[simp] theorem replaceBlock_ne (stations : Collection) (station : Station) {id : String}
    (h : id ≠ stationDocument) : replaceBlock stations station id = stations id := by
  simp [replaceBlock, h]

end SeatVC

/-! ## The screen as a transition system -/

/-- What can happen to the screen. -/
inductive SeatAction
  | showAllStations (snapshot : Option (List DocumentData))
  | showAllFoods (snapshot : Option (List DocumentData))
  | cellForItemAt (p : IndexPath)
  | didSelectItemAt (p : IndexPath)
  | add (k : Ticket)
  | minus (k : Ticket)
  | clickAdd (tag : Nat)
  | clickMinus (tag : Nat)
  | payButton

namespace SeatVC

/-- What UIKit and Firestore may deliver: a query calls back once, only cells
that exist are drawn and tapped, and a disabled button takes no touches. -/
def permits (vc : SeatVC) : SeatAction → Bool
  | .showAllStations _ => vc.stationsAwaited
  | .showAllFoods _ => vc.foodsAwaited
  | .cellForItemAt p => (vc.seatLayout.cell? p).isSome
  | .didSelectItemAt p => (vc.seatLayout.cell? p).isSome
  | .add k => vc.addEnabled k
  | .minus k => vc.minusEnabled k
  | .clickAdd tag => tag < vc.foodCountArray.length
  | .clickMinus tag => tag < vc.foodCountArray.length
  | .payButton => vc.payEnabled

/-- The handler that runs. -/
def exec (vc : SeatVC) : SeatAction → Option SeatVC
  | .showAllStations snapshot => { vc with stationsAwaited := false }.showAllStations snapshot
  | .showAllFoods snapshot => { vc with foodsAwaited := false }.showAllFoods snapshot
  | .cellForItemAt p => vc.cellForItemAt p
  | .didSelectItemAt p => vc.didSelectItemAt p
  | .add .adult => some vc.addAdult
  | .add .child => some vc.addChild
  | .minus .adult => some vc.minusAdult
  | .minus .child => some vc.minusChild
  | .clickAdd tag => vc.clickAdd tag
  | .clickMinus tag => vc.clickMinus tag
  | .payButton => vc.payButton.map Payment.vc

/-- One step: an action that is delivered and does not trap. -/
def next (vc : SeatVC) (a : SeatAction) : Option SeatVC :=
  if vc.permits a then vc.exec a else none

end SeatVC

end Takeit
