import Takeit.Foundation
import Takeit.Models

/-!
# The rules and payment screen (`OrderRulesVC.swift`)

The fields of the view controller, how `viewDidLoad` and `loadData` fill them,
and what is made of them: the text of the alert, the charge request of
`generatePayByPrimeForSandBox` and the order of the credit card branch.
-/

namespace Takeit

open Takeit.Firestore

/-! ## Constants -/

def partnerKey : String :=
  "partner_PX2M6nnd1DC3XmtABNbfmfBSgYzW209Wyvjz19Kcrnbzz4KbSRi7s86w"

def merchantId : String := "Takeit_TAISHIN"

def tapPaySanbox : String := "https://sandbox.tappaysdk.com/tpc/payment/pay-by-prime"

/-- `paymentDic` and the URL it is posted to. -/
structure PaymentRequest where
  url : String
  partnerKey : String
  prime : String
  merchantId : String
  orderCount : String
  amount : String
  currency : String
  orderNumber : String
  details : String
  cardholder : List (String × String)
  resultUrl : List (String × String)
deriving DecidableEq, Repr

/-- The view controller. `isSelected` is that of `checkButton` and `isEnabled`
that of `agreeButton`, drawn disabled. -/
structure OrderRulesVC where
  movieName : String := ""
  citySelection : String := ""
  stationSelection : String := ""
  dateSelection : String := ""
  timeSelection : String := ""
  amount : String := ""
  seatSelection : String := ""
  orderCount : String := ""
  movieId : String := ""
  orders : Order := {}
  station : Station := {}
  isSelected : Bool := false
  isEnabled : Bool := false
deriving DecidableEq, Repr

namespace OrderRulesVC

/-- `loadData()`: each field that has a stored text takes it. -/
def loadData (vc : OrderRulesVC) (ud : UserDefaults) : OrderRulesVC :=
  { vc with
    movieName := (ud.string "movieName").getD vc.movieName
    citySelection := (ud.string "citySelection").getD vc.citySelection
    stationSelection := (ud.string "stationSelection").getD vc.stationSelection
    dateSelection := (ud.string "dateSelection").getD vc.dateSelection
    timeSelection := (ud.string "timeSelection").getD vc.timeSelection
    amount := (ud.string "amount").getD vc.amount
    orderCount := (ud.string "orderCount").getD vc.orderCount }

/-- `viewDidLoad()`. -/
def viewDidLoad (ud : UserDefaults) : OrderRulesVC :=
  { movieId := "2gqYScw0gbYnCQmPul7v"
    movieName := "神力女超人"
    stationSelection := "信義威秀影城"
    dateSelection := "03/12"
    timeSelection := "13:00"
    amount := "600"
    seatSelection := "第3排7號\n第3排8號" : OrderRulesVC }.loadData ud

/-- `checkButton(_:)`. -/
def checkButton (vc : OrderRulesVC) : OrderRulesVC :=
  if vc.isSelected then { vc with isSelected := false, isEnabled := false }
  else { vc with isSelected := true, isEnabled := true }

/-- What `agreeButton(_:)` does besides showing the alert with the order. -/
def agreeButton (vc : OrderRulesVC) : OrderRulesVC :=
  { vc with station := { vc.station with stationId := "EaIHFDOomX8cczurdJ7I" } }

/-- `generatePayByPrimeForSandBox(prime:)`: the request that is posted. -/
def generatePayByPrimeForSandBox (vc : OrderRulesVC) (prime : String) : PaymentRequest where
  url := tapPaySanbox
  partnerKey := Takeit.partnerKey
  prime := prime
  merchantId := Takeit.merchantId
  orderCount := vc.orderCount
  amount := vc.amount
  currency := "TWD"
  orderNumber := "SN0001"
  details := "電影名稱：\n" ++ vc.movieName ++ "\n影城：\n" ++ vc.stationSelection ++
    "\n日期：\n" ++ vc.dateSelection ++ "\n場次：\n" ++ vc.timeSelection ++ "\n座位：" ++
    vc.seatSelection
  cardholder := [("name", "Lee"), ("phone_number", "+886912345678"), ("email", "lee@email.com")]
  resultUrl := [("frontend_redirect_url", "https://example.com/front-end-redirect"),
    ("backend_notify_url", "https://example.com/back-end-notify")]

/-- The order the credit card branch fills in, with the id Firestore hands out
and the formatted date. -/
def fillOrder (vc : OrderRulesVC) (id result : String) : OrderRulesVC :=
  { vc with orders := { vc.orders with
      uid := "SJwwaqgTGiQRxjdlwYV6Yhj6Kb33"
      orderId := id
      movieId := vc.movieId
      movieName := vc.movieName
      orderStation := vc.stationSelection
      orderDate := vc.dateSelection
      orderTime := vc.timeSelection
      orderCount := vc.orderCount
      orderAmount := vc.amount
      orderSeat := vc.seatSelection
      orderUpdatetime := result } }

/-- The effect of `addOrder(order:)` on the orders collection. -/
def addOrder (orders : Collection) (order : Order) : Collection :=
  orders.setData order.orderId order.documentData

/-! ## What the screen knows of the booking -/

section Load

variable (ud : UserDefaults)

/-- The amount is read back if one was stored. -/
theorem amount_viewDidLoad {s : String} (h : ud.string "amount" = some s) :
    (viewDidLoad ud).amount = s := by
  simp [viewDidLoad, loadData, h]

/-- So is the number of tickets. -/
theorem orderCount_viewDidLoad {s : String} (h : ud.string "orderCount" = some s) :
    (viewDidLoad ud).orderCount = s := by
  simp [viewDidLoad, loadData, h]

/-- The seats are not: `loadData` has no key for them. -/
theorem seatSelection_viewDidLoad :
    (viewDidLoad ud).seatSelection = "第3排7號\n第3排8號" := rfl

end Load

end OrderRulesVC

end Takeit
