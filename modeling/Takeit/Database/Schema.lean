import Takeit.Logic.Lts
import Takeit.Logic.Tables

/-!
# The schema (`CreateTable_Final.sql`)

The tables a seat can be reached through: `Hall`, `Hall_Seat`, `Session`,
`Order` and `Order_Detail`, with the columns their keys, unique indexes and
foreign keys are about. The other columns accept any value, or null, and so do
the references to other tables; whatever statement the schema accepts is accepted
here.

InnoDB checks every row when it is written, so that a statement about many rows
is one `Statement` a row. An ID is the one that is written or
`AUTO_INCREMENT` gives.
-/

namespace Takeit.Database

open Takeit.Logic

/-- `INT`. -/
abbrev INT := Int32

/-! ## Rows -/

/-- A row of `Hall`. -/
structure Hall where
  id : INT
deriving DecidableEq

/-- A row of `Hall_Seat`. -/
structure HallSeat where
  id : INT
  hallId : Option INT
  row : INT
  column : INT
  hallSeatStatus : Option Bool := none
deriving DecidableEq

/-- A row of `Session`. -/
structure Session where
  id : INT
  hallId : Option INT
deriving DecidableEq

/-- A row of `Order`. -/
structure Order where
  id : INT
  sessionId : Option INT
deriving DecidableEq

/-- A row of `Order_Detail`. -/
structure OrderDetail where
  id : INT
  orderId : Option INT
  hallSeatRow : Option INT
  hallSeatColumn : Option INT
deriving DecidableEq

end Takeit.Database

namespace Takeit

open Takeit.Logic Takeit.Database

/-- The tables, with their primary keys and unique indexes. -/
structure Database where
  hall : Table [Hall.id] := .empty
  hallSeat : Table [HallSeat.id, HallSeat.row, HallSeat.column] := .empty
  session : Table [Session.id] := .empty
  order : Table [Order.id] := .empty
  orderDetail : Table [OrderDetail.id] := .empty

/-- One row written. -/
inductive Database.Statement
  | hall (w : Write Hall)
  | hallSeat (w : Write HallSeat)
  | session (w : Write Session)
  | order (w : Write Order)
  | orderDetail (w : Write OrderDetail)

namespace Database

/-! ## Foreign keys

All of them are `ON DELETE SET NULL ON UPDATE SET NULL`, and none is part of a
key. -/

/-- `FK_Hall_Seat_Hall_ID`. -/
def HallSeat.setHallNull (hall : Option INT) (seat : HallSeat) : HallSeat :=
  { seat with hallId := setNull hall seat.hallId }

/-- `FK_Session_Hall_ID`. -/
def Session.setHallNull (hall : Option INT) (s : Session) : Session :=
  { s with hallId := setNull hall s.hallId }

/-- `FK_Order_Session_ID`. -/
def Order.setSessionNull (session : Option INT) (o : Order) : Order :=
  { o with sessionId := setNull session o.sessionId }

/-- `FK_Order_Detail_Order_ID`. -/
def OrderDetail.setOrderNull (order : Option INT) (d : OrderDetail) : OrderDetail :=
  { d with orderId := setNull order d.orderId }

/-- `FK_Order_Detail_Row` and `FK_Order_Detail_Column`. -/
def OrderDetail.setSeatNull (row column : Option INT) (d : OrderDetail) : OrderDetail :=
  { d with
    hallSeatRow := setNull row d.hallSeatRow
    hallSeatColumn := setNull column d.hallSeatColumn }

theorem HallSeat.keys_setHallNull (hall : Option INT) :
    ∀ key ∈ [HallSeat.id, HallSeat.row, HallSeat.column], ∀ seat : HallSeat,
      key (seat.setHallNull hall) = key seat := by
  simp [HallSeat.setHallNull]

theorem Session.keys_setHallNull (hall : Option INT) :
    ∀ key ∈ [Session.id], ∀ s : Session, key (s.setHallNull hall) = key s := by
  simp [Session.setHallNull]

theorem Order.keys_setSessionNull (session : Option INT) :
    ∀ key ∈ [Order.id], ∀ o : Order, key (o.setSessionNull session) = key o := by
  simp [Order.setSessionNull]

theorem OrderDetail.keys_setOrderNull (order : Option INT) :
    ∀ key ∈ [OrderDetail.id], ∀ d : OrderDetail, key (d.setOrderNull order) = key d := by
  simp [OrderDetail.setOrderNull]

theorem OrderDetail.keys_setSeatNull (row column : Option INT) :
    ∀ key ∈ [OrderDetail.id], ∀ d : OrderDetail, key (d.setSeatNull row column) = key d := by
  simp [OrderDetail.setSeatNull]

/-! ## Statements -/

/-- The statement, if the keys, indexes and foreign keys accept it. -/
def execute (db : Database) : Statement → Option Database
  | .hall w => do
      let hall ← db.hall.write w
      let dropped := w.dropped Hall.id
      some { db with
        hall := hall
        hallSeat := db.hallSeat.map (HallSeat.setHallNull dropped) (HallSeat.keys_setHallNull _)
        session := db.session.map (Session.setHallNull dropped) (Session.keys_setHallNull _) }
  | .hallSeat w =>
      if References HallSeat.hallId w.after.toList Hall.id db.hall.rows then do
        let hallSeat ← db.hallSeat.write w
        let row := w.dropped HallSeat.row
        let column := w.dropped HallSeat.column
        some { db with
          hallSeat := hallSeat
          orderDetail := db.orderDetail.map (OrderDetail.setSeatNull row column)
            (OrderDetail.keys_setSeatNull _ _) }
      else none
  | .session w =>
      if References Session.hallId w.after.toList Hall.id db.hall.rows then do
        let session ← db.session.write w
        some { db with
          session := session
          order := db.order.map (Order.setSessionNull (w.dropped Session.id))
            (Order.keys_setSessionNull _) }
      else none
  | .order w =>
      if References Order.sessionId w.after.toList Session.id db.session.rows then do
        let order ← db.order.write w
        some { db with
          order := order
          orderDetail := db.orderDetail.map (OrderDetail.setOrderNull (w.dropped Order.id))
            (OrderDetail.keys_setOrderNull _) }
      else none
  | .orderDetail w =>
      if References OrderDetail.orderId w.after.toList Order.id db.order.rows ∧
          References OrderDetail.hallSeatRow w.after.toList HallSeat.row db.hallSeat.rows ∧
          References OrderDetail.hallSeatColumn w.after.toList HallSeat.column
            db.hallSeat.rows then do
        let orderDetail ← db.orderDetail.write w
        some { db with orderDetail := orderDetail }
      else none

/-- Every statement that is accepted, and what it leaves. -/
inductive Executes (db : Database) : Statement → Database → Prop
  | hall {w hall} : db.hall.write w = some hall →
      Executes db (.hall w) { db with
        hall := hall
        hallSeat := db.hallSeat.map (HallSeat.setHallNull (w.dropped Hall.id))
          (HallSeat.keys_setHallNull _)
        session := db.session.map (Session.setHallNull (w.dropped Hall.id))
          (Session.keys_setHallNull _) }
  | hallSeat {w hallSeat} :
      References HallSeat.hallId w.after.toList Hall.id db.hall.rows →
      db.hallSeat.write w = some hallSeat →
      Executes db (.hallSeat w) { db with
        hallSeat := hallSeat
        orderDetail := db.orderDetail.map
          (OrderDetail.setSeatNull (w.dropped HallSeat.row) (w.dropped HallSeat.column))
          (OrderDetail.keys_setSeatNull _ _) }
  | session {w session} :
      References Session.hallId w.after.toList Hall.id db.hall.rows →
      db.session.write w = some session →
      Executes db (.session w) { db with
        session := session
        order := db.order.map (Order.setSessionNull (w.dropped Session.id))
          (Order.keys_setSessionNull _) }
  | order {w order} :
      References Order.sessionId w.after.toList Session.id db.session.rows →
      db.order.write w = some order →
      Executes db (.order w) { db with
        order := order
        orderDetail := db.orderDetail.map (OrderDetail.setOrderNull (w.dropped Order.id))
          (OrderDetail.keys_setOrderNull _) }
  | orderDetail {w orderDetail} :
      References OrderDetail.orderId w.after.toList Order.id db.order.rows →
      References OrderDetail.hallSeatRow w.after.toList HallSeat.row db.hallSeat.rows →
      References OrderDetail.hallSeatColumn w.after.toList HallSeat.column db.hallSeat.rows →
      db.orderDetail.write w = some orderDetail →
      Executes db (.orderDetail w) { db with orderDetail := orderDetail }

/-- The database, from no rows at all on. -/
def system : Lts Database Statement := .ofNext (· = {}) execute

variable {db db' : Database} {statement : Statement}

theorem executes_of_step (h : system.step db statement db') : Executes db statement db' := by
  have hnext : db.execute statement = some db' := h
  cases statement with
  | hall w =>
      simp only [execute, Option.bind_eq_bind, Option.bind_eq_some_iff] at hnext
      obtain ⟨hall, hwrite, hnext⟩ := hnext
      obtain rfl := Option.some.inj hnext
      exact .hall hwrite
  | hallSeat w =>
      obtain ⟨hhall, hnext⟩ := Option.ite_none_right_eq_some.mp hnext
      obtain ⟨hallSeat, hwrite, hnext⟩ := Option.bind_eq_some_iff.mp hnext
      obtain rfl := Option.some.inj hnext
      exact .hallSeat hhall hwrite
  | session w =>
      obtain ⟨hhall, hnext⟩ := Option.ite_none_right_eq_some.mp hnext
      obtain ⟨session, hwrite, hnext⟩ := Option.bind_eq_some_iff.mp hnext
      obtain rfl := Option.some.inj hnext
      exact .session hhall hwrite
  | order w =>
      obtain ⟨hsession, hnext⟩ := Option.ite_none_right_eq_some.mp hnext
      obtain ⟨order, hwrite, hnext⟩ := Option.bind_eq_some_iff.mp hnext
      obtain rfl := Option.some.inj hnext
      exact .order hsession hwrite
  | orderDetail w =>
      obtain ⟨⟨horder, hrow, hcolumn⟩, hnext⟩ := Option.ite_none_right_eq_some.mp hnext
      obtain ⟨orderDetail, hwrite, hnext⟩ := Option.bind_eq_some_iff.mp hnext
      obtain rfl := Option.some.inj hnext
      exact .orderDetail horder hrow hcolumn hwrite

theorem Executes.step (h : Executes db statement db') : system.step db statement db' := by
  show db.execute statement = some db'
  cases h with
  | hall hwrite =>
      simp only [execute, hwrite, Option.bind_eq_bind, Option.bind_some]
  | hallSeat hhall hwrite =>
      simp only [execute, if_pos hhall, hwrite, Option.bind_eq_bind, Option.bind_some]
  | session hhall hwrite =>
      simp only [execute, if_pos hhall, hwrite, Option.bind_eq_bind, Option.bind_some]
  | order hsession hwrite =>
      simp only [execute, if_pos hsession, hwrite, Option.bind_eq_bind, Option.bind_some]
  | orderDetail horder hrow hcolumn hwrite =>
      simp only [execute, if_pos (And.intro horder (And.intro hrow hcolumn)), hwrite,
        Option.bind_eq_bind, Option.bind_some]

/-! ## Foreign keys hold -/

/-- No reference dangles. -/
structure Referenced (db : Database) : Prop where
  hallOfSeat : References HallSeat.hallId db.hallSeat.rows Hall.id db.hall.rows
  hallOfSession : References Session.hallId db.session.rows Hall.id db.hall.rows
  sessionOfOrder : References Order.sessionId db.order.rows Session.id db.session.rows
  orderOfDetail : References OrderDetail.orderId db.orderDetail.rows Order.id db.order.rows
  rowOfDetail : References OrderDetail.hallSeatRow db.orderDetail.rows HallSeat.row
    db.hallSeat.rows
  columnOfDetail : References OrderDetail.hallSeatColumn db.orderDetail.rows HallSeat.column
    db.hallSeat.rows

theorem Executes.referenced (h : Executes db statement db') (hdb : db.Referenced) :
    db'.Referenced := by
  cases h with
  | hall hwrite => exact {
      hallOfSeat := hdb.hallOfSeat.parent hwrite fun _ => rfl
      hallOfSession := hdb.hallOfSession.parent hwrite fun _ => rfl
      sessionOfOrder := hdb.sessionOfOrder.map_parents fun _ => rfl
      orderOfDetail := hdb.orderOfDetail
      rowOfDetail := hdb.rowOfDetail.map_parents fun _ => rfl
      columnOfDetail := hdb.columnOfDetail.map_parents fun _ => rfl }
  | hallSeat hhall hwrite => exact {
      hallOfSeat := hdb.hallOfSeat.child hwrite hhall
      hallOfSession := hdb.hallOfSession
      sessionOfOrder := hdb.sessionOfOrder
      orderOfDetail := hdb.orderOfDetail.map fun _ _ hk => hk
      rowOfDetail := hdb.rowOfDetail.parent hwrite fun _ => rfl
      columnOfDetail := hdb.columnOfDetail.parent hwrite fun _ => rfl }
  | session hhall hwrite => exact {
      hallOfSeat := hdb.hallOfSeat
      hallOfSession := hdb.hallOfSession.child hwrite hhall
      sessionOfOrder := hdb.sessionOfOrder.parent hwrite fun _ => rfl
      orderOfDetail := hdb.orderOfDetail.map_parents fun _ => rfl
      rowOfDetail := hdb.rowOfDetail
      columnOfDetail := hdb.columnOfDetail }
  | order hsession hwrite => exact {
      hallOfSeat := hdb.hallOfSeat
      hallOfSession := hdb.hallOfSession
      sessionOfOrder := hdb.sessionOfOrder.child hwrite hsession
      orderOfDetail := hdb.orderOfDetail.parent hwrite fun _ => rfl
      rowOfDetail := hdb.rowOfDetail.map fun _ _ hk => hk
      columnOfDetail := hdb.columnOfDetail.map fun _ _ hk => hk }
  | orderDetail horder hrow hcolumn hwrite => exact {
      hallOfSeat := hdb.hallOfSeat
      hallOfSession := hdb.hallOfSession
      sessionOfOrder := hdb.sessionOfOrder
      orderOfDetail := hdb.orderOfDetail.child hwrite horder
      rowOfDetail := hdb.rowOfDetail.child hwrite hrow
      columnOfDetail := hdb.columnOfDetail.child hwrite hcolumn }

/-- Whatever is written, no reference dangles. -/
theorem referenced_of_reachable (h : system.Reachable db) : db.Referenced := by
  refine h.invariant ?_ fun _ _ _ hdb hst => (executes_of_step hst).referenced hdb
  rintro _ rfl
  exact ⟨.nil, .nil, .nil, .nil, .nil, .nil⟩

end Database

end Takeit
