import Takeit.Database.References
import Takeit.Database.Seats
import Takeit.Logic.Views

/-!
# The tables a seat can be reached through

`Database` has five of the 22 tables, with the columns that are about seats.
Whatever is written to the 22 tables, these five change as `Database.system` does
(`seatTables`): a write to one of them is the `Statement` that `seatStatement`
says, and a write to any other table is not seen.
-/

namespace Takeit.Database

open Takeit.Logic

/-! ## Columns -/

/-- A column of type `INT`. -/
def Cell.int? : Option Cell → Option INT
  | some (.int n) => some n
  | _ => none

/-- A column of type `BIT`. -/
def Cell.bit? : Option Cell → Option Bool
  | some (.bit b) => some b
  | _ => none

theorem int_injective : Function.Injective Cell.int := fun _ _ h => Cell.int.inj h

abbrev Row := Record ColumnName Cell

/-- A row of `Hall`. -/
def Row.hall (r : Row) : Hall := { id := (Cell.int? (r .id)).getD 0 }

/-- A row of `Hall_Seat`. -/
def Row.hallSeat (r : Row) : HallSeat where
  id := (Cell.int? (r .id)).getD 0
  hallId := Cell.int? (r .hallId)
  row := (Cell.int? (r .row)).getD 0
  column := (Cell.int? (r .column)).getD 0
  hallSeatStatus := Cell.bit? (r .hallSeatStatus)

/-- A row of `Session`. -/
def Row.session (r : Row) : Session where
  id := (Cell.int? (r .id)).getD 0
  hallId := Cell.int? (r .hallId)

/-- A row of `Order`. -/
def Row.order (r : Row) : Order where
  id := (Cell.int? (r .id)).getD 0
  sessionId := Cell.int? (r .sessionId)

/-- A row of `Order_Detail`. -/
def Row.orderDetail (r : Row) : OrderDetail where
  id := (Cell.int? (r .id)).getD 0
  orderId := Cell.int? (r .orderId)
  hallSeatRow := Cell.int? (r .hallSeatRow)
  hallSeatColumn := Cell.int? (r .hallSeatColumn)

/-- The statement a write to the five tables is. -/
def seatStatement (db : Rows TableName ColumnName Cell)
    (w : RowWrite TableName ColumnName Cell) : Option Statement :=
  match w.table with
  | .hall => some (.hall (createTable.image Row.hall db w))
  | .hallSeat => some (.hallSeat (createTable.image Row.hallSeat db w))
  | .session => some (.session (createTable.image Row.session db w))
  | .order => some (.order (createTable.image Row.order db w))
  | .orderDetail => some (.orderDetail (createTable.image Row.orderDetail db w))
  | _ => none

/-- The five tables of `db` are those of `d`. -/
structure SeatTables (db : Rows TableName ColumnName Cell) (d : Database) : Prop where
  sound : createTable.Sound db
  hall : d.hall.rows = (db .hall).map Row.hall
  hallSeat : d.hallSeat.rows = (db .hallSeat).map Row.hallSeat
  session : d.session.rows = (db .session).map Row.session
  order : d.order.rows = (db .order).map Row.order
  orderDetail : d.orderDetail.rows = (db .orderDetail).map Row.orderDetail

/-- The column is one of type `INT`. -/
def IsInt (t : TableName) (c : ColumnName) : Prop :=
  ∀ column ∈ (createTable t).columns, column.name = c → column.takes = ColumnType.int.takes

variable {db : Rows TableName ColumnName Cell} {w : RowWrite TableName ColumnName Cell}
  {t : TableName} {c : ColumnName} {r : Row} {d : Database}

theorem exists_int (hint : IsInt t c) (hr : createTable.Typed t r) {v : Cell} (hv : r c = some v) :
    ∃ n, v = .int n := by
  obtain ⟨column, hcolumn, hname, htakes⟩ := hr.takes c v hv
  rw [hint column hcolumn hname] at htakes
  cases v with
  | int n => exact ⟨n, rfl⟩
  | _ => exact absurd htakes (by simp [ColumnType.takes])

/-- A column of type `INT` that may be null. -/
theorem keepsNull_int {ρ : Type} {f : Row → ρ} {reference : ρ → Option INT} (hint : IsInt t c)
    (hf : ∀ r, reference (f r) = Cell.int? (r c)) :
    createTable.KeepsNull t Cell.int f c reference := by
  intro r hr
  rw [hf]
  cases hrc : r c with
  | none => rfl
  | some v =>
      obtain ⟨n, rfl⟩ := exists_int hint hr hrc
      rfl

/-- A column of type `INT` that is `NOT NULL`. -/
theorem keeps_int {ρ : Type} {f : Row → ρ} {key : ρ → INT} (hint : IsInt t c)
    (hnull : (createTable t).NotNull c) (hf : ∀ r, key (f r) = (Cell.int? (r c)).getD 0) :
    createTable.Keeps t Cell.int f c key := by
  intro r hr
  obtain ⟨v, hv⟩ := Option.ne_none_iff_exists'.mp (hr.notNull c hnull)
  obtain ⟨n, rfl⟩ := exists_int hint hr hv
  rw [hv, hf, hv]
  rfl

theorem isInt_id (t : TableName) : IsInt t .id := by
  cases t <;> simp [IsInt, createTable, notNull, null]

theorem notNull_id (t : TableName) : (createTable t).NotNull .id := by
  cases t <;> decide

/-- The ID of a row, in whatever it is kept. -/
theorem keeps_id {ρ : Type} {f : Row → ρ} (key : ρ → INT)
    (hf : ∀ r, key (f r) = (Cell.int? (r .id)).getD 0) :
    createTable.Keeps t Cell.int f .id key :=
  keeps_int (isInt_id t) (notNull_id t) hf

/-- A table whose only key is the ID keeps its keys. -/
theorem keeps_onlyId {ρ : Type} {f : Row → ρ} {key : ρ → INT}
    (hunique : ColumnName.id ∈ (createTable t).unique)
    (hf : ∀ r, key (f r) = (Cell.int? (r .id)).getD 0) :
    ∀ k ∈ [key], ∃ c ∈ (createTable t).unique, createTable.Keeps t Cell.int f c k := by
  intro k hk
  obtain rfl := List.mem_singleton.mp hk
  exact ⟨.id, hunique, keeps_id k hf⟩

/-! ## References that become null -/

/-- No reference is an ID. -/
theorem setNull_id : createTable.setNull db w t r .id = r .id := by
  refine Schema.setNull_of_noKey ?_
  cases t <;> decide

theorem hall_kept : Row.hall (createTable.setNull db w .hall r) = Row.hall r := by
  rw [Row.hall, setNull_id, Row.hall]

/-- `Hall_Seat` refers to `Hall`. -/
theorem hallOfSeat :
    createTable.KeepsNull .hallSeat Cell.int Row.hallSeat .hallId HallSeat.hallId :=
  keepsNull_int (by simp [IsInt, createTable, notNull, null]) fun _ => rfl

theorem hallSeat_setNull_eq : Row.hallSeat (createTable.setNull db w .hallSeat r) =
    { Row.hallSeat r with
      hallId := (Row.hallSeat (createTable.setNull db w .hallSeat r)).hallId } := by
  have hrow : createTable.setNull db w .hallSeat r .row = r .row :=
    Schema.setNull_of_noKey (by decide)
  have hcolumn : createTable.setNull db w .hallSeat r .column = r .column :=
    Schema.setNull_of_noKey (by decide)
  have hstatus : createTable.setNull db w .hallSeat r .hallSeatStatus = r .hallSeatStatus :=
    Schema.setNull_of_noKey (by decide)
  simp only [Row.hallSeat, setNull_id, hrow, hcolumn, hstatus]

theorem hallSeat_kept (hr : createTable.Typed .hallSeat r) (hw : w.table ≠ .hall) :
    Row.hallSeat (createTable.setNull db w .hallSeat r) = Row.hallSeat r := by
  have hhall := Schema.reference_kept db ⟨.hallId, .hall, .id⟩ int_injective
    createTable_wellFormed (by decide) (by decide) hallOfSeat hr hw.symm
  rw [hallSeat_setNull_eq, hhall]

theorem hallSeat_setNull (hdb : createTable.Sound db) (h : createTable.Accepts db w)
    (hr : createTable.Typed .hallSeat r) (hw : w.table = .hall) :
    Row.hallSeat (createTable.setNull db w .hallSeat r) =
      (Row.hallSeat r).setHallNull ((createTable.image Row.hall db w).dropped Hall.id) := by
  have hhall := Schema.reference_setNull ⟨.hallId, .hall, .id⟩ (g := Row.hall)
    int_injective createTable_wellFormed hdb h (by decide) (by decide) hallOfSeat
    (keeps_id Hall.id fun _ => rfl) hr hw.symm
  rw [hallSeat_setNull_eq, hhall, HallSeat.setHallNull]

/-- `Session` refers to `Hall`. -/
theorem hallOfSession :
    createTable.KeepsNull .session Cell.int Row.session .hallId Session.hallId :=
  keepsNull_int (by simp [IsInt, createTable, notNull, null]) fun _ => rfl

theorem session_setNull_eq : Row.session (createTable.setNull db w .session r) =
    { Row.session r with
      hallId := (Row.session (createTable.setNull db w .session r)).hallId } := by
  simp only [Row.session, setNull_id]

theorem session_kept (hr : createTable.Typed .session r) (hw : w.table ≠ .hall) :
    Row.session (createTable.setNull db w .session r) = Row.session r := by
  have hhall := Schema.reference_kept db ⟨.hallId, .hall, .id⟩ int_injective
    createTable_wellFormed (by decide) (by decide) hallOfSession hr hw.symm
  rw [session_setNull_eq, hhall]

theorem session_setNull (hdb : createTable.Sound db) (h : createTable.Accepts db w)
    (hr : createTable.Typed .session r) (hw : w.table = .hall) :
    Row.session (createTable.setNull db w .session r) =
      (Row.session r).setHallNull ((createTable.image Row.hall db w).dropped Hall.id) := by
  have hhall := Schema.reference_setNull ⟨.hallId, .hall, .id⟩ (g := Row.hall)
    int_injective createTable_wellFormed hdb h (by decide) (by decide) hallOfSession
    (keeps_id Hall.id fun _ => rfl) hr hw.symm
  rw [session_setNull_eq, hhall, Session.setHallNull]

/-- `Order` refers to `Session`. -/
theorem sessionOfOrder : createTable.KeepsNull .order Cell.int Row.order .sessionId
    Order.sessionId :=
  keepsNull_int (by simp [IsInt, createTable, notNull, null]) fun _ => rfl

theorem order_setNull_eq : Row.order (createTable.setNull db w .order r) =
    { Row.order r with
      sessionId := (Row.order (createTable.setNull db w .order r)).sessionId } := by
  simp only [Row.order, setNull_id]

theorem order_kept (hr : createTable.Typed .order r) (hw : w.table ≠ .session) :
    Row.order (createTable.setNull db w .order r) = Row.order r := by
  have hsession := Schema.reference_kept db ⟨.sessionId, .session, .id⟩
    int_injective createTable_wellFormed (by decide) (by decide) sessionOfOrder hr hw.symm
  rw [order_setNull_eq, hsession]

theorem order_setNull (hdb : createTable.Sound db) (h : createTable.Accepts db w)
    (hr : createTable.Typed .order r) (hw : w.table = .session) :
    Row.order (createTable.setNull db w .order r) =
      (Row.order r).setSessionNull
        ((createTable.image Row.session db w).dropped Session.id) := by
  have hsession := Schema.reference_setNull ⟨.sessionId, .session, .id⟩ (g := Row.session)
    int_injective createTable_wellFormed hdb h (by decide) (by decide) sessionOfOrder
    (keeps_id Session.id fun _ => rfl) hr hw.symm
  rw [order_setNull_eq, hsession, Order.setSessionNull]

/-! `Order_Detail` refers to `Order`, and to `Hall_Seat` by the row and by the column. -/

theorem orderOfDetail : createTable.KeepsNull .orderDetail Cell.int Row.orderDetail .orderId
    OrderDetail.orderId :=
  keepsNull_int (by simp [IsInt, createTable, notNull, null]) fun _ => rfl

theorem rowOfDetail : createTable.KeepsNull .orderDetail Cell.int Row.orderDetail .hallSeatRow
    OrderDetail.hallSeatRow :=
  keepsNull_int (by simp [IsInt, createTable, notNull, null]) fun _ => rfl

theorem columnOfDetail : createTable.KeepsNull .orderDetail Cell.int Row.orderDetail
    .hallSeatColumn OrderDetail.hallSeatColumn :=
  keepsNull_int (by simp [IsInt, createTable, notNull, null]) fun _ => rfl

theorem row_hallSeat : createTable.Keeps .hallSeat Cell.int Row.hallSeat .row HallSeat.row :=
  keeps_int (by simp [IsInt, createTable, notNull, null]) (by decide) fun _ => rfl

theorem column_hallSeat : createTable.Keeps .hallSeat Cell.int Row.hallSeat .column
    HallSeat.column :=
  keeps_int (by simp [IsInt, createTable, notNull, null]) (by decide) fun _ => rfl

theorem orderDetail_setNull_eq : Row.orderDetail (createTable.setNull db w .orderDetail r) =
    { Row.orderDetail r with
      orderId := (Row.orderDetail (createTable.setNull db w .orderDetail r)).orderId
      hallSeatRow := (Row.orderDetail (createTable.setNull db w .orderDetail r)).hallSeatRow
      hallSeatColumn :=
        (Row.orderDetail (createTable.setNull db w .orderDetail r)).hallSeatColumn } := by
  simp only [Row.orderDetail, setNull_id]

theorem orderId_kept (hr : createTable.Typed .orderDetail r) (hw : w.table ≠ .order) :
    (Row.orderDetail (createTable.setNull db w .orderDetail r)).orderId =
      (Row.orderDetail r).orderId :=
  Schema.reference_kept db ⟨.orderId, .order, .id⟩ int_injective createTable_wellFormed
    (by decide) (by decide) orderOfDetail hr hw.symm

theorem hallSeatRow_kept (hr : createTable.Typed .orderDetail r) (hw : w.table ≠ .hallSeat) :
    (Row.orderDetail (createTable.setNull db w .orderDetail r)).hallSeatRow =
      (Row.orderDetail r).hallSeatRow :=
  Schema.reference_kept db ⟨.hallSeatRow, .hallSeat, .row⟩ int_injective
    createTable_wellFormed (by decide) (by decide) rowOfDetail hr hw.symm

theorem hallSeatColumn_kept (hr : createTable.Typed .orderDetail r) (hw : w.table ≠ .hallSeat) :
    (Row.orderDetail (createTable.setNull db w .orderDetail r)).hallSeatColumn =
      (Row.orderDetail r).hallSeatColumn :=
  Schema.reference_kept db ⟨.hallSeatColumn, .hallSeat, .column⟩ int_injective
    createTable_wellFormed (by decide) (by decide) columnOfDetail hr hw.symm

theorem orderDetail_kept (hr : createTable.Typed .orderDetail r) (horder : w.table ≠ .order)
    (hseat : w.table ≠ .hallSeat) :
    Row.orderDetail (createTable.setNull db w .orderDetail r) = Row.orderDetail r := by
  rw [orderDetail_setNull_eq, orderId_kept hr horder, hallSeatRow_kept hr hseat,
    hallSeatColumn_kept hr hseat]

theorem orderDetail_setOrderNull (hdb : createTable.Sound db) (h : createTable.Accepts db w)
    (hr : createTable.Typed .orderDetail r) (hw : w.table = .order) :
    Row.orderDetail (createTable.setNull db w .orderDetail r) =
      (Row.orderDetail r).setOrderNull
        ((createTable.image Row.order db w).dropped Order.id) := by
  have hseat : w.table ≠ .hallSeat := by
    rw [hw]
    decide
  have horder := Schema.reference_setNull ⟨.orderId, .order, .id⟩ (g := Row.order)
    int_injective createTable_wellFormed hdb h (by decide) (by decide) orderOfDetail
    (keeps_id Order.id fun _ => rfl) hr hw.symm
  rw [orderDetail_setNull_eq, horder, hallSeatRow_kept hr hseat, hallSeatColumn_kept hr hseat,
    OrderDetail.setOrderNull]

theorem orderDetail_setSeatNull (hdb : createTable.Sound db) (h : createTable.Accepts db w)
    (hr : createTable.Typed .orderDetail r) (hw : w.table = .hallSeat) :
    Row.orderDetail (createTable.setNull db w .orderDetail r) =
      (Row.orderDetail r).setSeatNull
        ((createTable.image Row.hallSeat db w).dropped HallSeat.row)
        ((createTable.image Row.hallSeat db w).dropped HallSeat.column) := by
  have horder : w.table ≠ .order := by
    rw [hw]
    decide
  have hrow := Schema.reference_setNull ⟨.hallSeatRow, .hallSeat, .row⟩
    (g := Row.hallSeat) int_injective createTable_wellFormed hdb h
    (by decide) (by decide) rowOfDetail (hw ▸ row_hallSeat) hr hw.symm
  have hcolumn := Schema.reference_setNull ⟨.hallSeatColumn, .hallSeat, .column⟩
    (g := Row.hallSeat) int_injective createTable_wellFormed hdb h
    (by decide) (by decide) columnOfDetail (hw ▸ column_hallSeat) hr hw.symm
  rw [orderDetail_setNull_eq, orderId_kept hr horder, hrow, hcolumn, OrderDetail.setSeatNull]

/-! ## Tables that are not written -/

theorem written_hall (hdb : createTable.Sound db) (hw : w.table ≠ .hall) :
    (createTable.written db w .hall).map Row.hall = (db .hall).map Row.hall := by
  rw [Schema.written_map (g := id) hdb hw.symm fun _ _ => hall_kept, List.map_id]

theorem written_hallSeat (hdb : createTable.Sound db) (hw : w.table ≠ .hallSeat)
    (hhall : w.table ≠ .hall) :
    (createTable.written db w .hallSeat).map Row.hallSeat = (db .hallSeat).map Row.hallSeat := by
  rw [Schema.written_map (g := id) hdb hw.symm fun _ hr => hallSeat_kept hr hhall, List.map_id]

theorem written_session (hdb : createTable.Sound db) (hw : w.table ≠ .session)
    (hhall : w.table ≠ .hall) :
    (createTable.written db w .session).map Row.session = (db .session).map Row.session := by
  rw [Schema.written_map (g := id) hdb hw.symm fun _ hr => session_kept hr hhall, List.map_id]

theorem written_order (hdb : createTable.Sound db) (hw : w.table ≠ .order)
    (hsession : w.table ≠ .session) :
    (createTable.written db w .order).map Row.order = (db .order).map Row.order := by
  rw [Schema.written_map (g := id) hdb hw.symm fun _ hr => order_kept hr hsession, List.map_id]

theorem written_orderDetail (hdb : createTable.Sound db) (hw : w.table ≠ .orderDetail)
    (horder : w.table ≠ .order) (hseat : w.table ≠ .hallSeat) :
    (createTable.written db w .orderDetail).map Row.orderDetail =
      (db .orderDetail).map Row.orderDetail := by
  rw [Schema.written_map (g := id) hdb hw.symm fun _ hr => orderDetail_kept hr horder hseat,
    List.map_id]

/-! ## Every write

`Database.Executes` has one constructor for each of the five tables, and so has
what follows. -/

theorem SeatTables.hallWritten (hd : SeatTables db d) (h : createTable.Accepts db w)
    (hw : w.table = .hall) : ∃ d',
      Executes d (.hall (createTable.image Row.hall db w)) d' ∧
      SeatTables (createTable.written db w) d' := by
  obtain ⟨table, old, new⟩ := w
  obtain rfl : table = .hall := hw
  obtain ⟨hall, hwrite, hrows⟩ := Schema.exists_write Hall.id int_injective hd.sound h
    hd.hall (keeps_id _ fun _ => rfl)
    (keeps_onlyId List.mem_cons_self fun _ => rfl)
    (fun _ _ => hall_kept)
  refine ⟨_, .hall hwrite, ?_⟩
  exact {
    sound := hd.sound.written createTable_wellFormed h
    hall := hrows
    hallSeat := by
      rw [Schema.written_map hd.sound (by simp) fun r hr => hallSeat_setNull hd.sound h hr rfl,
        ← hd.hallSeat]
      rfl
    session := by
      rw [Schema.written_map hd.sound (by simp) fun r hr => session_setNull hd.sound h hr rfl,
        ← hd.session]
      rfl
    order := by
      rw [written_order hd.sound (by simp) (by simp), ← hd.order]
    orderDetail := by
      rw [written_orderDetail hd.sound (by simp) (by simp) (by simp), ← hd.orderDetail] }

theorem SeatTables.hallSeatWritten (hd : SeatTables db d) (h : createTable.Accepts db w)
    (hw : w.table = .hallSeat) : ∃ d',
      Executes d (.hallSeat (createTable.image Row.hallSeat db w)) d' ∧
      SeatTables (createTable.written db w) d' := by
  obtain ⟨table, old, new⟩ := w
  obtain rfl : table = .hallSeat := hw
  have hkeys : ∀ key ∈ [HallSeat.id, HallSeat.row, HallSeat.column],
      ∃ c ∈ (createTable .hallSeat).unique,
        createTable.Keeps .hallSeat Cell.int Row.hallSeat c key := by
    intro key hkey
    simp only [List.mem_cons, List.not_mem_nil, or_false] at hkey
    rcases hkey with rfl | rfl | rfl
    · exact ⟨.id, by decide, keeps_id _ fun _ => rfl⟩
    · exact ⟨.row, by decide, row_hallSeat⟩
    · exact ⟨.column, by decide, column_hallSeat⟩
  obtain ⟨hallSeat, hwrite, hrows⟩ := Schema.exists_write HallSeat.id int_injective
    hd.sound h hd.hallSeat (keeps_id _ fun _ => rfl) hkeys
    (fun _ hr => hallSeat_kept hr (by simp))
  have hhall := Schema.references_image ⟨.hallId, .hall, .id⟩ (g := Row.hall)
    int_injective hd.sound h (by simp [createTable]) (by simp) hallOfSeat
    (keeps_id Hall.id fun _ => rfl)
  rw [← hd.hall] at hhall
  refine ⟨_, .hallSeat hhall hwrite, ?_⟩
  exact {
    sound := hd.sound.written createTable_wellFormed h
    hall := by
      rw [written_hall hd.sound (by simp), ← hd.hall]
    hallSeat := hrows
    session := by
      rw [written_session hd.sound (by simp) (by simp), ← hd.session]
    order := by
      rw [written_order hd.sound (by simp) (by simp), ← hd.order]
    orderDetail := by
      rw [Schema.written_map hd.sound (by simp) fun r hr =>
        orderDetail_setSeatNull hd.sound h hr rfl, ← hd.orderDetail]
      rfl }

theorem SeatTables.sessionWritten (hd : SeatTables db d) (h : createTable.Accepts db w)
    (hw : w.table = .session) : ∃ d',
      Executes d (.session (createTable.image Row.session db w)) d' ∧
      SeatTables (createTable.written db w) d' := by
  obtain ⟨table, old, new⟩ := w
  obtain rfl : table = .session := hw
  obtain ⟨session, hwrite, hrows⟩ := Schema.exists_write Session.id int_injective
    hd.sound h hd.session (keeps_id _ fun _ => rfl)
    (keeps_onlyId List.mem_cons_self fun _ => rfl)
    (fun _ hr => session_kept hr (by simp))
  have hhall := Schema.references_image ⟨.hallId, .hall, .id⟩ (g := Row.hall)
    int_injective hd.sound h (by simp [createTable]) (by simp) hallOfSession
    (keeps_id Hall.id fun _ => rfl)
  rw [← hd.hall] at hhall
  refine ⟨_, .session hhall hwrite, ?_⟩
  exact {
    sound := hd.sound.written createTable_wellFormed h
    hall := by
      rw [written_hall hd.sound (by simp), ← hd.hall]
    hallSeat := by
      rw [written_hallSeat hd.sound (by simp) (by simp), ← hd.hallSeat]
    session := hrows
    order := by
      rw [Schema.written_map hd.sound (by simp) fun r hr => order_setNull hd.sound h hr rfl,
        ← hd.order]
      rfl
    orderDetail := by
      rw [written_orderDetail hd.sound (by simp) (by simp) (by simp), ← hd.orderDetail] }

theorem SeatTables.orderWritten (hd : SeatTables db d) (h : createTable.Accepts db w)
    (hw : w.table = .order) : ∃ d',
      Executes d (.order (createTable.image Row.order db w)) d' ∧
      SeatTables (createTable.written db w) d' := by
  obtain ⟨table, old, new⟩ := w
  obtain rfl : table = .order := hw
  obtain ⟨order, hwrite, hrows⟩ := Schema.exists_write Order.id int_injective
    hd.sound h hd.order (keeps_id _ fun _ => rfl)
    (keeps_onlyId List.mem_cons_self fun _ => rfl)
    (fun _ hr => order_kept hr (by simp))
  have hsession := Schema.references_image ⟨.sessionId, .session, .id⟩ (g := Row.session)
    int_injective hd.sound h (by simp [createTable]) (by simp) sessionOfOrder
    (keeps_id Session.id fun _ => rfl)
  rw [← hd.session] at hsession
  refine ⟨_, .order hsession hwrite, ?_⟩
  exact {
    sound := hd.sound.written createTable_wellFormed h
    hall := by
      rw [written_hall hd.sound (by simp), ← hd.hall]
    hallSeat := by
      rw [written_hallSeat hd.sound (by simp) (by simp), ← hd.hallSeat]
    session := by
      rw [written_session hd.sound (by simp) (by simp), ← hd.session]
    order := hrows
    orderDetail := by
      rw [Schema.written_map hd.sound (by simp) fun r hr =>
        orderDetail_setOrderNull hd.sound h hr rfl, ← hd.orderDetail]
      rfl }

theorem SeatTables.orderDetailWritten (hd : SeatTables db d) (h : createTable.Accepts db w)
    (hw : w.table = .orderDetail) : ∃ d',
      Executes d (.orderDetail (createTable.image Row.orderDetail db w)) d' ∧
      SeatTables (createTable.written db w) d' := by
  obtain ⟨table, old, new⟩ := w
  obtain rfl : table = .orderDetail := hw
  obtain ⟨orderDetail, hwrite, hrows⟩ := Schema.exists_write OrderDetail.id int_injective
    hd.sound h hd.orderDetail (keeps_id _ fun _ => rfl)
    (keeps_onlyId List.mem_cons_self fun _ => rfl)
    (fun _ hr => orderDetail_kept hr (by simp) (by simp))
  have horder := Schema.references_image ⟨.orderId, .order, .id⟩ (g := Row.order)
    int_injective hd.sound h (by simp [createTable]) (by simp) orderOfDetail
    (keeps_id Order.id fun _ => rfl)
  have hrow := Schema.references_image ⟨.hallSeatRow, .hallSeat, .row⟩ (g := Row.hallSeat)
    int_injective hd.sound h (by simp [createTable]) (by simp) rowOfDetail row_hallSeat
  have hcolumn := Schema.references_image ⟨.hallSeatColumn, .hallSeat, .column⟩
    (g := Row.hallSeat) int_injective hd.sound h (by simp [createTable]) (by simp) columnOfDetail
    column_hallSeat
  rw [← hd.order] at horder
  rw [← hd.hallSeat] at hrow hcolumn
  refine ⟨_, .orderDetail horder hrow hcolumn hwrite, ?_⟩
  exact {
    sound := hd.sound.written createTable_wellFormed h
    hall := by
      rw [written_hall hd.sound (by simp), ← hd.hall]
    hallSeat := by
      rw [written_hallSeat hd.sound (by simp) (by simp), ← hd.hallSeat]
    session := by
      rw [written_session hd.sound (by simp) (by simp), ← hd.session]
    order := by
      rw [written_order hd.sound (by simp) (by simp), ← hd.order]
    orderDetail := hrows }

/-- A write to any other table is not seen. -/
theorem SeatTables.unseen (hd : SeatTables db d) (h : createTable.Accepts db w)
    (hw : seatStatement db w = none) : SeatTables (createTable.written db w) d := by
  have hother : ∀ t ∈ [TableName.hall, .hallSeat, .session, .order, .orderDetail], w.table ≠ t := by
    intro t ht heq
    simp only [List.mem_cons, List.not_mem_nil, or_false] at ht
    unfold seatStatement at hw
    rw [heq] at hw
    rcases ht with rfl | rfl | rfl | rfl | rfl <;> exact absurd hw (by simp)
  simp only [List.forall_mem_cons] at hother
  obtain ⟨hhall, hseat, hsession, horder, hdetail, -⟩ := hother
  exact {
    sound := hd.sound.written createTable_wellFormed h
    hall := by
      rw [written_hall hd.sound hhall, ← hd.hall]
    hallSeat := by
      rw [written_hallSeat hd.sound hseat hhall, ← hd.hallSeat]
    session := by
      rw [written_session hd.sound hsession hhall, ← hd.session]
    order := by
      rw [written_order hd.sound horder hsession, ← hd.order]
    orderDetail := by
      rw [written_orderDetail hd.sound hdetail horder hseat, ← hd.orderDetail] }

/-- The writes are those of the five tables. -/
theorem seatTables_simulation :
    Lts.Simulation tables system seatStatement SeatTables where
  init := by
    intro db hdb
    obtain rfl : db = fun _ => [] := hdb
    exact ⟨{}, rfl, ⟨Schema.Sound.empty, rfl, rfl, rfl, rfl, rfl⟩⟩
  silent db d w db' hd hst hw := by
    obtain ⟨haccepts, rfl⟩ := Schema.execute_eq_some.mp hst
    exact hd.unseen haccepts hw
  visible db d w db' statement hd hst hw := by
    obtain ⟨haccepts, rfl⟩ := Schema.execute_eq_some.mp hst
    have hwritten : ∃ d', Executes d statement d' ∧ SeatTables (createTable.written db w) d' := by
      unfold seatStatement at hw
      split at hw <;> cases hw
      · exact hd.hallWritten haccepts ‹_›
      · exact hd.hallSeatWritten haccepts ‹_›
      · exact hd.sessionWritten haccepts ‹_›
      · exact hd.orderWritten haccepts ‹_›
      · exact hd.orderDetailWritten haccepts ‹_›
    obtain ⟨d', hexecutes, hd'⟩ := hwritten
    exact ⟨d', hexecutes.step, hd'⟩

/-- What is written to the 22 tables is, in these five, a run of `system`. -/
theorem seatTables_run {es : List (Edge (Rows TableName ColumnName Cell)
    (RowWrite TableName ColumnName Cell))} (h : tables.Run es db) :
    ∃ fs d, system.Run fs d ∧ SeatTables db d ∧
      fs.map Edge.act = Lts.labels seatStatement es :=
  seatTables_simulation.run h

theorem seatTables_oneBooking : ∃ es db, tables.Run es db ∧ ∃ fs d, system.Run fs d ∧
    SeatTables db d ∧ fs.map Edge.act = Lts.labels seatStatement es := by
  obtain ⟨db, hrun, -⟩ := run_oneBooking (P := fun _ => True) (by decide +kernel)
  exact ⟨_, db, hrun, seatTables_run hrun⟩

/-! ## Seats -/

/-- The references to seats are sound. -/
def SeatsKept (db : Rows TableName ColumnName Cell) : Prop :=
  SeatsSound ((db .hallSeat).map Row.hallSeat)
    (bookingsOf ((db .orderDetail).map Row.orderDetail) ((db .order).map Row.order)
      ((db .session).map Row.session))

instance : Decidable (SeatsKept db) := inferInstanceAs (Decidable (SeatsSound _ _))

theorem SeatTables.sound_iff (hd : SeatTables db d) : d.Sound ↔ SeatsKept db := by
  unfold Database.Sound SeatsKept bookings
  rw [hd.hallSeat, hd.orderDetail, hd.order, hd.session]

/-- The statement that a write is in the five tables meets its guard. -/
def KeepsSeats (db : Rows TableName ColumnName Cell) (w : RowWrite TableName ColumnName Cell) :
    Prop :=
  ∀ d, SeatTables db d → ∀ statement ∈ seatStatement db w, d.SeatGuard statement

theorem SeatTables.eq {d' : Database} (hd : SeatTables db d) (hd' : SeatTables db d') :
    d = d' := by
  have hrows : ∀ {ρ : Type} {keys : List (ρ → INT)} {t t' : Table keys},
      t.rows = t'.rows → t = t' := by
    rintro ρ keys ⟨rows, _⟩ ⟨_, _⟩ rfl
    rfl
  obtain ⟨hall, hallSeat, session, order, orderDetail⟩ := d
  obtain ⟨hall', hallSeat', session', order', orderDetail'⟩ := d'
  obtain rfl : hall = hall' := hrows (hd.hall.trans hd'.hall.symm)
  obtain rfl : hallSeat = hallSeat' := hrows (hd.hallSeat.trans hd'.hallSeat.symm)
  obtain rfl : session = session' := hrows (hd.session.trans hd'.session.symm)
  obtain rfl : order = order' := hrows (hd.order.trans hd'.order.symm)
  obtain rfl : orderDetail = orderDetail' := hrows (hd.orderDetail.trans hd'.orderDetail.symm)
  rfl

/-- One write to the 22 tables. -/
theorem seatsKept_step (hd : SeatTables db d) (hsound : d.Sound)
    {db' : Rows TableName ColumnName Cell} (hst : tables.step db w db') :
    SeatsKept db' ↔ KeepsSeats db w := by
  have hguard : KeepsSeats db w ↔ ∀ statement ∈ seatStatement db w, d.SeatGuard statement := by
    refine ⟨fun h => h d hd, fun h d' hd' => ?_⟩
    rwa [← hd.eq hd']
  rw [hguard]
  cases hw : seatStatement db w with
  | none =>
      have hsame := (seatTables_simulation.silent _ _ _ _ hd hst hw).sound_iff
      exact iff_of_true (hsame.mp hsound) nofun
  | some statement =>
      obtain ⟨d', hstep, hd'⟩ := seatTables_simulation.visible _ _ _ _ _ hd hst hw
      rw [← hd'.sound_iff, (executes_of_step hstep).sound_iff hsound]
      simp

/-- Throughout a run of the 22 tables the references to seats are sound precisely if
every write to the five meets its guard. -/
theorem seatsKept_iff {es : List (Edge (Rows TableName ColumnName Cell)
    (RowWrite TableName ColumnName Cell))} (h : tables.Run es db) :
    Lts.Throughout SeatsKept es db ↔ ∀ e ∈ es, KeepsSeats e.pre e.act := by
  refine h.always_iff (J := fun db => ∃ d, SeatTables db d ∧ d.Sound) ?_ ?_ ?_ ?_
  · intro db hdb
    obtain rfl : db = fun _ => [] := hdb
    exact ⟨{}, ⟨Schema.Sound.empty, rfl, rfl, rfl, rfl, rfl⟩, by decide⟩
  · intro db w db' hdb hst hguard
    obtain ⟨d, hd, hsound⟩ := hdb
    have hkept := (seatsKept_step hd hsound hst).mpr hguard
    cases hw : seatStatement db w with
    | none => exact ⟨d, seatTables_simulation.silent _ _ _ _ hd hst hw, hsound⟩
    | some statement =>
        obtain ⟨d', -, hd'⟩ := seatTables_simulation.visible _ _ _ _ _ hd hst hw
        exact ⟨d', hd', hd'.sound_iff.mpr hkept⟩
  · intro db hdb
    obtain ⟨d, hd, hsound⟩ := hdb
    exact hd.sound_iff.mp hsound
  · intro db w db' hdb hst hkept
    obtain ⟨d, hd, hsound⟩ := hdb
    exact (seatsKept_step hd hsound hst).mp hkept

theorem seatsKept_oneBooking : ∃ es db, tables.Run es db ∧
    ∀ e ∈ es, KeepsSeats e.pre e.act := by
  obtain ⟨db, hrun, hkept⟩ := run_oneBooking (P := SeatsKept) (by decide +kernel)
  exact ⟨_, db, hrun, (seatsKept_iff hrun).mp ⟨by decide +kernel, hkept⟩⟩

end Takeit.Database
