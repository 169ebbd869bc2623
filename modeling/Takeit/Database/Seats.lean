import Takeit.Database.Schema

/-!
# Seats booked through the tables

A row of `Order_Detail` names a row number and a column number, each of them a
reference of its own, and the hall they are meant in is the one of the session of
its order. Nothing in the schema relates the three. `sound_iff_guard` says what a
statement has to look at so that every booking has its seat and no seat of a session
is booked twice, and `sound_iff_harmful_guard` which statements need not look.
-/

namespace Takeit.Database

open Takeit.Logic

/-! ## Bookings -/

/-- A detail with both numbers, of an order for a session with a hall. -/
structure Booking where
  detail : INT
  session : INT
  hall : INT
  row : INT
  column : INT
deriving DecidableEq

/-- What the detail books, if it belongs to the order and that to the session. -/
def OrderDetail.booking (d : OrderDetail) (o : Order) (s : Session) : Option Booking :=
  if d.orderId = some o.id ∧ o.sessionId = some s.id then do
    let hall ← s.hallId
    let row ← d.hallSeatRow
    let column ← d.hallSeatColumn
    some { detail := d.id, session := s.id, hall, row, column }
  else none

/-- The bookings the rows make up together. -/
def bookingsOf (details : List OrderDetail) (orders : List Order) (sessions : List Session) :
    List Booking :=
  details.flatMap fun d => orders.flatMap fun o => sessions.filterMap (d.booking o)

def bookings (db : Database) : List Booking :=
  bookingsOf db.orderDetail.rows db.order.rows db.session.rows

/-- There is a seat of the hall with this row and this column. -/
def Booking.HasSeat (b : Booking) (seats : List HallSeat) : Prop :=
  ∃ seat ∈ seats, seat.hallId = some b.hall ∧ seat.row = b.row ∧ seat.column = b.column

/-- The same seat of the same session, booked by another detail. -/
def Booking.Clashes (b b' : Booking) : Prop :=
  b.session = b'.session ∧ b.row = b'.row ∧ b.column = b'.column ∧ b.detail ≠ b'.detail

instance (b : Booking) (seats : List HallSeat) : Decidable (b.HasSeat seats) :=
  inferInstanceAs (Decidable (∃ seat ∈ seats, _))

instance (b b' : Booking) : Decidable (b.Clashes b') := inferInstanceAs (Decidable (_ ∧ _))

/-- Every booking has its seat, and no two are for the same one. -/
structure SeatsSound (seats : List HallSeat) (bookings : List Booking) : Prop where
  seated : ∀ b ∈ bookings, b.HasSeat seats
  once : ∀ b ∈ bookings, ∀ b' ∈ bookings, ¬ b.Clashes b'

instance (seats : List HallSeat) (bookings : List Booking) : Decidable (SeatsSound seats bookings) :=
  decidable_of_iff ((∀ b ∈ bookings, b.HasSeat seats) ∧
      ∀ b ∈ bookings, ∀ b' ∈ bookings, ¬ b.Clashes b')
    ⟨fun h => ⟨h.1, h.2⟩, fun h => ⟨h.seated, h.once⟩⟩

/-- The references to seats are sound. -/
def Sound (db : Database) : Prop := SeatsSound db.hallSeat.rows db.bookings

instance (db : Database) : Decidable db.Sound := inferInstanceAs (Decidable (SeatsSound _ _))

/-! ## What a statement has to look at -/

/-- Bookings come to those that are kept: each has its seat, and none clashes. -/
def Fits (seats : List HallSeat) (kept brought : List Booking) : Prop :=
  ∀ b ∈ brought, b.HasSeat seats ∧ ∀ b' ∈ brought ++ kept, ¬ b.Clashes b'

instance (seats : List HallSeat) (kept brought : List Booking) : Decidable (Fits seats kept brought) :=
  inferInstanceAs (Decidable (∀ b ∈ brought, _ ∧ ∀ b' ∈ brought ++ kept, ¬ b.Clashes b'))

/-- The bookings through the row that is written fit to the bookings through the
others; and a seat that keeps its numbers moves to another hall only if it is not
booked. -/
def SeatGuard (db : Database) : Statement → Prop
  | .hall _ => True
  | .hallSeat w => ∀ seat ∈ w.before, ∀ seat' ∈ w.after,
      seat'.row = seat.row → seat'.column = seat.column → seat'.hallId ≠ seat.hallId →
      ∀ b ∈ db.bookings, ¬ (b.row = seat.row ∧ b.column = seat.column)
  | .session w => Fits db.hallSeat.rows
      (bookingsOf db.orderDetail.rows db.order.rows (db.session.rest w))
      (bookingsOf db.orderDetail.rows db.order.rows w.after.toList)
  | .order w => Fits db.hallSeat.rows
      (bookingsOf db.orderDetail.rows (db.order.rest w) db.session.rows)
      (bookingsOf db.orderDetail.rows w.after.toList db.session.rows)
  | .orderDetail w => Fits db.hallSeat.rows
      (bookingsOf (db.orderDetail.rest w) db.order.rows db.session.rows)
      (bookingsOf w.after.toList db.order.rows db.session.rows)

instance (db : Database) : ∀ statement, Decidable (db.SeatGuard statement)
  | .hall _ => inferInstanceAs (Decidable True)
  | .hallSeat w => inferInstanceAs (Decidable (∀ seat ∈ w.before, ∀ seat' ∈ w.after,
      seat'.row = seat.row → seat'.column = seat.column → seat'.hallId ≠ seat.hallId →
      ∀ b ∈ db.bookings, ¬ (b.row = seat.row ∧ b.column = seat.column)))
  | .session _ | .order _ | .orderDetail _ => inferInstanceAs (Decidable (Fits _ _ _))

/-! ## Rules about bookings -/

section Rules

variable {seats seats' : List HallSeat} {bs bs' kept brought : List Booking} {b : Booking}
  {d : OrderDetail} {o : Order} {s : Session} {ds ds' : List OrderDetail} {os os' : List Order}
  {ss ss' : List Session}

theorem OrderDetail.booking_eq_some : d.booking o s = some b ↔
    d.orderId = some o.id ∧ o.sessionId = some s.id ∧ s.hallId = some b.hall ∧
      d.hallSeatRow = some b.row ∧ d.hallSeatColumn = some b.column ∧ d.id = b.detail ∧
      s.id = b.session := by
  obtain ⟨detail, session, hall, row, column⟩ := b
  simp only [booking, Option.ite_none_right_eq_some, Option.bind_eq_bind, Option.bind_eq_some_iff,
    Option.some.injEq, Booking.mk.injEq]
  constructor
  · rintro ⟨⟨horder, hsession⟩, hall, hhall, row, hrow, column, hcolumn, rfl, rfl, rfl, rfl, rfl⟩
    exact ⟨horder, hsession, hhall, hrow, hcolumn, rfl, rfl⟩
  · rintro ⟨horder, hsession, hhall, hrow, hcolumn, rfl, rfl⟩
    exact ⟨⟨horder, hsession⟩, hall, hhall, row, hrow, column, hcolumn, rfl, rfl, rfl, rfl, rfl⟩

theorem mem_bookingsOf : b ∈ bookingsOf ds os ss ↔
    ∃ d ∈ ds, ∃ o ∈ os, ∃ s ∈ ss, d.booking o s = some b := by
  simp only [bookingsOf, List.mem_flatMap, List.mem_filterMap]

/-- Fewer rows make up no other bookings. -/
theorem bookingsOf_mono (hds : ∀ d ∈ ds, d ∈ ds') (hos : ∀ o ∈ os, o ∈ os')
    (hss : ∀ s ∈ ss, s ∈ ss') (hb : b ∈ bookingsOf ds os ss) : b ∈ bookingsOf ds' os' ss' := by
  obtain ⟨d, hd, o, ho, s, hs, hbooking⟩ := mem_bookingsOf.mp hb
  exact mem_bookingsOf.mpr ⟨d, hds d hd, o, hos o ho, s, hss s hs, hbooking⟩

theorem SeatsSound.of_subset (h : SeatsSound seats bs) (hsub : ∀ b ∈ bs', b ∈ bs)
    (hseats : ∀ b ∈ bs', b.HasSeat seats → b.HasSeat seats') : SeatsSound seats' bs' where
  seated b hb := hseats b hb (h.seated b (hsub b hb))
  once b hb b' hb' := h.once b (hsub b hb) b' (hsub b' hb')

theorem seatsSound_congr (h : ∀ b, b ∈ bs ↔ b ∈ bs') : SeatsSound seats bs ↔ SeatsSound seats bs' :=
  ⟨fun hs => hs.of_subset (fun b => (h b).mpr) fun _ _ => id,
    fun hs => hs.of_subset (fun b => (h b).mp) fun _ _ => id⟩

/-- What comes to sound bookings keeps them sound precisely if it fits. -/
theorem seatsSound_append (h : SeatsSound seats kept) :
    SeatsSound seats (brought ++ kept) ↔ Fits seats kept brought := by
  constructor
  · intro hs b hb
    have hb := List.mem_append_left kept hb
    exact ⟨hs.seated b hb, hs.once b hb⟩
  · intro hfits
    constructor
    · intro b hb
      rcases List.mem_append.mp hb with hb | hb
      · exact (hfits b hb).1
      · exact h.seated b hb
    · intro b hb b' hb' hclash
      rcases List.mem_append.mp hb with hbrought | hkept
      · exact (hfits b hbrought).2 b' hb' hclash
      · rcases List.mem_append.mp hb' with hbrought' | hkept'
        · obtain ⟨hsession, hrow, hcolumn, hdetail⟩ := hclash
          exact (hfits b' hbrought').2 b hb
            ⟨hsession.symm, hrow.symm, hcolumn.symm, hdetail.symm⟩
        · exact h.once b hkept b' hkept' hclash

/-! ### Rows that are added, and references set to null -/

theorem mem_bookingsOf_append_sessions : b ∈ bookingsOf ds os (ss ++ ss') ↔
    b ∈ bookingsOf ds os ss ++ bookingsOf ds os ss' := by
  simp only [List.mem_append, mem_bookingsOf, or_and_right, and_or_left, exists_or]

theorem mem_bookingsOf_append_orders : b ∈ bookingsOf ds (os ++ os') ss ↔
    b ∈ bookingsOf ds os ss ++ bookingsOf ds os' ss := by
  simp only [List.mem_append, mem_bookingsOf, or_and_right, and_or_left, exists_or]

theorem mem_bookingsOf_append_details : b ∈ bookingsOf (ds ++ ds') os ss ↔
    b ∈ bookingsOf ds os ss ++ bookingsOf ds' os ss := by
  simp only [List.mem_append, mem_bookingsOf, or_and_right, exists_or]

/-- Rows that are changed so that some bookings go. -/
theorem mem_bookingsOf_map {f : OrderDetail → OrderDetail} {g : Order → Order}
    {h : Session → Session} {p : Prop}
    (hrow : ∀ d, ∀ o ∈ os, ∀ s ∈ ss,
      ((f d).booking (g o) (h s) = some b ↔ d.booking o s = some b ∧ p)) :
    b ∈ bookingsOf (ds.map f) (os.map g) (ss.map h) ↔ b ∈ bookingsOf ds os ss ∧ p := by
  simp only [mem_bookingsOf, List.mem_map, exists_exists_and_eq_and]
  constructor
  · rintro ⟨d, hd, o, ho, s, hs, hbooking⟩
    obtain ⟨hbooking, hp⟩ := (hrow d o ho s hs).mp hbooking
    exact ⟨⟨d, hd, o, ho, s, hs, hbooking⟩, hp⟩
  · rintro ⟨⟨d, hd, o, ho, s, hs, hbooking⟩, hp⟩
    exact ⟨d, hd, o, ho, s, hs, (hrow d o ho s hs).mpr ⟨hbooking, hp⟩⟩

/-- A reference to no session books nothing. -/
theorem mem_bookingsOf_setSessionNull {session : Option INT} (h : ∀ s ∈ ss, session ≠ some s.id) :
    b ∈ bookingsOf ds (os.map (Order.setSessionNull session)) ss ↔ b ∈ bookingsOf ds os ss := by
  have hnull : b ∈ bookingsOf (ds.map id) (os.map (Order.setSessionNull session)) (ss.map id) ↔
      b ∈ bookingsOf ds os ss ∧ True := mem_bookingsOf_map fun d o _ s hs => by
    simp only [OrderDetail.booking_eq_some, Order.setSessionNull, setNull_eq_some, id_eq,
      and_iff_left (h s hs), and_true]
  rwa [List.map_id, List.map_id, and_true] at hnull

/-- A reference to no order books nothing. -/
theorem mem_bookingsOf_setOrderNull {order : Option INT} (h : ∀ o ∈ os, order ≠ some o.id) :
    b ∈ bookingsOf (ds.map (OrderDetail.setOrderNull order)) os ss ↔ b ∈ bookingsOf ds os ss := by
  have hnull : b ∈ bookingsOf (ds.map (OrderDetail.setOrderNull order)) (os.map id) (ss.map id) ↔
      b ∈ bookingsOf ds os ss ∧ True := mem_bookingsOf_map fun d o ho s _ => by
    simp only [OrderDetail.booking_eq_some, OrderDetail.setOrderNull, setNull_eq_some, id_eq,
      and_iff_left (h o ho), and_true]
  rwa [List.map_id, List.map_id, and_true] at hnull

/-- The sessions lose the bookings in the hall that is dropped. -/
theorem mem_bookingsOf_setHallNull {hall : Option INT} :
    b ∈ bookingsOf ds os (ss.map (Session.setHallNull hall)) ↔
      b ∈ bookingsOf ds os ss ∧ hall ≠ some b.hall := by
  have hnull : b ∈ bookingsOf (ds.map id) (os.map id) (ss.map (Session.setHallNull hall)) ↔
      b ∈ bookingsOf ds os ss ∧ hall ≠ some b.hall := mem_bookingsOf_map fun d o _ s _ => by
    simp only [OrderDetail.booking_eq_some, Session.setHallNull, setNull_eq_some, id_eq]
    tauto
  rwa [List.map_id, List.map_id] at hnull

/-- The details lose the bookings in the row and in the column that are dropped. -/
theorem mem_bookingsOf_setSeatNull {row column : Option INT} :
    b ∈ bookingsOf (ds.map (OrderDetail.setSeatNull row column)) os ss ↔
      b ∈ bookingsOf ds os ss ∧ row ≠ some b.row ∧ column ≠ some b.column := by
  have hnull : b ∈ bookingsOf (ds.map (OrderDetail.setSeatNull row column)) (os.map id)
      (ss.map id) ↔ b ∈ bookingsOf ds os ss ∧ row ≠ some b.row ∧ column ≠ some b.column :=
    mem_bookingsOf_map fun d o _ s _ => by
      simp only [OrderDetail.booking_eq_some, OrderDetail.setSeatNull, setNull_eq_some, id_eq]
      tauto
  rwa [List.map_id, List.map_id] at hnull

end Rules

/-! ## Which statements keep the bookings sound -/

variable {db db' : Database} {statement : Statement}

/-- A change of the halls keeps them sound: the seats of a hall that goes, and the
sessions in it, lose it together. -/
theorem sound_hall {w : Write Hall} (hsound : db.Sound) :
    SeatsSound (db.hallSeat.rows.map (HallSeat.setHallNull (w.dropped Hall.id)))
      (bookingsOf db.orderDetail.rows db.order.rows
        (db.session.rows.map (Session.setHallNull (w.dropped Hall.id)))) := by
  refine hsound.of_subset (fun b hb => (mem_bookingsOf_setHallNull.mp hb).1) fun b hb hseat => ?_
  obtain ⟨-, hhall⟩ := mem_bookingsOf_setHallNull.mp hb
  obtain ⟨seat, hmem, hseatHall, hplace⟩ := hseat
  exact ⟨_, List.mem_map_of_mem hmem, setNull_eq_some.mpr ⟨hseatHall, hhall⟩, hplace⟩

/-- The bookings that a change of the seats leaves are sound precisely if a seat
with the same numbers is not booked or stays in its hall. -/
theorem sound_hallSeat_iff {w : Write HallSeat} (hsound : db.Sound)
    {t : Table [HallSeat.id, HallSeat.row, HallSeat.column]} (hwrite : db.hallSeat.write w = some t) :
    SeatsSound t.rows (bookingsOf (db.orderDetail.rows.map
        (OrderDetail.setSeatNull (w.dropped HallSeat.row) (w.dropped HallSeat.column)))
      db.order.rows db.session.rows) ↔ db.SeatGuard (.hallSeat w) := by
  have hrow : HallSeat.row ∈ [HallSeat.id, HallSeat.row, HallSeat.column] := by simp
  constructor
  · intro hs seat hbefore seat' hafter hsameRow hsameColumn hmoved b hb ⟨hbRow, hbColumn⟩
    have hold := (Table.accepts_of_write hwrite).1 seat hbefore
    -- the booking is still there: neither number is dropped
    have hstays := hs.seated b (mem_bookingsOf_setSeatNull.mpr ⟨hb, fun hdropped => ?_,
      fun hdropped => ?_⟩)
    · obtain ⟨seat₁, hmem₁, hhall₁, hrow₁, -⟩ := hsound.seated b hb
      obtain rfl := db.hallSeat.eq_of_key hrow hmem₁ hold (hrow₁.trans hbRow)
      obtain ⟨seat₂, hmem₂, hhall₂, hrow₂, -⟩ := hstays
      rw [Table.rows_of_write hwrite, List.mem_append, Option.mem_toList] at hmem₂
      rcases hmem₂ with hnew | hrest
      · obtain rfl := Option.some.inj (hafter.symm.trans hnew)
        exact hmoved (hhall₂.trans hhall₁.symm)
      · obtain ⟨hmem₂, hother⟩ := Table.mem_rest.mp hrest
        obtain rfl := db.hallSeat.eq_of_key hrow hmem₂ hold (hrow₂.trans hbRow)
        exact hother hbefore
    · refine (Write.dropped_eq_some.mp hdropped).2 ?_
      rw [hafter, Option.map_some, hsameRow, hbRow]
    · refine (Write.dropped_eq_some.mp hdropped).2 ?_
      rw [hafter, Option.map_some, hsameColumn, hbColumn]
  · intro hguard
    refine hsound.of_subset (fun b hb => (mem_bookingsOf_setSeatNull.mp hb).1) fun b hb hseat => ?_
    obtain ⟨hb, hkeptRow, hkeptColumn⟩ := mem_bookingsOf_setSeatNull.mp hb
    obtain ⟨seat, hmem, hhall, hseatRow, hseatColumn⟩ := hseat
    unfold Booking.HasSeat
    rw [Table.rows_of_write hwrite]
    by_cases hbefore : w.before = some seat
    · -- the seat is written anew with both of its numbers
      obtain ⟨seat', hafter, hsameRow⟩ := Option.map_eq_some_iff.mp
        (Write.map_after_of_not_dropped hbefore (hseatRow ▸ hkeptRow))
      have hsameColumn := Write.map_after_of_not_dropped hbefore (hseatColumn ▸ hkeptColumn)
      rw [hafter, Option.map_some, Option.some.injEq] at hsameColumn
      have hstays : seat'.hallId = seat.hallId := by
        by_contra hmoved
        exact hguard seat hbefore seat' hafter hsameRow hsameColumn hmoved b hb
          ⟨hseatRow.symm, hseatColumn.symm⟩
      exact ⟨seat', List.mem_append_left _ (Option.mem_toList.mpr hafter), hstays.trans hhall,
        hsameRow.trans hseatRow, hsameColumn.trans hseatColumn⟩
    · exact ⟨seat, List.mem_append_right _ (Table.mem_rest.mpr ⟨hmem, hbefore⟩), hhall, hseatRow,
        hseatColumn⟩

/-- A statement keeps the bookings sound precisely if it meets its guard. -/
theorem Executes.sound_iff (h : Executes db statement db') (hsound : db.Sound) :
    db'.Sound ↔ db.SeatGuard statement := by
  cases h with
  | hall hwrite => exact iff_of_true (sound_hall hsound) trivial
  | hallSeat hhall hwrite => exact sound_hallSeat_iff hsound hwrite
  | @session w session hhall hwrite =>
      refine (seatsSound_congr fun b => ?_).trans (seatsSound_append <|
        hsound.of_subset (fun _ => bookingsOf_mono (fun _ => id) (fun _ => id)
          fun _ hs => (Table.mem_rest.mp hs).1) fun _ _ => id)
      show b ∈ bookingsOf _ (db.order.rows.map _) session.rows ↔ _
      rw [mem_bookingsOf_setSessionNull fun s hs =>
        Table.ne_dropped_of_write hwrite List.mem_cons_self hs, Table.rows_of_write hwrite]
      exact mem_bookingsOf_append_sessions
  | @order w order hsession hwrite =>
      refine (seatsSound_congr fun b => ?_).trans (seatsSound_append <|
        hsound.of_subset (fun _ => bookingsOf_mono (fun _ => id)
          (fun _ ho => (Table.mem_rest.mp ho).1) fun _ => id) fun _ _ => id)
      show b ∈ bookingsOf (db.orderDetail.rows.map _) order.rows _ ↔ _
      rw [mem_bookingsOf_setOrderNull fun o ho =>
        Table.ne_dropped_of_write hwrite List.mem_cons_self ho, Table.rows_of_write hwrite]
      exact mem_bookingsOf_append_orders
  | @orderDetail w orderDetail _ _ _ hwrite =>
      refine (seatsSound_congr fun b => ?_).trans (seatsSound_append <|
        hsound.of_subset (fun _ => bookingsOf_mono (fun _ hd => (Table.mem_rest.mp hd).1)
          (fun _ => id) fun _ => id) fun _ _ => id)
      show b ∈ bookingsOf orderDetail.rows _ _ ↔ _
      rw [Table.rows_of_write hwrite]
      exact mem_bookingsOf_append_details

/-- What a statement that has nothing to look at may do: it deletes a row, adds one
that nothing refers to yet, or changes the halls. -/
def Statement.Harmless : Statement → Prop
  | .hall _ => True
  | .hallSeat w => w.before = none ∨ w.after = none
  | .session w => w.before.map Session.id ≠ w.after.map Session.id
  | .order w => w.before.map Order.id ≠ w.after.map Order.id
  | .orderDetail w => w.after = none

instance : ∀ statement : Statement, Decidable statement.Harmless
  | .hall _ => inferInstanceAs (Decidable True)
  | .hallSeat _ => inferInstanceAs (Decidable (_ ∨ _))
  | .session _ | .order _ => inferInstanceAs (Decidable (_ ≠ _))
  | .orderDetail _ => inferInstanceAs (Decidable (_ = _))

/-- No booking goes through a row that has a new key. -/
theorem seatGuard_of_harmless (hdb : db.Referenced) (h : Executes db statement db')
    (hharmless : statement.Harmless) : db.SeatGuard statement := by
  cases h with
  | hall _ => trivial
  | hallSeat _ _ =>
      intro seat hbefore seat' hafter
      rcases hharmless with hinsert | hdelete
      · exact absurd (hinsert.symm.trans hbefore) (by simp)
      · exact absurd (hdelete.symm.trans hafter) (by simp)
  | @session w session _ hwrite =>
      intro b hb
      obtain ⟨d, hd, o, ho, s', hs', hbooking⟩ := mem_bookingsOf.mp hb
      obtain ⟨-, hsession, -⟩ := OrderDetail.booking_eq_some.mp hbooking
      obtain ⟨s, hs, heq⟩ := List.mem_map.mp (hdb.sessionOfOrder o ho _ hsession)
      have hafter := Option.mem_toList.mp hs'
      have hbefore := Table.before_eq_of_key hwrite List.mem_cons_self hafter hs heq
      exact absurd (by rw [hbefore, hafter, Option.map_some, Option.map_some, heq]) hharmless
  | @order w order _ hwrite =>
      intro b hb
      obtain ⟨d, hd, o', ho', s, hs, hbooking⟩ := mem_bookingsOf.mp hb
      obtain ⟨horder, -⟩ := OrderDetail.booking_eq_some.mp hbooking
      obtain ⟨o, ho, heq⟩ := List.mem_map.mp (hdb.orderOfDetail d hd _ horder)
      have hafter := Option.mem_toList.mp ho'
      have hbefore := Table.before_eq_of_key hwrite List.mem_cons_self hafter ho heq
      exact absurd (by rw [hbefore, hafter, Option.map_some, Option.map_some, heq]) hharmless
  | @orderDetail w _ _ _ _ _ =>
      have hdelete : w.after = none := hharmless
      intro b hb
      rw [hdelete] at hb
      exact absurd hb List.not_mem_nil

/-- **Seats.** Throughout a run the references to seats are sound precisely if
every statement meets its guard. -/
theorem sound_iff_guard {es : List (Edge Database Statement)} (h : system.Run es db) :
    Lts.Throughout Sound es db ↔ ∀ e ∈ es, e.pre.SeatGuard e.act :=
  h.always_iff (J := Sound)
    (by rintro _ rfl; decide)
    (fun _ _ _ hsound hst => ((executes_of_step hst).sound_iff hsound).mpr)
    (fun _ hsound => hsound)
    (fun _ _ _ hsound hst => ((executes_of_step hst).sound_iff hsound).mp)

/-- A hall with two seats, and two orders for a session in it. -/
def twoSeats : List Statement :=
  [.hall (.insert { id := 1 }),
    .hallSeat (.insert { id := 1, hallId := some 1, row := 1, column := 1 }),
    .hallSeat (.insert { id := 2, hallId := some 1, row := 2, column := 2 }),
    .session (.insert { id := 1, hallId := some 1 }),
    .order (.insert { id := 1, sessionId := some 1 }),
    .order (.insert { id := 2, sessionId := some 1 }),
    .orderDetail <| .insert
      { id := 1, orderId := some 1, hallSeatRow := some 1, hallSeatColumn := some 1 }]

/-- The second order books the second seat, and the first seat is taken away. -/
def booked : List Statement := twoSeats ++
  [.orderDetail <| .insert
      { id := 2, orderId := some 2, hallSeatRow := some 2, hallSeatColumn := some 2 },
    .hallSeat (.delete { id := 1, hallId := some 1, row := 1, column := 1 })]

theorem sound_booked : ∃ db, system.Run (Lts.trace execute {} booked) db ∧
    Lts.Throughout Sound (Lts.trace execute {} booked) db := by
  have hlast : ∃ db ∈ Lts.runList execute {} booked, True := by decide +kernel
  obtain ⟨db, hdb, -⟩ := hlast
  have hrun : system.Run (Lts.trace execute {} booked) db := Lts.run_trace rfl hdb
  exact ⟨db, hrun, (sound_iff_guard hrun).mpr (by decide +kernel)⟩

/-- Throughout a run they are sound precisely if every statement that is not harmless
meets its guard, whatever deletes, new seats, new or renumbered orders and sessions and
changes of halls there are in between. -/
theorem sound_iff_harmful_guard {es : List (Edge Database Statement)} (h : system.Run es db) :
    Lts.Throughout Sound es db ↔ ∀ e ∈ es, ¬ e.act.Harmless → e.pre.SeatGuard e.act := by
  refine h.always_iff (J := fun db => db.Referenced ∧ db.Sound)
    (G := fun db statement => ¬ statement.Harmless → db.SeatGuard statement) ?_ ?_
    (fun _ hdb => hdb.2) ?_
  · rintro _ rfl
    exact ⟨referenced_of_reachable ⟨[], .start rfl⟩, by decide⟩
  · rintro db statement db' ⟨hreferenced, hsound⟩ hst hguard
    have hexec := executes_of_step hst
    refine ⟨hexec.referenced hreferenced, (hexec.sound_iff hsound).mpr ?_⟩
    by_cases hharmless : statement.Harmless
    · exact seatGuard_of_harmless hreferenced hexec hharmless
    · exact hguard hharmless
  · rintro db statement db' ⟨-, hsound⟩ hst hsound' -
    exact ((executes_of_step hst).sound_iff hsound).mp hsound'

/-- Then the first order is renumbered, and its detail is left without an order. -/
def renumbered : List Statement := booked ++
  [.order (.update { id := 1, sessionId := some 1 } { id := 3, sessionId := some 1 })]

theorem sound_renumbered : ∃ db, system.Run (Lts.trace execute {} renumbered) db ∧
    db.bookings.length = 1 ∧ Lts.Throughout Sound (Lts.trace execute {} renumbered) db := by
  have hlast : ∃ db ∈ Lts.runList execute {} renumbered, db.bookings.length = 1 := by
    decide +kernel
  obtain ⟨db, hdb, hone⟩ := hlast
  have hrun : system.Run (Lts.trace execute {} renumbered) db := Lts.run_trace rfl hdb
  exact ⟨db, hrun, hone, (sound_iff_harmful_guard hrun).mpr (by decide +kernel)⟩

/-- The row of the one seat and the column of the other. -/
def crossed : List Statement := twoSeats ++
  [.orderDetail <| .insert
      { id := 2, orderId := some 2, hallSeatRow := some 1, hallSeatColumn := some 2 }]

/-- The first seat once more. -/
def bookedTwice : List Statement := twoSeats ++
  [.orderDetail <| .insert
      { id := 2, orderId := some 2, hallSeatRow := some 1, hallSeatColumn := some 1 }]

/-- The session is moved to a hall without seats. -/
def movedHall : List Statement := twoSeats ++
  [.hall (.insert { id := 2 }),
    .session (.update { id := 1, hallId := some 1 } { id := 1, hallId := some 2 })]

/-- Statements that are accepted, and end with a reference that is not sound. -/
theorem exists_violation {statements : List Statement}
    (h : ∃ db ∈ Lts.runList execute {} statements, ¬ db.Sound) :
    ∃ db, system.Run (Lts.trace execute {} statements) db ∧ ¬ db.Sound :=
  Lts.exists_run_trace rfl h

theorem sound_violated :
    (∃ db, system.Run (Lts.trace execute {} crossed) db ∧ ¬ db.Sound) ∧
    (∃ db, system.Run (Lts.trace execute {} bookedTwice) db ∧ ¬ db.Sound) ∧
    ∃ db, system.Run (Lts.trace execute {} movedHall) db ∧ ¬ db.Sound :=
  ⟨exists_violation (by decide +kernel), exists_violation (by decide +kernel),
    exists_violation (by decide +kernel)⟩

end Takeit.Database
