import Takeit.Database.CreateTable

/-!
# What every sequence of writes leaves

The checks on single rows keep all that `createTable` declares (`tables_sound`), and
what is written to one table takes no row from another (`rows_kept`). A column that
names a member has members' IDs only where a foreign key says so, and that is
everywhere but in `Order.Create_User` (`users_are_members_iff`).
-/

namespace Takeit.Database

open Takeit.Logic

variable {db : Rows TableName ColumnName Cell} {t : TableName} {c : ColumnName}

/-- Whatever is written to the 22 tables: values are such as their columns take, none
is null in a `NOT NULL` column, no key is there twice and no reference dangles. -/
theorem tables_sound (h : tables.Reachable db) : createTable.Sound db :=
  Schema.sound_of_reachable createTable_wellFormed h

/-- A seat is booked, and the member who has done it is deleted. -/
def oneBooking : List (RowWrite TableName ColumnName Cell) :=
  [{ table := .member, after := some [(.id, .int 1), (.account, .text "0912345678")] },
    { table := .hall
      after := some [(.id, .int 1), (.name, .text "A"), (.ticketPrice, .int 250),
        (.onShelf, .bit true), (.createUser, .int 1)] },
    { table := .hallSeat
      after := some [(.id, .int 1), (.hallId, .int 1), (.row, .int 1), (.column, .int 1)] },
    { table := .session
      after := some [(.id, .int 1), (.hallId, .int 1), (.period, .datetime "2017-07-01 10:00:00"),
        (.onShelf, .bit true)] },
    { table := .order
      after := some [(.id, .int 1), (.memberId, .int 1), (.sessionId, .int 1),
        (.createUser, .int 1)] },
    { table := .orderDetail
      after := some [(.id, .int 1), (.orderId, .int 1), (.hallSeatRow, .int 1),
        (.hallSeatColumn, .int 1), (.quantity, .int 1), (.qr, .blob [])] },
    { table := .member, before := some (.int 1) }]

/-- All of it is accepted. -/
theorem run_oneBooking {P : Rows TableName ColumnName Cell → Prop}
    (h : ∃ db ∈ Lts.runList createTable.execute (fun _ => []) oneBooking, P db) :
    ∃ db, tables.Run (Lts.trace createTable.execute (fun _ => []) oneBooking) db ∧ P db :=
  Lts.exists_run_trace rfl h

theorem tables_sound_oneBooking : ∃ db, tables.Reachable db ∧ createTable.Sound db := by
  obtain ⟨db, hrun, -⟩ := run_oneBooking (P := fun _ => True) (by decide +kernel)
  have hreachable : tables.Reachable db := ⟨_, hrun⟩
  exact ⟨db, hreachable, tables_sound hreachable⟩

/-- A write to one table takes no row from another, adds none and moves none. The rows
of a table are those its own inserts, updates and deletes have made, in their order; a
reference in them is null only if it was written so, or if a write since then has dropped
what it referred to. -/
theorem rows_kept {es : List (Edge (Rows TableName ColumnName Cell)
    (RowWrite TableName ColumnName Cell))} (h : tables.Run es db) (t : TableName) :
    db t = (createTable.entries t es).map (Schema.Entry.now createTable t) :=
  Schema.eq_entries createTable_wellFormed h t

/-- The hall has forgotten who made it. -/
theorem rows_kept_oneBooking : ∃ es db, tables.Run es db ∧
    (db .hall).map (· .createUser) = [none] ∧
    db .hall = (createTable.entries .hall es).map (Schema.Entry.now createTable .hall) := by
  obtain ⟨db, hrun, hforgot⟩ := run_oneBooking
    (P := fun db => (db .hall).map (· .createUser) = [none]) (by decide +kernel)
  exact ⟨_, db, hrun, hforgot, rows_kept hrun .hall⟩

/-! ## Members -/

/-- The columns that name a member. -/
def userColumns : List ColumnName := [.createUser, .modifyUser, .memberId, .sender, .receiver]

/-- All of them are references but one. -/
theorem references_member (hc : c ∈ userColumns)
    (hcolumn : c ∈ (createTable t).columns.map ColumnDef.name)
    (hdeclared : ¬ (t = .order ∧ c = .createUser)) :
    ⟨c, .member, .id⟩ ∈ (createTable t).foreignKeys := by
  have hall : ∀ c ∈ userColumns, c ∈ (createTable t).columns.map ColumnDef.name →
      ¬ (t = .order ∧ c = .createUser) → ⟨c, .member, .id⟩ ∈ (createTable t).foreignKeys := by
    cases t <;> decide
  exact hall c hc hcolumn hdeclared

/-- An order, and no member. -/
def strayOrder : List (RowWrite TableName ColumnName Cell) :=
  [{ table := .order, after := some [(.id, .int 1), (.createUser, .int 7)] }]

theorem exists_strayOrder : ∃ db, tables.Reachable db ∧
    ∃ r ∈ db .order, r .createUser ≠ none ∧ r .createUser ∉ (db .member).map (· .id) := by
  have hlast : ∃ db ∈ Lts.runList createTable.execute (fun _ => []) strayOrder, ∃ r ∈ db .order,
      r .createUser ≠ none ∧ r .createUser ∉ (db .member).map (· .id) := by
    decide +kernel
  obtain ⟨db, hdb, hstray⟩ := hlast
  exact ⟨db, ⟨_, Lts.run_trace rfl hdb⟩, hstray⟩

/-- A column that names a member has IDs of members only, in all that can be
written, precisely if it is not the one of `Order` without a foreign key. -/
theorem users_are_members_iff (hc : c ∈ userColumns)
    (hcolumn : c ∈ (createTable t).columns.map ColumnDef.name) :
    (∀ db, tables.Reachable db → ∀ r ∈ db t, r c ≠ none → r c ∈ (db .member).map (· .id)) ↔
      ¬ (t = .order ∧ c = .createUser) := by
  constructor
  · intro hmembers hstray
    obtain ⟨rfl, rfl⟩ := hstray
    obtain ⟨db, hreachable, r, hr, hset, hnone⟩ := exists_strayOrder
    exact hnone (hmembers db hreachable r hr hset)
  · intro hdeclared db hreachable r hr hset
    have hsound := Schema.sound_of_reachable createTable_wellFormed hreachable
    exact hsound.refers t ⟨c, .member, .id⟩ (references_member hc hcolumn hdeclared) r hr hset

/-- The sender of a message is one of the columns with a foreign key. -/
theorem users_are_members_message :
    (∀ db, tables.Reachable db → ∀ r ∈ db .message, r .sender ≠ none →
      r .sender ∈ (db .member).map (· .id)) ↔
      ¬ (TableName.message = .order ∧ ColumnName.sender = .createUser) :=
  users_are_members_iff (t := .message) (c := .sender) (by decide) (by decide)

end Takeit.Database
