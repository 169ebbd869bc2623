import Mathlib.Data.List.Perm.Basic
import Takeit.Database.Schema

/-!
# Seats of halls

One row of `Hall_Seat` is inserted for every seat there is to be. Its two unique
indexes are about the numbers alone: `insertSeats_accepted_iff` says which seats
can be in the table together, whatever halls they are in.
-/

namespace Takeit.Database

open Takeit.Logic

/-- Where a seat is. -/
structure Position where
  hall : INT
  row : INT
  column : INT
deriving DecidableEq

def HallSeat.position (seat : HallSeat) : Option Position :=
  seat.hallId.map fun hall => { hall, row := seat.row, column := seat.column }

/-- The rows are inserted, one after the other. -/
def insertSeats (db : Database) (seats : List HallSeat) : Option Database :=
  Lts.runList execute db (seats.map fun seat => .hallSeat (.insert seat))

/-- One row for every position, in any order, and with IDs of their own as
`AUTO_INCREMENT` gives them. -/
structure OneRowEach (db : Database) (positions : List Position) (seats : List HallSeat) : Prop where
  position : (seats.map HallSeat.position).Perm (positions.map some)
  id : (seats.map HallSeat.id ++ db.hallSeat.rows.map HallSeat.id).Nodup

variable {db db' : Database} {seats : List HallSeat} {positions : List Position}

/-- A row of `Hall_Seat` comes if its hall is there and no key has its value. -/
theorem exists_execute_insert {seat : HallSeat}
    (hhall : References HallSeat.hallId [seat] Hall.id db.hall.rows)
    (hkeys : db.hallSeat.Accepts (.insert seat)) :
    ∃ db', db.execute (.hallSeat (.insert seat)) = some db' := by
  obtain ⟨t, hwrite⟩ := Option.isSome_iff_exists.mp (Table.isSome_write_iff.mpr hkeys)
  exact ⟨_, (Executes.hallSeat (w := .insert seat) hhall hwrite).step⟩

/-- It is the only one that comes, and the halls stay. -/
theorem of_execute_insert {seat : HallSeat}
    (h : db.execute (.hallSeat (.insert seat)) = some db') :
    References HallSeat.hallId [seat] Hall.id db.hall.rows ∧
      db.hallSeat.Accepts (.insert seat) ∧ db'.hall = db.hall ∧
      db'.hallSeat.rows = seat :: db.hallSeat.rows := by
  cases executes_of_step h with
  | hallSeat hhall hwrite =>
      refine ⟨hhall, Table.accepts_of_write hwrite, rfl, ?_⟩
      exact (Table.rows_of_write hwrite).trans (congrArg _ Table.rest_insert)

/-- Rows are accepted together precisely if their halls are there and no key has a
value twice. -/
theorem isSome_insertSeats_iff : (db.insertSeats seats).isSome = true ↔
    References HallSeat.hallId seats Hall.id db.hall.rows ∧
      ∀ key ∈ [HallSeat.id, HallSeat.row, HallSeat.column],
        (seats.map key ++ db.hallSeat.rows.map key).Nodup := by
  induction seats generalizing db with
  | nil => exact iff_of_true rfl ⟨.nil, db.hallSeat.unique⟩
  | cons seat rest ih =>
      have hcons : db.insertSeats (seat :: rest) =
          (db.execute (.hallSeat (.insert seat))).bind (insertSeats · rest) := rfl
      -- the first seat is in the table when the others come
      have hkey : ∀ (key : HallSeat → INT) (rows : List HallSeat),
          ((seat :: rest).map key ++ rows.map key).Nodup ↔
            (rest.map key ++ (seat :: rows).map key).Nodup := by
        intro key rows
        rw [List.map_cons, List.cons_append, List.map_cons, List.nodup_middle]
      simp only [hkey, hcons]
      constructor
      · intro h
        cases hexec : db.execute (.hallSeat (.insert seat)) with
        | none => exact absurd h (by simp [hexec])
        | some db' =>
            obtain ⟨hhall, -, hhalls, hrows⟩ := of_execute_insert hexec
            rw [hexec, Option.bind_some, ih, hhalls, hrows] at h
            refine ⟨fun c hc => ?_, h.2⟩
            rcases List.mem_cons.mp hc with rfl | hc
            · exact hhall c List.mem_cons_self
            · exact h.1 c hc
      · rintro ⟨hrefs, hnodup⟩
        have hhall : References HallSeat.hallId [seat] Hall.id db.hall.rows := fun c hc =>
          hrefs c (List.mem_singleton.mp hc ▸ List.mem_cons_self)
        have hnew : db.hallSeat.Accepts (.insert seat) := Table.accepts_insert_iff.mpr
          fun key hmem => (List.nodup_cons.mp (List.Nodup.of_append_right (hnodup key hmem))).1
        obtain ⟨db', hexec⟩ := exists_execute_insert hhall hnew
        obtain ⟨-, -, hhalls, hrows⟩ := of_execute_insert hexec
        rw [hexec, Option.bind_some, ih, hhalls, hrows]
        exact ⟨fun c hc => hrefs c (List.mem_cons_of_mem _ hc), hnodup⟩

theorem HallSeat.position_eq_some {seat : HallSeat} {p : Position} : seat.position = some p ↔
    seat.hallId = some p.hall ∧ seat.row = p.row ∧ seat.column = p.column := by
  obtain ⟨hall, row, column⟩ := p
  simp [HallSeat.position]

/-- The row numbers of the seats are those of the positions, and so are the column
numbers. -/
theorem OneRowEach.perm (h : db.OneRowEach positions seats) {number : HallSeat → INT}
    {coordinate : Position → INT}
    (hsame : ∀ seat p, seat.position = some p → number seat = coordinate p) :
    (seats.map number).Perm (positions.map coordinate) := by
  have hnumbers : (seats.map HallSeat.position).map (Option.map coordinate) =
      (seats.map number).map some := by
    simp only [List.map_map]
    refine List.map_congr_left fun seat hseat => ?_
    obtain ⟨p, -, hp⟩ := List.mem_map.mp (h.position.mem_iff.mp (List.mem_map_of_mem hseat))
    simp only [Function.comp_apply, ← hp, Option.map_some, hsame seat p hp.symm]
  have hcoordinates : (positions.map some).map (Option.map coordinate) =
      (positions.map coordinate).map some := by
    simp only [List.map_map]
    rfl
  have hperm := h.position.map (Option.map coordinate)
  rw [hnumbers, hcoordinates] at hperm
  exact (List.map_perm_map_iff (fun _ _ => Option.some.inj)).mp hperm

/-- **Halls.** One row for every position is accepted precisely if no row number
and no column number comes twice, in whatever halls. -/
theorem insertSeats_accepted_iff (hhalls : ∀ p ∈ positions, p.hall ∈ db.hall.rows.map Hall.id)
    (heach : db.OneRowEach positions seats) : (db.insertSeats seats).isSome = true ↔
      (positions.map Position.row ++ db.hallSeat.rows.map HallSeat.row).Nodup ∧
      (positions.map Position.column ++ db.hallSeat.rows.map HallSeat.column).Nodup := by
  have hrefs : References HallSeat.hallId seats Hall.id db.hall.rows := by
    intro seat hseat hall hhall
    obtain ⟨p, hp, hposition⟩ :=
      List.mem_map.mp (heach.position.mem_iff.mp (List.mem_map_of_mem hseat))
    obtain ⟨hplace, -⟩ := HallSeat.position_eq_some.mp hposition.symm
    obtain rfl := Option.some.inj (hplace.symm.trans hhall)
    exact hhalls p hp
  have hrow : (seats.map HallSeat.row).Perm (positions.map Position.row) :=
    heach.perm fun seat p hp => (HallSeat.position_eq_some.mp hp).2.1
  have hcolumn : (seats.map HallSeat.column).Perm (positions.map Position.column) :=
    heach.perm fun seat p hp => (HallSeat.position_eq_some.mp hp).2.2
  rw [isSome_insertSeats_iff, and_iff_right hrefs]
  simp only [List.forall_mem_cons, List.not_mem_nil, false_imp_iff, implies_true, and_true,
    and_iff_right heach.id]
  rw [(hrow.append_right _).nodup_iff, (hcolumn.append_right _).nodup_iff]

/-- Two halls without seats. -/
def twoHalls : Database where
  hall := ⟨[{ id := 1 }, { id := 2 }], by decide⟩

/-- A seat in the first hall, and one in the second. -/
def corners : List HallSeat :=
  [{ id := 1, hallId := some 1, row := 1, column := 1 },
    { id := 2, hallId := some 2, row := 2, column := 2 }]

theorem insertSeats_corners : (twoHalls.insertSeats corners).isSome = true := by
  have heach : twoHalls.OneRowEach [⟨1, 1, 1⟩, ⟨2, 2, 2⟩] corners :=
    ⟨List.Perm.refl _, by decide⟩
  exact (insertSeats_accepted_iff (by decide) heach).mpr (by decide)

/-- Two seats in one row of the first hall. -/
def neighbours : List HallSeat :=
  [{ id := 1, hallId := some 1, row := 1, column := 1 },
    { id := 2, hallId := some 1, row := 1, column := 2 }]

/-- The first seat of the one hall, and the first seat of the other. -/
def counterparts : List HallSeat :=
  [{ id := 1, hallId := some 1, row := 1, column := 1 },
    { id := 2, hallId := some 2, row := 1, column := 1 }]

/-- Different positions in these halls, and rows for them that are refused. -/
def Refused (positions : List Position) (seats : List HallSeat) : Prop :=
  positions.Nodup ∧ (∀ p ∈ positions, p.hall ∈ twoHalls.hall.rows.map Hall.id) ∧
    twoHalls.OneRowEach positions seats ∧ (twoHalls.insertSeats seats).isSome = false

theorem insertSeats_refused :
    Refused [⟨1, 1, 1⟩, ⟨1, 1, 2⟩] neighbours ∧ Refused [⟨1, 1, 1⟩, ⟨2, 1, 1⟩] counterparts :=
  ⟨⟨by decide, by decide, ⟨List.Perm.refl _, by decide⟩, by decide⟩,
    by decide, by decide, ⟨List.Perm.refl _, by decide⟩, by decide⟩

end Takeit.Database
