import Takeit.Foundation
import Takeit.Logic.Schemas

/-!
# All tables (`CreateTable_Final.sql`)

The 22 tables with their columns, keys, unique indexes and foreign keys, in the
order of the script. Every foreign key is
`ON DELETE SET NULL ON UPDATE SET NULL`. Character sets, storage engines and the
indexes that are not unique change no row.

Values are those that are stored, after MySQL's conversions; texts that the
collation does not tell apart are one text.
-/

namespace Takeit.Database

open Takeit.Logic

inductive TableName
  | area | city | member | gradeType | movieType | movie | comment | creditcard | favorite
  | hallType | theater | hall | hallSeat | messageType | message | session | order
  | orderDetail | product | orderProductDetail | question | score
deriving DecidableEq, Repr

inductive ColumnName
  | id | name | account | password | report | blackMark | nickname | profilePhoto | createTime
  | createUser | modifyTime | modifyUser | movieTypeId | gradeTypeId | releaseDate | photo
  | intro | url | min | director | actor | onShelf | memberId | movieId | content | visibleMark
  | cardNumber | expYear | expMonth | address | useMark | favoriteMark | phone | longitude
  | latitude | cityId | areaId | theaterId | hallTypeId | ticketPrice | hallId | row | column
  | hallSeatStatus | messageTypeId | sender | receiver | commentId | period | sessionId
  | orderId | hallSeatRow | hallSeatColumn | quantity | qr | price | productId | title | stars
deriving DecidableEq, Repr

/-- A value that is stored. -/
inductive Cell
  | int (n : Int32)
  | text (s : String)
  | bit (b : Bool)
  | datetime (s : String)
  | blob (bytes : List UInt8)
  | number (q : Rat)
deriving DecidableEq

/-- The types of the columns. -/
inductive ColumnType
  | int
  | char (n : Nat)
  | varchar (n : Nat)
  | bit
  | datetime
  | longblob
  | double
  | float

/-- A column of the type takes the value. -/
def ColumnType.takes : ColumnType → Cell → Bool
  | .int, .int _ => true
  | .char n, .text s | .varchar n, .text s => s.length ≤ n
  | .bit, .bit _ => true
  | .datetime, .datetime _ => true
  | .longblob, .blob _ => true
  | .double, .number _ | .float, .number _ => true
  | _, _ => false

/-- `NOT NULL`. -/
def notNull (c : ColumnName) (type : ColumnType) : ColumnDef ColumnName Cell :=
  { name := c, takes := type.takes, notNull := true }

/-- `NULL`. -/
def null (c : ColumnName) (type : ColumnType) : ColumnDef ColumnName Cell :=
  { name := c, takes := type.takes }

/-- `CREATE TABLE`. -/
def createTable : Schema TableName ColumnName Cell
  | .area => {
      columns := [notNull .id .int, notNull .name (.varchar 50)]
      primary := .id }
  | .city => {
      columns := [notNull .id .int, notNull .name (.varchar 50)]
      primary := .id }
  | .member => {
      columns := [notNull .id .int, null .account (.char 10), null .password (.varchar 100),
        null .report .int, null .blackMark .bit, null .nickname (.varchar 50),
        null .profilePhoto .longblob, null .createTime .datetime, null .createUser .int,
        null .modifyTime .datetime, null .modifyUser .int]
      primary := .id
      indexes := [.account]
      foreignKeys := [⟨.createUser, .member, .id⟩, ⟨.modifyUser, .member, .id⟩] }
  | .gradeType => {
      columns := [notNull .id .int, notNull .name (.varchar 50)]
      primary := .id }
  | .movieType => {
      columns := [notNull .id .int, notNull .name (.varchar 50)]
      primary := .id }
  | .movie => {
      columns := [notNull .id .int, null .movieTypeId .int, null .gradeTypeId .int,
        notNull .name (.varchar 50), notNull .releaseDate .datetime, null .photo .longblob,
        notNull .intro (.varchar 500), notNull .url (.varchar 100), notNull .min .int,
        notNull .director (.varchar 50), notNull .actor (.varchar 100), notNull .onShelf .bit,
        null .createTime .datetime, null .createUser .int, null .modifyTime .datetime,
        null .modifyUser .int]
      primary := .id
      foreignKeys := [⟨.createUser, .member, .id⟩, ⟨.gradeTypeId, .gradeType, .id⟩,
        ⟨.modifyUser, .member, .id⟩, ⟨.movieTypeId, .movieType, .id⟩] }
  | .comment => {
      columns := [notNull .id .int, null .memberId .int, null .movieId .int,
        notNull .content (.varchar 500), notNull .visibleMark .bit, null .createTime .datetime,
        null .createUser .int, null .modifyTime .datetime, null .modifyUser .int]
      primary := .id
      foreignKeys := [⟨.createUser, .member, .id⟩, ⟨.memberId, .member, .id⟩,
        ⟨.modifyUser, .member, .id⟩, ⟨.movieId, .movie, .id⟩] }
  | .creditcard => {
      columns := [notNull .id .int, null .memberId .int, notNull .cardNumber (.char 16),
        notNull .expYear (.char 4), notNull .expMonth (.char 2), notNull .name (.varchar 50),
        notNull .address (.varchar 100), notNull .useMark .bit, null .createTime .datetime,
        null .createUser .int, null .modifyTime .datetime, null .modifyUser .int]
      primary := .id
      foreignKeys := [⟨.createUser, .member, .id⟩, ⟨.memberId, .member, .id⟩,
        ⟨.modifyUser, .member, .id⟩] }
  | .favorite => {
      columns := [notNull .id .int, null .movieId .int, null .memberId .int,
        notNull .favoriteMark .bit, null .createTime .datetime, null .createUser .int,
        null .modifyTime .datetime, null .modifyUser .int]
      primary := .id
      foreignKeys := [⟨.createUser, .member, .id⟩, ⟨.memberId, .member, .id⟩,
        ⟨.modifyUser, .member, .id⟩, ⟨.movieId, .movie, .id⟩] }
  | .hallType => {
      columns := [notNull .id .int, notNull .name (.varchar 50)]
      primary := .id }
  | .theater => {
      columns := [notNull .id .int, notNull .name (.varchar 50), null .phone (.char 10),
        null .address (.varchar 200), notNull .longitude .double, notNull .latitude .double,
        null .photo .longblob, null .intro (.varchar 500), null .cityId .int, null .areaId .int,
        notNull .onShelf .bit, null .createTime .datetime, null .createUser .int,
        null .modifyTime .datetime, null .modifyUser .int]
      primary := .id
      foreignKeys := [⟨.areaId, .area, .id⟩, ⟨.cityId, .city, .id⟩, ⟨.createUser, .member, .id⟩,
        ⟨.modifyUser, .member, .id⟩] }
  | .hall => {
      columns := [notNull .id .int, null .theaterId .int, null .hallTypeId .int,
        notNull .name (.varchar 50), notNull .ticketPrice .int, notNull .onShelf .bit,
        null .createTime .datetime, null .createUser .int, null .modifyTime .datetime,
        null .modifyUser .int]
      primary := .id
      foreignKeys := [⟨.createUser, .member, .id⟩, ⟨.hallTypeId, .hallType, .id⟩,
        ⟨.modifyUser, .member, .id⟩, ⟨.theaterId, .theater, .id⟩] }
  | .hallSeat => {
      columns := [notNull .id .int, null .hallId .int, notNull .row .int, notNull .column .int,
        null .hallSeatStatus .bit]
      primary := .id
      indexes := [.row, .column]
      foreignKeys := [⟨.hallId, .hall, .id⟩] }
  | .messageType => {
      columns := [notNull .id .int, notNull .name (.varchar 50)]
      primary := .id }
  | .message => {
      columns := [notNull .id .int, null .messageTypeId .int, null .sender .int,
        null .receiver .int, null .commentId .int, null .content (.varchar 500),
        null .createTime .datetime, null .createUser .int, null .modifyTime .datetime,
        null .modifyUser .int]
      primary := .id
      foreignKeys := [⟨.commentId, .comment, .id⟩, ⟨.createUser, .member, .id⟩,
        ⟨.messageTypeId, .messageType, .id⟩, ⟨.modifyUser, .member, .id⟩,
        ⟨.receiver, .member, .id⟩, ⟨.sender, .member, .id⟩] }
  | .session => {
      columns := [notNull .id .int, null .hallId .int, null .movieId .int,
        notNull .period .datetime, notNull .onShelf .bit, null .createTime .datetime,
        null .createUser .int, null .modifyTime .datetime, null .modifyUser .int]
      primary := .id
      foreignKeys := [⟨.createUser, .member, .id⟩, ⟨.hallId, .hall, .id⟩,
        ⟨.modifyUser, .member, .id⟩, ⟨.movieId, .movie, .id⟩] }
  | .order => {
      columns := [notNull .id .int, null .memberId .int, null .sessionId .int,
        null .createTime .datetime, null .createUser .int, null .modifyTime .datetime,
        null .modifyUser .int]
      primary := .id
      foreignKeys := [⟨.memberId, .member, .id⟩, ⟨.modifyUser, .member, .id⟩,
        ⟨.sessionId, .session, .id⟩] }
  | .orderDetail => {
      columns := [notNull .id .int, null .orderId .int, null .hallSeatRow .int,
        null .hallSeatColumn .int, notNull .quantity .int, notNull .qr .longblob,
        null .createTime .datetime, null .createUser .int, null .modifyTime .datetime,
        null .modifyUser .int]
      primary := .id
      foreignKeys := [⟨.hallSeatColumn, .hallSeat, .column⟩, ⟨.createUser, .member, .id⟩,
        ⟨.modifyUser, .member, .id⟩, ⟨.orderId, .order, .id⟩, ⟨.hallSeatRow, .hallSeat, .row⟩] }
  | .product => {
      columns := [notNull .id .int, null .theaterId .int, notNull .name (.varchar 50),
        notNull .price .int, null .photo .longblob, notNull .onShelf .bit,
        null .createTime .datetime, null .createUser .int, null .modifyTime .datetime,
        null .modifyUser .int]
      primary := .id
      foreignKeys := [⟨.createUser, .member, .id⟩, ⟨.modifyUser, .member, .id⟩,
        ⟨.theaterId, .theater, .id⟩] }
  | .orderProductDetail => {
      columns := [notNull .id .int, null .orderId .int, null .productId .int,
        notNull .quantity .int, null .createTime .datetime, null .createUser .int,
        null .modifyTime .datetime, null .modifyUser .int]
      primary := .id
      foreignKeys := [⟨.createUser, .member, .id⟩, ⟨.modifyUser, .member, .id⟩,
        ⟨.orderId, .order, .id⟩, ⟨.productId, .product, .id⟩] }
  | .question => {
      columns := [notNull .id .int, notNull .title (.varchar 50), notNull .content (.varchar 500),
        null .createTime .datetime, null .createUser .int, null .modifyTime .datetime,
        null .modifyUser .int]
      primary := .id
      foreignKeys := [⟨.createUser, .member, .id⟩, ⟨.modifyUser, .member, .id⟩] }
  | .score => {
      columns := [notNull .id .int, null .memberId .int, null .movieId .int,
        notNull .stars .float, null .createTime .datetime, null .createUser .int,
        null .modifyTime .datetime, null .modifyUser .int]
      primary := .id
      foreignKeys := [⟨.createUser, .member, .id⟩, ⟨.memberId, .member, .id⟩,
        ⟨.modifyUser, .member, .id⟩, ⟨.movieId, .movie, .id⟩] }

theorem createTable_wellFormed : createTable.WellFormed where
  key t := by cases t <;> decide
  nullable t := by cases t <;> decide
  noKey t := by cases t <;> decide

/-- The tables, from no rows at all on. -/
def tables : Lts (Rows TableName ColumnName Cell) (RowWrite TableName ColumnName Cell) :=
  relational createTable

end Takeit.Database
