import Takeit.Logic.Ledger
import Takeit.Codecs
import Takeit.Seat.Basket
import Takeit.Seat.Labels
import Takeit.Seat.Hall
import Takeit.Seat.SeatList
import Takeit.Seat.SeatLabel
import Takeit.Seat.Traps
import Takeit.Seat.FoodCounts
import Takeit.Seat.Drawing
import Takeit.Order.Record
import Takeit.Booking.Frame
import Takeit.Booking.Abandon
import Takeit.Order.Payment
import Takeit.Movies.Listing
import Takeit.Movies.Scores
import Takeit.Movies.Cells
import Takeit.Movies.Crashes
import Takeit.Comments.Dialogs
import Takeit.Comments.Newest
import Takeit.Favourites.Settling
import Takeit.Login.Identity
import Takeit.Login.Password
import Takeit.Login.Substrings
import Takeit.Database.Seats
import Takeit.Database.Halls
import Takeit.Logic.Feed
import Takeit.Comments.Forum
import Takeit.Comments.Postings
import Takeit.Logic.Schemas
import Takeit.Database.CreateTable
import Takeit.Logic.Views
import Takeit.Database.SeatTables
import Takeit.Database.References
import Takeit.Login.Member
import Takeit.Booking.Provenance
import Takeit.Movies.Shelf
import Takeit.Documents
import Takeit.Logic.Progress
import Takeit.Seat.Progress
import Takeit.Booking.Progress
import Takeit.Order.Visit
import Takeit.Login.SignUp
