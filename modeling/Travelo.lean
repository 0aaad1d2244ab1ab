import Travelo.Access.Atomic
import Travelo.Access.Revocation
import Travelo.Accounts.Approvals
import Travelo.Auth.EnabledFactor
import Travelo.Auth.MfaLock
import Travelo.Auth.OneTime
import Travelo.Auth.Rotation
import Travelo.Auth.Team
import Travelo.Availability.Booking
import Travelo.Availability.Published
import Travelo.Billing.GatewayBooks
import Travelo.Billing.Invoices
import Travelo.Billing.Lifecycle
import Travelo.Billing.Orders
import Travelo.Billing.Proration
import Travelo.Billing.Renewals
import Travelo.Cash.Shifts
import Travelo.Claims.Arranged
import Travelo.Claims.Binary64
import Travelo.Claims.Exclusive
import Travelo.Claims.Ledger
import Travelo.Claims.Load
import Travelo.Claims.Lodging
import Travelo.Claims.Unwinding
import Travelo.Conversations.Unread
import Travelo.Events.Edits
import Travelo.Folio.Conservation
import Travelo.Folio.Drawer
import Travelo.Folio.Gate
import Travelo.Folio.OpenList
import Travelo.Folio.PaidTotal
import Travelo.Folio.Retry
import Travelo.Folio.RoomCharge
import Travelo.Folio.SpaRefund
import Travelo.Housekeeping
import Travelo.Housekeeping.Turnover
import Travelo.Inventory.Receiving
import Travelo.KeyCards.Stays
import Travelo.Notifications
import Travelo.Notifications.Delivery
import Travelo.Offline.Replay
import Travelo.Ota.Changes
import Travelo.Ota.Cursor
import Travelo.Ota.Ingestion
import Travelo.Ota.Ranges
import Travelo.Ota.RatePush
import Travelo.PropertyConfig.Defaults
import Travelo.RateWrites
import Travelo.Rates
import Travelo.Rates.Bulk
import Travelo.Rates.Calendar
import Travelo.Rates.Cells
import Travelo.Rates.Engine
import Travelo.Rates.Exactly
import Travelo.Rates.House
import Travelo.Rates.Ownership
import Travelo.Rates.Preview
import Travelo.Rates.Repricing
import Travelo.Rates.Revert
import Travelo.Rates.Stable
import Travelo.Rates.Total
import Travelo.Rates.Writes
import Travelo.ReadCommitted.Alone
import Travelo.ReadCommitted.Guarded
import Travelo.ReadCommitted.Solo
import Travelo.ReadCommitted.Straight
import Travelo.ReadCommitted.Table
import Travelo.Reservations.Allocation
import Travelo.Reservations.Exclusivity
import Travelo.Reservations.Extension
import Travelo.Reservations.History
import Travelo.Reservations.Lifecycle
import Travelo.Reservations.Numbers
import Travelo.Reservations.Occupied
import Travelo.Reservations.Parties
import Travelo.Reservations.ReportReading
import Travelo.Reservations.Restrictions
import Travelo.Reservations.Rules
import Travelo.Reservations.Service
import Travelo.Reservations.Totals
import Travelo.Restaurant.Billing
import Travelo.Restaurant.Floor
import Travelo.Restaurant.Settlement
import Travelo.RevenueEngine
import Travelo.RoomTypePhotos
import Travelo.RoomTypePhotos.Gallery
import Travelo.RoomTypePhotos.Listing
import Travelo.RoomTypes
import Travelo.Rooms
import Travelo.Rooms.Count
import Travelo.Spa
import Travelo.Spa.Appointments
import Travelo.Spa.Finished
import Travelo.Support
import Travelo.Support.Notes
import Travelo.TravelDesk.Trips
import Travelo.WorkOrders
import Travelo.WorkOrders.OffSale
import Travelo.Workers.NightAudit
import Travelo.Export.Whole
import Travelo.Totals.Exact
import Travelo.Outstanding.Screens
import Travelo.RoomTypeRecords.Consistent
import Travelo.Claims.References
import Travelo.Rooms.Editing
import Travelo.Rooms.InTurn
import Travelo.Rooms.Links
import Travelo.Auth.Mobiles
import Travelo.Export.Csv
import Travelo.Notifications.Templates
import Travelo.Reservations.StayDates
import Travelo.Folio.GuestRequests
