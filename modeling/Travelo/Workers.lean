import Travelo.Claims.Binary64
import Travelo.Reservations.Service

/-!
# The background workers that touch reservations

Two of them are one `UPDATE` whose `WHERE` clause names the status it expects. The night audit
also keeps a row of figures for each property and business date.
-/

namespace Travelo

open ReadCommitted

/-- `UPDATE reservations SET … WHERE …`, answering the number of rows. -/
def sweepReservations (p : Reservation → Bool) (f : Reservation → Reservation)
    (hf : ∀ r, (f r).id = r.id := by intro _; rfl) : Op ℕ :=
  write (fun db => (db.reservations.rows.filter p).map fun r => .reservation r.id)
    (fun db => { db with reservations := db.reservations.update p f hf })
    fun db => db.reservations.rows.countP p

namespace NightAuditWorker

variable (now : ℤ)

/-- CONFIRMED with an arrival date strictly before today: NO_SHOW. -/
def autoNoShow : Op ℕ :=
  sweepReservations
    (fun r => r.status = .CONFIRMED && r.checkIn < today now && r.deletedAt.isNone)
    fun r => { r with status := .NO_SHOW, updatedAt := now }

/-- The day that closed: yesterday, relative to a run just after midnight. -/
def businessDate : ℤ := today (now - 12 * 3600000)

variable (propertyId : Id) (date : ℤ) (r : Reservation)

def arrivedOn : Bool :=
  r.propertyId = propertyId && r.checkIn = date && [.CHECKED_IN, .CHECKED_OUT].contains r.status

def departedOn : Bool :=
  r.propertyId = propertyId && r.checkOut = date && r.status = .CHECKED_OUT

/-- In house on the night of the date. -/
def inHouseOn : Bool :=
  r.propertyId = propertyId && r.checkIn ≤ date && date < r.checkOut && r.status = .CHECKED_IN

def availableRoom (rm : Room) : Bool :=
  rm.propertyId = propertyId && rm.deletedAt.isNone && rm.status ≠ .OUT_OF_ORDER

def noShowOn : Bool :=
  r.propertyId = propertyId && r.checkIn = date && r.status = .NO_SHOW

/-- The night of the date is part of the revenue. -/
def earnsOn : Bool :=
  r.propertyId = propertyId && r.checkIn ≤ date && date < r.checkOut &&
    [.CHECKED_IN, .CHECKED_OUT].contains r.status

/-- Rooms in house over rooms not out of service, in per cent. -/
def occupancyPct (inHouse roomsAvailable : ℕ) : ℤ :=
  if 0 < roomsAvailable then ((Claims.Binary64.ratio inHouse roomsAvailable).scale 100).round else 0

/-- The figures of a property on a business date, from one statement. -/
def figuresOf (db : HotelDb) : PropertyDailySnapshot :=
  let stays := db.reservations.rows
  let inHouse := stays.countP (inHouseOn propertyId date)
  let roomsAvailable := db.rooms.rows.countP (availableRoom propertyId)
  { propertyId
    businessDate := date
    arrivals := stays.countP (arrivedOn propertyId date)
    departures := stays.countP (departedOn propertyId date)
    inHouse
    roomsAvailable
    roomsSold := inHouse
    occupancyPct := occupancyPct inHouse roomsAvailable
    noShows := stays.countP (noShowOn propertyId date)
    revenuePaise := ((stays.filter (earnsOn propertyId date)).map (·.ratePaise)).sum }

/-- `INSERT … ON CONFLICT (property_id, business_date) DO UPDATE SET …`. -/
def upsertSnapshot (row : PropertyDailySnapshot) (db : HotelDb) : HotelDb :=
  { db with
    propertyDailySnapshots :=
      if db.propertyDailySnapshots.hasKey row.key then
        db.propertyDailySnapshots.update (fun d => d.key = row.key) fun d =>
          { row with propertyId := d.propertyId, businessDate := d.businessDate }
      else db.propertyDailySnapshots.insert row }

/-- One property of the loop. -/
def snapshotProperty (propertyId : Id) : Op Unit := do
  let row ← select (.dayFigures propertyId date) (figuresOf propertyId date)
  write (fun _ => [.dailySnapshot row.key]) (upsertSnapshot row) fun _ => ()

/-- Write the row of the business date for every live property. -/
def snapshot : Op ℕ := do
  let props ← select .properties fun db =>
    (db.properties.rows.filter fun p => p.deletedAt.isNone).map (·.id)
  let _ ← all (snapshotProperty (businessDate now)) props
  return props.length

def run : Op (ℕ × ℕ) := do
  let noShows ← autoNoShow now
  let snapshots ← snapshot now
  return (noShows, snapshots)

end NightAuditWorker

namespace HoldExpiryWorker

/-- An enquiry hold whose deadline has passed is CANCELLED. -/
def run (now : ℤ) : Op ℕ :=
  sweepReservations
    (fun r => r.status = .PENDING && r.holdExpiresAt.any (· < now) && r.deletedAt.isNone)
    fun r => { r with status := .CANCELLED, cancelledAt := some now, updatedAt := now }

end HoldExpiryWorker

end Travelo
