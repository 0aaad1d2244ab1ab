import Travelo.Channex
import Travelo.Claims.Binary64
import Travelo.Reservations.Service

/-!
# The conversation with Channex

`ChannexSyncService` past the availability maths: what a run pushes and pulls, how a booking
is ingested, and the inbound webhook.

The client is a parameter: its answers are those of the moment of the call. Of a webhook's
body, and of an error that is logged, only what the code looks at is kept.
-/

namespace Travelo

open ReadCommitted

/-- How far forward a run publishes availability and rates. -/
def DEFAULT_HORIZON_DAYS : ℤ := 90

def CHANNEX_PROVIDER : String := "CHANNEX"

/-! ## What Channex sends -/

/-- The text of an amount, as `Number` reads it. -/
inductive ChannexAmount where
  /-- `digits / 10 ^ decimals`. -/
  | decimal (negative : Bool) (digits decimals : ℕ)
  | notANumber

/-- `Number.isFinite(amount) && amount > 0 ? Math.round(amount * 100) : undefined`. -/
def ChannexAmount.paise : ChannexAmount → Option ℤ
  | .decimal false digits decimals =>
    if 0 < digits then some ((Claims.Binary64.ratio digits (10 ^ decimals)).scale 100).round
    else none
  | _ => none

structure ChannexBookingRoom where
  room_type_id : Option String := none
  checkin_date : Option ℤ := none
  checkout_date : Option ℤ := none
  amount : Option ChannexAmount := none
  adults : Option ℕ := none
  children : Option ℕ := none

structure ChannexCustomer where
  name : Option String := none
  surname : Option String := none
  mail : Option String := none
  phone : Option String := none

structure ChannexBookingAttributes where
  status : Option String := none
  arrival_date : Option ℤ := none
  departure_date : Option ℤ := none
  amount : Option ChannexAmount := none
  customer : ChannexCustomer := {}
  rooms : List ChannexBookingRoom := []

/-- A booking; one without an id has the empty one. -/
structure ChannexBooking where
  id : String
  attributes : ChannexBookingAttributes := {}

/-- A range of one rate plan; `date_to` is included, and the rate is in paise here. -/
structure ChannexRateUpdate where
  property_id : String
  rate_plan_id : String
  date_from : ℤ
  date_to : ℤ
  rate : ℤ

/-- The client, by what it answers. -/
structure ChannexClient where
  configured : Bool := true
  pushAvailability : List ChannexAvailabilityUpdate → Except Err Unit := fun _ => .ok ()
  pushRates : List ChannexRateUpdate → Except Err Unit := fun _ => .ok ()
  getBookings : String → Option ℤ → Except Err (List ChannexBooking)

/-- The block a webhook nests its ids in. -/
structure ChannexWebhookBlock where
  property_id : Option String := none
  booking_id : Option String := none
  id : Option String := none

structure ChannexWebhookPayload where
  event_id : Option String := none
  id : Option String := none
  event : Option String := none
  property_id : Option String := none
  booking_id : Option String := none
  revision_id : Option String := none
  timestamp : Option String := none
  payload : Option ChannexWebhookBlock := none

structure LegOutcome where
  pushed : ℕ
  ok : Bool

structure PullOutcome where
  created : ℕ
  skipped : ℕ
  duplicates : ℕ
  ok : Bool

structure SyncOutcome where
  connectionId : Id
  availability : LegOutcome
  rates : LegOutcome
  bookings : PullOutcome
  ok : Bool

structure WebhookOutcome where
  replayed : Bool
  processed : Bool

/-- What became of a booking. -/
inductive Ingested where
  | created
  | duplicate
  | skipped
  deriving DecidableEq

/-- `s.slice(0, n)`. -/
def clip (n : ℕ) (s : String) : String := String.ofList (s.toList.take n)

/-- `s || undefined`. -/
def nonEmpty (s : Option String) : Option String := s.filter fun t => t ≠ ""

namespace ChannexBookingAttributes

/-- The booking is cancelled; the comparison does not look at case. -/
def cancelled (attrs : ChannexBookingAttributes) : Bool :=
  let status := (attrs.status.getD "").toList.map Char.toLower
  status = "cancelled".toList || status = "canceled".toList

variable (attrs : ChannexBookingAttributes)

/-- The only entry of `rooms` the code looks at. -/
def room : ChannexBookingRoom := attrs.rooms.head?.getD {}

def checkIn : Option ℤ :=
  attrs.arrival_date.or attrs.room.checkin_date

def checkOut : Option ℤ :=
  attrs.departure_date.or attrs.room.checkout_date

/-- The rate `create` is given. -/
def ratePaise : Option ℤ :=
  (attrs.room.amount.or attrs.amount).bind ChannexAmount.paise

def guestName : String :=
  let parts := [attrs.customer.name, attrs.customer.surname].filterMap nonEmpty
  (nonEmpty (some (trim (" ".intercalate parts)))).getD "OTA Guest"

end ChannexBookingAttributes

/-- Channex room type id to ours: of two types mapped to one id the last one counts. -/
def invertRoomTypeMap (cfg : ChannexConnectionConfig) (channexRoomTypeId : String) : Option Id :=
  (cfg.roomTypeMap.reverse.find? fun e => e.2 = channexRoomTypeId).map (·.1)

/-- The mappings of a connection; one to the empty id is none. -/
def readChannexConfig (c : IntegrationConnection) : ChannexConnectionConfig where
  channexPropertyId := c.channexPropertyId.getD ""
  roomTypeMap := c.roomTypeMap.filter fun e => e.2 ≠ ""

namespace ChannexSyncService

/-! ## Connection plumbing -/

variable (id : Id)

def requireChannexConnection : Op IntegrationConnection := do
  let row ← select (.connection id) fun db => db.integrationConnections.find? id
  let connection ← orThrow row .integrationNotFound
  throwIf (connection.provider ≠ CHANNEX_PROVIDER)
    (.channexWrongProvider connection.provider)
  return connection

/-- What is logged of an error; its code stands for its message. -/
def reason : Err → String
  | .internal message => clip 500 message
  | e => e.code.getD "unknown error"

variable (connectionId : Id)

def writeLog (direction : ChannexDirection) (entity : ChannexEntity) (status : ChannexSyncStatus)
    (request response error : Option String) : Op Unit :=
  write (fun _ => [])
    (fun db =>
      { db with
        channexSyncLog := db.channexSyncLog ++
          [{ connectionId, direction, entity, status
             requestSummary := request.map (clip 2000)
             responseSummary := response.map (clip 2000)
             error := error.map (clip 2000) }] })
    fun _ => ()

variable (ok : Bool) (priorErrors : ℕ) (detail : String) (now : ℤ) (c : IntegrationConnection)

/-- The health columns after a run; the second failure in a row is an error. -/
def withHealth : IntegrationConnection :=
  if ok then
    { c with
      status := .HEALTHY, errorCount := 0, lastSyncAt := some now, lastSuccessAt := some now,
      detail := some (clip 2000 detail), updatedAt := now }
  else
    { c with
      status := if 2 ≤ priorErrors + 1 then .ERROR else .WARNING, errorCount := priorErrors + 1,
      lastSyncAt := some now, lastFailureAt := some now, detail := some (clip 2000 detail),
      updatedAt := now }

theorem withHealth_id : (withHealth ok priorErrors detail now c).id = c.id := by
  cases ok <;> rfl

theorem withHealth_lastSyncAt :
    (withHealth ok priorErrors detail now c).lastSyncAt = some now := by
  cases ok <;> rfl

def updateHealth :
    Op Unit :=
  write (fun _ => [.connection connectionId])
    (fun db =>
      { db with
        integrationConnections := db.integrationConnections.update (fun c => c.id = connectionId)
          (withHealth ok priorErrors detail now) (withHealth_id ok priorErrors detail now) })
    fun _ => ()

/-! ## Outbound -/

variable (env : Env) (client : ChannexClient)

/-- `pushAvailability` with its request and its log. -/
def sendAvailability (connectionId propertyId : Id) (cfg : ChannexConnectionConfig)
    (start endDate : ℤ) : Op LegOutcome :=
  tryCatchThe Err
    (do
      let nights ← publishedNights env.rates connectionId propertyId start endDate
      let push := toAvailabilityRanges cfg nights
      lift (client.pushAvailability push.updates)
      writeLog connectionId .PUSH .AVAILABILITY .SUCCESS
        (some s!"{push.updates.length} range(s), {start}..{endDate}, unmapped {push.unmapped}")
        (some s!"accepted {push.updates.length}") none
      return ⟨push.updates.length, true⟩)
    fun e => do
      writeLog connectionId .PUSH .AVAILABILITY .FAILED (some s!"{start}..{endDate}") none
        (some (reason e))
      return ⟨0, false⟩

/-- The price of a night on this channel. -/
def channelPrice (days : List RateDayCell) (n : NightPrice) : ℤ :=
  let day := days.find? fun d => d.date = n.date
  let delta := (day.bind fun d =>
    (d.channelOverrides.lookup connectionId).bind (·.priceDeltaBp)).getD 0
  max 0 (roundDiv (n.pricePaise * (10000 + delta)) 10000)

/-- The ranges of one rate plan: nights in a row with one price make one. -/
def rateRanges (channexPropertyId ratePlanId : String) :
    List (ℤ × ℤ) → List ChannexRateUpdate
  | [] => []
  | (date, paise) :: rest =>
    (Claims.Run.collapse (.day date paise) rest).map fun r =>
      { property_id := channexPropertyId
        rate_plan_id := ratePlanId
        date_from := r.lo
        date_to := r.hi
        rate := r.val }

/-- The updates of one type; none when it has no rate plan on Channex. -/
def typeRates (connectionId propertyId : Id) (cfg : ChannexConnectionConfig)
    (ratePlanMap : List (Id × String)) (start endDate : ℤ) (t : RoomType) :
    Op (List ChannexRateUpdate) :=
  match nonEmpty (ratePlanMap.lookup t.id) with
  | none => return []
  | some ratePlanId =>
    if env.rates then do
      let nightly ← RatesService.nightlyPrices propertyId t.id start endDate none
      let grid ← RatesService.grid propertyId start endDate none
      let days := ((grid.find? fun g => g.id = t.id).map (·.days)).getD []
      return rateRanges cfg.channexPropertyId ratePlanId
        (nightly.map fun n => (n.date, channelPrice connectionId days n))
    else
      return [{ property_id := cfg.channexPropertyId
                rate_plan_id := ratePlanId
                date_from := start
                date_to := addDays endDate (-1)
                rate := t.baseRate }]

/-- The nightly prices of each mapped type, with the delta of this channel. -/
def pushRates (env : Env) (client : ChannexClient) (connectionId propertyId : Id)
    (cfg : ChannexConnectionConfig) (ratePlanMap : List (Id × String)) (start endDate : ℤ) :
    Op LegOutcome :=
  tryCatchThe Err
    (do
      let types ← select (.roomTypes propertyId) fun db =>
        db.roomTypes.rows.filter fun t =>
          t.propertyId = propertyId && t.deletedAt.isNone && t.active
      let updates ←
        all (typeRates env connectionId propertyId cfg ratePlanMap start endDate) types
      lift (client.pushRates updates.flatten)
      writeLog connectionId .PUSH .RATES .SUCCESS
        (some s!"{updates.flatten.length} rate plan(s)")
        (some s!"accepted {updates.flatten.length}") none
      return ⟨updates.flatten.length, true⟩)
    fun e => do
      writeLog connectionId .PUSH .RATES .FAILED none none (some (reason e))
      return ⟨0, false⟩

/-! ## Inbound bookings -/

/-- The reservation of a booking, if one carries its id. -/
def stamped (propertyId : Id) (externalRef : String) (db : HotelDb) : List Reservation :=
  db.reservations.rows.filter fun r =>
    r.propertyId = propertyId && r.externalRef = some externalRef

variable (externalRef : String)

/-- The note a booking's reservation gets. -/
def bookingNote : String := "Channex booking " ++ externalRef

/-- What `create` is asked for. -/
def bookingDto (attrs : ChannexBookingAttributes) (roomTypeId : Id) (checkIn checkOut : ℤ) :
    CreateReservationDto where
  roomTypeId
  guest :=
    { guestName := attrs.guestName
      guestPhone := (nonEmpty attrs.customer.phone).getD "0000000000"
      guestEmail := attrs.customer.mail
      adults := attrs.room.adults.getD 1
      children := attrs.room.children.getD 0
      source := .OTA
      notes := some (bookingNote externalRef) }
  checkIn
  checkOut
  ratePaise := attrs.ratePaise
  status := some .CONFIRMED

/-- The unique index on the reference, partial and per property. -/
def referenceTaken (db : HotelDb) : Bool :=
  (db.reservations.find? id).any fun r =>
    db.reservations.rows.any fun r' =>
      r'.id ≠ id && r'.propertyId = r.propertyId && r'.externalRef = some externalRef

/-- `UPDATE reservations SET external_ref = … WHERE id = …`. -/
def stampReference (db : HotelDb) : Except Err HotelDb :=
  if referenceTaken id externalRef db then .error .uniqueViolation
  else .ok (db.updateReservation id fun r => { r with externalRef := some externalRef })

/-- Create the reservation of a booking, then write the booking's id on it. -/
def takeBooking (connectionId propertyId : Id) (externalRef : String) (dto : CreateReservationDto) :
    Op Ingested := do
  let reservation ← ReservationsService.create env propertyId dto none
  writeChecked
    (fun _ => [.reservation reservation.row.id, .externalRef propertyId externalRef])
    (stampReference reservation.row.id externalRef) fun _ => ()
  writeLog connectionId .PULL .BOOKING .SUCCESS (some externalRef)
    (some s!"reservation {reservation.row.id} created") none
  return .created

/-- A booking no reservation carries the id of. -/
def ingestNew (connectionId propertyId : Id) (cfg : ChannexConnectionConfig) (externalRef : String)
    (attrs : ChannexBookingAttributes) : Op Ingested :=
  if attrs.cancelled then do
    writeLog connectionId .PULL .BOOKING .SUCCESS (some externalRef)
      (some "cancelled booking with no local reservation — ignored") none
    return .skipped
  else
    match (nonEmpty attrs.room.room_type_id).bind (invertRoomTypeMap cfg) with
    | none => do
      let named := attrs.room.room_type_id.getD "(absent)"
      writeLog connectionId .PULL .BOOKING .FAILED (some externalRef) none
        (some s!"Channex room type {named} is not mapped to a Tavelo room type — booking skipped")
      return .skipped
    | some roomTypeId =>
      match attrs.checkIn, attrs.checkOut with
      | some checkIn, some checkOut =>
        takeBooking env connectionId propertyId externalRef
          (bookingDto externalRef attrs roomTypeId checkIn checkOut)
      | _, _ => do
        writeLog connectionId .PULL .BOOKING .FAILED (some externalRef) none
          (some "Channex booking had no arrival/departure dates — booking skipped")
        return .skipped

/-- One booking: looked for by its id, created, then stamped with it. Whatever throws is
logged. -/
def ingestBooking (connectionId propertyId : Id) (cfg : ChannexConnectionConfig)
    (booking : ChannexBooking) : Op Ingested :=
  if booking.id = "" then do
    writeLog connectionId .PULL .BOOKING .FAILED none none
      (some "Channex booking had no id — cannot dedupe it, refusing to import")
    return .skipped
  else
    tryCatchThe Err
      (do
        let existing ← select (.externalRef propertyId booking.id) fun db =>
          (stamped propertyId booking.id db).take 1
        if 0 < existing.length then return .duplicate
        else ingestNew env connectionId propertyId cfg booking.id booking.attributes)
      fun e => do
        writeLog connectionId .PULL .BOOKING .FAILED (some booking.id) none (some (reason e))
        return .skipped

/-- The uuids of the `n`-th booking of a batch. -/
def bookingEnv (n : ℕ) : Env :=
  { env with uuid := fun k => env.uuid (NUMBER_ATTEMPTS * n + k) }

/-- The loop over a batch, from its `n`-th booking on. -/
def ingestAll (env : Env) (connectionId propertyId : Id) (cfg : ChannexConnectionConfig) :
    ℕ → List ChannexBooking → Op (List Ingested)
  | _, [] => return []
  | n, booking :: rest => do
    let result ← ingestBooking (bookingEnv env n) connectionId propertyId cfg booking
    let results ← ingestAll env connectionId propertyId cfg (n + 1) rest
    return result :: results

def sinceText (since : Option ℤ) : String :=
  match since with
  | some t => s!"since {t}"
  | none => "full window"

/-- What was inserted since the last run, each booking on its own. -/
def pullBookings (connectionId propertyId : Id) (cfg : ChannexConnectionConfig) (since : Option ℤ) :
    Op PullOutcome :=
  match client.getBookings cfg.channexPropertyId since with
  | .error e => do
    writeLog connectionId .PULL .BOOKING .FAILED (some (sinceText since)) none (some (reason e))
    return ⟨0, 0, 0, false⟩
  | .ok bookings => do
    let results ← ingestAll env connectionId propertyId cfg 0 bookings
    let created := results.count .created
    let skipped := results.count .skipped
    let duplicates := results.count .duplicate
    writeLog connectionId .PULL .BOOKING .SUCCESS (some (sinceText since))
      (some (s!"{bookings.length} fetched, {created} created, " ++
        s!"{duplicates} already present, {skipped} skipped")) none
    return ⟨created, skipped, duplicates, true⟩

/-! ## The run -/

/-- The connection, mapped to a property on both sides. -/
def requireMapped : Op (IntegrationConnection × Id) := do
  let connection ← requireChannexConnection connectionId
  throwIf ((readChannexConfig connection).channexPropertyId = "") .channexPropertyUnmapped
  let propertyId ← orThrow connection.propertyId .channexPropertyUnmapped
  return (connection, propertyId)

/-- The three legs of a run. -/
def legs (horizonDays : Option ℤ) (connection : IntegrationConnection) (propertyId : Id) :
    Op SyncOutcome := do
  let cfg := readChannexConfig connection
  let start := today env.now
  let endDate := addDays start (horizonDays.getD DEFAULT_HORIZON_DAYS)
  let availability ← sendAvailability env client connection.id propertyId cfg start endDate
  let rates ← pushRates env client connection.id propertyId cfg connection.ratePlanMap start
    endDate
  let bookings ← pullBookings env client connection.id propertyId cfg connection.lastSyncAt
  return ⟨connection.id, availability, rates, bookings,
    availability.ok && rates.ok && bookings.ok⟩

/-- One full exchange for one connection. The health is dated when it is written. -/
def syncConnection (connectionId : Id) (horizonDays : Option ℤ) (healthAt : ℤ) :
    Op SyncOutcome := do
  throwIf (client.configured = false) .channexNotConfigured
  let (connection, propertyId) ← requireMapped connectionId
  let outcome ← legs env client horizonDays connection propertyId
  updateHealth connection.id outcome.ok connection.errorCount
    (if outcome.ok then
      s!"availability {outcome.availability.pushed}, rates {outcome.rates.pushed}, " ++
        s!"bookings +{outcome.bookings.created}"
    else "one or more Channex sync legs failed — see channex_sync_log") healthAt
  return outcome

/-! ## The webhook -/

/-- Every connection worth polling. -/
def activeConnections : Op (List IntegrationConnection) :=
  select .connections fun db =>
    db.integrationConnections.rows.filter fun c =>
      c.provider = CHANNEX_PROVIDER && (c.status = .HEALTHY || c.status = .WARNING)

variable (payload : ChannexWebhookPayload)

def extractBookingId : Option String :=
  nonEmpty (payload.booking_id.or
    ((payload.payload.bind (·.booking_id)).or (payload.payload.bind (·.id))))

/-- The event id Channex sends, or one made of the booking it is about. -/
def extractEventId : String :=
  match nonEmpty (payload.event_id.or payload.id) with
  | some direct => clip 191 direct
  | none =>
    let event := payload.event.getD "event"
    let bookingId := (extractBookingId payload).getD "unknown"
    let revision := (payload.revision_id.or payload.timestamp).getD ""
    clip 191 s!"{event}:{bookingId}:{revision}"

/-- The bookings are read again from Channex, and go through `ingestBooking`. -/
def processWebhookPayload :
    Op Bool := do
  throwIf (client.configured = false) .channexNotConfigured
  let channexPropertyId ← orThrow
    ((nonEmpty payload.property_id).or (nonEmpty (payload.payload.bind (·.property_id))))
    (.internal "Channex webhook carried no property_id")
  let connections ← activeConnections
  let noMatch := Err.internal s!"No Channex connection maps to property {channexPropertyId}"
  let found ← orThrow
    (connections.find? fun c => (readChannexConfig c).channexPropertyId = channexPropertyId) noMatch
  let propertyId ← orThrow found.propertyId noMatch
  let bookings ← lift (client.getBookings channexPropertyId none)
  let targets :=
    match extractBookingId payload with
    | some bookingId => bookings.filter fun b => b.id = bookingId
    | none => bookings
  let _ ← ingestAll env found.id propertyId (readChannexConfig found) 0 targets
  return !targets.isEmpty

/-- `INSERT INTO channex_webhook_events`. -/
def insertEvent (eventId : String) (db : HotelDb) : Except Err HotelDb :=
  if db.channexWebhookEvents.rows.any fun e => e.eventId = eventId then .error .uniqueViolation
  else
    .ok { db with
      channexWebhookEvents := db.channexWebhookEvents.insert
        { id := freshId (db.channexWebhookEvents.rows.map (·.id)), eventId } }

/-- The id of the new row; nothing for a redelivery. -/
def claimEvent (eventId : String) : Op (Option Id) :=
  tryCatchThe Err
    (writeChecked (fun _ => [.webhookEvent eventId]) (insertEvent eventId)
      fun db => some (freshId (db.channexWebhookEvents.rows.map (·.id))))
    fun e => if e = .uniqueViolation then return none else throw e

def setEvent (f : ChannexWebhookEvent → ChannexWebhookEvent)
    (hf : ∀ e, (f e).id = e.id := by intro _; rfl) : Op Unit :=
  write (fun _ => [])
    (fun db =>
      { db with channexWebhookEvents := db.channexWebhookEvents.update (fun e => e.id = id) f hf })
    fun _ => ()

/-- A hook is taken with the right secret, or without one outside production. -/
def acceptsSecret (production : Bool) (secret providedSecret : Option String) : Bool :=
  match nonEmpty secret with
  | some s => providedSecret = some s
  | none => !production

/-- The event id is claimed first; what processing throws is kept on the event's row. -/
def handleWebhook (production : Bool) (secret providedSecret : Option String)
    (payload : ChannexWebhookPayload) :
    Op WebhookOutcome := do
  throwIf (acceptsSecret production secret providedSecret = false) .channexBadSignature
  let claimed ← claimEvent (extractEventId payload)
  match claimed with
  | none => return ⟨true, false⟩
  | some rowId =>
    tryCatchThe Err
      (do
        let processed ← processWebhookPayload env client payload
        setEvent rowId fun e => { e with processedAt := some env.now }
        return ⟨false, processed⟩)
      fun e => do
        setEvent rowId fun row => { row with error := some (reason e) }
        return ⟨false, false⟩

end ChannexSyncService

end Travelo
