import Travelo.ChannexSync
import Travelo.ReadCommitted.Guarded
import Travelo.Reservations.Creation

/-!
# A booking is ingested once

`ingestBooking` looks for a reservation that carries the booking's id, creates one, and then
writes the id on it: three steps, and only the last is under the unique index. The poller and
the webhook can both look before either has stamped, and a call that fails between the
creation and the stamp leaves a reservation that the next one does not find.

`ingested_once`: when no reservation of the booking waits for its stamp at the look-up of an
ingestion, and none is made between that look-up and the creation, at most one is live.
-/

namespace Travelo

open ReadCommitted ReservationsService ChannexSyncService

/-- A call that brings bookings in. -/
inductive InboundCall where
  | pull (env : Env) (client : ChannexClient) (connectionId propertyId : Id)
      (cfg : ChannexConnectionConfig) (since : Option ℤ)
  | webhook (env : Env) (client : ChannexClient) (production : Bool)
      (secret providedSecret : Option String) (payload : ChannexWebhookPayload)

def InboundCall.prog : InboundCall → Op Unit
  | .pull env client connectionId propertyId cfg since => do
    let _ ← pullBookings env client connectionId propertyId cfg since
  | .webhook env client production secret providedSecret payload => do
    let _ ← handleWebhook env client production secret providedSecret payload

/-- The row is a live reservation that was made for the booking. -/
def isLiveBooking (propertyId : Id) (externalRef : String) (r : Reservation) : Bool :=
  r.propertyId = propertyId && r.guest.notes = some (bookingNote externalRef) &&
    r.status ≠ .CANCELLED && r.deletedAt.isNone

def liveBookings (propertyId : Id) (externalRef : String) (db : HotelDb) : List Reservation :=
  db.reservations.rows.filter (isLiveBooking propertyId externalRef)

/-- At most one of them. -/
def LiveOnce (propertyId : Id) (externalRef : String) (db : HotelDb) : Prop :=
  (liveBookings propertyId externalRef db).length ≤ 1

instance (propertyId : Id) (externalRef : String) (db : HotelDb) :
    Decidable (LiveOnce propertyId externalRef db) :=
  inferInstanceAs (Decidable (_ ≤ 1))

/-- The states in which a call looked for the booking. -/
def lookUps (propertyId : Id) (externalRef : String) (h : Trace) : List HotelDb :=
  h.filterMap fun
    | .saw (.externalRef p ref) b => if p = propertyId ∧ ref = externalRef then some b else none
    | _ => none

/-- When a reservation is made for the booking: at the look-up no reservation of the booking
waited for its stamp, and none has been made since. -/
def SoleIngestion (propertyId : Id) (externalRef : String) (_ : InboundCall)
    (w : HotelDb → HotelDb) (h : Trace) (now : HotelDb) : Prop :=
  (liveBookings propertyId externalRef now).length <
      (liveBookings propertyId externalRef (w now)).length →
    ∀ b ∈ lookUps propertyId externalRef h,
      (∀ r ∈ liveBookings propertyId externalRef b, r.externalRef = some externalRef) ∧
        (liveBookings propertyId externalRef now).map (·.id) =
          (liveBookings propertyId externalRef b).map (·.id)

instance (propertyId : Id) (externalRef : String) (call : InboundCall) (w : HotelDb → HotelDb)
    (h : Trace) (now : HotelDb) : Decidable (SoleIngestion propertyId externalRef call w h now) :=
  inferInstanceAs (Decidable (_ → _))

/-! ## What a call publishes -/

/-- A log line or an event, the reservation of a booking that was looked for and not found, or
a stamp. -/
inductive IngestWrite (h : Trace) (w : HotelDb → HotelDb) : Prop where
  | other (hw : ∀ db, (w db).reservations = db.reservations ∧
      (w db).integrationConnections = db.integrationConnections)
  | taken {propertyId externalRef b row e} (hsaw : .saw (.externalRef propertyId externalRef) b ∈ h)
      (hnone : stamped propertyId externalRef b = []) (hproperty : row.propertyId = propertyId)
      (hnote : row.guest.notes = some (bookingNote externalRef))
      (hw : ∀ db, w db = (applied (fun db : HotelDb => db.insertReservation row) db).recordEvent e)
  | stamp {id externalRef}
      (hw : ∀ db, (w db).reservations = db.reservations ∨
        (w db).reservations = db.reservations.update (fun r => r.id = id) fun r =>
          { r with externalRef := some externalRef })
      (hconnections : ∀ db, (w db).integrationConnections = db.integrationConnections)

theorem IngestWrite.connections {h : Trace} {w : HotelDb → HotelDb} (hw : IngestWrite h w)
    (db : HotelDb) : (w db).integrationConnections = db.integrationConnections := by
  cases hw with
  | other hw => exact (hw db).2
  | stamp hw hconnections => exact hconnections db
  | @taken _ _ b row e hsaw hnone hproperty hnote hw =>
    cases htaken : db.reservationTaken row <;>
      simp [hw, HotelDb.recordEvent, applied, HotelDb.insertReservation, htaken]

section Calls

variable {env : Env} {client : ChannexClient} {connectionId propertyId : Id}
  {cfg : ChannexConnectionConfig} {h : Trace}

variable {E : Err → Trace → Tx HotelDb → Prop}

theorem wp_writeLog {P : Unit → Trace → Tx HotelDb → Prop} {direction : ChannexDirection}
    {entity : ChannexEntity} {status : ChannexSyncStatus} {request response error : Option String}
    (hP : ∀ o, P () o .idle) (hE : ∀ e o, E e o .idle) :
    (writeLog connectionId direction entity status request response error).wp IngestWrite P E h
      .idle := by
  rw [writeLog, wp_write_idle]
  exact ⟨.other fun _ => ⟨rfl, rfl⟩, fun _ => hP _, fun m => hE _ _⟩

theorem stamp_effect (id : Id) (externalRef : String) (db : HotelDb) :
    (applied (stampReference id externalRef) db).reservations = db.reservations ∨
      (applied (stampReference id externalRef) db).reservations =
        db.reservations.update (fun r => r.id = id) fun r =>
          { r with externalRef := some externalRef } := by
  unfold applied stampReference
  by_cases htaken : referenceTaken id externalRef db = true
  · simp [htaken]
  · simp [htaken, HotelDb.updateReservation]

theorem stamp_connections (id : Id) (externalRef : String) (db : HotelDb) :
    (applied (stampReference id externalRef) db).integrationConnections =
      db.integrationConnections := by
  unfold applied stampReference
  cases referenceTaken id externalRef db <;> rfl

theorem wp_takeBooking {externalRef : String} {dto : CreateReservationDto} {b : HotelDb}
    (hsaw : .saw (.externalRef propertyId externalRef) b ∈ h)
    (hnone : stamped propertyId externalRef b = [])
    (hnote : dto.guest.notes = some (bookingNote externalRef)) :
    (takeBooking env connectionId propertyId externalRef dto).wp IngestWrite
      (fun _ _ t => t = .idle) (fun _ _ t => t = .idle) h .idle := by
  rw [takeBooking, wp_bind]
  refine wp_mono ?_ ?_ (fun _ _ _ ht => ht.1) _ _ _
    (wp_grows _ _ _ (wp_create env propertyId dto none h))
  · rintro h' w ⟨⟨-, -, hrow, hw⟩, hgrown⟩
    exact .taken (hgrown.subset hsaw) hnone hrow.property (hrow.guest ▸ hnote) hw
  · rintro reservation h' t ⟨rfl, -⟩
    simp only [wp_bind, Prog.wp_writeChecked_idle]
    refine ⟨fun _ _ _ => ⟨.stamp (stamp_effect reservation.row.id externalRef)
        (stamp_connections reservation.row.id externalRef), ?_⟩,
      fun _ _ _ => trivial, fun _ => trivial⟩
    exact wp_writeLog (fun _ => rfl) fun _ _ => rfl

theorem wp_ingestBooking (booking : ChannexBooking) :
    (ingestBooking env connectionId propertyId cfg booking).wp IngestWrite
      (fun _ _ t => t = .idle) (fun _ _ t => t = .idle) h .idle := by
  have hlog : ∀ {status request response error} {h : Trace},
      (do
        writeLog connectionId .PULL .BOOKING status request response error
        return Ingested.skipped : Op Ingested).wp IngestWrite (fun _ _ t => t = .idle)
          (fun _ _ t => t = .idle) h .idle := by
    intro status request response error h
    rw [wp_bind]
    exact wp_writeLog (fun _ => rfl) fun _ _ => rfl
  unfold ingestBooking
  rw [wp_ite]
  refine ⟨fun _ => hlog, fun _ => ?_⟩
  rw [wp_tryCatch]
  -- whatever ends outside a transaction may be logged
  have hcatch : ∀ {p : Op Ingested} {h : Trace},
      p.wp IngestWrite (fun _ _ t => t = .idle) (fun _ _ t => t = .idle) h .idle →
      p.wp IngestWrite (fun _ _ t => t = .idle) (fun e h' t =>
        (do
          writeLog connectionId .PULL .BOOKING .FAILED (some booking.id) none (some (reason e))
          return Ingested.skipped : Op Ingested).wp IngestWrite (fun _ _ t => t = .idle)
            (fun _ _ t => t = .idle) h' t) h .idle := by
    intro p h hp
    refine wp_mono (fun _ _ hw => hw) (fun _ _ _ ht => ht) (fun e h' t ht => ?_) _ _ _ hp
    subst ht
    exact hlog
  refine hcatch ?_
  rw [wp_bind, wp_select_idle]
  refine ⟨fun b => ?_, fun _ => rfl⟩
  rw [wp_ite]
  refine ⟨fun _ => rfl, fun hnot => ?_⟩
  have hnone : stamped propertyId booking.id b = [] := by
    cases hrows : stamped propertyId booking.id b with
    | nil => rfl
    | cons r rs => simp [hrows] at hnot
  unfold ingestNew
  rw [wp_ite]
  refine ⟨fun _ => hlog, fun _ => ?_⟩
  split
  · exact hlog
  · split
    · exact wp_takeBooking List.mem_cons_self hnone rfl
    · exact hlog

theorem wp_ingestAll (bookings : List ChannexBooking) : ∀ (n : ℕ) (h : Trace),
    (ingestAll env connectionId propertyId cfg n bookings).wp IngestWrite
      (fun _ _ t => t = .idle) (fun _ _ t => t = .idle) h .idle := by
  induction bookings with
  | nil => exact fun _ _ => rfl
  | cons booking rest ih =>
    intro n h
    rw [ingestAll, wp_bind]
    refine wp_mono (fun _ _ hw => hw) (fun _ h' t ht => ?_) (fun _ _ _ ht => ht) _ _ _
      (wp_ingestBooking booking)
    subst ht
    rw [wp_bind]
    exact wp_mono (fun _ _ hw => hw) (fun _ _ _ ht => ht) (fun _ _ _ ht => ht) _ _ _
      (ih (n + 1) h')

theorem wp_pullBookings (since : Option ℤ) :
    (pullBookings env client connectionId propertyId cfg since).wp IngestWrite
      (fun o _ t => t = .idle ∧
        o.ok = (client.getBookings cfg.channexPropertyId since).isOk)
      (fun _ _ t => t = .idle) h .idle := by
  unfold pullBookings
  cases client.getBookings cfg.channexPropertyId since with
  | error e =>
    simp only [wp_bind]
    exact wp_writeLog (fun _ => ⟨rfl, rfl⟩) fun _ _ => rfl
  | ok bookings =>
    simp only [wp_bind]
    refine wp_mono (fun _ _ hw => hw) (fun _ h' t ht => ?_) (fun _ _ _ ht => ht) _ _ _
      (wp_ingestAll bookings 0 h)
    subst ht
    exact wp_writeLog (fun _ => ⟨rfl, rfl⟩) fun _ _ => rfl

theorem wp_setEvent {P : Unit → Trace → Tx HotelDb → Prop} (id : Id)
    (f : ChannexWebhookEvent → ChannexWebhookEvent) (hf : ∀ e, (f e).id = e.id)
    (hP : ∀ o, P () o .idle) (hE : ∀ e o, E e o .idle) :
    (setEvent id f hf).wp IngestWrite P E h .idle := by
  rw [setEvent, wp_write_idle]
  exact ⟨.other fun _ => ⟨rfl, rfl⟩, fun _ => hP _, fun m => hE _ _⟩

theorem wp_processWebhookPayload (payload : ChannexWebhookPayload) :
    (processWebhookPayload env client payload).wp IngestWrite
      (fun _ _ t => t = .idle) (fun _ _ t => t = .idle) h .idle := by
  simp only [processWebhookPayload, activeConnections, wp_simps]
  intro _ _ _ b found _ propertyId _ bookings _
  exact wp_ingestAll _ 0 _

theorem insertEvent_frame (eventId : String) (db : HotelDb) :
    (applied (insertEvent eventId) db).reservations = db.reservations ∧
      (applied (insertEvent eventId) db).integrationConnections = db.integrationConnections := by
  unfold applied insertEvent
  cases db.channexWebhookEvents.rows.any fun e => e.eventId = eventId <;> exact ⟨rfl, rfl⟩

theorem wp_claimEvent (eventId : String) {P : Option Id → Trace → Tx HotelDb → Prop}
    (hP : ∀ a o, P a o .idle) (hE : ∀ e o, E e o .idle) :
    (claimEvent eventId).wp IngestWrite P E h .idle := by
  simp only [claimEvent, wp_tryCatch, Prog.wp_writeChecked_idle, wp_ite, wp_pure,
    wp_throw]
  exact ⟨fun _ _ _ => ⟨.other (insertEvent_frame eventId), hP _ _⟩,
    fun _ e _ => ⟨fun _ => hP _ _, fun _ => hE _ _⟩, fun _ => ⟨fun _ => hP _ _, fun _ => hE _ _⟩⟩

theorem InboundCall.wp_prog (call : InboundCall) :
    call.prog.wp IngestWrite (fun _ _ _ => True) (fun _ _ _ => True) [] .idle := by
  cases call with
  | pull env client connectionId propertyId cfg since =>
    rw [prog, wp_bind]
    exact wp_mono (fun _ _ hw => hw) (fun _ _ _ _ => trivial) (fun _ _ _ _ => trivial) _ _ _
      (wp_pullBookings since)
  | webhook env client production secret providedSecret payload =>
    simp only [prog, handleWebhook, wp_simps]
    intro _
    refine wp_claimEvent _ (fun claimed o => ?_) fun _ _ => trivial
    cases claimed with
    | none => trivial
    | some rowId =>
      simp only [wp_tryCatch, wp_bind]
      refine wp_mono (fun _ _ hw => hw) (fun _ h' t ht => ?_) (fun e h' t ht => ?_) _ _ _
        (wp_processWebhookPayload payload)
      · subst ht
        refine wp_setEvent rowId _ _ (fun _ => trivial) fun _ _ => ?_
        exact wp_setEvent rowId _ _ (fun _ => trivial) fun _ _ => trivial
      · subst ht
        exact wp_setEvent rowId _ _ (fun _ => trivial) fun _ _ => trivial

end Calls

/-! ## Any calls -/

section Keeps

variable {propertyId : Id} {externalRef : String} {call : InboundCall} {h : Trace}
  {w : HotelDb → HotelDb} {now db' : HotelDb}

theorem bookingNote_inj {ref ref' : String} (h : bookingNote ref = bookingNote ref') :
    ref = ref' :=
  (String.append_right_inj _).mp h

theorem liveBookings_of_eq (hsame : db'.reservations = now.reservations) :
    liveBookings propertyId externalRef db' = liveBookings propertyId externalRef now := by
  rw [liveBookings, hsame]
  rfl

theorem liveBookings_stamp {id : Id} {ref : String}
    (hstamp : db'.reservations = now.reservations.update (fun r => r.id = id) fun r =>
      { r with externalRef := some ref }) :
    (liveBookings propertyId externalRef db').length =
      (liveBookings propertyId externalRef now).length := by
  rw [liveBookings, liveBookings, hstamp, Table.update, List.filter_map, List.length_map]
  congr 1
  refine List.filter_congr fun r _ => ?_
  by_cases hid : r.id = id <;> simp [hid, isLiveBooking]

theorem mem_lookUps {b : HotelDb} :
    b ∈ lookUps propertyId externalRef h ↔ .saw (.externalRef propertyId externalRef) b ∈ h := by
  simp only [lookUps, List.mem_filterMap]
  constructor
  · rintro ⟨o, ho, heq⟩
    split at heq
    · obtain ⟨⟨rfl, rfl⟩, hstate⟩ := Option.ite_none_right_eq_some.mp heq
      exact Option.some.inj hstate ▸ ho
    · cases heq
  · exact fun hsaw => ⟨_, hsaw, by simp⟩

theorem IngestWrite.keeps (hw : IngestWrite h w)
    (hguard : SoleIngestion propertyId externalRef call w h now)
    (hnow : LiveOnce propertyId externalRef now) : LiveOnce propertyId externalRef (w now) := by
  unfold LiveOnce at *
  cases hw with
  | other hw => rwa [liveBookings_of_eq (hw now).1]
  | stamp hw _ =>
    rcases hw now with hsame | hstamp
    · rwa [liveBookings_of_eq hsame]
    · rwa [liveBookings_stamp hstamp]
  | @taken propertyId' ref b row e hsaw hnone hproperty hnote hw =>
    unfold SoleIngestion at hguard
    cases htaken : now.reservationTaken row with
    | true =>
      have hsame : (w now).reservations = now.reservations := by
        rw [hw]
        simp [applied, HotelDb.insertReservation, htaken, HotelDb.recordEvent]
      rwa [liveBookings_of_eq hsame]
    | false =>
      have hrows : (w now).reservations.rows = now.reservations.rows ++ [row] := by
        rw [hw]
        have hid := (reservationTaken_eq_false.mp htaken).1
        simp [applied, HotelDb.insertReservation, htaken, HotelDb.recordEvent,
          rows_insert hid]
      have hlive : liveBookings propertyId externalRef (w now) =
          liveBookings propertyId externalRef now ++
            [row].filter (isLiveBooking propertyId externalRef) := by
        rw [liveBookings, hrows, List.filter_append]
        rfl
      cases hrow : isLiveBooking propertyId externalRef row with
      | false => simpa [hlive, hrow] using hnow
      | true =>
        obtain ⟨⟨⟨hp, hn⟩, -⟩, -⟩ : ((row.propertyId = propertyId ∧
            row.guest.notes = some (bookingNote externalRef)) ∧ row.status ≠ .CANCELLED) ∧
              row.deletedAt.isNone = true := by
          simpa [isLiveBooking] using hrow
        obtain rfl : propertyId' = propertyId := hproperty.symm.trans hp
        obtain rfl : ref = externalRef := bookingNote_inj (Option.some.inj (hnote.symm.trans hn))
        have hsingle : liveBookings propertyId' ref (w now) =
            liveBookings propertyId' ref now ++ [row] := by
          simpa [hrow] using hlive
        -- the look-up found no stamp, so it found no reservation, and there is none now
        obtain ⟨hstamps, hsame⟩ := hguard (by simp [hsingle]) b (mem_lookUps.mpr hsaw)
        have hbefore : liveBookings propertyId' ref b = [] := by
          refine List.eq_nil_iff_forall_not_mem.mpr fun r hr => ?_
          have hmem : r ∈ stamped propertyId' ref b := by
            have hrow' := List.mem_filter.mp hr
            refine List.mem_filter.mpr ⟨hrow'.1, ?_⟩
            have hproperty' : r.propertyId = propertyId' := by
              have := hrow'.2
              simp only [isLiveBooking, and_decide_eq] at this
              exact this.1.1.1
            simp [hproperty', hstamps r hr]
          rw [hnone] at hmem
          exact List.not_mem_nil hmem
        rw [hbefore, List.map_nil, List.map_eq_nil_iff] at hsame
        simp [hsingle, hsame]

end Keeps

/-- However the calls are interleaved and wherever they fail: while no reservation of the booking
waits for its stamp when an ingestion looks for it, and none is made before that ingestion makes
its own, at most one is live. -/
theorem ingested_once (propertyId : Id) (externalRef : String) (calls : List InboundCall)
    (db : HotelDb) (honce : LiveOnce propertyId externalRef db) (evs : List Event)
    (c : Config HotelDb RowKey Look Err Unit)
    (hsole : (Config.start db (calls.map InboundCall.prog)).Throughout
      (GuardedCalls calls (SoleIngestion propertyId externalRef)) evs)
    (hrun : (Config.start db (calls.map InboundCall.prog)).run evs = some c) :
    LiveOnce propertyId externalRef c.db :=
  Config.calls_invariant (R := fun _ _ => True) InboundCall.wp_prog (fun _ => trivial)
    (fun _ _ _ _ _ => trivial) (fun _ _ _ _ hw _ hg hnow => ⟨hw.keeps hg hnow, trivial⟩) honce evs
    hsole hrun

/-! ## The poller and the webhook at once -/

/-- A hotel with two rooms of one type, mapped to Channex. -/
def mappedHotel : HotelDb where
  roomTypes := (∅ : Table RoomType.id).insert
    { id := 7, propertyId := 1, name := "Deluxe", baseRate := 100000 }
  rooms := ((∅ : Table Room.id).insert
    { id := 101, propertyId := 1, roomTypeId := 7, number := "101", status := .AVAILABLE }).insert
      { id := 102, propertyId := 1, roomTypeId := 7, number := "102", status := .AVAILABLE }
  integrationConnections := (∅ : Table IntegrationConnection.id).insert
    { id := 5, propertyId := some 1, provider := CHANNEX_PROVIDER, channexPropertyId := some "cx"
      roomTypeMap := [(7, "cx-deluxe")] }

/-- One night in one room. -/
def oneRoomBooking : ChannexBooking where
  id := "bk-1"
  attributes :=
    { arrival_date := some 10
      departure_date := some 11
      amount := some (.decimal false 50000 1)
      rooms := [{ room_type_id := some "cx-deluxe" }] }

def bookingClient : ChannexClient where
  getBookings := fun _ _ => .ok [oneRoomBooking]

/-- The poller and the webhook, for the same booking. -/
def pollAndHook : List InboundCall :=
  [.pull { now := 0, uuid := fun n => n + 1, rates := false } bookingClient 5 1
      ⟨"cx", [(7, "cx-deluxe")]⟩ none,
    .webhook { now := 0, uuid := fun n => n + 11, rates := false } bookingClient false none none
      { event_id := some "ev-1", property_id := some "cx", booking_id := some "bk-1" }]

/-- Both have looked before either creates. -/
def bothLook : List Event :=
  [.step 0, .step 1, .step 1, .step 1] ++ List.replicate 12 (.step 0) ++
    List.replicate 12 (.step 1)

/-- The poller is done before the webhook looks. -/
def oneAfterTheOther : List Event := List.replicate 13 (.step 0) ++ List.replicate 4 (.step 1)

/-- Two reservations for one booking. -/
theorem ingested_twice : LiveOnce 1 "bk-1" mappedHotel ∧
    ∃ c, (Config.start mappedHotel (pollAndHook.map InboundCall.prog)).run bothLook = some c ∧
      ¬LiveOnce 1 "bk-1" c.db := by
  have hrace : ((Config.start mappedHotel (pollAndHook.map InboundCall.prog)).run bothLook).any
      (fun c => decide (¬LiveOnce 1 "bk-1" c.db)) = true := by
    decide +kernel
  obtain ⟨c, hrun, hc⟩ := (Option.any_eq_true _ _).mp hrace
  exact ⟨by decide, c, hrun, by simpa using hc⟩

/-- One after the other they leave one. -/
theorem ingested_in_turn : ∃ c,
    (Config.start mappedHotel (pollAndHook.map InboundCall.prog)).run oneAfterTheOther = some c ∧
      LiveOnce 1 "bk-1" c.db := by
  have hruns : ((Config.start mappedHotel (pollAndHook.map InboundCall.prog)).run
      oneAfterTheOther).isSome = true := by
    decide +kernel
  obtain ⟨c, hrun⟩ := Option.isSome_iff_exists.mp hruns
  exact ⟨c, hrun, ingested_once 1 "bk-1" pollAndHook mappedHotel (by decide) oneAfterTheOther c
    (by decide +kernel) hrun⟩

end Travelo
