import Travelo.Ota.Ingestion
import Travelo.ReadCommitted.Solo

/-!
# The cursor of the pull

A run fetches the bookings inserted from `lastSyncAt` on, and `updateHealth` then moves
`lastSyncAt` to the moment it writes: after a failed fetch as well, and past whatever was
inserted since the fetch. `lost_bookings` shows both.

`nothing_lost`: runs that move the cursor only over what they were answered lose nothing.
-/

namespace Travelo

open ReadCommitted ReservationsService ChannexSyncService

/-- A booking, with the moment Channex inserted it. -/
structure ChannexInsertion where
  insertedAt : ℤ
  booking : ChannexBooking

/-- Those inserted from `since` on, as Channex has them at `moment`. -/
def insertedFrom (history : List ChannexInsertion) (since : Option ℤ) (moment : ℤ) :
    List ChannexInsertion :=
  history.filter fun e =>
    since.all (fun s => decide (s ≤ e.insertedAt)) && decide (e.insertedAt ≤ moment)

/-- One run: when it fetches, when it dates its health, and what goes wrong at Channex. -/
structure SyncRun where
  env : Env
  horizonDays : Option ℤ := none
  configured : Bool := true
  pushAvailability : List ChannexAvailabilityUpdate → Except Err Unit := fun _ => .ok ()
  pushRates : List ChannexRateUpdate → Except Err Unit := fun _ => .ok ()
  /-- The error the fetch ends in, if it is not answered. -/
  outage : Option Err := none
  fetchedAt : ℤ
  healthAt : ℤ

namespace SyncRun

variable (history : List ChannexInsertion) (connectionId : Id) (run : SyncRun)

def client : ChannexClient where
  configured := run.configured
  pushAvailability := run.pushAvailability
  pushRates := run.pushRates
  getBookings := fun _ since =>
    match run.outage with
    | some e => .error e
    | none => .ok ((insertedFrom history since run.fetchedAt).map (·.booking))

def prog : Op Unit := do
  let _ ← syncConnection run.env (run.client history) connectionId run.horizonDays run.healthAt

/-- A run up to its bookkeeping. -/
def exchange : Op (IntegrationConnection × SyncOutcome) := do
  throwIf ((run.client history).configured = false) .channexNotConfigured
  let (connection, propertyId) ← requireMapped connectionId
  let outcome ← legs run.env (run.client history) run.horizonDays connection propertyId
  return (connection, outcome)

/-- What the connection shows of a run. -/
def detail (o : SyncOutcome) : String :=
  if o.ok then
    s!"availability {o.availability.pushed}, rates {o.rates.pushed}, " ++
      s!"bookings +{o.bookings.created}"
  else "one or more Channex sync legs failed — see channex_sync_log"

/-- The bookkeeping. -/
def bookkeeping (r : IntegrationConnection × SyncOutcome) : Op Unit := do
  updateHealth r.1.id r.2.ok r.1.errorCount (detail r.2) run.healthAt
  return ()

/-- The row it writes. -/
def health (r : IntegrationConnection × SyncOutcome) : IntegrationConnection → IntegrationConnection :=
  withHealth r.2.ok r.1.errorCount (detail r.2) run.healthAt

/-- The bookings a run fetched, if its pull came to its end. -/
def pulled (φ : ℕ → Option String) (db : HotelDb) : Option (List ChannexInsertion) :=
  match ((run.exchange history connectionId).runWith φ db).res with
  | .ok (connection, outcome) =>
    if outcome.bookings.ok then some (insertedFrom history connection.lastSyncAt run.fetchedAt)
    else none
  | .error _ => none

end SyncRun

/-- The pulls of a sequence of runs that came to their end. -/
def pulls (history : List ChannexInsertion) (connectionId : Id) :
    List (SyncRun × (ℕ → Option String)) → HotelDb → List (SyncRun × List ChannexInsertion)
  | [], _ => []
  | (run, φ) :: steps, db =>
    ((run.pulled history connectionId φ db).map fun es => (run, es)).toList ++
      pulls history connectionId steps ((run.prog history connectionId).runWith φ db).db

/-- Where the next fetch of the connection starts. -/
def cursor (connectionId : Id) (db : HotelDb) : Option ℤ :=
  (db.integrationConnections.find? connectionId).bind (·.lastSyncAt)

/-- The cursor has not passed the booking. -/
def Ahead (connectionId : Id) (db : HotelDb) (e : ChannexInsertion) : Prop :=
  ∀ since ∈ cursor connectionId db, since ≤ e.insertedAt

instance (connectionId : Id) (db : HotelDb) (e : ChannexInsertion) :
    Decidable (Ahead connectionId db e) :=
  inferInstanceAs (Decidable (∀ _ ∈ _, _))

/-- A booking the cursor has not passed at the start was fetched, if some pull came to its end
after the booking was inserted. -/
def NothingLost (history : List ChannexInsertion) (connectionId : Id)
    (steps : List (SyncRun × (ℕ → Option String))) (db : HotelDb) : Prop :=
  ∀ e ∈ history, Ahead connectionId db e →
    (∃ pull ∈ pulls history connectionId steps db, e.insertedAt ≤ pull.1.fetchedAt) →
      ∃ pull ∈ pulls history connectionId steps db, e ∈ pull.2

/-- A run that moves the cursor was answered, and not before the last of the bookings it moves
the cursor over was inserted. -/
def MovesOverAnswered (history : List ChannexInsertion) (connectionId : Id) (run : SyncRun)
    (db db' : HotelDb) : Prop :=
  cursor connectionId db' ≠ cursor connectionId db → ∀ e ∈ history, Ahead connectionId db e →
    e.insertedAt < run.healthAt → run.outage = none ∧ e.insertedAt ≤ run.fetchedAt

instance (history : List ChannexInsertion) (connectionId : Id) (run : SyncRun) (db db' : HotelDb) :
    Decidable (MovesOverAnswered history connectionId run db db') :=
  inferInstanceAs (Decidable (_ → ∀ e ∈ history, _))

/-! ## What a run does -/

section Run

variable {history : List ChannexInsertion} {connectionId : Id} {run : SyncRun}

theorem grid_readOnly (propertyId : Id) (fromDate toDate : ℤ) (ratePlanId : Option Id) :
    (RatesService.grid propertyId fromDate toDate ratePlanId).ReadOnly :=
  .bind (.lift _) fun _ => .bind (.select _ _) fun _ => .ite _ (.pure _)
    (.bind (.select _ _) fun _ => .bind (.select _ _) fun _ => .bind (.select _ _) fun _ =>
      .bind (.select _ _) fun _ => .pure _)

theorem publishedNights_readOnly (rates : Bool) (connectionId propertyId : Id) (start endDate : ℤ) :
    (publishedNights rates connectionId propertyId start endDate).ReadOnly :=
  .bind (.select _ _) fun _ => .bind (.select _ _) fun _ =>
    .ite _ (.bind (grid_readOnly _ _ _ _) fun _ => .pure _) (.pure _)

theorem typeRates_readOnly (env : Env) (connectionId propertyId : Id)
    (cfg : ChannexConnectionConfig) (ratePlanMap : List (Id × String)) (start endDate : ℤ)
    (t : RoomType) :
    (typeRates env connectionId propertyId cfg ratePlanMap start endDate t).ReadOnly := by
  unfold typeRates
  split
  · exact .pure _
  · exact .ite _ (.bind (nightlyPrices_readOnly _ _ _ _ _) fun _ =>
      .bind (grid_readOnly _ _ _ _) fun _ => .pure _) (.pure _)

variable {client : ChannexClient} {propertyId : Id}

theorem wp_sendAvailability {env : Env} {cfg : ChannexConnectionConfig} {start endDate : ℤ}
    {h : Trace} :
    (sendAvailability env client connectionId propertyId cfg start endDate).wp IngestWrite
      (fun _ _ t => t = .idle) (fun _ _ t => t = .idle) h .idle := by
  rw [sendAvailability, wp_tryCatch, wp_bind]
  have hfailed : ∀ (e : Err) (h' : Trace),
      (do
        writeLog connectionId .PUSH .AVAILABILITY .FAILED (some s!"{start}..{endDate}") none
          (some (reason e))
        return ⟨0, false⟩ : Op LegOutcome).wp IngestWrite (fun _ _ t => t = .idle)
          (fun _ _ t => t = .idle) h' .idle := by
    intro e h'
    rw [wp_bind]
    exact wp_writeLog (fun _ => rfl) fun _ _ => rfl
  refine (publishedNights_readOnly _ _ _ _ _).wp_idle _ (fun nights o _ => ?_)
    fun e o _ => hfailed e _
  simp only [wp_simps]
  refine ⟨fun e _ => hfailed e _, fun _ _ => ?_⟩
  exact wp_writeLog (fun _ => rfl) fun e o => hfailed e o

theorem wp_pushRates {env : Env} {cfg : ChannexConnectionConfig} {ratePlanMap : List (Id × String)}
    {start endDate : ℤ} {h : Trace} :
    (pushRates env client connectionId propertyId cfg ratePlanMap start endDate).wp IngestWrite
      (fun _ _ t => t = .idle) (fun _ _ t => t = .idle) h .idle := by
  rw [pushRates, wp_tryCatch]
  have hfailed : ∀ (e : Err) (h' : Trace),
      (do
        writeLog connectionId .PUSH .RATES .FAILED none none (some (reason e))
        return ⟨0, false⟩ : Op LegOutcome).wp IngestWrite (fun _ _ t => t = .idle)
          (fun _ _ t => t = .idle) h' .idle := by
    intro e h'
    rw [wp_bind]
    exact wp_writeLog (fun _ => rfl) fun _ _ => rfl
  rw [wp_bind, wp_select_idle]
  refine ⟨fun b => ?_, fun m => hfailed _ _⟩
  rw [wp_bind]
  refine (Prog.ReadOnly.all (fun t => typeRates_readOnly _ _ _ _ _ _ _ t) _).wp_idle _
    (fun updates o _ => ?_) fun e o _ => hfailed e _
  simp only [wp_simps]
  refine ⟨fun e _ => hfailed e _, fun _ _ => ?_⟩
  exact wp_writeLog (fun _ => rfl) fun e o => hfailed e o

theorem wp_legs {env : Env} {horizonDays : Option ℤ} {connection : IntegrationConnection}
    {h : Trace} :
    (legs env client horizonDays connection propertyId).wp IngestWrite
      (fun o _ _ => o.bookings.ok = (client.getBookings (readChannexConfig connection).channexPropertyId
        connection.lastSyncAt).isOk) (fun _ _ _ => True) h .idle := by
  simp only [legs, wp_bind]
  refine wp_mono (fun _ _ hw => hw) (fun availability h' t ht => ?_) (fun _ _ _ _ => trivial)
    _ _ _ wp_sendAvailability
  subst ht
  refine wp_mono (fun _ _ hw => hw) (fun rates h' t ht => ?_) (fun _ _ _ _ => trivial) _ _ _
    wp_pushRates
  subst ht
  exact wp_mono (fun _ _ hw => hw) (fun bookings h' t ht => ht.2) (fun _ _ _ _ => trivial)
    _ _ _ (wp_pullBookings _)

theorem wp_exchange :
    (run.exchange history connectionId).wp IngestWrite
      (fun r h _ => (∃ b, .saw (.connection connectionId) b ∈ h ∧
          b.integrationConnections.find? connectionId = some r.1) ∧
        (run.outage = none → r.2.bookings.ok = true))
      (fun _ _ _ => True) [] .idle := by
  simp only [SyncRun.exchange, requireMapped, requireChannexConnection, wp_simps]
  intro _ b connection hconnection _ _ propertyId _
  refine wp_mono (fun _ _ hw => hw.1) (fun o h t ho => ⟨⟨b, ?_, hconnection⟩, ?_⟩)
    (fun _ _ _ _ => trivial) _ _ _ (wp_grows _ _ _ wp_legs)
  · exact ho.2.subset List.mem_cons_self
  · intro hanswered
    rw [ho.1]
    simp [SyncRun.client, hanswered, Except.isOk, Except.toBool]

theorem SyncRun.prog_eq :
    run.prog history connectionId = run.exchange history connectionId >>= run.bookkeeping := by
  simp only [SyncRun.prog, SyncRun.exchange, syncConnection, Prog.bind_assoc]
  rfl

theorem bookkeeping_cursor (r : IntegrationConnection × SyncOutcome) (φ : ℕ → Option String)
    (t : Tx HotelDb) (db : HotelDb) (h : Trace) :
    cursor r.1.id ((run.bookkeeping r).runFrom φ t db h).db = cursor r.1.id db ∨
      cursor r.1.id ((run.bookkeeping r).runFrom φ t db h).db = some run.healthAt := by
  have hdb : ((run.bookkeeping r).runFrom φ t db h).db = db ∨
      ((run.bookkeeping r).runFrom φ t db h).db = { db with
        integrationConnections := db.integrationConnections.update (fun c => c.id = r.1.id)
          (run.health r) (withHealth_id _ _ _ _) } :=
    Prog.runFrom_write_then _ _ _ φ t db h
  rcases hdb with hsame | hwritten
  · exact .inl (congrArg (cursor r.1.id) hsame)
  · have hfind : (db.integrationConnections.update (fun c => c.id = r.1.id) (run.health r)
        (withHealth_id _ _ _ _)).find? r.1.id =
          (db.integrationConnections.find? r.1.id).map (run.health r) :=
      find?_update_self _ _ _
    simp only [hwritten, cursor, hfind]
    cases db.integrationConnections.find? r.1.id with
    | none => exact .inl rfl
    | some c => exact .inr (withHealth_lastSyncAt _ _ _ _ c)

variable {e : ChannexInsertion}

theorem mem_insertedFrom {since : Option ℤ} {moment : ℤ} :
    e ∈ insertedFrom history since moment ↔
      e ∈ history ∧ (∀ s ∈ since, s ≤ e.insertedAt) ∧ e.insertedAt ≤ moment := by
  cases since <;> simp [insertedFrom]

variable {φ : ℕ → Option String} {db : HotelDb}

theorem cursor_of_exchange {r : IntegrationConnection × SyncOutcome}
    (hres : ((run.exchange history connectionId).runWith φ db).res = .ok r) :
    r.1.id = connectionId ∧ cursor connectionId db = r.1.lastSyncAt ∧
      (run.outage = none → r.2.bookings.ok = true) := by
  obtain ⟨htrail, hjustified, hok, -⟩ :=
    wp_runWith (@wp_exchange history connectionId run) φ db
  obtain ⟨_, ⟨b, hsaw, hfind⟩, hanswered⟩ := hok r hres
  have hsame := htrail.saw_invariant hjustified (fun _ w b hw _ _ hb => (hw.connections b).trans hb)
    (rfl : db.integrationConnections = db.integrationConnections) hsaw
  refine ⟨key_of_find? hfind, ?_, hanswered⟩
  rw [cursor, ← hsame, hfind]
  rfl

/-- A pull that came to its end has what was ahead of the cursor when it fetched. -/
theorem mem_of_pulled (he : e ∈ history) (hahead : Ahead connectionId db e)
    {es : List ChannexInsertion} (hes : run.pulled history connectionId φ db = some es)
    (hfetched : e.insertedAt ≤ run.fetchedAt) :
    e ∈ es := by
  unfold SyncRun.pulled at hes
  cases hres : ((run.exchange history connectionId).runWith φ db).res with
  | error err => simp [hres] at hes
  | ok r =>
    obtain ⟨-, hsince, -⟩ := cursor_of_exchange hres
    simp only [hres, Option.ite_none_right_eq_some, Option.some.injEq] at hes
    obtain ⟨-, rfl⟩ := hes
    exact mem_insertedFrom.mpr ⟨he, hsince ▸ hahead, hfetched⟩

/-- The step lemma: a run fetches what the cursor has not passed, or leaves it ahead. -/
theorem fetched_or_ahead (he : e ∈ history) (hahead : Ahead connectionId db e)
    (hmoves : MovesOverAnswered history connectionId run db
      ((run.prog history connectionId).runWith φ db).db) :
    (∃ es, run.pulled history connectionId φ db = some es ∧ e ∈ es) ∨
      Ahead connectionId ((run.prog history connectionId).runWith φ db).db e := by
  obtain ⟨htrail, hjustified, -, -⟩ :=
    wp_runWith (@wp_exchange history connectionId run) φ db
  have hsame : cursor connectionId ((run.exchange history connectionId).runWith φ db).db =
      cursor connectionId db := by
    rw [cursor, htrail.invariant hjustified (fun _ w b hw _ _ hb => (hw.connections b).trans hb)
      (rfl : db.integrationConnections = db.integrationConnections), cursor]
  have hbind := Prog.runFrom_bind (run.exchange history connectionId) run.bookkeeping φ .idle db []
  rw [← SyncRun.prog_eq] at hbind
  -- a run that leaves the cursor where it was leaves the booking ahead of it
  have hstay (hcursor : cursor connectionId ((run.prog history connectionId).runWith φ db).db =
      cursor connectionId db) :
      Ahead connectionId ((run.prog history connectionId).runWith φ db).db e := by
    unfold Ahead
    rwa [hcursor]
  cases hres : ((run.exchange history connectionId).runWith φ db).res with
  | error err =>
    right
    refine hstay ?_
    rw [Prog.runWith, hbind.1 err hres]
    exact hsame
  | ok r =>
    obtain ⟨hid, hsince, hanswered⟩ := cursor_of_exchange hres
    obtain ⟨φ', t', hrun⟩ := hbind.2 r hres
    have hbooked : cursor connectionId ((run.prog history connectionId).runWith φ db).db =
          cursor connectionId db ∨
        cursor connectionId ((run.prog history connectionId).runWith φ db).db =
          some run.healthAt := by
      rw [Prog.runWith, hrun, ← hsame, ← hid]
      exact bookkeeping_cursor r φ' t' _ _
    by_cases hmoved : cursor connectionId ((run.prog history connectionId).runWith φ db).db =
        cursor connectionId db
    · exact .inr (hstay hmoved)
    have hcursor := hbooked.resolve_left hmoved
    by_cases hbefore : e.insertedAt < run.healthAt
    · left
      obtain ⟨hanswer, hfetched⟩ := hmoves hmoved e he hahead hbefore
      refine ⟨insertedFrom history r.1.lastSyncAt run.fetchedAt, ?_, ?_⟩
      · simp only [SyncRun.pulled, hres, hanswered hanswer, if_true]
      · exact mem_insertedFrom.mpr ⟨he, hsince ▸ hahead, hfetched⟩
    · right
      intro since hs
      rw [hcursor] at hs
      cases hs
      omega

end Run

/-- Whatever fails in whichever run: while every run moves the cursor only over bookings it was
answered with, no booking is lost. -/
theorem nothing_lost (history : List ChannexInsertion) (connectionId : Id)
    (steps : List (SyncRun × (ℕ → Option String))) (db : HotelDb)
    (hmoves : EachStep (SyncRun.prog history connectionId) (MovesOverAnswered history connectionId)
      steps db) : NothingLost history connectionId steps db := by
  intro e he hahead hlater
  induction steps generalizing db with
  | nil =>
    obtain ⟨pull, hpull, -⟩ := hlater
    cases hpull
  | cons step steps ih =>
    obtain ⟨run, φ⟩ := step
    have hfirst : ∀ es, run.pulled history connectionId φ db = some es →
        (run, es) ∈ pulls history connectionId ((run, φ) :: steps) db := by
      intro es hes
      simp [pulls, hes]
    rcases fetched_or_ahead he hahead hmoves.1 with ⟨es, hes, hmem⟩ | hstill
    · exact ⟨(run, es), hfirst es hes, hmem⟩
    · obtain ⟨pull, hpull, hafter⟩ := hlater
      rcases List.mem_append.mp hpull with hnow | hrest
      · -- the pull is this run's: it was answered with everything ahead of the cursor
        obtain ⟨es, hes, rfl⟩ : ∃ es, run.pulled history connectionId φ db = some es ∧
            (run, es) = pull := by simpa using hnow
        exact ⟨(run, es), hpull, mem_of_pulled he hahead hes hafter⟩
      · obtain ⟨pull', hpull', hmem⟩ := ih _ hmoves.2 hstill ⟨pull, hrest, hafter⟩
        exact ⟨pull', List.mem_append_right _ hpull', hmem⟩

/-! ## The two ways to lose one -/

/-- A booking inserted at 5. -/
def insertedAtFive : List ChannexInsertion := [⟨5, oneRoomBooking⟩]

def syncEnv : Env := { now := 0, uuid := fun n => n + 1, rates := false }

/-- Channex does not answer the first fetch; the second is answered. -/
def fetchFails : List (SyncRun × (ℕ → Option String)) :=
  [({ env := syncEnv, horizonDays := some 1, outage := some (.internal "ETIMEDOUT"),
      fetchedAt := 10, healthAt := 12 }, noFaults),
    ({ env := syncEnv, horizonDays := some 1, fetchedAt := 20, healthAt := 22 }, noFaults)]

/-- The booking arrives after the first fetch, and before the cursor moves. -/
def arrivesBetween : List (SyncRun × (ℕ → Option String)) :=
  [({ env := syncEnv, horizonDays := some 1, fetchedAt := 4, healthAt := 6 }, noFaults),
    ({ env := syncEnv, horizonDays := some 1, fetchedAt := 20, healthAt := 22 }, noFaults)]

/-- Both fetches are answered, and the booking is there before the first. -/
def bothAnswered : List (SyncRun × (ℕ → Option String)) :=
  [({ env := syncEnv, horizonDays := some 1, fetchedAt := 10, healthAt := 12 }, noFaults),
    ({ env := syncEnv, horizonDays := some 1, fetchedAt := 20, healthAt := 22 }, noFaults)]

/-- The second pull comes to its end, and no pull has the booking. -/
theorem lost_bookings : ¬NothingLost insertedAtFive 5 fetchFails mappedHotel ∧
    ¬NothingLost insertedAtFive 5 arrivesBetween mappedHotel := by
  have hempty (steps : List (SyncRun × (ℕ → Option String)))
      (hlater : (pulls insertedAtFive 5 steps mappedHotel).any (fun pull =>
        decide (5 ≤ pull.1.fetchedAt)) = true)
      (hnone : (pulls insertedAtFive 5 steps mappedHotel).all (fun pull => pull.2.isEmpty) = true) :
      ¬NothingLost insertedAtFive 5 steps mappedHotel := by
    intro h
    obtain ⟨pull, hpull, hafter⟩ := List.any_eq_true.mp hlater
    obtain ⟨pull', hpull', hmem⟩ := h _ List.mem_cons_self (by decide)
      ⟨pull, hpull, of_decide_eq_true hafter⟩
    have := List.isEmpty_iff.mp (List.all_eq_true.mp hnone pull' hpull')
    rw [this] at hmem
    cases hmem
  exact ⟨hempty fetchFails (by decide +kernel) (by decide +kernel),
    hempty arrivesBetween (by decide +kernel) (by decide +kernel)⟩

theorem found_booking : NothingLost insertedAtFive 5 bothAnswered mappedHotel :=
  nothing_lost insertedAtFive 5 bothAnswered mappedHotel (by decide +kernel)

end Travelo
