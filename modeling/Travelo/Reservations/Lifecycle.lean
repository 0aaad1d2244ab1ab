import Travelo.ReadCommitted.Schedule
import Travelo.Reservations.Calls
import Travelo.Workers

/-!
# The life of a reservation

Every method checks a transition against `RESERVATION_TRANSITIONS` on the row it read
before its transaction, and its `UPDATE` names the row by id only. `Commit.followsTable`
says what that is worth: the stored status moves along the table if it is still the one
that was read. The workers name the status they expect in their `WHERE` clause, so their
steps follow the table without a condition.
-/

namespace Travelo

open ReadCommitted ReservationsService

/-- From one committed state to the next every reservation keeps its status or takes one
the table allows. -/
def FollowsTable (db db' : HotelDb) : Prop :=
  ∀ r ∈ db.reservations, ∃ r' ∈ db'.reservations, r'.id = r.id ∧
    (r'.status = r.status ∨ canTransition r.status r'.status = true)

instance (db db' : HotelDb) : Decidable (FollowsTable db db') := by
  unfold FollowsTable
  infer_instance

/-- If the write changes the status of a reservation that was read, the stored status is the
one that was read. -/
def OnCurrentStatus (_ : ℕ) (w : HotelDb → HotelDb) : Look → HotelDb → HotelDb → Prop
  | .reservation id, base, now =>
    ∀ r ∈ now.reservations, r.id = id →
      (∃ r' ∈ (w now).reservations, r'.id = id ∧ r'.status = r.status) ∨
        ∃ r₀ ∈ base.reservations, r₀.id = id ∧ r₀.status = r.status
  | _, _, _ => True

instance (i : ℕ) (w : HotelDb → HotelDb) (l : Look) (base now : HotelDb) :
    Decidable (OnCurrentStatus i w l base now) := by
  apply Look.casesOn (motive := fun l => Decidable (OnCurrentStatus i w l base now)) l
  all_goals intros; unfold OnCurrentStatus; infer_instance

theorem FollowsTable.refl (db : HotelDb) : FollowsTable db db :=
  fun r hr => ⟨r, hr, rfl, .inl rfl⟩

theorem FollowsTable.of_same {db db' : HotelDb}
    (h : ∀ r ∈ db.reservations, ∃ r' ∈ db'.reservations, r'.id = r.id ∧ r'.status = r.status) :
    FollowsTable db db' := by
  intro r hr
  obtain ⟨r', hr', hid, hs⟩ := h r hr
  exact ⟨r', hr', hid, .inl hs⟩

/-- A row change keeps the status, or moves the status that was read along the table. -/
theorem RowCommit.status {c : Call} {h : Trace} {id : Id} {f : Reservation → Reservation}
    (hc : RowCommit c h id f) (r : Reservation) :
    (f r).status = r.status ∨ ∃ propertyId before, Found h propertyId id before ∧
      canTransition before.status (f r).status = true := by
  cases hc with
  | confirmed hk hq hf ht hr hc => exact .inr ⟨_, _, hf, ht⟩
  | updated rules hq hf hm => exact .inl (Reservation.withDates_status _ _ _)
  | extended hk hq hf hs hlater hr hc => exact .inl (Reservation.withDates_status _ _ _)
  | moved hk hroomId hq hf hs hroom hready htype hr => exact .inl rfl
  | assigned hk hq hf hroom htype hr => exact .inl rfl
  | locked => exact .inl rfl
  | checkedIn hk hq hf ht hroom htype hr => exact .inr ⟨_, _, hf, ht⟩
  | checkedOut hf ht => exact .inr ⟨_, _, hf, ht⟩
  | cancelled hq hf ht => exact .inr ⟨_, _, hf, ht⟩
  | noShow hq hf ht => exact .inr ⟨_, _, hf, ht⟩
  | paid => exact .inl rfl

theorem Placed.status {h : Trace} {propertyId : Id} {pending : List Reservation}
    {offerable : List Room} {assigned : List (Id × Id)} {w : HotelDb → HotelDb}
    (hp : Placed h propertyId pending offerable assigned w) {db : HotelDb} {r : Reservation}
    (hr : r ∈ db.reservations) :
    ∃ r' ∈ (w db).reservations, r'.id = r.id ∧ r'.status = r.status := by
  induction hp with
  | nil => exact ⟨r, hr, rfl, rfl⟩
  | @snoc assigned w res room t e _ _ _ _ _ _ ih =>
    obtain ⟨r₁, hr₁, hid, hs⟩ := ih
    simp only [HotelDb.recordEvent, HotelDb.updateReservation, mem_update]
    refine ⟨_, ⟨r₁, hr₁, rfl⟩, ?_⟩
    by_cases hres : r₁.id = res.id
    · rw [if_pos (by simpa using hres)]
      exact ⟨hid, hs⟩
    · rw [if_neg (by simpa using hres)]
      exact ⟨hid, hs⟩

theorem Commit.followsTable {c : Call} {h : Trace} {w : HotelDb → HotelDb} {now : HotelDb}
    {i : ℕ} (hc : Commit c h w)
    (hv : ∀ l b, .saw l b ∈ h → OnCurrentStatus i w l b now) : FollowsTable now (w now) := by
  cases hc with
  | @row id f w hc hid hdb =>
    obtain ⟨-, hsame | hrows⟩ := hdb now
    · exact .of_same fun r hr => ⟨r, hsame ▸ hr, rfl, rfl⟩
    · intro r hr
      have hr' : (if decide (r.id = id) = true then f r else r) ∈ (w now).reservations := by
        rw [hrows]
        exact Table.mem_update.mpr ⟨r, hr, rfl⟩
      by_cases hrid : r.id = id
      · rw [if_pos (by simpa using hrid)] at hr'
        refine ⟨f r, hr', hid r, ?_⟩
        rcases hc.status r with hkeep | ⟨propertyId, before, hf, ht⟩
        · exact .inl hkeep
        · obtain ⟨b, hb, hread⟩ := hf
          obtain ⟨hmem, hbid, -, -⟩ := reservationOf_eq_some.mp hread
          rcases hv _ _ hb r hr hrid with ⟨r₁, hr₁, hid₁, hs₁⟩ | ⟨r₀, hr₀, hid₀, hs₀⟩
          · -- the write leaves the status as it is
            rw [eq_of_key_eq hr₁ hr' (by rw [hid₁, hid, hrid])] at hs₁
            exact .inl hs₁
          · -- the stored status is the one that was read
            rw [eq_of_key_eq hr₀ hmem (hid₀.trans hbid.symm)] at hs₀
            exact .inr (hs₀ ▸ ht)
      · rw [if_neg (by simpa using hrid)] at hr'
        exact ⟨r, hr', rfl, .inl rfl⟩
  | other hdb => exact .of_same fun r hr => ⟨r, by rw [(hdb now).2]; exact hr, rfl, rfl⟩
  | created hk hq hdb htype hroom hs =>
    obtain ⟨-, hsame | hrows⟩ := hdb now
    · exact .of_same fun r hr => ⟨r, hsame ▸ hr, rfl, rfl⟩
    · exact .of_same fun r hr => ⟨r, hrows ▸ mem_insert_of_mem hr, rfl, rfl⟩
  | swapped t hk hq hne hfa hfb hra hrb htype hca hcb hdb =>
    refine .of_same fun r hr => ?_
    simp only [(hdb now).2, mem_update]
    refine ⟨_, ⟨_, ⟨r, hr, rfl⟩, rfl⟩, ?_⟩
    split_ifs <;> exact ⟨rfl, rfl⟩
  | allocated hk hq hpend hoff hp => exact .of_same fun r hr => hp.status hr

/-! ## Clerks and workers together -/

/-- Whoever acts on reservations: a call of the service, or a worker at its hour. -/
inductive Actor where
  | call (c : Call)
  | nightAudit (now : ℤ)
  | holdExpiry (now : ℤ)

def Actor.prog : Actor → Op Unit
  | .call c => c.prog
  | .nightAudit now => do
    let _ ← NightAuditWorker.autoNoShow now
  | .holdExpiry now => do
    let _ ← HoldExpiryWorker.run now

/-- What an actor writes follows the table if the status its session read is current. -/
def Lawful (h : Trace) (w : HotelDb → HotelDb) : Prop :=
  ∀ i now, (∀ l b, .saw l b ∈ h → OnCurrentStatus i w l b now) → FollowsTable now (w now)

theorem sweep_lawful {p : Reservation → Bool} {f : Reservation → Reservation}
    {hf : ∀ r, (f r).id = r.id}
    (hp : ∀ r, p r = true → canTransition r.status (f r).status = true) :
    (sweepReservations p f hf).WritesUnder Lawful := by
  simp only [Prog.WritesUnder, sweepReservations, wp_write_idle, trivially]
  intro i now _ r hr
  simp only [mem_update]
  refine ⟨_, ⟨r, hr, rfl⟩, ?_⟩
  by_cases hpr : p r = true
  · rw [if_pos hpr]
    exact ⟨hf r, .inr (hp r hpr)⟩
  · rw [if_neg hpr]
    exact ⟨rfl, .inl rfl⟩

theorem Actor.lawful (a : Actor) : a.prog.WritesUnder Lawful := by
  cases a with
  | call c => exact c.writes.mono fun h w hc i now hv => hc.followsTable hv
  | nightAudit now =>
    refine wp_bind _ _ |>.mpr (sweep_lawful fun r hr => ?_)
    simp only [and_decide_eq] at hr
    simp [hr.1.1, canTransition, RESERVATION_TRANSITIONS]
  | holdExpiry now =>
    refine wp_bind _ _ |>.mpr (sweep_lawful fun r hr => ?_)
    simp only [and_decide_eq] at hr
    simp [hr.1.1, canTransition, RESERVATION_TRANSITIONS]

theorem FollowsTable.terminal {db db' : HotelDb} (h : FollowsTable db db') {id : Id}
    {st : ReservationStatus} (ht : RESERVATION_TRANSITIONS st = [])
    (hr : ∃ r ∈ db.reservations, r.id = id ∧ r.status = st) :
    ∃ r ∈ db'.reservations, r.id = id ∧ r.status = st := by
  obtain ⟨r, hr, rfl, rfl⟩ := hr
  obtain ⟨r', hr', hid, hsame | hstep⟩ := h r hr
  · exact ⟨r', hr', hid, hsame⟩
  · simp [canTransition, ht] at hstep

/-- Status changes follow the table in every schedule in which each change is made on the
status that was read; then a terminal reservation keeps its status for good. -/
theorem schedule_followsTable {db : HotelDb} {actors : List Actor} {evs : List Event}
    (hvalid : ValidRun OnCurrentStatus (Config.start db (actors.map Actor.prog)) evs) :
    (Config.start db (actors.map Actor.prog)).EveryStep FollowsTable evs ∧
      ∀ evs₁ evs₂ c₁ c₂, evs = evs₁ ++ evs₂ →
        (Config.start db (actors.map Actor.prog)).run evs₁ = some c₁ → c₁.run evs₂ = some c₂ →
        ∀ r ∈ c₁.db.reservations, RESERVATION_TRANSITIONS r.status = [] →
          ∃ r' ∈ c₂.db.reservations, r'.id = r.id ∧ r'.status = r.status := by
  have hwrites : ∀ (i : ℕ) p, (actors.map Actor.prog)[i]? = some p → p.WritesUnder Lawful := by
    intro i p hp
    rw [List.getElem?_map, Option.map_eq_some_iff] at hp
    obtain ⟨a, -, rfl⟩ := hp
    exact a.lawful
  have hsteps := Config.run_steps hwrites FollowsTable.refl
    (fun i h w now hw hreads => hw i now hreads) evs hvalid
  refine ⟨hsteps, ?_⟩
  rintro evs₁ evs₂ c₁ c₂ rfl hrun₁ hrun₂ r hr ht
  exact Config.EveryStep.invariant (fun _ _ hs hq => hs.terminal ht hq) evs₂ c₁
    (Config.EveryStep.drop evs₁ _ hsteps hrun₁) hrun₂ ⟨r, hr, rfl, rfl⟩

/-! ### A cancelled booking that comes back -/

/-- One enquiry, for which a clerk confirms while another cancels. -/
def reviveDb : HotelDb where
  reservations := (∅ : Table Reservation.id).insert
    { id := 1, propertyId := 1, roomTypeId := 7, roomId := none, reservationNumber := 1
      guest := { guestName := "Guest", guestPhone := "0" }
      checkIn := 10, checkOut := 12, ordered := twoNights_ordered, status := .PENDING
      ratePaise := 100000, totalPaise := 200000 }
  rooms := (∅ : Table Room.id).insert
    { id := 101, propertyId := 1, roomTypeId := 7, number := "101", status := .AVAILABLE }
  roomTypes := (∅ : Table RoomType.id).insert
    { id := 7, propertyId := 1, name := "Deluxe", baseRate := 100000 }

def reviveActors : List Actor :=
  [.call { env := { now := 0 }, propertyId := 1, action := .confirm 1 },
   .call { env := { now := 0 }, propertyId := 1, action := .cancel 1 "changed plans" }]

/-- The cancellation runs from start to end after the confirmation has made its checks. -/
def reviveFirst : List Event := List.replicate 4 (.step 0) ++ List.replicate 6 (.step 1)

def reviveThen : List Event := List.replicate 4 (.step 0)

/-- CANCELLED becomes CONFIRMED, and both calls have succeeded. -/
theorem cancelled_comes_back :
    ∃ c₁ c₂, (Config.start reviveDb (reviveActors.map Actor.prog)).run reviveFirst = some c₁ ∧
      c₁.run reviveThen = some c₂ ∧
      c₁.db.reservations.rows.map (·.status) = [.CANCELLED] ∧
      c₂.db.reservations.rows.map (·.status) = [.CONFIRMED] ∧
      (∀ s ∈ c₂.sessions, s.finished) ∧
      ¬(Config.start reviveDb (reviveActors.map Actor.prog)).EveryStep FollowsTable
        (reviveFirst ++ reviveThen) :=
  ⟨_, _, rfl, rfl, by decide, by decide, by decide, by decide⟩

/-- The confirmation, and the cancellation after it. -/
theorem serial_followsTable :
    (Config.start reviveDb (reviveActors.map Actor.prog)).EveryStep FollowsTable
        (List.replicate 8 (.step 0) ++ List.replicate 6 (.step 1)) ∧
      ((Config.start reviveDb (reviveActors.map Actor.prog)).run
        (List.replicate 8 (.step 0) ++ List.replicate 6 (.step 1))).map
          (fun c => c.db.reservations.rows.map (·.status)) = some [.CANCELLED] :=
  ⟨(schedule_followsTable (by decide)).1, by decide⟩

end Travelo
