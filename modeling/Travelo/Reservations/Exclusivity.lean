import Travelo.Claims.Exclusive
import Travelo.ReadCommitted.Schedule
import Travelo.Reservations.Calls

/-!
# One room, one stay

A live CONFIRMED or CHECKED_IN reservation with a room claims the room for its nights
`[checkIn, checkOut)`; `NoDoubleBooking` is `Claims.Exclusive` for these claims.

`Commit.wellBooked` is the step: a write keeps the book exclusive if what its call had
read is `StillValid` on the state the write lands on. It is used twice:

* calls one after another always write on what they read (`runCalls_noDoubleBooking`);
* interleaved calls need it as a condition (`schedule_noDoubleBooking`); without it two
  confirmations take one room (`double_booking`).
-/

namespace Travelo

open ReadCommitted ReservationsService Claims

/-- The nights of a stay. -/
def Reservation.span (r : Reservation) : Span ℤ := ⟨r.checkIn, r.checkOut, r.ordered⟩

/-- The room and the nights a reservation holds. -/
def Reservation.claim (r : Reservation) : Option (Id × Span ℤ) :=
  if r.occupies then r.roomId.map fun room => (room, r.span) else none

/-- No two live CONFIRMED or CHECKED_IN reservations hold one room on overlapping stays. -/
def NoDoubleBooking (db : HotelDb) : Prop :=
  ∀ a ∈ db.reservations.rows, ∀ b ∈ db.reservations.rows, a.id ≠ b.id → a.occupies → b.occupies →
    a.roomId ≠ none → a.roomId = b.roomId → overlaps a b = false

instance (db : HotelDb) : Decidable (NoDoubleBooking db) := by
  unfold NoDoubleBooking
  infer_instance

theorem Reservation.claim_eq_some {r : Reservation} {room : Id} {s : Span ℤ} :
    r.claim = some (room, s) ↔ r.occupies = true ∧ r.roomId = some room ∧ s = r.span := by
  unfold claim
  by_cases ho : r.occupies = true
  · simp [ho, eq_comm]
  · simp [ho]

theorem noDoubleBooking_iff {db : HotelDb} :
    NoDoubleBooking db ↔ Exclusive Reservation.claim db.reservations := by
  constructor
  · intro hx a ha b hb hne room s s' hca hcb hm
    obtain ⟨hoa, hra, rfl⟩ := Reservation.claim_eq_some.mp hca
    obtain ⟨hob, hrb, rfl⟩ := Reservation.claim_eq_some.mp hcb
    have hno := hx a ha b hb hne hoa hob (by simp [hra]) (by rw [hra, hrb])
    simp only [overlaps, Bool.and_eq_false_iff, decide_eq_false_iff_not] at hno
    exact hno.elim (fun h => h hm.1) fun h => h hm.2
  · intro hx a ha b hb hne hoa hob hroom hrb
    obtain ⟨room, hra⟩ := Option.ne_none_iff_exists'.mp hroom
    rw [hra] at hrb
    by_contra hover
    have hmeets : a.checkIn < b.checkOut ∧ b.checkIn < a.checkOut := by simpa [overlaps] using hover
    exact hx a ha b hb hne room _ _ (Reservation.claim_eq_some.mpr ⟨hoa, hra, rfl⟩)
      (Reservation.claim_eq_some.mpr ⟨hob, hrb.symm, rfl⟩) hmeets

/-- What the room numbers of a property book: the property of a room never changes, a stay
has a room of its own property, and no room is booked twice. -/
structure WellBooked (propertyOf : Id → Option Id) (db : HotelDb) : Prop where
  rooms : ∀ room ∈ db.rooms, propertyOf room.id = some room.propertyId
  housed : ∀ r ∈ db.reservations, ∀ roomId, r.roomId = some roomId →
    propertyOf roomId = some r.propertyId
  exclusive : Exclusive Reservation.claim db.reservations

/-! ## Reads that are still valid -/

/-- The row `r` is the stay `r₀` that was read: same room, same nights, and occupying only if
it was. -/
@[mk_iff] structure SameStay (r r₀ : Reservation) : Prop where
  propertyId : r.propertyId = r₀.propertyId
  roomId : r.roomId = r₀.roomId
  checkIn : r.checkIn = r₀.checkIn
  checkOut : r.checkOut = r₀.checkOut
  occupies : r.occupies = true → r₀.occupies = true

/-- What was read in the state `base` still holds in the state `now`: the reservation is the
same stay, nothing has come to clash with the probe, the arrivals are the same stays. -/
def StillValid : Look → HotelDb → HotelDb → Prop
  | .reservation id, base, now =>
    ∀ r ∈ now.reservations, r.id = id → ∃ r₀ ∈ base.reservations, r₀.id = id ∧ SameStay r r₀
  | .roomStays q, base, now =>
    ∀ r ∈ now.reservations, q.clashes r = true →
      ∃ r₀ ∈ base.reservations, r₀.id = r.id ∧ q.clashes r₀ = true
  | .arrivals propertyId fromDate toDate, base, now =>
    ∀ r₀ ∈ arrivalsOf propertyId fromDate toDate base, ∀ r ∈ now.reservations, r.id = r₀.id →
      SameStay r r₀
  | _, _, _ => True

instance (r r₀ : Reservation) : Decidable (SameStay r r₀) :=
  decidable_of_iff _ (sameStay_iff ..).symm

instance (l : Look) (base now : HotelDb) : Decidable (StillValid l base now) := by
  cases l <;> unfold StillValid <;> infer_instance

theorem SameStay.refl (r : Reservation) : SameStay r r := ⟨rfl, rfl, rfl, rfl, id⟩

theorem StillValid.refl (l : Look) (db : HotelDb) : StillValid l db db := by
  cases l with
  | reservation id => exact fun r hr hid => ⟨r, hr, hid, .refl r⟩
  | roomStays q => exact fun r hr hc => ⟨r, hr, rfl, hc⟩
  | arrivals propertyId fromDate toDate =>
    intro r₀ hr₀ r hr hid
    rw [eq_of_key_eq hr (mem_arrivalsOf.mp hr₀).1 hid]
    exact .refl r₀
  | _ => trivial

section Reads

variable {propertyOf : Id → Option Id} {h : Trace} {now : HotelDb}
  (hv : ∀ l b, .saw l b ∈ h → WellBooked propertyOf b ∧ StillValid l b now)

include hv

theorem Found.same {propertyId id : Id} {before : Reservation} (hf : Found h propertyId id before) :
    before.propertyId = propertyId ∧
      ∀ r ∈ now.reservations, r.id = id → SameStay r before ∧ r.propertyId = propertyId := by
  obtain ⟨b, hb, hread⟩ := hf
  obtain ⟨hmem, hid, hprop, -⟩ := reservationOf_eq_some.mp hread
  refine ⟨hprop, fun r hr hrid => ?_⟩
  obtain ⟨r₀, hr₀, hid₀, hsame⟩ := (hv _ _ hb).2 r hr hrid
  rw [eq_of_key_eq hr₀ hmem (hid₀.trans hid.symm)] at hsame
  exact ⟨hsame, hsame.propertyId.trans hprop⟩

theorem Found.housed {propertyId id roomId : Id} {before : Reservation}
    (hf : Found h propertyId id before) (hr : before.roomId = some roomId) :
    propertyOf roomId = some before.propertyId := by
  obtain ⟨b, hb, hread⟩ := hf
  exact (hv _ _ hb).1.housed before (reservationOf_eq_some.mp hread).1 roomId hr

theorem RoomFound.property {propertyId id : Id} {room : Room}
    (hf : RoomFound h propertyId id room) : propertyOf id = some propertyId := by
  obtain ⟨b, hb, hread⟩ := hf
  obtain ⟨hmem, rfl, rfl, -⟩ := roomOf_eq_some.mp hread
  exact (hv _ _ hb).1.rooms room hmem

theorem Cleared.still {q : RoomProbe} (hc : Cleared h q) : q.Clear now := by
  obtain ⟨b, hb, hclear⟩ := hc
  intro r hr
  by_contra hclash
  obtain ⟨r₀, hr₀, -, hc₀⟩ := (hv _ _ hb).2 r hr (by simpa using hclash)
  rw [hclear r₀ hr₀] at hc₀
  exact Bool.false_ne_true hc₀

end Reads

variable {propertyOf : Id → Option Id}

/-- A clear probe: no claim on the room meets its nights, the excluded rows apart. -/
theorem RoomProbe.Clear.free {db : HotelDb} {q : RoomProbe} (hc : q.Clear db)
    (hw : WellBooked propertyOf db) (hp : propertyOf q.roomId = some q.propertyId) {b : Reservation}
    (hb : b ∈ db.reservations) (h1 : q.excludeId ≠ some b.id) (h2 : q.excludeId2 ≠ some b.id)
    {s : Span ℤ} (hclaim : b.claim = some (q.roomId, s)) :
    ¬(q.checkIn < s.hi ∧ s.lo < q.checkOut) := by
  rintro ⟨hlo, hhi⟩
  obtain ⟨hocc, hroom, rfl⟩ := Reservation.claim_eq_some.mp hclaim
  have hprop : q.propertyId = b.propertyId := by
    simpa [hp] using hw.housed b hb q.roomId hroom
  have hclash : q.clashes b = true :=
    RoomProbe.clashes_iff.mpr ⟨hprop.symm, hroom, hocc, hhi, hlo, h1, h2⟩
  rw [hc b hb] at hclash
  exact Bool.false_ne_true hclash

/-! ## One row -/

/-- What a write may do to the row it changes: keep its claim or give it up, or take one that
is free; and its room is one of its property. -/
structure RowKept (propertyOf : Id → Option Id) (db : HotelDb) (id : Id) (r r' : Reservation) :
    Prop where
  claim : ∀ room s, r'.claim = some (room, s) →
    r.claim = some (room, s) ∨ FreeFor Reservation.claim db.reservations id room s
  housed : ∀ roomId, r'.roomId = some roomId → propertyOf roomId = some r'.propertyId

section Row

variable {propertyOf : Id → Option Id} {db : HotelDb} {id : Id} {r r' : Reservation}

theorem RowKept.of_same (hw : WellBooked propertyOf db) (hr : r ∈ db.reservations)
    (hroom : r'.roomId = r.roomId) (hprop : r'.propertyId = r.propertyId)
    (hocc : r'.occupies = true → r.occupies = true ∧ r'.span = r.span) :
    RowKept propertyOf db id r r' := by
  refine ⟨fun room s hc => .inl ?_, fun roomId h => ?_⟩
  · obtain ⟨ho, hr', rfl⟩ := Reservation.claim_eq_some.mp hc
    obtain ⟨ho', hspan⟩ := hocc ho
    exact Reservation.claim_eq_some.mpr ⟨ho', hroom ▸ hr', hspan⟩
  · rw [hprop]
    exact hw.housed r hr roomId (hroom ▸ h)

theorem RowKept.of_clear (hw : WellBooked propertyOf db)
    (hp : ∀ roomId, r'.roomId = some roomId → propertyOf roomId = some r'.propertyId)
    (hc : ∀ roomId, r'.roomId = some roomId →
      RoomProbe.Clear ⟨r'.propertyId, roomId, r'.checkIn, r'.checkOut, some id, none⟩ db) :
    RowKept propertyOf db id r r' := by
  refine ⟨fun room s hclaim => .inr fun b hb hne s' hcb hm => ?_, hp⟩
  obtain ⟨ho, hroom, rfl⟩ := Reservation.claim_eq_some.mp hclaim
  exact (hc room hroom).free hw (hp room hroom) hb (by simpa using fun h => hne h.symm) (by simp)
    hcb hm

end Row

/-- A row that is given a room found in its property and probed free for its nights. -/
theorem RowKept.of_roomed {db : HotelDb} {id : Id} {r r' : Reservation}
    (hw : WellBooked propertyOf db) {propertyId roomId : Id} {before : Reservation}
    (hr : r'.roomId = some roomId) (hprop : r'.propertyId = propertyId)
    (hin : r'.checkIn = before.checkIn) (hout : r'.checkOut = before.checkOut)
    (hp : propertyOf roomId = some propertyId)
    (hc : RoomProbe.Clear ⟨propertyId, roomId, before.checkIn, before.checkOut, some id, none⟩ db) :
    RowKept propertyOf db id r r' := by
  refine .of_clear hw (fun room hroom => ?_) fun room hroom => ?_
  · obtain rfl : roomId = room := by simpa [hr] using hroom
    rw [hprop, hp]
  · obtain rfl : roomId = room := by simpa [hr] using hroom
    rw [hprop, hin, hout]
    exact hc

theorem RowCommit.kept {c : Call} {h : Trace} {now : HotelDb} {id : Id}
    {f : Reservation → Reservation} (hc : RowCommit c h id f) (hv : c.takesRoom = true → Quiet h →
      ∀ l b, .saw l b ∈ h → WellBooked propertyOf b ∧ StillValid l b now)
    (hw : WellBooked propertyOf now) {r : Reservation} (hr : r ∈ now.reservations)
    (hid : r.id = id) : RowKept propertyOf now id r (f r) := by
  cases hc with
  | confirmed hact hq hf ht hroom hcap =>
    have hk : c.takesRoom = true := by simp [Call.takesRoom, hact]
    obtain ⟨hstay, hprop⟩ := (hf.same (hv hk hq)).2 r hr hid
    refine .of_clear hw (fun roomId hroomId => hw.housed r hr roomId hroomId) fun roomId hroomId => ?_
    have hclear := (hroom roomId (hstay.roomId ▸ hroomId)).still (hv hk hq)
    rw [← hprop, ← hstay.checkIn, ← hstay.checkOut] at hclear
    exact hclear
  | @updated before now' dto total rules hq hf hm =>
    simp only [Reservation.rescheduled]
    cases hmoving : dto.checkIn.isSome || dto.checkOut.isSome with
    | false =>
      -- the dates stay
      simp only [Bool.or_eq_false_iff, Option.isSome_eq_false_iff, Option.isNone_iff_eq_none]
        at hmoving
      rw [Reservation.withDates_eq (by simpa [hmoving] using r.ordered)]
      refine .of_same hw hr rfl rfl fun ho => ⟨ho, ?_⟩
      simp [Reservation.span, hmoving]
    | true =>
      obtain ⟨hk, hstatus, hordered, hchecked⟩ := hm hmoving
      obtain ⟨hstay, hprop⟩ := (hf.same (hv hk hq)).2 r hr hid
      rw [← hstay.checkIn, ← hstay.checkOut] at hordered hchecked
      rw [Reservation.withDates_eq hordered]
      rcases hstatus with hpending | hconfirmed
      · -- an enquiry holds nothing
        have hfree : before.occupies = false := by
          simp [Reservation.occupies, OCCUPYING_STATUSES, hpending]
        refine .of_same hw hr rfl rfl fun ho => ?_
        rw [hstay.occupies ho] at hfree
        exact absurd hfree (by simp)
      · obtain ⟨hroom, -⟩ := hchecked hconfirmed
        refine .of_clear hw (fun roomId hroomId => hw.housed r hr roomId hroomId)
          fun roomId hroomId => ?_
        have hclear := (hroom roomId (hstay.roomId ▸ hroomId)).still (hv hk hq)
        rw [← hprop] at hclear
        exact hclear
  | @extended dto before ratePaise total now' hact hq hf hs hlater hroom hcap =>
    have hk : c.takesRoom = true := by simp [Call.takesRoom, hact]
    obtain ⟨hstay, hprop⟩ := (hf.same (hv hk hq)).2 r hr hid
    have hordered : r.checkIn < dto.checkOut := by
      rw [hstay.checkIn]
      exact before.ordered.trans hlater
    simp only [Reservation.rescheduled]
    rw [Reservation.withDates_eq hordered]
    refine .of_clear hw (fun roomId hroomId => hw.housed r hr roomId hroomId)
      fun roomId hroomId => ?_
    have hclear := (hroom roomId (hstay.roomId ▸ hroomId)).still (hv hk hq)
    rw [← hprop, ← hstay.checkIn] at hclear
    exact hclear
  | moved hact _ hq hf hs hroom hready htype hclear =>
    have hk : c.takesRoom = true := by simp [Call.takesRoom, hact]
    obtain ⟨hstay, hprop⟩ := (hf.same (hv hk hq)).2 r hr hid
    exact .of_roomed hw rfl hprop hstay.checkIn hstay.checkOut (hroom.property (hv hk hq))
      (hclear.still (hv hk hq))
  | assigned hk hq hf hroom htype hclear =>
    obtain ⟨hstay, hprop⟩ := (hf.same (hv hk hq)).2 r hr hid
    exact .of_roomed hw rfl hprop hstay.checkIn hstay.checkOut (hroom.property (hv hk hq))
      (hclear.still (hv hk hq))
  | checkedIn hk hq hf ht hroom htype hclear =>
    obtain ⟨hstay, hprop⟩ := (hf.same (hv hk hq)).2 r hr hid
    exact .of_roomed hw rfl hprop hstay.checkIn hstay.checkOut (hroom.property (hv hk hq))
      (hclear.still (hv hk hq))
  | locked => exact .of_same hw hr rfl rfl fun ho => ⟨ho, rfl⟩
  | paid => exact .of_same hw hr rfl rfl fun ho => ⟨ho, rfl⟩
  | checkedOut hf ht =>
    exact .of_same hw hr rfl rfl fun ho => by
      simp [Reservation.occupies, OCCUPYING_STATUSES] at ho
  | cancelled hq hf ht =>
    exact .of_same hw hr rfl rfl fun ho => by
      simp [Reservation.occupies, OCCUPYING_STATUSES] at ho
  | noShow hq hf ht =>
    exact .of_same hw hr rfl rfl fun ho => by
      simp [Reservation.occupies, OCCUPYING_STATUSES] at ho

/-! ## One write -/

theorem Frame.room_property {db db' : HotelDb} (hf : Frame db db')
    (h : ∀ room ∈ db.rooms, propertyOf room.id = some room.propertyId) :
    ∀ room ∈ db'.rooms, propertyOf room.id = some room.propertyId := by
  obtain ⟨g, hg, hrows⟩ := hf.rooms
  intro room hroom
  rw [← mem_rows, hrows, List.mem_map] at hroom
  obtain ⟨old, hold, rfl⟩ := hroom
  obtain ⟨hid, hprop, -⟩ := hg old
  rw [hid, hprop]
  exact h old hold

section Write

variable {propertyOf : Id → Option Id} {c : Call} {h : Trace} {now : HotelDb}
  {w : HotelDb → HotelDb}

variable {db db' : HotelDb}

theorem WellBooked.update_row (hw : WellBooked propertyOf db) {id : Id}
    {f : Reservation → Reservation} (hf : ∀ r, (f r).id = r.id) (hframe : Frame db db')
    (hrows : db'.reservations = db.reservations.update (fun r => r.id = id) f hf)
    (hkept : ∀ r ∈ db.reservations, r.id = id → RowKept propertyOf db id r (f r)) :
    WellBooked propertyOf db' := by
  refine ⟨hframe.room_property hw.rooms, ?_, ?_⟩
  · intro r hr roomId hroom
    rw [hrows] at hr
    obtain ⟨r₀, hr₀, rfl⟩ := Table.mem_update.mp hr
    by_cases hid : r₀.id = id
    · simp only [hid, decide_true, if_true] at hroom ⊢
      exact (hkept r₀ hr₀ hid).housed roomId hroom
    · simp only [hid, decide_false, Bool.false_eq_true, if_false] at hroom ⊢
      exact hw.housed r₀ hr₀ roomId hroom
  · rw [hrows]
    exact hw.exclusive.update_key fun r hr hid => (hkept r hr hid).claim

theorem WellBooked.of_frame (hw : WellBooked propertyOf db) (hframe : Frame db db')
    (hrows : db'.reservations = db.reservations) :
    WellBooked propertyOf db' :=
  ⟨hframe.room_property hw.rooms, by rw [hrows]; exact hw.housed, by rw [hrows]; exact hw.exclusive⟩

theorem WellBooked.insert_row {row : Reservation} (hw : WellBooked propertyOf db)
    (hframe : Frame db db') (hrows : db'.reservations = db.reservations.insert row)
    (hp : ∀ roomId, row.roomId = some roomId → propertyOf roomId = some row.propertyId)
    (hs : row.occupies = true → ∀ roomId, row.roomId = some roomId →
      RoomProbe.Clear ⟨row.propertyId, roomId, row.checkIn, row.checkOut, none, none⟩ db) :
    WellBooked propertyOf db' := by
  refine ⟨hframe.room_property hw.rooms, ?_, ?_⟩
  · intro r hr roomId hroom
    rw [hrows] at hr
    rcases mem_or_eq_of_mem_insert hr with hold | rfl
    · exact hw.housed r hold roomId hroom
    · exact hp roomId hroom
  · rw [hrows]
    refine hw.exclusive.insert fun room s hclaim b hb s' hcb hm => ?_
    obtain ⟨ho, hroom, rfl⟩ := Reservation.claim_eq_some.mp hclaim
    exact (hs ho room hroom).free hw (hp room hroom) hb (by simp) (by simp) hcb hm

/-- Two stays that exchange rooms, each probed free for the other apart from the two. -/
theorem WellBooked.swap_rows {propertyId id otherId ra rb : Id} {a b : Reservation} {t : ℤ}
    (hw : WellBooked propertyOf db) (hne : id ≠ otherId)
    (ha : ∀ r ∈ db.reservations, r.id = id → SameStay r a)
    (hb : ∀ r ∈ db.reservations, r.id = otherId → SameStay r b) (hpa : a.propertyId = propertyId)
    (hpb : b.propertyId = propertyId) (hra : a.roomId = some ra) (hrb : b.roomId = some rb)
    (hca : RoomProbe.Clear ⟨propertyId, rb, a.checkIn, a.checkOut, some id, some otherId⟩ db)
    (hcb : RoomProbe.Clear ⟨propertyId, ra, b.checkIn, b.checkOut, some otherId, some id⟩ db)
    (hpra : propertyOf ra = some propertyId) (hprb : propertyOf rb = some propertyId)
    (hframe : Frame db db') (hrows : db'.reservations =
      (db.reservations.update (fun r => r.id = id) fun r =>
        { r with roomId := some rb, updatedAt := t }).update (fun r => r.id = otherId) fun r =>
          { r with roomId := some ra, updatedAt := t }) :
    WellBooked propertyOf db' := by
  refine ⟨hframe.room_property hw.rooms, ?_, ?_⟩
  · intro r hr roomId hroom
    rw [hrows] at hr
    obtain ⟨r₁, hr₁, rfl⟩ := Table.mem_update.mp hr
    obtain ⟨r₀, hr₀, rfl⟩ := Table.mem_update.mp hr₁
    by_cases hid : r₀.id = id
    · have hprop := (ha r₀ hr₀ hid).propertyId.trans hpa
      obtain rfl : rb = roomId := by simpa [hid, hne] using hroom
      simpa [hid, hne, hprop] using hprb
    · by_cases hid' : r₀.id = otherId
      · have hprop := (hb r₀ hr₀ hid').propertyId.trans hpb
        obtain rfl : ra = roomId := by simpa [hid', hne.symm] using hroom
        simpa [hid', hne.symm, hprop] using hpra
      · simp only [hid, hid', decide_false, Bool.false_eq_true, if_false] at hroom ⊢
        exact hw.housed r₀ hr₀ roomId hroom
  · rw [hrows]
    refine hw.exclusive.update_two hne ?_ ?_ ?_
    · intro r hr hid room s hclaim r' hr' hk hl s' hcr hm
      obtain ⟨-, hroom, rfl⟩ := Reservation.claim_eq_some.mp hclaim
      obtain rfl : rb = room := by simpa using hroom
      refine hca.free hw hprb hr' (by simpa using fun h => hk h.symm)
        (by simpa using fun h => hl h.symm) hcr ?_
      rw [← (ha r hr hid).checkIn, ← (ha r hr hid).checkOut]
      exact hm
    · intro r hr hid room s hclaim r' hr' hk hl s' hcr hm
      obtain ⟨-, hroom, rfl⟩ := Reservation.claim_eq_some.mp hclaim
      obtain rfl : ra = room := by simpa using hroom
      refine hcb.free hw hpra hr' (by simpa using fun h => hl h.symm)
        (by simpa using fun h => hk h.symm) hcr ?_
      rw [← (hb r hr hid).checkIn, ← (hb r hr hid).checkOut]
      exact hm
    · -- the two rows themselves: they meet only if they shared the room before
      intro r hr hid r' hr' hid' room s s' hclaim hclaim' hm
      obtain ⟨ho, hroom, rfl⟩ := Reservation.claim_eq_some.mp hclaim
      obtain ⟨ho', hroom', rfl⟩ := Reservation.claim_eq_some.mp hclaim'
      obtain rfl : rb = room := by simpa using hroom
      obtain rfl : ra = rb := by simpa using hroom'
      have hold : r.claim = some (ra, r.span) :=
        Reservation.claim_eq_some.mpr ⟨ho, (ha r hr hid).roomId.trans hra, rfl⟩
      have hold' : r'.claim = some (ra, r'.span) :=
        Reservation.claim_eq_some.mpr ⟨ho', (hb r' hr' hid').roomId.trans hrb, rfl⟩
      exact hw.exclusive r hr r' hr' (by rw [hid, hid']; exact hne) ra _ _ hold hold' hm

/-! ### Auto-allocation -/

variable {pending : List Reservation} {assigned : List (Id × Id)} {offerable : List Room}
  {propertyId : Id}

theorem Placed.mem_pending (hp : Placed h propertyId pending offerable assigned w) :
    ∀ a ∈ assigned, ∃ r ∈ pending, r.id = a.1 := by
  induction hp with
  | nil => simp
  | snoc _ hres _ _ _ _ ih =>
    intro a ha
    rcases List.mem_append.mp ha with hold | hnew
    · exact ih a hold
    · obtain rfl := List.mem_singleton.mp hnew
      exact ⟨_, hres, rfl⟩

theorem Placed.unplaced (hp : Placed h propertyId pending offerable assigned w) {db : HotelDb}
    {r : Reservation} (hr : r ∈ db.reservations) (hno : ∀ a ∈ assigned, a.1 ≠ r.id) :
    r ∈ (w db).reservations := by
  induction hp with
  | nil => exact hr
  | snoc _ _ _ _ _ _ ih =>
    have hold := ih fun a ha => hno a (List.mem_append_left _ ha)
    have hne := hno _ (List.mem_append_right _ (List.mem_singleton_self _))
    simp only [HotelDb.recordEvent, HotelDb.updateReservation, mem_update]
    exact ⟨r, hold, by simp [hne.symm]⟩

/-- A row after the placements: as it was, or the same stay in a room it was given. -/
theorem Placed.rows (hp : Placed h propertyId pending offerable assigned w) {db : HotelDb}
    {r : Reservation} (hr : r ∈ (w db).reservations) :
    ∃ r₀ ∈ db.reservations, r₀.id = r.id ∧ r.propertyId = r₀.propertyId ∧
      r.checkIn = r₀.checkIn ∧ r.checkOut = r₀.checkOut ∧ r.occupies = r₀.occupies ∧
      (((∀ a ∈ assigned, a.1 ≠ r.id) ∧ r = r₀) ∨
        ∃ room, (r.id, room) ∈ assigned ∧ r.roomId = some room) := by
  induction hp generalizing r with
  | nil => exact ⟨r, hr, rfl, rfl, rfl, rfl, rfl, .inl ⟨by simp, rfl⟩⟩
  | @snoc assigned w res room t e _ _ _ _ _ _ ih =>
    simp only [HotelDb.recordEvent, HotelDb.updateReservation, mem_update] at hr
    obtain ⟨r₁, hr₁, rfl⟩ := hr
    obtain ⟨r₀, hr₀, hid, hprop, hin, hout, hocc, hcase⟩ := ih hr₁
    by_cases hres : r₁.id = res.id
    · refine ⟨r₀, hr₀, by simp [hres, hid], by simp [hres, hprop], by simp [hres, hin],
        by simp [hres, hout], ?_, .inr ⟨room.id, by simp [hres], by simp [hres]⟩⟩
      rw [← hocc]
      simp [hres, Reservation.occupies]
    · simp only [hres, decide_false, Bool.false_eq_true, if_false]
      refine ⟨r₀, hr₀, hid, hprop, hin, hout, hocc, ?_⟩
      rcases hcase with ⟨hno, rfl⟩ | ⟨room', hmem, hroom'⟩
      · refine .inl ⟨fun a ha => ?_, rfl⟩
        rcases List.mem_append.mp ha with hold | hnew
        · exact hno a hold
        · obtain rfl := List.mem_singleton.mp hnew
          exact fun heq => hres heq.symm
      · exact .inr ⟨room', List.mem_append_left _ hmem, hroom'⟩

theorem not_overlaps_of_pool {pool : List Reservation} {idA : Id} {b : Reservation}
    (hno : overlapsPool pool idA b = false) (hmem : ∃ a ∈ pool, a.id = idA) :
    ∃ a ∈ pool, a.id = idA ∧ ¬(a.checkIn < b.checkOut ∧ b.checkIn < a.checkOut) := by
  unfold overlapsPool at hno
  cases hf : pool.find? fun r => r.id = idA with
  | none =>
    obtain ⟨a, ha, hid⟩ := hmem
    simpa [hid] using List.find?_eq_none.mp hf a ha
  | some a =>
    rw [hf] at hno
    exact ⟨a, List.mem_of_find?_eq_some hf, by simpa using List.find?_some hf, by simpa using hno⟩

theorem Placed.clear (hp : Placed h propertyId pending offerable assigned w) {b : HotelDb}
    {res : Reservation} {room : Id}
    (hpend : ∀ r₀ ∈ pending, ∀ r ∈ now.reservations, r.id = r₀.id → SameStay r r₀)
    (hclaimed : ∀ a ∈ assigned, a.2 = room → overlapsPool pending a.1 res = false)
    (hprobe : StillValid (.roomStays ⟨propertyId, room, res.checkIn, res.checkOut, some res.id,
      none⟩) b now)
    (hclear : RoomProbe.Clear ⟨propertyId, room, res.checkIn, res.checkOut, some res.id, none⟩
      (w b)) :
    RoomProbe.Clear ⟨propertyId, room, res.checkIn, res.checkOut, some res.id, none⟩ (w now) := by
  intro r hr
  by_contra hclash
  rw [Bool.not_eq_false] at hclash
  obtain ⟨r₀, hr₀, hid, hprop, hin, hout, hocc, ⟨hno, rfl⟩ | ⟨room', hmem, hroom'⟩⟩ := hp.rows hr
  · -- not placed by this run: it clashed already when the room was probed
    obtain ⟨r₁, hr₁, hid₁, hclash₁⟩ := hprobe r hr₀ hclash
    have hkept := hp.unplaced hr₁ fun a ha heq => hno a ha (heq.trans hid₁)
    rw [hclear r₁ hkept] at hclash₁
    exact Bool.false_ne_true hclash₁
  · -- placed by this run: it claimed the room, so the two stays do not overlap
    obtain ⟨-, hroom, -, hlo, hhi, -, -⟩ := RoomProbe.clashes_iff.mp hclash
    obtain rfl : room' = room := by simpa [hroom'] using hroom
    obtain ⟨a, ha, haid, hdisjoint⟩ :=
      not_overlaps_of_pool (hclaimed _ hmem rfl) (hp.mem_pending _ hmem)
    have hstay := hpend a ha r₀ hr₀ (hid.trans haid.symm)
    exact hdisjoint ⟨by rw [← hstay.checkIn, ← hin]; exact hlo,
      by rw [← hstay.checkOut, ← hout]; exact hhi⟩

theorem Placed.wellBooked (hp : Placed h propertyId pending offerable assigned w)
    (hw : WellBooked propertyOf now) (hv : ∀ l b, .saw l b ∈ h → StillValid l b now)
    (hpend : ∀ r₀ ∈ pending, r₀.propertyId = propertyId ∧
      ∀ r ∈ now.reservations, r.id = r₀.id → SameStay r r₀)
    (hoff : ∀ room ∈ offerable, propertyOf room.id = some propertyId) :
    WellBooked propertyOf (w now) := by
  induction hp with
  | nil => exact hw
  | @snoc assigned w res room t e hp hres hroom htype hclaimed hclear ih =>
    obtain ⟨b, hb, hclear⟩ := hclear
    refine ih.update_row ?_ (.of_eq rfl rfl) rfl fun r hr hid => ?_
    · exact fun _ => rfl
    obtain ⟨r₀, hr₀, hid₀, hprop, hin, hout, -, -⟩ := hp.rows hr
    obtain ⟨hres', hstay⟩ := hpend res hres
    have hsame := hstay r₀ hr₀ (hid₀.trans hid)
    exact .of_roomed ih rfl (hprop.trans (hsame.propertyId.trans hres')) (hin.trans hsame.checkIn)
      (hout.trans hsame.checkOut) (hoff room hroom)
      (hp.clear (fun r₁ hr₁ => (hpend r₁ hr₁).2) hclaimed (hv _ _ hb) hclear)

theorem Commit.wellBooked (hc : Commit c h w)
    (hv : c.takesRoom = true → Quiet h →
      ∀ l b, .saw l b ∈ h → WellBooked propertyOf b ∧ StillValid l b now)
    (hw : WellBooked propertyOf now) : WellBooked propertyOf (w now) := by
  cases hc with
  | row hc hid hdb =>
    obtain ⟨hframe, hsame | hrows⟩ := hdb now
    · exact hw.of_frame hframe hsame
    · exact hw.update_row hid hframe hrows fun r hr hrid => hc.kept hv hw hr hrid
  | other hdb => exact hw.of_frame (hdb now).1 (hdb now).2
  | @created row w rules hk hq hdb htype hroom hs =>
    obtain ⟨hframe, hsame | hrows⟩ := hdb now
    · exact hw.of_frame hframe hsame
    · refine hw.insert_row hframe hrows (fun roomId hr => ?_) fun ho roomId hr => ?_
      · obtain ⟨room, hfound, -⟩ := hroom roomId hr
        exact hfound.property (hv hk hq)
      · rcases hs with hpending | ⟨-, hclear, -⟩
        · simp [Reservation.occupies, OCCUPYING_STATUSES, hpending] at ho
        · exact (hclear roomId hr).still (hv hk hq)
  | swapped t hk hq hne hfa hfb hra hrb htype hca hcb hdb =>
    obtain ⟨hprop, hsame⟩ := hfa.same (hv hk hq)
    obtain ⟨hprop', hsame'⟩ := hfb.same (hv hk hq)
    exact hw.swap_rows hne (fun r hr hid => (hsame r hr hid).1)
      (fun r hr hid => (hsame' r hr hid).1) hprop hprop' hra hrb (hca.still (hv hk hq))
      (hcb.still (hv hk hq)) (hprop ▸ hfa.housed (hv hk hq) hra)
      (hprop' ▸ hfb.housed (hv hk hq) hrb) (hdb now).1 (hdb now).2
  | allocated hk hq hpend hoff hp =>
    obtain ⟨b, hb, rfl⟩ := hpend
    obtain ⟨b', hb', hrooms⟩ := hoff
    refine hp.wellBooked hw (fun l b hm => (hv hk hq l b hm).2) (fun r₀ hr₀ => ?_)
      fun room hroom => ?_
    · exact ⟨(mem_arrivalsOf.mp hr₀).2.1, (hv hk hq _ _ hb).2 r₀ hr₀⟩
    · obtain ⟨hmem, hprop⟩ := hrooms room hroom
      rw [← hprop]
      exact (hv hk hq _ _ hb').1.rooms room hmem

end Write

/-! ## Calls one after another -/

/-- The rooms of a state, each with its property. -/
def propertyOfRoom (db : HotelDb) (id : Id) : Option Id := (db.rooms.find? id).map Room.propertyId

/-- From an empty book, calls that run one after another book no room twice, whatever their
arguments and whichever of their statements fail. -/
theorem runCalls_noDoubleBooking (db : HotelDb) (calls : List (Call × (ℕ → Option String))) :
    NoDoubleBooking (runCalls calls { db with reservations := ∅ }) := by
  have hstart : WellBooked (propertyOfRoom db) { db with reservations := ∅ } := by
    refine ⟨fun room hroom => ?_, fun r hr => absurd hr (notMem_empty r), exclusive_empty⟩
    simp only [propertyOfRoom, find?_key hroom, Option.map_some]
  have hstep : ∀ (c : Call) h w now, Commit c h w →
      (Quiet h → True ∧ ∀ l b, .saw l b ∈ h → b = now) →
      WellBooked (propertyOfRoom db) now → WellBooked (propertyOfRoom db) (w now) := by
    intro c h w now hw hq hnow
    refine hw.wellBooked (fun _ hquiet l b hm => ?_) hnow
    obtain rfl := (hq hquiet).2 l b hm
    exact ⟨hnow, .refl l b⟩
  have hend := runCalls_invariant hstep calls _ (eachCall_true calls _) hstart
  exact noDoubleBooking_iff.mpr hend.exclusive

/-! ## Interleaved calls -/

/-- The rooms of the stays are rooms of their property. -/
def Housed (db : HotelDb) : Prop :=
  ∀ r ∈ db.reservations, ∀ roomId ∈ r.roomId.toList, propertyOfRoom db roomId = some r.propertyId

instance (db : HotelDb) : Decidable (Housed db) := by
  unfold Housed
  infer_instance

/-- A call that can take a room writes on reads that still hold. -/
def OnValidReads (calls : List Call) (i : ℕ) (_ : HotelDb → HotelDb) (l : Look)
    (base now : HotelDb) : Prop :=
  (calls[i]?.map Call.takesRoom).getD false = true → StillValid l base now

instance (calls : List Call) (i : ℕ) (w : HotelDb → HotelDb) (l : Look) (base now : HotelDb) :
    Decidable (OnValidReads calls i w l base now) := by
  unfold OnValidReads
  infer_instance

/-- Interleaved calls book no room twice if each one that takes a room writes on reads that
still hold. -/
theorem schedule_noDoubleBooking {db : HotelDb} {calls : List Call} {evs : List Event}
    {c : Config HotelDb RowKey Look Err Unit} (hbook : NoDoubleBooking db) (hhoused : Housed db)
    (hvalid : ValidRun (OnValidReads calls) (Config.start db (calls.map Call.prog)) evs)
    (hrun : (Config.start db (calls.map Call.prog)).run evs = some c) : NoDoubleBooking c.db := by
  have hstart : WellBooked (propertyOfRoom db) db := by
    refine ⟨fun room hroom => ?_, fun r hr roomId hroom => hhoused r hr roomId (by simp [hroom]),
      noDoubleBooking_iff.mp hbook⟩
    simp only [propertyOfRoom, find?_key hroom, Option.map_some]
  -- session `i` writes what its call writes
  have hwrites : ∀ (i : ℕ) p, (calls.map Call.prog)[i]? = some p →
      p.WritesUnder fun h w => ∃ call, calls[i]? = some call ∧ Commit call h w := by
    intro i p hp
    rw [List.getElem?_map, Option.map_eq_some_iff] at hp
    obtain ⟨call, hcall, rfl⟩ := hp
    exact call.writes.mono fun h w hw => ⟨call, hcall, hw⟩
  have hstep : ∀ (i : ℕ) h w now, (∃ call, calls[i]? = some call ∧ Commit call h w) →
      (∀ l b, .saw l b ∈ h → WellBooked (propertyOfRoom db) b ∧ OnValidReads calls i w l b now) →
      WellBooked (propertyOfRoom db) now → WellBooked (propertyOfRoom db) (w now) := by
    rintro i h w now ⟨call, hcall, hw⟩ hreads hnow
    refine hw.wellBooked (fun htakes _ l b hm => ?_) hnow
    exact ⟨(hreads l b hm).1, (hreads l b hm).2 (by simpa [hcall] using htakes)⟩
  obtain ⟨-, -, hend⟩ := Config.run_invariant hwrites hstep hstart hvalid hrun
  exact noDoubleBooking_iff.mpr hend.exclusive

/-! ### Two enquiries for one room -/

/-- A reservation of room 101 by its number. -/
def raceReservation (id : Id) (checkIn checkOut : ℤ) (h : checkIn < checkOut) : Reservation where
  id
  propertyId := 1
  roomTypeId := 7
  roomId := some 101
  reservationNumber := id
  guest := { guestName := "Guest", guestPhone := "0" }
  checkIn
  checkOut
  ordered := h
  status := .PENDING
  ratePaise := 100000
  totalPaise := 200000

/-- Two enquiries hold room 101, for the nights 10, 11 and 11, 12. -/
def raceDb : HotelDb where
  reservations := (∅ : Table Reservation.id).insert (raceReservation 1 10 12 twoNights_ordered)
    |>.insert (raceReservation 2 11 13 (by decide))
  rooms := (∅ : Table Room.id).insert
    { id := 101, propertyId := 1, roomTypeId := 7, number := "101", status := .AVAILABLE }
  roomTypes := (∅ : Table RoomType.id).insert
    { id := 7, propertyId := 1, name := "Deluxe", baseRate := 100000 }

def raceCalls : List Call :=
  [{ env := { now := 0 }, propertyId := 1, action := .confirm 1 },
   { env := { now := 0 }, propertyId := 1, action := .confirm 2 }]

/-- Both confirmations run their checks before either commits: a probe that finds no row
locks no row. -/
def raceSchedule : List Event :=
  List.replicate 5 (.step 0) ++ List.replicate 5 (.step 1) ++ List.replicate 5 (.step 0) ++
    List.replicate 5 (.step 1)

/-- One confirmation after the other; the second finds the room taken. -/
def serialSchedule : List Event :=
  List.replicate 10 (.step 0) ++ List.replicate 4 (.step 1)

/-- The two confirmations succeed, and room 101 has two stays on night 11. -/
theorem double_booking :
    NoDoubleBooking raceDb ∧ Housed raceDb ∧
      ∃ c, (Config.start raceDb (raceCalls.map Call.prog)).run raceSchedule = some c ∧
        (∀ s ∈ c.sessions, s.finished) ∧ ¬ NoDoubleBooking c.db :=
  ⟨by decide, by decide, _, rfl, by decide, by decide⟩

/-- One after the other they are no conflict: the condition holds and so does the result. -/
theorem serial_noDoubleBooking :
    ∃ c, (Config.start raceDb (raceCalls.map Call.prog)).run serialSchedule = some c ∧
      c.db.reservations.rows.map (·.status) = [.CONFIRMED, .PENDING] ∧ NoDoubleBooking c.db :=
  ⟨_, rfl, by decide,
    schedule_noDoubleBooking (by decide) (by decide)
      (by decide : ValidRun (OnValidReads raceCalls)
        (Config.start raceDb (raceCalls.map Call.prog)) serialSchedule) rfl⟩

end Travelo
