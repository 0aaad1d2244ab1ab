import Travelo.Claims.Nights
import Travelo.Availability.Days
import Travelo.Desk

/-!
# The screen and the check

The availability screen counts the stays that touch the range; `assertTypeCapacity` counts,
night by night, the stays that cover the night. `screen_agrees_iff` says when the two are
the same rule: when one night is covered by every stay that touches the range, or is
already full.
-/

namespace Travelo

open ReadCommitted ReservationsService Claims
open DeskService (availability sellableTypes bookedTypes availabilityItem)

/-- The rooms the screen shows for a type. -/
def shownRooms (db : HotelDb) (propertyId : Id) (q : AvailabilityQueryDto) (roomTypeId : Id) :
    Option ℕ :=
  match ((availability propertyId q).run db).res with
  | .ok answer =>
    (answer.items.find? fun i => i.roomTypeId = roomTypeId).map (·.availableRooms)
  | .error _ => none

/-- The rooms of a type left on a night; negative when it is oversold. -/
def roomsLeft (db : HotelDb) (propertyId roomTypeId : Id) (night : ℤ) : ℤ :=
  roomCount db propertyId roomTypeId - occupancy db propertyId roomTypeId night

/-- Without daily rules a booking is accepted when each of its nights has a room left. -/
theorem acceptsBooking_of_noDailyRules {db : HotelDb} {propertyId roomTypeId : Id}
    {checkIn checkOut : ℤ} (hrules : NoDailyRules db propertyId roomTypeId)
    (h : checkIn < checkOut) :
    acceptsBooking db propertyId roomTypeId checkIn checkOut ↔
      ∀ night ∈ Finset.Ico checkIn checkOut, 0 < roomsLeft db propertyId roomTypeId night := by
  have hopen : DaysOpen db propertyId roomTypeId checkIn checkOut := by
    constructor <;> simp [dayClosedToArrival, dayMinLos, dayMaxLos, dayClosedToDeparture,
      dayStopSell, hrules.baseDay]
  have hcap : ∀ night, capRooms db propertyId roomTypeId night =
      roomCount db propertyId roomTypeId := by
    intro night
    simp [capRooms, dayCap, hrules.baseDay]
  rw [acceptsBooking_iff h]
  simp only [hopen, true_and, hcap, Finset.mem_Ico, roomsLeft, and_imp, sub_pos, Int.ofNat_lt]

/-! ## What the screen counts -/

theorem count_map_filter {α : Type} {l : List α} {p : α → Bool} {f : α → Id} {x : Id} :
    ((l.filter p).map f).count x = l.countP fun a => p a && f a = x := by
  rw [List.count, List.countP_map, List.countP_filter]
  apply List.countP_congr
  intro a _
  simp [and_comm]

section Counts

variable {db : HotelDb} {propertyId roomTypeId : Id} {typeIds : List Id} {checkIn checkOut : ℤ}

theorem sellableTypes_count (hmem : roomTypeId ∈ typeIds) :
    (sellableTypes propertyId typeIds db).count roomTypeId =
      roomCount db propertyId roomTypeId := by
  rw [sellableTypes, count_map_filter, roomCount, typeRooms,
    ← List.countP_eq_length_filter]
  apply List.countP_congr
  intro r _
  simp only [and_decide_eq, List.contains_iff_mem]
  constructor
  · rintro ⟨⟨hs, -⟩, ht⟩
    exact ⟨hs, ht⟩
  · rintro ⟨hs, ht⟩
    exact ⟨⟨hs, ht ▸ hmem⟩, ht⟩

theorem bookedTypes_count (hmem : roomTypeId ∈ typeIds) :
    (bookedTypes propertyId typeIds checkIn checkOut db).count roomTypeId =
      (typeStays propertyId roomTypeId checkIn checkOut none db).length := by
  rw [bookedTypes, count_map_filter, typeStays, ← List.countP_eq_length_filter]
  apply List.countP_congr
  intro r _
  simp only [occupyingOverlap, Reservation.occupies, and_decide_eq, List.contains_iff_mem]
  constructor
  · rintro ⟨⟨⟨⟨⟨⟨hp, hlive⟩, -⟩, hs⟩, hin⟩, hout⟩, ht⟩
    exact ⟨⟨hp, ht⟩, ⟨⟨⟨hlive, hs⟩, hin⟩, hout⟩, by simp⟩
  · rintro ⟨⟨hp, ht⟩, ⟨⟨⟨hlive, hs⟩, hin⟩, hout⟩, -⟩
    exact ⟨⟨⟨⟨⟨⟨hp, hlive⟩, ht ▸ hmem⟩, hs⟩, hin⟩, hout⟩, ht⟩

end Counts

/-- The types on the screen. -/
def deskTypes (db : HotelDb) (propertyId : Id) (q : AvailabilityQueryDto) : List RoomType :=
  (db.roomTypes.rows.filter (RoomType.shown propertyId q.roomTypeId)).insertionSort
    fun a b => a.name ≤ b.name

/-- The line of a type on the screen. -/
def deskItem (db : HotelDb) (propertyId : Id) (q : AvailabilityQueryDto) (t : RoomType) :
    DeskAvailabilityItem :=
  let typeIds := (deskTypes db propertyId q).map RoomType.id
  availabilityItem (sellableTypes propertyId typeIds db)
    (bookedTypes propertyId typeIds q.checkIn q.checkOut db) t

theorem mem_deskTypes {db : HotelDb} {propertyId : Id} {q : AvailabilityQueryDto} {t : RoomType} :
    t ∈ deskTypes db propertyId q ↔
      t ∈ db.roomTypes ∧ t.shown propertyId q.roomTypeId = true := by
  rw [deskTypes, List.mem_insertionSort, List.mem_filter, mem_rows]

theorem eval_availability {db : HotelDb} {propertyId : Id} {q : AvailabilityQueryDto}
    (h : q.checkIn < q.checkOut) :
    (availability propertyId q).eval .idle db =
      (.ok ⟨q.checkIn, q.checkOut,
        (deskTypes db propertyId q).map (deskItem db propertyId q)⟩, .idle, db) := by
  have hdates : assertDateOrder q.checkIn q.checkOut = .ok ⟨h⟩ := dif_pos h
  simp only [availability, eval_simps, hdates]
  rw [← deskTypes]
  cases htypes : deskTypes db propertyId q with
  | nil => rfl
  | cons t ts =>
    have hitem : deskItem db propertyId q = availabilityItem
        (sellableTypes propertyId ((t :: ts).map RoomType.id) db)
        (bookedTypes propertyId ((t :: ts).map RoomType.id) q.checkIn q.checkOut
          db) := by
      rw [← htypes]
      rfl
    simp only [List.isEmpty_cons, Bool.false_eq_true, if_false, eval_simps, hitem]

theorem deskItem_availableRooms {db : HotelDb} {propertyId : Id} {q : AvailabilityQueryDto}
    {t : RoomType} (ht : t ∈ deskTypes db propertyId q) :
    (deskItem db propertyId q t).availableRooms = roomCount db propertyId t.id -
      (typeStays propertyId t.id q.checkIn q.checkOut none db).length := by
  have hids : t.id ∈ (deskTypes db propertyId q).map RoomType.id := List.mem_map.mpr ⟨t, ht, rfl⟩
  simp only [deskItem, availabilityItem, sellableTypes_count hids,
    bookedTypes_count hids]

theorem find?_deskItem {db : HotelDb} {propertyId : Id} {q : AvailabilityQueryDto} {t : RoomType}
    {α : Type} {id : α → Id} {item : RoomType → α} (hitem : ∀ t, id (item t) = t.id)
    (ht : t ∈ deskTypes db propertyId q) :
    ((deskTypes db propertyId q).map item).find? (fun i => id i = t.id) = some (item t) := by
  refine find?_eq_some_of_unique (List.mem_map.mpr ⟨t, ht, rfl⟩) (by simp [hitem]) ?_
  intro i hi hid
  obtain ⟨t', ht', rfl⟩ := List.mem_map.mp hi
  have hsame : t'.id = t.id := by
    rw [← hitem]
    exact of_decide_eq_true hid
  rw [eq_of_key_eq (mem_deskTypes.mp ht').1 (mem_deskTypes.mp ht).1 hsame]

theorem shownRooms_eq {db : HotelDb} {propertyId : Id} {q : AvailabilityQueryDto} {t : RoomType}
    (ht : t ∈ db.roomTypes) (hshown : t.shown propertyId q.roomTypeId = true)
    (h : q.checkIn < q.checkOut) :
    shownRooms db propertyId q t.id = some (roomCount db propertyId t.id -
      (typeStays propertyId t.id q.checkIn q.checkOut none db).length) := by
  have hmem : t ∈ deskTypes db propertyId q := mem_deskTypes.mpr ⟨ht, hshown⟩
  have hline := @find?_deskItem db propertyId q t _ DeskAvailabilityItem.roomTypeId
    (deskItem db propertyId q) (fun _ => rfl) hmem
  simp only [shownRooms, Prog.run_res, eval_availability h, hline, Option.map_some,
    deskItem_availableRooms hmem]

/-! ## The screen and the check -/

/-- What the screen shows for the type is what the check would answer, and the least number of
rooms left on a night of the range. -/
def ScreenAgrees (db : HotelDb) (propertyId : Id) (q : AvailabilityQueryDto) (roomTypeId : Id)
    (h : q.checkIn < q.checkOut) : Prop :=
  ∃ n, shownRooms db propertyId q roomTypeId = some n ∧
    (0 < n ↔ acceptsBooking db propertyId roomTypeId q.checkIn q.checkOut) ∧
    (n : ℤ) = max 0 ((Finset.Ico q.checkIn q.checkOut).inf' (Finset.nonempty_Ico.mpr h)
      (roomsLeft db propertyId roomTypeId))

/-- Some night of the range is full, or every stay that touches the range covers it. -/
def SharesNight (db : HotelDb) (propertyId roomTypeId : Id) (checkIn checkOut : ℤ) : Prop :=
  ∃ night ∈ Finset.Ico checkIn checkOut,
    (∀ r ∈ typeStays propertyId roomTypeId checkIn checkOut none db,
      coversDate r.checkIn r.checkOut night = true) ∨
    roomCount db propertyId roomTypeId ≤ occupancy db propertyId roomTypeId night

theorem sharesNight_iff {db : HotelDb} {propertyId roomTypeId : Id} {checkIn checkOut : ℤ} :
    SharesNight db propertyId roomTypeId checkIn checkOut ↔
      ∃ night ∈ datesFrom checkIn checkOut,
        (∀ r ∈ typeStays propertyId roomTypeId checkIn checkOut none db,
          coversDate r.checkIn r.checkOut night = true) ∨
        roomCount db propertyId roomTypeId ≤ occupancy db propertyId roomTypeId night := by
  simp only [SharesNight, Finset.mem_Ico, mem_datesFrom]

instance (db : HotelDb) (propertyId roomTypeId : Id) (checkIn checkOut : ℤ) :
    Decidable (SharesNight db propertyId roomTypeId checkIn checkOut) :=
  decidable_of_iff _ sharesNight_iff.symm

section Agreement

variable {db : HotelDb} {propertyId roomTypeId : Id} {checkIn checkOut : ℤ}

theorem occupancy_le_touching {night : ℤ} (hn : night ∈ Finset.Ico checkIn checkOut) :
    occupancy db propertyId roomTypeId night ≤
      (typeStays propertyId roomTypeId checkIn checkOut none db).length := by
  obtain ⟨hin, hout⟩ := Finset.mem_Ico.mp hn
  rw [← soldOn_all hin hout]
  exact List.countP_le_length

theorem occupancy_eq_touching {night : ℤ} (hn : night ∈ Finset.Ico checkIn checkOut) :
    occupancy db propertyId roomTypeId night =
        (typeStays propertyId roomTypeId checkIn checkOut none db).length ↔
      ∀ r ∈ typeStays propertyId roomTypeId checkIn checkOut none db,
        coversDate r.checkIn r.checkOut night = true := by
  obtain ⟨hin, hout⟩ := Finset.mem_Ico.mp hn
  rw [← soldOn_all hin hout]
  exact List.countP_eq_length

/-- The rooms less the touching stays are the least number of rooms left exactly when one
night is shared by the touching stays or full. -/
theorem touching_eq_least_iff (h : checkIn < checkOut) :
    max 0 ((roomCount db propertyId roomTypeId : ℤ) -
        (typeStays propertyId roomTypeId checkIn checkOut none db).length) =
      max 0 ((Finset.Ico checkIn checkOut).inf' (Finset.nonempty_Ico.mpr h)
        (roomsLeft db propertyId roomTypeId)) ↔
      SharesNight db propertyId roomTypeId checkIn checkOut := by
  rw [floor_inf'_eq_iff]
  · refine exists_congr fun night => and_congr_right fun hn => ?_
    rw [← occupancy_eq_touching hn, roomsLeft]
    constructor
    · rintro (heq | hle)
      · exact .inl (by omega)
      · exact .inr (by omega)
    · rintro (heq | hle)
      · exact .inl (by omega)
      · exact .inr (by omega)
  · intro night hn
    have hle : occupancy db propertyId roomTypeId night ≤
        (typeStays propertyId roomTypeId checkIn checkOut none db).length :=
      occupancy_le_touching hn
    rw [roomsLeft]
    omega

end Agreement

/-- For a type without daily rules, the screen and the check are the same rule exactly when some
night of the range is full or covered by every stay that touches the range. -/
theorem screen_agrees_iff {db : HotelDb} {propertyId : Id} {q : AvailabilityQueryDto}
    {t : RoomType} (h : q.checkIn < q.checkOut) (ht : t ∈ db.roomTypes)
    (hshown : t.shown propertyId q.roomTypeId = true) (hrules : NoDailyRules db propertyId t.id) :
    ScreenAgrees db propertyId q t.id h ↔
      SharesNight db propertyId t.id q.checkIn q.checkOut := by
  rw [← touching_eq_least_iff h]
  simp only [ScreenAgrees, shownRooms_eq ht hshown h, Option.some.injEq, exists_eq_left']
  generalize hleast : (Finset.Ico q.checkIn q.checkOut).inf' (Finset.nonempty_Ico.mpr h)
    (roomsLeft db propertyId t.id) = least
  generalize htouching : (typeStays propertyId t.id q.checkIn q.checkOut none db).length = touching
  have haccepts : acceptsBooking db propertyId t.id q.checkIn q.checkOut ↔ 0 < least := by
    rw [acceptsBooking_of_noDailyRules hrules h, ← hleast, Finset.lt_inf'_iff]
  rw [haccepts]
  constructor
  · rintro ⟨-, heq⟩
    omega
  · intro heq
    exact ⟨by omega, by omega⟩

/-- A confirmed stay of type 7 without a room. -/
def stayOf (id : Id) (checkIn checkOut : ℤ) (ordered : checkIn < checkOut) : Reservation where
  id
  propertyId := 1
  roomTypeId := 7
  roomId := none
  reservationNumber := id
  guest := { guestName := "Guest", guestPhone := "0" }
  checkIn
  checkOut
  ordered
  status := .CONFIRMED
  ratePaise := 100000
  totalPaise := 100000

/-- Two rooms of type 7, and some stays. -/
def twoRoomDb (stays : List Reservation) : HotelDb where
  rooms := ((∅ : Table Room.id).insert
    { id := 101, propertyId := 1, roomTypeId := 7, number := "101", status := .AVAILABLE }).insert
    { id := 102, propertyId := 1, roomTypeId := 7, number := "102", status := .AVAILABLE }
  roomTypes := (∅ : Table RoomType.id).insert
    { id := 7, propertyId := 1, name := "Deluxe", baseRate := 100000 }
  reservations := stays.foldl Table.insert ∅

/-- Two stays on two nights: the screen shows no room left, the check accepts the booking. -/
theorem screen_sold_out :
    shownRooms (twoRoomDb [stayOf 1 10 11 (by decide), stayOf 2 11 12 (by decide)]) 1
        ⟨10, 12, none⟩ 7 = some 0 ∧
      acceptsBooking (twoRoomDb [stayOf 1 10 11 (by decide), stayOf 2 11 12 (by decide)]) 1 7 10
        12 ∧
      ¬ScreenAgrees (twoRoomDb [stayOf 1 10 11 (by decide), stayOf 2 11 12 (by decide)]) 1
        ⟨10, 12, none⟩ 7 (by decide) := by
  have hshown : shownRooms (twoRoomDb [stayOf 1 10 11 (by decide), stayOf 2 11 12 (by decide)]) 1
      ⟨10, 12, none⟩ 7 = some 0 := by decide
  have haccepts : acceptsBooking
      (twoRoomDb [stayOf 1 10 11 (by decide), stayOf 2 11 12 (by decide)]) 1 7 10 12 := by decide
  refine ⟨hshown, haccepts, ?_⟩
  rintro ⟨n, hn, hiff, -⟩
  obtain rfl : 0 = n := Option.some.inj (hshown.symm.trans hn)
  exact absurd (hiff.mpr haccepts) (lt_irrefl 0)

/-- One stay over the whole range: the screen and the check agree. -/
theorem screen_agrees :
    ScreenAgrees (twoRoomDb [stayOf 1 10 12 (by decide)]) 1 ⟨10, 12, none⟩ 7 (by decide) := by
  have htype : { id := 7, propertyId := 1, name := "Deluxe", baseRate := 100000 } ∈
      (twoRoomDb [stayOf 1 10 12 (by decide)]).roomTypes :=
    (mem_insert (by decide)).mpr (.inr rfl)
  exact (screen_agrees_iff (by decide) htype (by decide) (by decide)).mpr (by decide)

end Travelo
