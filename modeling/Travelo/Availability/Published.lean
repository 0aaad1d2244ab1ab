import Travelo.Availability.Desk
import Travelo.Channex

/-!
# What is published

The rates grid and Channex publish a number of free rooms for each type and night. The desk
accepts a booking when `assertTypeCapacity` does; how many it accepts, one after another, is
`deskLeft`. The grid takes the lesser of the cap and the rooms left, the check the lesser of
the cap and the rooms, less the stays: `published_iff` says when this is the same number.
-/

namespace Travelo

open ReadCommitted ReservationsService Claims
open ChannexSyncService (inventory staysInPlay cellOf rangesOf computeAvailability capped
  publishedNights withGrid pushAvailability typeRanges mapped)
open RatesService (baseDay gridCell dayRows assertWindow)

/-! ## One night in the grid's table -/

section Night

variable (db : HotelDb) (propertyId roomTypeId : Id) (date : ℤ)

/-- How many more stays the check lets in on the night. -/
def deskLeft : ℕ :=
  if dayStopSell db propertyId roomTypeId date then 0
  else capRooms db propertyId roomTypeId date - occupancy db propertyId roomTypeId date

/-- The number the grid shows. -/
def gridLeft : ℕ :=
  let free := roomCount db propertyId roomTypeId - occupancy db propertyId roomTypeId date
  if dayStopSell db propertyId roomTypeId date then 0
  else match dayCap db propertyId roomTypeId date with
    | none => free
    | some cap => min cap free

/-- The daily rules of the type are caps and stop-sells, for every channel alike. -/
def CapsAndStopSells : Prop :=
  ∀ d ∈ db.rateInventoryDays, d.propertyId = propertyId → d.roomTypeId = roomTypeId →
    d.minLos = none ∧ d.maxLos = none ∧ d.closedToArrival = false ∧ d.closedToDeparture = false ∧
      d.channelOverrides = []

/-- A cap that changes nothing: the night is closed or has no cap, or the cap is zero or no
less than the rooms, or nothing is sold yet, or nothing is left. -/
def CapHarmless : Prop :=
  dayStopSell db propertyId roomTypeId date = true ∨
    ∀ cap, dayCap db propertyId roomTypeId date = some cap →
      cap = 0 ∨ roomCount db propertyId roomTypeId ≤ cap ∨
        occupancy db propertyId roomTypeId date = 0 ∨
        roomCount db propertyId roomTypeId ≤ occupancy db propertyId roomTypeId date

end Night

variable {db : HotelDb} {propertyId roomTypeId : Id} {date : ℤ}

theorem gridLeft_eq_deskLeft_iff :
    gridLeft db propertyId roomTypeId date = deskLeft db propertyId roomTypeId date ↔
      CapHarmless db propertyId roomTypeId date := by
  unfold gridLeft deskLeft CapHarmless capRooms
  cases hstop : dayStopSell db propertyId roomTypeId date with
  | true => simp
  | false =>
    cases hcap : dayCap db propertyId roomTypeId date with
    | none => simp
    | some cap =>
      simp only [Bool.false_eq_true, if_false, false_or, Option.some.injEq, forall_eq']
      omega

/-! ## The check on one night -/

/-- With caps and stop-sells only, one more stay is accepted on an open night that has a room
left under its cap. -/
theorem acceptsBooking_night (hrules : CapsAndStopSells db propertyId roomTypeId) :
    acceptsBooking db propertyId roomTypeId date (date + 1) ↔
      dayStopSell db propertyId roomTypeId date = false ∧
        occupancy db propertyId roomTypeId date < capRooms db propertyId roomTypeId date := by
  have hnight : ∀ night, date ≤ night → night < date + 1 → night = date := by omega
  have hcolumns : ∀ d, dayClosedToArrival db propertyId roomTypeId d = false ∧
      dayMinLos db propertyId roomTypeId d = 0 ∧ dayMaxLos db propertyId roomTypeId d = 0 ∧
      dayClosedToDeparture db propertyId roomTypeId d = false := by
    intro d
    unfold dayClosedToArrival dayMinLos dayMaxLos dayClosedToDeparture
    cases hday : baseDay propertyId roomTypeId d db with
    | none => exact ⟨rfl, rfl, rfl, rfl⟩
    | some day =>
      obtain ⟨hmem, hp, ht, -⟩ := baseDay_cond hday
      obtain ⟨hmin, hmax, harr, hdep, -⟩ := hrules day hmem hp ht
      exact ⟨harr, by simp [hmin], by simp [hmax], hdep⟩
  rw [acceptsBooking_iff (by omega)]
  constructor
  · rintro ⟨hopen, hroom⟩
    exact ⟨hopen.stopSell date (le_refl date) (by omega), hroom date (le_refl date) (by omega)⟩
  · rintro ⟨hstop, hroom⟩
    refine ⟨⟨(hcolumns _).1, ?_, .inl (hcolumns _).2.2.1, (hcolumns _).2.2.2, ?_⟩, ?_⟩
    · rw [(hcolumns _).2.1]
      exact Nat.zero_le _
    · intro night hin hout
      rwa [hnight night hin hout]
    · intro night hin hout
      rwa [hnight night hin hout]

/-! ## One stay after another -/

/-- An id no reservation has. -/
def HotelDb.freshId (db : HotelDb) : Id := (db.reservations.rows.map (·.id)).foldr max 0 + 1

/-- A stay of one night, confirmed and without a room. -/
def nightStay (db : HotelDb) (propertyId roomTypeId : Id) (date : ℤ) : Reservation where
  id := db.freshId
  propertyId
  roomTypeId
  roomId := none
  reservationNumber := db.freshId
  guest := { guestName := "", guestPhone := "" }
  checkIn := date
  checkOut := date + 1
  ordered := by omega
  status := .CONFIRMED
  ratePaise := 0
  totalPaise := 0

/-- The state once the stay is created. -/
def bookNight (propertyId roomTypeId : Id) (date : ℤ) (db : HotelDb) : HotelDb :=
  { db with reservations := db.reservations.insert (nightStay db propertyId roomTypeId date) }

/-- `n` stays, created one after another, each pass the check. -/
def AcceptsStays (propertyId roomTypeId : Id) (date : ℤ) : ℕ → HotelDb → Prop
  | 0, _ => True
  | n + 1, db => acceptsBooking db propertyId roomTypeId date (date + 1) ∧
      AcceptsStays propertyId roomTypeId date n (bookNight propertyId roomTypeId date db)

theorem freshId_hasKey (db : HotelDb) : db.reservations.hasKey db.freshId = false :=
  hasKey_freshId db.reservations

theorem occupancy_bookNight :
    occupancy (bookNight propertyId roomTypeId date db) propertyId roomTypeId date =
      occupancy db propertyId roomTypeId date + 1 := by
  have huses : (nightStay db propertyId roomTypeId date).usesRoom propertyId roomTypeId date =
      true := by
    simp [Reservation.usesRoom, nightStay, Reservation.occupies, OCCUPYING_STATUSES]
  have hrows : (bookNight propertyId roomTypeId date db).reservations.rows =
      db.reservations.rows ++ [nightStay db propertyId roomTypeId date] :=
    rows_insert (freshId_hasKey db)
  rw [occupancy, load, hrows, List.countP_append, List.countP_singleton, if_pos huses]
  rfl

theorem acceptsStays_iff {n : ℕ} (hrules : CapsAndStopSells db propertyId roomTypeId) :
    AcceptsStays propertyId roomTypeId date n db ↔ n ≤ deskLeft db propertyId roomTypeId date := by
  induction n generalizing db with
  | zero => simp [AcceptsStays]
  | succ n ih =>
    -- the rooms and the rules stay as they are
    have hstop : dayStopSell (bookNight propertyId roomTypeId date db) propertyId roomTypeId date =
        dayStopSell db propertyId roomTypeId date := rfl
    have hcap : capRooms (bookNight propertyId roomTypeId date db) propertyId roomTypeId date =
        capRooms db propertyId roomTypeId date := rfl
    have hrest : AcceptsStays propertyId roomTypeId date n
          (bookNight propertyId roomTypeId date db) ↔
        n ≤ deskLeft (bookNight propertyId roomTypeId date db) propertyId roomTypeId date :=
      ih hrules
    rw [AcceptsStays, acceptsBooking_night hrules, hrest, deskLeft, deskLeft, hstop, hcap,
      occupancy_bookNight]
    cases dayStopSell db propertyId roomTypeId date with
    | true => simp
    | false =>
      simp only [Bool.false_eq_true, if_false, true_and]
      omega

theorem isGreatest_acceptsStays_iff {n : ℕ} (hrules : CapsAndStopSells db propertyId roomTypeId) :
    IsGreatest {k | AcceptsStays propertyId roomTypeId date k db} n ↔
      n = deskLeft db propertyId roomTypeId date := by
  have hset : {k | AcceptsStays propertyId roomTypeId date k db} =
      Set.Iic (deskLeft db propertyId roomTypeId date) :=
    Set.ext fun k => acceptsStays_iff hrules
  rw [hset]
  exact ⟨fun h => h.unique isGreatest_Iic, fun h => h ▸ isGreatest_Iic⟩

/-! ## The grid -/

/-- The types of the grid, by name. -/
def shownTypes (propertyId : Id) (db : HotelDb) : List RoomType :=
  (db.roomTypes.rows.filter fun t =>
    t.propertyId = propertyId && t.deletedAt.isNone && t.active).insertionSort
      fun a b => a.name ≤ b.name

/-- The line of a type. -/
def gridLine (propertyId : Id) (fromDate toDate : ℤ) (db : HotelDb) (t : RoomType) : GridType :=
  let typeIds := (shownTypes propertyId db).map RoomType.id
  let physicalRows := inventory propertyId db
  let overrides := db.rateOverrides.filter fun o =>
    o.propertyId = propertyId && typeIds.contains o.roomTypeId &&
      o.startDate ≤ addDays toDate (-1) && fromDate ≤ o.endDate && o.deletedAt.isNone
  { id := t.id
    name := t.name
    baseRatePaise := t.baseRate
    isPrivate := t.isPrivate
    physical := physicalRows.count t.id
    days := (datesFrom fromDate toDate).map
      (gridCell t (physicalRows.count t.id)
        (dayRows propertyId typeIds fromDate toDate none db) overrides
        (staysInPlay propertyId fromDate toDate db)) }

/-- What the grid answers, as a function of the state. -/
def gridTypes (propertyId : Id) (fromDate toDate : ℤ) (db : HotelDb) : List GridType :=
  (shownTypes propertyId db).map (gridLine propertyId fromDate toDate db)

/-- The window may be read. -/
def WindowOk (fromDate toDate : ℤ) : Prop :=
  fromDate < toDate ∧ toDate - fromDate ≤ MAX_RATE_WINDOW_DAYS

instance (fromDate toDate : ℤ) : Decidable (WindowOk fromDate toDate) := instDecidableAnd

variable {fromDate toDate : ℤ}

@[simp] theorem eval_grid (h : WindowOk fromDate toDate) :
    (RatesService.grid propertyId fromDate toDate none).eval .idle db =
      (.ok (gridTypes propertyId fromDate toDate db), .idle, db) := by
  have hwindow : assertWindow fromDate toDate = .ok () := by
    rw [assertWindow, if_neg (not_not.mpr h.1), if_neg (not_lt.mpr h.2)]
  simp only [RatesService.grid, eval_simps, hwindow, eval_ite, gridTypes]
  split_ifs with hempty
  · have hnone : shownTypes propertyId db = [] := List.isEmpty_iff.mp hempty
    rw [hnone]
    rfl
  · rfl

theorem inventory_count :
    (inventory propertyId db).count roomTypeId =
      roomCount db propertyId roomTypeId := by
  rw [inventory, count_map_filter, roomCount, typeRooms,
    ← List.countP_eq_length_filter]

theorem staysInPlay_covering (hd : fromDate ≤ date ∧ date < toDate) :
    ((staysInPlay propertyId fromDate toDate db).filter fun s =>
        s.roomTypeId = roomTypeId && coversDate s.checkIn s.checkOut date).length =
      occupancy db propertyId roomTypeId date := by
  rw [← List.countP_eq_length_filter, staysInPlay, List.countP_filter,
    occupancy, load]
  apply List.countP_congr
  intro r _
  simp only [Reservation.usesRoom, coversDate, and_decide_eq]
  constructor
  · rintro ⟨⟨ht, hlo, hhi⟩, ⟨⟨hp, ho⟩, -⟩, -⟩
    exact ⟨⟨⟨hp, ht⟩, ho⟩, hlo, hhi⟩
  · rintro ⟨⟨⟨hp, ht⟩, ho⟩, hlo, hhi⟩
    exact ⟨⟨ht, hlo, hhi⟩, ⟨⟨hp, ho⟩, by omega⟩, by omega⟩

variable {t : RoomType}

theorem mem_shownTypes :
    t ∈ shownTypes propertyId db ↔ t ∈ db.roomTypes ∧ t.shown propertyId none = true := by
  rw [shownTypes, List.mem_insertionSort, List.mem_filter]
  simp only [RoomType.shown, Option.all_none, Bool.and_true]
  exact Iff.rfl

theorem gridLine_cell {c : RateDayCell} (ht : t ∈ shownTypes propertyId db)
    (hc : c ∈ (gridLine propertyId fromDate toDate db t).days) :
    c.available = gridLeft db propertyId t.id c.date ∧
      c.channelOverrides =
        ((baseDay propertyId t.id c.date db).map (·.channelOverrides)).getD [] := by
  obtain ⟨night, hnight, rfl⟩ := List.mem_map.mp hc
  rw [mem_datesFrom] at hnight
  have hids : t.id ∈ (shownTypes propertyId db).map RoomType.id := List.mem_map.mpr ⟨t, ht, rfl⟩
  have hrow : (dayRows propertyId ((shownTypes propertyId db).map RoomType.id) fromDate
      toDate none db).find? (fun r => r.roomTypeId = t.id && r.date = night) =
        baseDay propertyId t.id night db := RatesService.dayRows_find? hids hnight
  refine ⟨?_, by simp only [gridCell, hrow]⟩
  unfold gridLeft
  cases hcap : dayCap db propertyId t.id night with
  | none =>
    have hrowCap : (baseDay propertyId t.id night db).bind (·.available) = none := hcap
    simp only [gridCell, hrow, inventory_count, staysInPlay_covering hnight,
      dayStopSell, hrowCap, hcap]
  | some cap =>
    have hrowCap : (baseDay propertyId t.id night db).bind (·.available) = some cap :=
      hcap
    simp only [gridCell, hrow, inventory_count, staysInPlay_covering hnight,
      dayStopSell, hrowCap, hcap]

theorem exists_gridLine_cell (propertyId : Id) (db : HotelDb) (t : RoomType)
    (hd : fromDate ≤ date ∧ date < toDate) :
    ∃ c ∈ (gridLine propertyId fromDate toDate db t).days, c.date = date :=
  ⟨_, List.mem_map.mpr ⟨date, mem_datesFrom.mpr hd, rfl⟩, rfl⟩

theorem cellOf_gridTypes (ht : t ∈ shownTypes propertyId db)
    (hd : fromDate ≤ date ∧ date < toDate) :
    ∃ c ∈ (gridLine propertyId fromDate toDate db t).days, c.date = date ∧
      cellOf (gridTypes propertyId fromDate toDate db) t.id date = some c := by
  obtain ⟨c, hc, hcd⟩ := exists_gridLine_cell propertyId db t hd
  refine ⟨c, hc, hcd, ?_⟩
  unfold cellOf gridTypes
  -- a type has one line, and a line has one cell for the day
  rw [find?_eq_some_of_unique (List.mem_map.mpr ⟨t, ht, rfl⟩) (by simp [gridLine]),
    Option.bind_some, find?_eq_some_of_unique hc (by simpa using hcd)]
  · intro c' hc' hdate
    obtain ⟨x, -, rfl⟩ := List.mem_map.mp hc
    obtain ⟨y, -, rfl⟩ := List.mem_map.mp hc'
    have hsame : y = date := of_decide_eq_true hdate
    have hx : x = date := hcd
    rw [hsame, hx]
  · intro g hg hid
    obtain ⟨t', ht', rfl⟩ := List.mem_map.mp hg
    have hsame : t'.id = t.id := of_decide_eq_true hid
    rw [eq_of_key_eq (mem_shownTypes.mp ht').1 (mem_shownTypes.mp ht).1 hsame]

theorem cellOf_gridTypes_none (h : ∀ t ∈ shownTypes propertyId db, t.id ≠ roomTypeId) :
    cellOf (gridTypes propertyId fromDate toDate db) roomTypeId date = none := by
  have hnone : (gridTypes propertyId fromDate toDate db).find? (fun t => t.id = roomTypeId) =
      none := by
    rw [List.find?_eq_none]
    intro g hg
    obtain ⟨t, ht, rfl⟩ := List.mem_map.mp hg
    simpa [gridLine] using h t ht
  rw [cellOf, hnone]
  rfl

/-! ## What goes out to Channex -/

theorem mem_rangesOf {property x : String} {list : List NightlyAvailability} {d : ℤ} {n : ℕ} :
    (∃ u ∈ rangesOf property x list,
      u.date_from ≤ d ∧ d ≤ u.date_to ∧ u.availability = n) ↔
      ∃ m ∈ list, m.date = d ∧ m.available = n := by
  have hsort : ∀ m, m ∈ list.insertionSort (fun a b => a.date ≤ b.date) ↔ m ∈ list :=
    fun m => List.mem_insertionSort _
  unfold rangesOf
  cases hlist : list.insertionSort fun a b => a.date ≤ b.date with
  | nil =>
    simp only [hlist, List.not_mem_nil, false_iff] at hsort
    simp [hsort]
  | cons first rest =>
    simp only [hlist, List.mem_cons] at hsort
    have hgives := Run.mem_collapse (e := d) (b := n) (rest.map fun m => (m.date, m.available))
      (.day first.date first.available)
    rw [Run.day_gives] at hgives
    simp only [List.mem_map, exists_exists_and_eq_and]
    refine hgives.trans ?_
    simp only [← hsort, Prod.mk.injEq, List.mem_map, or_and_right, exists_or, exists_eq_left,
      eq_comm (a := d), eq_comm (a := n)]

/-- The free rooms of a type on a night. -/
def freeNight (db : HotelDb) (propertyId roomTypeId : Id) (d : ℤ) : NightlyAvailability where
  roomTypeId
  date := d
  available := roomCount db propertyId roomTypeId - occupancy db propertyId roomTypeId d

theorem mem_computeAvailability {m : NightlyAvailability} :
    m ∈ computeAvailability (inventory propertyId db)
        (staysInPlay propertyId fromDate toDate db) fromDate toDate ↔
      0 < roomCount db propertyId m.roomTypeId ∧ (fromDate ≤ m.date ∧ m.date < toDate) ∧
        freeNight db propertyId m.roomTypeId m.date = m := by
  have hroom : m.roomTypeId ∈ inventory propertyId db ↔
      0 < roomCount db propertyId m.roomTypeId := by
    rw [← List.count_pos_iff, inventory_count]
  simp only [← hroom, computeAvailability, List.mem_flatMap,
    List.mem_eraseDups, List.mem_map, mem_datesFrom, inventory_count]
  constructor
  · rintro ⟨typeId, ht, night, hnight, rfl⟩
    exact ⟨ht, hnight, by simp only [freeNight, staysInPlay_covering hnight]⟩
  · rintro ⟨ht, hnight, hfree⟩
    exact ⟨m.roomTypeId, ht, m.date, hnight, by rw [staysInPlay_covering hnight]; exact hfree⟩

/-- The nights that go out in a state. -/
def nightsOut (connectionId propertyId : Id) (fromDate toDate : ℤ) (db : HotelDb) :
    List NightlyAvailability :=
  (computeAvailability (inventory propertyId db)
      (staysInPlay propertyId fromDate toDate db) fromDate toDate).map
    (capped connectionId (gridTypes propertyId fromDate toDate db))

@[simp] theorem eval_publishedNights {connectionId : Id} (h : WindowOk fromDate toDate) :
    (publishedNights true connectionId propertyId fromDate toDate).eval
        .idle db =
      (.ok (nightsOut connectionId propertyId fromDate toDate db), .idle, db) := by
  simp [publishedNights, withGrid, h, nightsOut]

/-- The number pushed for a type and a night: the count of a range that was made for the
type and covers the night. -/
def Pushed (db : HotelDb) (connectionId propertyId : Id) (cfg : ChannexConnectionConfig)
    (fromDate toDate : ℤ) (roomTypeId : Id) (d : ℤ) (n : ℕ) : Prop :=
  ∃ nights, ((publishedNights true connectionId propertyId fromDate
      toDate).run db).res = .ok nights ∧
    ((pushAvailability true connectionId propertyId cfg fromDate
      toDate).run db).res = .ok (some (ChannexSyncService.toAvailabilityRanges cfg nights)) ∧
    ∃ u ∈ typeRanges cfg nights roomTypeId,
      u.date_from ≤ d ∧ d ≤ u.date_to ∧ u.availability = n

/-- The number the grid shows for a type and a night. -/
def Shown (db : HotelDb) (propertyId : Id) (fromDate toDate : ℤ) (roomTypeId : Id) (d : ℤ)
    (n : ℕ) : Prop :=
  ∃ grid, ((RatesService.grid propertyId fromDate toDate none).run db).res = .ok grid ∧
    ∃ t ∈ grid, t.id = roomTypeId ∧ ∃ c ∈ t.days, c.date = d ∧ c.available = n

/-- The type has a line in the grid. -/
def OnGrid (db : HotelDb) (propertyId roomTypeId : Id) : Prop :=
  ∃ t ∈ db.roomTypes, t.shown propertyId none = true ∧ t.id = roomTypeId

instance (db : HotelDb) (propertyId roomTypeId : Id) : Decidable (OnGrid db propertyId roomTypeId) :=
  decidable_of_iff
    (∃ t ∈ db.roomTypes.rows, t.shown propertyId none = true ∧ t.id = roomTypeId) Iff.rfl

/-- What goes out for a type does no harm: under the grid its cap is harmless; a type that
the grid does not show is not mapped, or is sold out, or has no rule against its free rooms. -/
def RightOut (db : HotelDb) (propertyId : Id) (cfg : ChannexConnectionConfig) (roomTypeId : Id)
    (d : ℤ) : Prop :=
  if OnGrid db propertyId roomTypeId then CapHarmless db propertyId roomTypeId d
  else mapped cfg roomTypeId = none ∨
    roomCount db propertyId roomTypeId ≤ occupancy db propertyId roomTypeId d ∨
    dayStopSell db propertyId roomTypeId d = false ∧
      capRooms db propertyId roomTypeId d = roomCount db propertyId roomTypeId

section Published

variable {connectionId : Id} {cfg : ChannexConnectionConfig} {fromDate toDate d : ℤ} {n : ℕ}

theorem onGrid_iff :
    OnGrid db propertyId roomTypeId ↔ ∃ t ∈ shownTypes propertyId db, t.id = roomTypeId := by
  simp only [OnGrid, mem_shownTypes, and_assoc]

theorem shown_iff (hw : WindowOk fromDate toDate) (hd : fromDate ≤ d ∧ d < toDate) :
    Shown db propertyId fromDate toDate roomTypeId d n ↔
      OnGrid db propertyId roomTypeId ∧ gridLeft db propertyId roomTypeId d = n := by
  have hrun : Shown db propertyId fromDate toDate roomTypeId d n ↔
      ∃ t ∈ gridTypes propertyId fromDate toDate db, t.id = roomTypeId ∧
        ∃ c ∈ t.days, c.date = d ∧ c.available = n := by
    simp [Shown, Prog.run_res, hw]
  rw [hrun, onGrid_iff]
  constructor
  · rintro ⟨g, hg, rfl, c, hc, rfl, rfl⟩
    obtain ⟨t, ht, rfl⟩ := List.mem_map.mp hg
    exact ⟨⟨t, ht, rfl⟩, (gridLine_cell ht hc).1.symm⟩
  · rintro ⟨⟨t, ht, rfl⟩, rfl⟩
    obtain ⟨c, hc, rfl⟩ := exists_gridLine_cell propertyId db t hd
    exact ⟨_, List.mem_map.mpr ⟨t, ht, rfl⟩, rfl, c, hc, rfl, (gridLine_cell ht hc).1⟩

theorem pushed_iff (hw : WindowOk fromDate toDate) :
    Pushed db connectionId propertyId cfg fromDate toDate roomTypeId d n ↔
      mapped cfg roomTypeId ≠ none ∧
        ∃ m ∈ nightsOut connectionId propertyId fromDate toDate db,
          m.roomTypeId = roomTypeId ∧ m.date = d ∧ m.available = n := by
  have hrun : Pushed db connectionId propertyId cfg fromDate toDate roomTypeId d n ↔
      ∃ u ∈ typeRanges cfg
          (nightsOut connectionId propertyId fromDate toDate db) roomTypeId,
        u.date_from ≤ d ∧ d ≤ u.date_to ∧ u.availability = n := by
    simp [Pushed, Prog.run_res, pushAvailability, hw]
  rw [hrun, typeRanges]
  cases mapped cfg roomTypeId with
  | none => simp
  | some x => simp [mem_rangesOf, and_assoc]

theorem capped_key {grid : List GridType} {m : NightlyAvailability} :
    (capped connectionId grid m).roomTypeId = m.roomTypeId ∧
      (capped connectionId grid m).date = m.date := by
  unfold capped
  cases cellOf grid m.roomTypeId m.date with
  | none => exact ⟨rfl, rfl⟩
  | some c =>
    simp only
    cases (c.channelOverrides.lookup connectionId).bind (·.available) <;> exact ⟨rfl, rfl⟩

theorem mem_nightsOut_iff (hd : fromDate ≤ d ∧ d < toDate) :
    (∃ m ∈ nightsOut connectionId propertyId fromDate toDate db,
        m.roomTypeId = roomTypeId ∧ m.date = d ∧ m.available = n) ↔
      0 < roomCount db propertyId roomTypeId ∧
        (capped connectionId (gridTypes propertyId fromDate toDate db)
          (freeNight db propertyId roomTypeId d)).available = n := by
  constructor
  · rintro ⟨m, hm, htype, hdate, hav⟩
    obtain ⟨m', hm', rfl⟩ := List.mem_map.mp hm
    rw [capped_key.1] at htype
    rw [capped_key.2] at hdate
    obtain ⟨hroom, -, hfree⟩ := mem_computeAvailability.mp hm'
    rw [htype] at hroom
    rw [htype, hdate] at hfree
    exact ⟨hroom, hfree ▸ hav⟩
  · rintro ⟨hroom, hav⟩
    have hm : freeNight db propertyId roomTypeId d ∈
        computeAvailability (inventory propertyId db)
          (staysInPlay propertyId fromDate toDate db) fromDate toDate :=
      mem_computeAvailability.mpr ⟨hroom, hd, rfl⟩
    exact ⟨_, List.mem_map.mpr ⟨_, hm, rfl⟩, capped_key.1, capped_key.2, hav⟩

theorem capped_onGrid (hrules : CapsAndStopSells db propertyId roomTypeId)
    (hgrid : OnGrid db propertyId roomTypeId) (hd : fromDate ≤ d ∧ d < toDate) :
    (capped connectionId (gridTypes propertyId fromDate toDate db)
        (freeNight db propertyId roomTypeId d)).available =
      gridLeft db propertyId roomTypeId d := by
  obtain ⟨t, ht, rfl⟩ := onGrid_iff.mp hgrid
  obtain ⟨c, hc, rfl, hcell⟩ := cellOf_gridTypes ht hd
  obtain ⟨hleft, hoverrides⟩ := gridLine_cell ht hc
  have hnone : c.channelOverrides = [] := by
    rw [hoverrides]
    cases hday : baseDay propertyId t.id c.date db with
    | none => rfl
    | some day =>
      obtain ⟨hmem, hp, htype, -⟩ := baseDay_cond hday
      exact (hrules day hmem hp htype).2.2.2.2
  have hle : gridLeft db propertyId t.id c.date ≤
      roomCount db propertyId t.id - occupancy db propertyId t.id c.date := by
    unfold gridLeft
    cases dayStopSell db propertyId t.id c.date <;> cases dayCap db propertyId t.id c.date <;>
      simp
  have hcell' : cellOf (gridTypes propertyId fromDate toDate db)
      (freeNight db propertyId t.id c.date).roomTypeId
      (freeNight db propertyId t.id c.date).date = some c := hcell
  simp only [capped, hcell', hnone, List.lookup_nil, Option.bind_none, hleft]
  exact min_eq_right hle

theorem capped_offGrid (hgrid : ¬OnGrid db propertyId roomTypeId) :
    capped connectionId (gridTypes propertyId fromDate toDate db)
      (freeNight db propertyId roomTypeId d) = freeNight db propertyId roomTypeId d := by
  have hnone : ∀ t ∈ shownTypes propertyId db, t.id ≠ roomTypeId :=
    fun t ht heq => hgrid (onGrid_iff.mpr ⟨t, ht, heq⟩)
  have hcell : cellOf (gridTypes propertyId fromDate toDate db)
      (freeNight db propertyId roomTypeId d).roomTypeId
      (freeNight db propertyId roomTypeId d).date = none := cellOf_gridTypes_none hnone
  rw [capped, hcell]

/-- The free rooms are what the check accepts when they are none, or nothing is said against
them. -/
theorem free_eq_deskLeft_iff :
    (0 < roomCount db propertyId roomTypeId →
      (freeNight db propertyId roomTypeId d).available = deskLeft db propertyId roomTypeId d) ↔
      roomCount db propertyId roomTypeId ≤ occupancy db propertyId roomTypeId d ∨
        dayStopSell db propertyId roomTypeId d = false ∧
          capRooms db propertyId roomTypeId d = roomCount db propertyId roomTypeId := by
  have hcap : capRooms db propertyId roomTypeId d ≤ roomCount db propertyId roomTypeId := by
    unfold capRooms
    cases dayCap db propertyId roomTypeId d <;> simp
  unfold deskLeft freeNight
  cases dayStopSell db propertyId roomTypeId d with
  | true =>
    simp only [if_true, reduceCtorEq, false_and, or_false]
    omega
  | false =>
    simp only [Bool.false_eq_true, if_false, true_and]
    omega

end Published

/-- Two rooms of type 7, one of them sold on day 10, which has this cap. -/
def cappedDb (cap : ℕ) : HotelDb :=
  { twoRoomDb [stayOf 1 10 11 oneNight_ordered] with
    rateInventoryDays := (∅ : Table RateInventoryDay.key).insert
      { propertyId := 1, roomTypeId := 7, ratePlanId := none, date := 10, available := some cap } }

end Travelo
