import Travelo.Availability.Desk
import Travelo.BookingEngine
import Travelo.Folio.Balance
import Travelo.Reservations.Creation

/-!
# The search and the booking

What the public page shows as bookable (`OnOffer`), and when `book` then honours it
(`Honoured`): a booking that is confirmed at once is checked against the check-out day and
against what is sold under each cap, neither of which the search looks at; it needs a free
number; and it is priced in the plan it asks for.
-/

namespace Travelo

open ReadCommitted ReservationsService Claims PropertyConfigService BookingEngineService
open RatesService (nightPrice dayRows overridesOf assertWindow nightlyPrices dayRulesOf dayRule_eq
  dayRules)
open BookingEngineService (availability)

/-! ## Prices -/

section Prices

variable (db : HotelDb) (propertyId roomTypeId : Id) (baseRate : ℤ) (ratePlanId : Option Id)
  (checkIn checkOut : ℤ)

/-- The prices of the nights of a stay, in the base plan or in a rate plan. -/
def nightlyOf : List NightPrice :=
  (datesFrom checkIn checkOut).map (nightPrice
    (dayRows propertyId [roomTypeId] checkIn checkOut ratePlanId db)
    (overridesOf propertyId roomTypeId checkIn checkOut db) roomTypeId baseRate)

/-- The rate of the arrival date, where the rates engine is not wired in. -/
def rateOn : ℤ :=
  (((db.rateOverrides.filter fun o =>
    o.propertyId = propertyId && o.roomTypeId = roomTypeId && o.startDate ≤ checkIn &&
      checkIn ≤ o.endDate && o.deletedAt.isNone).insertionSort
        fun a b => b.ratePaise ≤ a.ratePaise).head?.map (·.ratePaise)).getD baseRate

/-- The nightly prices a booking is quoted. -/
def quoteOf (env : Env) : List ℤ :=
  if env.rates then
    (nightlyOf db propertyId roomTypeId baseRate ratePlanId checkIn checkOut).map (·.pricePaise)
  else
    List.replicate (max 1 (nightsBetween checkIn checkOut))
      (rateOn db propertyId roomTypeId baseRate checkIn)

end Prices

section Quote

variable {db : HotelDb} {propertyId : Id} {type : RoomType} {checkIn checkOut : ℤ}

theorem eval_nightlyPrices (ratePlanId : Option Id)
    (hwindow : assertWindow checkIn checkOut = .ok ())
    (hfound : db.roomTypes.find? type.id = some type) (hproperty : type.propertyId = propertyId) :
    (nightlyPrices propertyId type.id checkIn checkOut ratePlanId).eval .idle db =
      (.ok (nightlyOf db propertyId type.id type.baseRate ratePlanId checkIn checkOut), .idle,
        db) := by
  simp only [nightlyPrices, eval_simps, hwindow, hfound, Option.filter, hproperty, decide_true,
    if_true, Option.elim_some]
  rfl

theorem eval_nightlyQuote (env : Env) (ratePlanId : Option Id)
    (hwindow : assertWindow checkIn checkOut = .ok ())
    (hfound : db.roomTypes.find? type.id = some type) (hproperty : type.propertyId = propertyId) :
    (nightlyQuote env propertyId type.id checkIn checkOut ratePlanId type.baseRate).eval .idle db =
      (.ok (quoteOf db propertyId type.id type.baseRate ratePlanId checkIn checkOut env), .idle,
        db) := by
  unfold nightlyQuote quoteOf
  by_cases hrates : env.rates = true
  · simp only [if_pos hrates, eval_simps, eval_nightlyPrices ratePlanId hwindow hfound hproperty]
  · simp only [if_neg hrates]
    rfl

end Quote

/-! ## What the search shows -/

section Search

variable {env : Env} {slug : String} {db : HotelDb} {propertyId : Id}

theorem dayRulesOf_eq {roomTypeId : Id} {fromDate toDate : ℤ} :
    dayRulesOf propertyId roomTypeId fromDate toDate db =
      (datesFrom fromDate toDate).map (dayRuleOf db propertyId roomTypeId) := by
  refine List.map_congr_left fun d hd => ?_
  rw [dayRule_eq, RatesService.dayRows_find?_single (mem_datesFrom.mp hd)]
  rfl

/-- The line of the page for a line of the screen. -/
def publicItemOf (db : HotelDb) (propertyId : Id) (q : PublicAvailabilityQueryDto)
    (t : DeskAvailabilityItem) : PublicAvailabilityItem :=
  itemOf q t (nightlyOf db propertyId t.roomTypeId t.baseRate none q.checkIn q.checkOut)
    (dayRulesOf propertyId t.roomTypeId q.checkIn q.checkOut db)
    (dayRulesOf propertyId t.roomTypeId q.checkOut q.checkOut db)

theorem stay_bounds {now checkIn checkOut : ℤ} (h : assertStay now checkIn checkOut = .ok ()) :
    checkIn < checkOut ∧ assertWindow checkIn checkOut = .ok () := by
  unfold assertStay at h
  by_cases hordered : checkIn < checkOut
  · have hdates : assertDateOrder checkIn checkOut = .ok ⟨hordered⟩ := dif_pos hordered
    refine ⟨hordered, ?_⟩
    rw [hdates] at h
    simp only [bind, Except.bind] at h
    split_ifs at h with hpast hahead hlong
    have hnights : checkOut - checkIn ≤ 30 := by
      rw [nightsBetween_of_lt hordered, MAX_NIGHTS] at hlong
      omega
    have hwindow : ¬MAX_RATE_WINDOW_DAYS < checkOut - checkIn := by
      unfold MAX_RATE_WINDOW_DAYS
      omega
    rw [assertWindow, if_neg (not_not.mpr hordered), if_neg hwindow]
  · have hdates : assertDateOrder checkIn checkOut = .error .invalidDates := dif_neg hordered
    rw [hdates] at h
    cases h

theorem eval_resolve : (resolve slug).eval .idle db =
    ((settingsOfSlug slug db).elim (.error .bookingPageNotFound) .ok, .idle, db) := by
  simp only [resolve, settingsBySlug, eval_simps]

theorem eval_search {settings : PropertySettings} {q : PublicAvailabilityQueryDto}
    (hsettings : settingsOfSlug slug db = some settings)
    (hstay : assertStay env.now q.checkIn q.checkOut = .ok ()) :
    (availability env slug q).eval .idle db =
      (.ok ⟨q.checkIn, q.checkOut, nightsBetween q.checkIn q.checkOut,
        (deskTypes db settings.propertyId ⟨q.checkIn, q.checkOut, none⟩).map fun t =>
          publicItemOf db settings.propertyId q
            (deskItem db settings.propertyId ⟨q.checkIn, q.checkOut, none⟩ t)⟩, .idle, db) := by
  obtain ⟨hordered, hwindow⟩ := stay_bounds hstay
  have hdesk := @eval_availability db settings.propertyId ⟨q.checkIn, q.checkOut, none⟩ hordered
  have hitems : ∀ t ∈ (deskTypes db settings.propertyId ⟨q.checkIn, q.checkOut, none⟩).map
      (deskItem db settings.propertyId ⟨q.checkIn, q.checkOut, none⟩),
      (publicItem settings.propertyId q t).eval .idle db =
        (.ok (publicItemOf db settings.propertyId q t), .idle, db) := by
    intro item hitem
    obtain ⟨t, ht, rfl⟩ := List.mem_map.mp hitem
    obtain ⟨hmem, hshown⟩ := mem_deskTypes.mp ht
    have hproperty : t.propertyId = settings.propertyId := by
      simp only [RoomType.shown, and_decide_eq] at hshown
      exact hshown.1.1.1
    have hprices := eval_nightlyPrices none hwindow (find?_key hmem) hproperty
    have hid : (deskItem db settings.propertyId ⟨q.checkIn, q.checkOut, none⟩ t).roomTypeId =
      t.id := rfl
    simp only [publicItem, hid, eval_simps, hprices, dayRules]
    rfl
  simp only [availability, eval_simps, eval_resolve, hsettings, Option.elim_some, hstay, hdesk,
    eval_all hitems, List.map_map]
  rfl

end Search

/-! ## What is on offer -/

/-- The hotel offers the type for the stay: the page takes the dates, the party fits, fewer
stays touch the range than there are rooms, no night is capped at zero, and the days of the
stay are open. -/
structure OnOffer (env : Env) (settings : PropertySettings) (type : RoomType)
    (dto : PublicReservationDto) (db : HotelDb) : Prop where
  stay : assertStay env.now dto.checkIn dto.checkOut = .ok ()
  listed : type ∈ db.roomTypes ∧ type.shown settings.propertyId none = true ∧
    type.id = dto.roomTypeId
  party : dto.adults + dto.children.getD 0 ≤ type.maxOccupancy
  room : (typeStays settings.propertyId type.id dto.checkIn dto.checkOut none db).length <
    roomCount db settings.propertyId type.id
  cap : ∀ night, dto.checkIn ≤ night → night < dto.checkOut →
    dayCap db settings.propertyId type.id night ≠ some 0
  arrival : dayClosedToArrival db settings.propertyId type.id dto.checkIn = false
  minLos : dayMinLos db settings.propertyId type.id dto.checkIn ≤
    nightsBetween dto.checkIn dto.checkOut
  maxLos : dayMaxLos db settings.propertyId type.id dto.checkIn = 0 ∨
    nightsBetween dto.checkIn dto.checkOut ≤ dayMaxLos db settings.propertyId type.id dto.checkIn
  stopSell : ∀ night, dto.checkIn ≤ night → night < dto.checkOut →
    dayStopSell db settings.propertyId type.id night = false

theorem restrictionOf_eq_none {x : Except Err Unit} : restrictionOf x = none ↔ x = .ok () := by
  rcases x with e | u
  · cases e <;> simp [restrictionOf]
  · simp [restrictionOf]

theorem cappedRooms_pos {n : ℕ} {rules : List DayRules} :
    0 < cappedRooms n rules ↔ 0 < n ∧ ∀ r ∈ rules, r.cap ≠ some 0 := by
  have hcaps : (∀ r ∈ rules, r.cap ≠ some 0) ↔ ∀ c ∈ rules.filterMap (·.cap), 0 < c := by
    simp only [List.mem_filterMap]
    constructor
    · rintro h c ⟨r, hr, hc⟩
      refine Nat.pos_of_ne_zero fun hzero => h r hr ?_
      rw [hc, hzero]
    · intro h r hr hzero
      exact absurd (h 0 ⟨r, hr, hzero⟩) (Nat.lt_irrefl 0)
  rw [cappedRooms, hcaps]
  cases hmin : (rules.filterMap (·.cap)).min? with
  | none =>
    rw [List.min?_eq_none_iff] at hmin
    simp [hmin]
  | some cap =>
    obtain ⟨hmem, hle⟩ := List.min?_eq_some_iff.mp hmin
    show 0 < min n cap ↔ 0 < n ∧ ∀ c ∈ rules.filterMap (·.cap), 0 < c
    constructor
    · intro hpos
      refine ⟨by omega, fun c hc => ?_⟩
      have hcap := hle c hc
      omega
    · rintro ⟨hn, hall⟩
      have hcap := hall cap hmem
      omega

theorem itemOf_bookable {q : PublicAvailabilityQueryDto} {t : DeskAvailabilityItem}
    {nightly : List NightPrice} {rules departure : List DayRules} :
    (itemOf q t nightly rules departure).bookable = true ↔
      (0 < t.availableRooms ∧ ∀ r ∈ rules, r.cap ≠ some 0) ∧
        assertRules (rules ++ departure) q.checkIn q.checkOut = .ok () ∧
        q.adults.getD 1 + q.children.getD 0 ≤ t.maxOccupancy := by
  simp only [itemOf, and_decide_eq, Option.isNone_iff_eq_none, restrictionOf_eq_none,
    cappedRooms_pos, and_assoc]

section Offer

variable {env : Env} {slug : String} {db : HotelDb} {propertyId roomTypeId : Id}
  {checkIn checkOut : ℤ}

/-- The rules the search applies: the check-out day is in neither of its windows. -/
theorem assertRules_search (h : checkIn < checkOut) :
    assertRules (dayRulesOf propertyId roomTypeId checkIn checkOut db ++
        dayRulesOf propertyId roomTypeId checkOut checkOut db) checkIn checkOut
        = .ok () ↔
      dayClosedToArrival db propertyId roomTypeId checkIn = false ∧
      dayMinLos db propertyId roomTypeId checkIn ≤ nightsBetween checkIn checkOut ∧
      (dayMaxLos db propertyId roomTypeId checkIn = 0 ∨
        nightsBetween checkIn checkOut ≤ dayMaxLos db propertyId roomTypeId checkIn) ∧
      ∀ night, checkIn ≤ night → night < checkOut →
        dayStopSell db propertyId roomTypeId night = false := by
  have hempty : dayRulesOf propertyId roomTypeId checkOut checkOut db = [] := by
    simp [dayRulesOf, datesFrom]
  have hdeparture : ruleOn (dayRulesOf propertyId roomTypeId checkIn checkOut db)
      checkOut = none := by
    rw [ruleOn_dayRulesOf, if_neg fun hd => lt_irrefl _ hd.2]
  have hstop : (∀ d, checkIn ≤ d → d < checkOut →
      ((ruleOn (dayRulesOf propertyId roomTypeId checkIn checkOut db)
        d).map (·.stopSell)).getD false = false) ↔
      ∀ night, checkIn ≤ night → night < checkOut →
        dayStopSell db propertyId roomTypeId night = false := by
    refine forall_congr' fun d => forall_congr' fun hin => forall_congr' fun hout => ?_
    rw [ruleOn_dayRulesOf_eq ⟨hin, hout⟩]
    rfl
  rw [hempty, List.append_nil, assertRules_ok, hstop, hdeparture,
    ruleOn_dayRulesOf_eq ⟨le_refl checkIn, h⟩]
  constructor
  · rintro ⟨ha, hmin, hmax, -, hs⟩
    refine ⟨ha, ?_, hmax, hs⟩
    rcases hmin with hzero | hle
    · exact hzero.trans_le (Nat.zero_le _)
    · exact hle
  · rintro ⟨ha, hmin, hmax, hs⟩
    exact ⟨ha, .inr hmin, hmax, rfl, hs⟩

theorem bookable_iff {settings : PropertySettings} {type : RoomType} {dto : PublicReservationDto}
    (hstay : assertStay env.now dto.checkIn dto.checkOut = .ok ())
    (htype : type ∈ deskTypes db settings.propertyId ⟨dto.checkIn, dto.checkOut, none⟩)
    (hid : type.id = dto.roomTypeId) :
    (publicItemOf db settings.propertyId dto.search
      (deskItem db settings.propertyId ⟨dto.checkIn, dto.checkOut, none⟩ type)).bookable = true ↔
      OnOffer env settings type dto db := by
  obtain ⟨hordered, -⟩ := stay_bounds hstay
  obtain ⟨hmem, hshown⟩ := mem_deskTypes.mp htype
  have hrooms := deskItem_availableRooms htype
  have hcaps : (∀ r ∈ dayRulesOf settings.propertyId type.id dto.checkIn dto.checkOut
      db, r.cap ≠ some 0) ↔ ∀ night, dto.checkIn ≤ night → night < dto.checkOut →
        dayCap db settings.propertyId type.id night ≠ some 0 := by
    simp only [dayRulesOf_eq, List.mem_map, mem_datesFrom]
    constructor
    · intro h night hin hout
      exact h _ ⟨night, ⟨hin, hout⟩, rfl⟩
    · rintro h _ ⟨night, ⟨hin, hout⟩, rfl⟩
      exact h night hin hout
  rw [publicItemOf, itemOf_bookable, hrooms]
  show (_ ∧ ∀ r ∈ dayRulesOf settings.propertyId type.id dto.checkIn dto.checkOut
      db, r.cap ≠ some 0) ∧ assertRules (dayRulesOf settings.propertyId type.id
        dto.checkIn dto.checkOut db ++ dayRulesOf settings.propertyId type.id
          dto.checkOut dto.checkOut db) dto.checkIn dto.checkOut = .ok () ∧
      dto.adults + dto.children.getD 0 ≤ type.maxOccupancy ↔ _
  rw [hcaps, assertRules_search hordered, Nat.sub_pos_iff_lt]
  constructor
  · rintro ⟨⟨hroom, hcap⟩, ⟨ha, hmin, hmax, hs⟩, hparty⟩
    exact ⟨hstay, ⟨hmem, hshown, hid⟩, hparty, hroom, hcap, ha, hmin, hmax, hs⟩
  · intro h
    exact ⟨⟨h.room, h.cap⟩, ⟨h.arrival, h.minLos, h.maxLos, h.stopSell⟩, h.party⟩

end Offer

/-- What the search shows of the type a request names. -/
def offered (env : Env) (slug : String) (dto : PublicReservationDto) (db : HotelDb) :
    Option PublicAvailabilityItem :=
  match ((availability env slug dto.search).run db).res with
  | .ok answer => answer.items.find? fun i => i.roomTypeId = dto.roomTypeId
  | .error _ => none

section Offered

variable {env : Env} {slug : String} {dto : PublicReservationDto} {db : HotelDb}
  {settings : PropertySettings} {type : RoomType}

theorem offered_eq (hsettings : settingsOfSlug slug db = some settings)
    (hstay : assertStay env.now dto.checkIn dto.checkOut = .ok ())
    (htype : type ∈ deskTypes db settings.propertyId ⟨dto.checkIn, dto.checkOut, none⟩)
    (hid : type.id = dto.roomTypeId) :
    offered env slug dto db = some (publicItemOf db settings.propertyId dto.search
      (deskItem db settings.propertyId ⟨dto.checkIn, dto.checkOut, none⟩ type)) := by
  have hsearch := @eval_search env slug db settings dto.search hsettings hstay
  have hline := @find?_deskItem db settings.propertyId ⟨dto.checkIn, dto.checkOut, none⟩ type _
    PublicAvailabilityItem.roomTypeId
    (fun t => publicItemOf db settings.propertyId dto.search
      (deskItem db settings.propertyId ⟨dto.checkIn, dto.checkOut, none⟩ t)) (fun _ => rfl) htype
  rw [offered, Prog.run_res, hsearch, ← hid]
  exact hline

theorem offered_some {item : PublicAvailabilityItem} (h : offered env slug dto db = some item) :
    ∃ settings type, settingsOfSlug slug db = some settings ∧
      assertStay env.now dto.checkIn dto.checkOut = .ok () ∧
      type ∈ deskTypes db settings.propertyId ⟨dto.checkIn, dto.checkOut, none⟩ ∧
      type.id = dto.roomTypeId ∧
      item = publicItemOf db settings.propertyId dto.search
        (deskItem db settings.propertyId ⟨dto.checkIn, dto.checkOut, none⟩ type) := by
  rw [offered, Prog.run_res] at h
  cases hsettings : settingsOfSlug slug db with
  | none =>
    simp only [availability, eval_bind, eval_resolve, hsettings,
      Option.elim_none, reduceCtorEq] at h
  | some settings =>
    rcases hstay : assertStay env.now dto.checkIn dto.checkOut with e | u
    · have hassert : assertStay env.now dto.search.checkIn dto.search.checkOut = .error e := hstay
      simp only [availability, eval_simps, eval_resolve, hsettings, Option.elim_some, hassert,
        reduceCtorEq] at h
    · rw [eval_search hsettings hstay] at h
      have hfind : ((deskTypes db settings.propertyId ⟨dto.checkIn, dto.checkOut, none⟩).map
          fun t => publicItemOf db settings.propertyId dto.search
            (deskItem db settings.propertyId ⟨dto.checkIn, dto.checkOut, none⟩ t)).find?
              (fun i => i.roomTypeId = dto.roomTypeId) = some item := h
      have hid := of_decide_eq_true (List.find?_some
        (p := fun i : PublicAvailabilityItem => decide (i.roomTypeId = dto.roomTypeId)) hfind)
      obtain ⟨type, htype, rfl⟩ := List.mem_map.mp (List.mem_of_find?_eq_some hfind)
      exact ⟨settings, type, rfl, rfl, htype, hid, rfl⟩

theorem offered_bookable_iff :
    (∃ item, offered env slug dto db = some item ∧ item.bookable = true) ↔
      ∃ settings type, settingsOfSlug slug db = some settings ∧ OnOffer env settings type dto db := by
  constructor
  · rintro ⟨item, hitem, hbookable⟩
    obtain ⟨settings, type, hsettings, hstay, htype, hid, rfl⟩ := offered_some hitem
    exact ⟨settings, type, hsettings, (bookable_iff hstay htype hid).mp hbookable⟩
  · rintro ⟨settings, type, hsettings, h⟩
    obtain ⟨hmem, hshown, hid⟩ := h.listed
    have htype : type ∈ deskTypes db settings.propertyId ⟨dto.checkIn, dto.checkOut, none⟩ :=
      mem_deskTypes.mpr ⟨hmem, hshown⟩
    exact ⟨_, offered_eq hsettings h.stay htype hid, (bookable_iff h.stay htype hid).mpr h⟩

end Offered

/-! ## The booking -/

/-- The booking goes through as it was offered: if it is confirmed at once its check-out day
takes departures and no night is sold up to its cap; a number is free; and the prices of its
plan add up to those of the base plan. -/
structure Honoured (env : Env) (settings : PropertySettings) (type : RoomType)
    (dto : PublicReservationDto) (db : HotelDb) : Prop where
  checked : env.rates = true → settings.holdExpiryMinutes.getD 0 ≤ 0 →
    dayClosedToDeparture db settings.propertyId type.id dto.checkOut = false ∧
      ∀ night, dto.checkIn ≤ night → night < dto.checkOut → ∀ cap,
        dayCap db settings.propertyId type.id night = some cap →
          occupancy db settings.propertyId type.id night < cap
  number : ∃ k < NUMBER_ATTEMPTS, NumberFree settings.propertyId db k
  price : (quoteOf db settings.propertyId type.id type.baseRate dto.ratePlanId dto.checkIn
      dto.checkOut env).sum =
    ((nightlyOf db settings.propertyId type.id type.baseRate none dto.checkIn dto.checkOut).map
      (·.pricePaise)).sum

section Book

variable {env : Env} {slug : String} {dto : PublicReservationDto} {db : HotelDb}
  {settings : PropertySettings} {type : RoomType}

theorem OnOffer.roomTypeOf (h : OnOffer env settings type dto db) :
    ReservationsService.roomTypeOf settings.propertyId (createDto dto settings).roomTypeId db =
      some type := by
  obtain ⟨hmem, hshown, hid⟩ := h.listed
  simp only [RoomType.shown, and_decide_eq] at hshown
  rw [createDto, ← hid, ReservationsService.roomTypeOf, find?_key hmem]
  simp [Option.filter, hshown.1.1.1, hshown.1.1.2]

theorem OnOffer.quote (h : OnOffer env settings type dto db) :
    ((quoteUnlessGiven env settings.propertyId (createDto dto settings) type).run db).res =
      .ok (some (quoteOf db settings.propertyId type.id type.baseRate dto.ratePlanId dto.checkIn
        dto.checkOut env)) := by
  obtain ⟨-, hwindow⟩ := stay_bounds h.stay
  obtain ⟨hmem, hshown, -⟩ := h.listed
  simp only [RoomType.shown, and_decide_eq] at hshown
  have hquote := eval_nightlyQuote env dto.ratePlanId hwindow (find?_key hmem) hshown.1.1.1
  have hunless : quoteUnlessGiven env settings.propertyId (createDto dto settings) type =
      nightlyQuote env settings.propertyId type.id dto.checkIn dto.checkOut dto.ratePlanId
        type.baseRate >>= fun prices => pure (some prices) := if_neg (by simp [createDto])
  rw [hunless, Prog.run_res, eval_bind, hquote]
  rfl

/-- The capacity check on a type that is on offer: only the check-out day and the caps can
still refuse the stay. -/
theorem OnOffer.capacity_iff (h : OnOffer env settings type dto db) :
    capacityVerdict settings.propertyId dto.roomTypeId dto.checkIn dto.checkOut none
        (rulesOf env settings.propertyId (createDto dto settings) db) db = .ok () ↔
      (env.rates = true →
        dayClosedToDeparture db settings.propertyId type.id dto.checkOut = false ∧
          ∀ night, dto.checkIn ≤ night → night < dto.checkOut → ∀ cap,
            dayCap db settings.propertyId type.id night = some cap →
              occupancy db settings.propertyId type.id night < cap) := by
  obtain ⟨hordered, -⟩ := stay_bounds h.stay
  have hroom : ∀ night, dto.checkIn ≤ night → night < dto.checkOut →
      occupancy db settings.propertyId type.id night <
        roomCount db settings.propertyId type.id := fun night hin hout =>
    (occupancy_le_touching (Finset.mem_Ico.mpr ⟨hin, hout⟩)).trans_lt h.room
  rw [← h.listed.2.2]
  by_cases hrates : env.rates = true
  · have hrules : rulesOf env settings.propertyId (createDto dto settings) db =
        some (dayRulesOf settings.propertyId type.id dto.checkIn
          (addDays dto.checkOut 1) db) := by
      rw [rulesOf, if_pos hrates, h.listed.2.2]
      rfl
    have hcap : ∀ night, dto.checkIn ≤ night → night < dto.checkOut →
        (occupancy db settings.propertyId type.id night <
          capRooms db settings.propertyId type.id night ↔
        ∀ cap, dayCap db settings.propertyId type.id night = some cap →
          occupancy db settings.propertyId type.id night < cap) := by
      intro night hin hout
      have hleft := hroom night hin hout
      cases hday : dayCap db settings.propertyId type.id night with
      | none => simp [capRooms, hday, hleft]
      | some cap => simp [capRooms, hday, hleft]
    rw [hrules, ← acceptsBooking, acceptsBooking_iff hordered]
    constructor
    · rintro ⟨hopen, hleft⟩ -
      exact ⟨hopen.departure, fun night hin hout => (hcap night hin hout).mp (hleft night hin hout)⟩
    · intro hchecked
      obtain ⟨hdeparture, hleft⟩ := hchecked hrates
      exact ⟨⟨h.arrival, h.minLos, h.maxLos, hdeparture, h.stopSell⟩,
        fun night hin hout => (hcap night hin hout).mpr (hleft night hin hout)⟩
  · have hrules : rulesOf env settings.propertyId (createDto dto settings) db = none :=
      if_neg hrates
    rw [hrules, capacityVerdict_ok, firstFullNight_eq_none hordered]
    refine ⟨fun _ hr => absurd hr hrates, fun _ => ⟨by simp, fun night hin hout => ?_⟩⟩
    rw [soldOn_all hin hout]
    exact hroom night hin hout

theorem eval_search_book (hsettings : settingsOfSlug slug db = some settings)
    (hstay : assertStay env.now dto.checkIn dto.checkOut = .ok ()) :
    ∃ answer, (availability env slug dto.search).eval .idle db =
      (.ok answer, .idle, db) ∧
        answer.items.find? (fun i => i.roomTypeId = dto.roomTypeId) = offered env slug dto db := by
  have hsearch := @eval_search env slug db settings dto.search hsettings hstay
  refine ⟨_, hsearch, ?_⟩
  rw [offered, Prog.run_res, hsearch]

theorem book_refused (h : ¬∃ item, offered env slug dto db = some item ∧ item.bookable = true) :
    ∃ e, ((book env slug dto).run db).res = .error e := by
  rw [Prog.run_res]
  cases hsettings : settingsOfSlug slug db with
  | none =>
    simp only [book, eval_bind, eval_resolve, hsettings, Option.elim_none]
    exact ⟨_, rfl⟩
  | some settings =>
    rcases hstay : assertStay env.now dto.checkIn dto.checkOut with e | u
    · simp only [book, eval_simps, eval_resolve, hsettings, Option.elim_some, hstay]
      exact ⟨e, rfl⟩
    · obtain ⟨answer, hsearch, hline⟩ := eval_search_book hsettings hstay
      simp only [book, eval_simps, eval_resolve, hsettings, Option.elim_some, hstay, hsearch, hline]
      cases hitem : offered env slug dto db with
      | none => exact ⟨_, rfl⟩
      | some item =>
        have hnot : ¬item.bookable = true := fun hb => h ⟨item, hitem, hb⟩
        simp only [Option.elim_some, hnot]
        exact ⟨_, rfl⟩

theorem eval_book (hsettings : settingsOfSlug slug db = some settings)
    (hoffer : OnOffer env settings type dto db) (hcoupon : dto.coupon = none)
    (haddons : dto.addons = []) :
    let created := (create env settings.propertyId (createDto dto settings) none).eval .idle db
    (∀ e, created.1 = .error e → ((book env slug dto).run db).res = .error e) ∧
    ∀ r db', created = (.ok r, .idle, db') → ∃ out,
      (book env slug dto).eval .idle db = (.ok out, .idle, db') ∧
        out.reservationNumber = r.row.reservationNumber := by
  intro created
  obtain ⟨answer, hsearch, hline⟩ := eval_search_book hsettings hoffer.stay
  obtain ⟨item, hitem, hbookable⟩ :=
    (@offered_bookable_iff env slug dto db).mpr ⟨settings, type, hsettings, hoffer⟩
  constructor
  · intro e he
    rw [Prog.run_res]
    simp only [book, eval_simps, eval_resolve, hsettings, Option.elim_some, hoffer.stay, hsearch,
      hline, hitem, hbookable, not_true_eq_false, if_false, hcoupon, eval_forSome_none]
    rcases hcreated : (create env settings.propertyId (createDto dto settings) none).eval .idle db
      with ⟨res, t, db'⟩
    have hres : res = .error e := by
      rw [← he]
      exact (congrArg Prod.fst hcreated).symm
    rw [hres]
  · intro r db' hr
    obtain ⟨summary, hsummary, -⟩ := FolioService.eval_summary db' r.row.id
    refine ⟨bookingAnswer settings r summary, ?_, rfl⟩
    simp only [book, eval_simps, eval_resolve, hsettings, Option.elim_some, hoffer.stay, hsearch,
      hline, hitem, hbookable, not_true_eq_false, if_false, hcoupon, eval_forSome_none]
    rw [show (create env settings.propertyId (createDto dto settings) none).eval .idle db =
      (.ok r, .idle, db') from hr]
    have hnone : (postAddons [] []).eval .idle db' = (.ok (), .idle, db') := rfl
    simp only [haddons, List.isEmpty_nil, if_true, eval_pure, hnone, hsummary]

/-- With the check-out day and the caps in order, every check of `create` passes. -/
theorem OnOffer.checksPass (h : OnOffer env settings type dto db)
    (hchecked : env.rates = true → settings.holdExpiryMinutes.getD 0 ≤ 0 →
      dayClosedToDeparture db settings.propertyId type.id dto.checkOut = false ∧
        ∀ night, dto.checkIn ≤ night → night < dto.checkOut → ∀ cap,
          dayCap db settings.propertyId type.id night = some cap →
            occupancy db settings.propertyId type.id night < cap) :
    ChecksPass env settings.propertyId (createDto dto settings) db where
  dates := (stay_bounds h.stay).1
  type := ⟨type, h.roomTypeOf, _, h.quote⟩
  room := fun roomId hroom => nomatch hroom
  free := by
    intro hconfirmed
    refine ⟨fun roomId hroom => (nomatch hroom), h.capacity_iff.mpr fun hrates => ?_⟩
    refine hchecked hrates ?_
    by_contra hhold
    have hholds : 0 < settings.holdExpiryMinutes.getD 0 := by omega
    simp only [createDto, if_pos hholds, reduceCtorEq, Option.some.injEq] at hconfirmed

end Book

/-- The search and `book` agree on a request: what is shown as bookable is booked, at the total
that is shown, and what is not is refused. -/
def SearchAndBookAgree (env : Env) (slug : String) (dto : PublicReservationDto) (db : HotelDb) :
    Prop :=
  (∀ item, offered env slug dto db = some item → item.bookable = true →
    ∃ out row, ((book env slug dto).run db).res = .ok out ∧ db.reservationTaken row = false ∧
      ((book env slug dto).run db).db.reservations = db.reservations.insert row ∧
      row.reservationNumber = out.reservationNumber ∧ row.totalPaise = item.totalPaise) ∧
  ((¬∃ item, offered env slug dto db = some item ∧ item.bookable = true) →
    ∃ e, ((book env slug dto).run db).res = .error e)

theorem capacityVerdict_ne_uniqueViolation {propertyId roomTypeId : Id} {checkIn checkOut : ℤ}
    {excludeId : Option Id} {rules : Option (List DayRules)} {db : HotelDb} {e : Err}
    (h : capacityVerdict propertyId roomTypeId checkIn checkOut excludeId rules db = .error e) :
    e ≠ .uniqueViolation := by
  rintro rfl
  have hrules : ∀ rs, assertRules rs checkIn checkOut ≠ .error .uniqueViolation := by
    intro rs hrs
    simp only [assertRules] at hrs
    split_ifs at hrs
    · cases hrs
    · cases hrs
    · cases hrs
    · cases hrs
    · split at hrs
      · cases hrs
      · cases hrs
  unfold capacityVerdict at h
  split at h
  · next hrefused =>
    obtain rfl := Except.error.inj h
    cases rules with
    | none => cases hrefused
    | some rs => exact hrules rs hrefused
  · next hok =>
    cases hfull : firstFullNight (typeRooms propertyId roomTypeId db).length
        (typeStays propertyId roomTypeId checkIn checkOut excludeId db) rules checkIn checkOut with
    | none =>
      rw [hfull] at h
      cases h
    | some night =>
      rw [hfull] at h
      cases h

/-- A hotel with one room, whose page takes bookings that are confirmed at once. -/
def pageHotel (days : List RateInventoryDay) : HotelDb where
  rooms := (∅ : Table Room.id).insert
    { id := 101, propertyId := 1, roomTypeId := 7, number := "101", status := .AVAILABLE }
  roomTypes := (∅ : Table RoomType.id).insert
    { id := 7, propertyId := 1, name := "Deluxe", baseRate := 100000 }
  rateInventoryDays := days.foldl Table.insert ∅
  propertySettings := (∅ : Table PropertySettings.propertyId).insert
    { propertyId := 1, bookingEngineEnabled := true, bookingEngineSlug := some "sea-view" }

/-- Two nights for one guest. -/
def twoNights : PublicReservationDto where
  roomTypeId := 7
  checkIn := 10
  checkOut := 12
  adults := 1
  guestName := "Guest"
  guestPhone := "+910000000000"

/-- The morning of the tenth day. -/
def tenthDay : Env := { now := 10 * 86400000 }

/-- Nobody may leave on the twelfth day. -/
def noDepartures : RateInventoryDay where
  propertyId := 1
  roomTypeId := 7
  ratePlanId := none
  date := 12
  closedToDeparture := true

end Travelo
