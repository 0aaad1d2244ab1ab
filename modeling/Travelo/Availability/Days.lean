import Travelo.Reservations.Capacity

/-!
# A booking, day by day

What `assertTypeCapacity` asks of a booking that is confirmed at once, in terms of the day
rows, the rooms and the stays of each day (`acceptsBooking_iff`). The availability screens
are compared with this form.
-/

namespace Travelo

open ReadCommitted ReservationsService Claims

/-- The check of a booking that is confirmed at once, with the rules it reads. -/
def acceptsBooking (db : HotelDb) (propertyId roomTypeId : Id) (checkIn checkOut : ℤ) : Prop :=
  capacityVerdict propertyId roomTypeId checkIn checkOut none
    (some (RatesService.dayRulesOf propertyId roomTypeId checkIn (addDays checkOut 1) db)) db
      = .ok ()

instance (db : HotelDb) (propertyId roomTypeId : Id) (checkIn checkOut : ℤ) :
    Decidable (acceptsBooking db propertyId roomTypeId checkIn checkOut) := by
  unfold acceptsBooking
  infer_instance

/-! ## The columns of a day -/

section Day

variable (db : HotelDb) (propertyId roomTypeId : Id) (date : ℤ)

def dayCap : Option ℕ := (RatesService.baseDay propertyId roomTypeId date db).bind (·.available)

def dayMinLos : ℕ :=
  ((RatesService.baseDay propertyId roomTypeId date db).bind (·.minLos)).getD 0

def dayMaxLos : ℕ :=
  ((RatesService.baseDay propertyId roomTypeId date db).bind (·.maxLos)).getD 0

def dayStopSell : Bool :=
  ((RatesService.baseDay propertyId roomTypeId date db).map (·.stopSell)).getD false

def dayClosedToArrival : Bool :=
  ((RatesService.baseDay propertyId roomTypeId date db).map (·.closedToArrival)).getD false

def dayClosedToDeparture : Bool :=
  ((RatesService.baseDay propertyId roomTypeId date db).map (·.closedToDeparture)).getD false

/-- The rooms of a type that may be sold on a day, sold ones included. -/
def capRooms : ℕ :=
  match dayCap db propertyId roomTypeId date with
  | none => roomCount db propertyId roomTypeId
  | some cap => min (roomCount db propertyId roomTypeId) cap

/-- The rule the booking path reads for a day. -/
def dayRuleOf : DayRules where
  date
  cap := dayCap db propertyId roomTypeId date
  minLos := (RatesService.baseDay propertyId roomTypeId date db).bind (·.minLos)
  maxLos := (RatesService.baseDay propertyId roomTypeId date db).bind (·.maxLos)
  stopSell := dayStopSell db propertyId roomTypeId date
  closedToArrival := dayClosedToArrival db propertyId roomTypeId date
  closedToDeparture := dayClosedToDeparture db propertyId roomTypeId date

end Day

section Rules

variable {db : HotelDb} {propertyId roomTypeId : Id} {checkIn checkOut d : ℤ}

theorem ruleOn_dayRulesOf_eq {fromDate toDate : ℤ} (hd : fromDate ≤ d ∧ d < toDate) :
    ruleOn (RatesService.dayRulesOf propertyId roomTypeId fromDate toDate db) d =
      some (dayRuleOf db propertyId roomTypeId d) := by
  rw [ruleOn_dayRulesOf, if_pos hd]
  simp only [RatesService.dayRule_eq, RatesService.dayRows_find?_single hd, dayRuleOf, dayCap,
    dayStopSell, dayClosedToArrival, dayClosedToDeparture]

theorem sellableOn_dayRulesOf {fromDate toDate : ℤ} (hd : fromDate ≤ d ∧ d < toDate) :
    sellableOn (roomCount db propertyId roomTypeId)
        (some (RatesService.dayRulesOf propertyId roomTypeId fromDate toDate db)) d =
      capRooms db propertyId roomTypeId d := by
  cases hcap : dayCap db propertyId roomTypeId d with
  | none =>
    simp only [sellableOn, Option.bind_some, ruleOn_dayRulesOf_eq hd, dayRuleOf, capRooms, hcap]
  | some cap =>
    simp only [sellableOn, Option.bind_some, ruleOn_dayRulesOf_eq hd, dayRuleOf, capRooms, hcap]

/-- The stay may arrive, leave and last as it does, and no night of it is closed. -/
structure DaysOpen (db : HotelDb) (propertyId roomTypeId : Id) (checkIn checkOut : ℤ) : Prop where
  arrival : dayClosedToArrival db propertyId roomTypeId checkIn = false
  minLos : dayMinLos db propertyId roomTypeId checkIn ≤ nightsBetween checkIn checkOut
  maxLos : dayMaxLos db propertyId roomTypeId checkIn = 0 ∨
    nightsBetween checkIn checkOut ≤ dayMaxLos db propertyId roomTypeId checkIn
  departure : dayClosedToDeparture db propertyId roomTypeId checkOut = false
  stopSell : ∀ night, checkIn ≤ night → night < checkOut →
    dayStopSell db propertyId roomTypeId night = false

theorem assertRules_dayRulesOf (h : checkIn < checkOut) :
    assertRules (RatesService.dayRulesOf propertyId roomTypeId checkIn (addDays checkOut 1) db)
        checkIn checkOut = .ok () ↔ DaysOpen db propertyId roomTypeId checkIn checkOut := by
  have harrival : checkIn ≤ checkIn ∧ checkIn < addDays checkOut 1 := by
    unfold addDays
    omega
  have hdeparture : checkIn ≤ checkOut ∧ checkOut < addDays checkOut 1 := by
    unfold addDays
    omega
  have hstop : (∀ d, checkIn ≤ d → d < checkOut →
      ((ruleOn (RatesService.dayRulesOf propertyId roomTypeId checkIn (addDays checkOut 1) db)
        d).map (·.stopSell)).getD false = false) ↔
      ∀ night, checkIn ≤ night → night < checkOut →
        dayStopSell db propertyId roomTypeId night = false := by
    refine forall_congr' fun d => forall_congr' fun hin => forall_congr' fun hout => ?_
    have hd : checkIn ≤ d ∧ d < addDays checkOut 1 := by
      unfold addDays
      omega
    rw [ruleOn_dayRulesOf_eq hd]
    rfl
  rw [assertRules_ok, hstop, ruleOn_dayRulesOf_eq harrival, ruleOn_dayRulesOf_eq hdeparture]
  constructor
  · rintro ⟨ha, hmin, hmax, hd, hs⟩
    refine ⟨ha, ?_, hmax, hd, hs⟩
    rcases hmin with hzero | hle
    · exact hzero.trans_le (Nat.zero_le _)
    · exact hle
  · rintro ⟨ha, hmin, hmax, hd, hs⟩
    exact ⟨ha, .inr hmin, hmax, hd, hs⟩

/-- A booking is accepted when the rules of its days are open and each of its nights has a
room left under its cap. -/
theorem acceptsBooking_iff (h : checkIn < checkOut) :
    acceptsBooking db propertyId roomTypeId checkIn checkOut ↔
      DaysOpen db propertyId roomTypeId checkIn checkOut ∧
        ∀ night, checkIn ≤ night → night < checkOut →
          occupancy db propertyId roomTypeId night < capRooms db propertyId roomTypeId night := by
  rw [acceptsBooking, capacityVerdict_ok, firstFullNight_eq_none h]
  simp only [Option.some.injEq, forall_eq', assertRules_dayRulesOf h]
  refine and_congr_right fun _ => ?_
  refine forall_congr' fun night => forall_congr' fun hin => forall_congr' fun hout => ?_
  have hd : checkIn ≤ night ∧ night < addDays checkOut 1 := by
    unfold addDays
    omega
  rw [soldOn_all hin hout, ← roomCount, sellableOn_dayRulesOf hd]

end Rules

/-! ## A type without daily rules -/

/-- No daily rule of the base plan is set for the type. -/
def NoDailyRules (db : HotelDb) (propertyId roomTypeId : Id) : Prop :=
  ∀ d ∈ db.rateInventoryDays,
    ¬(d.propertyId = propertyId ∧ d.roomTypeId = roomTypeId ∧ d.ratePlanId = none)

instance (db : HotelDb) (propertyId roomTypeId : Id) :
    Decidable (NoDailyRules db propertyId roomTypeId) := by
  unfold NoDailyRules
  infer_instance

theorem baseDay_cond {db : HotelDb} {propertyId roomTypeId : Id} {d : ℤ} {day : RateInventoryDay}
    (h : RatesService.baseDay propertyId roomTypeId d db = some day) :
    day ∈ db.rateInventoryDays ∧ day.propertyId = propertyId ∧ day.roomTypeId = roomTypeId ∧
      day.ratePlanId = none := by
  have hcond := List.find?_some h
  simp only [and_decide_eq] at hcond
  exact ⟨List.mem_of_find?_eq_some h, hcond.1.1.1, hcond.1.1.2, hcond.1.2⟩

theorem NoDailyRules.baseDay {db : HotelDb} {propertyId roomTypeId : Id}
    (h : NoDailyRules db propertyId roomTypeId) (d : ℤ) :
    RatesService.baseDay propertyId roomTypeId d db = none := by
  cases hday : RatesService.baseDay propertyId roomTypeId d db with
  | none => rfl
  | some day =>
    obtain ⟨hmem, hcond⟩ := baseDay_cond hday
    exact absurd hcond (h day hmem)

end Travelo
