import Travelo.ReadCommitted.Fragments
import Travelo.Reservations.Service

/-!
# What the checks decide

The shared steps of the service, evaluated on a state: which rows the resolution steps
find, when a room counts as free, and what `assertTypeCapacity` answers. A check reads and
answers; it never changes the transaction it runs in.
-/

namespace Travelo

open ReadCommitted

/-- No stay of the state clashes with the probe. -/
def RoomProbe.Clear (q : RoomProbe) (db : HotelDb) : Prop :=
  ∀ r ∈ db.reservations, q.clashes r = false

instance (q : RoomProbe) (db : HotelDb) : Decidable (q.Clear db) := by
  unfold RoomProbe.Clear
  infer_instance

namespace ReservationsService

/-! ## The daily rules -/

variable {propertyId roomTypeId : Id}

/-- The rules read for a window say what the day rows say, on the days of the window. -/
theorem ruleOn_dayRulesOf {fromDate toDate d : ℤ} {db : HotelDb} :
    ruleOn (RatesService.dayRulesOf propertyId roomTypeId fromDate toDate db) d =
      if fromDate ≤ d ∧ d < toDate then
        some (RatesService.dayRule
          (RatesService.dayRows propertyId [roomTypeId] fromDate toDate none db) d)
      else none := by
  have hdate : ∀ days x, (RatesService.dayRule days x).date = x := by
    intro days x
    unfold RatesService.dayRule
    split <;> rfl
  simp only [ruleOn, RatesService.dayRulesOf, List.find?_map, Function.comp_def, hdate]
  by_cases hmem : fromDate ≤ d ∧ d < toDate
  · rw [if_pos hmem]
    have hfind : (datesFrom fromDate toDate).find? (fun x => decide (x = d)) = some d :=
      find?_eq_some_of_unique (mem_datesFrom.mpr hmem) (by simp) (by simp)
    rw [hfind]
    rfl
  · rw [if_neg hmem, Option.map_eq_none_iff, List.find?_eq_none]
    intro x hx
    have hwindow := mem_datesFrom.mp hx
    simp only [decide_eq_true_eq]
    rintro rfl
    exact hmem hwindow

variable {checkIn checkOut : ℤ}

theorem assertRules_ok {rules : List DayRules} :
    assertRules rules checkIn checkOut = .ok () ↔
      ((ruleOn rules checkIn).map (·.closedToArrival)).getD false = false ∧
      (((ruleOn rules checkIn).bind (·.minLos)).getD 0 = 0 ∨
        ((ruleOn rules checkIn).bind (·.minLos)).getD 0 ≤ nightsBetween checkIn checkOut) ∧
      (((ruleOn rules checkIn).bind (·.maxLos)).getD 0 = 0 ∨
        nightsBetween checkIn checkOut ≤ ((ruleOn rules checkIn).bind (·.maxLos)).getD 0) ∧
      ((ruleOn rules checkOut).map (·.closedToDeparture)).getD false = false ∧
      ∀ d, checkIn ≤ d → d < checkOut → ((ruleOn rules d).map (·.stopSell)).getD false = false := by
  have hsell : (∀ d, checkIn ≤ d → d < checkOut →
      ((ruleOn rules d).map (·.stopSell)).getD false = false) ↔
      ((datesFrom checkIn checkOut).find? fun d =>
        ((ruleOn rules d).map (·.stopSell)).getD false) = none := by
    simp [List.find?_eq_none, mem_datesFrom]
  rw [hsell]
  simp only [assertRules]
  split_ifs with h₁ h₂ h₃ h₄
  · simp [h₁]
  · simp only [false_iff]
    omega
  · simp only [false_iff]
    omega
  · simp [h₄]
  · simp only [Bool.not_eq_true] at h₁ h₄
    cases hfind : (datesFrom checkIn checkOut).find? fun d =>
        ((ruleOn rules d).map (·.stopSell)).getD false with
    | some d => simp
    | none =>
      simp only [true_iff, h₁, h₄, true_and, and_true]
      omega

/-! ## The nights -/

theorem mem_nights {checkIn checkOut night : ℤ} (h : checkIn < checkOut) :
    night ∈ (List.range (nightsBetween checkIn checkOut)).map (fun (i : ℕ) => addDays checkIn i) ↔
      checkIn ≤ night ∧ night < checkOut := by
  rw [nightsBetween_of_lt h]
  exact mem_datesFrom

variable {rules : Option (List DayRules)}

theorem firstFullNight_eq_none {rooms : ℕ} {stays : List Reservation} (h : checkIn < checkOut) :
    firstFullNight rooms stays rules checkIn checkOut = none ↔
      ∀ night, checkIn ≤ night → night < checkOut →
        soldOn stays night < sellableOn rooms rules night := by
  simp only [firstFullNight, List.find?_eq_none, mem_nights h, decide_eq_true_eq, not_le, and_imp]

/-! ## The capacity check -/

/-- What the capacity check answers on a state. -/
def capacityVerdict (propertyId roomTypeId : Id) (checkIn checkOut : ℤ) (excludeId : Option Id)
    (rules : Option (List DayRules)) (db : HotelDb) : Except Err Unit :=
  match rules.elim (.ok ()) fun rs => assertRules rs checkIn checkOut with
  | .error e => .error e
  | .ok _ =>
    (firstFullNight (typeRooms propertyId roomTypeId db).length
      (typeStays propertyId roomTypeId checkIn checkOut excludeId db) rules checkIn checkOut).elim
        (.ok ()) fun night => .error (.noAvailability night)

theorem capacityVerdict_ok {excludeId : Option Id} {db : HotelDb} :
    capacityVerdict propertyId roomTypeId checkIn checkOut excludeId rules db = .ok () ↔
      (∀ rs, rules = some rs → assertRules rs checkIn checkOut = .ok ()) ∧
        firstFullNight (typeRooms propertyId roomTypeId db).length
          (typeStays propertyId roomTypeId checkIn checkOut excludeId db) rules checkIn checkOut
            = none := by
  have hcount : ∀ x : Option ℤ,
      x.elim (.ok ()) (fun night => (.error (.noAvailability night) : Except Err Unit)) = .ok () ↔
        x = none := by
    intro x
    cases x <;> simp
  unfold capacityVerdict
  cases rules with
  | none => simp [hcount]
  | some rs => cases hrules : assertRules rs checkIn checkOut <;> simp [hrules, hcount]

section Eval

variable {t : Tx HotelDb} {w : HotelDb → HotelDb} {db : HotelDb}

@[simp] theorem eval_assertTypeCapacity (propertyId roomTypeId : Id) (checkIn checkOut : ℤ)
    (excludeId : Option Id) (rules : Option (List DayRules)) :
    (assertTypeCapacity propertyId roomTypeId checkIn checkOut excludeId rules).eval (.active w) db
      = (capacityVerdict propertyId roomTypeId checkIn checkOut excludeId rules (w db),
          .active w, db) := by
  have hcount : ∀ x : Option ℤ, (forSome x fun night =>
      (throw (.noAvailability night) : Op Unit)).eval (.active w) db =
      (x.elim (.ok ()) fun night => .error (.noAvailability night), .active w, db) := by
    intro x
    cases x <;> rfl
  simp only [assertTypeCapacity, capacityVerdict, eval_bind]
  cases rules with
  | none =>
    simp only [eval_forSome_none, eval_select_active, Prog.eval_selectForUpdate_active,
      hcount, Option.elim_none]
  | some rs =>
    simp only [eval_forSome_some, eval_lift, Option.elim_some]
    cases hrules : assertRules rs checkIn checkOut with
    | error e => rfl
    | ok u => simp only [eval_select_active, Prog.eval_selectForUpdate_active, hcount]

/-! ## The room probe -/

theorem clear_iff {q : RoomProbe} {db : HotelDb} :
    q.Clear db ↔ ((db.reservations.rows.filter q.clashes).take 1).length = 0 := by
  simp only [RoomProbe.Clear, List.length_take, Nat.min_eq_zero_iff, Nat.one_ne_zero, false_or,
    List.length_eq_zero_iff, List.filter_eq_nil_iff]
  exact ⟨fun hc r hr => by simp [hc r hr], fun hc r hr => by simpa using hc r hr⟩

@[simp] theorem eval_assertRoomFree (q : RoomProbe) :
    (assertRoomFree q).eval (.active w) db =
      (if q.Clear (w db) then .ok () else .error .roomUnavailable, .active w, db) := by
  have hclear : 0 < ((((w db).reservations.rows.filter q.clashes)).take 1).length ↔
      ¬ q.Clear (w db) := by
    rw [clear_iff, Nat.pos_iff_ne_zero]
  simp only [assertRoomFree, eval_simps, Prog.eval_selectForUpdate_active, hclear]
  by_cases hq : q.Clear (w db) <;> simp [hq]

/-! ## Resolution -/

@[simp] theorem eval_requireReservation (propertyId id : Id) :
    (requireReservation propertyId id).eval .idle db =
      ((reservationOf propertyId id db).elim (.error .notFound) .ok, .idle, db) := by
  simp [requireReservation]

@[simp] theorem eval_requireRoomType (propertyId id : Id) :
    (requireRoomType propertyId id).eval .idle db =
      ((roomTypeOf propertyId id db).elim (.error .roomTypeNotFound) .ok, .idle, db) := by
  simp [requireRoomType]

/-- What `hydrate` answers for a row. -/
def hydrated (db : HotelDb) (r : Reservation) : ReservationDto :=
  let room := r.roomId.bind db.rooms.find?
  { row := r
    roomTypeName := (db.roomTypes.find? r.roomTypeId).map (·.name)
    roomNumber := room.map (·.number)
    roomStatus := room.map (·.status)
    nights := nightsBetween r.checkIn r.checkOut
    balancePaise := r.totalPaise - r.paidPaise }

@[simp] theorem eval_hydrate (r : Reservation) :
    (hydrate (some r)).eval .idle db = (.ok (hydrated db r), .idle, db) := by
  cases hroom : r.roomId <;> simp [hydrate, hydrateRoom, hydrated, hroom]

end Eval

end ReservationsService

end Travelo
