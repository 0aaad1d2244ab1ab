import Travelo.Schema

/-!
# Reservation rules

The pure core of the booking engine: dates, the overlap rule and the transition map.
-/

namespace Travelo

/-! ## Dates -/

/-- The day of a moment. -/
def today (now : ℤ) : ℤ := now / 86400000

def addDays (date : ℤ) (days : ℤ) : ℤ := date + days

/-- Nights in a stay, floored at one. -/
def nightsBetween (checkIn checkOut : ℤ) : ℕ := max 1 (checkOut - checkIn).toNat

/-- The dates a loop `for (d = from; d < to; d = addDays(d, 1))` visits. -/
def datesFrom (fromDate toDate : ℤ) : List ℤ :=
  (List.range (toDate - fromDate).toNat).map fun (i : ℕ) => addDays fromDate i

/-- `date` is a night of the stay. -/
def coversDate (checkIn checkOut date : ℤ) : Bool := checkIn ≤ date && date < checkOut

/-- Both comparisons are strict: a stay ending on the 15th and one starting on the 15th do
not overlap. -/
def overlaps (a b : Reservation) : Bool := a.checkIn < b.checkOut && b.checkIn < a.checkOut

def totalPaise (ratePaise : ℤ) (checkIn checkOut : ℤ) : ℤ :=
  ratePaise * nightsBetween checkIn checkOut

/-- The refusal of dates that are not ordered; what it lets through comes with the proof. -/
def assertDateOrder (checkIn checkOut : ℤ) : Except Err (PLift (checkIn < checkOut)) :=
  if h : checkIn < checkOut then .ok ⟨h⟩ else .error .invalidDates

theorem mem_datesFrom {a b d : ℤ} : d ∈ datesFrom a b ↔ a ≤ d ∧ d < b := by
  simp only [datesFrom, addDays, List.mem_map, List.mem_range]
  constructor
  · rintro ⟨i, hi, rfl⟩
    omega
  · rintro ⟨ha, hb⟩
    exact ⟨(d - a).toNat, by omega, by omega⟩

@[simp] theorem coversDate_iff {a b d : ℤ} : coversDate a b d = true ↔ a ≤ d ∧ d < b := by
  simp [coversDate]

theorem nightsBetween_of_lt {a b : ℤ} (h : a < b) : nightsBetween a b = (b - a).toNat := by
  unfold nightsBetween
  omega

/-! ## Transitions -/

/-- The one transition map; terminal statuses have no outgoing edges. -/
def RESERVATION_TRANSITIONS : ReservationStatus → List ReservationStatus
  | .PENDING => [.CONFIRMED, .CANCELLED]
  | .CONFIRMED => [.CHECKED_IN, .CANCELLED, .NO_SHOW]
  | .CHECKED_IN => [.CHECKED_OUT]
  | .CHECKED_OUT => []
  | .CANCELLED => []
  | .NO_SHOW => []

def canTransition (fromStatus toStatus : ReservationStatus) : Bool :=
  (RESERVATION_TRANSITIONS fromStatus).contains toStatus

def assertTransition (fromStatus toStatus : ReservationStatus) : Except Err Unit :=
  if canTransition fromStatus toStatus then .ok ()
  else .error (.invalidTransition fromStatus toStatus)

theorem assertTransition_ok {a b : ReservationStatus} {u : Unit} :
    assertTransition a b = .ok u ↔ canTransition a b = true := by
  unfold assertTransition
  by_cases h : canTransition a b <;> simp [h]

/-- The statuses in which a room takes an arriving guest. -/
def ASSIGNABLE_ROOM_STATUSES : List RoomStatus := [.AVAILABLE, .READY, .INSPECTED]

/-- The sequence printed in `RSV-XXXXXX`. -/
def formatReservationNumber (sequence : ℕ) : ℕ := sequence % 1000000

end Travelo
