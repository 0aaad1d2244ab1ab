import Mathlib.Algebra.BigOperators.Group.List.Lemmas
import Travelo.Folio.Balance
import Travelo.Outstanding

/-!
# The folio and the other screens

The board and the group page know a room total and what was paid; a folio also has its lines, the
tax on the room and on the lines, and its own count of payments (`beyond`). `screens_agree_iff` says
what that has to come to for the screens to show what the folios say.
-/

namespace Travelo.Outstanding

open ReadCommitted

/-- The balance that `FolioService.summary` reports. -/
def summaryBalance (db : HotelDb) (r : Reservation) : ℤ :=
  match ((FolioService.summary r.id).eval .idle db).1 with
  | .ok s => s.balancePaise
  | .error _ => 0

/-- What the folio asks for beyond the two columns: its lines and all tax, less the payments that
the column does not count. -/
def beyond (db : HotelDb) (r : Reservation) : ℤ :=
  Folio.ancillary r.id db + Folio.tax r.id db - (FolioService.netPaid r.id db - r.paidPaise)

variable {db : HotelDb} {propertyId : Id} {day : ℤ} {r : Reservation}

theorem summaryBalance_eq (db : HotelDb) (r : Reservation) :
    summaryBalance db r = Folio.balance r.id db := by
  rcases FolioService.eval_summary db r.id with ⟨s, heval, -, -, -, hbalance⟩
  unfold summaryBalance
  rw [heval]
  exact hbalance

theorem summaryBalance_split (hr : r ∈ db.reservations) (hlive : r.deletedAt.isNone = true) :
    summaryBalance db r = due r + beyond db r := by
  have hstay : Folio.stay r.id db = some r := by
    rw [Folio.stay, find?_key hr]
    simpa using hlive
  have hroom : Folio.roomCharge r.id db = r.totalPaise := by
    rw [Folio.roomCharge, hstay]
    rfl
  rw [summaryBalance_eq, Folio.balance, hroom, due, beyond]
  omega

/-! ## The board -/

/-- The stays the figures of the board are about. -/
def listed (propertyId : Id) (day : ℤ) (db : HotelDb) : List Reservation :=
  departuresOf propertyId day db ++ inHouseOf propertyId day db

theorem mem_listed (h : r ∈ listed propertyId day db) :
    r ∈ db.reservations ∧ r.deletedAt.isNone = true := by
  have hfound : ∀ {p : Reservation → Bool},
      r ∈ byGuestName (db.reservations.rows.filter fun r => base propertyId r && p r) →
        r ∈ db.reservations ∧ r.deletedAt.isNone = true := by
    intro p hmem
    have hrow := List.mem_filter.mp ((List.mem_insertionSort _).mp hmem)
    simp only [base, Bool.and_eq_true] at hrow
    exact ⟨hrow.1, hrow.2.1.2⟩
  rcases List.mem_append.mp h with hdeparture | hguest
  · refine hfound (p := fun r => r.status = .CHECKED_IN && r.checkOut = day) ?_
    simpa only [Bool.and_assoc, departuresOf] using hdeparture
  · refine hfound (p := fun r => r.status = .CHECKED_IN && r.checkIn ≤ day && day < r.checkOut) ?_
    simpa only [Bool.and_assoc, inHouseOf] using hguest

theorem foldl_pending (db : HotelDb) (rows : List Reservation) (paise : ℤ) (folios : ℕ) :
    (hydrate db rows).foldl (fun (paise, folios) s =>
      if 0 < due s.stay then (paise + due s.stay, folios + 1) else (paise, folios))
        (paise, folios) =
      (paise + (rows.map fun r => max 0 (due r)).sum,
        folios + rows.countP fun r => 0 < due r) := by
  induction rows generalizing paise folios with
  | nil => simp [hydrate]
  | cons r rows ih =>
    unfold hydrate at ih ⊢
    rw [List.map_cons, List.foldl_cons]
    by_cases hdue : 0 < due r
    · have hmax : max 0 (due r) = due r := by omega
      simp only [if_pos hdue]
      rw [ih, List.map_cons, List.sum_cons, hmax, List.countP_cons_of_pos (by simpa using hdue)]
      ext
      · dsimp only
        omega
      · dsimp only
        omega
    · have hmax : max 0 (due r) = 0 := by omega
      simp only [if_neg hdue]
      rw [ih, List.map_cons, List.sum_cons, hmax, List.countP_cons_of_neg (by simpa using hdue)]
      ext
      · dsimp only
        omega
      · rfl

theorem today_pending (propertyId : Id) (day startOfDay : ℤ) (db : HotelDb) :
    (today propertyId day startOfDay db).counts.pendingPaymentPaise =
        ((listed propertyId day db).map fun r => max 0 (due r)).sum ∧
      (today propertyId day startOfDay db).counts.pendingFolios =
        (listed propertyId day db).countP fun r => 0 < due r := by
  have hpending : pending (hydrate db (departuresOf propertyId day db) ++
      hydrate db (inHouseOf propertyId day db)) =
      (0 + ((listed propertyId day db).map fun r => max 0 (due r)).sum,
        0 + (listed propertyId day db).countP fun r => 0 < due r) := by
    rw [← foldl_pending db]
    unfold listed hydrate pending
    rw [List.map_append]
  simp only [today, hpending]
  omega

/-- What is owed on the folio and not on the board. -/
def hidden (db : HotelDb) (r : Reservation) : ℤ :=
  max 0 (min (beyond db r) (due r + beyond db r))

/-- What is owed on the board and not on the folio. -/
def phantom (db : HotelDb) (r : Reservation) : ℤ :=
  max 0 (min (-beyond db r) (due r))

theorem sum_positive (db : HotelDb) (rows : List Reservation) :
    (rows.map fun r => max 0 (due r + beyond db r)).sum + (rows.map (phantom db)).sum =
      (rows.map fun r => max 0 (due r)).sum + (rows.map (hidden db)).sum := by
  induction rows with
  | nil => rfl
  | cons r rows ih =>
    simp only [List.map_cons, List.sum_cons, hidden, phantom] at ih ⊢
    omega

theorem countP_positive (db : HotelDb) (rows : List Reservation) :
    (rows.countP fun r => 0 < due r + beyond db r) +
        rows.countP (fun r => 0 < due r && due r + beyond db r ≤ 0) =
      (rows.countP fun r => 0 < due r) +
        rows.countP fun r => due r ≤ 0 && 0 < due r + beyond db r := by
  induction rows with
  | nil => rfl
  | cons r rows ih =>
    simp only [List.countP_cons]
    by_cases hdue : 0 < due r <;> by_cases howed : 0 < due r + beyond db r <;>
      simp [hdue, howed, not_lt.mp, not_le.mpr] <;> omega

/-! ## Groups -/

/-- The stay was neither cancelled nor missed. -/
def counts (r : Reservation) : Bool := r.status ≠ .CANCELLED && r.status ≠ .NO_SHOW

theorem foldl_add (f : Reservation → ℤ) (rows : List Reservation) (s : ℤ) :
    rows.foldl (fun s r => s + f r) s = s + (rows.map f).sum := by
  induction rows generalizing s with
  | nil => simp
  | cons r rows ih =>
    rw [List.foldl_cons, ih, List.map_cons, List.sum_cons]
    omega

theorem sum_due (rows : List Reservation) :
    (rows.map (·.totalPaise)).sum - (rows.map (·.paidPaise)).sum =
      ((rows.filter counts).map due).sum + ((rows.filter fun r => !counts r).map due).sum := by
  induction rows with
  | nil => rfl
  | cons r rows ih =>
    simp only [List.map_cons, List.sum_cons]
    cases hcounts : counts r <;> simp [hcounts, due] at ih ⊢ <;> omega

theorem mem_staysOf {groupId : Id} (h : r ∈ staysOf propertyId groupId db) :
    r ∈ db.reservations ∧ r.deletedAt.isNone = true := by
  have hrow := List.mem_filter.mp ((List.mem_insertionSort _).mp h)
  simp only [Bool.and_eq_true] at hrow
  exact ⟨hrow.1, hrow.2.2⟩

/-! ## Agreement -/

/-- The stays a board shows as departures and in-house. -/
def DeskToday.shown (board : DeskToday) : List Reservation :=
  (board.departures ++ board.inHouse).map (·.stay)

theorem shown_today (propertyId : Id) (day startOfDay : ℤ) (db : HotelDb) :
    (today propertyId day startOfDay db).shown = listed propertyId day db := by
  simp only [DeskToday.shown, today, hydrate, listed, List.map_append, List.map_map]
  congr 1
  · exact List.map_id'' (fun _ => rfl) _
  · exact List.map_id'' (fun _ => rfl) _

/-- The figures of the board are those of the folios it lists. -/
structure BoardAgrees (propertyId : Id) (day startOfDay : ℤ) (db : HotelDb) : Prop where
  paise : (today propertyId day startOfDay db).counts.pendingPaymentPaise =
    ((today propertyId day startOfDay db).shown.map fun r => max 0 (summaryBalance db r)).sum
  folios : (today propertyId day startOfDay db).counts.pendingFolios =
    (today propertyId day startOfDay db).shown.countP fun r => 0 < summaryBalance db r

/-- The balance of the page is that of the folios of the stays that count. -/
def PageAgrees (db : HotelDb) (page : GroupPage) : Prop :=
  page.balancePaise = ((page.reservations.filter counts).map (summaryBalance db)).sum

/-- What only folios know evens out: the money it adds and the money it takes off, and the stays it
makes debtors and those it clears. -/
structure BoardEven (propertyId : Id) (day : ℤ) (db : HotelDb) : Prop where
  paise : ((listed propertyId day db).map (hidden db)).sum =
    ((listed propertyId day db).map (phantom db)).sum
  folios : (listed propertyId day db).countP (fun r => due r ≤ 0 && 0 < due r + beyond db r) =
    (listed propertyId day db).countP fun r => 0 < due r && due r + beyond db r ≤ 0

/-- What folios add to the stays that count is what the columns of the others come to. -/
def PageEven (db : HotelDb) (stays : List Reservation) : Prop :=
  ((stays.filter counts).map (beyond db)).sum = ((stays.filter fun r => !counts r).map due).sum

theorem boardAgrees_iff (propertyId : Id) (day startOfDay : ℤ) (db : HotelDb) :
    BoardAgrees propertyId day startOfDay db ↔ BoardEven propertyId day db := by
  have hsplit : ∀ r ∈ listed propertyId day db, summaryBalance db r = due r + beyond db r :=
    fun r hr => summaryBalance_split (mem_listed hr).1 (mem_listed hr).2
  rcases today_pending propertyId day startOfDay db with ⟨hpaise, hfolios⟩
  have hsum : ((listed propertyId day db).map fun r => max 0 (summaryBalance db r)) =
      (listed propertyId day db).map fun r => max 0 (due r + beyond db r) :=
    List.map_congr_left fun r hr => by rw [hsplit r hr]
  have hcount : ((listed propertyId day db).countP fun r => 0 < summaryBalance db r) =
      (listed propertyId day db).countP fun r => 0 < due r + beyond db r :=
    List.countP_congr fun r hr => by rw [hsplit r hr]
  have hpositive := sum_positive db (listed propertyId day db)
  have hdebtors := countP_positive db (listed propertyId day db)
  constructor
  · rintro ⟨hp, hf⟩
    rw [shown_today, hpaise, hsum] at hp
    rw [shown_today, hfolios, hcount] at hf
    constructor <;> omega
  · rintro ⟨hp, hf⟩
    constructor
    · rw [shown_today, hpaise, hsum]
      omega
    · rw [shown_today, hfolios, hcount]
      omega

theorem pageAgrees_iff {groupId : Id} {db : GroupDb} {page : GroupPage}
    (h : get propertyId groupId db = some page) :
    PageAgrees db.hotel page ↔ PageEven db.hotel (staysOf propertyId groupId db.hotel) := by
  have hpage : page.reservations = staysOf propertyId groupId db.hotel ∧
      page.balancePaise = ((staysOf propertyId groupId db.hotel).map (·.totalPaise)).sum -
        ((staysOf propertyId groupId db.hotel).map (·.paidPaise)).sum := by
    unfold get at h
    cases hgroup : groupOf propertyId groupId db with
    | none =>
      rw [hgroup] at h
      cases h
    | some group =>
      rw [hgroup] at h
      obtain rfl := Option.some.inj h
      refine ⟨rfl, ?_⟩
      show List.foldl _ 0 _ - List.foldl _ 0 _ = _
      rw [foldl_add, foldl_add, zero_add, zero_add]
  have hsplit : ((staysOf propertyId groupId db.hotel).filter counts).map
        (summaryBalance db.hotel) =
      ((staysOf propertyId groupId db.hotel).filter counts).map fun r =>
        due r + beyond db.hotel r := by
    refine List.map_congr_left fun r hr => ?_
    have hmem := mem_staysOf (List.mem_filter.mp hr).1
    exact summaryBalance_split hmem.1 hmem.2
  have hdue := sum_due (staysOf propertyId groupId db.hotel)
  unfold PageAgrees PageEven
  rw [hpage.1, hpage.2, hsplit, List.sum_map_add]
  omega

/-- **The board shows what the folios say exactly when what only the folios know evens out over the
listed stays, and a group page exactly when it makes up for the stays that do not count.** -/
theorem screens_agree_iff (propertyId groupId : Id) (day startOfDay : ℤ) (db : GroupDb) :
    (BoardAgrees propertyId day startOfDay db.hotel ↔ BoardEven propertyId day db.hotel) ∧
      ∀ page ∈ get propertyId groupId db,
        (PageAgrees db.hotel page ↔ PageEven db.hotel (staysOf propertyId groupId db.hotel)) :=
  ⟨boardAgrees_iff propertyId day startOfDay db.hotel, fun _ h => pageAgrees_iff h⟩

/-- Money outstanding is the same on every screen. -/
def ScreensLaw : Prop :=
  ∀ (propertyId groupId : Id) (day startOfDay : ℤ) (db : GroupDb),
    BoardAgrees propertyId day startOfDay db.hotel ∧
      ∀ page ∈ get propertyId groupId db, PageAgrees db.hotel page

/-- A guest of two nights who has paid the room. -/
def paidRoom : Reservation :=
  { id := 1, propertyId := 1, roomTypeId := 1, roomId := none, reservationNumber := 1
    guest := { guestName := "Asha", guestPhone := "9800000000" }
    checkIn := 10, checkOut := 12, ordered := twoNights_ordered, status := .CHECKED_IN
    ratePaise := 300000, totalPaise := 600000, paidPaise := 600000 }

def paidRoomDb : HotelDb :=
  { reservations := ⟨[paidRoom], by decide⟩
    folioPayments :=
      [{ reservationId := 1, propertyId := 1, direction := .PAYMENT, method := .CASH
         amountPaise := 600000, reference := none, note := none, collectedBy := none
         idempotencyKey := none }] }

/-- The tax is still owed, and the board shows nothing. -/
theorem tax_not_shown : ¬ScreensLaw := by
  intro hlaw
  have hagrees := (hlaw 1 1 11 0 { hotel := paidRoomDb }).1.folios
  simp only [summaryBalance_eq] at hagrees
  revert hagrees
  decide +kernel

end Travelo.Outstanding
