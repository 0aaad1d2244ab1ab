import Mathlib.Data.List.Sort
import Travelo.Folio.Balance

/-!
# The cashier's list of folios

`FolioListService.list` picks its candidates by what is stored on a stay and then works out
the balance of each. The scope `open` is exact when no candidate is passed over that owes
more in extras and taxes than was paid beyond the room (`list_open_iff`).
-/

namespace Travelo

open ReadCommitted FolioService
open Folio (balance ancillary tax stay)

inductive FolioListScope where
  | «open»
  | inhouse
  | all
  deriving DecidableEq

structure FolioListQuery where
  scope : Option FolioListScope := none
  /-- A part of the guest's name, of the booking code or of the room's number. -/
  q : Option String := none
  limit : Option ℤ := none

structure FolioListItem where
  reservationId : Id
  code : String
  guestName : String
  roomNumber : Option String
  status : ReservationStatus
  checkIn : ℤ
  checkOut : ℤ
  totalPaise : ℤ
  paidPaise : ℤ
  balancePaise : ℤ
  updatedAt : ℤ

structure FolioList where
  items : List FolioListItem
  count : ℕ
  balancePaise : ℤ

namespace FolioListService

def DEFAULT_LIMIT : ℤ := 100

def MAX_LIMIT : ℤ := 500

/-- The statuses a folio can exist on. -/
def FOLIO_STATUSES : List ReservationStatus := [.CONFIRMED, .CHECKED_IN, .CHECKED_OUT]

/-- `LIKE`: `%` stands for any text, `_` for one character, and a backslash takes the next
character as it is. -/
def like : List Char → List Char → Bool
  | [], s => s.isEmpty
  | '%' :: p, s => s.tails.any (like p)
  | '_' :: _, [] => false
  | '_' :: p, _ :: s => like p s
  | '\\' :: c :: p, s => s.head? == some c && like p s.tail
  | c :: p, s => s.head? == some c && like p s.tail

/-- `text ILIKE '%q%'`. -/
def contains (q text : String) : Bool :=
  like ("%" ++ q ++ "%").toLower.toList text.toLower.toList

/-- The code printed on a booking. -/
def bookingCode (reservationNumber : ℕ) : String :=
  "RSV-" ++ String.ofList (List.leftpad 6 '0' (toString reservationNumber).toList)

/-- What the list asks of a stay before any balance is known. -/
def picks (r : Reservation) : FolioListScope → Bool
  | .inhouse => r.status = .CHECKED_IN
  | .«open» =>
    -- a running bill is open by definition, the others by the stored total
    r.status = .CHECKED_IN ||
      ([.CONFIRMED, .CHECKED_OUT].contains r.status && r.paidPaise < r.totalPaise)
  | .all => FOLIO_STATUSES.contains r.status

def roomNumberOf (db : HotelDb) (r : Reservation) : Option String :=
  (r.roomId.bind db.rooms.find?).map (·.number)

/-- The search of the list, when there is anything to search for. -/
def searched (q : Option String) (r : Reservation) (roomNumber : Option String) : Bool :=
  let q := trim (q.getD "")
  q.isEmpty || contains q r.guest.guestName || contains q (bookingCode r.reservationNumber) ||
    (roomNumber.map (contains q)).getD false

def rowLimit (query : FolioListQuery) : ℕ :=
  (min (max 1 (query.limit.getD DEFAULT_LIMIT)) MAX_LIMIT).toNat

/-- The candidates, the one touched last first. -/
def candidates (propertyId : Id) (query : FolioListQuery) (db : HotelDb) :
    List (Reservation × Option String) :=
  let rows := db.reservations.rows.filter fun r =>
    r.propertyId = propertyId && r.deletedAt.isNone &&
      picks r (query.scope.getD .«open») && searched query.q r (roomNumberOf db r)
  ((rows.insertionSort fun a b => b.updatedAt ≤ a.updatedAt).take (rowLimit query)).map fun r =>
    (r, roomNumberOf db r)

def itemOf (r : Reservation) (roomNumber : Option String) (s : FolioSummary) : FolioListItem where
  reservationId := r.id
  code := bookingCode r.reservationNumber
  guestName := r.guest.guestName
  roomNumber
  status := r.status
  checkIn := r.checkIn
  checkOut := r.checkOut
  totalPaise := s.chargesPaise
  paidPaise := s.netPaidPaise
  balancePaise := s.balancePaise
  updatedAt := r.updatedAt

/-- The figures of each candidate; the scope `open` drops those that are settled. -/
def items (scope : FolioListScope) : List (Reservation × Option String) → Op (List FolioListItem)
  | [] => return []
  | (r, roomNumber) :: rows => do
    let s ← summary r.id
    let rest ← items scope rows
    return if scope = .«open» && s.balancePaise ≤ 0 then rest else itemOf r roomNumber s :: rest

def list (propertyId : Id) (query : FolioListQuery) : Op FolioList := do
  let rows ← select (.stays propertyId) (candidates propertyId query)
  let items ← items (query.scope.getD .«open») rows
  return {
    items
    count := items.length
    balancePaise := (items.map (·.balancePaise)).sum }

/-! ## What the list is for -/

/-- A live stay of the house a folio can exist on. -/
def OnFolio (propertyId : Id) (r : Reservation) : Prop :=
  r.propertyId = propertyId ∧ r.deletedAt = none ∧ r.status ∈ FOLIO_STATUSES

instance (propertyId : Id) (r : Reservation) : Decidable (OnFolio propertyId r) :=
  inferInstanceAs (Decidable (_ ∧ _ ∧ _))

/-- Stay `g` of the house owes `b`, by its own summary. -/
def Owes (propertyId : Id) (db : HotelDb) (g : Id) (b : ℤ) : Prop :=
  (∃ r ∈ db.reservations, r.id = g ∧ OnFolio propertyId r) ∧
    ((summary g).run db).res.map (·.balancePaise) = .ok b ∧ 0 < b

/-- The answer is the stays that owe, each once and with what it owes. -/
def ListsOpen (propertyId : Id) (query : FolioListQuery) (db : HotelDb) : Prop :=
  ∃ answer, ((list propertyId query).run db).res = .ok answer ∧
    (answer.items.map (·.reservationId)).Nodup ∧
      ∀ g b, (∃ i ∈ answer.items, i.reservationId = g ∧ i.balancePaise = b) ↔
        Owes propertyId db g b

variable {propertyId : Id} {query : FolioListQuery} {db : HotelDb}

/-- The figures are read off one database: what is kept is the candidates that owe, or all of
them when the scope is another. -/
theorem eval_items (scope : FolioListScope) (db : HotelDb) :
    ∀ rows : List (Reservation × Option String), ∃ found : List FolioListItem,
      (items scope rows).eval .idle db = (.ok found, .idle, db) ∧
        found.map (fun i => (i.reservationId, i.balancePaise)) =
          (rows.filter fun c => scope ≠ .«open» || 0 < balance c.1.id db).map
            fun c => (c.1.id, balance c.1.id db) := by
  intro rows
  induction rows with
  | nil => exact ⟨[], rfl, rfl⟩
  | cons c rows ih =>
    have hrest := ih
    rcases hrest with ⟨rest, hrest, hmap⟩
    have hsum := eval_summary db c.1.id
    rcases hsum with ⟨s, hs, -, -, -, hbal⟩
    simp only [items, eval_simps, hs, hrest]
    refine ⟨_, rfl, ?_⟩
    by_cases hdrop : scope = .«open» ∧ balance c.1.id db ≤ 0
    · have hnot : ¬0 < balance c.1.id db := by omega
      simp [hbal, hdrop, hnot, hmap]
    · have hkeep : scope = .«open» → 0 < balance c.1.id db := by
        intro hscope
        by_contra hle
        exact hdrop ⟨hscope, by omega⟩
      by_cases hscope : scope = .«open»
      · have hpos := hkeep hscope
        have hnot : ¬balance c.1.id db ≤ 0 := by omega
        simp [hbal, hscope, hpos, hnot, hmap, itemOf]
      · simp [hbal, hscope, hmap, itemOf]

theorem summary_balance (db : HotelDb) (g : Id) :
    ((summary g).run db).res.map (·.balancePaise) = .ok (balance g db) := by
  have hsum := eval_summary db g
  rcases hsum with ⟨s, hs, -, -, -, hbal⟩
  rw [Prog.run_res, hs, ← hbal]
  rfl

theorem owes_iff {g : Id} {b : ℤ} : Owes propertyId db g b ↔
    (∃ r ∈ db.reservations, r.id = g ∧ OnFolio propertyId r) ∧
      b = balance g db ∧ 0 < b := by
  unfold Owes
  rw [summary_balance]
  constructor
  · rintro ⟨hstay, hb, hpos⟩
    exact ⟨hstay, (Except.ok.inj hb).symm, hpos⟩
  · rintro ⟨hstay, hb, hpos⟩
    exact ⟨hstay, by rw [hb], hpos⟩

/-- The stays of the house the list can hold. -/
def folioStays (propertyId : Id) (db : HotelDb) : List Reservation :=
  db.reservations.rows.filter fun r => OnFolio propertyId r

theorem onFolio_of_picks {r : Reservation} (hhouse : r.propertyId = propertyId)
    (hlive : r.deletedAt = none) (hpick : picks r .«open» = true) : OnFolio propertyId r := by
  refine ⟨hhouse, hlive, ?_⟩
  simp only [picks, Bool.or_eq_true, and_decide_eq] at hpick
  rcases hpick with hin | ⟨hstatus, -⟩
  · simp [hin, FOLIO_STATUSES]
  · have hmem := List.mem_of_elem_eq_true hstatus
    simp only [List.mem_cons, List.not_mem_nil, or_false] at hmem
    rcases hmem with hs | hs <;> simp [hs, FOLIO_STATUSES]

theorem candidates_perm (hlimit : (folioStays propertyId db).length < rowLimit query)
    (hscope : query.scope.getD .«open» = .«open») (hq : trim (query.q.getD "") = "") :
    (candidates propertyId query db).Perm
      ((db.reservations.rows.filter fun r => OnFolio propertyId r && picks r .«open»).map
        fun r => (r, roomNumberOf db r)) := by
  have hsame : (db.reservations.rows.filter fun r =>
      r.propertyId = propertyId && r.deletedAt.isNone &&
        picks r (query.scope.getD .«open») && searched query.q r (roomNumberOf db r)) =
      db.reservations.rows.filter fun r => OnFolio propertyId r && picks r .«open» := by
    apply List.filter_congr
    intro r _
    have hsearched : searched query.q r (roomNumberOf db r) = true := by
      simp [searched, hq]
    rw [hscope, hsearched, Bool.and_true, Bool.eq_iff_iff]
    simp only [and_decide_eq, Option.isNone_iff_eq_none]
    constructor
    · rintro ⟨⟨hhouse, hlive⟩, hpick⟩
      exact ⟨onFolio_of_picks hhouse hlive hpick, hpick⟩
    · rintro ⟨⟨hhouse, hlive, -⟩, hpick⟩
      exact ⟨⟨hhouse, hlive⟩, hpick⟩
  have hshort : (db.reservations.rows.filter fun r =>
      OnFolio propertyId r && picks r .«open»).length ≤ rowLimit query := by
    have hsub : (db.reservations.rows.filter fun r =>
        OnFolio propertyId r && picks r .«open»).Sublist (folioStays propertyId db) := by
      have htwice : (db.reservations.rows.filter fun r =>
          OnFolio propertyId r && picks r .«open») =
          (folioStays propertyId db).filter fun r => picks r .«open» := by
        rw [folioStays, List.filter_filter]
        simp only [Bool.and_comm]
      rw [htwice]
      exact List.filter_sublist
    have hle := hsub.length_le
    omega
  unfold candidates
  simp only [hsame]
  rw [List.take_of_length_le (by rw [List.length_insertionSort]; exact hshort)]
  exact (List.perm_insertionSort _ _).map _

theorem list_answers (hlimit : (folioStays propertyId db).length < rowLimit query)
    (hscope : query.scope.getD .«open» = .«open») (hq : trim (query.q.getD "") = "") :
    ∃ answer, ((list propertyId query).run db).res = .ok answer ∧
      (answer.items.map (·.reservationId)).Nodup ∧
        ∀ g b, (∃ i ∈ answer.items, i.reservationId = g ∧ i.balancePaise = b) ↔
          (∃ r ∈ db.reservations, r.id = g ∧ OnFolio propertyId r ∧ picks r .«open» = true) ∧
            b = balance g db ∧ 0 < b := by
  have hitems := eval_items (query.scope.getD .«open») db (candidates propertyId query db)
  rcases hitems with ⟨found, heval, hmap⟩
  have hperm := candidates_perm hlimit hscope hq
  rw [hscope] at hmap
  refine ⟨{ items := found, count := found.length,
            balancePaise := (found.map (·.balancePaise)).sum }, ?_, ?_, ?_⟩
  · rw [Prog.run_res]
    simp only [list, eval_simps, heval]
  · -- an id is on the list as often as it is in the table
    have hids : found.map (·.reservationId) =
        (found.map fun i => (i.reservationId, i.balancePaise)).map Prod.fst := by
      rw [List.map_map]
      rfl
    show (found.map (·.reservationId)).Nodup
    rw [hids, hmap, List.map_map]
    have hsub := (List.filter_sublist (p := fun c : Reservation × Option String =>
      FolioListScope.«open» ≠ .«open» || decide (0 < balance c.1.id db))
      (l := candidates propertyId query db)).map (fun c => c.1.id)
    refine hsub.nodup ?_
    rw [(hperm.map fun c => c.1.id).nodup_iff, List.map_map]
    exact (List.filter_sublist.map _).nodup db.reservations.nodup
  · intro g b
    have hmem : (∃ i ∈ found, i.reservationId = g ∧ i.balancePaise = b) ↔
        (g, b) ∈ found.map fun i => (i.reservationId, i.balancePaise) := by
      simp [List.mem_map]
    show (∃ i ∈ found, i.reservationId = g ∧ i.balancePaise = b) ↔ _
    rw [hmem, hmap]
    simp only [List.mem_map, List.mem_filter, hperm.mem_iff, Prod.mk.injEq]
    constructor
    · rintro ⟨c, ⟨⟨r, ⟨hr, hpick⟩, rfl⟩, hpos⟩, rfl, rfl⟩
      simp only [and_decide_eq] at hpick
      refine ⟨⟨r, hr, rfl, hpick⟩, rfl, by simpa using hpos⟩
    · rintro ⟨⟨r, hr, rfl, hon, hpick⟩, rfl, hpos⟩
      refine ⟨(r, roomNumberOf db r), ⟨⟨r, ⟨hr, ?_⟩, rfl⟩, ?_⟩, rfl, rfl⟩
      · simp [hon, hpick]
      · simpa using hpos

/-! ## When the list is exact -/

/-- Stay `r` is passed over by the stored columns alone. -/
def PassedOver (propertyId : Id) (r : Reservation) : Prop :=
  OnFolio propertyId r ∧ r.status ≠ .CHECKED_IN ∧ r.totalPaise ≤ r.paidPaise

theorem picks_iff {r : Reservation} (hon : OnFolio propertyId r) :
    picks r .«open» = true ↔ ¬PassedOver propertyId r := by
  have hstatus := hon.2.2
  simp only [FOLIO_STATUSES, List.mem_cons, List.not_mem_nil, or_false] at hstatus
  rcases hstatus with hs | hs | hs <;> simp [picks, PassedOver, hon, hs]

/-- The balance of a stay is its own total with the extras and the tax, less what was paid. -/
theorem balance_of_mem {r : Reservation} (hr : r ∈ db.reservations) (hlive : r.deletedAt = none) :
    balance r.id db = r.totalPaise + ancillary r.id db + tax r.id db -
      netPaid r.id db := by
  have hstay : stay r.id db = some r := by
    rw [stay, find?_key hr]
    simp [hlive]
  rw [balance, Folio.roomCharge, hstay]
  rfl

/-- The scope `open` is exact if and only if every stay the stored columns pass over has
extras and taxes within what was paid beyond its room. -/
theorem list_open_iff (propertyId : Id) (query : FolioListQuery) (db : HotelDb)
    (hscope : query.scope.getD .«open» = .«open») (hq : trim (query.q.getD "") = "")
    (hlimit : (folioStays propertyId db).length < rowLimit query) :
    ListsOpen propertyId query db ↔ ∀ r ∈ db.reservations, PassedOver propertyId r →
      ancillary r.id db + tax r.id db ≤ netPaid r.id db - r.totalPaise := by
  have hanswer := list_answers hlimit hscope hq
  rcases hanswer with ⟨answer, hres, hnodup, hshown⟩
  constructor
  · rintro ⟨answer', hres', -, hexact⟩ r hr hpast
    have hsame : answer' = answer := by
      rw [hres] at hres'
      exact (Except.ok.inj hres').symm
    subst hsame
    by_contra hmore
    have hbal := balance_of_mem hr hpast.1.2.1
    -- it owes money, so an exact list would show it
    have howes : Owes propertyId db r.id (balance r.id db) :=
      owes_iff.mpr ⟨⟨r, hr, rfl, hpast.1⟩, rfl, by omega⟩
    have hshows := (hshown _ _).mp ((hexact _ _).mpr howes)
    rcases hshows with ⟨⟨r', hr', hid, hon, hpick⟩, -⟩
    have heq := eq_of_key_eq hr' hr hid
    subst heq
    exact (picks_iff hon).mp hpick hpast
  · intro hwithin
    refine ⟨answer, hres, hnodup, fun g b => ?_⟩
    rw [hshown, owes_iff]
    constructor
    · rintro ⟨⟨r, hr, hid, hon, -⟩, hb⟩
      exact ⟨⟨r, hr, hid, hon⟩, hb⟩
    · rintro ⟨⟨r, hr, rfl, hon⟩, rfl, hpos⟩
      refine ⟨⟨r, hr, rfl, hon, (picks_iff hon).mpr fun hpast => ?_⟩, rfl, hpos⟩
      have hle := hwithin r hr hpast
      have hbal := balance_of_mem hr hon.2.1
      omega

/-! ## Two books -/

/-- A booking at ₹1000 that is paid to the rupee of its room, in the status given. -/
def paidRoom (status : ReservationStatus) : HotelDb :=
  { reservations := (∅ : Table Reservation.id).insert
      { id := 1, propertyId := 1, roomTypeId := 7, roomId := none, reservationNumber := 1
        guest := { guestName := "Asha", guestPhone := "100" }
        checkIn := 10, checkOut := 11, ordered := oneNight_ordered, status := status
        ratePaise := 100000, totalPaise := 100000, paidPaise := 100000 }
    folioPayments := [
      { reservationId := 1, propertyId := 1, direction := .PAYMENT, method := .CARD
        amountPaise := 100000, reference := none, note := none, collectedBy := none
        idempotencyKey := none }] }

/-- The GST of ₹120 on a booking paid to the rupee of its room is on nobody's list. -/
theorem tax_not_listed : ¬ListsOpen 1 {} (paidRoom .CHECKED_OUT) := by
  rintro ⟨answer, hres, -, hexact⟩
  have hempty : ((list 1 {}).run (paidRoom .CHECKED_OUT)).res.map (·.items.length) = .ok 0 := by
    decide +kernel
  have howes : Owes 1 (paidRoom .CHECKED_OUT) 1 12000 :=
    ⟨⟨_, List.mem_singleton.mpr rfl, rfl, by decide⟩, by decide +kernel, by decide⟩
  have hshown := (hexact 1 12000).mpr howes
  rcases hshown with ⟨i, hi, -⟩
  rw [hres] at hempty
  have hlen : answer.items.length = 0 := Except.ok.inj hempty
  rw [List.length_eq_zero_iff.mp hlen] at hi
  cases hi

/-- While the guest is in house the same tax is listed. -/
theorem tax_listed_in_house : ListsOpen 1 {} (paidRoom .CHECKED_IN) :=
  (list_open_iff 1 {} (paidRoom .CHECKED_IN) rfl (by decide) (by decide)).mpr
    fun r hr hpast => by
      have honly := List.mem_singleton.mp hr
      rw [honly] at hpast
      exact absurd rfl hpast.2.1

end FolioListService

end Travelo
