import Mathlib.Data.List.Dedup
import Mathlib.Data.List.Sort
import Travelo.Cash
import Travelo.Claims.Binary64
import Travelo.Claims.Civil
import Travelo.Claims.Narrowing
import Travelo.DirectBilling

/-!
# Totals as the database casts them

Amounts are `integer` columns, their sum is a `bigint`, and `::int` puts it back into 32 bits or
fails. `CashService.balancePaise` and `closeShift` are here with that cast, which `Travelo.Cash`
leaves out; the screens of direct billing, the desk and the owner's portfolio follow. What is added
up in JavaScript is not cast.
-/

namespace Travelo.Totals

open ReadCommitted Claims

inductive TotalsErr where
  | integerOutOfRange
  | noOpenShift
  | corporateAccountNotFound
  deriving DecidableEq

/-- `n::int`, and what an `integer` column takes. -/
def toInt (n : ℤ) : Except TotalsErr ℤ := narrow 32 .integerOutOfRange n

/-- `coalesce(sum(x), 0)::int`. -/
def sumInt (xs : List ℤ) : Except TotalsErr ℤ := toInt xs.sum

/-- `coalesce(sum(case when … then amount else -amount end), 0)::int`: the negation is that of an
`integer`. -/
def signedSumInt {α : Type} (adds : α → Bool) (amount : α → ℤ) (rows : List α) :
    Except TotalsErr ℤ := do
  let xs ← rows.mapM fun e => if adds e then .ok (amount e) else toInt (-amount e)
  sumInt xs

/-! ## Cash -/

/-- The kinds of the `CASE`. -/
def addsCash (e : CashEntry) : Bool := [.FOLIO_CASH, .POS_CASH, .CASH_IN, .TOP_UP].contains e.kind

variable (propertyId : Id) (db : HotelDb)

def drawer : List CashEntry :=
  db.cashEntries.filter fun e => e.propertyId = propertyId

def balancePaise : Except TotalsErr ℤ :=
  signedSumInt addsCash (·.amountPaise) (drawer propertyId db)

def shiftEntries (shiftId : Id) (db : HotelDb) : List CashEntry :=
  db.cashEntries.filter fun e => e.shiftId = some shiftId

/-- The row that `closeShift` writes and the difference it reports. -/
def closeShift (staffId : Id) (declaredCashPaise : ℤ) (note : Option String) (now : ℤ)
    (db : HotelDb) : Except TotalsErr (StaffShift × ℤ) :=
  match CashService.openShiftOf propertyId staffId db with
  | none => .error .noOpenShift
  | some shift => do
    let sum ← signedSumInt addsCash (·.amountPaise) (shiftEntries shift.id db)
    let declared ← toInt declaredCashPaise
    let expected ← toInt (shift.openingCashPaise + sum)
    return (CashService.closed declared expected (note.or shift.note) now shift,
      declaredCashPaise - expected)

/-! ## Direct billing -/

def isCharge (e : CorporateLedgerEntry) : Bool := e.kind = .CHARGE

def liveAccounts : List CorporateAccount :=
  db.corporateAccounts.rows.filter fun a => a.propertyId = propertyId && a.deletedAt.isNone

def ledgerOf : List CorporateLedgerEntry :=
  db.corporateLedger.filter fun e => e.propertyId = propertyId

/-- The groups of `GROUP BY account_id`. -/
def billedAccounts : List Id :=
  ((ledgerOf propertyId db).map (·.accountId)).dedup

/-- The entries of one group. -/
def billedTo (accountId : Id) (db : HotelDb) : List CorporateLedgerEntry :=
  (ledgerOf propertyId db).filter fun e => e.accountId = accountId

def listWithBalances :
    Except TotalsErr (List (CorporateAccount × ℤ)) := do
  let accounts := liveAccounts propertyId db
  let sums ← (billedAccounts propertyId db).mapM fun accountId => do
    let balance ← signedSumInt isCharge (·.amountPaise) (billedTo propertyId accountId db)
    return (accountId, balance)
  return accounts.map fun a => (a, (sums.lookup a.id).getD 0)

/-- Every entry with the balance after it. -/
def runningLines : ℤ → List CorporateLedgerEntry → List (CorporateLedgerEntry × ℤ)
  | _, [] => []
  | running, e :: rest =>
    let running := running + (if isCharge e then e.amountPaise else -e.amountPaise)
    (e, running) :: runningLines running rest

structure CorporateStatement where
  account : CorporateAccount
  balancePaise : ℤ
  entries : List (CorporateLedgerEntry × ℤ)
  stays : List Reservation

/-- The ledger is in the order of its entries. -/
def statement (accountId : Id) (db : HotelDb) : Except TotalsErr CorporateStatement :=
  match DirectBillingService.accountOf propertyId accountId db with
  | none => .error .corporateAccountNotFound
  | some account =>
    let lines := runningLines 0 (db.corporateLedger.filter fun e => e.accountId = accountId)
    let stays := db.reservations.rows.filter fun r =>
      r.guest.corporateAccountId = some accountId && r.deletedAt.isNone
    .ok
      { account
        balancePaise := (lines.getLast?.map (·.2)).getD 0
        entries := lines
        stays := stays.insertionSort fun a b => b.checkIn ≤ a.checkIn }

/-! ## Rates of a period -/

/-- `Math.round(n / d)` in percent or not, for a positive `d`; halves go up. -/
def roundedQuotient (n : ℤ) (d scale : ℕ) : ℤ :=
  let q := (Binary64.ratio n.natAbs d).scale scale
  if 0 ≤ n then q.round
  else -((2 * q.mantissa + 2 ^ q.shift - 1) / (2 * 2 ^ q.shift) : ℕ)

structure Performance where
  revenuePaise : ℤ
  occupancyPct : ℤ
  adrPaise : ℤ
  revparPaise : ℤ

def performance (revenue sold available : ℤ) : Performance where
  revenuePaise := revenue
  occupancyPct := if 0 < available then roundedQuotient sold available.toNat 100 else 0
  adrPaise := if 0 < sold then roundedQuotient revenue sold.toNat 1 else 0
  revparPaise := if 0 < available then roundedQuotient revenue available.toNat 1 else 0

/-- The three sums of some snapshots. -/
structure SnapshotSums where
  revenue : ℤ
  sold : ℤ
  available : ℤ

/-- Without a limit. -/
def SnapshotSums.of (rows : List PropertyDailySnapshot) : SnapshotSums where
  revenue := (rows.map (·.revenuePaise)).sum
  sold := (rows.map fun d => (d.roomsSold : ℤ)).sum
  available := (rows.map fun d => (d.roomsAvailable : ℤ)).sum

/-- As the query casts them. -/
def snapshotSums (rows : List PropertyDailySnapshot) : Except TotalsErr SnapshotSums := do
  let revenue ← sumInt (rows.map (·.revenuePaise))
  let sold ← sumInt (rows.map fun d => (d.roomsSold : ℤ))
  let available ← sumInt (rows.map fun d => (d.roomsAvailable : ℤ))
  return { revenue, sold, available }

/-! ## Month to date -/

structure MonthToDate where
  since : ℤ
  till : ℤ
  closedDays : ℤ
  roomNightsSold : ℤ
  roomNightsAvailable : ℤ
  figures : Performance

variable (day : ℤ)

/-- The closed days of the month up to this one. -/
def closedDays (db : HotelDb) : List PropertyDailySnapshot :=
  db.propertyDailySnapshots.rows.filter fun d =>
    d.propertyId = propertyId && firstOfMonth (monthOf day) ≤ d.businessDate &&
      d.businessDate ≤ day

def MonthToDate.of (sums : SnapshotSums) (days : ℤ) : MonthToDate where
  since := firstOfMonth (monthOf day)
  till := day
  closedDays := days
  roomNightsSold := sums.sold
  roomNightsAvailable := sums.available
  figures := performance sums.revenue sums.sold sums.available

def monthToDate (db : HotelDb) : Except TotalsErr MonthToDate := do
  let rows := closedDays propertyId day db
  let sums ← snapshotSums rows
  let days ← toInt rows.length
  return .of day sums days

/-! ## The owner's portfolio -/

structure OwnerProperty where
  id : Id
  ownerId : Id
  name : String
  city : Option String := none
  deletedAt : Option ℤ := none

structure PortfolioDb where
  hotel : HotelDb := {}
  owned : Table OwnerProperty.id := ∅

def ownedBy (ownerId : Id) (db : PortfolioDb) : List OwnerProperty :=
  db.owned.rows.filter fun p => p.ownerId = ownerId && p.deletedAt.isNone

/-- The first day of the oldest month shown. -/
def sinceDay (today months : ℤ) : ℤ := firstOfMonth (monthOf today - (months - 1))

/-- The snapshots the portfolio is of. -/
def shownDays (ids : List Id) (since : ℤ) (db : PortfolioDb) : List PropertyDailySnapshot :=
  db.hotel.propertyDailySnapshots.rows.filter fun d =>
    ids.contains d.propertyId && since ≤ d.businessDate

/-- `GROUP BY property_id, to_char(business_date, 'YYYY-MM')`. -/
def monthGroups (days : List PropertyDailySnapshot) : List (Id × ℤ) :=
  (days.map fun d => (d.propertyId, monthOf d.businessDate)).dedup

def monthGroup (days : List PropertyDailySnapshot) (g : Id × ℤ) : List PropertyDailySnapshot :=
  days.filter fun d => (d.propertyId, monthOf d.businessDate) = g

/-- The stays the source mix is of. -/
def mixedStays (ids : List Id) (since : ℤ) (db : PortfolioDb) : List Reservation :=
  db.hotel.reservations.rows.filter fun r =>
    ids.contains r.propertyId && since ≤ r.checkIn &&
      [.CONFIRMED, .CHECKED_IN, .CHECKED_OUT].contains r.status && r.deletedAt.isNone

def sourceGroups (stays : List Reservation) : List ReservationSource :=
  (stays.map (·.guest.source)).dedup

def sourceGroup (stays : List Reservation) (source : ReservationSource) : List Reservation :=
  stays.filter fun r => r.guest.source = source

structure SourceShare where
  source : ReservationSource
  roomsSold : ℤ
  revenuePaise : ℤ

structure PropertyPerformance where
  property : OwnerProperty
  months : List (ℤ × Performance)
  totals : Performance

structure PortfolioPerformance where
  months : ℤ
  /-- Absent when there is no property. -/
  since : Option ℤ
  properties : List PropertyPerformance
  top : Option (Id × String)
  low : Option (Id × String)
  sources : List SourceShare

/-- The months of a property and what they add up to. -/
def propertyPerformance (rows : List ((Id × ℤ) × SnapshotSums)) (p : OwnerProperty) :
    PropertyPerformance :=
  let mine := (rows.filter fun r => r.1.1 = p.id).insertionSort fun a b => a.1.2 ≤ b.1.2
  { property := p
    months := mine.map fun r => (r.1.2, performance r.2.revenue r.2.sold r.2.available)
    totals := performance (mine.map (·.2.revenue)).sum (mine.map (·.2.sold)).sum
      (mine.map (·.2.available)).sum }

/-- The page, from the rows of its queries. -/
def PortfolioPerformance.of (months since : ℤ) (props : List OwnerProperty)
    (rows : List ((Id × ℤ) × SnapshotSums)) (sources : List SourceShare) : PortfolioPerformance :=
  let byProp := props.map (propertyPerformance rows)
  let ranked := byProp.insertionSort fun a b => b.totals.revparPaise ≤ a.totals.revparPaise
  { months
    since := some since
    properties := byProp
    top := ranked.head?.map fun p => (p.property.id, p.property.name)
    low := if 1 < ranked.length then ranked.getLast?.map fun p => (p.property.id, p.property.name)
      else none
    sources }

def portfolioPerformance (ownerId : Id) (months today : ℤ) (db : PortfolioDb) :
    Except TotalsErr PortfolioPerformance :=
  let props := ownedBy ownerId db
  if props.isEmpty then
    .ok { months, since := none, properties := [], top := none, low := none, sources := [] }
  else do
    let ids := props.map (·.id)
    let since := sinceDay today months
    let days := shownDays ids since db
    let rows ← (monthGroups days).mapM fun g => do
      let sums ← snapshotSums (monthGroup days g)
      return (g, sums)
    let stays := mixedStays ids since db
    let sources ← (sourceGroups stays).mapM fun source => do
      let rooms ← toInt (sourceGroup stays source).length
      let revenue ← sumInt ((sourceGroup stays source).map (·.totalPaise))
      return { source, roomsSold := rooms, revenuePaise := revenue }
    return .of months since props rows sources

end Travelo.Totals
