import Travelo.Billing.Gst
import Travelo.Reservations.Rules

/-!
# The folio of a stay

`FolioService`: recording a payment, and the balance the check-out gate reads.
-/

namespace Travelo

open ReadCommitted

structure RecordPaymentInput where
  reservationId : Id
  propertyId : Id
  method : FolioPaymentMethod
  amountPaise : ℤ
  direction : Option FolioPaymentDirection := none
  reference : Option String := none
  note : Option String := none
  collectedBy : Option Id := none
  /-- A repeat with the same key for the same reservation returns the first row. -/
  idempotencyKey : Option String := none

structure FolioSummary where
  reservationId : Id
  roomChargePaise : ℤ
  roomTaxPaise : ℤ
  roomTaxRatePercent : ℕ
  ancillaryPaise : ℤ
  lineTaxPaise : ℤ
  propertyTaxPaise : ℤ
  taxPaise : ℤ
  subtotalPaise : ℤ
  chargesPaise : ℤ
  intraState : Bool
  paymentsPaise : ℤ
  refundsPaise : ℤ
  netPaidPaise : ℤ
  balancePaise : ℤ
  lineItems : List FolioLineItem
  payments : List FolioPayment

namespace FolioService

variable (reservationId : Id)

/-- The payment a key was used for. -/
def findPaymentByKey (idempotencyKey : String) (db : HotelDb) :
    Option FolioPayment :=
  db.folioPayments.find? fun p =>
    p.reservationId = reservationId && p.idempotencyKey = some idempotencyKey

def netPaid (db : HotelDb) : ℤ :=
  ((db.folioPayments.filter fun p => p.reservationId = reservationId).map fun p =>
    match p.direction with
    | .REFUND => -p.amountPaise
    | .PAYMENT => p.amountPaise).sum

variable (input : RecordPaymentInput)

/-- The row a key already has, if the input carries a key. -/
def paymentOf (db : HotelDb) : Option FolioPayment :=
  match input.idempotencyKey with
  | some k => if k = "" then none else findPaymentByKey input.reservationId k db
  | none => none

/-- `INSERT … ON CONFLICT DO NOTHING`: the unique index is on the key, when there is one. -/
def insertPayment (db : HotelDb) : HotelDb × Option FolioPayment :=
  let row : FolioPayment :=
    { reservationId := input.reservationId
      propertyId := input.propertyId
      direction := input.direction.getD .PAYMENT
      method := input.method
      amountPaise := input.amountPaise
      reference := input.reference
      note := input.note
      collectedBy := input.collectedBy
      idempotencyKey := input.idempotencyKey }
  match input.idempotencyKey.bind fun k => findPaymentByKey input.reservationId k db with
  | some _ => (db, none)
  | none => ({ db with folioPayments := db.folioPayments ++ [row] }, some row)

/-- Set the cached `paid_paise` of a reservation. -/
def setPaid (netPaidPaise now : ℤ) (db : HotelDb) : HotelDb :=
  { db with
    reservations := db.reservations.update (fun r => r.id = reservationId)
      fun r => { r with paidPaise := netPaidPaise, updatedAt := now } }

/-- The row inserted, or after a lost race the row the winner wrote. -/
def winnerOf : Option FolioPayment → Op (Option FolioPayment)
  | some p => return some p
  | none => select (.folio input.reservationId) (paymentOf input)

/-- Record a payment and refresh the cached `paid_paise`; each statement on its own. -/
def recordPayment (now : ℤ) : Op (FolioPayment × ℤ) := do
  let look := Look.folio input.reservationId
  let existing ← select look (paymentOf input)
  match existing with
  | some payment =>
    let net ← select look (netPaid input.reservationId)
    return (payment, net)
  | none =>
    let inserted ← write
      (fun _ => (input.idempotencyKey.map fun k => RowKey.folioPayment input.reservationId k).toList)
      (fun db => (insertPayment input db).1) (fun db => (insertPayment input db).2)
    let winner ← winnerOf input inserted
    let payment ← orThrow winner (.internal "Folio payment could not be recorded")
    let net ← select look (netPaid input.reservationId)
    write (fun _ => [.reservation input.reservationId]) (setPaid input.reservationId net now)
      fun _ => ()
    return (payment, net)

def propertyTaxAmount (t : PropertyTax) (basePaise : ℤ) (nights guests : ℕ) : ℤ :=
  match t.calculation with
  | .PERCENT => roundDiv (basePaise * t.value) 10000
  | .FIXED =>
    match t.basis with
    | .PER_NIGHT => t.value * nights
    | .PER_GUEST => t.value * guests
    | .PER_STAY => t.value

/-- Intra- or inter-state supply: two state codes are compared when both are known. -/
def intraStateFor (propertyId : Id) (companyGstin : Option String) (look : Look) : Op Bool :=
  if (companyGstin.getD "").isEmpty then return true
  else do
    let settings ← select look fun db => db.propertySettings.find? propertyId
    let code := (settings.bind (·.gstStateCode)).getD ""
    return (code.isEmpty || (companyGstin.getD "").toList.take 2 == code.toList)

/-- GST on the room and the property's own taxes on it. -/
def roomTax (res : Reservation) (look : Look) : Op (GstBreakdown × ℤ × Bool) := do
  let intraState ← intraStateFor res.propertyId res.guest.companyGstin look
  let gst :=
    if 0 < res.totalPaise then
      computeGstForCategory .accommodation res.totalPaise (some res.ratePaise) intraState
    else computeGst 0 0 intraState ""
  let taxes ← select look fun db =>
    db.propertyTaxes.filter fun t =>
      t.propertyId = res.propertyId && t.isActive && t.deletedAt.isNone
  let nights := max 1 (nightsBetween res.checkIn res.checkOut)
  let guests := max 1 (res.guest.adults + res.guest.children)
  let propertyTaxPaise := ((taxes.filter fun t => t.appliesTo = .ROOM || t.appliesTo = .ALL).map
    fun t => propertyTaxAmount t res.totalPaise nights guests).sum
  return (gst, propertyTaxPaise, intraState)

def roomTaxOf : Option Reservation → Look → Op (GstBreakdown × ℤ × Bool)
  | some r, look => roomTax r look
  | none, _ => return (computeGst 0 0 true "", 0, true)

/-- The full folio of one stay. -/
def summary : Op FolioSummary := do
  let look := Look.folio reservationId
  let res ← select look fun db =>
    (db.reservations.find? reservationId).filter fun r => r.deletedAt.isNone
  let allLines ← select look fun db =>
    db.folioLineItems.rows.filter fun l => l.reservationId = reservationId
  let lineItems := allLines.filter fun l => l.voidedAt.isNone
  let payments ← select look fun db =>
    db.folioPayments.filter fun p => p.reservationId = reservationId
  let (gst, propertyTaxPaise, intraState) ← roomTaxOf res look
  let roomChargePaise := (res.map (·.totalPaise)).getD 0
  let ancillaryPaise := (lineItems.map (·.amountPaise)).sum
  let lineTaxPaise := (lineItems.map (·.taxPaise)).sum
  let paymentsPaise := ((payments.filter fun p => p.direction = .PAYMENT).map (·.amountPaise)).sum
  let refundsPaise := ((payments.filter fun p => p.direction = .REFUND).map (·.amountPaise)).sum
  let subtotalPaise := roomChargePaise + ancillaryPaise
  let taxPaise := gst.taxPaise + propertyTaxPaise + lineTaxPaise
  let chargesPaise := subtotalPaise + taxPaise
  let netPaidPaise := paymentsPaise - refundsPaise
  return {
    reservationId
    roomChargePaise
    roomTaxPaise := gst.taxPaise
    roomTaxRatePercent := gst.ratePercent
    ancillaryPaise
    lineTaxPaise
    propertyTaxPaise
    taxPaise
    subtotalPaise
    chargesPaise
    intraState
    paymentsPaise
    refundsPaise
    netPaidPaise
    balancePaise := chargesPaise - netPaidPaise
    lineItems
    payments }

/-- The outstanding balance, tax included; positive means the guest still owes. -/
def balancePaise (reservationId : Id) : Op ℤ := do
  let s ← summary reservationId
  return s.balancePaise

end FolioService

end Travelo
