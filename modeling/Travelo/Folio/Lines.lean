import Travelo.ReadCommitted.Fragments
import Travelo.Folio

/-!
# The lines of a folio

`FolioService`: posting a charge, a discount, voiding a line and its tax exemption. The
uuid of a new line comes from outside.
-/

namespace Travelo

open ReadCommitted

structure PostChargeInput where
  reservationId : Id
  propertyId : Id
  kind : FolioLineKind
  description : String
  amountPaise : ℤ
  /-- With `sourceId`, the idempotency key: the same source posts at most once. -/
  sourceType : Option String := none
  sourceId : Option Id := none
  postedBy : Option Id := none
  quantity : Option ℤ := none
  /-- Statutory treatment, by default that of the kind. -/
  taxCategory : Option GstCategory := none
  taxExempt : Bool := false
  hsnCode : Option String := none

/-- `sourceType && sourceId`. -/
def PostChargeInput.source (input : PostChargeInput) : Option (String × Id) :=
  match input.sourceType, input.sourceId with
  | some t, some i => if t = "" then none else some (t, i)
  | _, _ => none

structure ApplyDiscountInput where
  reservationId : Id
  propertyId : Id
  amountPaise : ℤ
  reason : String
  actorStaffId : Option Id

structure VoidLineInput where
  reservationId : Id
  propertyId : Id
  lineId : Id
  reason : String
  actorStaffId : Option Id

structure LineTaxExemptInput where
  reservationId : Id
  propertyId : Id
  lineId : Id
  exempt : Bool
  reason : String
  actorStaffId : Option Id

namespace FolioService

def categoryFor : FolioLineKind → GstCategory
  | .RESTAURANT => .restaurant
  | _ => .other

def findLineBySource (sourceType : String) (sourceId : Id) (db : HotelDb) : Option FolioLineItem :=
  db.folioLineItems.rows.find? fun l => l.sourceType = some sourceType && l.sourceId = some sourceId

/-- The line a source already has, if the input names a source. -/
def lineOfSource (look : Look) : Option (String × Id) → Op (Option FolioLineItem)
  | some (t, i) => select look (findLineBySource t i)
  | none => return none

/-- `intraStateFor` the id of a reservation. -/
def intraStateForId (reservationId : Id) : Op Bool := do
  let look := Look.folio reservationId
  let row ← select look fun db => db.reservations.find? reservationId
  match row with
  | some r => intraStateFor r.propertyId r.guest.companyGstin look
  | none => return true

/-- The tax of a line, its rate in percent and its SAC code. -/
def lineTax (category : GstCategory) (amountPaise : ℤ) (intraState exempt : Bool) :
    ℤ × ℕ × Option String :=
  if exempt then (0, 0, none)
  else
    let gst := computeGstForCategory category amountPaise none intraState
    (gst.taxPaise, gst.ratePercent, some gst.hsnCode)

/-- The row `postCharge` inserts. Its tax is decided now and stored. -/
def newLine (input : PostChargeInput) (id : Id) (intraState : Bool) (now : ℤ) : FolioLineItem :=
  let category := input.taxCategory.getD (categoryFor input.kind)
  let exempt := input.taxExempt || decide (input.kind = .ADJUSTMENT)
  let gst := lineTax category input.amountPaise intraState exempt
  { id
    reservationId := input.reservationId
    propertyId := input.propertyId
    kind := input.kind
    description := input.description
    amountPaise := input.amountPaise
    quantity := input.quantity.getD 1
    taxPaise := gst.1
    taxRateBp := gst.2.1 * 100
    taxCategory := some category
    taxExempt := exempt
    hsnCode := input.hsnCode.or gst.2.2
    sourceType := input.sourceType
    sourceId := input.sourceId
    postedBy := input.postedBy
    updatedAt := now }

/-- Two rows the unique indexes do not admit together: one id, or one source. -/
def sameLine (l l' : FolioLineItem) : Bool :=
  l.id = l'.id ||
    (l.sourceType.isSome && l.sourceId.isSome && l.sourceType = l'.sourceType &&
      l.sourceId = l'.sourceId)

/-- `INSERT … ON CONFLICT DO NOTHING RETURNING *`. -/
def insertLine (row : FolioLineItem) (db : HotelDb) : HotelDb × Option FolioLineItem :=
  if db.folioLineItems.rows.any (sameLine row) then (db, none)
  else ({ db with folioLineItems := db.folioLineItems.insert row }, some row)

/-- The keys an insert can wait for. -/
def lineKeys (row : FolioLineItem) : List RowKey :=
  .folioLine row.id ::
    match row.sourceType, row.sourceId with
    | some t, some i => [.folioSource t i]
    | _, _ => []

/-- The row inserted, or after a lost race the line of the winner. -/
def lineInserted (look : Look) (source : Option (String × Id)) :
    Option FolioLineItem → Op (Option FolioLineItem)
  | some row => return some row
  | none => lineOfSource look source

theorem lineOfSource_readOnly (look : Look) (source : Option (String × Id)) :
    (lineOfSource look source).ReadOnly := by
  cases source with
  | none => exact .pure _
  | some s => exact .select _ _

theorem intraStateForId_readOnly (id : Id) : (intraStateForId id).ReadOnly := by
  refine .bind (.select _ _) fun row => ?_
  cases row with
  | none => exact .pure _
  | some r => exact .ite _ (.pure _) (.bind (.select _ _) fun _ => .pure _)

/-- Post one ancillary charge; a source that has a line already gets that line back. -/
def postCharge (input : PostChargeInput) (id : Id) (now : ℤ) : Op (Option FolioLineItem) := do
  let look := Look.folio input.reservationId
  let existing ← lineOfSource look input.source
  match existing with
  | some line => return some line
  | none =>
    let intraState ← intraStateForId input.reservationId
    let row := newLine input id intraState now
    let inserted ← write (fun _ => lineKeys row) (fun db => (insertLine row db).1)
      fun db => (insertLine row db).2
    lineInserted look input.source inserted

def logEvent (e : FolioEvent) : Op Unit :=
  write (fun _ => []) (fun db => { db with folioEvents := db.folioEvents ++ [e] }) fun _ => ()

/-- The charge a discount is: a negative ADJUSTMENT, never an edit to the original. -/
def ApplyDiscountInput.charge (input : ApplyDiscountInput) : PostChargeInput :=
  { reservationId := input.reservationId
    propertyId := input.propertyId
    kind := .ADJUSTMENT
    description := "Discount — " ++ input.reason
    amountPaise := -(input.amountPaise.natAbs : ℤ)
    postedBy := input.actorStaffId
    taxExempt := true }

def applyDiscount (input : ApplyDiscountInput) (id : Id) (now : ℤ) : Op FolioLineItem := do
  let posted ← postCharge (ApplyDiscountInput.charge input) id now
  let line ← orThrow posted (.internal "Cannot read properties of undefined")
  logEvent
    { reservationId := input.reservationId
      propertyId := input.propertyId
      type := "discount_applied"
      actorStaffId := input.actorStaffId
      payload := .discountApplied line.id line.amountPaise input.reason }
  return line

/-- `UPDATE folio_line_items SET … WHERE p`. -/
def updateLines (db : HotelDb) (p : FolioLineItem → Bool) (f : FolioLineItem → FolioLineItem)
    (hf : ∀ l, (f l).id = l.id := by intro _; rfl) : HotelDb :=
  { db with folioLineItems := db.folioLineItems.update p f hf }

/-- Which lines `voidLine` changes: the live line of that id on that folio. -/
def VoidLineInput.selects (input : VoidLineInput) (l : FolioLineItem) : Bool :=
  l.id = input.lineId && l.reservationId = input.reservationId && l.voidedAt.isNone

def VoidLineInput.void (input : VoidLineInput) (now : ℤ) (l : FolioLineItem) : FolioLineItem :=
  { l with
    voidedAt := some now
    voidedBy := input.actorStaffId
    voidReason := some input.reason
    updatedAt := now }

/-- Void a line: kept for the record, excluded from every total from now on. -/
def voidLine (input : VoidLineInput) (now : ℤ) : Op (Option FolioLineItem) := do
  let row ← write (fun _ => [.folioLine input.lineId])
    (fun db => updateLines db (VoidLineInput.selects input) (VoidLineInput.void input now))
    fun db => (db.folioLineItems.rows.find? (VoidLineInput.selects input)).map
      (VoidLineInput.void input now)
  forSome row fun line => logEvent
    { reservationId := input.reservationId
      propertyId := input.propertyId
      type := "line_voided"
      actorStaffId := input.actorStaffId
      payload := .lineVoided line.id line.amountPaise input.reason }
  return row

/-- The line of a folio by its id, voided or not. -/
def lineOnFolio (reservationId lineId : Id) (db : HotelDb) : Option FolioLineItem :=
  (db.folioLineItems.find? lineId).filter fun l => l.reservationId = reservationId

/-- The columns `setLineTaxExempt` writes. -/
def LineTaxExemptInput.set (input : LineTaxExemptInput) (gst : ℤ × ℕ × Option String) (now : ℤ)
    (l : FolioLineItem) : FolioLineItem :=
  { l with
    taxExempt := input.exempt
    taxPaise := gst.1
    taxRateBp := gst.2.1 * 100
    updatedAt := now }

/-- Grant or withdraw a tax exemption on one line, recomputing its tax. -/
def setLineTaxExempt (input : LineTaxExemptInput) (now : ℤ) : Op (Option FolioLineItem) := do
  let found ← select (.folio input.reservationId)
    (lineOnFolio input.reservationId input.lineId)
  match found with
  | none => return none
  | some line =>
    let category := line.taxCategory.getD (categoryFor line.kind)
    let intraState ← intraStateForId input.reservationId
    let gst := lineTax category line.amountPaise intraState input.exempt
    let row ← write (fun _ => [.folioLine line.id])
      (fun db => updateLines db (fun l => l.id = line.id) (LineTaxExemptInput.set input gst now))
      fun db => (db.folioLineItems.find? line.id).map (LineTaxExemptInput.set input gst now)
    logEvent
      { reservationId := input.reservationId
        propertyId := input.propertyId
        type := if input.exempt then "tax_exempted" else "tax_exemption_removed"
        actorStaffId := input.actorStaffId
        payload := .taxExemption line.id input.reason }
    return row

end FolioService

end Travelo
