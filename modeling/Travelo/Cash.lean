import Travelo.Schema

/-!
# The cash tracker

`CashService`: every movement of cash is a row, and the cash in hand is a signed sum. A shift
opens with a float and closes with what the cashier declares, next to what its entries come
to. The uuid of a new shift comes from outside.
-/

namespace Travelo

open ReadCommitted

/-- The kinds that add to the drawer; the others take from it. -/
def INFLOW : List CashEntryKind := [.FOLIO_CASH, .POS_CASH, .CASH_IN, .TOP_UP]

/-- What `record` is given. -/
structure CashMovement where
  propertyId : Id
  kind : CashEntryKind
  amountPaise : ℤ
  reservationId : Option Id := none
  orderId : Option Id := none
  expenseId : Option Id := none
  note : Option String := none
  recordedBy : Option Id := none

namespace CashService

def signed (kind : CashEntryKind) (amountPaise : ℤ) : ℤ :=
  if kind ∈ INFLOW then amountPaise else -amountPaise

variable (propertyId staffId : Id)

/-- The open shift of a member of staff. -/
def openShiftOf (db : HotelDb) : Option StaffShift :=
  db.staffShifts.rows.find? fun s =>
    s.propertyId = propertyId && s.staffId = staffId && s.closedAt.isNone

def openShiftFor : Op (Option StaffShift) :=
  select (.cash propertyId) (openShiftOf propertyId staffId)

/-- The open shift of whoever records, if anybody is named. -/
def shiftOf : Option Id → Op (Option StaffShift)
  | some staffId => openShiftFor propertyId staffId
  | none => return none

/-- The row of a movement. -/
def newEntry (e : CashMovement) (shiftId : Option Id) : CashEntry :=
  { propertyId := e.propertyId
    shiftId
    kind := e.kind
    amountPaise := e.amountPaise
    reservationId := e.reservationId
    orderId := e.orderId
    expenseId := e.expenseId
    note := e.note
    recordedBy := e.recordedBy }

/-- Record a movement, on the recorder's open shift when there is one. -/
def record (e : CashMovement) : Op CashEntry := do
  throwIf (e.amountPaise ≤ 0) (.badRequest "Amount must be positive")
  let shift ← shiftOf e.propertyId e.recordedBy
  let row := newEntry e (shift.map (·.id))
  write (fun _ => []) (fun db => { db with cashEntries := db.cashEntries ++ [row] })
    fun _ => row

/-- Cash in hand. -/
def balanceOf (db : HotelDb) : ℤ :=
  ((db.cashEntries.filter fun e => e.propertyId = propertyId).map fun e =>
    match e.kind with
    | .FOLIO_CASH | .POS_CASH | .CASH_IN | .TOP_UP => e.amountPaise
    | _ => -e.amountPaise).sum

def balancePaise : Op ℤ := select (.cash propertyId) (balanceOf propertyId)

/-! ## Shifts -/

/-- The row of a new shift. -/
def newShift (openingCashPaise : ℤ) (note : Option String) (id : Id) (now : ℤ) : StaffShift :=
  { id, propertyId, staffId, openedAt := now, openingCashPaise, note }

/-- Open a shift with a float. -/
def openShift (openingCashPaise : ℤ) (note : Option String) (id : Id) (now : ℤ) :
    Op StaffShift := do
  let existing ← openShiftFor propertyId staffId
  throwIf existing.isSome .shiftAlreadyOpen
  let row := newShift propertyId staffId openingCashPaise note id now
  write (fun _ => []) (fun db => { db with staffShifts := db.staffShifts.insert row })
    fun _ => row

/-- What the entries of a shift come to. -/
def shiftSum (shiftId : Id) (db : HotelDb) : ℤ :=
  ((db.cashEntries.filter fun e => e.shiftId = some shiftId).map fun e =>
    match e.kind with
    | .FOLIO_CASH | .POS_CASH | .CASH_IN | .TOP_UP => e.amountPaise
    | _ => -e.amountPaise).sum

/-- The columns `closeShift` writes. -/
def closed (declaredCashPaise expected : ℤ) (note : Option String) (now : ℤ) (s : StaffShift) :
    StaffShift :=
  { s with
    closedAt := some now
    declaredCashPaise := some declaredCashPaise
    expectedCashPaise := some expected
    note }

/-- Set the columns of one shift. -/
def setShift (id : Id) (f : StaffShift → StaffShift) (hf : ∀ s, (f s).id = s.id) (db : HotelDb) :
    HotelDb :=
  { db with staffShifts := db.staffShifts.update (fun s => s.id = id) f hf }

/-- Close the open shift with the declared count; the difference against what is expected is
the handover figure. -/
def closeShift (declaredCashPaise : ℤ) (note : Option String) (now : ℤ) :
    Op (Option StaffShift × ℤ) := do
  let found ← openShiftFor propertyId staffId
  let shift ← orThrow found .noOpenShift
  let sum ← select (.cash propertyId) (shiftSum shift.id)
  let expected := shift.openingCashPaise + sum
  let close := closed declaredCashPaise expected (note.or shift.note) now
  let row ← write (fun _ => [.shift shift.id]) (setShift shift.id close fun _ => rfl)
    fun db => (db.staffShifts.find? shift.id).map close
  return (row, declaredCashPaise - expected)

end CashService

end Travelo
