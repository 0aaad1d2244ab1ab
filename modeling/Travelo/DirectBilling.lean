import Travelo.Schema

/-!
# Direct billing

`DirectBillingService`: a stay settled by its company is a CHARGE on the company's account.
-/

namespace Travelo

open ReadCommitted

/-- What `charge` is given. -/
structure CorporateCharge where
  propertyId : Id
  accountId : Id
  amountPaise : ℤ
  reservationId : Option Id := none
  orderId : Option Id := none
  reference : Option ℕ := none
  note : Option String := none
  recordedBy : Option Id := none

namespace DirectBillingService

/-- The live account of the property. -/
def accountOf (propertyId id : Id) (db : HotelDb) : Option CorporateAccount :=
  (db.corporateAccounts.find? id).filter fun a => a.propertyId = propertyId && a.deletedAt.isNone

def requireAccount (propertyId id : Id) : Op CorporateAccount := do
  let row ← select (.account id) (accountOf propertyId id)
  orThrow row .corporateAccountNotFound

/-- The entry a charge makes. -/
def newCharge (e : CorporateCharge) : CorporateLedgerEntry :=
  { accountId := e.accountId
    propertyId := e.propertyId
    kind := .CHARGE
    amountPaise := e.amountPaise
    reservationId := e.reservationId
    orderId := e.orderId
    reference := e.reference
    note := e.note
    recordedBy := e.recordedBy }

/-- Charge the account. -/
def charge (e : CorporateCharge) : Op CorporateLedgerEntry := do
  let _ ← requireAccount e.propertyId e.accountId
  write (fun _ => [])
    (fun db => { db with corporateLedger := db.corporateLedger ++ [newCharge e] })
    fun _ => newCharge e

end DirectBillingService

end Travelo
