import Travelo.Schema

/-!
# GST

The tax arithmetic of `gst.ts`, in paise.
-/

namespace Travelo

/-- A rate band; the bound on the per-unit amount is included, `none` is no ceiling. -/
structure GstSlab where
  maxAmountPaise : Option ℤ
  ratePercent : ℕ

def HOTEL_GST_SLABS : List GstSlab := [⟨some 750000, 12⟩, ⟨none, 18⟩]
def RESTAURANT_GST_SLABS : List GstSlab := [⟨none, 5⟩]
def SAAS_GST_SLABS : List GstSlab := [⟨none, 18⟩]
def OTHER_GST_SLABS : List GstSlab := [⟨none, 18⟩]

def slabsFor : GstCategory → List GstSlab
  | .accommodation => HOTEL_GST_SLABS
  | .restaurant => RESTAURANT_GST_SLABS
  | .saas => SAAS_GST_SLABS
  | .other => OTHER_GST_SLABS

def hsnFor : GstCategory → String
  | .accommodation => "996311"
  | .restaurant => "996331"
  | .saas => "998319"
  | .other => "9983"

/-- The first slab whose bound admits the amount. -/
def resolveGstRate (category : GstCategory) (amountPaise : ℤ) : ℕ :=
  match (slabsFor category).find? fun s => s.maxAmountPaise.all fun m => amountPaise ≤ m with
  | some slab => slab.ratePercent
  | none => (((slabsFor category).getLast?).map (·.ratePercent)).getD 0

structure GstBreakdown where
  cgstPaise : ℤ
  sgstPaise : ℤ
  igstPaise : ℤ
  taxPaise : ℤ
  totalPaise : ℤ
  ratePercent : ℕ
  hsnCode : String

/-- The total tax is rounded once; intra-state the odd paisa goes to CGST. -/
def computeGst (taxableAmountPaise : ℤ) (ratePercent : ℕ) (intraState : Bool) (hsnCode : String) :
    GstBreakdown :=
  let taxPaise := roundDiv (taxableAmountPaise * ratePercent) 100
  let sgstPaise := if intraState then taxPaise / 2 else 0
  { cgstPaise := if intraState then taxPaise - sgstPaise else 0
    sgstPaise
    igstPaise := if intraState then 0 else taxPaise
    taxPaise
    totalPaise := taxableAmountPaise + taxPaise
    ratePercent
    hsnCode }

/-- The slab is chosen on `slabBasisPaise` when it is given, else on the taxed amount. -/
def computeGstForCategory (category : GstCategory) (taxableAmountPaise : ℤ)
    (slabBasisPaise : Option ℤ) (intraState : Bool) : GstBreakdown :=
  computeGst taxableAmountPaise
    (resolveGstRate category (slabBasisPaise.getD taxableAmountPaise)) intraState (hsnFor category)

end Travelo
