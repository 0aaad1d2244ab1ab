import Mathlib.Tactic.Ring
import Travelo.Billing.Gst

/-!
# Invoices raised by hand

`createInvoice` takes the tax it is given or has it computed, splits it, and writes the invoice.
The engine is asked for the tax of the subtotal, the discount comes off afterwards:
`createInvoice_closes_iff` says for which requests the invoice still closes.
-/

namespace Travelo

/-- What the console sends; the validator takes no negative subtotal and no negative tariff, and
says nothing of the tax and the discount. -/
structure CreateInvoiceDto where
  ownerId : Id
  subscriptionId : Option Id := none
  billingPeriodStart : ℤ
  billingPeriodEnd : ℤ
  subtotal : ℕ
  tax : Option ℤ := none
  discount : Option ℤ := none
  currency : Option String := none
  dueDate : Option ℤ := none
  category : Option GstCategory := none
  intraState : Option Bool := none
  placeOfSupply : Option String := none
  unitAmountPaise : Option ℕ := none

structure Invoice where
  invoiceNumber : String
  ownerId : Id
  subscriptionId : Option Id
  billingPeriodStart : ℤ
  billingPeriodEnd : ℤ
  subtotal : ℤ
  tax : ℤ
  cgstPaise : ℤ
  sgstPaise : ℤ
  igstPaise : ℤ
  hsnCode : Option String
  placeOfSupply : Option String
  discount : ℤ
  total : ℤ
  currency : String
  dueDate : Option ℤ

/-- The tax columns of an invoice. -/
structure InvoiceTax where
  cgstPaise : ℤ
  sgstPaise : ℤ
  igstPaise : ℤ
  taxPaise : ℤ
  hsnCode : Option String

/-- A tax that is given is split as the engine would; else the engine works it out, on the
subtotal. -/
def CreateInvoiceDto.taxColumns (dto : CreateInvoiceDto) : InvoiceTax :=
  let intraState := dto.intraState.getD true
  match dto.tax with
  | some taxPaise =>
    let sgstPaise := if intraState then taxPaise / 2 else 0
    { cgstPaise := if intraState then taxPaise - sgstPaise else 0
      sgstPaise
      igstPaise := if intraState then 0 else taxPaise
      taxPaise
      hsnCode := none }
  | none =>
    let gst := computeGstForCategory (dto.category.getD .accommodation) dto.subtotal
      (dto.unitAmountPaise.map Int.ofNat) intraState
    { cgstPaise := gst.cgstPaise
      sgstPaise := gst.sgstPaise
      igstPaise := gst.igstPaise
      taxPaise := gst.taxPaise
      hsnCode := some gst.hsnCode }

/-- The row that is inserted, under the number drawn for it. -/
def createInvoice (invoiceNumber : String) (dto : CreateInvoiceDto) : Invoice :=
  let columns := dto.taxColumns
  { invoiceNumber
    ownerId := dto.ownerId
    subscriptionId := dto.subscriptionId
    billingPeriodStart := dto.billingPeriodStart
    billingPeriodEnd := dto.billingPeriodEnd
    subtotal := dto.subtotal
    tax := columns.taxPaise
    cgstPaise := columns.cgstPaise
    sgstPaise := columns.sgstPaise
    igstPaise := columns.igstPaise
    hsnCode := columns.hsnCode
    placeOfSupply := dto.placeOfSupply
    discount := dto.discount.getD 0
    total := dto.subtotal + columns.taxPaise - dto.discount.getD 0
    currency := dto.currency.getD "INR"
    dueDate := dto.dueDate }

/-! ## What an invoice has to satisfy -/

namespace CreateInvoiceDto

/-- What is taxed: the subtotal net of the discount. -/
def taxableAmountPaise (dto : CreateInvoiceDto) : ℤ := dto.subtotal - dto.discount.getD 0

/-- The slab's rate, by the tariff, or by the subtotal where no tariff is sent. -/
def ratePercent (dto : CreateInvoiceDto) : ℕ :=
  resolveGstRate (dto.category.getD .accommodation)
    ((dto.unitAmountPaise.map Int.ofNat).getD dto.subtotal)

/-- The tax that was given, or the tax on the taxable amount, rounded to the paisa. -/
def taxDue (dto : CreateInvoiceDto) : ℤ :=
  dto.tax.getD (roundDiv (dto.taxableAmountPaise * dto.ratePercent) 100)

end CreateInvoiceDto

/-- The arithmetic of an invoice closes. -/
structure InvoiceCloses (dto : CreateInvoiceDto) (row : Invoice) : Prop where
  total : row.total = row.subtotal + row.cgstPaise + row.sgstPaise + row.igstPaise - row.discount
  amounts : ∀ a ∈ [row.subtotal, row.tax, row.cgstPaise, row.sgstPaise, row.igstPaise,
    row.discount, row.total], 0 ≤ a
  /-- Either the pair or the integrated tax carries it. -/
  oneSide : if dto.intraState.getD true then row.igstPaise = 0
    else row.cgstPaise = 0 ∧ row.sgstPaise = 0
  halves : |row.cgstPaise - row.sgstPaise| ≤ 1
  rounded : row.cgstPaise + row.sgstPaise + row.igstPaise = dto.taxDue
  /-- Wherever the place of supply is. -/
  place : ∀ invoiceNumber intraState placeOfSupply,
    (createInvoice invoiceNumber { dto with intraState, placeOfSupply }).tax = row.tax

/-- The discount is one the amount can bear and, where the tax is computed, no more than what
rounding drops of it anyway; a given tax is none to be paid back. -/
def DiscountClear (dto : CreateInvoiceDto) : Prop :=
  match dto.tax with
  | some tax => 0 ≤ tax ∧ 0 ≤ dto.discount.getD 0 ∧ dto.discount.getD 0 ≤ dto.subtotal + tax
  | none => 0 ≤ dto.discount.getD 0 ∧ dto.discount.getD 0 ≤ dto.subtotal ∧
      dto.discount.getD 0 * dto.ratePercent ≤ (dto.subtotal * dto.ratePercent + 50) % 100

/-! ## The split -/

section Columns

variable (dto : CreateInvoiceDto)

/-- The tax the code works out. -/
def CreateInvoiceDto.taxLevied : ℤ :=
  dto.tax.getD (roundDiv (dto.subtotal * dto.ratePercent) 100)

theorem taxColumns_tax : dto.taxColumns.taxPaise = dto.taxLevied := by
  unfold CreateInvoiceDto.taxColumns CreateInvoiceDto.taxLevied CreateInvoiceDto.ratePercent
  cases dto.tax with
  | some tax => rfl
  | none => rfl

theorem taxColumns_sgst : dto.taxColumns.sgstPaise =
    if dto.intraState.getD true then dto.taxLevied / 2 else 0 := by
  rw [← taxColumns_tax]
  unfold CreateInvoiceDto.taxColumns
  cases dto.tax with
  | some tax => rfl
  | none => rfl

theorem taxColumns_cgst : dto.taxColumns.cgstPaise =
    if dto.intraState.getD true then dto.taxLevied - dto.taxLevied / 2 else 0 := by
  rw [← taxColumns_tax]
  unfold CreateInvoiceDto.taxColumns
  cases dto.tax with
  | some tax => cases hi : dto.intraState.getD true <;> rfl
  | none => cases hi : dto.intraState.getD true <;> rfl

theorem taxColumns_igst : dto.taxColumns.igstPaise =
    if dto.intraState.getD true then 0 else dto.taxLevied := by
  rw [← taxColumns_tax]
  unfold CreateInvoiceDto.taxColumns
  cases dto.tax with
  | some tax => rfl
  | none => rfl

theorem taxColumns_sum : dto.taxColumns.cgstPaise + dto.taxColumns.sgstPaise +
    dto.taxColumns.igstPaise = dto.taxLevied := by
  rw [taxColumns_cgst, taxColumns_sgst, taxColumns_igst]
  split
  · omega
  · omega

theorem taxColumns_halves : |dto.taxColumns.cgstPaise - dto.taxColumns.sgstPaise| ≤ 1 := by
  rw [taxColumns_cgst, taxColumns_sgst]
  split
  · refine abs_le'.mpr ⟨?_, ?_⟩
    · omega
    · omega
  · simp

theorem taxColumns_oneSide : if dto.intraState.getD true then dto.taxColumns.igstPaise = 0
    else dto.taxColumns.cgstPaise = 0 ∧ dto.taxColumns.sgstPaise = 0 := by
  rw [taxColumns_cgst, taxColumns_sgst, taxColumns_igst]
  split
  · rfl
  · exact ⟨rfl, rfl⟩

theorem taxColumns_nonneg (h : 0 ≤ dto.taxLevied) : 0 ≤ dto.taxColumns.cgstPaise ∧
    0 ≤ dto.taxColumns.sgstPaise ∧ 0 ≤ dto.taxColumns.igstPaise := by
  rw [taxColumns_cgst, taxColumns_sgst, taxColumns_igst]
  split
  · omega
  · omega

end Columns

/-! ## The invoice -/

theorem roundDiv_sub_eq_iff {x y : ℤ} (hy : 0 ≤ y) :
    roundDiv x 100 = roundDiv (x - y) 100 ↔ y ≤ (x + 50) % 100 := by
  unfold roundDiv
  omega

theorem roundDiv_nonpos {x : ℤ} (h : x ≤ 0) : roundDiv x 100 ≤ 0 := by
  unfold roundDiv
  omega

theorem roundDiv_nonneg {x : ℤ} (h : 0 ≤ x) : 0 ≤ roundDiv x 100 := by
  unfold roundDiv
  omega

/-- Levied and due agree, no amount is negative: that is all the invoice has to prove. -/
theorem invoiceCloses_iff (invoiceNumber : String) (dto : CreateInvoiceDto) :
    InvoiceCloses dto (createInvoice invoiceNumber dto) ↔
      dto.taxLevied = dto.taxDue ∧ 0 ≤ dto.taxLevied ∧ 0 ≤ dto.discount.getD 0 ∧
        dto.discount.getD 0 ≤ dto.subtotal + dto.taxLevied := by
  have hsum := taxColumns_sum dto
  have htax := taxColumns_tax dto
  constructor
  · intro h
    have hrounded : dto.taxColumns.cgstPaise + dto.taxColumns.sgstPaise +
        dto.taxColumns.igstPaise = dto.taxDue := h.rounded
    have hnonneg : 0 ≤ dto.taxColumns.taxPaise := h.amounts _ (by simp [createInvoice])
    have hdiscount : 0 ≤ dto.discount.getD 0 := h.amounts _ (by simp [createInvoice])
    have htotal : 0 ≤ dto.subtotal + dto.taxColumns.taxPaise - dto.discount.getD 0 :=
      h.amounts _ (by simp [createInvoice])
    omega
  · rintro ⟨hdue, hnonneg, hdiscount, hbears⟩
    have hcolumns := taxColumns_nonneg dto hnonneg
    constructor
    · have htotal : (dto.subtotal : ℤ) + dto.taxColumns.taxPaise = dto.subtotal +
          dto.taxColumns.cgstPaise + dto.taxColumns.sgstPaise + dto.taxColumns.igstPaise := by
        omega
      exact congrArg (· - dto.discount.getD 0) htotal
    · simp only [createInvoice, List.forall_mem_cons, List.not_mem_nil, false_implies,
        implies_true, and_true]
      omega
    · exact taxColumns_oneSide dto
    · exact taxColumns_halves dto
    · exact hsum.trans hdue
    · intro n intraState placeOfSupply
      have hother := taxColumns_tax { dto with intraState, placeOfSupply }
      exact hother.trans htax.symm

/-- The invoice closes exactly when the discount is clear: one that bears on the tax is taxed all
the same, and one above the amount, or a negative tax, makes the total go below zero. -/
theorem createInvoice_closes_iff (invoiceNumber : String) (dto : CreateInvoiceDto) :
    InvoiceCloses dto (createInvoice invoiceNumber dto) ↔ DiscountClear dto := by
  rw [invoiceCloses_iff]
  unfold DiscountClear CreateInvoiceDto.taxDue CreateInvoiceDto.taxLevied
    CreateInvoiceDto.taxableAmountPaise
  cases dto.tax with
  | some tax =>
    simp only [Option.getD_some, true_and]
  | none =>
    simp only [Option.getD_none]
    generalize dto.discount.getD 0 = discount
    have hrate : (0 : ℤ) ≤ dto.ratePercent := Int.natCast_nonneg _
    have hsubtotal : (0 : ℤ) ≤ dto.subtotal * dto.ratePercent :=
      Int.mul_nonneg (Int.natCast_nonneg _) hrate
    rw [sub_mul]
    constructor
    · rintro ⟨hdue, -, hdiscount, hbears⟩
      have hpart : 0 ≤ discount * dto.ratePercent := Int.mul_nonneg hdiscount hrate
      refine ⟨hdiscount, ?_, (roundDiv_sub_eq_iff hpart).mp hdue⟩
      -- beyond the subtotal there is no tax left to bear it
      by_contra hover
      have hbelow : (dto.subtotal : ℤ) * dto.ratePercent ≤ discount * dto.ratePercent :=
        Int.mul_le_mul_of_nonneg_right (by omega) hrate
      have hnone := roundDiv_nonpos (x := dto.subtotal * dto.ratePercent -
        discount * dto.ratePercent) (by omega)
      omega
    · rintro ⟨hdiscount, hbears, hdropped⟩
      have hpart : 0 ≤ discount * dto.ratePercent := Int.mul_nonneg hdiscount hrate
      have htax := roundDiv_nonneg hsubtotal
      exact ⟨(roundDiv_sub_eq_iff hpart).mpr hdropped, htax, hdiscount, by omega⟩

/-- A stay of 1000 rupees, less 100. -/
def discountedStay : CreateInvoiceDto :=
  { ownerId := 1, billingPeriodStart := 0, billingPeriodEnd := 1, subtotal := 100000
    discount := some 10000 }

/-- Tax is levied on the 100 rupees that were taken off. -/
theorem discount_taxed :
    ¬InvoiceCloses discountedStay (createInvoice "INV-202601-000001" discountedStay) := by
  intro h
  have hrounded := h.rounded
  revert hrounded
  decide +kernel

end Travelo
