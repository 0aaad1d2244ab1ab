import Travelo.Inventory

/-!
# The expense register

`accounts-rules.ts`, `ExpensesService` and `ApprovalsService`: an expense is one row that walks
DRAFT → APPROVED → PAID. An edit does not look at the status; every write names the row by id only.
-/

namespace Travelo

open ReadCommitted

/-- The whole of the state machine. -/
def EXPENSE_TRANSITIONS : ExpenseStatus → List ExpenseStatus
  | .DRAFT => [.APPROVED]
  | .APPROVED => [.PAID]
  | .PAID => []

def canTransitionExpense (fromStatus toStatus : ExpenseStatus) : Bool :=
  toStatus ∈ EXPENSE_TRANSITIONS fromStatus

def assertExpenseTransition (fromStatus toStatus : ExpenseStatus) : Except Err Unit :=
  if canTransitionExpense fromStatus toStatus then .ok ()
  else .error (.invalidExpenseTransition fromStatus toStatus)

theorem assertExpenseTransition_ok {fromStatus toStatus : ExpenseStatus} {u : Unit} :
    assertExpenseTransition fromStatus toStatus = .ok u ↔
      canTransitionExpense fromStatus toStatus = true := by
  unfold assertExpenseTransition
  split <;> simp_all

/-- The body of an edit; a field that is absent is left alone. -/
structure UpdateExpenseDto where
  category : Option ExpenseCategory := none
  amountPaise : Option ℤ := none
  vendor : Option String := none
  incurredOn : Option ℤ := none
  note : Option String := none

namespace ExpensesService

variable (propertyId id : Id)

/-- The live expense of the property. -/
def expenseOf (db : HotelDb) : Option Expense :=
  (db.expenses.find? id).filter fun e => e.propertyId = propertyId && e.deletedAt.isNone

def requireExpense : Op Expense := do
  let row ← select (.expense id) (expenseOf propertyId id)
  orThrow row .expenseNotFound

/-- `UPDATE expenses SET … WHERE id = …`. -/
def setExpense (f : Expense → Expense) (hf : ∀ e, (f e).id = e.id) (db : HotelDb) :
    HotelDb :=
  { db with expenses := db.expenses.update (fun e => e.id = id) f hf }

theorem mem_setExpense {id : Id} {f : Expense → Expense} {hf : ∀ e, (f e).id = e.id}
    {db : HotelDb} {e : Expense} : e ∈ (setExpense id f hf db).expenses ↔
      ∃ e₀ ∈ db.expenses, e = if e₀.id = id then f e₀ else e₀ := by
  show e ∈ Table.update db.expenses _ f hf ↔ _
  simp only [mem_update, decide_eq_true_eq]

/-- The columns an edit sets. -/
def edited (dto : UpdateExpenseDto) (now : ℤ) (e : Expense) : Expense :=
  { e with
    category := dto.category.getD e.category
    amountPaise := dto.amountPaise.getD e.amountPaise
    vendor := match dto.vendor with
      | some vendor => trimOrNull vendor
      | none => e.vendor
    incurredOn := dto.incurredOn.getD e.incurredOn
    note := match dto.note with
      | some note => trimOrNull note
      | none => e.note
    updatedAt := now }

def withStatus (status : ExpenseStatus) (now : ℤ) (e : Expense) : Expense :=
  { e with status, updatedAt := now }

/-- Withdrawn: the row stays. -/
def withdrawn (now : ℤ) (e : Expense) : Expense :=
  { e with deletedAt := some now, updatedAt := now }

def update (dto : UpdateExpenseDto) (now : ℤ) :
    Op (Expense × Option Expense) := do
  let before ← requireExpense propertyId id
  let after ← write (fun _ => [.expense id]) (setExpense id (edited dto now) fun _ => rfl)
    fun db => (db.expenses.find? id).map (edited dto now)
  return (before, after)

/-- DRAFT → APPROVED → PAID. -/
def setStatus (toStatus : ExpenseStatus) (now : ℤ) :
    Op (Expense × Option Expense) := do
  let before ← requireExpense propertyId id
  lift (assertExpenseTransition before.status toStatus)
  let after ← write (fun _ => [.expense id])
    (setExpense id (withStatus toStatus now) fun _ => rfl)
    fun db => (db.expenses.find? id).map (withStatus toStatus now)
  return (before, after)

def remove (now : ℤ) : Op Expense := do
  let before ← requireExpense propertyId id
  write (fun _ => [.expense id]) (setExpense id (withdrawn now) fun _ => rfl) fun _ => ()
  return before

end ExpensesService

namespace ApprovalsService

open ExpensesService PurchaseOrdersService

inductive ApprovalType where
  | expense
  | purchase

structure Decision where
  id : Id
  type : ApprovalType
  approved : Bool

variable (id : Id)

/-- An approved expense may be paid; a rejected one is withdrawn. -/
def applyDecision (now : ℤ) : Bool → Op Unit
  | true => write (fun _ => [.expense id])
      (setExpense id (ExpensesService.withStatus .APPROVED now) fun _ => rfl) fun _ => ()
  | false => write (fun _ => [.expense id]) (setExpense id (withdrawn now) fun _ => rfl)
      fun _ => ()

variable (approve : Bool)

def decideExpense (now : ℤ) (exp : Expense) : Op Decision := do
  throwIf (exp.status ≠ .DRAFT) (.conflict "Expense is not awaiting approval")
  applyDecision id now approve
  return { id, type := .expense, approved := approve }

/-- What a decision makes of an order: it is sent to the supplier, or cancelled. -/
def decided : PoStatusDto := if approve then .SENT else .CANCELLED

def decidePurchase (now : ℤ) (po : PurchaseOrder) : Op Decision := do
  throwIf (po.status ≠ .DRAFT) (.conflict "Purchase order is not awaiting approval")
  write (fun _ => [.purchaseOrder id])
    (setPo id (PurchaseOrdersService.withStatus (decided approve).status now) fun _ => rfl)
    fun _ => ()
  return { id, type := .purchase, approved := approve }

/-- Resolves the id against expenses, then purchase orders. -/
def decide (propertyId id : Id) (approve : Bool) (now : ℤ) : Op Decision := do
  let exp ← select (.expense id) (expenseOf propertyId id)
  match exp with
  | some exp => decideExpense id approve now exp
  | none => do
    let po ← select (.purchaseOrder id) (poOf propertyId id)
    match po with
    | some po => decidePurchase id approve now po
    | none => throw (.missing "Nothing awaiting approval with that id")

end ApprovalsService

end Travelo
