import Travelo.Accounts
import Travelo.ReadCommitted.Guarded

/-!
# What is paid is what was approved

Every status write of the register rests on a status that was read a step before, and an edit on
none. `paid_as_approved`: the statuses follow their tables while a write finds the status its call
has read, and what is paid is what was approved while the amount of a draft only is edited.
-/

namespace Travelo

open ReadCommitted ExpensesService PurchaseOrdersService
open Config (start calls_steps)

/-! ## Calls -/

/-- A call on the register or on an order, with the clock. -/
inductive AccountsCall where
  | update (propertyId id : Id) (dto : UpdateExpenseDto) (now : ℤ)
  | setStatus (propertyId id : Id) (toStatus : ExpenseStatus) (now : ℤ)
  | remove (propertyId id : Id) (now : ℤ)
  | decide (propertyId id : Id) (approve : Bool) (now : ℤ)
  | setPoStatus (propertyId id : Id) (toStatus : PoStatusDto) (now : ℤ)

def AccountsCall.prog : AccountsCall → Op Unit
  | .update propertyId id dto now => do
    let _ ← ExpensesService.update propertyId id dto now
  | .setStatus propertyId id toStatus now => do
    let _ ← ExpensesService.setStatus propertyId id toStatus now
  | .remove propertyId id now => do
    let _ ← ExpensesService.remove propertyId id now
  | .decide propertyId id approve now => do
    let _ ← ApprovalsService.decide propertyId id approve now
  | .setPoStatus propertyId id toStatus now => do
    let _ ← PurchaseOrdersService.setStatus propertyId id toStatus now

/-! ## The laws -/

/-- The status of an expense stays, or takes a step of its table. -/
def ExpenseMoves (e e' : Expense) : Prop :=
  e'.id = e.id ∧ (e'.status = e.status ∨ canTransitionExpense e.status e'.status = true)

def OrderMoves (po po' : PurchaseOrder) : Prop :=
  po'.id = po.id ∧ (po'.status = po.status ∨ canTransitionPo po.status po'.status = true)

/-- Every expense and every order keeps its status, or takes one its table allows. -/
def FollowsTables (db db' : HotelDb) : Prop :=
  (∀ e ∈ db.expenses, ∃ e' ∈ db'.expenses, ExpenseMoves e e') ∧
    ∀ po ∈ db.purchaseOrders, ∃ po' ∈ db'.purchaseOrders, OrderMoves po po'

/-- The amounts at which expenses were last approved, one step on. -/
def approvedAmounts (g : Id → ℤ) (db db' : HotelDb) (id : Id) : ℤ :=
  match db'.expenses.find? id with
  | some e =>
    if e.status = .APPROVED ∧ (db.expenses.find? id).map (·.status) ≠ some .APPROVED then
      e.amountPaise
    else g id
  | none => g id

/-- What is paid is what was approved. -/
def PaidAsApproved (_ : HotelDb) (g : Id → ℤ) (db : HotelDb) : Prop :=
  ∀ e ∈ db.expenses, e.status = .PAID → e.amountPaise = g e.id

/-- What has been approved has the amount it was approved at. -/
def AsApproved (g : Id → ℤ) (db : HotelDb) : Prop :=
  ∀ e ∈ db.expenses, e.status ≠ .DRAFT → e.amountPaise = g e.id

/-- A guard of the calls. -/
abbrev AccountsGuard := AccountsCall → (HotelDb → HotelDb) → Trace → HotelDb → Prop

/-- Statuses move along the tables, whatever calls interleave under the guard. -/
def StatusesFollow (G : AccountsGuard) : Prop :=
  ∀ (calls : List AccountsCall) (db : HotelDb) (evs : List Event),
    (start db (calls.map AccountsCall.prog)).Throughout (GuardedCalls calls G) evs →
      (start db (calls.map AccountsCall.prog)).EveryStep FollowsTables evs

/-- Nothing is paid at another amount than it was approved at. -/
def NothingElsePaid (G : AccountsGuard) : Prop :=
  ∀ (calls : List AccountsCall) (db : HotelDb) (g : Id → ℤ) (evs : List Event), AsApproved g db →
    (start db (calls.map AccountsCall.prog)).Throughout (GuardedCalls calls G) evs →
      Config.EveryStepWith approvedAmounts PaidAsApproved g
        (start db (calls.map AccountsCall.prog)) evs

/-! ## What must not happen meanwhile -/

/-- The stored status is the one the call has read, or the one it writes. -/
def ExpenseAsRead (propertyId id : Id) (toStatus : ExpenseStatus) (h : Trace) (now : HotelDb) :
    Prop :=
  ∀ r ∈ reads h, r.1 = .expense id → ∀ before ∈ expenseOf propertyId id r.2,
    ∀ e ∈ now.expenses, e.id = id → e.status = before.status ∨ e.status = toStatus

/-- The same of an order; one that was sent meanwhile may still be cancelled. -/
def PoAsRead (propertyId id : Id) (toStatus : PoStatusDto) (h : Trace) (now : HotelDb) : Prop :=
  ∀ r ∈ reads h, r.1 = .purchaseOrder id → ∀ before ∈ poOf propertyId id r.2,
    ∀ po ∈ now.purchaseOrders, po.id = id → po.status = before.status ∨
      po.status = toStatus.status ∨ po.status = .SENT ∧ toStatus = .CANCELLED

/-- A status is written where it is still the one that was read. -/
def StatusStillRead : AccountsGuard
  | .setStatus propertyId id toStatus _, _, h, now => ExpenseAsRead propertyId id toStatus h now
  | .decide propertyId id approve _, _, h, now =>
    (approve = true → ExpenseAsRead propertyId id .APPROVED h now) ∧
      PoAsRead propertyId id (ApprovalsService.decided approve) h now
  | .setPoStatus propertyId id toStatus _, _, h, now => PoAsRead propertyId id toStatus h now
  | _, _, _, _ => True

/-- An edit leaves the amount of what is no draft any more. -/
def EditsDrafts : AccountsGuard
  | .update _ id dto _, _, _, now => ∀ e ∈ now.expenses, e.id = id →
      e.status = .DRAFT ∨ dto.amountPaise.getD e.amountPaise = e.amountPaise
  | _, _, _, _ => True

/-! ## What a call writes -/

/-- What a call publishes, and what it has read of its row. -/
inductive AccountsWrite : AccountsCall → Trace → (HotelDb → HotelDb) → Prop where
  | edited {propertyId id dto now h} : AccountsWrite (.update propertyId id dto now) h
      (setExpense id (edited dto now) fun _ => rfl)
  | withdrawn {call id now h} : AccountsWrite call h (setExpense id (withdrawn now) fun _ => rfl)
  | moved {propertyId id toStatus now h b before} (hread : (.expense id, b) ∈ reads h)
      (hbefore : expenseOf propertyId id b = some before)
      (hallowed : canTransitionExpense before.status toStatus = true) :
      AccountsWrite (.setStatus propertyId id toStatus now) h
        (setExpense id (ExpensesService.withStatus toStatus now) fun _ => rfl)
  | approved {propertyId id now h b before} (hread : (.expense id, b) ∈ reads h)
      (hbefore : expenseOf propertyId id b = some before) (hdraft : before.status = .DRAFT) :
      AccountsWrite (.decide propertyId id true now) h
        (setExpense id (ExpensesService.withStatus .APPROVED now) fun _ => rfl)
  | decided {propertyId id approve now h b before} (hread : (.purchaseOrder id, b) ∈ reads h)
      (hbefore : poOf propertyId id b = some before) (hdraft : before.status = .DRAFT) :
      AccountsWrite (.decide propertyId id approve now) h
        (setPo id (PurchaseOrdersService.withStatus (ApprovalsService.decided approve).status now)
          fun _ => rfl)
  | ordered {propertyId id toStatus now h b before} (hread : (.purchaseOrder id, b) ∈ reads h)
      (hbefore : poOf propertyId id b = some before)
      (hallowed : canTransitionPo before.status (PoStatusDto.status toStatus) = true) :
      AccountsWrite (.setPoStatus propertyId id toStatus now) h
        (setPo id (PurchaseOrdersService.withStatus toStatus.status now) fun _ => rfl)

theorem AccountsCall.wp_prog (call : AccountsCall) :
    call.prog.wp (AccountsWrite call) (fun _ _ _ => True) (fun _ _ _ => True) [] .idle := by
  cases call with
  | update propertyId id dto now =>
    simp only [prog, ExpensesService.update, requireExpense, wp_simps]
    exact fun b before hbefore => .edited
  | setStatus propertyId id toStatus now =>
    simp only [prog, ExpensesService.setStatus, requireExpense, wp_simps]
    intro b before hbefore _ hallowed
    exact .moved (b := b) (mem_reads.mpr List.mem_cons_self) hbefore
      (assertExpenseTransition_ok.mp hallowed)
  | remove propertyId id now =>
    simp only [prog, ExpensesService.remove, requireExpense, wp_simps]
    exact fun b before hbefore => .withdrawn
  | decide propertyId id approve now =>
    simp only [prog, ApprovalsService.decide, wp_simps]
    intro b
    cases hexp : expenseOf propertyId id b with
    | some exp =>
      simp only [ApprovalsService.decideExpense, wp_simps]
      intro hdraft
      cases approve with
      | true =>
        simp only [ApprovalsService.applyDecision, wp_simps]
        exact .approved (b := b) (mem_reads.mpr List.mem_cons_self) hexp (not_not.mp hdraft)
      | false =>
        simp only [ApprovalsService.applyDecision, wp_simps]
        exact .withdrawn
    | none =>
      simp only [wp_simps]
      intro b'
      cases hpo : poOf propertyId id b' with
      | none => trivial
      | some po =>
        simp only [ApprovalsService.decidePurchase, wp_simps]
        exact fun hdraft => .decided (b := b') (mem_reads.mpr List.mem_cons_self) hpo
          (not_not.mp hdraft)
  | setPoStatus propertyId id toStatus now =>
    simp only [prog, PurchaseOrdersService.setStatus, requirePo, wp_simps]
    intro b before hbefore _ hallowed
    refine .ordered (b := b) (mem_reads.mpr List.mem_cons_self) hbefore ?_
    by_contra hno
    simp [assertPoTransition, hno] at hallowed

/-! ## What a write does to the rows -/

/-- The amount of an expense stays too, once it has left DRAFT. -/
def ExpenseKept (e e' : Expense) : Prop :=
  ExpenseMoves e e' ∧ (e.status ≠ .DRAFT → e'.amountPaise = e.amountPaise)

theorem ExpenseMoves.refl (e : Expense) : ExpenseMoves e e := ⟨rfl, .inl rfl⟩

theorem ExpenseKept.refl (e : Expense) : ExpenseKept e e := ⟨.refl e, fun _ => rfl⟩

theorem OrderMoves.refl (po : PurchaseOrder) : OrderMoves po po := ⟨rfl, .inl rfl⟩

section Rows

variable {id : Id} {db : HotelDb}

/-- The rows after a write of one expense, in terms of those before, and the other way round. -/
theorem setExpense_rows {P : Expense → Expense → Prop} (hrefl : ∀ e, P e e)
    {f : Expense → Expense} {hf : ∀ e, (f e).id = e.id}
    (hP : ∀ e ∈ db.expenses, e.id = id → P e (f e)) :
    (∀ e ∈ db.expenses, ∃ e' ∈ (setExpense id f hf db).expenses, P e e') ∧
      ∀ e' ∈ (setExpense id f hf db).expenses, ∃ e ∈ db.expenses, P e e' := by
  have hrow : ∀ e ∈ db.expenses, P e (if e.id = id then f e else e) := by
    intro e he
    by_cases h : e.id = id
    · rw [if_pos h]
      exact hP e he h
    · rw [if_neg h]
      exact hrefl e
  constructor
  · intro e he
    exact ⟨_, mem_setExpense.mpr ⟨e, he, rfl⟩, hrow e he⟩
  · intro e' he'
    rcases mem_setExpense.mp he' with ⟨e, he, rfl⟩
    exact ⟨e, he, hrow e he⟩

theorem setPo_rows {f : PurchaseOrder → PurchaseOrder} {hf : ∀ po, (f po).id = po.id}
    (hP : ∀ po ∈ db.purchaseOrders, po.id = id → OrderMoves po (f po)) :
    ∀ po ∈ db.purchaseOrders, ∃ po' ∈ (setPo id f hf db).purchaseOrders, OrderMoves po po' := by
  intro po hpo
  refine ⟨if po.id = id then f po else po, ?_, ?_⟩
  · show _ ∈ Table.update db.purchaseOrders _ f hf
    rw [mem_update]
    exact ⟨po, hpo, by simp⟩
  · by_cases h : po.id = id
    · rw [if_pos h]
      exact hP po hpo h
    · rw [if_neg h]
      exact .refl po

end Rows

section Writes

variable {propertyId id : Id} {h : Trace} {db b : HotelDb}

theorem ExpenseAsRead.moves {toStatus : ExpenseStatus} {before e : Expense} {now : ℤ}
    (hguard : ExpenseAsRead propertyId id toStatus h db) (hread : (.expense id, b) ∈ reads h)
    (hbefore : expenseOf propertyId id b = some before)
    (hallowed : canTransitionExpense before.status toStatus = true) (he : e ∈ db.expenses)
    (hid : e.id = id) : ExpenseMoves e (ExpensesService.withStatus toStatus now e) := by
  refine ⟨rfl, ?_⟩
  rcases hguard _ hread rfl before (Option.mem_def.mpr hbefore) e he hid with hstill | hthere
  · right
    rw [hstill]
    exact hallowed
  · left
    exact hthere.symm

theorem PoAsRead.moves {toStatus : PoStatusDto} {before po : PurchaseOrder} {now : ℤ}
    (hguard : PoAsRead propertyId id toStatus h db) (hread : (.purchaseOrder id, b) ∈ reads h)
    (hbefore : poOf propertyId id b = some before)
    (hallowed : canTransitionPo before.status toStatus.status = true)
    (hpo : po ∈ db.purchaseOrders) (hid : po.id = id) :
    OrderMoves po (PurchaseOrdersService.withStatus toStatus.status now po) := by
  refine ⟨rfl, ?_⟩
  rcases hguard _ hread rfl before (Option.mem_def.mpr hbefore) po hpo hid with
    hstill | hthere | ⟨hsent, rfl⟩
  · right
    rw [hstill]
    exact hallowed
  · left
    exact hthere.symm
  -- it was sent since it was read, and what is sent may be cancelled
  · right
    rw [hsent]
    rfl

theorem setExpense_follows {f : Expense → Expense} {hf : ∀ e, (f e).id = e.id}
    (hmoves : ∀ e ∈ db.expenses, e.id = id → ExpenseMoves e (f e)) :
    FollowsTables db (setExpense id f hf db) :=
  ⟨(setExpense_rows .refl hmoves).1, fun po hpo => ⟨po, hpo, .refl po⟩⟩

theorem setPo_follows {f : PurchaseOrder → PurchaseOrder} {hf : ∀ po, (f po).id = po.id}
    (hmoves : ∀ po ∈ db.purchaseOrders, po.id = id → OrderMoves po (f po)) :
    FollowsTables db (setPo id f hf db) :=
  ⟨fun e he => ⟨e, he, .refl e⟩, setPo_rows hmoves⟩

variable {call : AccountsCall} {w : HotelDb → HotelDb}

theorem AccountsWrite.follows (hw : AccountsWrite call h w) (hguard : StatusStillRead call w h db) :
    FollowsTables db (w db) := by
  cases hw with
  | edited => exact setExpense_follows fun e _ _ => ⟨rfl, .inl rfl⟩
  | withdrawn => exact setExpense_follows fun e _ _ => ⟨rfl, .inl rfl⟩
  | moved hread hbefore hallowed =>
    exact setExpense_follows fun e he hid =>
      ExpenseAsRead.moves hguard hread hbefore hallowed he hid
  | approved hread hbefore hdraft =>
    refine setExpense_follows fun e he hid =>
      ExpenseAsRead.moves (hguard.1 rfl) hread hbefore ?_ he hid
    rw [hdraft]
    rfl
  | @decided _ _ approve _ _ _ _ hread hbefore hdraft =>
    refine setPo_follows fun po hpo hid => PoAsRead.moves hguard.2 hread hbefore ?_ hpo hid
    rw [hdraft]
    cases approve <;> rfl
  | ordered hread hbefore hallowed =>
    exact setPo_follows fun po hpo hid => PoAsRead.moves hguard hread hbefore hallowed hpo hid

/-- Every expense comes from one whose amount it keeps, unless that one was a draft. -/
def ExpensesKept (db db' : HotelDb) : Prop :=
  ∀ e' ∈ db'.expenses, ∃ e ∈ db.expenses, ExpenseKept e e'

theorem AccountsWrite.keeps (hw : AccountsWrite call h w) (hguard : StatusStillRead call w h db)
    (hedits : EditsDrafts call w h db) : ExpensesKept db (w db) := by
  cases hw with
  | edited =>
    refine (setExpense_rows .refl fun e he hid => ⟨⟨rfl, .inl rfl⟩, fun hleft => ?_⟩).2
    rcases hedits e he hid with hdraft | hsame
    · exact absurd hdraft hleft
    · exact hsame
  | withdrawn => exact (setExpense_rows .refl fun e _ _ => ⟨⟨rfl, .inl rfl⟩, fun _ => rfl⟩).2
  | moved hread hbefore hallowed =>
    exact (setExpense_rows .refl fun e he hid =>
      ⟨ExpenseAsRead.moves hguard hread hbefore hallowed he hid, fun _ => rfl⟩).2
  | approved hread hbefore hdraft =>
    refine (setExpense_rows .refl fun e he hid =>
      ⟨ExpenseAsRead.moves (hguard.1 rfl) hread hbefore ?_ he hid, fun _ => rfl⟩).2
    rw [hdraft]
    rfl
  | decided => exact fun e he => ⟨e, he, .refl e⟩
  | ordered => exact fun e he => ⟨e, he, .refl e⟩

end Writes

/-! ## What is paid -/

theorem AsApproved.step {g : Id → ℤ} {db db' : HotelDb} (hg : AsApproved g db)
    (hkept : ExpensesKept db db') : AsApproved (approvedAmounts g db db') db' := by
  intro e' he' hleft
  rcases hkept e' he' with ⟨e, he, ⟨hid, hmoves⟩, hamount⟩
  have hfind : db.expenses.find? e'.id = some e := Table.find?_eq_some.mpr ⟨he, hid.symm⟩
  have hfind' : db'.expenses.find? e'.id = some e' := Table.find?_eq_some.mpr ⟨he', rfl⟩
  simp only [approvedAmounts, hfind', hfind, Option.map_some, ne_eq, Option.some.injEq]
  by_cases hnew : e'.status = .APPROVED ∧ ¬e.status = .APPROVED
  · rw [if_pos hnew]
  · rw [if_neg hnew]
    -- it was no draft before the step: a draft that left DRAFT has just been approved
    have hbefore : e.status ≠ .DRAFT := by
      intro hdraft
      rcases hmoves with hsame | hallowed
      · exact hleft (hsame.trans hdraft)
      · refine hnew ⟨?_, by simp [hdraft]⟩
        simpa [hdraft, canTransitionExpense, EXPENSE_TRANSITIONS] using hallowed
    rw [hamount hbefore, hid]
    exact hg e he hbefore

theorem AsApproved.paid {g : Id → ℤ} {db db' : HotelDb} (hg : AsApproved g db') :
    PaidAsApproved db g db' := by
  intro e he hpaid
  exact hg e he (by simp [hpaid])

/-- The statuses follow their tables while each is written over the one that was read, and what is
paid is what was approved while moreover the amount of a draft only is edited. -/
theorem paid_as_approved (calls : List AccountsCall) (db : HotelDb) (evs : List Event) :
    ((start db (calls.map AccountsCall.prog)).Throughout
        (GuardedCalls calls StatusStillRead) evs →
      (start db (calls.map AccountsCall.prog)).EveryStep FollowsTables evs) ∧
    ∀ g, AsApproved g db →
      (start db (calls.map AccountsCall.prog)).Throughout (GuardedCalls calls
        fun call w h now => StatusStillRead call w h now ∧ EditsDrafts call w h now) evs →
      Config.EveryStepWith approvedAmounts PaidAsApproved g
        (start db (calls.map AccountsCall.prog)) evs := by
  constructor
  · intro hguarded
    have hsteps := calls_steps (I := fun _ => True) (R := FollowsTables)
      AccountsCall.wp_prog
      (fun db => ⟨fun e he => ⟨e, he, .refl e⟩, fun po hpo => ⟨po, hpo, .refl po⟩⟩)
      (fun call h w now hw _ hguard _ => ⟨trivial, hw.follows hguard⟩) trivial evs hguarded
    exact hsteps.mono fun _ _ h => h.2
  · intro g hstart hguarded
    have hsteps := calls_steps (I := fun _ => True) (R := ExpensesKept)
      AccountsCall.wp_prog (fun db e he => ⟨e, he, .refl e⟩)
      (fun call h w now hw _ hguard _ => ⟨trivial, hw.keeps hguard.1 hguard.2⟩) trivial evs hguarded
    have hpaid : ∀ g db db', AsApproved g db → True ∧ ExpensesKept db db' →
        AsApproved (approvedAmounts g db db') db' ∧
          PaidAsApproved db (approvedAmounts g db db') db' := by
      intro g db db' hg hstep
      have hg' := hg.step hstep.2
      exact ⟨hg', hg'.paid⟩
    exact Config.EveryStep.withLog hpaid evs g _ hstart hsteps

/-! ## An expense that is approved, edited and paid -/

instance (e e' : Expense) : Decidable (ExpenseMoves e e') := by
  unfold ExpenseMoves
  infer_instance

instance (po po' : PurchaseOrder) : Decidable (OrderMoves po po') := by
  unfold OrderMoves
  infer_instance

instance (db db' : HotelDb) : Decidable (FollowsTables db db') := by
  unfold FollowsTables
  infer_instance

instance (db : HotelDb) (g : Id → ℤ) (db' : HotelDb) : Decidable (PaidAsApproved db g db') :=
  inferInstanceAs
    (Decidable (∀ e ∈ db'.expenses, e.status = .PAID → e.amountPaise = g e.id))

instance (g : Id → ℤ) (db : HotelDb) : Decidable (AsApproved g db) :=
  inferInstanceAs (Decidable (∀ _ ∈ _, _))

instance (propertyId id : Id) (toStatus : ExpenseStatus) (h : Trace) (now : HotelDb) :
    Decidable (ExpenseAsRead propertyId id toStatus h now) := by
  unfold ExpenseAsRead
  infer_instance

instance (propertyId id : Id) (toStatus : PoStatusDto) (h : Trace) (now : HotelDb) :
    Decidable (PoAsRead propertyId id toStatus h now) := by
  unfold PoAsRead
  infer_instance

instance (call : AccountsCall) (w : HotelDb → HotelDb) (h : Trace) (now : HotelDb) :
    Decidable (StatusStillRead call w h now) := by
  apply AccountsCall.casesOn (motive := fun call => Decidable (StatusStillRead call w h now)) call
  all_goals intros; unfold StatusStillRead; infer_instance

instance (call : AccountsCall) (w : HotelDb → HotelDb) (h : Trace) (now : HotelDb) :
    Decidable (EditsDrafts call w h now) := by
  apply AccountsCall.casesOn (motive := fun call => Decidable (EditsDrafts call w h now)) call
  all_goals intros; unfold EditsDrafts; infer_instance

/-- One expense and one order, both drafts. -/
def twoDrafts : HotelDb where
  expenses := ⟨[{ id := 7, propertyId := 1, category := .UTILITIES, amountPaise := 5000 }],
    by decide⟩
  purchaseOrders := ⟨[{ id := 8, propertyId := 1, poNumber := 1 }], by decide⟩

/-- The manager approves the expense while the desk approves it and pays it. -/
def approvedTwice : List AccountsCall :=
  [.decide 1 7 true 0, .setStatus 1 7 .APPROVED 0, .setStatus 1 7 .PAID 0]

/-- The manager's approval is written last. -/
def approvedAfterPayment : List Event := [.step 0, .step 1, .step 1, .step 2, .step 2, .step 0]

/-- The order is sent by one and rejected by the other. -/
def sentAndRejected : List AccountsCall := [.setPoStatus 1 8 .SENT 0, .decide 1 8 false 0]

/-- It is sent after it was cancelled. -/
def sentAfterRejection : List Event := [.step 0, .step 1, .step 1, .step 1, .step 0]

/-- The expense is approved, edited and paid. -/
def editedThenPaid : List AccountsCall :=
  [.decide 1 7 true 0, .update 1 7 { amountPaise := some 90000 } 0, .setStatus 1 7 .PAID 0]

def oneByOne : List Event := [.step 0, .step 0, .step 1, .step 1, .step 2, .step 2]

/-- A paid expense becomes APPROVED again and a cancelled order is sent; and an expense that was
approved at 50 rupees is paid at 900. -/
theorem paid_unapproved : ¬StatusesFollow (fun _ _ _ _ => True) ∧
    ¬(start twoDrafts (sentAndRejected.map AccountsCall.prog)).EveryStep FollowsTables
      sentAfterRejection ∧
    ¬NothingElsePaid fun _ _ _ _ => True := by
  refine ⟨fun hlaw => ?_, by decide +kernel, fun hlaw => ?_⟩
  · have hfollows := hlaw approvedTwice twoDrafts approvedAfterPayment (by decide +kernel)
    revert hfollows
    decide +kernel
  · have hpaid := hlaw editedThenPaid twoDrafts (fun _ => 0) oneByOne (by decide +kernel)
      (by decide +kernel)
    revert hpaid
    decide +kernel

/-- The expense is edited as a draft, approved and paid, and the order is sent and cancelled. -/
theorem paid_as_approved_in_turn :
    let calls : List AccountsCall := [.update 1 7 { amountPaise := some 90000 } 0,
      .decide 1 7 true 0, .setStatus 1 7 .PAID 0, .setPoStatus 1 8 .SENT 0,
      .setPoStatus 1 8 .CANCELLED 0]
    let evs : List Event := oneByOne ++ [.step 3, .step 3, .step 4, .step 4]
    (start twoDrafts (calls.map AccountsCall.prog)).EveryStep FollowsTables evs ∧
      Config.EveryStepWith approvedAmounts PaidAsApproved (fun _ => 0)
        (start twoDrafts (calls.map AccountsCall.prog)) evs ∧
      ((start twoDrafts (calls.map AccountsCall.prog)).run evs).map
        (fun c => c.db.expenses.rows.map fun e => (e.status, e.amountPaise)) =
          some [(.PAID, 90000)] :=
  ⟨(paid_as_approved _ twoDrafts _).1 (by decide +kernel),
    (paid_as_approved _ twoDrafts _).2 _ (by decide +kernel) (by decide +kernel),
    by decide +kernel⟩

end Travelo
