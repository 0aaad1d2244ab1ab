import Travelo.Folio.RoomCharge

/-!
# Refunding a bill that went to the room

A refund is a record: the money moved back outside the app, and the line of the bill stays on the
folio. `refund_leaves_charge`: whatever other calls on the folios come between the settlement and
the refund, the guest owes the charge besides what these calls alone lead to.
-/

namespace Travelo

open ReadCommitted FolioService Claims

/-- The settlement of a bill, with its clock and the uuid of its line. -/
structure SpaSettlement where
  lineId : Id
  now : ℤ
  propertyId : Id
  billId : Id
  dto : SettleBillDto
  settledBy : Option Id := none

namespace SpaSettlement

variable (s : SpaSettlement)

def settle : Op (SpaBill × SpaBill) :=
  SpaBillsService.settle s.lineId s.now s.propertyId s.billId s.dto s.settledBy

/-- The bill was settled, the calls were made, and the bill was refunded. -/
def undone (ops : List FolioOp) (now : ℤ) (dto : RefundBillDto) (db : HotelDb) : HotelDb :=
  ((SpaBillsService.refund now s.propertyId s.billId dto).run (runOps ops (s.settle.run db).db)).db

/-- A call that is not about the line of the bill: it brings another uuid and another source, or
names another line. -/
def Beside : FolioOp → Prop
  | .postCharge input id _ => id ≠ s.lineId ∧ input.source ≠ some ("spa_bill", s.billId)
  | .applyDiscount _ id _ => id ≠ s.lineId
  | .voidLine input _ => input.lineId ≠ s.lineId
  | .setLineTaxExempt input _ => input.lineId ≠ s.lineId
  | .recordPayment _ _ => True

instance : (op : FolioOp) → Decidable (s.Beside op)
  | .postCharge _ _ _ =>
    inferInstanceAs (Decidable (_ ∧ _))
  | .applyDiscount _ id _ => inferInstanceAs (Decidable (id ≠ s.lineId))
  | .voidLine _ _ => inferInstanceAs (Decidable (_ ≠ _))
  | .setLineTaxExempt _ _ => inferInstanceAs (Decidable (_ ≠ _))
  | .recordPayment _ _ => .isTrue trivial

end SpaSettlement

/-! ## The line at the end -/

theorem exists_clash_run {row : FolioLineItem} {e : Effect} (h : (Effect.enterLine row).Apart e)
    (a : Account) : (∃ l ∈ (e.run a).lines, sameLine row l = true) ↔
      ∃ l ∈ a.lines, sameLine row l = true := by
  cases e with
  | enterLine row' => exact exists_clash_enter h
  | editLine e => exact exists_clash_map (e.sameLine_apply row)
  | enterPayment p => exact Iff.rfl

theorem exists_clash_foldl {row : FolioLineItem} {ops : List FolioOp} {a : Account}
    (h : ∀ op ∈ ops, (Effect.enterLine row).Apart op.effect) :
    (∃ l ∈ (ops.foldl (fun a op => op.effect.run a) a).lines, sameLine row l = true) ↔
      ∃ l ∈ a.lines, sameLine row l = true := by
  induction ops generalizing a with
  | nil => exact Iff.rfl
  | cons op ops ih =>
    have hrest := ih (a := op.effect.run a) fun o ho => h o (List.mem_cons_of_mem op ho)
    exact hrest.trans (exists_clash_run (h op List.mem_cons_self) a)

theorem foldl_enterLine {row : FolioLineItem} {ops : List FolioOp} {a : Account}
    (h : ∀ op ∈ ops, (Effect.enterLine row).Apart op.effect) :
    ops.foldl (fun a op => op.effect.run a) (Effect.run a (.enterLine row)) =
      Effect.run (ops.foldl (fun a op => op.effect.run a) a) (.enterLine row) := by
  induction ops generalizing a with
  | nil => rfl
  | cons op ops ih =>
    have hcomm := Effect.run_comm (h op List.mem_cons_self) a
    rw [List.foldl_cons, hcomm]
    exact ih fun o ho => h o (List.mem_cons_of_mem op ho)

/-! ## The refund -/

theorem refund_keeps (now : ℤ) (propertyId billId : Id) (dto : RefundBillDto) :
    (SpaBillsService.refund now propertyId billId dto).Keeps Undisturbed := by
  refine .bind (.bind (.select _ _) fun _ => .orThrow _ _) fun b => .bind (.throwIf _ _) fun _ => ?_
  refine .bind (.lift _) fun _ => .bind (.write _ _ fun _ => ⟨rfl, rfl, rfl, rfl⟩) fun _ => ?_
  exact .bind (.orThrow _ _) fun _ => .pure _

theorem Undisturbed.balance {db db' : HotelDb} (h : Undisturbed db db') (g : Id) :
    Folio.balance g db' = Folio.balance g db := by
  obtain ⟨hcharge, htax⟩ := Folio.room_congr g h.reservations h.taxes
  rw [Folio.balance_eq, Folio.balance_eq, hcharge, htax, h.account]

theorem balance_runOps (g : Id) (ops : List FolioOp) (db : HotelDb) :
    Folio.balance g (runOps ops db) = Folio.roomCharge g db + Folio.roomTax g db +
      (ops.foldl (fun a op => op.effect.run a) db.account).due g := by
  obtain ⟨hcharge, htax⟩ := room_runOps g db ops
  rw [Folio.balance_eq, hcharge, htax, account_runOps]

theorem SpaSettlement.Beside.apart {s : SpaSettlement} {op : FolioOp} {input : PostChargeInput}
    (h : s.Beside op) (hsource : input.source = some ("spa_bill", s.billId)) :
    (Effect.enterLine (newLine input s.lineId true s.now)).Apart op.effect := by
  have hother : ∀ row : FolioLineItem, row.id ≠ s.lineId →
      ¬(row.sourceType = some "spa_bill" ∧ row.sourceId = some s.billId) →
        sameLine (newLine input s.lineId true s.now) row = false := by
    intro row hid hother
    by_contra hsame
    rcases (sameLine_newLine hsource row).mp (by simpa using hsame) with hid' | hsource'
    · exact hid hid'
    · exact hother hsource'
  cases op with
  | postCharge input' id now =>
    refine hother _ h.1 fun hboth => h.2 ?_
    obtain ⟨htype, hkey⟩ := hboth
    have htype' : input'.sourceType = some "spa_bill" := htype
    have hkey' : input'.sourceId = some s.billId := hkey
    simp [PostChargeInput.source, htype', hkey']
  | applyDiscount input' id now =>
    refine hother _ h fun hboth => ?_
    cases hboth.1
  | voidLine input' now => exact Ne.symm h
  | setLineTaxExempt input' now => exact Ne.symm h
  | recordPayment input' now => trivial

/-- Refunding a bill that was settled to a room moves no balance: the guest still owes the charge
with its tax, besides what the calls in between lead to. -/
theorem refund_leaves_charge (s : SpaSettlement) (g : Id) (ops : List FolioOp) (now : ℤ)
    (dto : RefundBillDto) (db : HotelDb) (out : SpaBill × SpaBill)
    (hroom : s.dto.method = .ROOM_CHARGE ∧ s.dto.reservationId = some g)
    (hok : (s.settle.run db).res = .ok out) (hbeside : ∀ op ∈ ops, s.Beside op) :
    readBalance g (s.undone ops now dto db) = readBalance g (runOps ops (s.settle.run db).db) ∧
      ∃ b ∈ db.spaBills.find? s.billId, readBalance g (s.undone ops now dto db) =
        (readBalance g (runOps ops db)).map fun balance => balance +
          if LineThere ("spa_bill", s.billId) s.lineId db then 0
          else b.totalPaise + roundDiv (b.totalPaise * 18) 100 := by
  obtain ⟨b, name, after, hafter, hb, -, -, hposts⟩ := spa_posts hroom.1 hroom.2 hok
  have hsettled : (s.settle.run db).db = after := hafter
  have hrefund : Undisturbed (runOps ops after) (s.undone ops now dto db) := by
    rw [SpaSettlement.undone, hsettled, Prog.run_db]
    exact (refund_keeps now s.propertyId s.billId dto).eval_idle Undisturbed.refl Undisturbed.trans _
  rw [hsettled, readBalance_eq, readBalance_eq, readBalance_eq, hrefund.balance]
  refine ⟨rfl, b, hb, ?_⟩
  -- the line could as well be entered after the calls
  let input := SpaBillsService.spaCharge s.propertyId b g name s.settledBy
  have hid : b.id = s.billId := key_of_find? hb
  have hsource : input.source = some ("spa_bill", s.billId) := by
    rw [← hid]
    rfl
  have hapart : ∀ op ∈ ops,
      (Effect.enterLine (newLine input s.lineId true s.now)).Apart op.effect :=
    fun op hop => (hbeside op hop).apart hsource
  have hthere : LineThere ("spa_bill", s.billId) s.lineId db ↔
      ∃ l ∈ (ops.foldl (fun a op => op.effect.run a) db.account).lines,
        sameLine (newLine input s.lineId true s.now) l = true :=
    (lineThere_iff hsource).trans (exists_clash_foldl hapart).symm
  have hdue : (ops.foldl (fun a op => op.effect.run a) after.account).due g =
      (ops.foldl (fun a op => op.effect.run a) db.account).due g +
        if LineThere ("spa_bill", s.billId) s.lineId db then 0
        else b.totalPaise + roundDiv (b.totalPaise * 18) 100 := by
    have htax := newLine_tax input s.lineId s.now ⟨rfl, rfl⟩ (by intro h; cases h)
    have henter := due_enter (g := g) hthere rfl rfl
    rw [htax] at henter
    rw [hposts.account]
    exact (congrArg (Account.due g) (foldl_enterLine hapart)).trans henter
  obtain ⟨hcharge, htax⟩ := hposts.room g
  rw [balance_runOps, balance_runOps, hcharge, htax, hdue]
  simp only [Except.map, Except.ok.injEq]
  omega

/-! ## A massage that is refunded -/

/-- It goes to the room. -/
def massage : SpaSettlement where
  lineId := 9
  now := 0
  propertyId := 1
  billId := 4
  dto := { method := .ROOM_CHARGE, reservationId := some 1 }

/-- The guest buys a towel at ₹200 and pays ₹500. -/
def meanwhile : List FolioOp :=
  [.postCharge { reservationId := 1, propertyId := 1, kind := .MISC, description := "Towel",
                 amountPaise := 20000 } 10 1,
    .recordPayment { reservationId := 1, propertyId := 1, method := .CARD, amountPaise := 50000 } 2]

/-- The massage at ₹105 is refunded, and the ₹123.90 for it stay on the folio. -/
theorem refund_undoes_nothing :
    ((massage.settle.run (eveningOf 0 10500)).res.map fun r => r.2.status) = .ok .PAID ∧
      ((massage.undone meanwhile 3 { reason := "pain" } (eveningOf 0 10500)).spaBills.rows.map
        (·.status)) = [.REFUNDED] ∧
      readBalance 1 (massage.undone meanwhile 3 { reason := "pain" } (eveningOf 0 10500)) =
        (readBalance 1 (runOps meanwhile (eveningOf 0 10500))).map (· + 12390) ∧
      readBalance 1 (massage.undone meanwhile 3 { reason := "pain" } (eveningOf 0 10500)) ≠
        readBalance 1 (runOps meanwhile (eveningOf 0 10500)) := by
  decide

/-- In general. -/
theorem refunded_massage :
    readBalance 1 (massage.undone meanwhile 3 { reason := "pain" } (eveningOf 0 10500)) =
        readBalance 1 (runOps meanwhile (massage.settle.run (eveningOf 0 10500)).db) ∧
      ∃ b ∈ (eveningOf 0 10500).spaBills.find? 4,
        readBalance 1 (massage.undone meanwhile 3 { reason := "pain" } (eveningOf 0 10500)) =
          (readBalance 1 (runOps meanwhile (eveningOf 0 10500))).map fun balance => balance +
            if LineThere ("spa_bill", 4) 9 (eveningOf 0 10500) then 0
            else b.totalPaise + roundDiv (b.totalPaise * 18) 100 :=
  refund_leaves_charge massage 1 meanwhile 3 { reason := "pain" } (eveningOf 0 10500) _ (by decide)
    rfl (by decide)

end Travelo
