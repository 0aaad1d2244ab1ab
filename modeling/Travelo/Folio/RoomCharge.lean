import Travelo.Folio.Conservation
import Travelo.Restaurant.Orders
import Travelo.Spa

/-!
# Charging a bill to the room

A restaurant order and a spa bill that are settled to a room post one line to the folio: the
total of the bill, on which the folio puts tax once more.
-/

namespace Travelo

open ReadCommitted FolioService Claims

/-! ## One posting -/

/-- The folio has a line of the source, or of the uuid. -/
def LineThere (source : String × Id) (lineId : Id) (db : HotelDb) : Prop :=
  ∃ l ∈ db.folioLineItems, l.id = lineId ∨
    (l.sourceType = some source.1 ∧ l.sourceId = some source.2)

instance (source : String × Id) (lineId : Id) (db : HotelDb) :
    Decidable (LineThere source lineId db) :=
  inferInstanceAs (Decidable (∃ l ∈ db.folioLineItems, _))

/-- Between the states the folios change by one posting, and the rooms do not. -/
structure Posts (input : PostChargeInput) (id : Id) (now : ℤ) (db db' : HotelDb) : Prop where
  account : db'.account = (FolioOp.postCharge input id now).effect.run db.account
  room : ∀ g, Folio.roomCharge g db' = Folio.roomCharge g db ∧
    Folio.roomTax g db' = Folio.roomTax g db

section Posting

variable {g : Id} {a : Account} {db db' : HotelDb} {input : PostChargeInput} {id : Id} {now : ℤ}
  {row : FolioLineItem}

theorem due_enter {there : Prop} [Decidable there]
    (hthere : there ↔ ∃ l ∈ a.lines, sameLine row l = true) (hlive : row.voidedAt = none)
    (hres : row.reservationId = g) : (Effect.run a (.enterLine row)).due g =
      a.due g + if there then 0 else row.amountPaise + row.taxPaise := by
  by_cases h : there
  · obtain ⟨l, hl, hsame⟩ := hthere.mp h
    rw [if_pos h, Int.add_zero]
    simp only [Effect.run, enter_of_clash hl hsame]
  · have hfree : ∀ l ∈ a.lines, sameLine row l = false := by
      intro l hl
      by_contra hsame
      exact h (hthere.mpr ⟨l, hl, by simpa using hsame⟩)
    have hadd : (Effect.run a (.enterLine row)).live g = row ::ₘ a.live g := by
      simp [Effect.run, enter_of_free hfree, Account.live, Multiset.filter_cons_of_pos, hres, hlive]
    have hpaid : (Effect.run a (.enterLine row)).payments = a.payments := rfl
    unfold Account.due
    rw [if_neg h, hadd, hpaid, Multiset.map_cons, Multiset.sum_cons]
    omega

theorem sameLine_newLine {source : String × Id} (hsource : input.source = some source)
    (l : FolioLineItem) : sameLine (newLine input id true now) l = true ↔
      l.id = id ∨ (l.sourceType = some source.1 ∧ l.sourceId = some source.2) := by
  have hboth : input.sourceType = some source.1 ∧ input.sourceId = some source.2 := by
    unfold PostChargeInput.source at hsource
    split at hsource
    · next ht hi =>
      split at hsource
      · cases hsource
      · cases hsource
        exact ⟨ht, hi⟩
    · cases hsource
  simp only [sameLine, newLine, hboth.1, hboth.2, Option.isSome_some, Bool.true_and,
    Bool.or_eq_true, and_decide_eq]
  constructor
  · rintro (h | ⟨h, h'⟩)
    · exact .inl h.symm
    · exact .inr ⟨h.symm, h'.symm⟩
  · rintro (h | ⟨h, h'⟩)
    · exact .inl h.symm
    · exact .inr ⟨h.symm, h'.symm⟩

theorem lineThere_iff {source : String × Id} (hsource : input.source = some source) :
    LineThere source id db ↔
      ∃ l ∈ db.account.lines, sameLine (newLine input id true now) l = true := by
  constructor
  · rintro ⟨l, hl, hthere⟩
    exact ⟨l, hl, (sameLine_newLine hsource l).mpr hthere⟩
  · rintro ⟨l, hl, hclash⟩
    exact ⟨l, hl, (sameLine_newLine hsource l).mp hclash⟩

/-- A posting with a source raises the balance by the amount and its tax, unless the line is
there. -/
theorem Posts.balance {source : String × Id} (h : Posts input id now db db')
    (hsource : input.source = some source) :
    Folio.balance input.reservationId db' = Folio.balance input.reservationId db +
      if LineThere source id db then 0 else
        input.amountPaise + (newLine input id true now).taxPaise := by
  obtain ⟨hcharge, htax⟩ := h.room input.reservationId
  have hdue : (Effect.run db.account (.enterLine (newLine input id true now))).due
      input.reservationId = db.account.due input.reservationId +
        if LineThere source id db then 0 else
          input.amountPaise + (newLine input id true now).taxPaise :=
    due_enter (lineThere_iff hsource) rfl rfl
  rw [Folio.balance_eq, Folio.balance_eq, hcharge, htax, h.account]
  show _ + (Effect.run db.account (.enterLine (newLine input id true now))).due
    input.reservationId = _
  rw [hdue]
  omega

theorem eval_posting (db : HotelDb) (input : PostChargeInput) (id : Id) (now : ℤ) :
    ∃ line lines, (postCharge input id now).eval .idle db =
        (.ok line, .idle, { db with folioLineItems := lines }) ∧
      Posts input id now db { db with folioLineItems := lines } := by
  obtain ⟨line, heval⟩ := eval_postCharge db input id now
  have hlines : ∃ lines, (if (sourceLine input.source db).isSome then db
      else (insertLine (newLine input id true now) db).1) = { db with folioLineItems := lines } := by
    unfold insertLine
    split
    · exact ⟨_, rfl⟩
    · split <;> exact ⟨_, rfl⟩
  obtain ⟨lines, hlines⟩ := hlines
  rw [hlines] at heval
  have haccount := account_postCharge db input id now
  rw [heval] at haccount
  exact ⟨line, lines, heval, haccount, fun g => Folio.room_congr g rfl rfl⟩

end Posting

/-! ## The restaurant -/

/-- The orders and the folios stay. -/
structure Undisturbed (db db' : HotelDb) : Prop where
  account : db'.account = db.account
  reservations : db'.reservations = db.reservations
  taxes : db'.propertyTaxes = db.propertyTaxes
  orders : db'.restaurantOrders = db.restaurantOrders

theorem Undisturbed.refl (db : HotelDb) : Undisturbed db db := ⟨rfl, rfl, rfl, rfl⟩

theorem Undisturbed.trans (db db' db'' : HotelDb) (h : Undisturbed db db')
    (h' : Undisturbed db' db'') : Undisturbed db db'' where
  account := h'.account.trans h.account
  reservations := h'.reservations.trans h.reservations
  taxes := h'.taxes.trans h.taxes
  orders := h'.orders.trans h.orders

theorem Posts.undisturbed {input : PostChargeInput} {id : Id} {now : ℤ} {db db' db'' : HotelDb}
    (h : Posts input id now db db') (h' : Undisturbed db' db'') : Posts input id now db db'' where
  account := h'.account.trans h.account
  room g := by
    obtain ⟨hcharge, htax⟩ := Folio.room_congr g h'.reservations h'.taxes
    obtain ⟨hcharge', htax'⟩ := h.room g
    exact ⟨hcharge.trans hcharge', htax.trans htax'⟩

section Order

variable {env : RestaurantEnv} {propertyId orderId g : Id} {dto : SettleOrderDto}
  {settledBy : Option Id} {db : HotelDb}

theorem afterPosting_keeps (o : RestaurantOrder) (c : Prop) [Decidable c] :
    (do
      when c do
        OrdersService.depleteStock propertyId orderId settledBy env.now
        OrdersService.setTableStatus o .OPEN env.now
      OrdersService.refreshed propertyId orderId).Keeps Undisturbed := by
  refine .bind (.when _ (.bind ?_ fun _ => ?_)) fun _ => refreshed_keeps _ _
  · exact depleteStock_keeps (fun _ _ _ => ⟨rfl, rfl, rfl, rfl⟩) _ _ _ _
  · exact setTableStatus_keeps (fun _ _ => ⟨rfl, rfl, rfl, rfl⟩) _ _ _

theorem eval_paymentOf_room {o : RestaurantOrder} {p : OrdersService.Payment} {remaining : ℤ}
    {t : Tx HotelDb} {db' : HotelDb} (hm : dto.method = .ROOM_CHARGE)
    (hg : dto.reservationId = some g)
    (h : (OrdersService.paymentOf propertyId o dto remaining).eval .idle db = (.ok p, t, db')) :
    p = ⟨some g, o.corporateAccountId, remaining⟩ ∧ .idle = t ∧ db = db' := by
  simp only [OrdersService.paymentOf, hm, hg, eval_simps, Option.elim_some] at h
  cases hres : (db.reservations.find? g).filter fun r =>
      r.propertyId = propertyId && r.status = .CHECKED_IN with
  | none =>
    rw [hres] at h
    cases h
  | some r =>
    rw [hres] at h
    cases h
    have hid : r.id = g := key_of_find? (Option.eq_some_of_filter_eq_some hres)
    rw [hid]
    exact ⟨rfl, rfl, rfl⟩

/-- Settling an order to a room posts its total, and the order is paid what was left. -/
theorem order_posts (hm : dto.method = .ROOM_CHARGE) (hg : dto.reservationId = some g)
    {out : OrderDto}
    (hok : ((OrdersService.settle env propertyId orderId dto settledBy).run db).res = .ok out) :
    ∃ o o' after, ((OrdersService.settle env propertyId orderId dto settledBy).run db).db = after ∧
      db.restaurantOrders.find? orderId = some o ∧
      after.restaurantOrders.find? orderId = some o' ∧
      Posts (OrdersService.roomCharge propertyId o g settledBy) (env.uuid 0) env.now db after ∧
      o'.totalPaise = o.totalPaise ∧
      o'.paidPaise = o.paidPaise + max 0 (o.totalPaise - o.paidPaise) := by
  rw [Prog.run_res] at hok
  rw [Prog.run_db]
  obtain ⟨t, after, heval, hafter⟩ := Prog.Keeps.eval_transaction_ok (R := fun _ _ => True) hok (by
    refine .bind (requireOrder_keeps _ _) fun o => .bind (.throwIf _ _) fun _ => ?_
    refine .bind (paymentOf_keeps _ _ _ _) fun p => .bind (.write _ _ fun _ => trivial) fun _ => ?_
    refine .bind (.write _ _ fun _ => trivial) fun _ => ?_
    refine .bind ((postPayment_keeps _ _ _ _ _ _).mono fun _ _ _ => trivial) fun _ => ?_
    exact (afterPosting_keeps o _).mono fun _ _ _ => trivial)
  obtain ⟨o, t₁, db₁, horder, heval⟩ := eval_bind_ok heval
  obtain ⟨hfound, rfl, rfl⟩ := Prog.eval_found horder
  obtain ⟨_, t₂, db₂, hguard, heval⟩ := eval_bind_ok heval
  obtain ⟨-, rfl, rfl⟩ := eval_passed hguard
  obtain ⟨p, t₃, db₃, hpayment, heval⟩ := eval_bind_ok heval
  obtain ⟨rfl, rfl, rfl⟩ := eval_paymentOf_room hm hg hpayment
  obtain ⟨_, t₄, db₄, hadd, heval⟩ := eval_bind_ok heval
  obtain ⟨_, t₅, db₅, hset, heval⟩ := eval_bind_ok heval
  obtain ⟨-, rfl, rfl⟩ := eval_written hadd
  obtain ⟨-, rfl, rfl⟩ := eval_written hset
  obtain ⟨_, t₆, db₆, hpost, heval⟩ := eval_bind_ok heval
  -- the posting, on the state with the payment
  simp only [OrdersService.postPayment, hm, eval_forSome_some, eval_bind] at hpost
  obtain ⟨line, lines, hline, hposts⟩ := eval_posting (OrdersService.setOrder orderId _ _ _)
    (OrdersService.roomCharge propertyId o g settledBy) (env.uuid 0) env.now
  rw [hline] at hpost
  cases hpost
  -- and what follows it
  have hrest := Prog.Keeps.relates Undisturbed.refl Undisturbed.trans heval (afterPosting_keeps o _)
  have hstored : db.restaurantOrders.find? orderId = some o := (orderOf_some hfound).1
  have hnew : after.restaurantOrders.find? orderId = some (OrdersService.settledOrder o dto
      ⟨some g, o.corporateAccountId, max 0 (o.totalPaise - o.paidPaise)⟩
      (o.paidPaise + max 0 (o.totalPaise - o.paidPaise)) settledBy env.now o) := by
    rw [hrest.orders]
    refine (find?_setOrder_self orderId _ ?_ _).trans (congrArg _ hstored)
    exact OrdersService.settledOrder_id _ _ _ _ _ _
  exact ⟨o, _, after, congrArg (fun r => r.2.2) hafter, hstored, hnew,
    Posts.undisturbed ⟨hposts.account, hposts.room⟩ hrest, rfl, rfl⟩

end Order

/-! ## The spa -/

section Spa

open SpaBillsService

variable {lineId g : Id} {now : ℤ} {propertyId billId : Id} {dto : SettleBillDto}
  {settledBy : Option Id} {db : HotelDb}

theorem eval_roomOf_room {res : Option Id} {t : Tx HotelDb} {db' : HotelDb}
    (hm : dto.method = .ROOM_CHARGE) (hg : dto.reservationId = some g)
    (h : (roomOf propertyId dto).eval .idle db = (.ok res, t, db')) :
    res = some g ∧ .idle = t ∧ db = db' := by
  rw [roomOf, if_pos hm, hg] at h
  simp only [eval_simps, Option.elim_some] at h
  cases hres : ((db.reservations.find? g).filter fun r => r.propertyId = propertyId).filter
      fun r => r.status = .CHECKED_IN with
  | none =>
    rw [hres] at h
    cases h
  | some r =>
    rw [hres] at h
    cases h
    have hfound := Option.eq_some_of_filter_eq_some (Option.eq_some_of_filter_eq_some hres)
    have hid : r.id = g := key_of_find? hfound
    rw [hid]
    exact ⟨rfl, rfl, rfl⟩

theorem roomOf_keeps {R : HotelDb → HotelDb → Prop} : (roomOf propertyId dto).Keeps R := by
  refine .ite _ (.bind (.orThrow _ _) fun _ => .bind (.select _ _) fun _ => ?_) (.pure _)
  exact .bind (.orThrow _ _) fun _ => .pure _

theorem billOf_some {b : SpaBill} (h : billOf propertyId billId db = some b) :
    db.spaBills.find? billId = some b ∧ b.id = billId ∧ b.propertyId = propertyId := by
  obtain ⟨hfind, hproperty⟩ := Option.filter_eq_some_iff.mp h
  exact ⟨hfind, key_of_find? hfind, by simpa using hproperty⟩

theorem find?_setBill {f : SpaBill → SpaBill} (hf : ∀ b, (f b).id = b.id) {b : SpaBill}
    (h : billOf propertyId billId db = some b) :
    (setBill propertyId billId f hf db).spaBills.find? billId = some (f b) := by
  obtain ⟨hfind, hid, hproperty⟩ := billOf_some h
  show (db.spaBills.update _ f hf).find? billId = _
  rw [find?_update, hfind]
  simp [hid, hproperty]

theorem spa_posts (hm : dto.method = .ROOM_CHARGE) (hg : dto.reservationId = some g)
    {out : SpaBill × SpaBill}
    (hok : ((settle lineId now propertyId billId dto settledBy).run db).res = .ok out) :
    ∃ b name after, ((settle lineId now propertyId billId dto settledBy).run db).db = after ∧
      db.spaBills.find? billId = some b ∧ b.status = .UNPAID ∧
      after.spaBills.find? billId = some (settledBill dto (some g) settledBy now b) ∧
      Posts (spaCharge propertyId b g name settledBy) lineId now db after := by
  rw [Prog.run_res] at hok
  rw [Prog.run_db]
  obtain ⟨t, after, heval, hafter⟩ := Prog.Keeps.eval_transaction_ok (R := fun _ _ => True) hok (by
    refine .bind (.bind (.select _ _) fun _ => .orThrow _ _) fun b => .bind (.throwIf _ _) fun _ => ?_
    refine .bind (.lift _) fun _ => .bind roomOf_keeps fun _ => ?_
    refine .bind (.write _ _ fun _ => trivial) fun _ => .bind (.forSome _ fun _ => ?_) fun _ => ?_
    · refine .bind (.select _ _) fun _ => .bind ?_ fun _ => .pure _
      exact (postCharge_keeps _ _ _).mono fun _ _ _ => trivial
    · exact .bind (.orThrow _ _) fun _ => .pure _)
  obtain ⟨b, t₁, db₁, hbill, heval⟩ := eval_bind_ok heval
  obtain ⟨hfound, rfl, rfl⟩ := Prog.eval_found hbill
  obtain ⟨_, t₂, db₂, hguard, heval⟩ := eval_bind_ok heval
  obtain ⟨hunpaid, rfl, rfl⟩ := eval_passed hguard
  have hstatus : b.status = .UNPAID := by simpa using hunpaid
  obtain ⟨_, t₂, db₂, hallowed, heval⟩ := eval_bind_ok heval
  obtain ⟨-, rfl, rfl⟩ := eval_lifted hallowed
  obtain ⟨res, t₃, db₃, hroom, heval⟩ := eval_bind_ok heval
  obtain ⟨rfl, rfl, rfl⟩ := eval_roomOf_room hm hg hroom
  obtain ⟨row, t₄, db₄, hset, heval⟩ := eval_bind_ok heval
  obtain ⟨rfl, rfl, rfl⟩ := eval_written hset
  obtain ⟨_, t₅, db₅, hpost, heval⟩ := eval_bind_ok heval
  -- the posting, on the state with the bill paid
  simp only [eval_forSome_some, eval_simps] at hpost
  obtain ⟨line, lines, hline, hposts⟩ := eval_posting (setBill propertyId billId _ _ _)
    (spaCharge propertyId b g _ settledBy) lineId now
  rw [hline] at hpost
  cases hpost
  -- and what follows it writes nothing
  obtain ⟨_, t₆, db₆, hrow, heval⟩ := eval_bind_ok heval
  rw [eval_orThrow, hfound] at hrow
  cases hrow
  cases heval
  refine ⟨b, _, _, congrArg (fun r => r.2.2) hafter, (billOf_some hfound).1, hstatus, ?_,
    hposts.account, hposts.room⟩
  exact find?_setBill (settledBill_id _ _ _ _) hfound

end Spa

/-! ## Both -/

/-- A bill that is settled. -/
inductive RoomBill where
  | order (env : RestaurantEnv) (propertyId orderId : Id) (dto : SettleOrderDto)
      (settledBy : Option Id)
  | spa (lineId : Id) (now : ℤ) (propertyId billId : Id) (dto : SettleBillDto)
      (settledBy : Option Id)

namespace RoomBill

def prog : RoomBill → Op Unit
  | .order env propertyId orderId dto settledBy => do
    let _ ← OrdersService.settle env propertyId orderId dto settledBy
  | .spa lineId now propertyId billId dto settledBy => do
    let _ ← SpaBillsService.settle lineId now propertyId billId dto settledBy

/-- It is charged to the stay. -/
def ToRoom (g : Id) : RoomBill → Prop
  | .order _ _ _ dto _ => dto.method = .ROOM_CHARGE ∧ dto.reservationId = some g
  | .spa _ _ _ _ dto _ => dto.method = .ROOM_CHARGE ∧ dto.reservationId = some g

/-- What is owed on the bill: its total less what was paid. -/
def owed (db : HotelDb) : RoomBill → ℤ
  | .order _ _ orderId _ _ =>
    ((db.restaurantOrders.find? orderId).map fun o => o.totalPaise - o.paidPaise).getD 0
  | .spa _ _ _ billId _ _ =>
    ((db.spaBills.find? billId).map fun b => if b.status = .UNPAID then b.totalPaise else 0).getD 0

/-- The balance of the stay rises by what is owed on the bill, of which nothing is left. -/
def MovesOwed (c : RoomBill) (g : Id) (db : HotelDb) : Prop :=
  readBalance g (c.prog.run db).db = (readBalance g db).map (· + c.owed db) ∧
    c.owed (c.prog.run db).db = 0

/-- Nothing was paid in part and the bill is too small for a paisa of GST; or, with its line
there already, nothing is owed. An order's paid sum is within its total. -/
def Exact (db : HotelDb) : RoomBill → Prop
  | .order env _ orderId _ _ => ∀ o ∈ db.restaurantOrders.find? orderId,
    o.paidPaise ≤ o.totalPaise ∧
      if LineThere ("restaurant_order", orderId) (env.uuid 0) db then o.paidPaise = o.totalPaise
      else -10 ≤ o.totalPaise + 20 * o.paidPaise ∧ o.totalPaise + 20 * o.paidPaise < 10
  | .spa lineId _ _ billId _ _ => ∀ b ∈ db.spaBills.find? billId,
    if LineThere ("spa_bill", billId) lineId db then b.totalPaise = 0
    else -2 ≤ b.totalPaise ∧ b.totalPaise ≤ 2

end RoomBill

theorem newLine_tax (input : PostChargeInput) (id : Id) (now : ℤ)
    (hplain : input.taxCategory = none ∧ input.taxExempt = false) (hkind : input.kind ≠ .ADJUSTMENT) :
    (newLine input id true now).taxPaise =
      roundDiv (input.amountPaise * if input.kind = .RESTAURANT then 5 else 18) 100 := by
  cases hk : input.kind with
  | RESTAURANT =>
    simp [newLine, hk, hplain.1, hplain.2, categoryFor, lineTax, computeGstForCategory, computeGst,
      resolveGstRate, slabsFor, RESTAURANT_GST_SLABS]
  | ADJUSTMENT => exact absurd hk hkind
  | SPA =>
    simp [newLine, hk, hplain.1, hplain.2, categoryFor, lineTax, computeGstForCategory, computeGst,
      resolveGstRate, slabsFor, OTHER_GST_SLABS]
  | MISC =>
    simp [newLine, hk, hplain.1, hplain.2, categoryFor, lineTax, computeGstForCategory, computeGst,
      resolveGstRate, slabsFor, OTHER_GST_SLABS]

/-- A bill charged to the room moves exactly what is owed on it when it carries no GST of a paisa
and nothing was paid in part, or when its line is there and nothing is owed, and only then. -/
theorem roomCharge_moves_iff (c : RoomBill) (g : Id) (db : HotelDb) (hroom : c.ToRoom g)
    (hok : (c.prog.run db).res = .ok ()) : c.MovesOwed g db ↔ c.Exact db := by
  unfold RoomBill.MovesOwed
  rw [readBalance_eq, readBalance_eq]
  have hbalance : ∀ b b' n : ℤ, ((.ok b' : Except Err ℤ) = Except.map (· + n) (.ok b)) ↔
      b' = b + n := by
    intro b b' n
    simp [Except.map]
  rw [hbalance]
  cases c with
  | order env propertyId orderId dto settledBy =>
    obtain ⟨out, hok⟩ := Prog.run_discard_ok hok
    obtain ⟨o, o', after, hafter, ho, ho', hposts, htotal, hpaid⟩ :=
      order_posts hroom.1 hroom.2 hok
    have hid : o.id = orderId := key_of_find? ho
    have hsource : (OrdersService.roomCharge propertyId o g settledBy).source =
        some ("restaurant_order", orderId) := by
      rw [← hid]
      rfl
    have hrise : Folio.balance g after = Folio.balance g db +
        if LineThere ("restaurant_order", orderId) (env.uuid 0) db then 0
        else o.totalPaise + roundDiv (o.totalPaise * 5) 100 := by
      refine (hposts.balance hsource).trans ?_
      rw [newLine_tax _ _ _ ⟨rfl, rfl⟩ (by intro h; cases h)]
      rfl
    have hrun : ((RoomBill.prog (.order env propertyId orderId dto settledBy)).run db).db = after :=
      (Prog.run_discard_db _).trans hafter
    rw [hrun, hrise]
    simp only [RoomBill.owed, RoomBill.Exact, ho, ho', Option.map_some, Option.getD_some,
      Option.mem_def, Option.some.injEq, forall_eq', htotal, hpaid, roundDiv]
    by_cases hthere : LineThere ("restaurant_order", orderId) (env.uuid 0) db
    · rw [if_pos hthere, if_pos hthere]
      omega
    · rw [if_neg hthere, if_neg hthere]
      omega
  | spa lineId now propertyId billId dto settledBy =>
    obtain ⟨out, hok⟩ := Prog.run_discard_ok hok
    obtain ⟨b, name, after, hafter, hb, hunpaid, hb', hposts⟩ := spa_posts hroom.1 hroom.2 hok
    have hid : b.id = billId := key_of_find? hb
    have hsource : (SpaBillsService.spaCharge propertyId b g name settledBy).source =
        some ("spa_bill", billId) := by
      rw [← hid]
      rfl
    have hrise : Folio.balance g after = Folio.balance g db +
        if LineThere ("spa_bill", billId) lineId db then 0
        else b.totalPaise + roundDiv (b.totalPaise * 18) 100 := by
      refine (hposts.balance hsource).trans ?_
      rw [newLine_tax _ _ _ ⟨rfl, rfl⟩ (by intro h; cases h)]
      rfl
    have hrun : ((RoomBill.prog (.spa lineId now propertyId billId dto settledBy)).run db).db =
        after := (Prog.run_discard_db _).trans hafter
    rw [hrun, hrise]
    simp only [RoomBill.owed, RoomBill.Exact, hb, hb', Option.map_some, Option.getD_some,
      Option.mem_def, Option.some.injEq, forall_eq', hunpaid, SpaBillsService.settledBill, roundDiv,
      reduceCtorEq, if_true, if_false, and_true]
    by_cases hthere : LineThere ("spa_bill", billId) lineId db
    · rw [if_pos hthere, if_pos hthere]
      omega
    · rw [if_neg hthere, if_neg hthere]
      omega

/-! ## A dinner and a massage -/

instance : (c : RoomBill) → (g : Id) → Decidable (c.ToRoom g)
  | .order _ _ _ _ _, _ =>
    inferInstanceAs (Decidable (_ ∧ _))
  | .spa _ _ _ _ _ _, _ =>
    inferInstanceAs (Decidable (_ ∧ _))

instance (c : RoomBill) (g : Id) (db : HotelDb) : Decidable (c.MovesOwed g db) :=
  inferInstanceAs (Decidable (_ ∧ _))

/-- A guest in house, with a dinner of ₹105 on the way and a massage at `spaPaise`. -/
def eveningOf (paidPaise spaPaise : ℤ) : HotelDb :=
  { ReservationsService.oneNight 100000 with
    restaurantOrders := ⟨[{ id := 3, propertyId := 1, orderNumber := 1, status := .BILLED,
                            subtotalPaise := 10000, taxPaise := 500, totalPaise := 10500,
                            paidPaise }], by simp⟩
    spaBills := ⟨[{ id := 4, propertyId := 1, appointmentId := 5, totalPaise := spaPaise }],
      by simp⟩ }

/-- The dinner goes to the room. -/
def dinnerToRoom : RoomBill :=
  .order { now := 0 } 1 3
    { method := .ROOM_CHARGE, reservationId := some 1, positive := SettleOrderDto.whole } none

/-- The massage goes to the room. -/
def massageToRoom : RoomBill :=
  .spa 9 0 1 4 { method := .ROOM_CHARGE, reservationId := some 1 } none

/-- A dinner of ₹105 is ₹110.25 on the folio, also when ₹100 of it were paid before, and a massage
of ₹105 is ₹123.90. -/
theorem roomCharge_moves_more :
    (∀ paid ∈ [0, 10000], dinnerToRoom.ToRoom 1 ∧
      (dinnerToRoom.prog.run (eveningOf paid 10500)).res = .ok () ∧
      dinnerToRoom.owed (eveningOf paid 10500) = 10500 - paid ∧
      readBalance 1 (dinnerToRoom.prog.run (eveningOf paid 10500)).db =
        (readBalance 1 (eveningOf paid 10500)).map (· + 11025) ∧
      ¬dinnerToRoom.MovesOwed 1 (eveningOf paid 10500)) ∧
    massageToRoom.ToRoom 1 ∧ (massageToRoom.prog.run (eveningOf 0 10500)).res = .ok () ∧
      massageToRoom.owed (eveningOf 0 10500) = 10500 ∧
      readBalance 1 (massageToRoom.prog.run (eveningOf 0 10500)).db =
        (readBalance 1 (eveningOf 0 10500)).map (· + 12390) ∧
      ¬massageToRoom.MovesOwed 1 (eveningOf 0 10500) := by
  decide

/-- A massage for nothing. -/
theorem freeMassage_moves : massageToRoom.MovesOwed 1 (eveningOf 0 0) :=
  (roomCharge_moves_iff massageToRoom 1 (eveningOf 0 0) (by decide) (by decide)).mpr
    (by unfold RoomBill.Exact massageToRoom; decide)

end Travelo
