import Travelo.Billing.Refunds
import Travelo.ReadCommitted.Solo

/-!
# The refunds the gateways hold

A refund is asked for again until its row is processed, and an answer may be lost after the money
has moved. `books_agree`: of calls that are made one after another, whatever fails in them, each
row is refunded at most once, by the amount and at the gateway of its payment.
-/

namespace Travelo.Refunds

open ReadCommitted

variable (env : RefundEnv)

/-- A stored refund and its payment ask for this. -/
def Asks (db : RefundDb) (id : Uuid) (req : Option RefundRequest) : Prop :=
  ∃ row ∈ db.refunds, ∃ p ∈ db.payments, row.id = id ∧ p.id = row.paymentId ∧
    env.request row p = req

/-- What the gateways hold is what the rows ask for, once; and a row that is processed is held. -/
structure BooksAgree (db : RefundDb) : Prop where
  once : (db.held.map (·.request.refundId)).Nodup
  asked : ∀ r ∈ db.held, Asks env db r.request.refundId (some r.request)
  processed : ∀ row ∈ db.refunds, row.status = .PROCESSED →
    ∃ r ∈ db.held, r.request.refundId = row.id ∧ row.gatewayRef = some r.id

/-- Cashfree answers a request it knows with the refund it holds. -/
def Idempotent : Prop :=
  ∀ held req r, req.gateway = .CASHFREE → (held.map (·.request.refundId)).Nodup →
    env.createRefund held req = .ok r → ∀ r' ∈ held, r'.request = req → r' = r

/-- Every refund keeps its payment and its amount, every payment where it was made. -/
structure Kept (db db' : RefundDb) : Prop where
  refunds : ∀ row ∈ db.refunds, ∃ row' ∈ db'.refunds, row'.id = row.id ∧
    row'.paymentId = row.paymentId ∧ row'.amount = row.amount
  payments : ∀ p ∈ db.payments, ∃ p' ∈ db'.payments, p'.id = p.id ∧
    ∀ refund, env.request refund p' = env.request refund p

section Books

variable {env} {base db db' : RefundDb} {id : Uuid} {req : Option RefundRequest}

theorem Kept.refl : Kept env db db :=
  ⟨fun row hrow => ⟨row, hrow, rfl, rfl, rfl⟩, fun p hp => ⟨p, hp, rfl, fun _ => rfl⟩⟩

theorem Kept.mark (h : Kept env db db') (id : Uuid) (status : RefundStatus) (ref : Option String) :
    Kept env db (mark id status ref db') := by
  refine ⟨fun row hrow => ?_, h.payments⟩
  obtain ⟨row', hrow', hsame⟩ := h.refunds row hrow
  refine ⟨_, List.mem_map.mpr ⟨row', hrow', rfl⟩, ?_⟩
  split_ifs <;> exact hsame

/-- A refund as it was read once asks for what its row asks for. -/
theorem Kept.asks (h : Kept env db db') {refund : Refund} {p : Payment}
    (hrefund : refund ∈ db.refunds) (hp : p ∈ db'.payments) (hpay : p.id = refund.paymentId) :
    Asks env db' refund.id (env.request refund p) := by
  obtain ⟨row, hrow, hid, hpay', hamount⟩ := h.refunds refund hrefund
  refine ⟨row, hrow, p, hp, hid, hpay.trans hpay'.symm, ?_⟩
  simp only [RefundEnv.request, hid, hamount]

theorem Asks.kept (hasks : Asks env db id req) (h : Kept env db db') : Asks env db' id req := by
  obtain ⟨row, hrow, p, hp, rfl, hpay, rfl⟩ := hasks
  obtain ⟨p', hp', hid, hsame⟩ := h.payments p hp
  rw [← hsame]
  exact h.asks hrow hp' (hid.trans hpay)

theorem Asks.unique {req' : Option RefundRequest} (h : Asks env db id req)
    (h' : Asks env db id req') : req = req' := by
  obtain ⟨row, hrow, p, hp, hid, hpay, rfl⟩ := h
  obtain ⟨row', hrow', p', hp', hid', hpay', rfl⟩ := h'
  obtain rfl := eq_of_key_eq hrow hrow' (hid.trans hid'.symm)
  rw [eq_of_key_eq hp hp' (hpay.trans hpay'.symm)]

theorem BooksAgree.mark (h : BooksAgree env db) {status : RefundStatus} {ref : Option String}
    (hheld : status = .PROCESSED → ∃ r ∈ db.held, r.request.refundId = id ∧ ref = some r.id) :
    BooksAgree env (mark id status ref db) := by
  refine ⟨h.once, fun r hr => (h.asked r hr).kept (Kept.refl.mark id status ref),
    fun row hrow hstatus => ?_⟩
  obtain ⟨old, hold, rfl⟩ := List.mem_map.mp hrow
  split_ifs at hstatus ⊢ with hid
  · obtain ⟨r, hr, hreq, rfl⟩ := hheld hstatus
    exact ⟨r, hr, hreq.trans (of_decide_eq_true hid).symm, rfl⟩
  · exact h.processed old hold hstatus

theorem BooksAgree.create (h : BooksAgree env db) {r : GatewayRefund}
    (hasks : Asks env db r.request.refundId (some r.request))
    (hknown : ∀ r' ∈ db.held, r'.request = r.request → r' = r) :
    BooksAgree env { db with held := db.held.insert r } := by
  refine ⟨?_, fun r' hr' => ?_, fun row hrow hstatus => ?_⟩
  · by_cases hmem : r ∈ db.held
    · rw [List.insert_of_mem hmem]
      exact h.once
    · rw [List.insert_of_not_mem hmem, List.map_cons, List.nodup_cons]
      refine ⟨fun hsame => ?_, h.once⟩
      obtain ⟨r', hr', hid⟩ := List.mem_map.mp hsame
      -- the row of both asks for one thing
      have hrequest := (h.asked r' hr').unique (hid ▸ hasks)
      exact hmem (hknown r' hr' (Option.some.inj hrequest) ▸ hr')
  · rcases List.mem_insert_iff.mp hr' with rfl | hr'
    · exact hasks
    · exact h.asked r' hr'
  · obtain ⟨r', hr', hheld⟩ := h.processed row hrow hstatus
    exact ⟨r', List.mem_insert_iff.mpr (.inr hr'), hheld⟩

/-- Where a call is between its statements, outside its transaction. -/
def Goes (env : RefundEnv) (base : RefundDb) (t : Tx RefundDb) (db : RefundDb) : Prop :=
  t = .idle ∧ BooksAgree env db ∧ Kept env base db

theorem createRefund_ends {req : RefundRequest} (hstay : Goes env base .idle db)
    (hasks : Asks env db req.refundId (some req))
    (hknown : ∀ r, env.createRefund db.held req = .ok r →
      ∀ r' ∈ db.held, r'.request = req → r' = r) :
    (createRefund env req).ends
      (fun r t db' => Goes env base t db' ∧ r ∈ db'.held ∧ r.request = req)
      (fun _ t db' => Goes env base t db') .idle db := by
  simp only [createRefund, ends_simps, Prog.ends_writeChecked_idle]
  refine ⟨⟨fun db' hdb' => ?_, fun _ _ => hstay⟩, fun _ => hstay⟩
  cases hcreate : env.createRefund db.held req with
  | error e => simp [hcreate, Except.map] at hdb'
  | ok r =>
    obtain rfl : { db with held := db.held.insert r } = db' := by
      simpa [hcreate, Except.map] using hdb'
    have hr := env.honest _ _ _ hcreate
    have hgoes : Goes env base .idle { db with held := db.held.insert r } :=
      ⟨rfl, hstay.2.1.create (hr ▸ hasks) (hr ▸ hknown r hcreate), hstay.2.2.1, hstay.2.2.2⟩
    refine ⟨(fun e he => by cases he), fun a ha => ?_⟩
    cases ha
    exact ⟨⟨hgoes, List.mem_insert_self, hr⟩, fun _ => hgoes⟩

/-- A request is about the refund, and goes to one of the two gateways. -/
theorem request_some {refund : Refund} {pay : Payment} {req : RefundRequest}
    (h : env.request refund pay = some req) :
    req.refundId = refund.id ∧ (req.gateway ≠ .RAZORPAY → req.gateway = .CASHFREE) := by
  unfold RefundEnv.request at h
  split_ifs at h
  · obtain ⟨ref, -, rfl⟩ := Option.map_eq_some_iff.mp h
    exact ⟨rfl, fun hother => absurd rfl hother⟩
  · obtain ⟨ref, -, rfl⟩ := Option.map_eq_some_iff.mp h
    exact ⟨rfl, fun _ => rfl⟩

/-- Whatever fails, the gateway is left with one refund of the row, or none yet. -/
theorem askGateway_ends (hcashfree : Idempotent env) {req : RefundRequest}
    (hstay : Goes env base .idle db) (hasks : Asks env db req.refundId (some req))
    (hgateway : req.gateway ≠ .RAZORPAY → req.gateway = .CASHFREE) :
    (askGateway env req).ends
      (fun r t db' => Goes env base t db' ∧ r ∈ db'.held ∧ r.request = req)
      (fun _ t db' => Goes env base t db') .idle db := by
  have h := hstay.2.1
  unfold askGateway
  split_ifs with hrazorpay
  · simp only [findRefundByReceipt, ends_simps]
    refine ⟨?_, fun _ => hstay⟩
    cases hfind : db.held.find? fun r => r.request.gateway = .RAZORPAY &&
        r.request.ref = req.ref && r.request.refundId = req.refundId with
    | some r =>
      have hfound := List.find?_some hfind
      simp only [and_decide_eq] at hfound
      have hmem := List.mem_of_find?_eq_some hfind
      -- both requests are the one of their row
      exact ⟨hstay, hmem, Option.some.inj ((h.asked r hmem).unique (hfound.2 ▸ hasks))⟩
    | none =>
      refine createRefund_ends hstay hasks fun _ _ r' hr' hsame => absurd ?_
        (List.find?_eq_none.mp hfind r' hr')
      simp [hsame, hrazorpay]
  · exact createRefund_ends hstay hasks fun r hr =>
      hcashfree _ _ r (hgateway hrazorpay) h.once hr

theorem attempt_ends (hcashfree : Idempotent env) (hstay : Goes env base .idle db)
    (refund : Refund) (pay : Payment)
    (hasks : Asks env db refund.id (env.request refund pay)) :
    (attemptGatewayRefund env refund pay).ends (fun _ t db' => Goes env base t db')
      (fun _ t db' => Goes env base t db') .idle db := by
  unfold attemptGatewayRefund
  cases hreq : env.request refund pay with
  | none =>
    obtain ⟨-, h, hkept⟩ := id hstay
    simp only [updateRefund, Prog.ends_write_idle]
    exact ⟨⟨rfl, h.mark (fun hmanual => by cases hmanual), hkept.mark _ _ _⟩, fun _ => hstay⟩
  | some req =>
    obtain ⟨hid, hgateway⟩ := request_some hreq
    rw [hreq, ← hid] at hasks
    rw [← hid]
    simp only [Prog.ends_tryCatch, Prog.ends_bind, Prog.ends_pure]
    refine Prog.ends_mono ?_ (fun _ _ _ h => h) _ _ _
      (askGateway_ends hcashfree hstay hasks hgateway)
    rintro r t db' ⟨⟨rfl, hagree, hkept⟩, hr, rfl⟩
    simp only [updateRefund, Prog.ends_write_idle]
    exact ⟨⟨rfl, hagree.mark fun _ => ⟨r, hr, rfl, rfl⟩, hkept.mark _ _ _⟩,
      fun _ => ⟨rfl, hagree, hkept⟩⟩

theorem entered_eq {row : Refund} {status : PaymentStatus} {now : ℤ}
    (hnew : db.refunds.hasKey row.id = false) : entered row status now db =
      { setPayment row.paymentId status now db with refunds := db.refunds.insert row } := by
  simp [entered, setPayment, insertRefund, hnew, applied]

theorem BooksAgree.entered (h : BooksAgree env db) {row : Refund}
    (hnew : db.refunds.hasKey row.id = false) (hpending : row.status = .PENDING)
    (status : PaymentStatus) (now : ℤ) : Goes env db .idle (entered row status now db) := by
  rw [entered_eq hnew]
  have hkept : Kept env db { setPayment row.paymentId status now db with
      refunds := db.refunds.insert row } := by
    refine ⟨fun r hr => ⟨r, mem_insert_of_mem hr, rfl, rfl, rfl⟩, fun p hp => ?_⟩
    refine ⟨_, List.mem_map.mpr ⟨p, hp, rfl⟩, ?_⟩
    split_ifs <;> exact ⟨rfl, fun _ => rfl⟩
  refine ⟨rfl, ⟨h.once, fun r hr => (h.asked r hr).kept hkept, fun r hr hstatus => ?_⟩, hkept⟩
  rcases mem_or_eq_of_mem_insert hr with hr | rfl
  · exact h.processed r hr hstatus
  · rw [hpending] at hstatus
    cases hstatus

theorem refundInTx_ends (h : BooksAgree env db) (paymentId : Uuid) (dto : RefundDto)
    (refundId : Uuid) (now : ℤ) :
    (refundInTx paymentId dto refundId now).ends
      (fun x t db' => Goes env db t db' ∧ Asks env db' x.1.id (env.request x.1 x.2))
      (fun _ t db' => Goes env db t db') .idle db := by
  have hstay : Goes env db .idle db := ⟨rfl, h, .refl⟩
  simp only [refundInTx, ends_simps, Prog.ends_selectForUpdate_active]
  refine ⟨⟨⟨fun _ => hstay, fun pay hpay => ⟨fun _ => hstay, fun _ => ⟨⟨fun _ => hstay,
    fun _ => ?_⟩, fun _ => hstay⟩⟩⟩, fun _ => hstay⟩, fun _ => hstay⟩
  refine ⟨⟨fun s hs => ⟨⟨?_, fun _ => hstay⟩, fun _ => hstay⟩, fun _ _ => hstay⟩, fun _ => hstay⟩
  have hnew : db.refunds.hasKey refundId = false := by
    by_contra hstored
    rw [Bool.not_eq_false] at hstored
    simp [insertRefund, hstored] at hs
  generalize hrow : Refund.mk refundId paymentId dto.amount none .PENDING now = row
  generalize newStatus _ _ = status
  have hid : row.id = refundId := by rw [← hrow]
  have hpaid : row.paymentId = paymentId := by rw [← hrow]
  subst hid hpaid
  have hgoes := h.entered hnew (by rw [← hrow]) status now
  obtain ⟨hmem, hkey⟩ := Table.find?_eq_some.mp hpay
  obtain ⟨p, hp, hsame, hreq⟩ := hgoes.2.2.payments pay hmem
  refine ⟨hgoes, row, ?_, p, hp, rfl, hsame.trans hkey, hreq row⟩
  have hrow : row ∈ (entered row status now db).refunds := by
    rw [entered_eq hnew]
    exact (mem_insert hnew).mpr (.inr rfl)
  exact hrow

/-- One round of the retries. -/
theorem retryPending_ends (hcashfree : Idempotent env) (hstay : Goes env base .idle db)
    {refund : Refund} (hrefund : refund ∈ base.refunds) :
    (retryPending env refund).ends (fun _ t db' => Goes env base t db')
      (fun _ t db' => Goes env base t db') .idle db := by
  simp only [retryPending, ends_simps]
  refine ⟨?_, fun _ => hstay⟩
  cases hpay : db.payments.find? refund.paymentId with
  | none => exact hstay
  | some pay =>
    obtain ⟨hmem, hid⟩ := Table.find?_eq_some.mp hpay
    exact attempt_ends hcashfree hstay refund pay (hstay.2.2.asks hrefund hmem hid)

/-- One call, whatever fails in it. -/
theorem RefundCall.goes (hcashfree : Idempotent env) (h : BooksAgree env db) (call : RefundCall) :
    (call.prog env).ends (fun _ t db' => Goes env db t db') (fun _ t db' => Goes env db t db')
      .idle db := by
  have hstay : Goes env db .idle db := ⟨rfl, h, .refl⟩
  cases call with
  | refundPayment paymentId dto refundId now =>
    simp only [prog, Prog.ends_bind, Prog.ends_pure]
    refine Prog.ends_mono (fun x t s hx => ?_) (fun _ _ _ h => h) _ _ _
      (refundInTx_ends h paymentId dto refundId now)
    obtain ⟨hgoes, hasks⟩ := hx
    obtain rfl := hgoes.1
    exact attempt_ends hcashfree hgoes x.1 x.2 hasks
  | retryPendingRefunds limit =>
    simp only [prog, Refunds.retryPendingRefunds, ends_simps]
    refine ⟨Prog.ends_all (fun refund hmem t s hs => ?_) hstay, fun _ => hstay⟩
    obtain rfl := hs.1
    have hpending := (List.mem_insertionSort _).mp (List.mem_of_mem_take hmem)
    exact retryPending_ends hcashfree hs (List.mem_filter.mp hpending).1
  | retryRefund refundId =>
    simp only [prog, Refunds.retryRefund, ends_simps, Prog.ends_ite]
    refine ⟨⟨fun _ => hstay, fun refund hrefund => ⟨fun _ => hstay, fun _ => ?_⟩⟩, fun _ => hstay⟩
    refine ⟨⟨fun _ => hstay, fun pay hpay => ?_⟩, fun _ => hstay⟩
    obtain ⟨hmem, hid⟩ := Table.find?_eq_some.mp hpay
    exact attempt_ends hcashfree hstay refund pay
      (Kept.refl.asks (mem_of_find? hrefund) hmem hid)

end Books

end Travelo.Refunds
