import Travelo.Folio.Balance
import Travelo.ReadCommitted.Guarded

/-!
# The stored total

`reservations.paid_paise` is a copy of a sum over the payment rows. Each `recordPayment`
inserts its row, sums, and stores the sum, in three statements of their own, so calls that
run at the same time can store their sums in another order than they took them.
`payments_counted`: when every sum is stored while its rows are still all there are, the
copy is right once all calls have answered. That a key has one row needs no such condition.
-/

namespace Travelo

open ReadCommitted FolioService
open ReservationsService (oneNight)

/-- One call of `recordPayment`. -/
structure PaymentCall where
  input : RecordPaymentInput
  now : ℤ

def PaymentCall.prog (c : PaymentCall) : Op (FolioPayment × ℤ) := recordPayment c.input c.now

/-! ## The ledger of a reservation -/

/-- The payment rows of a reservation. -/
def paymentsOf (g : Id) (db : HotelDb) : List FolioPayment :=
  db.folioPayments.filter fun p => p.reservationId = g

/-- The stored total is the payments less the refunds. -/
def PaidMatches (g : Id) (db : HotelDb) : Prop :=
  ∀ r, db.reservations.find? g = some r → r.paidPaise =
    (((paymentsOf g db).filter fun p => p.direction = .PAYMENT).map (·.amountPaise)).sum -
      (((paymentsOf g db).filter fun p => p.direction = .REFUND).map (·.amountPaise)).sum

instance (g : Id) (db : HotelDb) : Decidable (PaidMatches g db) :=
  inferInstanceAs (Decidable (∀ r ∈ db.reservations.find? g, r.paidPaise = _))

/-- The rows a key was used for. -/
def rowsWithKey (g : Id) (k : String) (db : HotelDb) : List FolioPayment :=
  (paymentsOf g db).filter fun p => p.idempotencyKey = some k

/-- What the unique index says. -/
def OneRowPerKey (g : Id) (db : HotelDb) : Prop := ∀ k, (rowsWithKey g k db).length ≤ 1

/-- A call that stores its sum for `g` took it from the rows that are there now. -/
def StoresCurrentSum (g : Id) (_ : HotelDb → HotelDb) (h : Trace) (now : HotelDb) : Prop :=
  match h with
  | .saw (.folio g') b :: h' => g' = g → writes h' = 1 → paymentsOf g b = paymentsOf g now
  | _ => True

instance (g : Id) (w : HotelDb → HotelDb) (h : Trace) (now : HotelDb) :
    Decidable (StoresCurrentSum g w h now) := by
  unfold StoresCurrentSum
  split <;> infer_instance

section Ledger

variable {g : Id} {db : HotelDb}

theorem paidMatches_iff : PaidMatches g db ↔
    ∀ r, db.reservations.find? g = some r → r.paidPaise = netPaid g db := by
  have hnet : (((paymentsOf g db).filter fun p => p.direction = .PAYMENT).map (·.amountPaise)).sum -
      (((paymentsOf g db).filter fun p => p.direction = .REFUND).map (·.amountPaise)).sum =
        netPaid g db := payments_sub_refunds (paymentsOf g db)
  unfold PaidMatches
  rw [hnet]

theorem netPaid_congr {db' : HotelDb} (h : paymentsOf g db' = paymentsOf g db) :
    netPaid g db' = netPaid g db := by
  unfold paymentsOf at h
  unfold netPaid
  rw [h]

variable {input : RecordPaymentInput}

theorem keyTaken_iff_row :
    keyTaken input db = true ↔ ∃ k, input.idempotencyKey = some k ∧
      ∃ p ∈ db.folioPayments, p.reservationId = input.reservationId ∧
        p.idempotencyKey = some k := by
  unfold keyTaken findPaymentByKey
  cases input.idempotencyKey with
  | none => simp
  | some k => simp [List.find?_isSome]

theorem keyTaken_mono {db' : HotelDb} (hsub : db.folioPayments ⊆ db'.folioPayments)
    (h : keyTaken input db = true) :
    keyTaken input db' = true := by
  rw [keyTaken_iff_row] at h ⊢
  obtain ⟨k, hk, p, hp, hrow⟩ := h
  exact ⟨k, hk, p, hsub hp, hrow⟩

theorem rowsWithKey_ne_nil {k : String} (hk : input.idempotencyKey = some k)
    (h : keyTaken input db = true) :
    rowsWithKey input.reservationId k db ≠ [] := by
  obtain ⟨k', hk', p, hp, hres, hkey⟩ := keyTaken_iff_row.mp h
  obtain rfl : k' = k := by
    rw [hk] at hk'
    cases hk'
    rfl
  apply List.ne_nil_of_mem (a := p)
  simp [rowsWithKey, paymentsOf, hp, hres, hkey]

end Ledger

/-! ## The two writes of a payment -/

section Writes

variable {g : Id} {db : HotelDb} {input : RecordPaymentInput}

theorem folioPayments_insert (input : RecordPaymentInput) (db : HotelDb) :
    db.folioPayments ⊆ (insertPayment input db).1.folioPayments := by
  cases h : keyTaken input db with
  | true => simp [insertPayment_of_taken h]
  | false => simp [insertPayment_of_free h, addPayment]

theorem keyTaken_insert (hk : input.idempotencyKey.isSome) :
    keyTaken input (insertPayment input db).1 = true := by
  cases h : keyTaken input db with
  | true => rwa [insertPayment_of_taken h]
  | false =>
    obtain ⟨k, hk⟩ := Option.isSome_iff_exists.mp hk
    rw [insertPayment_of_free h, keyTaken_iff_row]
    exact ⟨k, hk, paymentRow input, by simp [addPayment], rfl, hk⟩

theorem paymentsOf_insert (hg : input.reservationId ≠ g) :
    paymentsOf g (insertPayment input db).1 = paymentsOf g db := by
  cases h : keyTaken input db with
  | true => rw [insertPayment_of_taken h]
  | false => simp [insertPayment_of_free h, addPayment, paymentsOf, paymentRow, hg]

theorem oneRowPerKey_insert (h : OneRowPerKey g db) :
    OneRowPerKey g (insertPayment input db).1 := by
  intro k
  cases hfree : keyTaken input db with
  | true => simpa [insertPayment_of_taken hfree] using h k
  | false =>
    rw [insertPayment_of_free hfree]
    by_cases hrow : (paymentRow input).reservationId = g ∧
        (paymentRow input).idempotencyKey = some k
    · have hnone : rowsWithKey g k db = [] := by
        by_contra hsome
        obtain ⟨p, hp⟩ := List.exists_mem_of_ne_nil _ hsome
        simp only [rowsWithKey, paymentsOf, List.mem_filter, decide_eq_true_eq] at hp
        have htaken : keyTaken input db = true :=
          keyTaken_iff_row.mpr ⟨k, hrow.2, p, hp.1.1, hp.1.2.trans hrow.1.symm, hp.2⟩
        rw [hfree] at htaken
        cases htaken
      unfold rowsWithKey paymentsOf at hnone ⊢
      simp only [addPayment, List.filter_append, hnone, List.nil_append]
      exact (List.length_filter_le _ _).trans (List.length_filter_le _ _)
    · have hsame : rowsWithKey g k (addPayment (paymentRow input) db) = rowsWithKey g k db := by
        unfold rowsWithKey paymentsOf
        simp only [addPayment, List.filter_append]
        by_cases hg : (paymentRow input).reservationId = g
        · have hk : ¬(paymentRow input).idempotencyKey = some k := fun hk => hrow ⟨hg, hk⟩
          simp [hg, hk]
        · simp [hg]
      rw [hsame]
      exact h k

theorem reservations_insert : (insertPayment input db).1.reservations = db.reservations := by
  cases h : keyTaken input db with
  | true => rw [insertPayment_of_taken h]
  | false =>
    rw [insertPayment_of_free h]
    rfl

theorem paidMatches_insert (hg : input.reservationId ≠ g) (h : PaidMatches g db) :
    PaidMatches g (insertPayment input db).1 := by
  unfold PaidMatches at h ⊢
  rw [reservations_insert, paymentsOf_insert hg]
  exact h

theorem paidMatches_store (now : ℤ) : PaidMatches g (setPaid g (netPaid g db) now db) := by
  rw [paidMatches_iff]
  intro r hr
  have hsame : netPaid g (setPaid g (netPaid g db) now db) = netPaid g db := rfl
  rw [hsame]
  unfold setPaid at hr
  rw [find?_update] at hr
  obtain ⟨r₀, hr₀, rfl⟩ := Option.map_eq_some_iff.mp hr
  have hid : r₀.id = g := key_of_find? hr₀
  rw [if_pos (by simpa using hid)]

theorem paidMatches_setPaid {g' : Id} (hg : g' ≠ g) (net now : ℤ) (h : PaidMatches g db) :
    PaidMatches g (setPaid g' net now db) := by
  intro r hr
  unfold setPaid at hr
  rw [find?_update] at hr
  obtain ⟨r₀, hr₀, rfl⟩ := Option.map_eq_some_iff.mp hr
  have hid : r₀.id = g := key_of_find? hr₀
  rw [if_neg (by simpa [hid] using Ne.symm hg)]
  exact h r₀ hr₀

end Writes

/-! ## One call -/

/-- What a call publishes: its row first, then the sum it has read just before. -/
inductive PaymentWrite (c : PaymentCall) : Trace → (HotelDb → HotelDb) → Prop where
  | insert {h} (hw : writes h = 0) : PaymentWrite c h fun db => (insertPayment c.input db).1
  | store {b h} (hw : writes h = 1) : PaymentWrite c (.saw (.folio c.input.reservationId) b :: h)
      (setPaid c.input.reservationId (netPaid c.input.reservationId b) c.now)

/-- How a call answers: it found the row of its key, or it has inserted and stored. -/
def PaymentDone (c : PaymentCall) (h : Trace) : Prop :=
  (writes h = 0 ∧ ∃ l b, .saw l b ∈ h ∧ keyTaken c.input b = true) ∨ writes h = 2

theorem PaymentCall.wp_prog (c : PaymentCall) :
    c.prog.wp (PaymentWrite c) (fun _ h _ => PaymentDone c h) (fun _ _ _ => True) [] .idle := by
  simp only [PaymentCall.prog, recordPayment, wp_bind, wp_select_idle, trivially]
  intro b
  cases hrow : paymentOf c.input b with
  | some p =>
    simp only [wp_bind, wp_select_idle, wp_pure, trivially]
    intro b'
    exact .inl ⟨rfl, .folio c.input.reservationId, b, by simp, keyTaken_of_paymentOf hrow⟩
  | none =>
    simp only [wp_bind, wp_write_idle, trivially]
    refine ⟨.insert rfl, fun b₁ => ?_⟩
    -- a lost race is one more read before the sum
    have hsum : ∀ h payment, writes h = 1 → Prog.wp (PaymentWrite c) (fun _ h _ => PaymentDone c h)
        (fun _ _ _ => True) (do
          let net ← select (.folio c.input.reservationId) (netPaid c.input.reservationId)
          write (fun _ => [.reservation c.input.reservationId])
            (setPaid c.input.reservationId net c.now) fun _ => ()
          return (payment, net) : Op (FolioPayment × ℤ)) h .idle := by
      intro h payment hw
      simp only [wp_bind, wp_select_idle, wp_write_idle, wp_pure, trivially]
      intro b₂
      exact ⟨.store hw, fun _ => .inr (by simp [hw])⟩
    cases (insertPayment c.input b₁).2 with
    | some p =>
      simp only [winnerOf, wp_pure, wp_orThrow, implies_true, true_and]
      exact fun payment _ => hsum _ payment rfl
    | none =>
      refine (wp_select_idle _ _).mpr ⟨fun b₂ => ?_, fun _ => trivial⟩
      simp only [wp_orThrow, implies_true, true_and]
      exact fun payment _ => hsum _ payment rfl

/-! ## All calls -/

/-- A configuration of payment calls. -/
abbrev PaymentRun := Config HotelDb RowKey Look Err (FolioPayment × ℤ)

/-- All calls about to start. -/
def PaymentRun.start (db : HotelDb) (calls : List PaymentCall) : PaymentRun :=
  Config.start db (calls.map PaymentCall.prog)

/-- What a call has done, against the rows there are now. -/
structure CallKept (calls : List PaymentCall) (db : HotelDb) (i : ℕ) (h : Trace) : Prop where
  /-- Rows are only added. -/
  seen : ∀ l b, .saw l b ∈ h → b.folioPayments ⊆ db.folioPayments
  /-- The key of a call that has inserted is used. -/
  keyed : ∀ call, calls[i]? = some call → writes h ≠ 0 → call.input.idempotencyKey.isSome →
    keyTaken call.input db = true

/-- A call for `g` has inserted, and is still to store its sum. -/
def Owing (g : Id) (calls : List PaymentCall) (c : PaymentRun) : Prop :=
  ∃ i : ℕ, ∃ s call, c.sessions[i]? = some s ∧ calls[i]? = some call ∧
    call.input.reservationId = g ∧ writes s.trace = 1

/-- What holds while payment calls are interleaved. -/
structure PaymentsKept (g : Id) (calls : List PaymentCall) (c : PaymentRun) : Prop where
  proving : Config.Proving (fun i h w => ∃ call, calls[i]? = some call ∧ PaymentWrite call h w)
    (fun i _ h _ => ∃ call, calls[i]? = some call ∧ PaymentDone call h) c
  length : c.sessions.length = calls.length
  each : ∀ (i : ℕ) s, c.sessions[i]? = some s → CallKept calls c.db i s.trace
  rows : OneRowPerKey g c.db
  paid : PaidMatches g c.db ∨ Owing g calls c

section Step

variable {g : Id} {calls : List PaymentCall} {c c' : PaymentRun} {ev : Event} {db db' : HotelDb}
  {i : ℕ} {h : Trace} {w : HotelDb → HotelDb}

theorem CallKept.mono (hk : CallKept calls db i h) (hsub : db.folioPayments ⊆ db'.folioPayments) :
    CallKept calls db' i h :=
  ⟨fun l b hb => List.Subset.trans (hk.seen l b hb) hsub,
    fun call hcall hw hkey => keyTaken_mono hsub (hk.keyed call hcall hw hkey)⟩

theorem CallKept.saw (hk : CallKept calls db i h) (l : Look) :
    CallKept calls db i (.saw l db :: h) := by
  refine ⟨fun l' b hb => ?_, hk.keyed⟩
  rcases List.mem_cons.mp hb with heq | hold
  · cases heq
    exact fun p hp => hp
  · exact hk.seen l' b hold

variable {call : PaymentCall}

theorem CallKept.wrote (hk : CallKept calls db i h) (hcall : calls[i]? = some call)
    (hw : PaymentWrite call h w) :
    db.folioPayments ⊆ (w db).folioPayments ∧ CallKept calls (w db) i (.wrote w :: h) := by
  cases hw with
  | insert hw =>
    have hsub := folioPayments_insert call.input db
    refine ⟨hsub, fun l b hb => ?_, fun call' hcall' _ hkey => ?_⟩
    · exact List.Subset.trans (hk.seen l b (by simpa using hb)) hsub
    · obtain rfl : call = call' := Option.some.inj (hcall.symm.trans hcall')
      exact keyTaken_insert hkey
  | @store b h hw =>
    have hsame : ∀ call' : PaymentCall, keyTaken call'.input (setPaid call.input.reservationId
        (netPaid call.input.reservationId b) call.now db) = keyTaken call'.input db :=
      fun _ => rfl
    refine ⟨fun p hp => hp, fun l b hb => hk.seen l b (by simpa using hb),
      fun call' hcall' _ hkey => ?_⟩
    rw [hsame]
    exact hk.keyed call' hcall' (by simp [hw]) hkey

theorem PaymentWrite.paidMatches (hw : PaymentWrite call h w) (hres : call.input.reservationId ≠ g)
    (hp : PaidMatches g db) : PaidMatches g (w db) := by
  cases hw with
  | insert hw => exact paidMatches_insert hres hp
  | store hw => exact paidMatches_setPaid hres _ _ hp

theorem PaymentWrite.oneRowPerKey (hw : PaymentWrite call h w) (hr : OneRowPerKey g db) :
    OneRowPerKey g (w db) := by
  cases hw with
  | insert hw => exact oneRowPerKey_insert hr
  | store hw => exact hr

theorem paymentsKept_start (hpaid : PaidMatches g db) (hrows : OneRowPerKey g db) :
    PaymentsKept g calls (PaymentRun.start db calls) := by
  refine ⟨Config.proving_start fun i p hp => ?_, ?_, fun i s hs => ?_, hrows, .inl hpaid⟩
  · simp only [List.getElem?_map, Option.map_eq_some_iff] at hp
    obtain ⟨call, hcall, rfl⟩ := hp
    exact wp_mono (fun _ _ h => ⟨call, hcall, h⟩) (fun _ _ _ h => ⟨call, hcall, h⟩)
      (fun _ _ _ h => h) _ _ _ call.wp_prog
  · simp [PaymentRun.start, Config.start]
  · have hnew : s.trace = [] := by
      simp only [PaymentRun.start, Config.start, List.getElem?_map, Option.map_map,
        Option.map_eq_some_iff] at hs
      obtain ⟨call, -, rfl⟩ := hs
      rfl
    rw [hnew]
    exact ⟨(fun l b hb => by cases hb), fun _ _ hw => absurd rfl hw⟩

/-- The step lemma. A store must be of the sum of the rows that are there; nothing is asked of
an insert. -/
theorem PaymentsKept.next (hk : PaymentsKept g calls c)
    (hg : Guarded (StoresCurrentSum g) c ev) (hn : c.next ev = some c') :
    PaymentsKept g calls c' := by
  obtain ⟨i, s, s', hs, hset, hcase⟩ := Config.next_trace hn
  have hself : c'.sessions[i]? = some s' := by
    rw [hset, List.getElem?_set_self (List.getElem?_eq_some_iff.mp hs).1]
  have hother : ∀ j, j ≠ i → c'.sessions[j]? = c.sessions[j]? := by
    intro j hj
    rw [hset, List.getElem?_set_ne (Ne.symm hj)]
  have hlength : c'.sessions.length = calls.length := by
    rw [hset, List.length_set, hk.length]
  rcases hcase with ⟨hdb, htrace⟩ | ⟨w, hev, hpub, htrace, hdb⟩
  · -- nothing is published, and the session has at most read
    have hwrites : writes s'.trace = writes s.trace := by
      rcases htrace with h | ⟨l, h⟩
      · rw [h]
      · rw [h, writes_saw]
    have hmine : CallKept calls c.db i s'.trace := by
      rcases htrace with h | ⟨l, h⟩
      · rw [h]
        exact hk.each i s hs
      · rw [h]
        exact (hk.each i s hs).saw l
    refine ⟨hk.proving.next hn, hlength, ?_, hdb ▸ hk.rows, ?_⟩
    · rw [hdb, hset]
      exact Config.forall_sessions_set (Q := fun j t => CallKept calls c.db j t.trace) hk.each hmine
    · rw [hdb]
      refine hk.paid.imp_right ?_
      rintro ⟨j, t, call, ht, hcall, hres, hw⟩
      by_cases hj : j = i
      · subst hj
        obtain rfl : s = t := Option.some.inj (hs.symm.trans ht)
        exact ⟨j, s', call, hself, hcall, hres, hwrites.trans hw⟩
      · exact ⟨j, t, call, (hother j hj).trans ht, hcall, hres, hw⟩
  · obtain ⟨call, hcall, hw⟩ := hk.proving.publishes hs hpub
    obtain ⟨hsub, hmine⟩ := (hk.each i s hs).wrote hcall hw
    refine ⟨hk.proving.next hn, hlength, ?_, ?_, ?_⟩
    · rw [hdb, hset]
      refine Config.forall_sessions_set (Q := fun j t => CallKept calls (w c.db) j t.trace)
        (fun j t ht => (hk.each j t ht).mono hsub) ?_
      rw [htrace]
      exact hmine
    · rw [hdb]
      exact hw.oneRowPerKey hk.rows
    · by_cases hres : call.input.reservationId = g
      · have hstored := hg i s w hev hs hpub
        generalize hh : s.trace = h at hw hstored
        cases hw with
        | insert hw =>
          refine .inr ⟨i, s', call, hself, hcall, hres, ?_⟩
          rw [htrace, hh, writes_wrote, hw]
        | @store b h hw =>
          subst hres
          rw [hdb, netPaid_congr (hstored rfl hw)]
          exact .inl (paidMatches_store call.now)
      · refine hk.paid.imp (fun hp => ?_) ?_
        · rw [hdb]
          exact hw.paidMatches hres hp
        · rintro ⟨j, t, call', ht, hcall', hres', hw'⟩
          have hj : j ≠ i := by
            rintro rfl
            obtain rfl : call = call' := Option.some.inj (hcall.symm.trans hcall')
            exact hres hres'
          exact ⟨j, t, call', (hother j hj).trans ht, hcall', hres', hw'⟩

end Step

/-- In every interleaving in which each sum is stored while its rows are all there are, the
total is right once all calls have answered, and a key that was used has one row. -/
theorem payments_counted (g : Id) (calls : List PaymentCall) (db : HotelDb)
    (hpaid : PaidMatches g db) (hrows : OneRowPerKey g db) (evs : List Event) (c : PaymentRun)
    (hrun : (PaymentRun.start db calls).run evs = some c)
    (hstores : (PaymentRun.start db calls).Throughout (Guarded (StoresCurrentSum g)) evs)
    (hdone : ∀ s ∈ c.sessions, s.finished) :
    PaidMatches g c.db ∧ ∀ call ∈ calls, call.input.reservationId = g →
      ∀ k, call.input.idempotencyKey = some k → (rowsWithKey g k c.db).length = 1 := by
  have hk : PaymentsKept g calls c :=
    Config.run_throughout (PaymentsKept g calls) (fun _ _ _ hk hg hn => hk.next hg hn) evs _
      (paymentsKept_start hpaid hrows) hstores hrun
  have hanswered : ∀ (i : ℕ) s, c.sessions[i]? = some s →
      ∃ call, calls[i]? = some call ∧ PaymentDone call s.trace := by
    intro i s hs
    obtain ⟨_, h⟩ := hk.proving.finished hs (hdone s (List.mem_of_getElem? hs))
    exact h
  constructor
  · refine hk.paid.resolve_right ?_
    rintro ⟨i, s, call, hs, -, -, hw⟩
    obtain ⟨_, -, ⟨h0, -⟩ | h2⟩ := hanswered i s hs
    · omega
    · omega
  · intro call hcall hres k hkey
    obtain ⟨i, hi⟩ := List.mem_iff_getElem?.mp hcall
    have hlt : i < c.sessions.length := hk.length ▸ (List.getElem?_eq_some_iff.mp hi).1
    have hs := List.getElem?_eq_getElem hlt
    obtain ⟨call', hcall', hanswer⟩ := hanswered i _ hs
    obtain rfl : call = call' := Option.some.inj (hi.symm.trans hcall')
    have hused : keyTaken call.input c.db = true := by
      rcases hanswer with ⟨-, l, b, hsaw, hb⟩ | h2
      · exact keyTaken_mono ((hk.each i _ hs).seen l b hsaw) hb
      · exact (hk.each i _ hs).keyed call hi (by omega) (by simp [hkey])
    have hne := rowsWithKey_ne_nil hkey hused
    rw [hres] at hne
    have hpos := List.length_pos_iff.mpr hne
    have hle := hk.rows k
    omega

/-! ## Two payments at once -/

/-- Payments of ₹100 and ₹50, the second with a key. -/
def twoPayments : List PaymentCall :=
  [⟨{ reservationId := 1, propertyId := 1, method := .CARD, amountPaise := 10000 }, 0⟩,
    ⟨{ reservationId := 1, propertyId := 1, method := .UPI, amountPaise := 5000
       idempotencyKey := some "tap-1" }, 0⟩]

/-- The first sums before the second inserts, and stores after the second has stored. -/
def storedLate : List Event :=
  List.replicate 3 (.step 0) ++ List.replicate 4 (.step 1) ++ [.step 0]

/-- The first has summed and stored before the second sums. -/
def storedInTurn : List Event :=
  [.step 0, .step 1, .step 0, .step 1, .step 0, .step 0, .step 1, .step 1]

/-- The rows of both are there, and the total is the first's. -/
theorem second_payment_lost :
    PaidMatches 1 (oneNight 0) ∧
      ∃ c, (PaymentRun.start (oneNight 0) twoPayments).run storedLate = some c ∧
        (∀ s ∈ c.sessions, s.finished) ∧ c.db.folioPayments.length = 2 ∧
        c.db.reservations.rows.map (·.paidPaise) = [10000] ∧ ¬PaidMatches 1 c.db :=
  ⟨by decide, _, rfl, by decide, by decide, by decide, by decide⟩

/-- Stored in turn, the total is that of both. -/
theorem both_payments_counted :
    ∃ c, (PaymentRun.start (oneNight 0) twoPayments).run storedInTurn = some c ∧
      c.db.reservations.rows.map (·.paidPaise) = [15000] ∧ PaidMatches 1 c.db :=
  ⟨_, rfl, by decide,
    (payments_counted 1 twoPayments (oneNight 0) (by decide)
      (fun _ => Nat.zero_le 1) storedInTurn _ rfl (by decide) (by decide)).1⟩

end Travelo
