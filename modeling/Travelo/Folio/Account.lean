import Mathlib.Algebra.BigOperators.Group.Multiset.Basic
import Mathlib.Algebra.Group.Int.Defs
import Travelo.Claims.Ledger
import Travelo.Folio.Balance
import Travelo.Folio.Lines

/-!
# The account behind a folio

`HotelDb.account` forgets the order of the lines and payments. Every call that changes a
folio is one *effect* on the account: it enters a line, edits a line or enters a payment
(`FolioOp.account_run`), and effects on different rows commute (`Effect.run_comm`).
-/

namespace Travelo

open ReadCommitted FolioService Claims
open VoidLineInput (selects void)

/-- The calls that change a folio, each with the uuid and the clock it is given. -/
inductive FolioOp where
  | postCharge (input : PostChargeInput) (id : Id) (now : ℤ)
  | applyDiscount (input : ApplyDiscountInput) (id : Id) (now : ℤ)
  | voidLine (input : VoidLineInput) (now : ℤ)
  | setLineTaxExempt (input : LineTaxExemptInput) (now : ℤ)
  | recordPayment (input : RecordPaymentInput) (now : ℤ)

def FolioOp.prog : FolioOp → Op Unit
  | .postCharge input id now => do let _ ← FolioService.postCharge input id now
  | .applyDiscount input id now => do let _ ← FolioService.applyDiscount input id now
  | .voidLine input now => do let _ ← FolioService.voidLine input now
  | .setLineTaxExempt input now => do let _ ← FolioService.setLineTaxExempt input now
  | .recordPayment input now => do let _ ← FolioService.recordPayment input now

/-- The database after one call, and after one call after another. -/
def FolioOp.run (db : HotelDb) (op : FolioOp) : HotelDb := (op.prog.run db).db

def runOps (ops : List FolioOp) (db : HotelDb) : HotelDb := ops.foldl FolioOp.run db

/-! ## The account -/

/-- The lines and the payments of all folios. -/
structure Account where
  lines : Multiset FolioLineItem
  payments : Multiset FolioPayment

def HotelDb.account (db : HotelDb) : Account := ⟨db.folioLineItems.rows, db.folioPayments⟩

/-- A payment counts for the guest, a refund against. -/
def FolioPayment.signed (p : FolioPayment) : ℤ :=
  match p.direction with
  | .REFUND => -p.amountPaise
  | .PAYMENT => p.amountPaise

namespace Account

/-- The lines of a stay that count. -/
def live (g : Id) (a : Account) : Multiset FolioLineItem :=
  (a.lines.filter fun l => l.reservationId = g).filter fun l => l.voidedAt.isNone

/-- What the lines of a stay come to, less what was paid. -/
def due (g : Id) (a : Account) : ℤ :=
  ((a.live g).map fun l => l.amountPaise + l.taxPaise).sum -
    ((a.payments.filter fun p => p.reservationId = g).map FolioPayment.signed).sum

end Account

theorem Folio.balance_eq (g : Id) (db : HotelDb) :
    Folio.balance g db = Folio.roomCharge g db + Folio.roomTax g db + db.account.due g := by
  have hlines : ((db.account.live g).map fun l => l.amountPaise + l.taxPaise).sum =
      Folio.ancillary g db + Folio.lineTax g db := by
    simp only [Account.live, HotelDb.account, Multiset.filter_coe, Multiset.map_coe,
      Multiset.sum_coe, Folio.ancillary, Folio.lineTax, Folio.liveLines, List.sum_map_add,
      Bool.decide_eq_true]
  have hpaid : ((db.account.payments.filter fun p => p.reservationId = g).map
      FolioPayment.signed).sum = netPaid g db := by
    simp only [HotelDb.account, Multiset.filter_coe, Multiset.map_coe, Multiset.sum_coe, netPaid]
    rfl
  rw [Account.due, hlines, hpaid, Folio.balance, Folio.tax]
  omega

/-! ## Effects -/

/-- A change of one line, which keeps its id and its source. -/
structure LineEdit where
  lineId : Id
  set : FolioLineItem → FolioLineItem
  id_set : ∀ l, (set l).id = l.id
  source_set : ∀ l, (set l).sourceType = l.sourceType ∧ (set l).sourceId = l.sourceId

def LineEdit.apply (e : LineEdit) (l : FolioLineItem) : FolioLineItem :=
  if l.id = e.lineId then e.set l else l

/-- What a call does to the account. -/
inductive Effect where
  | enterLine (row : FolioLineItem)
  | editLine (e : LineEdit)
  | enterPayment (row : FolioPayment)

/-- Two rows the unique index on the key does not admit together. -/
def samePayment (p p' : FolioPayment) : Bool :=
  p.idempotencyKey.isSome && p.reservationId = p'.reservationId &&
    p.idempotencyKey = p'.idempotencyKey

noncomputable def Effect.run (a : Account) : Effect → Account
  | .enterLine row => { a with lines := enter sameLine row a.lines }
  | .editLine e => { a with lines := a.lines.map e.apply }
  | .enterPayment row => { a with payments := enter samePayment row a.payments }

/-- The tax of a line as it stands: by its category and its exemption. -/
def taxOf (exempt : Bool) (l : FolioLineItem) : ℤ × ℕ × Option String :=
  lineTax (l.taxCategory.getD (categoryFor l.kind)) l.amountPaise true exempt

def voidEdit (input : VoidLineInput) (now : ℤ) : LineEdit where
  lineId := input.lineId
  set l := if selects input l then void input now l else l
  id_set l := by split <;> rfl
  source_set l := by split <;> exact ⟨rfl, rfl⟩

def exemptEdit (input : LineTaxExemptInput) (now : ℤ) : LineEdit where
  lineId := input.lineId
  set l :=
    if l.reservationId = input.reservationId then
      LineTaxExemptInput.set input (taxOf input.exempt l) now l
    else l
  id_set l := by split <;> rfl
  source_set l := by split <;> exact ⟨rfl, rfl⟩

def FolioOp.effect : FolioOp → Effect
  | .postCharge input id now => .enterLine (newLine input id true now)
  | .applyDiscount input id now => .enterLine (newLine (ApplyDiscountInput.charge input) id true now)
  | .voidLine input now => .editLine (voidEdit input now)
  | .setLineTaxExempt input now => .editLine (exemptEdit input now)
  | .recordPayment input _ => .enterPayment (paymentRow input)

/-! ## Each call has its effect -/

section Eval

variable {db : HotelDb}

theorem lineTax_intraState (category : GstCategory) (amountPaise : ℤ) (b exempt : Bool) :
    lineTax category amountPaise b exempt = lineTax category amountPaise true exempt := by
  cases exempt <;> rfl

theorem newLine_intraState (input : PostChargeInput) (id : Id) (b : Bool) (now : ℤ) :
    newLine input id b now = newLine input id true now := by
  simp only [newLine]
  rw [lineTax_intraState _ _ b]

theorem eval_intraStateForId (db : HotelDb) (reservationId : Id) :
    ∃ b, (intraStateForId reservationId).eval .idle db = (.ok b, .idle, db) := by
  simp only [intraStateForId, eval_simps]
  cases db.reservations.find? reservationId with
  | none => exact ⟨_, rfl⟩
  | some r => exact eval_intraStateFor db _ _ _

/-- The line a source has. -/
def sourceLine (source : Option (String × Id)) (db : HotelDb) : Option FolioLineItem :=
  source.bind fun s => findLineBySource s.1 s.2 db

theorem eval_lineOfSource (look : Look) (source : Option (String × Id)) :
    (lineOfSource look source).eval .idle db = (.ok (sourceLine source db), .idle, db) := by
  cases source <;> rfl

theorem eval_postCharge (db : HotelDb) (input : PostChargeInput) (id : Id) (now : ℤ) :
    ∃ line, (postCharge input id now).eval .idle db = (.ok line, .idle,
      if (sourceLine input.source db).isSome then db
      else (insertLine (newLine input id true now) db).1) := by
  obtain ⟨b, hb⟩ := eval_intraStateForId db input.reservationId
  simp only [postCharge, eval_bind, eval_lineOfSource]
  cases hs : sourceLine input.source db with
  | some line => exact ⟨some line, rfl⟩
  | none =>
    simp only [eval_simps, hb, newLine_intraState]
    cases (insertLine (newLine input id true now) db).2 with
    | some row => exact ⟨some row, rfl⟩
    | none => exact ⟨_, eval_lineOfSource _ _⟩

theorem account_insertLine (row : FolioLineItem) :
    (insertLine row db).1.account = Effect.run db.account (.enterLine row) := by
  unfold insertLine
  cases hany : db.folioLineItems.rows.any (sameLine row) with
  | true =>
    obtain ⟨l, hl, hsame⟩ := List.any_eq_true.mp hany
    have henter : enter sameLine row db.account.lines = db.account.lines :=
      enter_of_clash (Multiset.mem_coe.mpr hl) hsame
    simp only [if_true, Effect.run, henter]
  | false =>
    have hfree : ∀ l ∈ db.folioLineItems.rows, sameLine row l = false := by
      simpa using hany
    have hkey : db.folioLineItems.hasKey row.id = false := by
      refine Table.hasKey_eq_false.mpr fun l hl heq => ?_
      have hsame := hfree l hl
      simp [sameLine, heq] at hsame
    have henter : enter sameLine row (db.folioLineItems.rows : Multiset FolioLineItem) =
        row ::ₘ (db.folioLineItems.rows : Multiset FolioLineItem) := enter_of_free hfree
    simp only [Bool.false_eq_true, if_false, Effect.run, henter, HotelDb.account,
      rows_insert hkey, Account.mk.injEq, and_true]
    exact Multiset.coe_eq_coe.mpr (List.perm_append_singleton row _)

theorem sameLine_of_source {input : PostChargeInput} (id : Id) (now : ℤ)
    (h : (sourceLine input.source db).isSome) :
    ∃ l ∈ db.folioLineItems.rows, sameLine (newLine input id true now) l = true := by
  obtain ⟨l, hl⟩ := Option.isSome_iff_exists.mp h
  obtain ⟨⟨t, i⟩, hsource, hfind⟩ := Option.bind_eq_some_iff.mp hl
  have hmem := List.mem_of_find?_eq_some hfind
  have hboth := List.find?_some hfind
  simp only [and_decide_eq] at hboth
  refine ⟨l, hmem, ?_⟩
  unfold PostChargeInput.source at hsource
  split at hsource
  · next t' i' ht hi =>
    split at hsource
    · cases hsource
    · cases hsource
      simp [sameLine, newLine, ht, hi, hboth]
  · cases hsource

theorem account_postCharge (db : HotelDb) (input : PostChargeInput) (id : Id) (now : ℤ) :
    ((postCharge input id now).eval .idle db).2.2.account =
      Effect.run db.account (.enterLine (newLine input id true now)) := by
  obtain ⟨line, heval⟩ := eval_postCharge db input id now
  rw [heval]
  show (if (sourceLine input.source db).isSome then db
    else (insertLine (newLine input id true now) db).1).account = _
  split
  · next hsource =>
    obtain ⟨l, hl, hsame⟩ := sameLine_of_source id now hsource
    have henter : enter sameLine (newLine input id true now) db.account.lines =
      db.account.lines := enter_of_clash (Multiset.mem_coe.mpr hl) hsame
    simp only [Effect.run, henter]
  · exact account_insertLine _

theorem account_updateLines {p : FolioLineItem → Bool} {f : FolioLineItem → FolioLineItem}
    {hf : ∀ l, (f l).id = l.id} {e : LineEdit}
    (h : ∀ l ∈ db.folioLineItems, (if p l = true then f l else l) = e.apply l) :
    (updateLines db p f hf).account = Effect.run db.account (.editLine e) := by
  have hrows : (updateLines db p f hf).folioLineItems.rows =
      db.folioLineItems.rows.map e.apply := List.map_congr_left h
  simp only [HotelDb.account, hrows, Effect.run, Multiset.map_coe]
  rfl

theorem account_voidLine (input : VoidLineInput) (now : ℤ) :
    ((voidLine input now).eval .idle db).2.2.account =
      Effect.run db.account (.editLine (voidEdit input now)) := by
  have hupdate : (updateLines db (selects input)
      (void input now)).account =
        Effect.run db.account (.editLine (voidEdit input now)) := by
    refine account_updateLines fun l _ => ?_
    unfold LineEdit.apply voidEdit
    by_cases hid : l.id = input.lineId
    · rw [if_pos hid]
    · have hnot : selects input l = false := by
        simp [selects, hid]
      rw [if_neg hid, hnot]
      rfl
  rw [← hupdate]
  simp only [voidLine, eval_simps]
  cases db.folioLineItems.rows.find? (selects input) with
  | none => rfl
  | some l => rfl

theorem account_setLineTaxExempt (input : LineTaxExemptInput) (now : ℤ) :
    ((setLineTaxExempt input now).eval .idle db).2.2.account =
      Effect.run db.account (.editLine (exemptEdit input now)) := by
  simp only [setLineTaxExempt, eval_simps]
  cases hfound : lineOnFolio input.reservationId input.lineId db with
  | none =>
    -- no line of that folio has the id, so the edit changes nothing
    have hkeep : ∀ l ∈ db.folioLineItems.rows, (exemptEdit input now).apply l = l := by
      intro l hl
      unfold LineEdit.apply exemptEdit
      by_cases hid : l.id = input.lineId
      · have hfind : db.folioLineItems.find? input.lineId = some l :=
          Table.find?_eq_some.mpr ⟨hl, hid⟩
        have hother : l.reservationId ≠ input.reservationId := by
          intro hr
          simp [lineOnFolio, hfind, hr] at hfound
        rw [if_pos hid]
        exact if_neg hother
      · rw [if_neg hid]
    simp only [eval_pure, Effect.run, HotelDb.account, Multiset.map_coe]
    rw [List.map_congr_left hkeep, List.map_id']
  | some line =>
    obtain ⟨hfind, hres⟩ := Option.filter_eq_some_iff.mp hfound
    obtain ⟨hmem, hid⟩ := Table.find?_eq_some.mp hfind
    have hres : line.reservationId = input.reservationId := by simpa using hres
    obtain ⟨b, hb⟩ := eval_intraStateForId db input.reservationId
    let gst := lineTax (line.taxCategory.getD (categoryFor line.kind)) line.amountPaise b input.exempt
    have hupdate : (updateLines db (fun l => l.id = line.id)
        (LineTaxExemptInput.set input gst now)).account =
          Effect.run db.account (.editLine (exemptEdit input now)) := by
      refine account_updateLines fun l hl => ?_
      unfold LineEdit.apply exemptEdit
      by_cases hl' : l.id = line.id
      · obtain rfl : l = line := eq_of_key_eq hl hmem hl'
        simp only [decide_true, if_true, hid, hres, taxOf, gst]
        rw [lineTax_intraState]
      · have hne : l.id ≠ input.lineId := hid ▸ hl'
        simp [hl', hne]
    rw [← hupdate]
    simp only [eval_simps, hb, logEvent]
    rfl

theorem keyTaken_iff {input : RecordPaymentInput} :
    keyTaken input db = true ↔
      ∃ p ∈ db.folioPayments, samePayment (paymentRow input) p = true := by
  unfold keyTaken
  cases hk : input.idempotencyKey with
  | none => simp [samePayment, paymentRow, hk]
  | some k =>
    simp only [Option.bind_some, findPaymentByKey, List.find?_isSome, samePayment, paymentRow, hk,
      Option.isSome_some, Bool.true_and, and_decide_eq]
    constructor
    · rintro ⟨p, hp, hres, hkey⟩
      exact ⟨p, hp, hres.symm, hkey.symm⟩
    · rintro ⟨p, hp, hres, hkey⟩
      exact ⟨p, hp, hres.symm, hkey.symm⟩

theorem account_recordPayment (input : RecordPaymentInput) (now : ℤ) :
    ((recordPayment input now).eval .idle db).2.2.account =
      Effect.run db.account (.enterPayment (paymentRow input)) := by
  have htaken : keyTaken input db = true →
      Effect.run db.account (.enterPayment (paymentRow input)) = db.account := by
    intro h
    obtain ⟨p, hp, hsame⟩ := keyTaken_iff.mp h
    have henter : enter samePayment (paymentRow input) db.account.payments = db.account.payments :=
      enter_of_clash (Multiset.mem_coe.mpr hp) hsame
    simp only [Effect.run, henter]
  rw [eval_recordPayment]
  cases hrow : paymentOf input db with
  | some p => exact (htaken (keyTaken_of_paymentOf hrow)).symm
  | none =>
    cases hkey : keyTaken input db with
    | true => exact (htaken hkey).symm
    | false =>
      have hfree : ∀ p ∈ db.folioPayments, samePayment (paymentRow input) p = false := by
        intro p hp
        by_contra hsame
        rw [keyTaken_iff.mpr ⟨p, hp, by simpa using hsame⟩] at hkey
        cases hkey
      have henter : enter samePayment (paymentRow input) (db.folioPayments : Multiset FolioPayment)
          = paymentRow input ::ₘ (db.folioPayments : Multiset FolioPayment) := enter_of_free hfree
      simp only [Bool.false_eq_true, if_false, Effect.run, HotelDb.account, henter,
        Account.mk.injEq]
      exact ⟨rfl, Multiset.coe_eq_coe.mpr (List.perm_append_singleton _ _)⟩

theorem FolioOp.account_run (op : FolioOp) : (op.run db).account = op.effect.run db.account := by
  rw [FolioOp.run, Prog.run_db]
  cases op with
  | postCharge input id now => rw [FolioOp.prog, eval_discard, account_postCharge, FolioOp.effect]
  | applyDiscount input id now =>
    obtain ⟨line, heval⟩ := eval_postCharge db (ApplyDiscountInput.charge input) id now
    have hpost := account_postCharge db (ApplyDiscountInput.charge input) id now
    rw [heval] at hpost
    rw [FolioOp.prog, eval_discard, FolioService.applyDiscount, eval_bind, heval]
    cases line with
    | none => exact hpost
    | some line => exact hpost
  | voidLine input now => rw [FolioOp.prog, eval_discard, account_voidLine, FolioOp.effect]
  | setLineTaxExempt input now =>
    rw [FolioOp.prog, eval_discard, account_setLineTaxExempt, FolioOp.effect]
  | recordPayment input now =>
    rw [FolioOp.prog, eval_discard, account_recordPayment, FolioOp.effect]

end Eval

/-! ## Different rows -/

/-- The two effects are on different rows. -/
def Effect.Apart : Effect → Effect → Prop
  | .enterLine row, .enterLine row' => sameLine row row' = false
  | .enterLine row, .editLine e => row.id ≠ e.lineId
  | .editLine e, .enterLine row => row.id ≠ e.lineId
  | .editLine e, .editLine e' => e.lineId ≠ e'.lineId
  | .enterPayment p, .enterPayment p' => samePayment p p' = false
  | _, _ => True

theorem sameLine_comm (l l' : FolioLineItem) : sameLine l l' = sameLine l' l := by
  have hiff : sameLine l l' = true ↔ sameLine l' l = true := by
    simp only [sameLine, Bool.or_eq_true, and_decide_eq]
    constructor
    · rintro (hid | ⟨⟨⟨ht, hi⟩, htype⟩, hsource⟩)
      · exact .inl hid.symm
      · exact .inr ⟨⟨⟨htype ▸ ht, hsource ▸ hi⟩, htype.symm⟩, hsource.symm⟩
    · rintro (hid | ⟨⟨⟨ht, hi⟩, htype⟩, hsource⟩)
      · exact .inl hid.symm
      · exact .inr ⟨⟨⟨htype ▸ ht, hsource ▸ hi⟩, htype.symm⟩, hsource.symm⟩
  exact Bool.eq_iff_iff.mpr hiff

theorem samePayment_comm (p p' : FolioPayment) : samePayment p p' = samePayment p' p := by
  have hiff : ∀ p p' : FolioPayment, samePayment p p' = true → samePayment p' p = true := by
    intro p p'
    simp only [samePayment, and_decide_eq]
    rintro ⟨⟨hkey, hres⟩, heq⟩
    exact ⟨⟨heq ▸ hkey, hres.symm⟩, heq.symm⟩
  exact Bool.eq_iff_iff.mpr ⟨hiff p p', hiff p' p⟩

theorem LineEdit.sameLine_apply (e : LineEdit) (row l : FolioLineItem) :
    sameLine row (e.apply l) = sameLine row l := by
  unfold LineEdit.apply
  split
  · simp only [sameLine, e.id_set, (e.source_set l).1, (e.source_set l).2]
  · rfl

theorem LineEdit.apply_id (e : LineEdit) (l : FolioLineItem) : (e.apply l).id = l.id := by
  unfold LineEdit.apply
  split
  · exact e.id_set l
  · rfl

theorem LineEdit.apply_of_ne {e : LineEdit} {l : FolioLineItem} (h : l.id ≠ e.lineId) :
    e.apply l = l := if_neg h

theorem LineEdit.apply_comm {e e' : LineEdit} (h : e.lineId ≠ e'.lineId) (l : FolioLineItem) :
    e'.apply (e.apply l) = e.apply (e'.apply l) := by
  by_cases he : l.id = e.lineId
  · have hl : e'.apply l = l := apply_of_ne (he ▸ h)
    have hl' : e'.apply (e.apply l) = e.apply l := apply_of_ne (by rw [e.apply_id, he]; exact h)
    rw [hl, hl']
  · have hl : e.apply l = l := apply_of_ne he
    have hl' : e.apply (e'.apply l) = e'.apply l := apply_of_ne (by rw [e'.apply_id]; exact he)
    rw [hl, hl']

theorem LineEdit.map_enter {e : LineEdit} {row : FolioLineItem} (h : row.id ≠ e.lineId)
    (l : Multiset FolioLineItem) :
    (enter sameLine row l).map e.apply = enter sameLine row (l.map e.apply) :=
  Claims.map_enter (e.sameLine_apply row) (apply_of_ne h)

theorem Effect.run_comm {e e' : Effect} (h : e.Apart e') (a : Account) :
    e'.run (e.run a) = e.run (e'.run a) := by
  cases e with
  | enterLine row =>
    cases e' with
    | enterLine row' =>
      have hsame : sameLine row row' = false := h
      simp only [run, enter_comm hsame ((sameLine_comm row' row).trans hsame)]
    | editLine e' => simp only [run, LineEdit.map_enter h]
    | enterPayment p => rfl
  | editLine e =>
    cases e' with
    | enterLine row => simp only [run, LineEdit.map_enter h]
    | editLine e' =>
      simp only [run, Multiset.map_map, Function.comp_def, LineEdit.apply_comm h]
    | enterPayment p => rfl
  | enterPayment p =>
    cases e' with
    | enterLine row => rfl
    | editLine e' => rfl
    | enterPayment p' =>
      have hsame : samePayment p p' = false := h
      simp only [run, enter_comm hsame ((samePayment_comm p' p).trans hsame)]

end Travelo
