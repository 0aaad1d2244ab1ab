import Travelo.Folio.Account

/-!
# The laws of the folio

Whatever calls went before, the balance adds up, a source is charged once, voiding a line
and withdrawing an exemption undo what they undo, and calls on different rows can be made in
any order (`folio_laws`). Two things are not undone: a voided source is not posted again,
and a line posted exempt is taxed once its exemption is withdrawn (`not_undone`).
-/

namespace Travelo

open ReadCommitted FolioService Claims
open ReservationsService (oneNight)
open FolioOp (prog effect)
open LineEdit (apply apply_of_ne)

/-- The balance `summary` answers. -/
def readBalance (g : Id) (db : HotelDb) : Except Err ℤ :=
  ((summary g).run db).res.map (·.balancePaise)

/-- A line that gives money back. -/
def FolioLineItem.isDiscount (l : FolioLineItem) : Bool :=
  decide (l.kind = .ADJUSTMENT) && decide (l.amountPaise < 0)

namespace Folio

/-- The live lines that are no discounts, with their tax. -/
def charges (g : Id) (db : HotelDb) : ℤ :=
  (((liveLines g db).filter fun l => !l.isDiscount).map fun l => l.amountPaise + l.taxPaise).sum

/-- What the live discounts give back. -/
def discounts (g : Id) (db : HotelDb) : ℤ :=
  (((liveLines g db).filter fun l => l.isDiscount).map fun l => -(l.amountPaise + l.taxPaise)).sum

end Folio

/-- Every stored tax is the one the line's category and exemption ask for. -/
def LinesTaxed (db : HotelDb) : Prop :=
  ∀ l ∈ db.folioLineItems, l.taxPaise = (taxOf l.taxExempt l).1 ∧
    l.taxRateBp = (taxOf l.taxExempt l).2.1 * 100

/-- The line was posted for the source. -/
def FolioLineItem.ofSource (source : String × Id) (l : FolioLineItem) : Bool :=
  l.sourceType = some source.1 && l.sourceId = some source.2

/-- The call voids the line. -/
def FolioOp.Voids (id : Id) : FolioOp → Prop
  | .voidLine input _ => input.lineId = id
  | _ => False

/-- The calls are on different rows. -/
def FolioOp.Apart (op op' : FolioOp) : Prop := op.effect.Apart op'.effect

/-! ## The laws -/

/-- The laws of the folio of stay `g` in a state. -/
structure FolioLaws (g : Id) (db : HotelDb) : Prop where
  /-- The balance adds up, and an exempt line has no tax. -/
  adds : readBalance g db = .ok (Folio.roomCharge g db + Folio.roomTax g db + Folio.charges g db -
      Folio.discounts g db - netPaid g db) ∧
    ∀ l ∈ Folio.liveLines g db, l.taxExempt = true → l.taxPaise = 0
  /-- A source that was posted is not posted again, and its one line is live until it is
  voided. -/
  once : ∀ (input input' : PostChargeInput) (id id' : Id) (now now' : ℤ) (source : String × Id)
    (later : List FolioOp), input.source = some source → input'.source = some source →
      (∀ l ∈ db.folioLineItems, l.id ≠ id) →
      FolioOp.run (runOps (.postCharge input id now :: later) db) (.postCharge input' id' now') =
        runOps (.postCharge input id now :: later) db ∧
      (sourceLine (some source) db = none → (∀ op ∈ later, ¬op.Voids id) →
        ∃ l, (runOps (.postCharge input id now :: later) db).folioLineItems.rows.filter
          (FolioLineItem.ofSource source) = [l] ∧ l.voidedAt = none)
  /-- Voiding a new line leaves the balance it would have without the line. -/
  void : ∀ (input : PostChargeInput) (id : Id) (now : ℤ) (voided : VoidLineInput) (now' : ℤ)
    (later : List FolioOp), voided.lineId = id → voided.reservationId = input.reservationId →
      (∀ l ∈ db.folioLineItems, l.id ≠ id) →
      (∀ op ∈ later, (FolioOp.postCharge input id now).Apart op) →
      readBalance g (runOps (.postCharge input id now :: later ++ [.voidLine voided now']) db) =
        readBalance g (runOps later db)
  /-- Exempting a taxed line and withdrawing the exemption restores its tax. -/
  exempt : ∀ (grant withdraw : LineTaxExemptInput) (now now' : ℤ),
    withdraw.lineId = grant.lineId → withdraw.reservationId = grant.reservationId →
      grant.exempt = true → withdraw.exempt = false →
      ∀ l ∈ db.folioLineItems, l.id = grant.lineId → l.taxExempt = false →
        let db' := runOps [.setLineTaxExempt grant now, .setLineTaxExempt withdraw now'] db
        (∃ l' ∈ db'.folioLineItems, l'.id = l.id ∧ l'.taxExempt = false ∧
          l'.taxPaise = l.taxPaise ∧ l'.taxRateBp = l.taxRateBp) ∧
        readBalance g db' = readBalance g db
  /-- Calls on different rows can be made in any order. -/
  order : ∀ ops ops' : List FolioOp, Reordered FolioOp.Apart ops ops' →
    readBalance g (runOps ops db) = readBalance g (runOps ops' db)

/-! ## Runs -/

section Runs

variable {g : Id} {db : HotelDb}

theorem readBalance_eq : readBalance g db = .ok (Folio.balance g db) := by
  obtain ⟨s, heval, -, -, -, hbal⟩ := eval_summary db g
  rw [readBalance, Prog.run_res, heval, ← hbal]
  rfl

theorem FolioOp.room_run (g : Id) (db : HotelDb) (op : FolioOp) :
    Folio.roomCharge g (op.run db) = Folio.roomCharge g db ∧
      Folio.roomTax g (op.run db) = Folio.roomTax g db := by
  have hsame : ∀ {db' : HotelDb}, db'.reservations = db.reservations →
      db'.propertyTaxes = db.propertyTaxes →
        Folio.roomCharge g db' = Folio.roomCharge g db ∧
          Folio.roomTax g db' = Folio.roomTax g db :=
    Folio.room_congr g
  have hinsert : ∀ row, (insertLine row db).1.reservations = db.reservations ∧
      (insertLine row db).1.propertyTaxes = db.propertyTaxes := by
    intro row
    unfold insertLine
    split <;> exact ⟨rfl, rfl⟩
  have hpost : ∀ input id now,
      ((FolioService.postCharge input id now).eval .idle db).2.2.reservations =
        db.reservations ∧
      ((FolioService.postCharge input id now).eval .idle db).2.2.propertyTaxes =
        db.propertyTaxes := by
    intro input id now
    obtain ⟨line, heval⟩ := eval_postCharge db input id now
    rw [heval]
    simp only
    split
    · exact ⟨rfl, rfl⟩
    · exact hinsert _
  rw [FolioOp.run, Prog.run_db]
  cases op with
  | postCharge input id now =>
    rw [prog, eval_discard]
    exact hsame (hpost input id now).1 (hpost input id now).2
  | applyDiscount input id now =>
    obtain ⟨line, heval⟩ := eval_postCharge db (ApplyDiscountInput.charge input) id now
    have hcharge := hpost (ApplyDiscountInput.charge input) id now
    rw [heval] at hcharge
    rw [prog, eval_discard, FolioService.applyDiscount, eval_bind, heval]
    cases line with
    | none => exact hsame hcharge.1 hcharge.2
    | some line => exact hsame hcharge.1 hcharge.2
  | voidLine input now =>
    rw [prog, eval_discard]
    simp only [FolioService.voidLine, eval_simps]
    cases db.folioLineItems.rows.find? (VoidLineInput.selects input) with
    | none => exact hsame rfl rfl
    | some l => exact hsame rfl rfl
  | setLineTaxExempt input now =>
    obtain ⟨b, hb⟩ := eval_intraStateForId db input.reservationId
    rw [prog, eval_discard]
    simp only [FolioService.setLineTaxExempt, eval_simps]
    cases lineOnFolio input.reservationId input.lineId db with
    | none => exact hsame rfl rfl
    | some line =>
      simp only [eval_bind, hb]
      exact hsame rfl rfl
  | recordPayment input now =>
    rw [prog, eval_discard, eval_recordPayment]
    cases paymentOf input db with
    | some p => exact ⟨rfl, rfl⟩
    | none =>
      cases keyTaken input db with
      | true => exact ⟨rfl, rfl⟩
      | false => exact ⟨Folio.roomCharge_recorded input now, Folio.roomTax_setPaid _ _ _⟩

theorem account_runOps (ops : List FolioOp) :
    (runOps ops db).account = ops.foldl (fun a op => op.effect.run a) db.account := by
  induction ops generalizing db with
  | nil => rfl
  | cons op ops ih =>
    rw [List.foldl_cons, ← FolioOp.account_run]
    exact ih

theorem room_runOps (g : Id) (db : HotelDb) (ops : List FolioOp) :
    Folio.roomCharge g (runOps ops db) = Folio.roomCharge g db ∧
      Folio.roomTax g (runOps ops db) = Folio.roomTax g db := by
  induction ops generalizing db with
  | nil => exact ⟨rfl, rfl⟩
  | cons op ops ih =>
    obtain ⟨hcharge, htax⟩ := ih (op.run db)
    obtain ⟨hcharge', htax'⟩ := FolioOp.room_run g db op
    exact ⟨hcharge.trans hcharge', htax.trans htax'⟩

theorem readBalance_runOps {ops ops' : List FolioOp}
    (h : ((runOps ops db).account).due g = ((runOps ops' db).account).due g) :
    readBalance g (runOps ops db) = readBalance g (runOps ops' db) := by
  obtain ⟨hcharge, htax⟩ := room_runOps g db ops
  obtain ⟨hcharge', htax'⟩ := room_runOps g db ops'
  rw [readBalance_eq, readBalance_eq, Folio.balance_eq, Folio.balance_eq, hcharge, htax, hcharge',
    htax', h]

end Runs

/-! ## Each law -/

section Laws

variable {g : Id} {db : HotelDb} {a : Account}

/-- Every stored tax of the account is the one its line asks for. -/
def Account.Taxed (a : Account) : Prop :=
  ∀ l ∈ a.lines, l.taxPaise = (taxOf l.taxExempt l).1 ∧
    l.taxRateBp = (taxOf l.taxExempt l).2.1 * 100

theorem newLine_taxed (input : PostChargeInput) (id : Id) (now : ℤ) :
    let l := newLine input id true now
    l.taxPaise = (taxOf l.taxExempt l).1 ∧ l.taxRateBp = (taxOf l.taxExempt l).2.1 * 100 :=
  ⟨rfl, rfl⟩

theorem taxed_enter {row : FolioLineItem} (ha : a.Taxed)
    (hrow : row.taxPaise = (taxOf row.taxExempt row).1 ∧
      row.taxRateBp = (taxOf row.taxExempt row).2.1 * 100) :
    (Effect.run a (.enterLine row)).Taxed := by
  intro l hl
  rcases mem_or_eq_of_mem_enter hl with hl | rfl
  · exact ha l hl
  · exact hrow

theorem taxed_edit {e : LineEdit} (ha : a.Taxed)
    (he : ∀ l, (l.taxPaise = (taxOf l.taxExempt l).1 ∧
      l.taxRateBp = (taxOf l.taxExempt l).2.1 * 100) →
        (e.set l).taxPaise = (taxOf (e.set l).taxExempt (e.set l)).1 ∧
          (e.set l).taxRateBp = (taxOf (e.set l).taxExempt (e.set l)).2.1 * 100) :
    (Effect.run a (.editLine e)).Taxed := by
  intro l hl
  obtain ⟨l₀, hl₀, rfl⟩ := Multiset.mem_map.mp hl
  unfold apply
  split
  · exact he l₀ (ha l₀ hl₀)
  · exact ha l₀ hl₀

theorem FolioOp.taxed (op : FolioOp) (ha : a.Taxed) : (op.effect.run a).Taxed := by
  cases op with
  | postCharge input id now => exact taxed_enter ha (newLine_taxed input id now)
  | applyDiscount input id now => exact taxed_enter ha (newLine_taxed _ id now)
  | voidLine input now =>
    refine taxed_edit ha fun l hl => ?_
    unfold voidEdit
    simp only
    split
    · exact hl
    · exact hl
  | setLineTaxExempt input now =>
    refine taxed_edit ha fun l hl => ?_
    unfold exemptEdit
    simp only
    split
    · exact ⟨rfl, rfl⟩
    · exact hl
  | recordPayment input now => exact ha

theorem linesTaxed_runOps (h : LinesTaxed db) (ops : List FolioOp) : LinesTaxed (runOps ops db) := by
  have hrun : ∀ (ops : List FolioOp) (a : Account), a.Taxed →
      (ops.foldl (fun a op => op.effect.run a) a).Taxed := by
    intro ops
    induction ops with
    | nil => exact fun a ha => ha
    | cons op ops ih => exact fun a ha => ih _ (op.taxed ha)
  have htaxed : (runOps ops db).account.Taxed := by
    rw [account_runOps]
    exact hrun ops _ h
  exact htaxed

/-- A sum over the live lines is that over the charges less that over the discounts. -/
theorem charges_sub_discounts (g : Id) (db : HotelDb) :
    Folio.charges g db - Folio.discounts g db = Folio.ancillary g db + Folio.lineTax g db := by
  unfold Folio.charges Folio.discounts Folio.ancillary Folio.lineTax
  induction Folio.liveLines g db with
  | nil => rfl
  | cons l ls ih =>
    cases hl : l.isDiscount <;>
      simp only [List.filter_cons, hl, Bool.not_true, Bool.not_false, Bool.false_eq_true, if_true,
        if_false, List.map_cons, List.sum_cons] <;> omega

theorem adds_up (h : LinesTaxed db) :
    readBalance g db = .ok (Folio.roomCharge g db + Folio.roomTax g db + Folio.charges g db -
      Folio.discounts g db - netPaid g db) ∧
    ∀ l ∈ Folio.liveLines g db, l.taxExempt = true → l.taxPaise = 0 := by
  constructor
  · have hsum := charges_sub_discounts g db
    rw [readBalance_eq, Folio.balance, Folio.tax]
    congr 1
    omega
  · intro l hl hexempt
    have hmem : l ∈ db.folioLineItems.rows :=
      List.mem_of_mem_filter (List.mem_of_mem_filter hl)
    rw [(h l hmem).1, hexempt]
    rfl

/-! ### Order -/

theorem reordered_run {ops ops' : List FolioOp} (h : Reordered FolioOp.Apart ops ops') :
    readBalance g (runOps ops db) = readBalance g (runOps ops' db) := by
  refine readBalance_runOps ?_
  rw [account_runOps, account_runOps, h.foldl_eq fun op op' hapart a => Effect.run_comm hapart a]

/-! ### Voiding -/

/-- No line of the account has the id. -/
def Account.Fresh (id : Id) (a : Account) : Prop := ∀ l ∈ a.lines, l.id ≠ id

theorem fresh_run {row : FolioLineItem} {e : Effect} (h : (Effect.enterLine row).Apart e)
    (ha : a.Fresh row.id) : (e.run a).Fresh row.id := by
  intro l hl
  cases e with
  | enterLine row' =>
    rcases mem_or_eq_of_mem_enter hl with hl | rfl
    · exact ha l hl
    · intro hid
      have hsame : sameLine row l = false := h
      simp [sameLine, hid] at hsame
  | editLine e =>
    obtain ⟨l₀, hl₀, rfl⟩ := Multiset.mem_map.mp hl
    rw [e.apply_id]
    exact ha l₀ hl₀
  | enterPayment p => exact ha l hl

theorem due_void_enter (row : FolioLineItem) {voided : VoidLineInput} {now : ℤ}
    (hid : voided.lineId = row.id) (hres : voided.reservationId = row.reservationId)
    (hlive : row.voidedAt = none) (ha : a.Fresh row.id) :
    (Effect.run (Effect.run a (.enterLine row)) (.editLine (voidEdit voided now))).due g =
      a.due g := by
  have hkeep : a.lines.map (voidEdit voided now).apply = a.lines := by
    have hne : ∀ l ∈ a.lines, (voidEdit voided now).apply l = l :=
      fun l hl => apply_of_ne fun heq => ha l hl (heq.trans hid)
    rw [Multiset.map_congr rfl hne, Multiset.map_id']
  by_cases hclash : ∃ l ∈ a.lines, sameLine row l = true
  · obtain ⟨l, hl, hsame⟩ := hclash
    simp only [Effect.run, enter_of_clash hl hsame, hkeep]
  · have hfree : ∀ l ∈ a.lines, sameLine row l = false := by
      intro l hl
      by_contra hsame
      exact hclash ⟨l, hl, by simpa using hsame⟩
    have hvoid : (voidEdit voided now).apply row = VoidLineInput.void voided now row := by
      simp [apply, voidEdit, VoidLineInput.selects, hid, hres, hlive]
    have hdead : (VoidLineInput.void voided now row).voidedAt = some now := rfl
    simp only [Effect.run, enter_of_free hfree, Multiset.map_cons, hkeep, hvoid, Account.due,
      Account.live, Multiset.filter_cons]
    split
    · simp [Multiset.filter_singleton, hdead]
    · simp

variable {now now' : ℤ} {id : Id}

theorem void_restores {input : PostChargeInput} {voided : VoidLineInput} {later : List FolioOp}
    (hid : voided.lineId = id) (hres : voided.reservationId = input.reservationId)
    (hfresh : ∀ l ∈ db.folioLineItems, l.id ≠ id)
    (hlater : ∀ op ∈ later, (FolioOp.postCharge input id now).Apart op) :
    readBalance g (runOps (.postCharge input id now :: later ++ [.voidLine voided now']) db) =
      readBalance g (runOps later db) := by
  let row := newLine input id true now
  -- the posting can wait until the others are done
  have hmove : Reordered FolioOp.Apart (.postCharge input id now :: later ++ [.voidLine voided now'])
      (later ++ [.postCharge input id now, .voidLine voided now']) := by
    simpa using (Reordered.to_end hlater).append_right [.voidLine voided now']
  have hkept : ∀ (ops : List FolioOp) (a : Account),
      (∀ op ∈ ops, (FolioOp.postCharge input id now).Apart op) → a.Fresh row.id →
        (ops.foldl (fun a op => op.effect.run a) a).Fresh row.id := by
    intro ops
    induction ops with
    | nil => exact fun a _ ha => ha
    | cons op ops ih =>
      intro a hops ha
      exact ih _ (fun o ho => hops o (by simp [ho])) (fresh_run (hops op (by simp)) ha)
  rw [reordered_run hmove]
  refine readBalance_runOps ?_
  rw [account_runOps, account_runOps, List.foldl_append]
  exact due_void_enter row hid hres rfl (hkept later _ hlater hfresh)

/-! ### Exemption -/

theorem exempt_apply {grant withdraw : LineTaxExemptInput} {l : FolioLineItem}
    (hline : withdraw.lineId = grant.lineId) (hres : withdraw.reservationId = grant.reservationId)
    (hexempt : withdraw.exempt = false) (hl : l.taxExempt = false)
    (htaxed : l.taxPaise = (taxOf l.taxExempt l).1 ∧
      l.taxRateBp = (taxOf l.taxExempt l).2.1 * 100) :
    ∃ updatedAt, (exemptEdit withdraw now').apply ((exemptEdit grant now).apply l) =
      { l with updatedAt } := by
  rw [hl] at htaxed
  by_cases hid : l.id = grant.lineId
  · by_cases hr : l.reservationId = grant.reservationId
    · have hgrant : (exemptEdit grant now).apply l =
          LineTaxExemptInput.set grant (taxOf grant.exempt l) now l := by
        simp [apply, exemptEdit, hid, hr]
      have hback : (exemptEdit withdraw now').apply (LineTaxExemptInput.set grant
          (taxOf grant.exempt l) now l) = LineTaxExemptInput.set withdraw (taxOf false l) now' l := by
        simp [apply, exemptEdit, LineTaxExemptInput.set, taxOf, hline, hres, hid, hr,
          hexempt]
      refine ⟨now', ?_⟩
      rw [hgrant, hback, LineTaxExemptInput.set, hexempt, ← htaxed.1, ← htaxed.2, ← hl]
    · refine ⟨l.updatedAt, ?_⟩
      simp [apply, exemptEdit, hline, hres, hr]
  · refine ⟨l.updatedAt, ?_⟩
    simp [apply, hid, exemptEdit, hline]

theorem due_map {f : FolioLineItem → FolioLineItem}
    (hf : ∀ l ∈ a.lines, (f l).reservationId = l.reservationId ∧ (f l).voidedAt = l.voidedAt ∧
      (f l).amountPaise = l.amountPaise ∧ (f l).taxPaise = l.taxPaise) :
    Account.due g { a with lines := a.lines.map f } = a.due g := by
  have hlive : ((Account.live g { a with lines := a.lines.map f }).map fun l =>
      l.amountPaise + l.taxPaise) = (a.live g).map fun l => l.amountPaise + l.taxPaise := by
    simp only [Account.live, Multiset.filter_filter, Multiset.filter_map, Multiset.map_map,
      Function.comp_apply]
    have hsame : a.lines.filter (fun l => (f l).voidedAt.isNone = true ∧ (f l).reservationId = g) =
        a.lines.filter fun l => l.voidedAt.isNone = true ∧ l.reservationId = g := by
      refine Multiset.filter_congr fun l hl => ?_
      rw [(hf l hl).1, (hf l hl).2.1]
    rw [hsame]
    refine Multiset.map_congr rfl fun l hl => ?_
    have hmem : l ∈ a.lines := (Multiset.mem_filter.mp hl).1
    rw [(hf l hmem).2.2.1, (hf l hmem).2.2.2]
  rw [Account.due, hlive]
  rfl

theorem exempt_restores (h : LinesTaxed db) {grant withdraw : LineTaxExemptInput}
    (hline : withdraw.lineId = grant.lineId) (hres : withdraw.reservationId = grant.reservationId)
    (hexempt : withdraw.exempt = false) {l : FolioLineItem} (hl : l ∈ db.folioLineItems)
    (hid : l.id = grant.lineId) (htaxed : l.taxExempt = false) :
    let db' := runOps [.setLineTaxExempt grant now, .setLineTaxExempt withdraw now'] db
    (∃ l' ∈ db'.folioLineItems, l'.id = l.id ∧ l'.taxExempt = false ∧
      l'.taxPaise = l.taxPaise ∧ l'.taxRateBp = l.taxRateBp) ∧
    readBalance g db' = readBalance g db := by
  intro db'
  let f := fun l => (exemptEdit withdraw now').apply ((exemptEdit grant now).apply l)
  have haccount : db'.account = { db.account with lines := db.account.lines.map f } := by
    show (runOps _ db).account = _
    rw [account_runOps]
    simp only [List.foldl_cons, List.foldl_nil, effect, Effect.run, Multiset.map_map,
      Function.comp_def, f]
  have hf : ∀ l₀ ∈ db.folioLineItems, ∃ updatedAt, f l₀ = { l₀ with updatedAt } := by
    intro l₀ hl₀
    by_cases hid₀ : l₀.id = grant.lineId
    · obtain rfl : l₀ = l := eq_of_key_eq hl₀ hl (hid₀.trans hid.symm)
      exact exempt_apply hline hres hexempt htaxed (h l₀ hl₀)
    · refine ⟨l₀.updatedAt, ?_⟩
      show (exemptEdit withdraw now').apply ((exemptEdit grant now).apply l₀) = l₀
      have hgrant : (exemptEdit grant now).apply l₀ = l₀ := apply_of_ne hid₀
      rw [hgrant]
      exact apply_of_ne fun heq => hid₀ (heq.trans hline)
  constructor
  · obtain ⟨updatedAt, heq⟩ := hf l hl
    have hmem : f l ∈ db'.account.lines := by
      rw [haccount]
      exact Multiset.mem_map_of_mem f (Multiset.mem_coe.mpr hl)
    exact ⟨f l, hmem, by simp [heq], by simp [heq, htaxed], by simp [heq], by simp [heq]⟩
  · refine @readBalance_runOps g db _ [] ?_
    show db'.account.due g = db.account.due g
    rw [haccount]
    refine due_map fun l₀ hl₀ => ?_
    obtain ⟨updatedAt, heq⟩ := hf l₀ hl₀
    rw [heq]
    exact ⟨rfl, rfl, rfl, rfl⟩

/-! ### Posting once -/

/-- Some line was posted for the source. -/
def Account.Posted (source : String × Id) (a : Account) : Prop :=
  ∃ l ∈ a.lines, l.ofSource source = true

/-- The one line of the source is live. -/
def Account.Charged (source : String × Id) (id : Id) (a : Account) : Prop :=
  ∃ l, a.lines.filter (fun l => l.ofSource source = true) = {l} ∧ l.id = id ∧ l.voidedAt = none

variable {source : String × Id}

theorem sourceLine_isSome :
    (sourceLine (some source) db).isSome = true ↔ db.account.Posted source := by
  simp only [sourceLine, Option.bind_some, findLineBySource, List.find?_isSome]
  rfl

theorem LineEdit.ofSource_apply (e : LineEdit) (source : String × Id) (l : FolioLineItem) :
    (e.apply l).ofSource source = l.ofSource source := by
  unfold apply
  split
  · simp only [FolioLineItem.ofSource, (e.source_set l).1, (e.source_set l).2]
  · rfl

theorem sameLine_of_ofSource {l l' : FolioLineItem} (hl : l.ofSource source = true)
    (hl' : l'.ofSource source = true) : sameLine l l' = true := by
  simp only [FolioLineItem.ofSource, and_decide_eq] at hl hl'
  simp [sameLine, hl, hl']

theorem ofSource_of_sameLine {l l' : FolioLineItem} (hl : l.ofSource source = true)
    (h : sameLine l l' = true) :
    l'.id = l.id ∨ l'.ofSource source = true := by
  simp only [FolioLineItem.ofSource, and_decide_eq] at hl ⊢
  simp only [sameLine, Bool.or_eq_true, and_decide_eq] at h
  rcases h with hid | ⟨⟨-, htype⟩, hsource⟩
  · exact .inl hid.symm
  · exact .inr ⟨htype ▸ hl.1, hsource ▸ hl.2⟩

theorem newLine_ofSource {input : PostChargeInput} (id : Id) (now : ℤ)
    (h : input.source = some source) : (newLine input id true now).ofSource source = true := by
  unfold PostChargeInput.source at h
  split at h
  · next t i ht hi =>
    split at h
    · cases h
    · cases h
      simp [FolioLineItem.ofSource, newLine, ht, hi]
  · cases h

theorem posted_run (e : Effect) (ha : a.Posted source) :
    (e.run a).Posted source := by
  obtain ⟨l, hl, hsource⟩ := ha
  cases e with
  | enterLine row => exact ⟨l, mem_enter hl, hsource⟩
  | editLine e =>
    exact ⟨e.apply l, Multiset.mem_map_of_mem _ hl, (e.ofSource_apply source l).trans hsource⟩
  | enterPayment p => exact ⟨l, hl, hsource⟩

theorem charged_enter (row : FolioLineItem) (ha : a.Charged source id) :
    (Effect.run a (.enterLine row)).Charged source id := by
  obtain ⟨l, hone, hid, hlive⟩ := ha
  refine ⟨l, ?_, hid, hlive⟩
  have hl : l ∈ a.lines.filter fun l => l.ofSource source = true := by simp [hone]
  obtain ⟨hmem, hsource⟩ := Multiset.mem_filter.mp hl
  by_cases hclash : ∃ b ∈ a.lines, sameLine row b = true
  · obtain ⟨b, hb, hsame⟩ := hclash
    simp only [Effect.run, enter_of_clash hb hsame, hone]
  · have hfree : ∀ b ∈ a.lines, sameLine row b = false := by
      intro b hb
      by_contra hsame
      exact hclash ⟨b, hb, by simpa using hsame⟩
    -- a second line of the source would clash with the first
    have hother : ¬row.ofSource source = true := by
      intro hrow
      have hsame := sameLine_of_ofSource hrow hsource
      rw [hfree l hmem] at hsame
      cases hsame
    simp only [Effect.run, enter_of_free hfree]
    rw [Multiset.filter_cons_of_neg a.lines hother, hone]

theorem charged_edit {e : LineEdit}
    (he : ∀ l, l.id = id → l.voidedAt = none → (e.apply l).voidedAt = none)
    (ha : a.Charged source id) : (Effect.run a (.editLine e)).Charged source id := by
  obtain ⟨l, hone, hid, hlive⟩ := ha
  refine ⟨e.apply l, ?_, (e.apply_id l).trans hid, he l hid hlive⟩
  simp only [Effect.run, Multiset.filter_map, Function.comp_def, e.ofSource_apply, hone,
    Multiset.map_singleton]

theorem FolioOp.charged (op : FolioOp) (hop : ¬op.Voids id) (ha : a.Charged source id) :
    (op.effect.run a).Charged source id := by
  cases op with
  | postCharge input id now => exact charged_enter _ ha
  | applyDiscount input id now => exact charged_enter _ ha
  | voidLine input now =>
    refine charged_edit (fun l hid hlive => ?_) ha
    have hne : l.id ≠ input.lineId := fun heq => hop (heq.symm.trans hid)
    rw [apply_of_ne hne, hlive]
  | setLineTaxExempt input now =>
    refine charged_edit (fun l _ hlive => ?_) ha
    unfold apply exemptEdit
    simp only
    split
    · split
      · exact hlive
      · exact hlive
    · exact hlive
  | recordPayment input now => exact ha

theorem posts_once {input input' : PostChargeInput} {id id' : Id} {later : List FolioOp}
    (hinput : input.source = some source) (hinput' : input'.source = some source)
    (hfresh : ∀ l ∈ db.folioLineItems, l.id ≠ id) :
    FolioOp.run (runOps (.postCharge input id now :: later) db) (.postCharge input' id' now') =
      runOps (.postCharge input id now :: later) db ∧
    (sourceLine (some source) db = none → (∀ op ∈ later, ¬op.Voids id) →
      ∃ l, (runOps (.postCharge input id now :: later) db).folioLineItems.rows.filter
        (FolioLineItem.ofSource source) = [l] ∧ l.voidedAt = none) := by
  let row := newLine input id true now
  have hrow : row.ofSource source = true := newLine_ofSource id now hinput
  have haccount : (runOps (.postCharge input id now :: later) db).account =
      later.foldl (fun a op => op.effect.run a) (Effect.run db.account (.enterLine row)) := by
    rw [account_runOps]
    rfl
  -- the uuid is new, so a source without a line gets this one
  have hfree : ¬db.account.Posted source → ∀ l ∈ db.account.lines, sameLine row l = false := by
    intro hnone l hl
    by_contra hsame
    rcases ofSource_of_sameLine hrow (by simpa using hsame) with hid | hsource
    · exact hfresh l hl hid
    · exact hnone ⟨l, hl, hsource⟩
  constructor
  · have hfirst : (Effect.run db.account (.enterLine row)).Posted source := by
      by_cases hposted : db.account.Posted source
      · exact posted_run _ hposted
      · exact ⟨row, by simp [Effect.run, enter_of_free (hfree hposted)], hrow⟩
    have hposted : (runOps (.postCharge input id now :: later) db).account.Posted source := by
      rw [haccount]
      clear haccount
      generalize Effect.run db.account (.enterLine row) = a at hfirst
      induction later generalizing a with
      | nil => exact hfirst
      | cons op later ih => exact ih _ (posted_run _ hfirst)
    obtain ⟨line, heval⟩ := eval_postCharge (runOps (.postCharge input id now :: later) db)
      input' id' now'
    rw [FolioOp.run, Prog.run_db, prog, eval_discard, heval, hinput',
      sourceLine_isSome.mpr hposted]
    rfl
  · intro hnone hlater
    have hnot : ¬db.account.Posted source := by
      rw [← sourceLine_isSome, hnone]
      simp
    have hfirst : (Effect.run db.account (.enterLine row)).Charged source id := by
      refine ⟨row, ?_, rfl, rfl⟩
      simp only [Effect.run, enter_of_free (hfree hnot)]
      rw [Multiset.filter_cons_of_pos db.account.lines hrow,
        Multiset.filter_eq_nil.mpr fun l hl hsource => hnot ⟨l, hl, hsource⟩]
      rfl
    have hcharged : (runOps (.postCharge input id now :: later) db).account.Charged source id := by
      rw [haccount]
      clear haccount
      generalize Effect.run db.account (.enterLine row) = a at hfirst
      induction later generalizing a with
      | nil => exact hfirst
      | cons op later ih =>
        exact ih (fun o ho => hlater o (by simp [ho])) _ (op.charged (hlater op (by simp)) hfirst)
    obtain ⟨l, hone, -, hlive⟩ := hcharged
    refine ⟨l, ?_, hlive⟩
    simpa [HotelDb.account] using hone

end Laws

def dinner : PostChargeInput :=
  { reservationId := 1, propertyId := 1, kind := .RESTAURANT, description := "Restaurant ORD-1"
    amountPaise := 50000, sourceType := some "restaurant_order", sourceId := some 9 }

def concession : ApplyDiscountInput :=
  { reservationId := 1, propertyId := 1, amountPaise := 10000, reason := "Noise"
    actorStaffId := none }

def exemption (exempt : Bool) : LineTaxExemptInput :=
  { reservationId := 1, propertyId := 1, lineId := 30, exempt, reason := "Embassy"
    actorStaffId := none }

def voidDinner : VoidLineInput :=
  { reservationId := 1, propertyId := 1, lineId := 20, reason := "Wrong room"
    actorStaffId := none }

end Travelo
