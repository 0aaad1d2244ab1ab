import Travelo.Rates.Engine

/-!
# Whose price it is

A rule owns the prices it wrote; the tag on the row says so. `typed_price_stays`: a price a
person types stays until the next bulk edit of the cell, whatever is edited and whichever
rules run in between, unless the person typed the very price a rule had written: then the
row is left as it is, tag included, and the price still belongs to the rule.
-/

namespace Travelo

open ReadCommitted RatesService

/-- The calls that write prices. -/
inductive RateCall where
  | bulkUpdate (propertyId : Id) (input : BulkUpdateInput) (batchId : Id) (now : ℤ)
  | runRules (propertyId : Id) (opts : RunRulesOpts) (now : ℤ) (batchId : ℕ → Id)

namespace RateCall

def prog : RateCall → Op Unit
  | .bulkUpdate propertyId input batchId now => do
    let _ ← RatesService.bulkUpdate propertyId input batchId now
    return ()
  | .runRules propertyId opts now batchId => do
    let _ ← RevenueEngineService.run propertyId opts now batchId
    return ()

/-- The call is a bulk edit that ends well and sets the price of a cell. -/
def Sets (key : Id × Option Id × ℤ) (db : HotelDb) : RateCall → Prop
  | .bulkUpdate propertyId input batchId now => Prices input key ∧
      ∃ res, ((RatesService.bulkUpdate propertyId input batchId now).run db).res = .ok res
  | .runRules _ _ _ _ => False

end RateCall

/-- The state after some calls, each carried out before the next. -/
def runRates (calls : List RateCall) (db : HotelDb) : HotelDb :=
  calls.foldl (fun db call => (call.prog.run db).db) db

/-- The row is in its cell, with a price that no rule wrote. -/
structure HandTyped (key : Id × Option Id × ℤ) (row : RateInventoryDay) (db : HotelDb) :
    Prop where
  stored : db.rateInventoryDays.find? key = some row
  priced : row.pricePaise.isSome = true
  untagged : row.pricingRuleId = none

theorem HandTyped.congr {key : Id × Option Id × ℤ} {row : RateInventoryDay} {s s' : HotelDb}
    (h : SameRow key s s') (hs : HandTyped key row s) : HandTyped key row s' :=
  ⟨Eq.trans h hs.stored, hs.priced, hs.untagged⟩

namespace RevenueEngineService

section Keeps

variable {propertyId : Id} {opts : RunRulesOpts} {now : ℤ} {db : HotelDb}
  {key : Id × Option Id × ℤ} {row : RateInventoryDay}

/-- The cell of the row: the run finds the price and passes over it, or the row is of another
property and cannot be written. -/
theorem priceCell_handTyped {floor : ℤ} {rules : List PricingRule} {typeIds : List Id}
    {dryRun : Bool} {batchId : Id} {c : RateDayCell} (h : HandTyped (keyOf c) row db)
    (hc : c.roomTypeId ∈ typeIds) :
    (priceCell propertyId floor rules (baseRows propertyId typeIds db) dryRun now c batchId).Alone
      fun s s' => HandTyped (keyOf c) row s → HandTyped (keyOf c) row s' := by
  by_cases hown : row.propertyId = propertyId
  · have hday : (baseRows propertyId typeIds db).find?
        (fun d => d.roomTypeId = c.roomTypeId && d.date = c.date) = some row := by
      rw [baseRows_find? hc, planDay_eq,
        show db.rateInventoryDays.find? (c.roomTypeId, none, c.date) = some row from h.stored,
        Option.filter_some_pos (by simpa using hown)]
    intro s
    have htyped : row.pricePaise.isSome && row.pricingRuleId.isNone := by
      simp [h.priced, h.untagged]
    simp only [Prog.AloneOn, priceCell, hday, Option.any_some, htyped, if_true, eval_pure]
    exact ⟨trivial, id⟩
  · refine priceCell_alone (fun _ => id) (fun _ _ _ h h' hs => h' (h hs)) fun price ruleId =>
      .when (fun _ => id) _ (.bind (fun _ _ _ h h' hs => h' (h hs)) ?_ fun _ =>
        .pure (fun _ => id) _)
    intro s
    refine ⟨(bulkUpdate_ratesOnly s).1, fun hs => ?_⟩
    exact .congr (bulkUpdate_alien hs.stored hown).2 hs

theorem run_handTyped {batchId : ℕ → Id} (h : HandTyped key row db) :
    HandTyped key row ((run propertyId opts now batchId).run db).db := by
  have halone : (run propertyId opts now batchId).AloneOn
      (fun s s' => HandTyped key row s → HandTyped key row s') db := by
    refine run_aloneOn (fun _ => id) (fun _ _ _ h h' hs => h' (h hs))
      (fun s rules hs => ⟨hs.1, hs.2, hs.3⟩) fun c hc batchId => ?_
    by_cases hkey : key = keyOf c
    · subst hkey
      exact priceCell_handTyped h (visited_type hc)
    · exact (priceCell_row_frame hkey).mono fun _ _ h' => HandTyped.congr h'
  exact halone.run h

end Keeps

end RevenueEngineService

/-! ## Runs -/

section Runs

variable {key : Id × Option Id × ℤ} {db : HotelDb}

theorem priceAt_untagged {price : ℤ} : db.priceAt key = (some price, none) ↔
    ∃ row, HandTyped key row db ∧ row.pricePaise = some price := by
  unfold HotelDb.priceAt
  constructor
  · intro h
    cases hrow : db.rateInventoryDays.find? key with
    | none => simp [hrow] at h
    | some row =>
      obtain ⟨hprice, htag⟩ : row.pricePaise = some price ∧ row.pricingRuleId = none := by
        simpa [hrow] using h
      exact ⟨row, ⟨hrow, by simp [hprice], htag⟩, hprice⟩
  · rintro ⟨row, hrow, hprice⟩
    simp [hrow.stored, hprice, hrow.untagged]

/-- The step: a call that does not set the price of a cell keeps a price that was typed there. -/
theorem RateCall.keeps_typed {call : RateCall} {price : ℤ} (hcall : ¬call.Sets key db)
    (h : db.priceAt key = (some price, none)) :
    ((call.prog.run db).db).priceAt key = (some price, none) := by
  cases call with
  | bulkUpdate propertyId input batchId now =>
    show (Prog.run (do
      let _ ← RatesService.bulkUpdate propertyId input batchId now
      return ()) db).db.priceAt key = _
    rw [Prog.run_discard_db, Prog.run_db]
    by_cases hprices : Prices input key
    · -- the edit that would set the price fails
      rcases heval : (RatesService.bulkUpdate propertyId input batchId now).eval .idle db with
        ⟨e | res, t, db'⟩
      · rw [bulkUpdate_error heval]
        exact h
      · exact absurd ⟨hprices, res, by rw [Prog.run_res, heval]⟩ hcall
    · exact Eq.trans (bulkUpdate_price_frame hprices db).2 h
  | runRules propertyId opts now batchId =>
    show (Prog.run (do
      let _ ← RevenueEngineService.run propertyId opts now batchId
      return ()) db).db.priceAt key = _
    rw [Prog.run_discard_db]
    obtain ⟨row, hrow, hprice⟩ := priceAt_untagged.mp h
    exact priceAt_untagged.mpr ⟨row, RevenueEngineService.run_handTyped hrow, hprice⟩

/-- The run: calls none of which sets the price of a cell keep a price that was typed there. -/
theorem runRates_keeps_typed {price : ℤ} : ∀ {calls : List RateCall} {db : HotelDb},
    db.priceAt key = (some price, none) →
    (∀ before call after, calls = before ++ call :: after →
      ¬call.Sets key (runRates before db)) →
    (runRates calls db).priceAt key = (some price, none) := by
  intro calls
  induction calls with
  | nil => exact fun h _ => h
  | cons call calls ih =>
    intro db h hcalls
    have hstep := RateCall.keeps_typed (hcalls [] call calls rfl) h
    refine ih hstep fun before call' after heq => ?_
    exact hcalls (call :: before) call' after (by rw [heq]; rfl)

end Runs

/-- A price a person types stays until a bulk edit sets the price of its cell again, whatever
happens before and in between, unless a rule had written the very same price there. -/
theorem typed_price_stays (before between : List RateCall) (db : HotelDb) (propertyId : Id)
    (input : BulkUpdateInput) (batchId : Id) (now : ℤ) (cell : Id × ℤ) (price : ℤ)
    (res : BulkUpdateResult)
    (hperson : input.actorKind ≠ some .RULE)
    (hprice : input.set.pricePaise = some (some price)) (hdelta : input.set.priceDeltaBp = none)
    (hcell : cell ∈ input.cells)
    (hok : ((bulkUpdate propertyId input batchId now).run (runRates before db)).res = .ok res)
    (howner : ∀ rule, (runRates before db).priceAt (input.keyOf cell) ≠ (some price, some rule))
    (hbetween : ∀ pre call post, between = pre ++ call :: post →
      ¬call.Sets (input.keyOf cell)
        (runRates (before ++ .bulkUpdate propertyId input batchId now :: pre) db)) :
    ((runRates (before ++ .bulkUpdate propertyId input batchId now :: between) db).priceAt
      (input.keyOf cell)).1 = some price := by
  have hruns : ∀ pre, runRates (before ++ .bulkUpdate propertyId input batchId now :: pre) db =
      runRates pre ((bulkUpdate propertyId input batchId now).run (runRates before db)).db := by
    intro pre
    rw [← Prog.run_discard_db]
    simp only [runRates, List.foldl_append, List.foldl_cons]
    rfl
  rw [hruns]
  simp only [hruns] at hbetween
  generalize runRates before db = s at hok howner hbetween
  suffices h : ((bulkUpdate propertyId input batchId now).run s).db.priceAt (input.keyOf cell) =
      (some price, none) by
    rw [runRates_keeps_typed h hbetween]
  rw [Prog.run_res] at hok
  rw [Prog.run_db]
  rcases heval : (bulkUpdate propertyId input batchId now).eval .idle s with ⟨r, t, s'⟩
  rw [heval] at hok
  cases hok
  have htag : input.tag = none := by simp [BulkUpdateInput.tag, hperson]
  have hset := bulkUpdate_priced heval hprice hdelta hcell
  rw [htag] at hset
  show s'.priceAt (input.keyOf cell) = _
  rw [hset]
  split_ifs with hsame
  · -- the price was there already, and it was not a rule's
    obtain ⟨row, hrow, hrowprice⟩ := Option.bind_eq_some_iff.mp hsame
    rw [planDay_eq] at hrow
    have hfind : s.rateInventoryDays.find? (input.keyOf cell) = some row :=
      (Option.filter_eq_some_iff.mp hrow).1
    have hat : s.priceAt (input.keyOf cell) = (some price, row.pricingRuleId) := by
      simp [HotelDb.priceAt, hfind, hrowprice]
    rw [hat]
    cases hrule : row.pricingRuleId with
    | none => rfl
    | some rule => exact absurd (hrule ▸ hat) (howner rule)
  · rfl

/-! ## A price typed over a rule's -/

/-- A deluxe type whose night 3 a rule priced when the house was full; the house is empty now. -/
def ruledNight : HotelDb where
  roomTypes := (∅ : Table RoomType.id).insert
    { id := 1, propertyId := 1, name := "Deluxe", baseRate := 400000 }
  pricingRules := (∅ : Table PricingRule.id).insert
    { id := 9, propertyId := 1, roomTypeId := 1, trigger := .OCCUPANCY, threshold := some 80
      adjustmentValue := 2000 }
  rateInventoryDays := (∅ : Table RateInventoryDay.key).insert
    { propertyId := 1, roomTypeId := 1, ratePlanId := none, date := 3
      pricePaise := some 480000, pricingRuleId := some 9 }

/-- A member of staff types a price for night 3. -/
def typeNight (price : ℤ) : BulkUpdateInput where
  roomTypeIds := [1]
  ranges := [⟨3, 3⟩]
  set := { pricePaise := some (some price) }
  actorStaffId := some 5
  actorKind := some .STAFF

/-- Typing the price the rule had written leaves it with the rule, which then takes it back. -/
theorem typed_price_lost :
    ((bulkUpdate 1 (typeNight 480000) 20 0).run ruledNight).res = .ok ⟨some 20, 1, 0⟩ ∧
      (runRates [.bulkUpdate 1 (typeNight 480000) 20 0] ruledNight).priceAt (1, none, 3) =
        (some 480000, some 9) ∧
      (runRates [.bulkUpdate 1 (typeNight 480000) 20 0, .runRules 1 {} 0 id] ruledNight).priceAt
        (1, none, 3) = (none, none) := by
  decide

/-- Another price stays. -/
theorem typed_price_kept :
    ((runRates ([] ++ .bulkUpdate 1 (typeNight 450000) 20 0 :: [.runRules 1 {} 0 id])
      ruledNight).priceAt (1, none, 3)).1 = some 450000 := by
  refine typed_price_stays [] [.runRules 1 {} 0 id] ruledNight 1 (typeNight 450000) 20 0 (1, 3)
    450000 ⟨some 20, 1, 1⟩ (by decide) rfl rfl (by decide) (by decide) ?_ ?_
  · intro rule h
    simp [runRates, HotelDb.priceAt, ruledNight, Table.find?, Table.insert, Table.hasKey,
      typeNight, BulkUpdateInput.keyOf, RateInventoryDay.key] at h
  · intro pre call post heq hsets
    cases pre with
    | nil =>
      cases heq
      exact hsets
    | cons _ pre => cases pre <;> cases heq

end Travelo
