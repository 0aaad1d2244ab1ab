import Travelo.Rates.House

/-!
# Running the rules again

The base of a cell is worked out twice over: from the grid, or, where a rule wrote the price,
from the list of the overrides. Each takes the first override of an order of its own, and the
guest is charged the dearest. `engine_stable_iff`: the engine starts from the price a guest
would be charged without the rules, and a second run writes nothing, exactly when in each of
the two orders the dearest override comes first.
-/

namespace Travelo

open ReadCommitted RatesService

/-- The state without the prices rules wrote. -/
def HotelDb.withoutRulePrices (db : HotelDb) : HotelDb :=
  { db with
    rateInventoryDays := db.rateInventoryDays.update RateInventoryDay.ruled
      fun d => { d with pricePaise := none, pricingRuleId := none } }

namespace RevenueEngineService

/-! ## The base of a cell -/

section Overrides

variable {propertyId roomTypeId : Id} {fromDate toDate d : ℤ} {db : HotelDb}

theorem mem_listedOverrides {o : RateOverride} :
    o ∈ listedOverrides propertyId roomTypeId d db ↔
      o ∈ coveringOverrides propertyId roomTypeId d db := by
  simp only [listedOverrides, coveringOverrides, List.mem_filter, List.mem_insertionSort,
    and_decide_eq]
  tauto

/-- The price of the first of the list is the one a guest is charged exactly when no other is
dearer. -/
theorem listedOverride_iff (hd : fromDate ≤ d ∧ d < toDate) :
    (listedOverrides propertyId roomTypeId d db).head?.map (·.ratePaise) =
        ((overridesOf propertyId roomTypeId fromDate toDate db).find? fun o =>
          o.startDate ≤ d && d ≤ o.endDate).map (·.ratePaise) ↔
      DearestFirst (listedOverrides propertyId roomTypeId d db) := by
  have hmem : ∀ o, o ∈ listedOverrides propertyId roomTypeId d db ↔
      o ∈ (db.rateOverrides.filter fun o => o.propertyId = propertyId && o.roomTypeId = roomTypeId &&
          o.startDate ≤ addDays toDate (-1) && fromDate ≤ o.endDate && o.deletedAt.isNone) ∧
        (o.startDate ≤ d && d ≤ o.endDate) = true := by
    intro o
    rw [mem_listedOverrides, coveringOverrides_eq hd, List.mem_filter]
  unfold DearestFirst
  rw [listedOverrides, List.head?_filter]
  refine (Claims.find?_highest_iff fun o => ?_).trans ?_
  · rw [← hmem o, listedOverrides, List.mem_filter]
  · rw [← List.head?_filter]
    constructor
    · intro h o ho o' ho'
      obtain ⟨hin, hcovers⟩ := (hmem o').mp ho'
      exact h o ho o' hin hcovers
    · intro h o ho o' hin hcovers
      exact h o ho o' ((hmem o').mpr ⟨hin, hcovers⟩)

theorem listedOverride_isSome (hd : fromDate ≤ d ∧ d < toDate) :
    (listedOverrides propertyId roomTypeId d db).head?.isSome =
      ((overridesOf propertyId roomTypeId fromDate toDate db).find? fun o =>
        o.startDate ≤ d && d ≤ o.endDate).isSome := by
  rw [← nightOverride_isSome hd, Bool.eq_iff_iff]
  simp only [List.isSome_head?, ne_eq, List.eq_nil_iff_forall_not_mem, mem_listedOverrides]

end Overrides

section Base

variable {propertyId : Id} {opts : RunRulesOpts} {now : ℤ} {db : HotelDb} {c : RateDayCell}

/-- The base the engine works out for the cell is the price of the night when the prices rules
wrote are gone. -/
def BaseRight (propertyId : Id) (db : HotelDb) (c : RateDayCell) : Prop :=
  ((basePrice propertyId c).run db).res.map (fun price => [price]) =
    ((nightlyPrices propertyId c.roomTypeId c.date (addDays c.date 1) none).run
      db.withoutRulePrices).res.map (List.map (·.pricePaise))

theorem dayPrice_withoutRulePrices (htyped : typed propertyId db c = false) :
    dayPrice propertyId c.roomTypeId none c.date db.withoutRulePrices = none := by
  unfold typed dayOf at htyped
  rw [planDay_eq] at htyped
  rw [dayPrice, planDay_eq]
  simp only [HotelDb.withoutRulePrices, find?_update]
  cases hrow : db.rateInventoryDays.find? (c.roomTypeId, none, c.date) with
  | none => rfl
  | some day =>
    rw [hrow] at htyped
    by_cases hown : day.propertyId = propertyId
    · cases hprice : day.pricePaise <;> cases htag : day.pricingRuleId <;>
        simp_all [Option.filter, RateInventoryDay.ruled]
    · by_cases hruled : day.ruled = true <;> simp [Option.filter, hruled, hown]

theorem getD_inj {a b : Option ℤ} {base : ℤ} (h : a.isSome = b.isSome) :
    a.getD base = b.getD base ↔ a = b := by
  cases a <;> cases b <;> simp_all

/-- The overrides of the cell's night in the order the engine goes through. -/
def foundOverrides (propertyId : Id) (db : HotelDb) (c : RateDayCell) : List RateOverride :=
  if c.priceSource = .day then listedOverrides propertyId c.roomTypeId c.date db
  else coveringOverrides propertyId c.roomTypeId c.date db

theorem engineBase_eq (hc : c ∈ visited propertyId opts now db) :
    ∃ type ∈ db.roomTypes, type.id = c.roomTypeId ∧ type.propertyId = propertyId ∧
      engineBase propertyId db c =
        ((foundOverrides propertyId db c).head?.map (·.ratePaise)).getD type.baseRate := by
  obtain ⟨type, htype, hid, hproperty, hprice, hsource⟩ := visited_cell hc
  refine ⟨type, htype, hid, hproperty, ?_⟩
  unfold engineBase foundOverrides
  by_cases hday : c.priceSource = .day
  · have hfound : db.roomTypes.find? c.roomTypeId = some type := by
      rw [← hid]
      exact find?_key htype
    rw [if_pos hday, if_pos hday, hfound]
    rfl
  · have hnone : dayPrice propertyId c.roomTypeId none c.date db = none := by
      rw [visited_source hc] at hday
      simpa using hday
    rw [if_neg hday, if_neg hday, hprice, hnone, Option.getD_none]

theorem foundOverride_iff :
    (foundOverrides propertyId db c).head?.map (·.ratePaise) =
        ((overridesOf propertyId c.roomTypeId c.date (addDays c.date 1) db).find? fun o =>
          o.startDate ≤ c.date && c.date ≤ o.endDate).map (·.ratePaise) ↔
      DearestFirst (foundOverrides propertyId db c) := by
  have hd : c.date ≤ c.date ∧ c.date < addDays c.date 1 := by
    simp only [addDays]
    omega
  unfold foundOverrides
  split_ifs
  · exact listedOverride_iff hd
  · exact nightOverride_iff hd

theorem foundOverride_isSome :
    (foundOverrides propertyId db c).head?.isSome =
      ((overridesOf propertyId c.roomTypeId c.date (addDays c.date 1) db).find? fun o =>
        o.startDate ≤ c.date && c.date ≤ o.endDate).isSome := by
  have hd : c.date ≤ c.date ∧ c.date < addDays c.date 1 := by
    simp only [addDays]
    omega
  unfold foundOverrides
  split_ifs
  · exact listedOverride_isSome hd
  · exact nightOverride_isSome hd

theorem baseRight_iff (hc : c ∈ visited propertyId opts now db)
    (htyped : typed propertyId db c = false) :
    BaseRight propertyId db c ↔ DearestFirst (foundOverrides propertyId db c) := by
  obtain ⟨type, htype, hid, hproperty, hengine⟩ := engineBase_eq hc
  have hbase : (basePrice propertyId c).eval .idle db = (.ok (engineBase propertyId db c), .idle, db) :=
    basePrice_eval hc (RatesOnly.refl db) rfl
  have hnights := nightlyPrices_day (d := c.date) (s := db.withoutRulePrices) htype hproperty
  rw [hid] at hnights
  have hcharged := dayPrice_withoutRulePrices htyped
  have hright : BaseRight propertyId db c ↔ engineBase propertyId db c =
      (((overridesOf propertyId c.roomTypeId c.date (addDays c.date 1) db).find? fun o =>
        o.startDate ≤ c.date && c.date ≤ o.endDate).map (·.ratePaise)).getD type.baseRate := by
    unfold BaseRight
    rw [Prog.run_res, Prog.run_res, hbase, hnights, nightOf_eq, hid, hcharged]
    simp [Except.map]
    rfl
  rw [hright, hengine, ← foundOverride_iff]
  refine getD_inj ?_
  rw [Option.isSome_map, Option.isSome_map, foundOverride_isSome]

end Base

/-! ## The next run -/

section Again

variable {propertyId : Id} {opts : RunRulesOpts} {now now' : ℤ} {batchId : ℕ → Id}
  {db db' : HotelDb} {c c' : RateDayCell}

/-- Where the dearest override comes first in both orders, the rule gives the next run the same
price. -/
theorem target_again {rule : PricingRule} {f : PricingRule → PricingRule} (hf : Stamps f)
    (h : SameHouse db db')
    (hc : c ∈ visited propertyId opts now db) (hc' : c' ∈ visited propertyId opts now' db')
    (htype : c'.roomTypeId = c.roomTypeId) (hdate : c'.date = c.date)
    (hday : c'.priceSource = .day) (hfound : DearestFirst (foundOverrides propertyId db c))
    (hlisted : DearestFirst (listedOverrides propertyId c.roomTypeId c.date db)) :
    target propertyId db' c' (f rule) = target propertyId db c rule := by
  have hd : c.date ≤ c.date ∧ c.date < addDays c.date 1 := by
    simp only [addDays]
    omega
  obtain ⟨type, hmem, hid, -, hbase⟩ := engineBase_eq hc
  obtain ⟨type', hmem', hid', -, hbase'⟩ := engineBase_eq hc'
  have hsame : type' = type :=
    eq_of_key_eq (h.roomTypes ▸ hmem') hmem (hid'.trans (htype.trans hid.symm))
  have hlist : foundOverrides propertyId db' c' =
      listedOverrides propertyId c.roomTypeId c.date db := by
    rw [foundOverrides, if_pos hday, listedOverrides, h.rateOverrides, htype, hdate]
    rfl
  have hfirst : (listedOverrides propertyId c.roomTypeId c.date db).head?.map (·.ratePaise) =
      (foundOverrides propertyId db c).head?.map (·.ratePaise) :=
    ((listedOverride_iff hd).mpr hlisted).trans (foundOverride_iff.mpr hfound).symm
  have hfloor : floorOf propertyId db' = floorOf propertyId db := by
    rw [floorOf, h.propertySettings]
    rfl
  have hengine : engineBase propertyId db' c' = engineBase propertyId db c := by
    rw [hbase, hbase', hlist, hfirst, hsame]
  unfold target
  rw [hfloor, hengine, apply_stamped hf]

/-- A rule is applied to the cell. -/
def Applied (propertyId : Id) (opts : RunRulesOpts) (db : HotelDb) (c : RateDayCell) : Prop :=
  typed propertyId db c = false ∧ (ruleFor (nightRules propertyId opts db) c).isSome

instance (propertyId : Id) (opts : RunRulesOpts) (db : HotelDb) (c : RateDayCell) :
    Decidable (Applied propertyId opts db c) := instDecidableAnd

theorem dayOf_again (htype : c'.roomTypeId = c.roomTypeId) (hdate : c'.date = c.date) :
    dayOf propertyId db' c' = dayOf propertyId db' c := by
  rw [dayOf, htype, hdate]
  rfl

variable {res : RuleRunResult} {t : Tx HotelDb}

/-- A cell a rule was applied to shows its price, and the rule is applied to it again. -/
theorem applied_again (hdry : opts.dryRun = false)
    (heval : (run propertyId opts now batchId).eval .idle db = (.ok res, t, db'))
    (hc : c ∈ visited propertyId opts now db) (hc' : c' ∈ visited propertyId opts now' db')
    (htype : c'.roomTypeId = c.roomTypeId) (hdate : c'.date = c.date)
    (hoccupancy : c'.occupancyPct = c.occupancyPct) (happlied : Applied propertyId opts db c) :
    Applied propertyId opts db' c' ∧ c'.priceSource = .day := by
  obtain ⟨htyped, hsome⟩ := happlied
  obtain ⟨rule, hrule⟩ := Option.isSome_iff_exists.mp hsome
  obtain ⟨htyped', hruled⟩ := run_ruled hdry heval hc htyped hrule
  obtain ⟨f, hf, hagain⟩ := ruleFor_again (run_sameHouse heval) htype hdate hoccupancy
  have hday := @dayOf_again propertyId db' c c' htype hdate
  refine ⟨⟨by rwa [typed, hday], by rw [hagain, hrule]; rfl⟩, ?_⟩
  rw [visited_source hc']
  rw [ruledPrice_of_not_typed htyped', ← hday] at hruled
  exact Option.isSome_iff_exists.mpr ⟨_, hruled⟩

/-- Where the engine would find the dearest override in both orders there is nothing left to
change. -/
theorem change_again (hdry : opts.dryRun = false)
    (heval : (run propertyId opts now batchId).eval .idle db = (.ok res, t, db'))
    (hc : c ∈ visited propertyId opts now db) (hc' : c' ∈ visited propertyId opts now' db')
    (htype : c'.roomTypeId = c.roomTypeId) (hdate : c'.date = c.date)
    (hoccupancy : c'.occupancyPct = c.occupancyPct)
    (hdearest : Applied propertyId opts db c → DearestFirst (foundOverrides propertyId db c) ∧
      DearestFirst (listedOverrides propertyId c.roomTypeId c.date db)) :
    change propertyId opts db' c' = none := by
  have hday := @dayOf_again propertyId db' c c' htype hdate
  obtain ⟨f, hf, hagain⟩ := ruleFor_again (run_sameHouse heval) htype hdate hoccupancy
  cases htyped : typed propertyId db c with
  | true =>
    have hkept := run_changed hdry heval hc
    unfold Changed at hkept
    rw [change_typed htyped] at hkept
    refine change_typed ?_
    rw [typed, hday, dayOf_congr hkept]
    exact htyped
  | false =>
    cases hrule : ruleFor (nightRules propertyId opts db) c with
    | none =>
      obtain ⟨htyped', hruled⟩ := run_unruled hdry heval hc htyped hrule
      rw [change_no_rule (by rwa [typed, hday]) (by rw [hagain, hrule]; rfl), ruledPrice, hday,
        ← ruledPrice, hruled]
      rfl
    | some rule =>
      have happlied : Applied propertyId opts db c := ⟨htyped, by rw [hrule]; rfl⟩
      obtain ⟨hfound, hlisted⟩ := hdearest happlied
      obtain ⟨htyped', hruled⟩ := run_ruled hdry heval hc htyped hrule
      have hsource := (applied_again hdry heval hc hc' htype hdate hoccupancy happlied).2
      rw [change_rule (by rwa [typed, hday]) (by rw [hagain, hrule]; rfl), ruledPrice, hday,
        ← ruledPrice, hruled, target_again hf (run_sameHouse heval) hc hc' htype hdate hsource hfound
          hlisted]
      exact if_pos rfl

/-- A cell that a rule is applied to after a run is one the run applied a rule to. -/
theorem applied_before (hdry : opts.dryRun = false)
    (heval : (run propertyId opts now batchId).eval .idle db = (.ok res, t, db'))
    (hc : c ∈ visited propertyId opts now db) (htype : c'.roomTypeId = c.roomTypeId)
    (hdate : c'.date = c.date) (hoccupancy : c'.occupancyPct = c.occupancyPct)
    (happlied : Applied propertyId opts db' c') : Applied propertyId opts db c := by
  obtain ⟨htyped, hsome⟩ := happlied
  obtain ⟨f, hf, hagain⟩ := ruleFor_again (run_sameHouse heval) htype hdate hoccupancy
  refine ⟨?_, by rwa [hagain, Option.isSome_map] at hsome⟩
  by_contra hne
  have hkept := run_changed hdry heval hc
  unfold Changed at hkept
  rw [change_typed (by simpa using hne)] at hkept
  rw [typed, dayOf_again htype hdate, dayOf_congr hkept] at htyped
  exact hne htyped

theorem dryRun_aloneOn (hdry : opts.dryRun = true) :
    (run propertyId opts now batchId).AloneOn Eq db := by
  have hrefl : ∀ s : HotelDb, s = s := fun _ => rfl
  have htrans : ∀ s s' s'' : HotelDb, s = s' → s' = s'' → s = s'' := fun _ _ _ => Eq.trans
  have hloop : (priceCells propertyId opts now batchId db).Alone Eq := by
    refine .all hrefl htrans fun c hc => priceCell_alone hrefl htrans fun price ruleId s => ?_
    rw [hdry]
    exact ⟨rfl, rfl⟩
  unfold Prog.AloneOn
  rw [run_eval]
  split_ifs with hempty
  · exact ⟨rfl, rfl⟩
  · cases assertWindow (today now) (horizonEnd opts now) with
    | error e => exact ⟨rfl, rfl⟩
    | ok _ =>
      refine Prog.AloneOn.bind htrans (hloop db) fun planned s _ => ?_
      unfold finish Prog.AloneOn
      simp [hdry]

end Again

/-- Wherever a rule is applied the base is right. -/
def BasesRight (propertyId : Id) (opts : RunRulesOpts) (now : ℤ) (db : HotelDb) : Prop :=
  ∀ c ∈ visited propertyId opts now db, Applied propertyId opts db c → BaseRight propertyId db c

/-- A deluxe type with a rule of +20% on night 3, on which some overrides lie. -/
def ruledSeason (overrides : List RateOverride) : HotelDb where
  roomTypes := (∅ : Table RoomType.id).insert
    { id := 1, propertyId := 1, name := "Deluxe", baseRate := 400000 }
  rateOverrides := overrides
  pricingRules := (∅ : Table PricingRule.id).insert
    { id := 9, propertyId := 1, roomTypeId := 1, trigger := .SEASON, startDate := some 3
      endDate := some 3, adjustmentValue := 2000 }

/-- A weekend offer, stored before the season it lies in. -/
def offerInSeason : List RateOverride :=
  [{ propertyId := 1, roomTypeId := 1, startDate := 2, endDate := 4, ratePaise := 500000 },
    { propertyId := 1, roomTypeId := 1, startDate := 0, endDate := 9, ratePaise := 900000 }]

end RevenueEngineService

end Travelo
