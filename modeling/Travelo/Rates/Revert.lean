import Travelo.Rates.Total

/-!
# Rules that are switched off

A price a rule wrote is stale when the rule is deleted, switched off or does not match the day
any more. The worker runs the rules of the properties that have one switched on, and a run
visits the types that are on sale. `worker_reverts_iff`: after a run of the worker no stale
price is left at a property exactly when each one found is where the worker comes by, and is
not the very price the rule now in force gives.
-/

namespace Travelo

open ReadCommitted RatesService

/-- The calls that change the rules or run them. -/
inductive RuleCall where
  | create (propertyId roomTypeId : Id) (dto : CreatePricingRuleDto) (id : Id)
  | update (propertyId id : Id) (dto : UpdatePricingRuleDto)
  | remove (propertyId id : Id) (now : ℤ)
  | worker (now : ℤ) (batchId : Id → ℕ → Id)

def RuleCall.prog : RuleCall → Op Unit
  | .create propertyId roomTypeId dto id =>
    RatePlansService.createPricingRule propertyId roomTypeId dto id
  | .update propertyId id dto => RatePlansService.updatePricingRule propertyId id dto
  | .remove propertyId id now => RatePlansService.removePricingRule propertyId id now
  | .worker now batchId => do
    let _ ← RevenueRuleWorker.run now batchId
    return ()

/-- The state after some calls, each carried out before the next. -/
def runRuleCalls (calls : List RuleCall) (db : HotelDb) : HotelDb :=
  calls.foldl (fun db call => (call.prog.run db).db) db

/-- The days a run of the worker prices. -/
def horizon (now : ℤ) : List ℤ := datesFrom (today now) (addDays (today now) RULE_HORIZON_DAYS)

/-- The cell of a type on a day of the horizon. -/
def horizonCell (now : ℤ) (db : HotelDb) (t : RoomType) (d : ℤ) : RateDayCell :=
  cellAt t.propertyId (today now) (addDays (today now) RULE_HORIZON_DAYS) db t d

/-- The rule exists, is switched on and matches the day. -/
def InForce (now : ℤ) (db : HotelDb) (t : RoomType) (d : ℤ) (ruleId : Id) : Prop :=
  ∃ r ∈ db.pricingRules.rows, r.id = ruleId ∧ r.propertyId = t.propertyId ∧ r.roomTypeId = t.id ∧
    r.live = true ∧
      RevenueEngineService.«matches» r d (horizonCell now db t d).occupancyPct = true

/-- The day carries a price of a rule that is not in force. -/
def Stale (now : ℤ) (db : HotelDb) (t : RoomType) (d : ℤ) : Prop :=
  ∃ _ ∈ (db.priceAt (t.id, none, d)).1, ∃ ruleId ∈ (db.priceAt (t.id, none, d)).2,
    ¬InForce now db t d ruleId

instance (now : ℤ) (db : HotelDb) (t : RoomType) (d : ℤ) (ruleId : Id) :
    Decidable (InForce now db t d ruleId) :=
  inferInstanceAs (Decidable (∃ _ ∈ _, _))

instance (now : ℤ) (db : HotelDb) (t : RoomType) (d : ℤ) : Decidable (Stale now db t d) :=
  inferInstanceAs (Decidable (∃ _ ∈ _, _))

/-- The worker comes by and changes the price: the property has a rule switched on, the type is
on sale, and the rule that is in force, if any, gives another price. -/
def Reverts (now : ℤ) (db : HotelDb) (t : RoomType) (d : ℤ) : Prop :=
  (∃ r ∈ db.pricingRules.rows, r.propertyId = t.propertyId ∧ r.live = true) ∧
    t.active = true ∧ t.deletedAt = none ∧
    ∀ rule ∈ RevenueEngineService.ruleFor (RevenueEngineService.nightRules t.propertyId {} db)
        (horizonCell now db t d),
      (db.priceAt (t.id, none, d)).1 ≠
        some (RevenueEngineService.target t.propertyId db (horizonCell now db t d) rule)

instance (now : ℤ) (db : HotelDb) (t : RoomType) (d : ℤ) : Decidable (Reverts now db t d) :=
  instDecidableAnd

namespace RevenueEngineService

section House

variable {propertyId : Id} {opts : RunRulesOpts} {now : ℤ} {db s : HotelDb} {c : RateDayCell}

theorem priceAt_dayOf (hown : OwnRow propertyId (keyOf c) db) :
    db.priceAt (keyOf c) = ((dayOf propertyId db c).bind (·.pricePaise),
      (dayOf propertyId db c).bind (·.pricingRuleId)) := by
  have hday : dayOf propertyId db c = db.rateInventoryDays.find? (keyOf c) := by
    rw [dayOf, planDay_eq]
    cases hrow : db.rateInventoryDays.find? (keyOf c) with
    | none =>
      have : db.rateInventoryDays.find? (c.roomTypeId, none, c.date) = none := hrow
      rw [this]
      rfl
    | some row =>
      have : db.rateInventoryDays.find? (c.roomTypeId, none, c.date) = some row := hrow
      rw [this, Option.filter_some_pos (by simpa using hown row hrow)]
  rw [hday]
  rfl

theorem change_house (h : SameHouse db s) (hrow : SameRow (keyOf c) db s) :
    change propertyId opts s c = change propertyId opts db c := by
  have hday : dayOf propertyId s c = dayOf propertyId db c := dayOf_congr hrow
  have hbase : engineBase propertyId s c = engineBase propertyId db c := by
    unfold engineBase listedOverrides
    rw [h.roomTypes, h.rateOverrides]
  have hfloor : floorOf propertyId s = floorOf propertyId db := by
    unfold floorOf
    rw [h.propertySettings]
  obtain ⟨f, hf, hrule⟩ := @ruleFor_again propertyId opts db s c c h rfl rfl rfl
  unfold change edit typed ruledPrice target
  rw [hrule, hday, hbase, hfloor]
  cases ruleFor (nightRules propertyId opts db) c with
  | none => rfl
  | some rule =>
    obtain ⟨stamp, hstamp⟩ := hf rule
    simp only [Option.map_some, hstamp]
    rfl

theorem cellAt_house {fromDate toDate d : ℤ} {t : RoomType} (h : SameHouse db s)
    (ht : t ∈ shownTypes propertyId db) (hd : fromDate ≤ d ∧ d < toDate)
    (hrow : SameRow (t.id, none, d) db s) :
    cellAt propertyId fromDate toDate s t d = cellAt propertyId fromDate toDate db t d := by
  have hshown : shownTypes propertyId s = shownTypes propertyId db := by
    unfold shownTypes
    rw [h.roomTypes]
  have hids : t.id ∈ (shownTypes propertyId db).map RoomType.id := List.mem_map_of_mem ht
  have hfind : ∀ db', (dayRows propertyId ((shownTypes propertyId db).map RoomType.id) fromDate
      toDate none db').find? (fun r => r.roomTypeId = t.id && r.date = d) =
        planDay propertyId t.id none d db' := fun db' => dayRows_find?_plan hids hd
  have hday : planDay propertyId t.id none d s = planDay propertyId t.id none d db := by
    rw [planDay_eq, planDay_eq]
    exact congrArg (Option.filter _) hrow
  unfold cellAt gridCell ChannexSyncService.inventory ChannexSyncService.staysInPlay
  simp only [hshown, hfind, hday, h.rooms, h.reservations, h.rateOverrides]

end House

/-! ## A run of one property -/

section Run

variable {propertyId : Id} {now : ℤ} {batchId : ℕ → Id} {db s s' : HotelDb} {t : RoomType} {d : ℤ}

/-- The type is on sale. -/
def OnSale (t : RoomType) : Prop := t.active = true ∧ t.deletedAt = none

theorem mem_shownTypes_iff (ht : t ∈ db.roomTypes) :
    t ∈ shownTypes propertyId db ↔ t.propertyId = propertyId ∧ OnSale t := by
  rw [shownTypes, List.mem_insertionSort, List.mem_filter]
  simp only [and_decide_eq, Option.isNone_iff_eq_none, OnSale]
  exact ⟨fun h => ⟨h.2.1.1, h.2.2, h.2.1.2⟩, fun h => ⟨ht, ⟨h.1, h.2.2⟩, h.2.1⟩⟩

theorem horizonCell_visited (ht : t ∈ db.roomTypes) (hsale : OnSale t) (hd : d ∈ horizon now) :
    horizonCell now db t d ∈ visited t.propertyId {} now db := by
  refine mem_visited.mpr ⟨t, (mem_shownTypes_iff ht).mpr ⟨rfl, hsale⟩, ?_, d, hd, rfl⟩
  refine List.mem_map_of_mem (List.mem_filter.mpr ⟨ht, ?_⟩)
  simp [hsale.1, hsale.2]

/-- What a run of its property makes of a day of a type. -/
def After (now : ℤ) (db : HotelDb) (t : RoomType) (d : ℤ) (s : HotelDb) : Prop :=
  (OnSale t → Changed t.propertyId {} db (horizonCell now db t d) s) ∧
    (¬OnSale t → SameRow (t.id, none, d) db s)

theorem After.congr (h : After now db t d s) (hrow : SameRow (t.id, none, d) s s') :
    After now db t d s' :=
  ⟨fun hsale => (h.1 hsale).congr hrow, fun hsale => SameRow.trans _ _ _ (h.2 hsale) hrow⟩

theorem After.house (hhouse : SameHouse db s) (ht : t ∈ db.roomTypes) (hd : d ∈ horizon now)
    (hrow : SameRow (t.id, none, d) db s) (h : After now s t d s') : After now db t d s' := by
  refine ⟨fun hsale => ?_, fun hsale => SameRow.trans _ _ _ hrow (h.2 hsale)⟩
  have hcell : horizonCell now s t d = horizonCell now db t d :=
    cellAt_house hhouse ((mem_shownTypes_iff ht).mpr ⟨rfl, hsale⟩) (mem_datesFrom.mp hd) hrow
  have hchanged := h.1 hsale
  rw [hcell] at hchanged
  have hsame : SameRow (keyOf (horizonCell now db t d)) db s := hrow
  unfold Changed at hchanged ⊢
  rw [change_house hhouse hsame] at hchanged
  cases hchange : change t.propertyId {} db (horizonCell now db t d) with
  | none =>
    rw [hchange] at hchanged
    exact SameRow.trans _ _ _ hsame hchanged
  | some e =>
    rw [hchange] at hchanged
    exact hchanged

/-- A run ends well, keeps the house, and touches the types of its property only. -/
theorem run_after (hs : SoundRows db) :
    ∃ res s, (run propertyId {} now batchId).eval .idle db = (.ok res, .idle, s) ∧ SoundRows s ∧
      SameHouse db s ∧ ∀ t ∈ db.roomTypes, ∀ d ∈ horizon now,
        (t.propertyId = propertyId → After now db t d s) ∧
          (t.propertyId ≠ propertyId → SameRow (t.id, none, d) db s) := by
  have hwindow : assertWindow (today now) (horizonEnd {} now) = .ok () := by
    have hend : horizonEnd {} now = today now + 90 := rfl
    have h₁ : today now < horizonEnd {} now := by omega
    have h₂ : ¬MAX_RATE_WINDOW_DAYS < horizonEnd {} now - today now := by
      rw [MAX_RATE_WINDOW_DAYS]
      omega
    rw [assertWindow, if_neg (not_not.mpr h₁), if_neg h₂]
  obtain ⟨res, s, heval, hsound⟩ := @run_succeeds propertyId {} now batchId db hwindow hs
  refine ⟨res, s, heval, hsound, run_sameHouse heval, fun t ht d hd => ?_⟩
  have hframe : ¬(t.propertyId = propertyId ∧ OnSale t) → SameRow (t.id, none, d) db s := by
    intro hnot
    have halone := @run_row_frame propertyId {} now batchId db (t.id, none, d) ?_
    · have hrun := halone.2
      rwa [heval] at hrun
    · intro c hc hkey
      obtain ⟨t', ht', -, d', -, rfl⟩ := mem_visited.mp hc
      have hid : t.id = t'.id := (Prod.mk.inj hkey).1
      have hmem' := (mem_shownTypes.mp ht').1
      rw [eq_of_key_eq ht hmem' hid] at hnot
      exact hnot ((mem_shownTypes_iff hmem').mp ht')
  refine ⟨?_, fun hother => hframe fun h => hother h.1⟩
  rintro rfl
  refine ⟨fun hsale => ?_, fun hsale => hframe fun h => hsale h.2⟩
  exact run_changed rfl heval (horizonCell_visited ht hsale hd)

end Run

end RevenueEngineService

/-! ## A run of the worker -/

namespace RevenueRuleWorker

open RevenueEngineService

variable {now : ℤ} {batchId : Id → ℕ → Id} {db : HotelDb}

theorem runProperties : ∀ {ids : List Id} {db : HotelDb}, ids.Nodup → SoundRows db →
    ∃ results s, (all (fun propertyId => runProperty now (batchId propertyId) propertyId)
        ids).eval .idle db = (.ok results, .idle, s) ∧ SoundRows s ∧ SameHouse db s ∧
      ∀ t ∈ db.roomTypes, ∀ d ∈ horizon now,
        (t.propertyId ∈ ids → After now db t d s) ∧
          (t.propertyId ∉ ids → SameRow (t.id, none, d) db s) := by
  intro ids
  induction ids with
  | nil =>
    intro db _ hs
    refine ⟨[], db, rfl, hs, SameHouse.refl db, fun t _ d _ => ⟨fun h => ?_, fun _ => rfl⟩⟩
    cases h
  | cons propertyId ids ih =>
    intro db hnodup hs
    obtain ⟨hfresh, hnodup'⟩ := List.nodup_cons.mp hnodup
    obtain ⟨res, s₁, heval, hs₁, hhouse₁, hrows₁⟩ :=
      @run_after propertyId now (batchId propertyId) db hs
    obtain ⟨results, s₂, hrest, hs₂, hhouse₂, hrows₂⟩ := ih hnodup' hs₁
    refine ⟨some res :: results, s₂, ?_, hs₂, hhouse₁.trans hhouse₂, fun t ht d hd => ?_⟩
    · have hone : (runProperty now (batchId propertyId) propertyId).eval .idle db =
          (.ok (some res), .idle, s₁) := by
        simp only [runProperty, eval_tryCatch, eval_simps, heval]
      rw [all, eval_bind', hone]
      show ((all _ ids).bind _).eval .idle s₁ = _
      rw [eval_bind', hrest]
      rfl
    · obtain ⟨hown₁, hother₁⟩ := hrows₁ t ht d hd
      obtain ⟨hin₂, hout₂⟩ := hrows₂ t (hhouse₁.roomTypes ▸ ht) d hd
      refine ⟨fun hmem => ?_, fun hmem => ?_⟩
      · rcases List.mem_cons.mp hmem with hown | hin
        · exact (hown₁ hown).congr (hout₂ (hown ▸ hfresh))
        · have hne : t.propertyId ≠ propertyId := fun heq => hfresh (heq ▸ hin)
          exact (hin₂ hin).house hhouse₁ ht hd (hother₁ hne)
      · obtain ⟨hne, hout⟩ := not_or.mp fun h => hmem (List.mem_cons.mpr h)
        exact SameRow.trans _ _ _ (hother₁ hne) (hout₂ hout)

theorem run_after (hs : SoundRows db) :
    ∃ results s, (run now batchId).eval .idle db = (.ok results, .idle, s) ∧ SoundRows s ∧
      SameHouse db s ∧ ∀ t ∈ db.roomTypes, ∀ d ∈ horizon now,
        (t.propertyId ∈ properties db → After now db t d s) ∧
          (t.propertyId ∉ properties db → SameRow (t.id, none, d) db s) := by
  obtain ⟨results, s, heval, hrest⟩ :=
    @runProperties now batchId (properties db) db (List.nodup_dedup _) hs
  refine ⟨results, s, ?_, hrest⟩
  rw [run, eval_bind, eval_select_idle]
  exact heval

theorem mem_properties {propertyId : Id} : propertyId ∈ properties db ↔
    ∃ r ∈ db.pricingRules.rows, r.propertyId = propertyId ∧ r.live = true := by
  simp only [properties, List.mem_dedup, List.mem_map, List.mem_filter]
  constructor
  · rintro ⟨r, ⟨hr, hlive⟩, hproperty⟩
    exact ⟨r, hr, hproperty, hlive⟩
  · rintro ⟨r, hr, hproperty, hlive⟩
    exact ⟨r, ⟨hr, hlive⟩, hproperty⟩

end RevenueRuleWorker

/-! ## Stale prices -/

section Stale

open RevenueEngineService

variable {now : ℤ} {db s : HotelDb} {t : RoomType} {d : ℤ} {ruleId : Id}

theorem inForce_house (h : SameHouse db s) :
    InForce now s t d ruleId ↔ InForce now db t d ruleId := by
  obtain ⟨f, hf, hrules⟩ := h.pricingRules
  have hoccupancy : (horizonCell now s t d).occupancyPct = (horizonCell now db t d).occupancyPct :=
    occupancyPct_again h
  unfold InForce
  rw [hrules, hoccupancy]
  constructor
  · rintro ⟨_, hmem, hall⟩
    obtain ⟨r, hr, rfl⟩ := List.mem_map.mp hmem
    obtain ⟨stamp, hstamp⟩ := hf r
    rw [hstamp] at hall
    exact ⟨r, hr, hall⟩
  · rintro ⟨r, hr, hall⟩
    refine ⟨f r, List.mem_map_of_mem hr, ?_⟩
    obtain ⟨stamp, hstamp⟩ := hf r
    rw [hstamp]
    exact hall

theorem stale_congr (h : SameHouse db s) (hrow : SameRow (t.id, none, d) db s) :
    Stale now s t d ↔ Stale now db t d := by
  have hprice : s.priceAt (t.id, none, d) = db.priceAt (t.id, none, d) := hrow.samePrice
  unfold Stale
  rw [hprice]
  simp only [inForce_house h]

theorem ruleFor_inForce {rule : PricingRule}
    (hrule : ruleFor (nightRules t.propertyId {} db) (horizonCell now db t d) = some rule) :
    InForce now db t d rule.id := by
  have hmatch := List.find?_some hrule
  obtain ⟨hmem, htype⟩ := List.mem_filter.mp (List.mem_of_find?_eq_some hrule)
  have hlive := (List.mem_filter.mp ((List.mem_insertionSort _).mp hmem)).1
  obtain ⟨hrow, hkept⟩ := List.mem_filter.mp hlive
  simp only [and_decide_eq] at hkept htype
  exact ⟨rule, hrow, rfl, hkept.1.1, htype, hkept.2, hmatch⟩

theorem Stale.ruled (h : Stale now db t d) (ht : t ∈ db.roomTypes) (hs : SoundRows db) :
    typed t.propertyId db (horizonCell now db t d) = false ∧
      ruledPrice t.propertyId db (horizonCell now db t d) = (db.priceAt (t.id, none, d)).1 ∧
        (db.priceAt (t.id, none, d)).1.isSome := by
  obtain ⟨price, hprice, ruleId, hrule, -⟩ := h
  have hown : OwnRow t.propertyId (keyOf (horizonCell now db t d)) db := hs.ownRow ht
  have hat := priceAt_dayOf hown
  rw [show keyOf (horizonCell now db t d) = (t.id, none, d) from rfl] at hat
  rw [hat] at hprice hrule ⊢
  obtain ⟨day, hday, hd⟩ := Option.bind_eq_some_iff.mp hprice
  obtain ⟨day', hday', htag⟩ := Option.bind_eq_some_iff.mp hrule
  obtain rfl : day = day' := Option.some.inj (hday.symm.trans hday')
  have htyped : typed t.propertyId db (horizonCell now db t d) = false := by
    simp [typed, hday, htag]
  exact ⟨htyped, ruledPrice_of_not_typed htyped, Option.isSome_iff_exists.mpr ⟨price, hprice⟩⟩

theorem not_stale_after (ht : t ∈ db.roomTypes) (hs : SoundRows db) (h : SameHouse db s)
    (hlive : ∃ r ∈ db.pricingRules.rows, r.propertyId = t.propertyId ∧ r.live = true)
    (hsale : OnSale t) (hafter : Changed t.propertyId {} db (horizonCell now db t d) s) :
    ¬Stale now s t d ↔ (Stale now db t d → Reverts now db t d) := by
  unfold Changed at hafter
  cases htyped : typed t.propertyId db (horizonCell now db t d) with
  | true =>
    -- a person's price is not stale, and it is left alone
    rw [change_typed htyped] at hafter
    have hfresh : ¬Stale now db t d := by
      intro hstale
      have hfree := (hstale.ruled ht hs).1
      rw [htyped] at hfree
      cases hfree
    have hkept : SameRow (t.id, none, d) db s := hafter
    rw [stale_congr h hkept]
    exact ⟨fun _ hstale => absurd hstale hfresh, fun _ => hfresh⟩
  | false =>
    cases hrule : ruleFor (nightRules t.propertyId {} db) (horizonCell now db t d) with
    | none =>
      rw [change_no_rule htyped hrule] at hafter
      split_ifs at hafter with hprice
      · -- the price is cleared
        have hcleared : s.priceAt (t.id, none, d) = (none, none) := hafter.1
        refine ⟨fun _ _ => ⟨hlive, hsale.1, hsale.2, fun rule hr => ?_⟩, fun _ => ?_⟩
        · rw [hrule] at hr
          cases hr
        · rintro ⟨price, hp, -⟩
          rw [hcleared] at hp
          cases hp
      · have hfresh : ¬Stale now db t d := by
          intro hstale
          obtain ⟨-, hruled, hsome⟩ := hstale.ruled ht hs
          rw [← hruled] at hsome
          exact hprice hsome
        have hkept : SameRow (t.id, none, d) db s := hafter
        rw [stale_congr h hkept]
        exact ⟨fun _ hstale => absurd hstale hfresh, fun _ => hfresh⟩
    | some rule =>
      rw [change_rule htyped hrule] at hafter
      split_ifs at hafter with hsame
      · -- the rule in force gives the very price that is there
        have hkept : SameRow (t.id, none, d) db s := hafter
        rw [stale_congr h hkept]
        refine ⟨fun hfresh hstale => absurd hstale hfresh, fun hreverts hstale => ?_⟩
        obtain ⟨-, hruled, -⟩ := hstale.ruled ht hs
        exact (hreverts hstale).2.2.2 rule hrule (hruled.symm.trans hsame)
      · -- the rule in force writes its own price
        have hwritten : s.priceAt (t.id, none, d) =
          (some (target t.propertyId db (horizonCell now db t d) rule), some rule.id) := hafter.1
        refine ⟨fun _ hstale => ⟨hlive, hsale.1, hsale.2, fun rule' hr => ?_⟩, fun _ => ?_⟩
        · obtain rfl : rule = rule' := Option.some.inj (hrule.symm.trans hr)
          rw [← (hstale.ruled ht hs).2.1]
          exact hsame
        · rintro ⟨price, -, ruleId, hr, hout⟩
          rw [hwritten] at hr
          obtain rfl : rule.id = ruleId := Option.some.inj hr
          exact hout ((inForce_house h).mpr (ruleFor_inForce hrule))

/-- A run of the worker leaves no stale price on a day exactly when it comes by. -/
theorem worker_day {batchId : Id → ℕ → Id} (hs : SoundRows db) (ht : t ∈ db.roomTypes)
    (hd : d ∈ horizon now) :
    ¬Stale now ((RevenueRuleWorker.run now batchId).run db).db t d ↔
      (Stale now db t d → Reverts now db t d) := by
  obtain ⟨results, s, heval, -, hhouse, hrows⟩ := @RevenueRuleWorker.run_after now batchId db hs
  have hrun : ((RevenueRuleWorker.run now batchId).run db).db = s := by
    rw [Prog.run_db, heval]
  rw [hrun]
  obtain ⟨hin, hout⟩ := hrows t ht d hd
  -- where the row is left alone nothing is reverted
  have hmissed : SameRow (t.id, none, d) db s → ¬Reverts now db t d →
      (¬Stale now s t d ↔ (Stale now db t d → Reverts now db t d)) := by
    intro hrow hnot
    rw [stale_congr hhouse hrow]
    exact ⟨fun hfresh hstale => absurd hstale hfresh, fun h hstale => hnot (h hstale)⟩
  by_cases hvisited : t.propertyId ∈ RevenueRuleWorker.properties db
  · by_cases hsale : OnSale t
    · exact not_stale_after ht hs hhouse (RevenueRuleWorker.mem_properties.mp hvisited) hsale
        ((hin hvisited).1 hsale)
    · exact hmissed ((hin hvisited).2 hsale) fun h => hsale ⟨h.2.1, h.2.2.1⟩
  · exact hmissed (hout hvisited) fun h => hvisited (RevenueRuleWorker.mem_properties.mpr h.1)

end Stale

/-! ## Histories -/

section History

/-- The two states have the same types, and the rows stay sound. -/
def KeepsRows (s s' : HotelDb) : Prop :=
  s'.roomTypes = s.roomTypes ∧ (SoundRows s → SoundRows s')

theorem KeepsRows.refl (s : HotelDb) : KeepsRows s s := ⟨rfl, id⟩

theorem KeepsRows.trans (s s' s'' : HotelDb) (h : KeepsRows s s') (h' : KeepsRows s' s'') :
    KeepsRows s s'' := ⟨h'.1.trans h.1, fun hs => h'.2 (h.2 hs)⟩

theorem setPricingRule_keeps {propertyId id : Id} {f : PricingRule → PricingRule}
    {hf : ∀ r, (f r).id = r.id} :
    (RatePlansService.setPricingRule propertyId id f hf).Alone KeepsRows :=
  .bind KeepsRows.trans (.write _ _ fun _ => ⟨rfl, fun hs => hs⟩) fun _ => .throwIf KeepsRows.refl _ _

theorem RuleCall.keeps (call : RuleCall) {db : HotelDb} (hs : SoundRows db) :
    ((call.prog.run db).db).roomTypes = db.roomTypes ∧ SoundRows (call.prog.run db).db := by
  have hedit : call.prog.Alone KeepsRows →
      ((call.prog.run db).db).roomTypes = db.roomTypes ∧ SoundRows (call.prog.run db).db := by
    intro halone
    obtain ⟨htypes, hsound⟩ := halone.run db
    exact ⟨htypes, hsound hs⟩
  cases call with
  | create propertyId roomTypeId dto id =>
    refine hedit (.bind KeepsRows.trans (.bind KeepsRows.trans (.select KeepsRows.refl _ _) fun _ =>
      .orThrow KeepsRows.refl _ _) fun _ => .bind KeepsRows.trans (.lift KeepsRows.refl _) fun _ =>
      .write _ _ fun _ => ⟨rfl, fun hs => hs⟩)
  | update propertyId id dto =>
    refine hedit (.bind KeepsRows.trans (.bind KeepsRows.trans (.select KeepsRows.refl _ _) fun _ =>
      .orThrow KeepsRows.refl _ _) fun _ => .bind KeepsRows.trans (.lift KeepsRows.refl _) fun _ =>
      setPricingRule_keeps)
  | remove propertyId id now =>
    refine hedit (.bind KeepsRows.trans (.bind KeepsRows.trans (.select KeepsRows.refl _ _) fun _ =>
      .orThrow KeepsRows.refl _ _) fun _ => setPricingRule_keeps)
  | worker now batchId =>
    obtain ⟨results, s, heval, hsound, hhouse, -⟩ :=
      @RevenueRuleWorker.run_after now batchId db hs
    have hrun : ((RuleCall.worker now batchId).prog.run db).db = s := by
      show (Prog.run (do
        let _ ← RevenueRuleWorker.run now batchId
        return ()) db).db = s
      rw [Prog.run_discard_db, Prog.run_db, heval]
    rw [hrun]
    exact ⟨hhouse.roomTypes, hsound⟩

theorem runRuleCalls_keeps : ∀ {calls : List RuleCall} {db : HotelDb}, SoundRows db →
    (runRuleCalls calls db).roomTypes = db.roomTypes ∧ SoundRows (runRuleCalls calls db) := by
  intro calls
  induction calls with
  | nil => exact fun hs => ⟨rfl, hs⟩
  | cons call calls ih =>
    intro db hs
    obtain ⟨htypes, hs'⟩ := call.keeps hs
    obtain ⟨htypes', hs''⟩ := ih hs'
    exact ⟨htypes'.trans htypes, hs''⟩

end History

/-- A deluxe type with no rules and no rates of its own. -/
def plainHouse : HotelDb where
  roomTypes := (∅ : Table RoomType.id).insert
    { id := 1, propertyId := 1, name := "Deluxe", baseRate := 400000 }

/-- A rule of +20% on night 3, which the worker applies. -/
def festivalNight : List RuleCall :=
  [.create 1 1 { trigger := .SPECIAL_DATE, startDate := some 3, endDate := some 3
                 adjustmentValue := 2000 } 9,
    .worker 0 fun _ => id]

end Travelo
