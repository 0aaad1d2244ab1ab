import Travelo.Rates.Engine

/-!
# The prices a run leaves

`change` says what a run changes in a cell, as a function of the state it found. A run that ends
well makes these changes (`run_changed`) and leaves the other rows alone (`run_unchanged`,
`run_row_frame`); where there is nothing to change it writes no rate at all (`run_settled`).
-/

namespace Travelo

open ReadCommitted RatesService

namespace RevenueEngineService

/-- The day row of a cell. -/
def dayOf (propertyId : Id) (db : HotelDb) (c : RateDayCell) : Option RateInventoryDay :=
  planDay propertyId c.roomTypeId none c.date db

/-- A person typed the price of the cell. -/
def typed (propertyId : Id) (db : HotelDb) (c : RateDayCell) : Bool :=
  (dayOf propertyId db c).any fun d => d.pricePaise.isSome && d.pricingRuleId.isNone

/-- The price a rule wrote in the cell. -/
def ruledPrice (propertyId : Id) (db : HotelDb) (c : RateDayCell) : Option ℤ :=
  ((dayOf propertyId db c).filter (·.pricingRuleId.isSome)).bind (·.pricePaise)

/-- The price a rule gives the cell. -/
def target (propertyId : Id) (db : HotelDb) (c : RateDayCell) (rule : PricingRule) : ℤ :=
  max (floorOf propertyId db) (apply (engineBase propertyId db c) rule)

/-- What a run that found `db` writes in the cell: a price and its tag. -/
def edit (propertyId : Id) (opts : RunRulesOpts) (db : HotelDb) (c : RateDayCell) :
    Option (Option ℤ × Option Id) :=
  if typed propertyId db c then none
  else match ruleFor (nightRules propertyId opts db) c with
    | some rule =>
      if some (target propertyId db c rule) = ruledPrice propertyId db c then none
      else some (some (target propertyId db c rule), some rule.id)
    | none => if (dayOf propertyId db c).any (·.pricingRuleId.isSome) then some (none, none) else none

/-- What it changes: the price is another than the one that is there. -/
def change (propertyId : Id) (opts : RunRulesOpts) (db : HotelDb) (c : RateDayCell) :
    Option (Option ℤ × Option Id) :=
  (edit propertyId opts db c).filter fun e => (dayOf propertyId db c).bind (·.pricePaise) ≠ e.1

section Cell

variable {propertyId : Id} {opts : RunRulesOpts} {now : ℤ} {batchId : Id} {db s s' : HotelDb}
  {c : RateDayCell}

theorem dayOf_congr (h : SameRow (keyOf c) db s) : dayOf propertyId s c = dayOf propertyId db c := by
  unfold dayOf
  rw [planDay_eq, planDay_eq]
  exact congrArg (Option.filter _) h

theorem dayOf_priceAt {day : RateInventoryDay} (h : dayOf propertyId db c = some day) :
    db.priceAt (keyOf c) = (day.pricePaise, day.pricingRuleId) := by
  unfold dayOf at h
  rw [planDay_eq] at h
  have hrow : db.rateInventoryDays.find? (keyOf c) = some day :=
    (Option.filter_eq_some_iff.mp h).1
  simp [HotelDb.priceAt, hrow]

theorem ruledPrice_of_not_typed (htyped : typed propertyId db c = false) :
    ruledPrice propertyId db c = (dayOf propertyId db c).bind (·.pricePaise) := by
  unfold typed at htyped
  unfold ruledPrice
  cases hday : dayOf propertyId db c with
  | none => rfl
  | some day =>
    rw [hday] at htyped
    cases hprice : day.pricePaise <;> cases htag : day.pricingRuleId <;>
      simp_all [Option.filter]

variable {ruleId : Option Id} {price : Option ℤ}

theorem self_mem_cellEdit :
    (c.roomTypeId, c.date) ∈ (cellEdit c price ruleId).cells := mem_cellEdit.mpr rfl

variable {t : Tx HotelDb} {dryRun : Bool}

theorem writeCell_noop {res : Except Err Unit}
    (hsame : (dayOf propertyId s c).bind (·.pricePaise) = price)
    (heval : (writeCell propertyId dryRun batchId now c price ruleId).eval .idle s =
      (res, t, s')) : t = .idle ∧ s' = s := by
  refine ⟨(writeCell_ratesOnly.relates heval).1, ?_⟩
  rw [writeCell, eval_when] at heval
  split_ifs at heval with hdry
  · rcases hupdate : (bulkUpdate propertyId (cellEdit c price ruleId) batchId now).eval .idle s
      with ⟨e | r, t', s₁⟩
    · rw [eval_bind, hupdate] at heval
      cases heval
      exact bulkUpdate_error hupdate
    · rw [eval_bind, hupdate] at heval
      cases heval
      refine bulkUpdate_noop hupdate self_mem_cellEdit fun cell hcell base => ?_
      obtain rfl := mem_cellEdit.mp hcell
      have hwant : (priceWants (cellEdit c price ruleId).set base
          (planDay propertyId c.roomTypeId none c.date s)).filter (·.differs) = [] := by
        have hprice : (planDay propertyId c.roomTypeId none c.date s).bind (·.pricePaise) = price :=
          hsame
        simp [priceWants, cellEdit, want, hprice]
      rw [changesTo, List.filter_append]
      exact List.append_eq_nil_iff.mpr ⟨hwant, rfl⟩
  · cases heval
    rfl

/-- The write of another price puts it into a row of the property, with the tag. -/
theorem writeCell_new {u : Unit} (hnew : (dayOf propertyId s c).bind (·.pricePaise) ≠ price)
    (heval : (writeCell propertyId false batchId now c price ruleId).eval .idle s =
      (.ok u, t, s')) :
    s'.priceAt (keyOf c) = (price, ruleId) ∧ OwnRow propertyId (keyOf c) s' := by
  rw [writeCell, eval_when, if_pos rfl] at heval
  obtain ⟨res, t₁, s₁, hupdate, hret⟩ := eval_bind_ok heval
  cases hret
  constructor
  · exact (bulkUpdate_priced hupdate rfl rfl self_mem_cellEdit).trans (if_neg hnew)
  · exact bulkUpdate_own hupdate rfl rfl self_mem_cellEdit hnew

theorem priceCell_eval (hc : c ∈ visited propertyId opts now db) (hs : RatesOnly db s)
    (hrow : SameRow (keyOf c) db s) :
    ∃ planned, (priceCell propertyId (floorOf propertyId db) (nightRules propertyId opts db)
        (baseRows propertyId (typeIdsOf propertyId opts db) db) dryRun now c batchId).eval .idle s =
      match edit propertyId opts db c with
      | none => (.ok none, .idle, s)
      | some e => (writeCell propertyId dryRun batchId now c e.1 e.2 >>= fun _ =>
          return some planned).eval .idle s := by
  have hday : (baseRows propertyId (typeIdsOf propertyId opts db) db).find?
      (fun d => d.roomTypeId = c.roomTypeId && d.date = c.date) = dayOf propertyId db c :=
    baseRows_find? (visited_type hc)
  simp only [priceCell, hday, eval_ite, eval_bind, basePrice_eval hc hs hrow]
  unfold edit typed target ruledPrice
  by_cases htyped : (dayOf propertyId db c).any
      (fun d => d.pricePaise.isSome && d.pricingRuleId.isNone) = true
  · rw [if_pos htyped, if_pos htyped]
    exact ⟨⟨0, 0, 0, none, none, none⟩, rfl⟩
  · rw [if_neg htyped, if_neg htyped]
    cases hrule : ruleFor (nightRules propertyId opts db) c with
    | some rule =>
      simp only [eval_ite, eval_bind]
      by_cases hsame : some (max (floorOf propertyId db) (apply (engineBase propertyId db c) rule)) =
          ((dayOf propertyId db c).filter (·.pricingRuleId.isSome)).bind (·.pricePaise)
      · rw [if_pos hsame, if_pos hsame]
        exact ⟨⟨0, 0, 0, none, none, none⟩, rfl⟩
      · rw [if_neg hsame, if_neg hsame]
        exact ⟨_, rfl⟩
    | none =>
      simp only [eval_ite, eval_bind]
      by_cases htag : (dayOf propertyId db c).any (·.pricingRuleId.isSome) = true
      · rw [if_neg (not_not.mpr htag), if_pos htag]
        exact ⟨_, rfl⟩
      · rw [if_pos htag, if_neg htag]
        exact ⟨⟨0, 0, 0, none, none, none⟩, rfl⟩

/-- What a run makes of the row of a cell. -/
def Changed (propertyId : Id) (opts : RunRulesOpts) (db : HotelDb) (c : RateDayCell)
    (s : HotelDb) : Prop :=
  match change propertyId opts db c with
  | none => SameRow (keyOf c) db s
  | some e => s.priceAt (keyOf c) = e ∧ OwnRow propertyId (keyOf c) s

theorem Changed.congr (h : Changed propertyId opts db c s) (hrow : SameRow (keyOf c) s s') :
    Changed propertyId opts db c s' := by
  unfold Changed at h ⊢
  cases hchange : change propertyId opts db c with
  | none =>
    rw [hchange] at h
    exact SameRow.trans _ _ _ h hrow
  | some e =>
    rw [hchange] at h
    exact ⟨Eq.trans hrow.samePrice h.1, fun row hrow' => h.2 row (hrow.symm.trans hrow')⟩

theorem priceCell_ok {p : Option PlannedDay} (hc : c ∈ visited propertyId opts now db)
    (hs : RatesOnly db s) (hrow : SameRow (keyOf c) db s)
    (heval : (priceCell propertyId (floorOf propertyId db) (nightRules propertyId opts db)
      (baseRows propertyId (typeIdsOf propertyId opts db) db) false now c batchId).eval .idle s =
        (.ok p, t, s')) : Changed propertyId opts db c s' := by
  obtain ⟨planned, hcell⟩ := @priceCell_eval propertyId opts now batchId db s c false hc hs hrow
  have hday : dayOf propertyId s c = dayOf propertyId db c := dayOf_congr hrow
  rw [hcell] at heval
  unfold Changed change
  cases hedit : edit propertyId opts db c with
  | none =>
    rw [hedit] at heval
    cases heval
    exact hrow
  | some e =>
    rw [hedit] at heval
    obtain ⟨u, t₁, s₁, hwrite, hret⟩ := eval_bind_ok heval
    cases hret
    by_cases hsame : (dayOf propertyId db c).bind (·.pricePaise) = e.1
    · rw [Option.filter_some_neg (by simpa using hsame)]
      obtain ⟨-, rfl⟩ := writeCell_noop (hday ▸ hsame) hwrite
      exact hrow
    · rw [Option.filter_some_pos (by simpa using hsame)]
      exact writeCell_new (hday ▸ hsame) hwrite

theorem priceCell_settled (hc : c ∈ visited propertyId opts now db)
    (hnone : change propertyId opts db c = none) :
    (priceCell propertyId (floorOf propertyId db) (nightRules propertyId opts db)
      (baseRows propertyId (typeIdsOf propertyId opts db) db) dryRun now c batchId).AloneOn
        (fun s s' => s' = s) db := by
  obtain ⟨planned, hcell⟩ :=
    @priceCell_eval propertyId opts now batchId db db c dryRun hc (RatesOnly.refl db) rfl
  unfold Prog.AloneOn
  rw [hcell]
  cases hedit : edit propertyId opts db c with
  | none => exact ⟨rfl, rfl⟩
  | some e =>
    have hsame : (dayOf propertyId db c).bind (·.pricePaise) = e.1 := by
      by_contra hne
      rw [change, hedit, Option.filter_some_pos (by simpa using hne)] at hnone
      cases hnone
    rcases hwrite : (writeCell propertyId dryRun batchId now c e.1 e.2).eval .idle db
      with ⟨res, t, s'⟩
    obtain ⟨rfl, rfl⟩ := writeCell_noop hsame hwrite
    simp only [eval_bind, hwrite]
    cases res <;> exact ⟨rfl, rfl⟩

/-- Where a rule applies: the price is changed to the rule's, with its tag, unless it is the
rule's already. -/
theorem change_rule {rule : PricingRule} (htyped : typed propertyId db c = false)
    (hrule : ruleFor (nightRules propertyId opts db) c = some rule) :
    change propertyId opts db c =
      if ruledPrice propertyId db c = some (target propertyId db c rule) then none
      else some (some (target propertyId db c rule), some rule.id) := by
  unfold change edit
  rw [if_neg (by simp [htyped]), hrule, ← ruledPrice_of_not_typed htyped]
  by_cases hsame : ruledPrice propertyId db c = some (target propertyId db c rule)
  · simp only [if_pos hsame, if_pos hsame.symm]
    rfl
  · simp only [if_neg hsame, if_neg fun h => hsame (Eq.symm h)]
    exact Option.filter_some_pos (by simpa using hsame)

theorem change_no_rule (htyped : typed propertyId db c = false)
    (hrule : ruleFor (nightRules propertyId opts db) c = none) :
    change propertyId opts db c =
      if (ruledPrice propertyId db c).isSome then some (none, none) else none := by
  unfold change edit
  rw [if_neg (by simp [htyped]), hrule, ← ruledPrice_of_not_typed htyped]
  cases hprice : ruledPrice propertyId db c with
  | none =>
    by_cases htag : (dayOf propertyId db c).any (·.pricingRuleId.isSome) = true
    · simp only [if_pos htag]
      rfl
    · simp only [if_neg htag]
      rfl
  | some price =>
    have htag : (dayOf propertyId db c).any (·.pricingRuleId.isSome) = true := by
      unfold ruledPrice at hprice
      obtain ⟨day, hday, -⟩ := Option.bind_eq_some_iff.mp hprice
      obtain ⟨hfound, htag⟩ := Option.filter_eq_some_iff.mp hday
      rw [hfound]
      exact htag
    simp only [if_pos htag]
    rfl

theorem change_typed (htyped : typed propertyId db c = true) :
    change propertyId opts db c = none := by
  unfold change edit
  rw [if_pos htyped]
  rfl

end Cell

/-! ## All cells -/

section Run

variable {propertyId : Id} {opts : RunRulesOpts} {now : ℤ} {batchId : ℕ → Id} {db db' : HotelDb}
  {c : RateDayCell}

theorem visited_nodup : ((visited propertyId opts now db).map keyOf).Nodup := by
  have hids : ((shownTypes propertyId db).map RoomType.id).Nodup := by
    have hperm := (List.perm_insertionSort (fun a b : RoomType => a.name ≤ b.name)
      (db.roomTypes.rows.filter fun t =>
        t.propertyId = propertyId && t.deletedAt.isNone && t.active)).map RoomType.id
    refine hperm.nodup_iff.mpr (List.Nodup.sublist ?_ db.roomTypes.nodup)
    exact List.filter_sublist.map RoomType.id
  have hlines : (gridTypes propertyId (today now) (horizonEnd opts now) db).Pairwise
      fun a b => a.id ≠ b.id := List.pairwise_map.mpr (List.pairwise_map.mp hids)
  have hline : ∀ g ∈ gridTypes propertyId (today now) (horizonEnd opts now) db,
      (g.days.map keyOf).Nodup ∧ ∀ key ∈ g.days.map keyOf, key.1 = g.id := by
    intro g hg
    obtain ⟨t, -, rfl⟩ := List.mem_map.mp hg
    rw [gridLine_days, List.map_map]
    constructor
    · refine List.Nodup.map (fun d d' h => ?_) (datesFrom_nodup _ _)
      exact (Prod.mk.inj (Prod.mk.inj h).2).2
    · intro key hkey
      obtain ⟨d, -, rfl⟩ := List.mem_map.mp hkey
      rfl
  rw [visited, cellsOf, List.map_flatMap, List.nodup_flatMap]
  constructor
  · exact fun g hg => (hline g (List.mem_of_mem_filter hg)).1
  · refine (hlines.filter _).imp_of_mem fun ha hb hne => ?_
    intro key hka hkb
    have hka' := (hline _ (List.mem_of_mem_filter ha)).2 key hka
    exact hne (hka'.symm.trans ((hline _ (List.mem_of_mem_filter hb)).2 key hkb))

theorem stamp_id (now : ℤ) (r : PricingRule) : { r with lastRunAt := some now }.id = r.id := rfl

/-- The rules as they are after a run. -/
def stamped (propertyId : Id) (opts : RunRulesOpts) (now : ℤ) (db : HotelDb) :
    Table PricingRule.id :=
  db.pricingRules.update
    (fun r => ((liveRules propertyId (typeIdsOf propertyId opts db) db).map (·.id)).contains r.id)
    (fun r => { r with lastRunAt := some now }) (stamp_id now)

theorem stamped_nil (h : liveRules propertyId (typeIdsOf propertyId opts db) db = []) :
    stamped propertyId opts now db = db.pricingRules := by
  refine Table.update_of_false fun r _ => ?_
  rw [h]
  rfl

theorem priceCells_ratesOnly : (priceCells propertyId opts now batchId db).Alone RatesOnly :=
  .all RatesOnly.refl RatesOnly.trans fun _ _ => priceCell_ratesOnly

variable {res : RuleRunResult} {t : Tx HotelDb}

theorem run_ok (heval : (run propertyId opts now batchId).eval .idle db = (.ok res, t, db')) :
    ∃ plan s, (priceCells propertyId opts now batchId db).eval .idle db = (.ok plan, .idle, s) ∧
      db' = if opts.dryRun then s else { s with pricingRules := stamped propertyId opts now db } := by
  rw [run_eval] at heval
  split_ifs at heval with hempty
  · have hids : typeIdsOf propertyId opts db = [] := by rw [typeIdsOf, hempty]; rfl
    have hvisited : visited propertyId opts now db = [] := by
      simp [visited, cellsOf, hids]
    have hrules : liveRules propertyId (typeIdsOf propertyId opts db) db = [] := by
      simp [liveRules, hids]
    cases heval
    refine ⟨[], db, by rw [priceCells, hvisited]; rfl, ?_⟩
    rw [stamped_nil hrules, ite_self]
  · cases hwindow : assertWindow (today now) (horizonEnd opts now) with
    | error e =>
      rw [hwindow] at heval
      cases heval
    | ok _ =>
      rw [hwindow] at heval
      obtain ⟨plan, t₁, s, hcells, hfinish⟩ := eval_bind_ok heval
      obtain ⟨rfl, hs⟩ := priceCells_ratesOnly.relates hcells
      refine ⟨plan, s, hcells, ?_⟩
      unfold finish at hfinish
      obtain ⟨_, t₂, s₂, hstamp, hret⟩ := eval_bind_ok hfinish
      cases hret
      rw [eval_when] at hstamp
      split_ifs at hstamp with hwrites
      · obtain ⟨-, rfl, rfl⟩ := eval_written hstamp
        rw [if_neg (by simp [hwrites.1])]
        simp only [stamped, hs.pricingRules]
      · cases hstamp
        by_cases hdry : opts.dryRun = true
        · rw [if_pos hdry]
        · have hrules : liveRules propertyId (typeIdsOf propertyId opts db) db = [] := by
            by_contra hne
            exact hwrites ⟨Bool.eq_false_iff.mpr hdry, hne⟩
          rw [if_neg hdry, stamped_nil hrules, ← hs.pricingRules]

theorem run_changed (hdry : opts.dryRun = false)
    (heval : (run propertyId opts now batchId).eval .idle db = (.ok res, t, db'))
    (hc : c ∈ visited propertyId opts now db) : Changed propertyId opts db c db' := by
  obtain ⟨plan, s, hcells, rfl⟩ := run_ok heval
  rw [if_neg (by simp [hdry])]
  unfold priceCells at hcells
  rw [hdry] at hcells
  obtain ⟨n, hn⟩ := List.getElem?_of_mem hc
  have hmem : (c, n) ∈ (visited propertyId opts now db).zipIdx :=
    List.mk_mem_zipIdx_iff_getElem?.mpr hn
  have hnodup : ((visited propertyId opts now db).zipIdx.map fun c => keyOf c.1).Nodup := by
    have hkeys := @visited_nodup propertyId opts now db
    rwa [← List.zipIdx_map_fst 0 (visited propertyId opts now db), List.map_map] at hkeys
  have hdone : Changed propertyId opts db c s := by
    let P (s : HotelDb) := RatesOnly db s ∧ SameRow (keyOf c) db s
    refine (Prog.eval_all_once (P := P) (Q := Changed propertyId opts db c) hnodup hmem ?_ ?_ ?_
      ⟨RatesOnly.refl db, rfl⟩ hcells).2
    · rintro c' - hne s p t s' ⟨hs, hrow⟩ hcell
      obtain ⟨ht, hs'⟩ := priceCell_ratesOnly.relates hcell
      have hrow' : SameRow (keyOf c) s s' := ((priceCell_row_frame hne.symm).relates hcell).2
      exact ⟨ht, RatesOnly.trans _ _ _ hs hs', SameRow.trans _ _ _ hrow hrow'⟩
    · rintro c' - hne s p t s' hs hcell
      have hframe := (priceCell_row_frame hne.symm).relates hcell
      obtain ⟨ht, hrow'⟩ : t = .idle ∧ SameRow (keyOf c) s s' := hframe
      exact ⟨ht, hs.congr hrow'⟩
    · rintro s p t s' ⟨hs, hrow⟩ hcell
      exact ⟨(priceCell_ratesOnly.relates hcell).1, priceCell_ok hc hs hrow hcell⟩
  exact hdone.congr rfl

theorem run_ruled {rule : PricingRule} (hdry : opts.dryRun = false)
    (heval : (run propertyId opts now batchId).eval .idle db = (.ok res, t, db'))
    (hc : c ∈ visited propertyId opts now db) (htyped : typed propertyId db c = false)
    (hrule : ruleFor (nightRules propertyId opts db) c = some rule) :
    typed propertyId db' c = false ∧
      ruledPrice propertyId db' c = some (target propertyId db c rule) := by
  have hdone := run_changed hdry heval hc
  unfold Changed at hdone
  rw [change_rule htyped hrule] at hdone
  split_ifs at hdone with hsame
  · have hday : dayOf propertyId db' c = dayOf propertyId db c := dayOf_congr hdone
    unfold typed ruledPrice
    rw [hday]
    exact ⟨htyped, hsame⟩
  · obtain ⟨hprice, hown⟩ := hdone
    unfold HotelDb.priceAt at hprice
    cases hrow : db'.rateInventoryDays.find? (keyOf c) with
    | none =>
      rw [hrow] at hprice
      cases hprice
    | some day =>
      have hday : dayOf propertyId db' c = some day := by
        unfold dayOf
        rw [planDay_eq, show db'.rateInventoryDays.find? (c.roomTypeId, none, c.date) = some day
          from hrow, Option.filter_some_pos (by simpa using hown day hrow)]
      rw [hrow] at hprice
      obtain ⟨h₁, h₂⟩ := Prod.mk.inj hprice
      have hpaise : day.pricePaise = some (target propertyId db c rule) := h₁
      have htag : day.pricingRuleId = some rule.id := h₂
      unfold typed ruledPrice
      rw [hday]
      simp [hpaise, htag, Option.filter]

/-- After a run a cell that no rule applied to, and that nobody typed, has no price of a rule. -/
theorem run_unruled (hdry : opts.dryRun = false)
    (heval : (run propertyId opts now batchId).eval .idle db = (.ok res, t, db'))
    (hc : c ∈ visited propertyId opts now db) (htyped : typed propertyId db c = false)
    (hrule : ruleFor (nightRules propertyId opts db) c = none) :
    typed propertyId db' c = false ∧ ruledPrice propertyId db' c = none := by
  have hdone := run_changed hdry heval hc
  unfold Changed at hdone
  rw [change_no_rule htyped hrule] at hdone
  split_ifs at hdone with hprice
  · have hpaise : (dayOf propertyId db' c).bind (·.pricePaise) = none := by
      cases hday : dayOf propertyId db' c with
      | none => rfl
      | some day => exact (Prod.mk.inj ((dayOf_priceAt hday).symm.trans hdone.1)).1
    unfold typed ruledPrice
    cases hday : dayOf propertyId db' c with
    | none => exact ⟨rfl, rfl⟩
    | some day =>
      rw [hday] at hpaise
      have hnone : day.pricePaise = none := hpaise
      cases htag : day.pricingRuleId <;> simp [hnone, htag, Option.filter]
  · have hday : dayOf propertyId db' c = dayOf propertyId db c := dayOf_congr hdone
    unfold typed ruledPrice
    rw [hday]
    exact ⟨htyped, by simpa [ruledPrice] using hprice⟩

theorem run_row_frame {key : Id × Option Id × ℤ}
    (hkey : ∀ c ∈ visited propertyId opts now db, key ≠ keyOf c) :
    (run propertyId opts now batchId).AloneOn (SameRow key) db :=
  run_aloneOn SameRow.refl SameRow.trans (fun _ _ => rfl) fun c hc _ =>
    priceCell_row_frame (hkey c hc)

/-- The two states have the same rates grid and the same log. -/
def SameRates (s s' : HotelDb) : Prop :=
  s'.rateInventoryDays = s.rateInventoryDays ∧ s'.rateChangeLog = s.rateChangeLog

theorem run_settled (hnone : ∀ c ∈ visited propertyId opts now db, change propertyId opts db c = none) :
    (run propertyId opts now batchId).AloneOn SameRates db := by
  have hrefl : ∀ s, SameRates s s := fun _ => ⟨rfl, rfl⟩
  have htrans : ∀ s s' s'', SameRates s s' → SameRates s' s'' → SameRates s s'' :=
    fun _ _ _ h h' => ⟨h'.1.trans h.1, h'.2.trans h.2⟩
  have hloop : (priceCells propertyId opts now batchId db).Alone fun s s' => s = db → s' = db := by
    refine .all (fun _ => id) (fun _ _ _ h h' hs => h' (h hs)) fun c hc => ?_
    have hmem := List.fst_mem_of_mem_zipIdx hc
    intro s
    refine ⟨(priceCell_ratesOnly s).1, ?_⟩
    rintro rfl
    exact (priceCell_settled hmem (hnone c.1 hmem)).2
  have hcells : (priceCells propertyId opts now batchId db).AloneOn SameRates db := by
    refine ⟨(hloop db).1, ?_⟩
    rw [(hloop db).2 rfl]
    exact hrefl db
  unfold Prog.AloneOn
  rw [run_eval]
  split_ifs with hempty
  · exact ⟨rfl, hrefl db⟩
  · cases assertWindow (today now) (horizonEnd opts now) with
    | error e => exact ⟨rfl, hrefl db⟩
    | ok _ =>
      exact Prog.AloneOn.bind htrans hcells fun planned s _ =>
        finish_alone hrefl htrans (fun _ _ => ⟨rfl, rfl⟩) planned s

end Run

end RevenueEngineService

end Travelo
