import Travelo.Rates.Repricing

/-!
# What a run leaves as it is

A run writes prices and stamps, and nothing else (`run_sameHouse`). What the next run starts
from is therefore the same: the types, the cells, and the rules in their order.
-/

namespace Travelo

open ReadCommitted RatesService

/-- A rule with another stamp. -/
def stampOf (stamp : Option ℤ) (r : PricingRule) : PricingRule :=
  { r with lastRunAt := stamp.orElse fun _ => r.lastRunAt }

/-- The function gives rules stamps. -/
def Stamps (f : PricingRule → PricingRule) : Prop := ∀ r, ∃ stamp, f r = stampOf stamp r

theorem Stamps.comp {f g : PricingRule → PricingRule} (hg : Stamps g) (hf : Stamps f) :
    Stamps (g ∘ f) := by
  intro r
  obtain ⟨a, ha⟩ := hf r
  obtain ⟨b, hb⟩ := hg (f r)
  refine ⟨b.orElse fun _ => a, ?_⟩
  rw [Function.comp, hb, ha]
  cases b <;> rfl

theorem Stamps.congr {α : Type} {f : PricingRule → PricingRule} (hf : Stamps f)
    {q : PricingRule → α} (hq : ∀ stamp r, q (stampOf stamp r) = q r) : q ∘ f = q := by
  funext r
  obtain ⟨stamp, hstamp⟩ := hf r
  rw [Function.comp, hstamp, hq]

/-- The two states have the same types, rooms, stays, overrides and settings, and the rules
differ in their stamps only. -/
structure SameHouse (db db' : HotelDb) : Prop where
  roomTypes : db'.roomTypes = db.roomTypes
  rooms : db'.rooms = db.rooms
  reservations : db'.reservations = db.reservations
  rateOverrides : db'.rateOverrides = db.rateOverrides
  propertySettings : db'.propertySettings = db.propertySettings
  pricingRules : ∃ f, Stamps f ∧ db'.pricingRules.rows = db.pricingRules.rows.map f

theorem SameHouse.refl (db : HotelDb) : SameHouse db db :=
  ⟨rfl, rfl, rfl, rfl, rfl, id, fun _ => ⟨none, rfl⟩, (List.map_id _).symm⟩

theorem SameHouse.trans {db db' db'' : HotelDb} (h : SameHouse db db') (h' : SameHouse db' db'') :
    SameHouse db db'' := by
  obtain ⟨f, hf, hrules⟩ := h.pricingRules
  obtain ⟨g, hg, hrules'⟩ := h'.pricingRules
  refine ⟨h'.roomTypes.trans h.roomTypes, h'.rooms.trans h.rooms,
    h'.reservations.trans h.reservations, h'.rateOverrides.trans h.rateOverrides,
    h'.propertySettings.trans h.propertySettings, g ∘ f, hg.comp hf, ?_⟩
  rw [hrules', hrules, List.map_map]

namespace RevenueEngineService

section Again

variable {propertyId : Id} {opts : RunRulesOpts} {now now' : ℤ} {batchId : ℕ → Id}
  {db db' : HotelDb} {c c' : RateDayCell}

theorem run_sameHouse {res : RuleRunResult} {t : Tx HotelDb}
    (heval : (run propertyId opts now batchId).eval .idle db = (.ok res, t, db')) :
    SameHouse db db' := by
  obtain ⟨plan, s, hcells, rfl⟩ := run_ok heval
  obtain ⟨-, days, log, rfl⟩ := priceCells_ratesOnly.relates hcells
  by_cases hdry : opts.dryRun = true
  · rw [if_pos hdry]
    exact ⟨rfl, rfl, rfl, rfl, rfl, id, fun _ => ⟨none, rfl⟩, (List.map_id _).symm⟩
  · rw [if_neg hdry]
    refine ⟨rfl, rfl, rfl, rfl, rfl, _, fun r => ?_, rfl⟩
    -- the rules of the run get a stamp, the others keep theirs
    split_ifs
    · exact ⟨some now, rfl⟩
    · exact ⟨none, rfl⟩

theorem apply_stamped {f : PricingRule → PricingRule} (hf : Stamps f) {base : ℤ}
    {rule : PricingRule} : apply base (f rule) = apply base rule := by
  obtain ⟨stamp, hstamp⟩ := hf rule
  rw [hstamp]
  rfl

theorem typeIdsOf_again (h : SameHouse db db') :
    typeIdsOf propertyId opts db' = typeIdsOf propertyId opts db := by
  unfold typeIdsOf selectedTypes
  rw [h.roomTypes]

theorem nightRules_again (h : SameHouse db db') :
    ∃ f, Stamps f ∧ nightRules propertyId opts db' = (nightRules propertyId opts db).map f := by
  obtain ⟨f, hf, hrules⟩ := h.pricingRules
  refine ⟨f, hf, ?_⟩
  unfold nightRules byPriority liveRules
  rw [typeIdsOf_again h, hrules, List.filter_map, hf.congr fun _ _ => rfl, List.filter_map,
    hf.congr fun _ _ => rfl]
  exact (List.map_insertionSort (fun a b : PricingRule => b.priority ≤ a.priority)
    (fun a b : PricingRule => b.priority ≤ a.priority) f _ fun a _ b _ => by
      obtain ⟨_, ha⟩ := hf a
      obtain ⟨_, hb⟩ := hf b
      rw [ha, hb]
      exact Iff.rfl).symm

theorem ruleFor_again (h : SameHouse db db') (htype : c'.roomTypeId = c.roomTypeId)
    (hdate : c'.date = c.date) (hoccupancy : c'.occupancyPct = c.occupancyPct) :
    ∃ f, Stamps f ∧ ruleFor (nightRules propertyId opts db') c' =
      (ruleFor (nightRules propertyId opts db) c).map f := by
  obtain ⟨f, hf, hrules⟩ := nightRules_again h
  refine ⟨f, hf, ?_⟩
  unfold ruleFor
  rw [hrules, List.filter_map, List.find?_map, htype, hdate, hoccupancy,
    hf.congr fun _ _ => rfl, hf.congr fun _ _ => rfl]

theorem occupancyPct_again (h : SameHouse db db') {fromDate toDate : ℤ} {t : RoomType} {d : ℤ} :
    (cellAt propertyId fromDate toDate db' t d).occupancyPct =
      (cellAt propertyId fromDate toDate db t d).occupancyPct := by
  unfold RateDayCell.occupancyPct cellAt gridCell ChannexSyncService.inventory
    ChannexSyncService.staysInPlay
  rw [h.rooms, h.reservations]

theorem visited_again (h : SameHouse db db') (hday : today now' = today now) :
    (∀ c ∈ visited propertyId opts now db, ∃ c' ∈ visited propertyId opts now' db',
      c'.roomTypeId = c.roomTypeId ∧ c'.date = c.date ∧ c'.occupancyPct = c.occupancyPct) ∧
    ∀ c' ∈ visited propertyId opts now' db', ∃ c ∈ visited propertyId opts now db,
      c'.roomTypeId = c.roomTypeId ∧ c'.date = c.date ∧ c'.occupancyPct = c.occupancyPct := by
  have hend : horizonEnd opts now' = horizonEnd opts now := by rw [horizonEnd, hday]; rfl
  have hshown : shownTypes propertyId db' = shownTypes propertyId db := by
    rw [shownTypes, h.roomTypes]
    rfl
  constructor
  · intro c hc
    obtain ⟨t, ht, hid, d, hd, rfl⟩ := mem_visited.mp hc
    refine ⟨_, mem_visited.mpr ⟨t, hshown ▸ ht, typeIdsOf_again h ▸ hid, d, ?_, rfl⟩, rfl, rfl, ?_⟩
    · rw [hday, hend]
      exact hd
    · rw [hday, hend]
      exact occupancyPct_again h
  · intro c' hc'
    obtain ⟨t, ht, hid, d, hd, rfl⟩ := mem_visited.mp hc'
    rw [hday, hend] at hd ⊢
    exact ⟨_, mem_visited.mpr ⟨t, hshown ▸ ht, typeIdsOf_again h ▸ hid, d, hd, rfl⟩, rfl, rfl,
      occupancyPct_again h⟩

end Again

end RevenueEngineService

end Travelo
