import Travelo.Availability.Booking
import Travelo.Availability.Published
import Travelo.Ota.Ranges
import Travelo.ChannexSync

/-!
# The ranges of the rates

`pushRates` sends each mapped room type as ranges of nights with one price. `rates_pushed`: night by
night they are the prices of the resolver under the delta of the connection, each night in one range.
The restrictions of the nights are not in them: `restrictions_unsent`.
-/

namespace Travelo

open ReadCommitted Claims ChannexSyncService
open RatesService (baseDay assertWindow nightPrice nightPrice_eq dayRule dayRows)

section Push

variable (env : Env) (connectionId propertyId : Id) (cfg : ChannexConnectionConfig)
  (ratePlanMap : List (Id × String)) (start endDate : ℤ) (db : HotelDb)

/-- The active types of the property. -/
def pushedTypes : List RoomType :=
  db.roomTypes.rows.filter fun t => t.propertyId = propertyId && t.deletedAt.isNone && t.active

/-- What the client is given, type by type. -/
def sentRates : List (List ChannexRateUpdate) :=
  ((all (typeRates env connectionId propertyId cfg ratePlanMap start endDate)
    (pushedTypes propertyId db)).eval .idle db).1.toOption.getD []

/-- The delta of the connection on a night, in basis points. -/
def deltaOn (roomTypeId : Id) (d : ℤ) : ℤ :=
  ((baseDay propertyId roomTypeId d db).bind fun r =>
    (r.channelOverrides.lookup connectionId).bind (·.priceDeltaBp)).getD 0

/-- The nights of a type with their prices on the channel. -/
def channelNights (t : RoomType) : List (ℤ × ℤ) :=
  if env.rates then
    (nightlyOf db propertyId t.id t.baseRate none start endDate).map fun n =>
      (n.date, max 0 (roundDiv (n.pricePaise * (10000 + deltaOn connectionId propertyId db t.id
        n.date)) 10000))
  else (datesFrom start endDate).map fun d => (d, t.baseRate)

end Push

/-- The nights of a range with their rate. -/
def rateNights (u : ChannexRateUpdate) : List (String × ℤ × ℤ) :=
  (datesFrom u.date_from (addDays u.date_to 1)).map fun d => (u.rate_plan_id, d, u.rate)

/-- The ranges that a night is in. -/
def rangesWith (d : ℤ) (updates : List ChannexRateUpdate) : List ChannexRateUpdate :=
  updates.filter fun u => u.date_from ≤ d && d ≤ u.date_to

section Ranges

variable {env : Env} {connectionId propertyId : Id} {cfg : ChannexConnectionConfig}
  {ratePlanMap : List (Id × String)} {start endDate : ℤ} {db : HotelDb} {property plan : String}

theorem rateRanges_nights (nights : List (ℤ × ℤ)) :
    (rateRanges property plan nights).flatMap rateNights = nights.map fun n => (plan, n) := by
  unfold rateRanges
  cases nights with
  | nil => rfl
  | cons first rest =>
    obtain ⟨date, paise⟩ := first
    have hdays := Run.days_collapse rest (.day date paise)
    rw [Run.days_day] at hdays
    have hrange : ∀ r : Run ℤ, rateNights
        { property_id := property, rate_plan_id := plan, date_from := r.lo, date_to := r.hi,
          rate := r.val } = r.days.map fun n => (plan, n) := by
      intro r
      simp only [rateNights, Run.days, datesFrom, addDays, List.map_map]
      rfl
    dsimp only
    rw [List.flatMap_map]
    simp only [hrange]
    rw [← List.map_flatMap, hdays]
    rfl

theorem rateRanges_apart {nights : List (ℤ × ℤ)}
    (hsorted : nights.Pairwise fun a b => a.1 < b.1) :
    (rateRanges property plan nights).Pairwise fun u v => u.date_to < v.date_from := by
  unfold rateRanges
  cases nights with
  | nil => exact List.Pairwise.nil
  | cons first rest =>
    obtain ⟨date, paise⟩ := first
    obtain ⟨hfirst, hrest⟩ := List.pairwise_cons.mp hsorted
    dsimp only
    rw [List.pairwise_map]
    exact (Run.pairwise_collapse rest _ hrest hfirst).imp fun h => h.1

theorem length_rangesWith {updates : List ChannexRateUpdate} {d r : ℤ}
    (hapart : updates.Pairwise fun u v => u.date_to < v.date_from)
    (hd : (plan, d, r) ∈ updates.flatMap rateNights) : (rangesWith d updates).length = 1 := by
  have hcovers : ∀ u ∈ rangesWith d updates, u.date_from ≤ d ∧ d ≤ u.date_to := by
    intro u hu
    simpa using (List.mem_filter.mp hu).2
  have hsome : ∃ u, u ∈ rangesWith d updates := by
    obtain ⟨u, hu, hnight⟩ := List.mem_flatMap.mp hd
    obtain ⟨e, he, heq⟩ := List.mem_map.mp hnight
    simp only [Prod.mk.injEq] at heq
    obtain ⟨-, rfl, -⟩ := heq
    rw [mem_datesFrom] at he
    simp only [addDays] at he
    refine ⟨u, List.mem_filter.mpr ⟨hu, ?_⟩⟩
    simp only [and_decide_eq]
    exact ⟨he.1, by omega⟩
  have hpair : (rangesWith d updates).Pairwise fun u v => u.date_to < v.date_from :=
    hapart.filter _
  rcases hlist : rangesWith d updates with _ | ⟨u, _ | ⟨v, rest⟩⟩
  · obtain ⟨u, hu⟩ := hsome
    rw [hlist] at hu
    cases hu
  · rfl
  · rw [hlist] at hpair hcovers
    have hlt : u.date_to < v.date_from := (List.pairwise_cons.mp hpair).1 v List.mem_cons_self
    have hu := hcovers u List.mem_cons_self
    have hv := hcovers v (List.mem_cons_of_mem _ List.mem_cons_self)
    omega

variable {t : RoomType}

theorem gridTypes_find (ht : t ∈ shownTypes propertyId db) :
    (gridTypes propertyId start endDate db).find? (fun g => decide (g.id = t.id)) =
      some (gridLine propertyId start endDate db t) := by
  refine find?_eq_some_of_unique (List.mem_map.mpr ⟨t, ht, rfl⟩) (by simp [gridLine]) ?_
  intro g hg hid
  obtain ⟨t', ht', rfl⟩ := List.mem_map.mp hg
  have hsame : t'.id = t.id := of_decide_eq_true hid
  rw [eq_of_key_eq (mem_shownTypes.mp ht').1 (mem_shownTypes.mp ht).1 hsame]

theorem channelPrice_eq {n : NightPrice} (ht : t ∈ shownTypes propertyId db)
    (hn : start ≤ n.date ∧ n.date < endDate) :
    channelPrice connectionId (gridLine propertyId start endDate db t).days n =
      max 0 (roundDiv (n.pricePaise * (10000 + deltaOn connectionId propertyId db t.id n.date))
        10000) := by
  obtain ⟨c, hc, hdate⟩ := exists_gridLine_cell propertyId db t hn
  have hfind : (gridLine propertyId start endDate db t).days.find?
      (fun c => decide (c.date = n.date)) = some c := by
    refine find?_eq_some_of_unique hc (by simpa using hdate) fun c' hc' hdate' => ?_
    obtain ⟨x, -, rfl⟩ := List.mem_map.mp hc
    obtain ⟨y, -, rfl⟩ := List.mem_map.mp hc'
    have hx : x = n.date := hdate
    have hy : y = n.date := of_decide_eq_true hdate'
    rw [hx, hy]
  obtain ⟨-, hoverrides⟩ := gridLine_cell ht hc
  rw [hdate] at hoverrides
  unfold channelPrice deltaOn
  rw [hfind]
  dsimp only [Option.bind_some]
  rw [hoverrides]
  cases baseDay propertyId t.id n.date db <;> rfl

theorem mem_pushedTypes :
    t ∈ pushedTypes propertyId db ↔ t ∈ shownTypes propertyId db := by
  rw [shownTypes, List.mem_insertionSort, pushedTypes]

/-- What goes out for a type. -/
def typeRatesOf (env : Env) (connectionId propertyId : Id) (cfg : ChannexConnectionConfig)
    (ratePlanMap : List (Id × String)) (start endDate : ℤ) (db : HotelDb) (t : RoomType) :
    List ChannexRateUpdate :=
  match nonEmpty (ratePlanMap.lookup t.id) with
  | none => []
  | some plan =>
    if env.rates then
      rateRanges cfg.channexPropertyId plan
        (channelNights env connectionId propertyId start endDate db t)
    else
      [{ property_id := cfg.channexPropertyId
         rate_plan_id := plan
         date_from := start
         date_to := addDays endDate (-1)
         rate := t.baseRate }]

theorem eval_typeRates (ht : t ∈ pushedTypes propertyId db)
    (hwindow : env.rates = true → WindowOk start endDate) :
    (typeRates env connectionId propertyId cfg ratePlanMap start endDate t).eval .idle db =
      (.ok (typeRatesOf env connectionId propertyId cfg ratePlanMap start endDate db t), .idle,
        db) := by
  have hshown := mem_pushedTypes.mp ht
  have hmem := (mem_shownTypes.mp hshown).1
  have hproperty : t.propertyId = propertyId := by
    have hfilter := (List.mem_filter.mp ht).2
    simp only [and_decide_eq] at hfilter
    exact hfilter.1.1
  unfold typeRates typeRatesOf
  cases nonEmpty (ratePlanMap.lookup t.id) with
  | none => rfl
  | some plan =>
    by_cases hrates : env.rates = true
    · have hok := hwindow hrates
      have hassert : assertWindow start endDate = .ok () := by
        rw [assertWindow, if_neg (not_not.mpr hok.1), if_neg (not_lt.mpr hok.2)]
      have hfound : db.roomTypes.find? t.id = some t := find?_key hmem
      have hnights : (nightlyOf db propertyId t.id t.baseRate none start endDate).map
          (fun n => (n.date, channelPrice connectionId
            (gridLine propertyId start endDate db t).days n)) =
          channelNights env connectionId propertyId start endDate db t := by
        rw [channelNights, if_pos hrates]
        refine List.map_congr_left fun n hn => ?_
        obtain ⟨d, hd, rfl⟩ := List.mem_map.mp hn
        have hdate : ∀ days overrides, (nightPrice days overrides t.id t.baseRate
            d).date = d := by
          intro days overrides
          rw [nightPrice_eq]
        rw [channelPrice_eq hshown (by rw [hdate]; exact mem_datesFrom.mp hd)]
      simp only [if_pos hrates, eval_simps, eval_nightlyPrices none hassert hfound hproperty,
        eval_grid hok, gridTypes_find hshown, Option.map_some, Option.getD_some, hnights]
    · simp only [if_neg hrates, eval_pure]

theorem sentRates_eq (hwindow : env.rates = true → WindowOk start endDate) :
    (all (typeRates env connectionId propertyId cfg ratePlanMap start endDate)
      (pushedTypes propertyId db)).eval .idle db = (.ok ((pushedTypes propertyId db).map
        (typeRatesOf env connectionId propertyId cfg ratePlanMap start endDate db)), .idle, db) :=
  eval_all fun _ ht => eval_typeRates ht hwindow

theorem sentRates_def (hwindow : env.rates = true → WindowOk start endDate) :
    sentRates env connectionId propertyId cfg ratePlanMap start endDate db =
      (pushedTypes propertyId db).map
        (typeRatesOf env connectionId propertyId cfg ratePlanMap start endDate db) := by
  rw [sentRates, sentRates_eq hwindow]
  rfl

theorem channelNights_dates :
    (channelNights env connectionId propertyId start endDate db t).map Prod.fst =
      datesFrom start endDate := by
  unfold channelNights
  split_ifs
  · simp only [nightlyOf, List.map_map]
    refine (List.map_congr_left fun d _ => ?_).trans (List.map_id _)
    simp [nightPrice_eq]
  · simp only [List.map_map]
    exact List.map_id _

theorem channelNights_sorted :
    (channelNights env connectionId propertyId start endDate db t).Pairwise
      fun a b => a.1 < b.1 := by
  rw [← List.pairwise_map (f := Prod.fst) (R := (· < ·)), channelNights_dates, datesFrom,
    List.pairwise_map]
  exact List.pairwise_lt_range.imp fun h => by
    simp only [addDays]
    omega

theorem typeRatesOf_nights (hplan : nonEmpty (ratePlanMap.lookup t.id) = some plan) :
    (typeRatesOf env connectionId propertyId cfg ratePlanMap start endDate db t).flatMap rateNights =
      (channelNights env connectionId propertyId start endDate db t).map fun n => (plan, n) := by
  rw [typeRatesOf, hplan]
  dsimp only
  split_ifs with hrates
  · exact rateRanges_nights _
  · have hend : addDays (addDays endDate (-1)) 1 = endDate := by
      simp only [addDays]
      omega
    simp only [List.flatMap_cons, List.flatMap_nil, List.append_nil, rateNights, hend,
      channelNights, if_neg hrates, List.map_map]
    rfl

theorem typeRatesOf_apart :
    (typeRatesOf env connectionId propertyId cfg ratePlanMap start endDate db t).Pairwise
      fun u v => u.date_to < v.date_from := by
  unfold typeRatesOf
  split
  · exact List.Pairwise.nil
  · split_ifs
    · exact rateRanges_apart channelNights_sorted
    · exact List.pairwise_singleton _ _

theorem typeRatesOf_once {d : ℤ} (hplan : nonEmpty (ratePlanMap.lookup t.id) = some plan)
    (hd : start ≤ d ∧ d < endDate) :
    (rangesWith d
      (typeRatesOf env connectionId propertyId cfg ratePlanMap start endDate db t)).length = 1 := by
  have hmem : d ∈ (channelNights env connectionId propertyId start endDate db t).map Prod.fst := by
    rw [channelNights_dates]
    exact mem_datesFrom.mpr hd
  obtain ⟨n, hn, rfl⟩ := List.mem_map.mp hmem
  have hnight : (plan, n.1, n.2) ∈ (typeRatesOf env connectionId propertyId cfg ratePlanMap start
      endDate db t).flatMap rateNights := by
    rw [typeRatesOf_nights hplan]
    exact List.mem_map.mpr ⟨n, hn, rfl⟩
  exact length_rangesWith typeRatesOf_apart hnight

end Ranges

/-- What `pushRates` gives the client: of each mapped type ranges that are, night by night, the prices
of the resolver under the delta of the connection, and each night of the window in one range. -/
theorem rates_pushed (env : Env) (client : ChannexClient) (connectionId propertyId : Id)
    (cfg : ChannexConnectionConfig) (ratePlanMap : List (Id × String)) (start endDate : ℤ)
    (db : HotelDb) (hwindow : env.rates = true → WindowOk start endDate) :
    let updates := sentRates env connectionId propertyId cfg ratePlanMap start endDate db
    ((pushRates env client connectionId propertyId cfg ratePlanMap start endDate).run db).res =
        .ok (match client.pushRates updates.flatten with
          | .ok _ => ⟨updates.flatten.length, true⟩
          | .error _ => ⟨0, false⟩) ∧
      List.Forall₂ (fun t us => ∀ plan, nonEmpty (ratePlanMap.lookup t.id) = some plan →
          us.flatMap rateNights =
            (channelNights env connectionId propertyId start endDate db t).map (fun n => (plan, n)) ∧
          ∀ d, start ≤ d → d < endDate → (rangesWith d us).length = 1)
        (pushedTypes propertyId db) updates ∧
      (env.rates = true → ∀ t ∈ pushedTypes propertyId db,
        ((RatesService.nightlyPrices propertyId t.id start endDate none).run db).res =
          .ok (nightlyOf db propertyId t.id t.baseRate none start endDate)) := by
  intro updates
  have hupdates : updates = (pushedTypes propertyId db).map
      (typeRatesOf env connectionId propertyId cfg ratePlanMap start endDate db) :=
    sentRates_def hwindow
  refine ⟨?_, ?_, fun hrates t ht => ?_⟩
  · have hall := @sentRates_eq env connectionId propertyId cfg ratePlanMap start endDate db hwindow
    rw [← hupdates] at hall
    have hselect : (select (.roomTypes propertyId) (fun db : HotelDb =>
        db.roomTypes.rows.filter fun t =>
          t.propertyId = propertyId && t.deletedAt.isNone && t.active) : Op _).eval .idle db =
        (.ok (pushedTypes propertyId db), .idle, db) := rfl
    rw [Prog.run_res, pushRates, eval_tryCatch, eval_bind, hselect]
    dsimp only
    rw [eval_bind, hall]
    dsimp only
    rw [eval_bind, eval_lift]
    cases client.pushRates updates.flatten with
    | ok _ => rfl
    | error e => rfl
  · rw [hupdates, List.forall₂_map_right_iff]
    refine List.forall₂_same.mpr fun t _ plan hplan => ⟨typeRatesOf_nights hplan, fun d hlo hhi => ?_⟩
    exact typeRatesOf_once hplan ⟨hlo, hhi⟩
  · have hok := hwindow hrates
    have hassert : assertWindow start endDate = .ok () := by
      rw [assertWindow, if_neg (not_not.mpr hok.1), if_neg (not_lt.mpr hok.2)]
    have hfilter := (List.mem_filter.mp ht).2
    simp only [and_decide_eq] at hfilter
    rw [Prog.run_res, eval_nightlyPrices none hassert
      (find?_key (mem_shownTypes.mp (mem_pushedTypes.mp ht)).1) hfilter.1.1]

/-! ## Nights that are closed -/

/-- A property with one active type. -/
def pushHouse : HotelDb where
  roomTypes := (∅ : Table RoomType.id).insert
    { id := 7, propertyId := 1, name := "Deluxe", baseRate := 100000 }

/-- One night of it is not sold, and asks for three nights. -/
def unsoldNight : HotelDb :=
  { pushHouse with
    rateInventoryDays := (∅ : Table RateInventoryDay.key).insert
      { propertyId := 1, roomTypeId := 7, ratePlanId := none, date := 101, minLos := some 3,
        stopSell := true } }

/-- No reading of the updates gives the restrictions of the nights. -/
theorem restrictions_unsent :
    ¬∃ read : List (List ChannexRateUpdate) → ℤ → DayRules, ∀ db : HotelDb,
      ∀ d ∈ datesFrom 100 103,
        read (sentRates { now := 0 } 9 1 ⟨"P", []⟩ [(7, "R")] 100 103 db) d =
          dayRule (dayRows 1 [7] 100 103 none db) d := by
  rintro ⟨read, hread⟩
  have hsame : sentRates { now := 0 } 9 1 ⟨"P", []⟩ [(7, "R")] 100 103 unsoldNight =
      sentRates { now := 0 } 9 1 ⟨"P", []⟩ [(7, "R")] 100 103 pushHouse := by
    rfl
  have hclosed := hread unsoldNight 101 (by decide)
  rw [hsame, hread pushHouse 101 (by decide)] at hclosed
  have hstop := congrArg DayRules.stopSell hclosed
  revert hstop
  decide +kernel

/-- The night has another price on this connection. -/
def dearerNight : HotelDb :=
  { pushHouse with
    rateInventoryDays := (∅ : Table RateInventoryDay.key).insert
      { propertyId := 1, roomTypeId := 7, ratePlanId := none, date := 101,
        channelOverrides := [(9, { priceDeltaBp := some 1500 })] } }

theorem rates_pushed_dearerNight :
    let updates := sentRates { now := 0 } 9 1 ⟨"P", []⟩ [(7, "R")] 100 103 dearerNight
    (updates.flatten.map fun u => (u.date_from, u.date_to, u.rate)) =
        [(100, 100, 100000), (101, 101, 115000), (102, 102, 100000)] ∧
      ((pushRates { now := 0 } ⟨true, fun _ => .ok (), fun _ => .ok (), fun _ _ => .ok []⟩ 9 1
        ⟨"P", []⟩ [(7, "R")] 100 103).run dearerNight).res = .ok ⟨updates.flatten.length, true⟩ :=
  ⟨by decide +kernel, (rates_pushed { now := 0 }
    ⟨true, fun _ => .ok (), fun _ => .ok (), fun _ _ => .ok []⟩ 9 1 ⟨"P", []⟩ [(7, "R")] 100 103
    dearerNight fun _ => by decide).1⟩

end Travelo
