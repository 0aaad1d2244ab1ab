import Mathlib.Data.List.Sort
import Travelo.RateWrites

/-!
# What a bulk edit asks of a cell

A request asks for values of the fields of a cell (`requestedValues`), and the cell has a value
of each (`storedValue`). The wants of the request are these values, field by field
(`fieldWants_after`); how many of them make a change is `countP_changesTo`, and what the changes
make of a row is `valueOf_apply` with `valueOf_nextOf`.
-/

namespace Travelo

open RateDayPatch (violatesNotNull apply)

namespace RateValue

/-- A JSON object is the same whatever the order of its keys. -/
def canonical : RateValue → RateValue
  | .channels overrides => .channels (jsonb overrides)
  | value => value

/-- The two are the same JSON. -/
def Same (a b : RateValue) : Prop := a.canonical = b.canonical

instance (a b : RateValue) : Decidable (a.Same b) := inferInstanceAs (Decidable (_ = _))

theorem Same.refl (a : RateValue) : a.Same a := rfl

theorem Same.symm {a b : RateValue} (h : a.Same b) : b.Same a := Eq.symm h

theorem Same.trans {a b c : RateValue} (h : a.Same b) (h' : b.Same c) : a.Same c := Eq.trans h h'

@[simp] theorem canonical_null : null.canonical = null := rfl

@[simp] theorem canonical_number (n : ℤ) : (number n).canonical = number n := rfl

@[simp] theorem canonical_flag (b : Bool) : (flag b).canonical = flag b := rfl

@[simp] theorem canonical_channels (overrides : List (Id × ChannelDayOverride)) :
    (channels overrides).canonical = channels (jsonb overrides) := rfl

@[simp] theorem canonical_ofInt (n : Option ℤ) : (ofInt n).canonical = ofInt n := by
  cases n <;> rfl

@[simp] theorem canonical_ofNat (n : Option ℕ) : (ofNat n).canonical = ofNat n := by
  cases n <;> rfl

@[simp] theorem canonical_ofBool (b : Option Bool) : (ofBool b).canonical = ofBool b := by
  cases b <;> rfl

theorem same_null_iff {a : RateValue} : a.Same .null ↔ a = .null := by
  cases a <;> simp [Same]

end RateValue

/-- A field of a day. -/
def RateInventoryDay.valueOf (d : RateInventoryDay) : RateChangeField → RateValue
  | .price => .ofInt d.pricePaise
  | .available => .ofNat d.available
  | .minLos => .ofNat d.minLos
  | .maxLos => .ofNat d.maxLos
  | .stopSell => .flag d.stopSell
  | .cta => .flag d.closedToArrival
  | .ctd => .flag d.closedToDeparture
  | .channel => .channels d.channelOverrides

/-- What a patch gives a field, if it gives it anything. -/
def RateDayPatch.valueOf (next : RateDayPatch) : RateChangeField → Option RateValue
  | .price => next.pricePaise.map .ofInt
  | .available => next.available.map .ofNat
  | .minLos => next.minLos.map .ofNat
  | .maxLos => next.maxLos.map .ofNat
  | .stopSell => next.stopSell.map .ofBool
  | .cta => next.closedToArrival.map .ofBool
  | .ctd => next.closedToDeparture.map .ofBool
  | .channel => next.channelOverrides.map .channels

namespace RateSet

/-- A flag is asked to be `null`. -/
def clearsFlag (set : RateSet) : Bool :=
  set.stopSell = some none || set.closedToArrival = some none ||
    set.closedToDeparture = some none

/-- The override of a connection is sent with both of its fields. -/
def sendsBoth (set : RateSet) : Bool :=
  set.channel.any fun c => c.2.any fun o => o.priceDeltaBp.isSome && o.available.isSome

end RateSet

namespace RatesService

/-- The value of a field of a cell; without a row it is `null`. -/
def storedValue (day : Option RateInventoryDay) (field : RateChangeField) : RateValue :=
  (day.map (·.valueOf field)).getD .null

/-- What a request asks a field of a cell to be. -/
def requestedValues (set : RateSet) (base : ℤ) (before : Option RateInventoryDay) :
    RateChangeField → List RateValue
  | .price => set.pricePaise.toList.map .ofInt ++
      set.priceDeltaBp.toList.map fun delta => .number (deltaPrice base delta)
  | .available => set.available.toList.map .ofNat
  | .minLos => set.minLos.toList.map .ofNat
  | .maxLos => set.maxLos.toList.map .ofNat
  | .stopSell => set.stopSell.toList.map .ofBool
  | .cta => set.closedToArrival.toList.map .ofBool
  | .ctd => set.closedToDeparture.toList.map .ofBool
  | .channel => set.channel.toList.map fun c =>
      .channels (assignKey ((before.map (·.channelOverrides)).getD []) c.1 c.2)

/-- The request asks a field of a cell for another value than it has. -/
def Asks (set : RateSet) (base : ℤ) (before : Option RateInventoryDay)
    (field : RateChangeField) : Prop :=
  ∃ v ∈ requestedValues set base before field, ¬v.Same (storedValue before field)

instance (set : RateSet) (base : ℤ) (before : Option RateInventoryDay)
    (field : RateChangeField) : Decidable (Asks set base before field) :=
  inferInstanceAs (Decidable (∃ v ∈ _, _))

/-! ## Overrides in JSON -/

section Overrides

variable {l x : List (Id × ChannelDayOverride)} {k : Id} {override : Option ChannelDayOverride}

theorem perm_of_jsonb_eq (h : jsonb l = jsonb x) : l.Perm x := by
  have hl : (jsonb l).Perm l := List.perm_insertionSort _ l
  have hx : (jsonb x).Perm x := List.perm_insertionSort _ x
  exact hl.symm.trans (h ▸ hx)

theorem jsonb_jsonb : jsonb (jsonb l) = jsonb l := by
  have hsorted := List.pairwise_insertionSort
    (fun a b : Id × ChannelDayOverride => a.1 ≤ b.1) l
  exact hsorted.insertionSort_eq

theorem assignKey_at {e : Id × ChannelDayOverride} (he : e ∈ assignKey l k override)
    (hk : e.1 = k) : override = some e.2 := by
  cases override with
  | none => simp [assignKey, hk] at he
  | some o =>
    simp only [assignKey] at he
    split at he
    · obtain ⟨a, -, ha⟩ := List.mem_map.mp he
      split at ha
      · exact congrArg (fun e => some e.2) ha
      · next hne => exact absurd (ha ▸ hk) hne
    · next hnone =>
      rcases List.mem_append.mp he with hold | hnew
      · exact absurd (List.any_eq_true.mpr ⟨e, hold, by simpa using hk⟩) hnone
      · rw [List.mem_singleton.mp hnew]

theorem mem_assignKey {o : ChannelDayOverride} : (k, o) ∈ assignKey l k (some o) := by
  simp only [assignKey]
  split
  · next hany =>
    obtain ⟨e, he, hk⟩ := List.any_eq_true.mp hany
    exact List.mem_map.mpr ⟨e, he, if_pos (by simpa using hk)⟩
  · exact List.mem_append_right _ (List.mem_singleton_self _)

theorem assignKey_settled (h : x.Perm (assignKey l k override)) :
    assignKey x k override = x := by
  have hat : ∀ e ∈ x, e.1 = k → override = some e.2 := fun e he hk => assignKey_at (h.subset he) hk
  cases override with
  | none =>
    refine List.filter_eq_self.mpr fun e he => ?_
    have hne : e.1 ≠ k := fun hk => nomatch hat e he hk
    simpa using hne
  | some o =>
    have hmem : (k, o) ∈ x := h.symm.subset mem_assignKey
    have hany : (x.any fun e => e.1 = k) = true :=
      List.any_eq_true.mpr ⟨(k, o), hmem, by simp⟩
    have hsame : ∀ e ∈ x, (if e.1 = k then (k, o) else e) = e := by
      intro e he
      split_ifs with hk
      · exact Prod.ext hk.symm (Option.some.inj (hat e he hk))
      · rfl
    rw [assignKey, if_pos hany, List.map_congr_left hsame, List.map_id']

theorem assignKey_eq_of_jsonb (h : jsonb (assignKey l k override) = jsonb l) :
    assignKey l k override = l :=
  assignKey_settled (perm_of_jsonb_eq h).symm

variable {a b : ChannelDayOverride}

theorem storedFields_inj (h : a.storedFields = b.storedFields) : a = b := by
  obtain ⟨ap, aa⟩ := a
  obtain ⟨bp, ba⟩ := b
  cases ap <;> cases aa <;> cases bp <;> cases ba <;>
    simp_all [ChannelDayOverride.storedFields, Int.ofNat_inj]

/-- The text that is stored is the text that is sent unless both fields are there. -/
theorem storedFields_eq_sent : a.storedFields = b.sentFields ↔
    a = b ∧ (b.priceDeltaBp.isSome && b.available.isSome) = false := by
  obtain ⟨ap, aa⟩ := a
  obtain ⟨bp, ba⟩ := b
  cases ap <;> cases aa <;> cases bp <;> cases ba <;>
    simp [ChannelDayOverride.storedFields, ChannelDayOverride.sentFields, Int.ofNat_inj,
      and_comm]

/-- Equal texts are of equal entries, none of which has both fields under the key that is
sent. -/
theorem texts_eq {m : List (Id × ChannelDayOverride)}
    (h : l.map (fun e => (e.1, e.2.storedFields)) =
      m.map (fun e => (e.1, if e.1 = k then e.2.sentFields else e.2.storedFields))) :
    l = m ∧ ∀ e ∈ m, e.1 = k → (e.2.priceDeltaBp.isSome && e.2.available.isSome) = false := by
  induction l generalizing m with
  | nil =>
    obtain rfl : m = [] := by simpa using h.symm
    exact ⟨rfl, fun _ he => nomatch he⟩
  | cons a l ih =>
    cases m with
    | nil => cases h
    | cons c m =>
      simp only [List.map_cons, List.cons.injEq, Prod.mk.injEq] at h
      obtain ⟨⟨hkey, hfields⟩, hrest⟩ := h
      obtain ⟨rfl, hm⟩ := ih hrest
      have hhead : a.2 = c.2 ∧ (c.1 = k →
          (c.2.priceDeltaBp.isSome && c.2.available.isSome) = false) := by
        split_ifs at hfields with hk
        · obtain ⟨heq, hone⟩ := storedFields_eq_sent.mp hfields
          exact ⟨heq, fun _ => hone⟩
        · exact ⟨storedFields_inj hfields, fun h => absurd h hk⟩
      refine ⟨congrArg (· :: l) (Prod.ext hkey hhead.1), fun e he hk => ?_⟩
      rcases List.mem_cons.mp he with rfl | hin
      · exact hhead.2 hk
      · exact hm e hin hk

end Overrides

/-! ## The wants of a request -/

/-- What a request wants of a cell. -/
def wantsOf (set : RateSet) (base : ℤ) (before : Option RateInventoryDay) : List RateWant :=
  priceWants set base before ++ otherWants set before

section Wants

variable {set : RateSet} {base : ℤ} {before : Option RateInventoryDay} {w : RateWant}
  {field : RateChangeField}

theorem changesTo_eq : changesTo set base before = (wantsOf set base before).filter (·.differs) :=
  rfl

/-- The override of a connection differs if it is another one, or if its text is. -/
theorem wantChannel_differs {k : Id} {override : Option ChannelDayOverride} :
    (wantChannel before k override).differs = true ↔
      ¬(wantChannel before k override).after.Same (storedValue before .channel) ∨
        (override.any fun o => o.priceDeltaBp.isSome && o.available.isSome) = true := by
  cases before with
  | none => simp [wantChannel, storedValue, RateValue.Same, RateValue.ofChannels]
  | some b =>
    simp only [wantChannel, storedValue, RateInventoryDay.valueOf, RateValue.ofChannels,
      RateValue.Same, RateValue.canonical_channels, Option.map_some, Option.getD_some, ne_eq,
      decide_eq_true_eq, Option.some.injEq, RateValue.channels.injEq]
    generalize b.channelOverrides = l
    constructor
    · intro hdiffers
      by_contra hsame
      push Not at hsame
      obtain ⟨hjson, hone⟩ := hsame
      -- the same entries, and each of them is written as it is stored
      rw [assignKey_eq_of_jsonb hjson] at hdiffers
      refine hdiffers (List.map_congr_left fun e he => ?_)
      split_ifs with hk
      · have hat := assignKey_at ((assignKey_eq_of_jsonb hjson).symm ▸ he) hk
        rw [hat] at hone
        exact congrArg _ (storedFields_eq_sent.mpr ⟨rfl, Bool.eq_false_of_not_eq_true hone⟩)
      · rfl
    · intro hcase htexts
      obtain ⟨heq, hone⟩ := texts_eq htexts
      rcases hcase with hdiff | hboth
      · exact hdiff (congrArg jsonb heq.symm)
      · obtain ⟨o, rfl, ho⟩ := (Option.any_eq_true _ _).mp hboth
        exact Bool.false_ne_true ((hone (k, o) mem_assignKey rfl).symm.trans ho)

/-- What every want of a request is. -/
structure IsWant (set : RateSet) (day : Option RateInventoryDay) (w : RateWant) : Prop where
  before : w.before = storedValue day w.field
  assign : ∀ next field, (w.assign next).valueOf field =
    if w.field = field then some w.after else next.valueOf field
  differs : w.differs = true ↔
    ¬w.after.Same (storedValue day w.field) ∨ w.field = .channel ∧ set.sendsBoth = true

theorem isWant_want {value : RateValue} {assign : RateDayPatch → RateDayPatch}
    (hplain : field ≠ .channel) (hcanonical : value.canonical = value)
    (hstored : (storedValue before field).canonical = storedValue before field)
    (hassign : ∀ next f, (assign next).valueOf f =
      if field = f then some value else next.valueOf f) :
    IsWant set before (want field (storedValue before field) value assign) where
  before := rfl
  assign := hassign
  differs := by
    simp only [want, RateValue.Same, hcanonical, hstored, hplain, ne_eq, decide_eq_true_eq,
      false_and, or_false]
    exact ⟨fun h heq => h heq.symm, fun h heq => h heq.symm⟩

theorem storedValue_canonical (hplain : field ≠ .channel) :
    (storedValue before field).canonical = storedValue before field := by
  cases before with
  | none => rfl
  | some b => cases field <;>
      simp_all [storedValue, RateInventoryDay.valueOf]

theorem isWant_of_mem (hw : w ∈ wantsOf set base before) : IsWant set before w := by
  simp only [wantsOf, priceWants, otherWants, List.mem_append, List.mem_map,
    Option.mem_toList] at hw
  rcases hw with (⟨v, -, rfl⟩ | ⟨v, -, rfl⟩) | ((((((⟨v, -, rfl⟩ | ⟨v, -, rfl⟩) | ⟨v, -, rfl⟩) |
    ⟨v, -, rfl⟩) | ⟨v, -, rfl⟩) | ⟨v, -, rfl⟩) | ⟨c, hc, rfl⟩)
  case inr.inr =>
    refine ⟨?_, fun next field => ?_, ?_⟩
    · cases before <;> rfl
    · cases field <;> rfl
    · have hboth : set.sendsBoth =
          c.2.any fun o => o.priceDeltaBp.isSome && o.available.isSome := by
        rw [RateSet.sendsBoth, hc, Option.any_some]
      rw [wantChannel_differs, hboth]
      exact or_congr Iff.rfl ⟨fun h => ⟨rfl, h⟩, fun h => h.2⟩
  all_goals
    have hstored := fun field => @storedValue_canonical before field
    cases before <;>
      exact isWant_want (by decide) (by simp) (hstored _ (by decide))
        fun next f => by cases f <;> rfl

theorem fieldWants_after (set : RateSet) (base : ℤ) (before : Option RateInventoryDay)
    (field : RateChangeField) :
    ((wantsOf set base before).filter fun w => w.field = field).map (·.after) =
      requestedValues set base before field := by
  cases field <;>
    simp [wantsOf, priceWants, otherWants, requestedValues, want, wantChannel, List.filter_append,
      List.filter_map, Function.comp_def, RateValue.ofInt, RateValue.ofChannels]

theorem mem_requestedValues {v : RateValue} :
    v ∈ requestedValues set base before field ↔
      ∃ w ∈ wantsOf set base before, w.field = field ∧ w.after = v := by
  rw [← fieldWants_after, List.mem_map]
  constructor
  · rintro ⟨w, hw, rfl⟩
    obtain ⟨hmem, hfield⟩ := List.mem_filter.mp hw
    exact ⟨w, hmem, of_decide_eq_true hfield, rfl⟩
  · rintro ⟨w, hw, hfield, rfl⟩
    exact ⟨w, List.mem_filter.mpr ⟨hw, decide_eq_true hfield⟩, rfl⟩

theorem countP_changesTo (set : RateSet) (base : ℤ) (before : Option RateInventoryDay)
    (field : RateChangeField) :
    (changesTo set base before).countP (fun w => w.field = field) =
      (requestedValues set base before field).countP fun v =>
        ¬v.Same (storedValue before field) ∨ field = .channel ∧ set.sendsBoth = true := by
  rw [changesTo_eq, List.countP_filter, ← fieldWants_after, List.countP_map, List.countP_filter]
  refine List.countP_congr fun w hw => ?_
  have hdiffers := (isWant_of_mem hw).differs
  simp only [Bool.and_eq_true, decide_eq_true_eq, Function.comp_apply, hdiffers]
  constructor
  · rintro ⟨rfl, h⟩
    exact ⟨h, rfl⟩
  · rintro ⟨h, rfl⟩
    exact ⟨rfl, h⟩

/-- A request changes nothing of a cell when it asks for what is there, and sends no override
whose text is another one. -/
theorem changesTo_eq_nil_iff : changesTo set base before = [] ↔
    (∀ field, ¬Asks set base before field) ∧ set.sendsBoth = false := by
  rw [changesTo_eq, List.filter_eq_nil_iff]
  constructor
  · intro hnone
    constructor
    · rintro field ⟨v, hv, hv'⟩
      obtain ⟨w, hw, rfl, rfl⟩ := mem_requestedValues.mp hv
      exact hnone w hw ((isWant_of_mem hw).differs.mpr (.inl hv'))
    · by_contra hboth
      rw [Bool.not_eq_false] at hboth
      obtain ⟨c, hc, -⟩ := (Option.any_eq_true _ _).mp hboth
      have hw : wantChannel before c.1 c.2 ∈ wantsOf set base before := by
        simp [wantsOf, otherWants, hc]
      exact hnone _ hw ((isWant_of_mem hw).differs.mpr (.inr ⟨rfl, hboth⟩))
  · rintro ⟨hasks, hone⟩ w hw hdiffers
    rcases (isWant_of_mem hw).differs.mp hdiffers with hne | ⟨-, hboth⟩
    · exact hasks w.field ⟨_, mem_requestedValues.mpr ⟨w, hw, rfl, rfl⟩, hne⟩
    · exact Bool.false_ne_true (hone.symm.trans hboth)

theorem valueOf_foldl (field : RateChangeField) {l : List RateWant}
    (hl : ∀ w ∈ l, IsWant set before w) : ∀ next : RateDayPatch,
    let last := l.foldl (fun next w => w.assign next) next;
      (∃ w ∈ l, w.field = field ∧ last.valueOf field = some w.after) ∨
        (∀ w ∈ l, w.field ≠ field) ∧ last.valueOf field = next.valueOf field := by
  induction l with
  | nil => exact fun next => .inr ⟨fun _ hw => (nomatch hw), rfl⟩
  | cons w l ih =>
    intro next
    have hassign := (hl w List.mem_cons_self).assign next field
    rcases ih (fun w' hw' => hl w' (List.mem_cons_of_mem w hw')) (w.assign next) with
      ⟨w', hw', hfield, hvalue⟩ | ⟨hothers, hvalue⟩
    · exact .inl ⟨w', List.mem_cons_of_mem w hw', hfield, hvalue⟩
    · rw [hassign] at hvalue
      by_cases hfield : w.field = field
      · rw [if_pos hfield] at hvalue
        exact .inl ⟨w, List.mem_cons_self, hfield, hvalue⟩
      · rw [if_neg hfield] at hvalue
        refine .inr ⟨fun w' hw' => ?_, hvalue⟩
        rcases List.mem_cons.mp hw' with rfl | hin
        · exact hfield
        · exact hothers w' hin

theorem valueOf_nextOf (set : RateSet) (base : ℤ) (before : Option RateInventoryDay)
    (field : RateChangeField) :
    let next := nextOf (changesTo set base before)
    let differs (v : RateValue) :=
      ¬v.Same (storedValue before field) ∨ field = .channel ∧ set.sendsBoth = true
    (∃ v ∈ requestedValues set base before field, differs v ∧ next.valueOf field = some v) ∨
      (∀ v ∈ requestedValues set base before field, ¬differs v) ∧ next.valueOf field = none := by
  have hwants : ∀ w ∈ changesTo set base before,
      w ∈ wantsOf set base before ∧ IsWant set before w := by
    intro w hw
    have hmem := (List.mem_filter.mp hw).1
    exact ⟨hmem, isWant_of_mem hmem⟩
  rcases valueOf_foldl field (fun w hw => (hwants w hw).2) {} with
    ⟨w, hw, rfl, hvalue⟩ | ⟨hnone, hvalue⟩
  · obtain ⟨hmem, hwant⟩ := hwants w hw
    have hdiffers := hwant.differs.mp (List.mem_filter.mp hw).2
    exact .inl ⟨w.after, mem_requestedValues.mpr ⟨w, hmem, rfl, rfl⟩, hdiffers, hvalue⟩
  · refine .inr ⟨fun v hv hdiffers => ?_, hvalue.trans (by cases field <;> rfl)⟩
    obtain ⟨w, hw, rfl, rfl⟩ := mem_requestedValues.mp hv
    have hin := List.mem_filter.mpr ⟨hw, (isWant_of_mem hw).differs.mpr hdiffers⟩
    exact hnone w hin rfl

end Wants

/-! ## The row the changes make -/

/-- The fields that are flags. -/
def FLAGS : List RateChangeField := [.stopSell, .cta, .ctd]

section Row

variable {set : RateSet} {base : ℤ} {before : Option RateInventoryDay} {next : RateDayPatch}
  {field : RateChangeField} {v : RateValue}

theorem violatesNotNull_iff :
    next.violatesNotNull = true ↔ ∃ field ∈ FLAGS, next.valueOf field = some .null := by
  have hnull : ∀ flag : Option (Option Bool),
      flag = some none ↔ flag.map RateValue.ofBool = some .null := by
    rintro (_ | _ | _) <;> simp [RateValue.ofBool]
  simp [violatesNotNull, FLAGS, RateDayPatch.valueOf, hnull, or_assoc]

theorem clearsFlag_iff (set : RateSet) (base : ℤ) (before : Option RateInventoryDay) :
    set.clearsFlag = true ↔
      ∃ field ∈ FLAGS, RateValue.null ∈ requestedValues set base before field := by
  have hnull : ∀ flag : Option (Option Bool),
      flag = some none ↔ RateValue.null ∈ flag.toList.map RateValue.ofBool := by
    rintro (_ | _ | _) <;> simp [RateValue.ofBool]
  simp only [RateSet.clearsFlag, FLAGS, List.exists_mem_cons_iff, List.not_mem_nil, false_and,
    exists_false, or_false, requestedValues, Bool.or_eq_true, decide_eq_true_eq, hnull]
  exact or_assoc

theorem valueOf_apply (h : next.violatesNotNull = false) (tag updatedBy : Option Id) (now : ℤ)
    (d : RateInventoryDay) (field : RateChangeField) :
    ((next.apply tag updatedBy now d).valueOf field).Same
      ((next.valueOf field).getD (d.valueOf field)) := by
  have hflag : ∀ {flag : Option (Option Bool)} {old : Bool}, flag ≠ some none →
      (RateValue.flag (flag.join.getD old)).Same
        ((flag.map RateValue.ofBool).getD (.flag old)) := by
    rintro (_ | _ | b) old hne
    · exact .refl _
    · exact absurd rfl hne
    · exact .refl _
  simp only [violatesNotNull, Bool.or_eq_false_iff, decide_eq_false_iff_not] at h
  obtain ⟨⟨hstop, hcta⟩, hctd⟩ := h
  cases field with
  | price => cases hn : next.pricePaise <;> simp [apply, RateInventoryDay.valueOf,
      RateDayPatch.valueOf, hn, RateValue.Same]
  | available => cases hn : next.available <;> simp [apply,
      RateInventoryDay.valueOf, RateDayPatch.valueOf, hn, RateValue.Same]
  | minLos => cases hn : next.minLos <;> simp [apply, RateInventoryDay.valueOf,
      RateDayPatch.valueOf, hn, RateValue.Same]
  | maxLos => cases hn : next.maxLos <;> simp [apply, RateInventoryDay.valueOf,
      RateDayPatch.valueOf, hn, RateValue.Same]
  | stopSell => exact hflag hstop
  | cta => exact hflag hcta
  | ctd => exact hflag hctd
  | channel => cases hn : next.channelOverrides <;> simp [apply,
      RateInventoryDay.valueOf, RateDayPatch.valueOf, hn, RateValue.Same, jsonb_jsonb]

theorem requestedValues_length (base : ℤ) (before : Option RateInventoryDay)
    (h : field = .price → ¬(set.pricePaise.isSome = true ∧ set.priceDeltaBp.isSome = true)) :
    (requestedValues set base before field).length ≤ 1 := by
  have hone : ∀ {α : Type} (o : Option α), o.toList.length ≤ 1 := by
    rintro α (_ | _) <;> simp
  cases field with
  | price =>
    have hnot := h rfl
    cases hp : set.pricePaise <;> cases hd : set.priceDeltaBp <;>
      simp_all [requestedValues]
  | _ => exact (List.length_map _).trans_le (hone _)

theorem requestedValues_unique {v' : RateValue}
    (h : field = .price → ¬(set.pricePaise.isSome = true ∧ set.priceDeltaBp.isSome = true))
    (hv : v ∈ requestedValues set base before field)
    (hv' : v' ∈ requestedValues set base before field) : v = v' := by
  have hle := requestedValues_length base before h
  match hl : requestedValues set base before field, hv, hv' with
  | [a], hv, hv' => exact (List.mem_singleton.mp hv).trans (List.mem_singleton.mp hv').symm
  | a :: b :: l, _, _ =>
    rw [hl] at hle
    simp at hle

/-- When a cell has what an absolute request asks for, the request asks nothing more of it. -/
theorem not_asks_after {base' : ℤ} {after : Option RateInventoryDay}
    (hdelta : set.priceDeltaBp = none)
    (h : ∀ v ∈ requestedValues set base before field, v.Same (storedValue after field)) :
    ¬Asks set base' after field := by
  rintro ⟨v, hv, hne⟩
  by_cases hfield : field = .channel
  · subst hfield
    obtain ⟨c, hc, rfl⟩ := List.mem_map.mp hv
    have hsame := h _ (List.mem_map.mpr ⟨c, hc, rfl⟩)
    cases after with
    | none => simp [storedValue, RateValue.Same] at hsame
    | some row =>
      have hjson : jsonb row.channelOverrides =
          jsonb (assignKey ((before.map (·.channelOverrides)).getD []) c.1 c.2) := by
        simpa [storedValue, RateInventoryDay.valueOf, RateValue.Same] using hsame.symm
      refine hne (congrArg (fun l => (RateValue.channels l).canonical) ?_)
      exact assignKey_settled (perm_of_jsonb_eq hjson)
  · refine hne (h v ?_)
    cases field <;> simp_all [requestedValues]

end Row

end RatesService

end Travelo
