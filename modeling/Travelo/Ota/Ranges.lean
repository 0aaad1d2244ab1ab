import Mathlib.Data.List.Perm.Basic
import Travelo.Channex

/-!
# The ranges of the availability

`toAvailabilityRanges` groups the nights by room type, puts each group in the order of its dates and
collapses it. `availability_ranges`: the ranges night by night are the nights that are mapped, those
of one room type do not overlap, and no two of them that are adjacent have the same count.
-/

namespace Travelo

open Claims ChannexSyncService

/-! ## Groups -/

section Groups

variable {α κ : Type} [DecidableEq κ]

/-- The groups of a list by a key, one after another, are the list in another order. -/
theorem flatMap_filter_perm (key : α → κ) : ∀ (ks : List κ) (l : List α), ks.Nodup →
    (∀ a ∈ l, key a ∈ ks) → (ks.flatMap fun k => l.filter fun a => key a = k).Perm l := by
  intro ks
  induction ks with
  | nil =>
    intro l _ hkeys
    have hnone : l = [] := List.eq_nil_iff_forall_not_mem.mpr fun a ha => by
      cases hkeys a ha
    rw [hnone]
    exact List.Perm.refl _
  | cons k ks ih =>
    intro l hnodup hkeys
    obtain ⟨hnew, hnodup'⟩ := List.nodup_cons.mp hnodup
    rw [List.flatMap_cons]
    have hothers : (ks.flatMap fun k' => l.filter fun a => key a = k') =
        ks.flatMap fun k' => (l.filter fun a => !decide (key a = k)).filter fun a => key a = k' := by
      refine List.flatMap_congr fun k' hk' => ?_
      have hne : k' ≠ k := fun heq => hnew (heq ▸ hk')
      rw [List.filter_filter]
      refine List.filter_congr fun a _ => ?_
      by_cases ha : key a = k'
      · simp [ha, hne]
      · simp [ha]
    rw [hothers]
    refine (List.Perm.append_left _ (ih _ hnodup' fun a ha => ?_)).trans
      (List.filter_append_perm (fun a => decide (key a = k)) l)
    obtain ⟨hmem, hother⟩ := List.mem_filter.mp ha
    rcases List.mem_cons.mp (hkeys a hmem) with heq | hin
    · simp [heq] at hother
    · exact hin

theorem nodup_eraseDups : ∀ (n : ℕ) (l : List κ), l.length ≤ n → l.eraseDups.Nodup := by
  intro n
  induction n with
  | zero =>
    intro l hl
    obtain rfl := List.length_eq_zero_iff.mp (Nat.le_zero.mp hl)
    exact List.nodup_nil
  | succ n ih =>
    intro l hl
    cases l with
    | nil => exact List.nodup_nil
    | cons a l =>
      rw [List.eraseDups_cons, List.nodup_cons]
      have hshort : (l.filter fun b => !b == a).length ≤ n :=
        (List.length_filter_le _ _).trans (Nat.le_of_succ_le_succ hl)
      refine ⟨fun hmem => ?_, ih _ hshort⟩
      rw [List.mem_eraseDups] at hmem
      simp at hmem

end Groups

/-! ## One room type -/

section Ranges

variable {cfg : ChannexConnectionConfig} {nights list : List NightlyAvailability} {property x : String}
  {roomTypeId : Id}

/-- The nights of a range, as Channex reads them. -/
def rangeNights (u : ChannexAvailabilityUpdate) : List (String × ℤ × ℕ) :=
  (datesFrom u.date_from (addDays u.date_to 1)).map fun d => (u.room_type_id, d, u.availability)

/-- Two ranges do not overlap, and adjacent ones differ. -/
def Separate (u v : ChannexAvailabilityUpdate) : Prop :=
  u.date_to < v.date_from ∧ (v.date_from = addDays u.date_to 1 → u.availability ≠ v.availability)

theorem rangesOf_nights :
    (rangesOf property x list).flatMap rangeNights =
      (list.insertionSort fun a b => a.date ≤ b.date).map fun n => (x, n.date, n.available) := by
  unfold rangesOf
  cases list.insertionSort fun a b => a.date ≤ b.date with
  | nil => rfl
  | cons first rest =>
    have hdays := Run.days_collapse (rest.map fun n => (n.date, n.available))
      (.day first.date first.available)
    rw [Run.days_day] at hdays
    dsimp only
    rw [List.flatMap_map]
    have hrange : ∀ r : Run ℕ, rangeNights
        { property_id := property, room_type_id := x, date_from := r.lo, date_to := r.hi,
          availability := r.val } = r.days.map fun d => (x, d) := by
      intro r
      simp only [rangeNights, Run.days, datesFrom, addDays, List.map_map]
      rfl
    simp only [hrange]
    rw [← List.map_flatMap, hdays]
    simp only [List.singleton_append, List.map_cons, List.map_map]
    rfl

theorem rangesOf_separate (hdates : (list.map (·.date)).Nodup) :
    (rangesOf property x list).Pairwise Separate := by
  unfold rangesOf
  have hsorted : (list.insertionSort fun a b => a.date ≤ b.date).Pairwise
      fun a b => a.date < b.date := by
    have hle := List.pairwise_insertionSort (fun a b : NightlyAvailability => a.date ≤ b.date) list
    have hperm := List.perm_insertionSort (fun a b : NightlyAvailability => a.date ≤ b.date) list
    have hne : (list.insertionSort fun a b => a.date ≤ b.date).Pairwise
        fun a b => a.date ≠ b.date :=
      List.pairwise_map.mp ((hperm.map _).nodup_iff.mpr hdates)
    exact hle.imp₂ (fun a b h h' => lt_of_le_of_ne h h') hne
  cases hlist : list.insertionSort fun a b => a.date ≤ b.date with
  | nil => exact List.Pairwise.nil
  | cons first rest =>
    rw [hlist] at hsorted
    obtain ⟨hfirst, hrest⟩ := List.pairwise_cons.mp hsorted
    dsimp only
    rw [List.pairwise_map]
    refine Run.pairwise_collapse _ _ (List.pairwise_map.mpr hrest) fun d hd => ?_
    obtain ⟨n, hn, rfl⟩ := List.mem_map.mp hd
    exact hfirst n hn

theorem typeRanges_nights : (typeRanges cfg nights roomTypeId).flatMap rangeNights =
    ((nights.filter fun n => n.roomTypeId = roomTypeId).insertionSort fun a b =>
      a.date ≤ b.date).filterMap fun n =>
        (mapped cfg n.roomTypeId).map fun x => (x, n.date, n.available) := by
  have htype : ∀ n ∈ (nights.filter fun n => n.roomTypeId = roomTypeId).insertionSort
      (fun a b => a.date ≤ b.date), n.roomTypeId = roomTypeId := by
    intro n hn
    rw [List.mem_insertionSort, List.mem_filter] at hn
    exact of_decide_eq_true hn.2
  unfold typeRanges
  cases hmapped : mapped cfg roomTypeId with
  | none =>
    symm
    rw [List.flatMap_nil, List.filterMap_eq_nil_iff]
    intro n hn
    rw [htype n hn, hmapped]
    rfl
  | some x =>
    dsimp only
    rw [rangesOf_nights, ← List.filterMap_eq_map]
    refine List.filterMap_congr fun n hn => ?_
    rw [htype n hn, hmapped]
    rfl

theorem nodup_typeDates (hdistinct : (nights.map fun n => (n.roomTypeId, n.date)).Nodup) :
    ((nights.filter fun n => n.roomTypeId = roomTypeId).map (·.date)).Nodup := by
  have hpairs : nights.Pairwise fun a b => (a.roomTypeId, a.date) ≠ (b.roomTypeId, b.date) :=
    List.pairwise_map.mp hdistinct
  refine List.pairwise_map.mpr ?_
  have hboth := hpairs.filter fun n => decide (n.roomTypeId = roomTypeId)
  refine hboth.imp_of_mem fun {a b} ha hb hne heq => hne ?_
  have hta : a.roomTypeId = roomTypeId := of_decide_eq_true (List.mem_filter.mp ha).2
  have htb : b.roomTypeId = roomTypeId := of_decide_eq_true (List.mem_filter.mp hb).2
  rw [hta, htb, heq]

theorem typeRanges_separate (hdistinct : (nights.map fun n => (n.roomTypeId, n.date)).Nodup) :
    (typeRanges cfg nights roomTypeId).Pairwise Separate := by
  unfold typeRanges
  cases mapped cfg roomTypeId with
  | none => exact List.Pairwise.nil
  | some x => exact rangesOf_separate (nodup_typeDates hdistinct)

theorem id_of_mem_typeRanges {u : ChannexAvailabilityUpdate}
    (hu : u ∈ typeRanges cfg nights roomTypeId) : mapped cfg roomTypeId = some u.room_type_id := by
  unfold typeRanges at hu
  cases hmapped : mapped cfg roomTypeId with
  | none =>
    rw [hmapped] at hu
    cases hu
  | some x =>
    rw [hmapped] at hu
    unfold rangesOf at hu
    dsimp only at hu
    split at hu
    · cases hu
    · obtain ⟨r, -, rfl⟩ := List.mem_map.mp hu
      rfl

/-- The ranges with an id that only one room type is mapped to are those of that type. -/
theorem filter_updates_eq {types : List Id} (hnodup : types.Nodup)
    (honly : ∀ t t', mapped cfg t = some x → mapped cfg t' = some x → t = t') :
    (types.flatMap (typeRanges cfg nights)).filter (fun u => u.room_type_id = x) = [] ∨
      ∃ t, (types.flatMap (typeRanges cfg nights)).filter (fun u => u.room_type_id = x) =
        typeRanges cfg nights t := by
  induction types with
  | nil => exact .inl rfl
  | cons t types ih =>
    obtain ⟨hnew, hnodup'⟩ := List.nodup_cons.mp hnodup
    rw [List.flatMap_cons, List.filter_append]
    by_cases ht : mapped cfg t = some x
    · right
      have hall : (typeRanges cfg nights t).filter (fun u => u.room_type_id = x) =
          typeRanges cfg nights t := by
        refine List.filter_eq_self.mpr fun u hu => ?_
        rw [id_of_mem_typeRanges hu] at ht
        exact decide_eq_true (Option.some.inj ht)
      have hothers : (types.flatMap (typeRanges cfg nights)).filter
          (fun u => u.room_type_id = x) = [] := by
        refine List.filter_eq_nil_iff.mpr fun u hu hx => ?_
        obtain ⟨t', ht', hu'⟩ := List.mem_flatMap.mp hu
        have hid := id_of_mem_typeRanges hu'
        rw [of_decide_eq_true hx] at hid
        exact hnew (honly t t' ht hid ▸ ht')
      exact ⟨t, by rw [hall, hothers, List.append_nil]⟩
    · have hnone : (typeRanges cfg nights t).filter (fun u => u.room_type_id = x) = [] := by
        refine List.filter_eq_nil_iff.mpr fun u hu hx => ht ?_
        rw [id_of_mem_typeRanges hu, of_decide_eq_true hx]
      rw [hnone]
      exact ih hnodup'

end Ranges

/-- The ranges night by night are the nights whose type is mapped. Those of one room type are apart,
and so are those of one id on Channex that only one room type is mapped to. -/
theorem availability_ranges (cfg : ChannexConnectionConfig) (nights : List NightlyAvailability)
    (hdistinct : (nights.map fun n => (n.roomTypeId, n.date)).Nodup) :
    ((toAvailabilityRanges cfg nights).updates.flatMap rangeNights).Perm
        (nights.filterMap fun n =>
          (mapped cfg n.roomTypeId).map fun x => (x, n.date, n.available)) ∧
      (toAvailabilityRanges cfg nights).updates =
        (nights.map (·.roomTypeId)).eraseDups.flatMap (typeRanges cfg nights) ∧
      (∀ roomTypeId, (typeRanges cfg nights roomTypeId).Pairwise Separate) ∧
      ∀ x, (∀ t t', mapped cfg t = some x → mapped cfg t' = some x → t = t') →
        ((toAvailabilityRanges cfg nights).updates.filter fun u =>
          u.room_type_id = x).Pairwise Separate := by
  have hnodup : (nights.map (·.roomTypeId)).eraseDups.Nodup := nodup_eraseDups _ _ (Nat.le_refl _)
  refine ⟨?_, rfl, fun roomTypeId => typeRanges_separate hdistinct, fun x honly => ?_⟩
  · have hgroups := flatMap_filter_perm (·.roomTypeId) (nights.map (·.roomTypeId)).eraseDups nights
      hnodup fun n hn => List.mem_eraseDups.mpr (List.mem_map_of_mem hn)
    refine List.Perm.trans ?_ (hgroups.filterMap _)
    rw [toAvailabilityRanges, List.flatMap_assoc, List.filterMap_flatMap]
    refine List.Perm.flatMap_left _ fun t _ => ?_
    rw [typeRanges_nights]
    exact (List.perm_insertionSort _ _).filterMap _
  · rcases filter_updates_eq hnodup honly with hnone | ⟨t, heq⟩
    · rw [toAvailabilityRanges, hnone]
      exact List.Pairwise.nil
    · rw [toAvailabilityRanges, heq]
      exact typeRanges_separate hdistinct

/-- Two nights with one room, a gap, and a type that is not mapped. -/
def fourNights : List NightlyAvailability :=
  [⟨7, 103, 1⟩, ⟨8, 101, 4⟩, ⟨7, 101, 1⟩, ⟨7, 100, 1⟩]

theorem availability_ranges_fourNights :
    ((toAvailabilityRanges ⟨"P", [(7, "X")]⟩ fourNights).updates.flatMap rangeNights).Perm
      [("X", 103, 1), ("X", 101, 1), ("X", 100, 1)] :=
  (availability_ranges ⟨"P", [(7, "X")]⟩ fourNights (by decide)).1

end Travelo
