import Travelo.Billing
import Mathlib.Data.List.Basic

/-!
# When the lifecycle worker ran

A run moves a row by `nextStatus`, which looks at its status, the end of its period, whether
it was ever paid and the time. `statusAfter_eq` says what a whole schedule of runs comes to:
of the runs before the last, it only matters whether one fell in the grace window.

So a schedule comes to the same as hourly runs exactly when it does not miss the window of a
row that earns one: `hourly_iff`.
-/

namespace Travelo

open ReadCommitted

namespace SubscriptionLifecycleWorker

/-- The runs at `times`, one after another. -/
def runs (times : List ℤ) (db : BillingDb) : BillingDb :=
  times.foldl (fun db now => ((run now).run db).db) db

/-- The status of a subscription. -/
def statusOf (db : BillingDb) (id : Uuid) : Option SubscriptionStatus :=
  (db.subscriptions.find? id).map (·.status)

variable (paid : Bool) (periodEnd now : ℤ) (status : SubscriptionStatus)

/-- What a run makes of a row. -/
def nextStatus :
    SubscriptionStatus :=
  let s₁ := if status = .TRIAL ∧ periodEnd ≤ now then .EXPIRED else status
  let s₂ := if s₁ = .ACTIVE ∧ periodEnd ≤ now + 7 * day ∧ now < periodEnd then .EXPIRING else s₁
  let s₃ := if (s₂ = .ACTIVE ∨ s₂ = .EXPIRING) ∧ periodEnd ≤ now then .EXPIRED else s₂
  let s₄ := if s₃ = .EXPIRED ∧ now - 7 * day < periodEnd ∧ paid then .GRACE_PERIOD else s₃
  if s₄ = .GRACE_PERIOD ∧ periodEnd ≤ now - 14 * day then .SUSPENDED else s₄

/-- And of all runs of a schedule. -/
def statusAfter (times : List ℤ) (status : SubscriptionStatus) :
    SubscriptionStatus :=
  times.foldl (fun status now => nextStatus paid periodEnd now status) status

theorem statusAfter_cons (times : List ℤ) (status : SubscriptionStatus) :
    statusAfter paid periodEnd (now :: times) status =
      statusAfter paid periodEnd times (nextStatus paid periodEnd now status) :=
  List.foldl_cons ..

/-- A run at `now` would start the grace period of such a row: it is over, and by less than
seven days; one that is EXPIRED already may have some of its period left. -/
def InGraceWindow (now : ℤ) : Prop :=
  now < periodEnd + 7 * day ∧ (status ≠ .EXPIRED → periodEnd ≤ now)

instance (now : ℤ) :
    Decidable (InGraceWindow periodEnd status now) :=
  inferInstanceAs (Decidable (_ ∧ _))

/-- Its grace period is still to come, if a run falls in the window. -/
def EarnsGrace : Prop :=
  paid = true ∧ (status = .TRIAL ∨ status = .ACTIVE ∨ status = .EXPIRING ∨ status = .EXPIRED)

instance : Decidable (EarnsGrace paid status) :=
  inferInstanceAs (Decidable (_ ∧ _))

/-! ## One run -/

variable (p : BillingDb → Subscription → Bool)

theorem eval_updateStatus (status : SubscriptionStatus) (db : BillingDb) :
    (updateStatus p status).eval .idle db = (.ok (), .idle, setStatus p status db) := rfl

theorem everPaid_setStatus (status : SubscriptionStatus) (db : BillingDb) (id : Uuid) :
    everPaid (setStatus p status db) id = everPaid db id := rfl

theorem find?_setStatus (new : SubscriptionStatus) {old : SubscriptionStatus} {db : BillingDb}
    {id : Uuid} {s : Subscription} (h : db.subscriptions.find? id = some { s with status := old }) :
    (setStatus p new db).subscriptions.find? id =
      some { s with status := if p db { s with status := old } then new else old } := by
  simp only [setStatus, find?_update, h, Option.map_some]
  split <;> rfl

/-- A run moves the status of a row by `nextStatus` and leaves the payments alone. -/
theorem run_spec {now : ℤ} {db : BillingDb} {id : Uuid} {s : Subscription}
    (h : db.subscriptions.find? id = some s) :
    ((run now).run db).db.subscriptions.find? id =
        some { s with status := nextStatus (everPaid db id) s.currentPeriodEnd now s.status } ∧
      everPaid ((run now).run db).db id = everPaid db id := by
  have hid : s.id = id := key_of_find? h
  subst hid
  rw [Prog.run_db]
  simp only [run, eval_bind, eval_updateStatus, everPaid_setStatus, and_true]
  -- one update after the other
  have h₁ := find?_setStatus (fun _ s => s.status = .TRIAL && s.currentPeriodEnd ≤ now) .EXPIRED h
  have h₂ := find?_setStatus (fun _ s => s.status = .ACTIVE &&
    s.currentPeriodEnd ≤ now + 7 * day && now < s.currentPeriodEnd) .EXPIRING h₁
  have h₃ := find?_setStatus (fun _ s => (s.status = .ACTIVE || s.status = .EXPIRING) &&
    s.currentPeriodEnd ≤ now) .EXPIRED h₂
  have h₄ := find?_setStatus (fun db s => s.status = .EXPIRED &&
    now - 7 * day < s.currentPeriodEnd && everPaid db s.id) .GRACE_PERIOD h₃
  have h₅ := find?_setStatus (fun _ s => s.status = .GRACE_PERIOD &&
    s.currentPeriodEnd ≤ now - 14 * day) .SUSPENDED h₄
  rw [h₅]
  simp only [nextStatus, everPaid_setStatus, and_decide_eq, Bool.or_eq_true, and_assoc]

/-! ## A schedule of runs -/

theorem runs_spec {times : List ℤ} {db : BillingDb} {id : Uuid} {s : Subscription}
    (h : db.subscriptions.find? id = some s) :
    statusOf (runs times db) id =
      some (statusAfter (everPaid db id) s.currentPeriodEnd times s.status) := by
  induction times generalizing db s with
  | nil => simp [runs, statusOf, statusAfter, h]
  | cons now times ih =>
    rcases @run_spec now db id s h with ⟨hrow, hpaid⟩
    have hrest := ih hrow
    rw [hpaid] at hrest
    exact hrest

/-- The schedule starts the grace period of the row. -/
def GivesGrace (times : List ℤ) (status : SubscriptionStatus) :
    Prop :=
  EarnsGrace paid status ∧ ∃ now ∈ times, InGraceWindow periodEnd status now

instance (times : List ℤ) (status : SubscriptionStatus) :
    Decidable (GivesGrace paid periodEnd times status) :=
  inferInstanceAs (Decidable (_ ∧ _))

/-- The status after a schedule whose last run is at `t`. -/
def settled (grace : Bool) (periodEnd t : ℤ) (status : SubscriptionStatus) : SubscriptionStatus :=
  if status = .SUSPENDED ∨ status = .CANCELLED then status
  else if status = .GRACE_PERIOD ∨ grace then
    if periodEnd + 14 * day ≤ t then .SUSPENDED else .GRACE_PERIOD
  else if status = .EXPIRED ∨ periodEnd ≤ t then .EXPIRED
  else if status = .ACTIVE ∧ periodEnd ≤ t + 7 * day then .EXPIRING
  else status

theorem nextStatus_eq :
    nextStatus paid periodEnd now status =
      settled (GivesGrace paid periodEnd [now] status) periodEnd now status := by
  have hday : 0 < day := by decide
  cases status <;> cases paid <;>
    simp [nextStatus, settled, GivesGrace, EarnsGrace, InGraceWindow] <;> grind

theorem settled_cons {paid : Bool} {periodEnd now t : ℤ} {times : List ℤ}
    (hlater : ∀ x ∈ times, now < x) (ht : t ∈ times) (status : SubscriptionStatus) :
    settled (GivesGrace paid periodEnd times (nextStatus paid periodEnd now status)) periodEnd t
        (nextStatus paid periodEnd now status) =
      settled (GivesGrace paid periodEnd (now :: times) status) periodEnd t status := by
  have hday : 0 < day := by decide
  have hnow : now < t := hlater t ht
  -- of the later runs it only matters whether one is early enough, and one in the window
  have hearly : (∃ x ∈ times, x < periodEnd + 7 * day) → now < periodEnd + 7 * day := by
    rintro ⟨x, hx, hlt⟩
    have := hlater x hx
    omega
  have hboth : (∃ x ∈ times, x < periodEnd + 7 * day ∧ periodEnd ≤ x) →
      ∃ x ∈ times, x < periodEnd + 7 * day := by
    rintro ⟨x, hx, hlt, _⟩
    exact ⟨x, hx, hlt⟩
  have hover : periodEnd ≤ now → (∃ x ∈ times, x < periodEnd + 7 * day) →
      ∃ x ∈ times, x < periodEnd + 7 * day ∧ periodEnd ≤ x := by
    rintro hle ⟨x, hx, hlt⟩
    have := hlater x hx
    exact ⟨x, hx, hlt, by omega⟩
  cases status <;> cases paid <;>
    simp only [nextStatus, settled, GivesGrace, EarnsGrace, InGraceWindow, List.mem_cons,
      exists_eq_or_imp, reduceCtorEq, and_true, false_or, or_false, false_and, true_and, if_false,
      if_true, or_true, true_or, and_false, decide_eq_true_eq] <;>
    grind

theorem statusAfter_eq {paid : Bool} {periodEnd t : ℤ} {times : List ℤ}
    (hinc : times.Pairwise (· < ·)) (hlast : times.getLast? = some t)
    (status : SubscriptionStatus) :
    statusAfter paid periodEnd times status =
      settled (GivesGrace paid periodEnd times status) periodEnd t status := by
  induction times generalizing status with
  | nil => simp at hlast
  | cons now times ih =>
    rw [List.pairwise_cons] at hinc
    rcases hinc with ⟨hlater, hinc⟩
    cases times with
    | nil =>
      have hnow : now = t := by simpa using hlast
      subst hnow
      exact nextStatus_eq paid periodEnd now status
    | cons x rest =>
      have hlast' : (x :: rest).getLast? = some t := by simpa using hlast
      have ht : t ∈ x :: rest := List.mem_of_getLast? hlast'
      rw [statusAfter_cons, ih hinc hlast', settled_cons hlater ht]

/-- Two schedules with the same last run come to the same exactly when they give a row a grace
period alike. -/
theorem settled_eq_iff {paid : Bool} {periodEnd t : ℤ} {times times' : List ℤ}
    (hle : ∀ x ∈ times, x ≤ t) (hle' : ∀ x ∈ times', x ≤ t) (status : SubscriptionStatus) :
    settled (GivesGrace paid periodEnd times status) periodEnd t status =
        settled (GivesGrace paid periodEnd times' status) periodEnd t status ↔
      (GivesGrace paid periodEnd times status ↔ GivesGrace paid periodEnd times' status) := by
  -- a row that is given one does not keep its status without it: its period is over
  have hover : ∀ {times : List ℤ}, (∀ x ∈ times, x ≤ t) → GivesGrace paid periodEnd times status →
      (status = .EXPIRED ∨ periodEnd ≤ t) ∧
        status ≠ .SUSPENDED ∧ status ≠ .CANCELLED ∧ status ≠ .GRACE_PERIOD := by
    rintro times hle ⟨⟨_, hstatus⟩, x, hx, hw⟩
    have hxt := hle x hx
    have hend : status = .EXPIRED ∨ periodEnd ≤ t := by
      by_cases he : status = .EXPIRED
      · exact Or.inl he
      · have := hw.2 he
        exact Or.inr (by omega)
    refine ⟨hend, ?_⟩
    rcases hstatus with rfl | rfl | rfl | rfl <;> simp
  have h₁ := hover hle
  have h₂ := hover hle'
  by_cases hg : GivesGrace paid periodEnd times status <;>
    by_cases hg' : GivesGrace paid periodEnd times' status
  · simp [hg, hg']
  · rcases h₁ hg with ⟨hend, hne⟩
    simp [settled, hg, hg', hne, hend]
    split <;> simp
  · rcases h₂ hg' with ⟨hend, hne⟩
    simp [settled, hg, hg', hne, hend]
    split <;> simp
  · simp [hg, hg']

/-! ## Hourly runs -/

/-- An hour, in milliseconds. -/
def hour : ℤ := 3600000

variable (n : ℕ)

/-- A run at every hour, the last at `t`, the first `n` hours before. -/
def hourly (t : ℤ) : List ℤ :=
  (List.range (n + 1)).map fun k : ℕ => t - ((n : ℤ) - k) * hour

theorem mem_hourly {n : ℕ} {t x : ℤ} : x ∈ hourly n t ↔ ∃ k : ℕ, k ≤ n ∧ x = t - k * hour := by
  simp only [hourly, hour, List.mem_map, List.mem_range]
  constructor
  · rintro ⟨k, hk, rfl⟩
    exact ⟨n - k, by omega, by omega⟩
  · rintro ⟨k, hk, rfl⟩
    exact ⟨n - k, by omega, by omega⟩

theorem hourly_increasing (t : ℤ) : (hourly n t).Pairwise (· < ·) := by
  rw [hourly, List.pairwise_map]
  refine List.Pairwise.imp ?_ List.pairwise_lt_range
  intro a b hab
  unfold hour
  omega

theorem hourly_last (t : ℤ) : (hourly n t).getLast? = some t := by
  simp [hourly, List.range_succ]

theorem hourly_window {n : ℕ} {t periodEnd : ℤ} (hback : t - n * hour ≤ periodEnd)
    (status : SubscriptionStatus) :
    (∃ now ∈ hourly n t, InGraceWindow periodEnd status now) ↔
      status = .EXPIRED ∨ periodEnd ≤ t := by
  simp only [mem_hourly, InGraceWindow, hour, day] at hback ⊢
  constructor
  · rintro ⟨x, ⟨k, _, rfl⟩, hw⟩
    by_cases he : status = .EXPIRED
    · exact Or.inl he
    · have hend := hw.2 he
      exact Or.inr (by omega)
  · intro h
    by_cases hle : periodEnd ≤ t
    · -- the first run from the end of the period on
      let k : ℕ := ((t - periodEnd) / 3600000).toNat
      refine ⟨t - k * 3600000, ⟨k, by omega, rfl⟩, by omega, ?_⟩
      intro _
      omega
    · refine ⟨t - n * 3600000, ⟨n, Nat.le_refl n, rfl⟩, by omega, ?_⟩
      rcases h with he | he
      · exact fun hne => absurd he hne
      · exact absurd he hle

theorem le_of_last {times : List ℤ} {t : ℤ} (hinc : times.Pairwise (· < ·))
    (hlast : times.getLast? = some t) : ∀ x ∈ times, x ≤ t := by
  intro x hx
  rcases List.getLast?_eq_some_iff.mp hlast with ⟨front, rfl⟩
  rw [List.pairwise_append] at hinc
  rw [List.mem_append, List.mem_singleton] at hx
  rcases hx with hx | rfl
  · exact Int.le_of_lt (hinc.2.2 x hx t (List.mem_singleton.mpr rfl))
  · exact Int.le_refl x

/-- A schedule brings a row to the status hourly runs bring it to exactly when it gives it a
grace period alike; hourly runs that reach back to the end of the period miss none. -/
theorem hourly_iff {times : List ℤ} {t : ℤ} {db : BillingDb} {id : Uuid} {s : Subscription}
    (hrow : db.subscriptions.find? id = some s) (hinc : times.Pairwise (· < ·))
    (hlast : times.getLast? = some t) (n : ℕ) :
    (statusOf (runs times db) id = statusOf (runs (hourly n t) db) id ↔
      (EarnsGrace (everPaid db id) s.status →
        ((∃ now ∈ times, InGraceWindow s.currentPeriodEnd s.status now) ↔
          ∃ now ∈ hourly n t, InGraceWindow s.currentPeriodEnd s.status now))) ∧
    (t - n * hour ≤ s.currentPeriodEnd →
      ((∃ now ∈ hourly n t, InGraceWindow s.currentPeriodEnd s.status now) ↔
        s.status = .EXPIRED ∨ s.currentPeriodEnd ≤ t)) := by
  refine ⟨?_, fun hback => hourly_window hback s.status⟩
  rw [runs_spec hrow, runs_spec hrow, Option.some_inj, statusAfter_eq hinc hlast,
    statusAfter_eq (hourly_increasing n t) (hourly_last n t),
    settled_eq_iff (le_of_last hinc hlast) (le_of_last (hourly_increasing n t) (hourly_last n t))]
  unfold GivesGrace
  constructor
  · intro h hearns
    constructor
    · exact fun hw => (h.mp ⟨hearns, hw⟩).2
    · exact fun hw => (h.mpr ⟨hearns, hw⟩).2
  · intro h
    constructor
    · exact fun hg => ⟨hg.1, (h hg.1).mp hg.2⟩
    · exact fun hg => ⟨hg.1, (h hg.1).mpr hg.2⟩

/-- A subscription whose period is over at the end of day 100, and its payment. -/
def lapsing : Subscription where
  id := 1
  ownerId := 7
  planId := 3
  status := .ACTIVE
  currentPeriodEnd := 100 * day

def lapsingDb : BillingDb where
  subscriptions := Table.insert ∅ lapsing
  payments :=
    let payment : SubscriptionPayment :=
      { id := 2
        ownerId := 7
        subscriptionId := some 1
        gateway := .MANUAL
        amount := 100000
        status := .SUCCESS
        updatedAt := 0 }
    Table.insert ∅ payment

/-- An outage over the week after the end of the period costs the owner the grace period. -/
theorem outage_skips_grace :
    statusOf (runs [99 * day, 108 * day] lapsingDb) 1 = some .EXPIRED ∧
      statusOf (runs (hourly 216 (108 * day)) lapsingDb) 1 = some .GRACE_PERIOD := by
  have hrow : lapsingDb.subscriptions.find? 1 = some lapsing := rfl
  constructor
  · decide +kernel
  · rw [runs_spec hrow, statusAfter_eq (hourly_increasing 216 _) (hourly_last 216 _)]
    decide +kernel

/-- A shorter one does not. -/
theorem short_outage_keeps_grace :
    statusOf (runs [99 * day, 106 * day, 108 * day] lapsingDb) 1 =
      statusOf (runs (hourly 216 (108 * day)) lapsingDb) 1 := by
  refine (@hourly_iff [99 * day, 106 * day, 108 * day] (108 * day) lapsingDb 1 lapsing rfl
    (by decide) rfl 216).1.mpr ?_
  decide +kernel

end SubscriptionLifecycleWorker

end Travelo
