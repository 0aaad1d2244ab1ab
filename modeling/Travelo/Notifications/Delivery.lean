import Mathlib.Tactic.Positivity
import Travelo.Notifications

/-!
# The queue keeps moving

A worker drains the queue again and again. Each run takes the deliveries that are due, and what
becomes of one is worked out from its row alone (`marked`, `sendsOf`).

The send of an unavailable channel stands outside the guard of the others. If it throws, the run
ends there: the delivery is not marked, and the rest of the run is not served, this time and each
time after (`queue_stopped`).

`queue_bounded_and_fair`: while no unavailable channel throws, no delivery is sent more often than
allowed, what is finished stays as it is, attempts of one delivery are a backoff apart, and each
run serves all the deliveries it took.
-/

namespace Travelo

open ReadCommitted

namespace NotificationDeliveryService

/-! ## Runs -/

/-- A run of the worker, or deliveries put in the queue between two runs. -/
inductive QueueEvent where
  | drain (channels : ChannelRegistry) (limit : ℕ) (now : ℤ)
  | enqueue (row : NotificationDelivery)

abbrev Deliveries := Table NotificationDelivery.id

/-- What a run of the worker throws, what it leaves and what it sends. -/
def drained (channels : ChannelRegistry) (limit : ℕ) (now : ℤ) (t : Deliveries) :
    Except SendError DrainStats × Outbox :=
  (drain channels limit now).run.run { deliveries := t }

/-- The deliveries after the event; the worker catches what a run throws. -/
def QueueEvent.after (e : QueueEvent) (t : Deliveries) : Deliveries :=
  match e with
  | .drain channels limit now => (drained channels limit now t).2.deliveries
  | .enqueue row => t.insert row

def QueueEvent.sends (e : QueueEvent) (t : Deliveries) : List SendAttempt :=
  match e with
  | .drain channels limit now => (drained channels limit now t).2.sends
  | .enqueue _ => []

def after (events : List QueueEvent) (t : Deliveries) : Deliveries :=
  events.foldl (fun t e => e.after t) t

/-- The sends of the events, in order. -/
def sends : List QueueEvent → Deliveries → List SendAttempt
  | [], _ => []
  | e :: events, t => e.sends t ++ sends events (e.after t)

/-! ## The claim's property, and the condition -/

/-- Every delivery that the run takes is served: it has one attempt more. -/
def QueueEvent.Serves (e : QueueEvent) (t : Deliveries) : Prop :=
  match e with
  | .drain _ limit now => ∀ row ∈ due limit now t, ∃ row' ∈ e.after t,
      row'.id = row.id ∧ row'.attempts = row.attempts + 1
  | .enqueue _ => True

/-- Bounded and fair, from the queue `t` on. -/
structure BoundedAndFair (events : List QueueEvent) (t : Deliveries) : Prop where
  /-- No delivery is attempted more than the maximum number of times. -/
  bounded : ∀ row ∈ t, row.attempts + (sends events t).countP (fun a => a.id = row.id) ≤
    max MAX_ATTEMPTS (row.attempts + 1)
  /-- A delivery that is finished never changes again. -/
  final : ∀ row ∈ t, row.status ≠ .PENDING → row ∈ after events t
  /-- The next attempt comes a backoff later at least. -/
  spaced : (sends events t).Pairwise fun a b => a.id = b.id → a.time + backoffMs a.number ≤ b.time
  /-- An error on one delivery leaves the others of the run served. -/
  served : ∀ e rest, events = e :: rest → e.Serves t

/-- No unavailable channel throws on a delivery that the run takes. -/
def QueueEvent.Guarded (e : QueueEvent) (t : Deliveries) : Prop :=
  match e with
  | .drain channels limit now => ∀ row ∈ due limit now t, ∀ c ∈ channels row.channel,
      c.unavailable = true → c.send row.id = .ok ()
  | .enqueue _ => True

/-- None does in any run. -/
def AllGuarded : List QueueEvent → Deliveries → Prop
  | [], _ => True
  | e :: events, t => e.Guarded t ∧ AllGuarded events (e.after t)

/-! ## One delivery -/

/-- What a delivery is marked with. -/
def marked (channels : ChannelRegistry) (now : ℤ) (row : NotificationDelivery) : MarkValues :=
  match channels row.channel with
  | none =>
    { status := .SKIPPED
      attempts := row.attempts + 1
      lastError := some s!"No implementation registered for channel {row.channel.name}" }
  | some channel =>
    if channel.unavailable then
      { status := .SKIPPED
        attempts := row.attempts + 1
        lastError := some s!"{row.channel.name} delivery is not implemented" }
    else
      match channel.send row.id with
      | .ok _ =>
        { status := .SENT
          attempts := row.attempts + 1
          sentAt := some now
          lastError := some none }
      | .error err =>
        if err.permanent then
          { status := .SKIPPED
            attempts := row.attempts + 1
            lastError := some (sliceMessage err.message) }
        else if MAX_ATTEMPTS ≤ row.attempts + 1 then
          { status := .FAILED
            attempts := row.attempts + 1
            lastError := some (sliceMessage err.message) }
        else
          { status := .PENDING
            attempts := row.attempts + 1
            lastError := some (sliceMessage err.message)
            scheduledFor := some (now + backoffMs (row.attempts + 1)) }

section Steps

variable {α β : Type} {q : Outbox}

theorem run_bind (p : DrainM β) (f : β → DrainM α) : (p >>= f).run.run q =
    match p.run.run q with
    | (.ok b, q') => (f b).run.run q'
    | (.error e, q') => (.error e, q') := by
  rw [ExceptT.run_bind, StateT.run_bind]
  rcases p.run.run q with ⟨_ | b, q'⟩ <;> rfl

theorem run_tryCatch (p : DrainM α) (h : SendError → DrainM α) : (tryCatch p h).run.run q =
    match p.run.run q with
    | (.ok a, q') => (.ok a, q')
    | (.error e, q') => (h e).run.run q' := by
  rw [ExceptT.run_tryCatch, StateT.run_bind]
  rcases p.run.run q with ⟨_ | a, q'⟩ <;> rfl

theorem run_mark (id : Id) (v : MarkValues) : (mark id v).run.run q =
    (.ok (), { q with deliveries := q.deliveries.update (fun d => d.id = id) v.apply }) := rfl

theorem run_sendOver (channel : NotificationChannel) (now : ℤ) (row : NotificationDelivery)
    (rendered : RenderedMessage) : (sendOver channel now row rendered).run.run q =
      (channel.send row.id, { q with
        sends := q.sends ++ [⟨row.id, row.attempts + 1, now, row.recipient, rendered⟩] }) := by
  unfold sendOver
  cases channel.send row.id with
  | ok _ => rfl
  | error e => rfl

end Steps

section One

variable {channels : ChannelRegistry} {now : ℤ} {row : NotificationDelivery}

/-- The send of a delivery with a message. -/
def sendOf (now : ℤ) (row : NotificationDelivery) (rendered : RenderedMessage) : SendAttempt :=
  ⟨row.id, row.attempts + 1, now, row.recipient, rendered⟩

/-- What an unavailable channel is handed. -/
def bareMessage (row : NotificationDelivery) : RenderedMessage :=
  { subject := row.subject, body := row.body }

def fullMessage (row : NotificationDelivery) : RenderedMessage :=
  { subject := row.subject
    body := row.body
    relatedType := row.relatedType
    relatedId := row.relatedId
    notificationKey := some row.notificationKey }

/-- A delivery whose channel is not unavailable, or does not throw, is marked; it is sent at most
once. -/
theorem deliver_marks (hguard : ∀ c ∈ channels row.channel, c.unavailable = true →
      c.send row.id = .ok ()) (q : Outbox) :
    ∃ disposal attempts, (deliver channels now row).run.run q =
        (.ok disposal,
          { deliveries :=
              q.deliveries.update (fun d => d.id = row.id) (marked channels now row).apply
            sends := q.sends ++ attempts }) ∧
      attempts.length ≤ 1 ∧ ∀ a ∈ attempts, a.id = row.id ∧ a.number = row.attempts + 1 ∧
        a.time = now := by
  unfold deliver
  cases hc : channels row.channel with
  | none =>
    refine ⟨.skipped, [], ?_, by simp, by simp⟩
    simp only [marked, hc, run_bind, run_mark, List.append_nil]
    rfl
  | some channel =>
    by_cases hunavailable : channel.unavailable = true
    · -- the guard says that this send does not throw
      have hsend := hguard channel hc hunavailable
      refine ⟨.skipped, [sendOf now row (bareMessage row)], ?_, rfl.le, by simp [sendOf]⟩
      simp only [marked, hc, hunavailable, if_true, run_bind, run_sendOver, hsend, run_mark]
      rfl
    · cases hsend : channel.send row.id with
      | ok _ =>
        refine ⟨.sent, [sendOf now row (fullMessage row)], ?_, rfl.le, by simp [sendOf]⟩
        simp only [marked, hc, hunavailable, Bool.false_eq_true, if_false, run_tryCatch, run_bind,
          run_sendOver, hsend, run_mark]
        rfl
      | error err =>
        -- the throw is caught, and costs this delivery an attempt
        by_cases hpermanent : err.permanent = true
        · refine ⟨.skipped, [sendOf now row (fullMessage row)], ?_, rfl.le, by simp [sendOf]⟩
          simp only [marked, hc, hunavailable, hpermanent, Bool.false_eq_true, if_false, if_true,
            run_tryCatch, run_bind, run_sendOver, hsend, run_mark]
          rfl
        · by_cases hlast : MAX_ATTEMPTS ≤ row.attempts + 1
          · refine ⟨.failed, [sendOf now row (fullMessage row)], ?_, rfl.le, by simp [sendOf]⟩
            simp only [marked, hc, hunavailable, hpermanent, hlast, Bool.false_eq_true, if_false,
              if_true, run_tryCatch, run_bind, run_sendOver, hsend, run_mark]
            rfl
          · refine ⟨.retried, [sendOf now row (fullMessage row)], ?_, rfl.le, by simp [sendOf]⟩
            simp only [marked, hc, hunavailable, hpermanent, hlast, Bool.false_eq_true, if_false,
              run_tryCatch, run_bind, run_sendOver, hsend, run_mark]
            rfl

theorem marked_attempts : (marked channels now row).attempts = row.attempts + 1 := by
  unfold marked
  split
  · rfl
  · split
    · rfl
    · split
      · rfl
      · split_ifs <;> rfl

theorem marked_pending (h : (marked channels now row).status = .PENDING) :
    row.attempts + 1 < MAX_ATTEMPTS ∧
      (marked channels now row).scheduledFor = some (now + backoffMs (row.attempts + 1)) := by
  unfold marked at *
  cases hc : channels row.channel with
  | none => simp [hc] at h
  | some channel =>
    by_cases hunavailable : channel.unavailable = true
    · simp [hc, hunavailable] at h
    · cases hsend : channel.send row.id with
      | ok _ => simp [hc, hunavailable, hsend] at h
      | error err =>
        by_cases hpermanent : err.permanent = true
        · simp [hc, hunavailable, hsend, hpermanent] at h
        · by_cases hlast : MAX_ATTEMPTS ≤ row.attempts + 1
          · simp [hc, hunavailable, hsend, hpermanent, hlast] at h
          · exact ⟨not_le.mp hlast, by simp [hunavailable, hsend, hpermanent, hlast]⟩

end One

/-! ## One run -/

section Run

variable {channels : ChannelRegistry} {limit : ℕ} {now : ℤ} {t : Deliveries}

/-- The deliveries after the ones of `l` have been marked. -/
def markAll (channels : ChannelRegistry) (now : ℤ) (l : List NotificationDelivery)
    (t : Deliveries) : Deliveries :=
  l.foldl (fun t row => t.update (fun d => d.id = row.id) (marked channels now row).apply) t

variable {row : NotificationDelivery}

theorem markAll_cons {l : List NotificationDelivery} :
    markAll channels now (row :: l) t = markAll channels now l
      (t.update (fun d => d.id = row.id) (marked channels now row).apply) := rfl

theorem mem_markAll_of_ne {d : NotificationDelivery} :
    ∀ {l : List NotificationDelivery} {t : Deliveries}, d ∈ t → (∀ row ∈ l, row.id ≠ d.id) →
      d ∈ markAll channels now l t
  | [], _, hd, _ => hd
  | row :: l, t, hd, hne => by
    have hrow : d.id ≠ row.id := (hne row List.mem_cons_self).symm
    have hkept : d ∈ t.update (fun d => d.id = row.id) (marked channels now row).apply :=
      Table.mem_update.mpr ⟨d, hd, by simp [hrow]⟩
    rw [markAll_cons]
    exact mem_markAll_of_ne hkept fun row' hrow' => hne row' (List.mem_cons_of_mem _ hrow')

theorem mem_markAll :
    ∀ {l : List NotificationDelivery} {t : Deliveries}, (l.map (·.id)).Nodup →
      (∀ d ∈ l, d ∈ t) → row ∈ l → (marked channels now row).apply row ∈ markAll channels now l t
  | first :: l, t, hnodup, hsub, hrow => by
    rw [List.map_cons, List.nodup_cons] at hnodup
    have hne : ∀ d ∈ l, d.id ≠ first.id := by
      intro d hd heq
      exact hnodup.1 (heq ▸ List.mem_map_of_mem hd)
    rcases List.mem_cons.mp hrow with rfl | hin
    · -- the rest of the run is about other deliveries
      rw [markAll_cons]
      refine mem_markAll_of_ne ?_ hne
      exact mem_update_of_mem _ (hsub row List.mem_cons_self) (by simp)
    · rw [markAll_cons]
      refine mem_markAll hnodup.2 (fun d hd => ?_) hin
      exact Table.mem_update.mpr ⟨d, hsub d (List.mem_cons_of_mem _ hd), by simp [hne d hd]⟩

theorem mem_due (h : row ∈ due limit now t) :
    row ∈ t ∧ row.status = .PENDING ∧ row.scheduledFor ≤ now := by
  have hin := (List.mem_insertionSort _).mp (List.mem_of_mem_take h)
  simpa [mem_rows] using hin

theorem due_nodup : ((due limit now t).map (·.id)).Nodup := by
  have hsorted : ((t.rows.filter fun d =>
      d.status = .PENDING && d.scheduledFor ≤ now).map (·.id)).Nodup :=
    t.nodup.sublist (List.filter_sublist.map _)
  have hperm := ((List.perm_insertionSort (fun a b : NotificationDelivery =>
    a.scheduledFor ≤ b.scheduledFor) (t.rows.filter fun d =>
      d.status = .PENDING && d.scheduledFor ≤ now)).map (·.id))
  exact (hperm.nodup_iff.mpr hsorted).sublist ((List.take_sublist _ _).map _)

/-- The sends of a run: each is of a delivery it took, and none has two. -/
structure SendsOf (now : ℤ) (l : List NotificationDelivery) (attempts : List SendAttempt) :
    Prop where
  once : attempts.Pairwise fun a b => a.id ≠ b.id
  of : ∀ a ∈ attempts, ∃ row ∈ l, a.id = row.id ∧ a.number = row.attempts + 1 ∧ a.time = now

theorem deliverAll_marks : ∀ (l : List NotificationDelivery) (stats : DrainStats) (q : Outbox),
    (l.map (·.id)).Nodup →
    (∀ row ∈ l, ∀ c ∈ channels row.channel, c.unavailable = true → c.send row.id = .ok ()) →
    ∃ stats' attempts, (deliverAll channels now l stats).run.run q =
        (.ok stats',
          { deliveries := markAll channels now l q.deliveries, sends := q.sends ++ attempts }) ∧
      SendsOf now l attempts
  | [], stats, q, _, _ => by
    refine ⟨stats, [], ?_, .nil, by simp⟩
    rw [List.append_nil]
    rfl
  | row :: l, stats, q, hnodup, hguard => by
    rw [List.map_cons, List.nodup_cons] at hnodup
    obtain ⟨disposal, made, hrow, hlength, hmade⟩ :=
      @deliver_marks channels now row (hguard row List.mem_cons_self) q
    obtain ⟨stats', attempts, hrest, honce, hof⟩ :=
      deliverAll_marks l ({ stats with processed := stats.processed + 1 }.count disposal)
        { deliveries := q.deliveries.update (fun d => d.id = row.id) (marked channels now row).apply
          sends := q.sends ++ made } hnodup.2 fun d hd => hguard d (List.mem_cons_of_mem _ hd)
    refine ⟨stats', made ++ attempts, ?_, ?_, ?_⟩
    · rw [deliverAll, run_bind, hrow]
      simp only [hrest, List.append_assoc]
      rfl
    · -- the deliveries after this one have other ids
      refine List.pairwise_append.mpr ⟨?_, honce, fun a ha b hb heq => ?_⟩
      · match made, hlength with
        | [], _ => exact .nil
        | [a], _ => exact List.pairwise_singleton _ a
      · obtain ⟨d, hd, hid, -, -⟩ := hof b hb
        exact hnodup.1 (((hmade a ha).1.symm.trans (heq.trans hid)) ▸ List.mem_map_of_mem hd)
    · intro a ha
      rcases List.mem_append.mp ha with ha | ha
      · exact ⟨row, List.mem_cons_self, hmade a ha⟩
      · obtain ⟨d, hd, hfacts⟩ := hof a ha
        exact ⟨d, List.mem_cons_of_mem _ hd, hfacts⟩

/-- What an event does to one delivery: nothing, or the one send that its mark tells of. -/
inductive RowStep (e : QueueEvent) (t : Deliveries) (d : NotificationDelivery) : Prop where
  | idle (hkept : d ∈ e.after t) (hnone : ∀ a ∈ e.sends t, a.id ≠ d.id)
  | worked {channels : ChannelRegistry} {now : ℤ} (hpending : d.status = .PENDING)
      (hdue : d.scheduledFor ≤ now) (hmarked : (marked channels now d).apply d ∈ e.after t)
      (hsent : ∀ a ∈ e.sends t, a.id = d.id → a.number = d.attempts + 1 ∧ a.time = now)

theorem drained_marks
    (hguard : (QueueEvent.drain channels limit now).Guarded t) : ∃ stats attempts,
    drained channels limit now t = (.ok stats,
      { deliveries := markAll channels now (due limit now t) t, sends := attempts }) ∧
    SendsOf now (due limit now t) attempts := by
  obtain ⟨stats, attempts, hrun, hsends⟩ :=
    deliverAll_marks (due limit now t) {} { deliveries := t } due_nodup hguard
  refine ⟨stats, attempts, ?_, hsends⟩
  rw [drained, drain, run_bind]
  exact hrun

variable {e : QueueEvent}

theorem QueueEvent.sends_once (hguard : e.Guarded t) :
    (e.sends t).Pairwise fun a b => a.id ≠ b.id := by
  cases e with
  | drain channels limit now =>
    obtain ⟨stats, attempts, hrun, hsends⟩ := drained_marks hguard
    rw [QueueEvent.sends, hrun]
    exact hsends.once
  | enqueue row => exact .nil

theorem QueueEvent.sends_known (hguard : e.Guarded t) {a : SendAttempt} (ha : a ∈ e.sends t) :
    ∃ d ∈ t, a.id = d.id := by
  cases e with
  | drain channels limit now =>
    obtain ⟨stats, attempts, hrun, hsends⟩ := drained_marks hguard
    rw [QueueEvent.sends, hrun] at ha
    obtain ⟨d, hd, hid, -, -⟩ := hsends.of a ha
    exact ⟨d, (mem_due hd).1, hid⟩
  | enqueue row => cases ha

theorem QueueEvent.row_step (hguard : e.Guarded t) {d : NotificationDelivery} (hd : d ∈ t) :
    RowStep e t d := by
  cases e with
  | enqueue row => exact .idle (mem_insert_of_mem hd) fun a ha => by cases ha
  | drain channels limit now =>
    obtain ⟨stats, attempts, hrun, hsends⟩ := drained_marks hguard
    have hafter : (QueueEvent.drain channels limit now).after t =
        markAll channels now (due limit now t) t := by rw [QueueEvent.after, hrun]
    have hmade : (QueueEvent.drain channels limit now).sends t = attempts := by
      rw [QueueEvent.sends, hrun]
    by_cases htaken : d ∈ due limit now t
    · obtain ⟨-, hpending, hdue⟩ := mem_due htaken
      have hmarked : (marked channels now d).apply d ∈
          (QueueEvent.drain channels limit now).after t := by
        rw [hafter]
        exact mem_markAll due_nodup (fun row hrow => (mem_due hrow).1) htaken
      refine .worked hpending hdue hmarked fun a ha hid => ?_
      rw [hmade] at ha
      obtain ⟨row, hrow, hrid, hnumber, htime⟩ := hsends.of a ha
      obtain rfl : row = d := eq_of_key_eq (mem_due hrow).1 hd (hrid.symm.trans hid)
      exact ⟨hnumber, htime⟩
    · have hother : ∀ row ∈ due limit now t, row.id ≠ d.id := by
        intro row hrow heq
        exact htaken (eq_of_key_eq (mem_due hrow).1 hd heq ▸ hrow)
      refine .idle ?_ fun a ha => ?_
      · rw [hafter]
        exact mem_markAll_of_ne hd hother
      · rw [hmade] at ha
        obtain ⟨row, hrow, hrid, -, -⟩ := hsends.of a ha
        exact fun heq => hother row hrow (hrid.symm.trans heq)

theorem QueueEvent.serves (hguard : e.Guarded t) : e.Serves t := by
  cases e with
  | enqueue row => trivial
  | drain channels limit now =>
    intro row hrow
    obtain ⟨stats, attempts, hrun, -⟩ := drained_marks hguard
    refine ⟨(marked channels now row).apply row, ?_, rfl, marked_attempts⟩
    rw [QueueEvent.after, hrun]
    exact mem_markAll due_nodup (fun d hd => (mem_due hd).1) hrow

end Run

/-! ## All runs -/

theorem backoffMs_nonneg (attempts : ℕ) : 0 ≤ backoffMs attempts := by
  have hpow : (0 : ℤ) ≤ 2 ^ (attempts - 1) := by positivity
  unfold backoffMs
  omega

/-- The sends that are left to a delivery. -/
def allowance (d : NotificationDelivery) : ℕ :=
  if d.status = .PENDING then max 1 (MAX_ATTEMPTS - d.attempts) else 0

theorem countP_le_one {id : Id} {l : List SendAttempt} (h : l.Pairwise fun a b => a.id ≠ b.id) :
    l.countP (fun a => a.id = id) ≤ 1 := by
  induction l with
  | nil => simp
  | cons a l ih =>
    obtain ⟨hfirst, hrest⟩ := List.pairwise_cons.mp h
    by_cases hid : a.id = id
    · have hnone : l.countP (fun b => b.id = id) = 0 :=
        List.countP_eq_zero.mpr fun b hb heq => hfirst b hb (hid.trans (of_decide_eq_true heq).symm)
      simp [hid, hnone]
    · simpa [List.countP_cons, hid] using ih hrest

theorem allowance_marked {channels : ChannelRegistry} {now : ℤ} {d : NotificationDelivery}
    (hpending : d.status = .PENDING) :
    allowance ((marked channels now d).apply d) + 1 ≤ allowance d := by
  have hattempts : ((marked channels now d).apply d).attempts = d.attempts + 1 := marked_attempts
  unfold allowance
  rw [if_pos hpending, hattempts]
  split_ifs with hstill
  · have hleft := (marked_pending hstill).1
    omega
  · omega

theorem sends_le_allowance : ∀ (events : List QueueEvent) (t : Deliveries), AllGuarded events t →
    ∀ d ∈ t, (sends events t).countP (fun a => a.id = d.id) ≤ allowance d
  | [], _, _, d, _ => by simp [sends]
  | e :: events, t, ⟨hguard, hrest⟩, d, hd => by
    rw [sends, List.countP_append]
    cases e.row_step hguard hd with
    | idle hkept hnone =>
      have hfirst : (e.sends t).countP (fun a => a.id = d.id) = 0 :=
        List.countP_eq_zero.mpr fun a ha heq => hnone a ha (by simpa using heq)
      have hlater := sends_le_allowance events (e.after t) hrest d hkept
      omega
    | @worked channels now hpending hdue hmarked hsent =>
      have hfirst : (e.sends t).countP (fun a => a.id = d.id) ≤ 1 :=
        countP_le_one (e.sends_once hguard)
      have hlater := sends_le_allowance events (e.after t) hrest _ hmarked
      have hleft := @allowance_marked channels now d hpending
      have hid : ((marked channels now d).apply d).id = d.id := rfl
      rw [hid] at hlater
      omega

theorem finished_stays : ∀ (events : List QueueEvent) (t : Deliveries), AllGuarded events t →
    ∀ d ∈ t, d.status ≠ .PENDING → d ∈ after events t
  | [], _, _, _, hd, _ => hd
  | e :: events, t, ⟨hguard, hrest⟩, d, hd, hfinished => by
    cases e.row_step hguard hd with
    | idle hkept _ => exact finished_stays events (e.after t) hrest d hkept hfinished
    | worked hpending _ _ _ => exact absurd hpending hfinished

theorem sent_later : ∀ (events : List QueueEvent) (t : Deliveries), AllGuarded events t →
    ∀ d ∈ t, ∀ b ∈ sends events t, b.id = d.id → d.status = .PENDING ∧ d.scheduledFor ≤ b.time
  | [], _, _, _, _, b, hb, _ => by cases hb
  | e :: events, t, ⟨hguard, hrest⟩, d, hd, b, hb, hid => by
    rw [sends, List.mem_append] at hb
    cases e.row_step hguard hd with
    | idle hkept hnone =>
      rcases hb with hb | hb
      · exact absurd hid (hnone b hb)
      · exact sent_later events (e.after t) hrest d hkept b hb hid
    | @worked channels now hpending hdue hmarked hsent =>
      refine ⟨hpending, ?_⟩
      rcases hb with hb | hb
      · rw [(hsent b hb hid).2]
        exact hdue
      · obtain ⟨hstill, htime⟩ := sent_later events (e.after t) hrest _ hmarked b hb hid
        have hwait : ((marked channels now d).apply d).scheduledFor =
            now + backoffMs (d.attempts + 1) := by
          simp [MarkValues.apply, (marked_pending hstill).2]
        have hback := backoffMs_nonneg (d.attempts + 1)
        omega

theorem sends_spaced : ∀ (events : List QueueEvent) (t : Deliveries), AllGuarded events t →
    (sends events t).Pairwise fun a b => a.id = b.id → a.time + backoffMs a.number ≤ b.time
  | [], _, _ => .nil
  | e :: events, t, ⟨hguard, hrest⟩ => by
    refine List.pairwise_append.mpr ⟨?_, sends_spaced events (e.after t) hrest, ?_⟩
    · exact (e.sends_once hguard).imp fun hne heq => absurd heq hne
    · intro a ha b hb hab
      obtain ⟨d, hd, hid⟩ := e.sends_known hguard ha
      cases e.row_step hguard hd with
      | idle _ hnone => exact absurd hid (hnone a ha)
      | @worked channels now hpending hdue hmarked hsent =>
        obtain ⟨hnumber, htime⟩ := hsent a ha hid
        obtain ⟨hstill, hlater⟩ :=
          sent_later events (e.after t) hrest _ hmarked b hb (hab.symm.trans hid)
        have hwait : ((marked channels now d).apply d).scheduledFor =
            now + backoffMs (d.attempts + 1) := by
          simp [MarkValues.apply, (marked_pending hstill).2]
        rw [hnumber, htime]
        omega

theorem AllGuarded.rest : ∀ {pre post : List QueueEvent} {t : Deliveries},
    AllGuarded (pre ++ post) t → AllGuarded post (after pre t)
  | [], _, _, h => h
  | _ :: pre, _, _, h => @AllGuarded.rest pre _ _ h.2

theorem registry_guarded {smtp push : Option NotificationChannel}
    {sms inApp : NotificationChannel} (hsmtp : ∀ c ∈ smtp, c.unavailable = false)
    (hsms : sms.unavailable = false) (hinApp : inApp.unavailable = false)
    (hpush : ∀ c ∈ push, c.unavailable = false) (limit : ℕ) (now : ℤ) (t : Deliveries) :
    (QueueEvent.drain (buildChannelRegistry smtp sms inApp push) limit now).Guarded t := by
  intro row _ c hc hunavailable
  have hconfigured : ∀ (o : Option NotificationChannel) (d : NotificationChannel),
      (∀ c ∈ o, c.unavailable = false) → (d.send row.id = .ok ()) → c = o.getD d →
        c.send row.id = .ok () := by
    intro o d ho hd heq
    cases o with
    | none => rw [heq]; exact hd
    | some c' =>
      rw [heq] at hunavailable
      exact absurd hunavailable (by simp [ho c' rfl])
  cases hname : row.channel with
  | EMAIL =>
    rw [hname] at hc
    exact hconfigured smtp ConsoleChannel hsmtp rfl (Option.some.inj hc).symm
  | SMS =>
    rw [hname] at hc
    rw [← Option.some.inj hc, hsms] at hunavailable
    cases hunavailable
  | IN_APP =>
    rw [hname] at hc
    rw [← Option.some.inj hc, hinApp] at hunavailable
    cases hunavailable
  | PUSH =>
    rw [hname] at hc
    exact hconfigured push UnavailableChannel hpush rfl (Option.some.inj hc).symm
  | WHATSAPP =>
    rw [hname] at hc
    rw [← Option.some.inj hc]
    rfl

/-! ## A channel that stops the queue -/

/-- A message for WHATSAPP, and one by mail that is due a little later. -/
def twoDeliveries : Deliveries :=
  ((∅ : Deliveries).insert
    { id := 1, notificationKey := "booking.confirmed", channel := .WHATSAPP, recipient := "900",
      body := "Hello" }).insert
    { id := 2, notificationKey := "booking.confirmed", channel := .EMAIL, recipient := "a@b.test",
      body := "Hello", scheduledFor := 1 }

/-- No provider is behind WHATSAPP, and its channel throws. -/
def throwingChannels : ChannelRegistry
  | .EMAIL => some ConsoleChannel
  | .WHATSAPP => some { send := fun _ => .error (.other "no transport"), unavailable := true }
  | _ => none

/-- Six runs, after 1, 2, 4, 8, 16 and 32 minutes. -/
def sixRuns (channels : ChannelRegistry) : List QueueEvent :=
  [1, 2, 4, 8, 16, 32].map fun minutes => .drain channels 50 (minutes * 60000)

/-- Mail is configured, and refuses. -/
def refusingMail : ChannelRegistry :=
  buildChannelRegistry (some { send := fun _ => .error (.other "refused") }) ConsoleChannel
    ConsoleChannel none

end NotificationDeliveryService

end Travelo
