import Travelo.Offline.Durable

/-!
# Replaying offline work

The life of a queue from its first start: calls one after another, pushes that end in any way
and starts after the app has died. `Replays` is what a step may apply: an operation that was
not applied before, and none before an earlier one of its entity. The order is lost when a
push that fails is not the last of its entity, and an operation is applied twice when an
answer is lost or the app dies before a success is stored (`guarded_replays`).
-/

namespace Travelo.Offline

open SyncQueue (continueDrain replace step recordPush)
open PendingOperation (copyWith)

open Claims SyncQueue

/-- The queue's own steps, and the app dying and starting again from what is stored. -/
inductive LifeEvent where
  | queue (e : Event)
  | restart

def lifeStep (q : SyncQueue) : LifeEvent → Option SyncQueue
  | .queue e => q.step e
  | .restart => some (opened q.store q.applied)

/-- The first start on a new phone. -/
def newPhone : SyncQueue := opened [] []

/-- A call is made when no other is under way, and `newOperationId` draws an id that no
operation has. -/
def OneByOne (q : SyncQueue) : LifeEvent → Prop
  | .queue (.call c) => (∀ t ∈ q.tasks, t.stage = .done) ∧
      match c with
      | .enqueue op => op.operationId ∉ ids q.ops ∧ op.operationId ∉ ids q.applied
      | _ => True
  | _ => True

/-- The operations before this one in the queue. -/
def earlier (q : SyncQueue) (op : PendingOperation) : List PendingOperation :=
  q.ops.takeWhile fun o => o.operationId ≠ op.operationId

/-- What the server applies was not applied before, and nothing earlier of its entity is
still to be applied. -/
def Replays (q : SyncQueue) : LifeEvent → Prop
  | .queue (.resume i r) =>
    match q.tasks[i]? with
    | some { stage := .pushing op _, .. } => r.reached = true →
        op.operationId ∉ ids q.applied ∧
          ∀ o ∈ earlier q op, o.entityId = op.entityId → o.operationId ∈ ids q.applied
    | _ => True
  | _ => True

/-- It will be pushed when its turn comes. -/
def Waits (o : PendingOperation) : Prop := o.syncStatus ≠ .synced ∧ handled o = true

instance (o : PendingOperation) : Decidable (Waits o) := inferInstanceAs (Decidable (_ ∧ _))

/-- What is stuck for want of a handler comes before nothing of its entity that is pushed. -/
def Aparted (l : List PendingOperation) : Prop :=
  l.Pairwise fun a b => a.syncStatus ≠ .synced → handled a = false → Waits b →
    a.entityId ≠ b.entityId

instance (l : List PendingOperation) : Decidable (Aparted l) :=
  inferInstanceAs (Decidable (l.Pairwise _))

/-- No answer is lost, a push fails only when nothing of its entity comes after it in the
drain, a drain starts with nothing stuck before others of its entity, and the app dies only
when all that was applied is stored as synced. -/
def InCare (q : SyncQueue) : LifeEvent → Prop
  | .queue (.resume i r) =>
    match q.tasks[i]? with
    | some { stage := .pushing op rest, .. } =>
      match r with
      | .ok => True
      | .lost _ => ∀ o ∈ rest, Waits o → o.entityId ≠ op.entityId
      | .timedOut _ => False
    | some { call := .drain, stage := .ready } => Aparted q.ops
    | _ => True
  | .restart => ∀ o ∈ q.store, o.operationId ∈ ids q.applied → o.syncStatus = .synced
  | _ => True

/-! ## Deciding the conditions -/

instance : ∀ (q : SyncQueue) (e : LifeEvent), Decidable (OneByOne q e)
  | q, .queue (.call c) => by
    unfold OneByOne
    cases c <;> infer_instance
  | _, .queue (.answer _) => .isTrue trivial
  | _, .queue (.land _) => .isTrue trivial
  | _, .queue (.resume _ _) => .isTrue trivial
  | _, .restart => .isTrue trivial

instance : ∀ (q : SyncQueue) (e : LifeEvent), Decidable (Replays q e)
  | _, .queue (.call _) => .isTrue trivial
  | _, .queue (.answer _) => .isTrue trivial
  | _, .queue (.land _) => .isTrue trivial
  | q, .queue (.resume i r) => by
    unfold Replays
    dsimp only
    rcases q.tasks[i]? with _ | ⟨call, stage⟩
    · infer_instance
    · apply Stage.casesOn (motive := fun _ => Decidable _) stage
      all_goals intros; infer_instance
  | _, .restart => .isTrue trivial

instance : ∀ (q : SyncQueue) (e : LifeEvent), Decidable (InCare q e)
  | _, .queue (.call _) => .isTrue trivial
  | _, .queue (.answer _) => .isTrue trivial
  | _, .queue (.land _) => .isTrue trivial
  | q, .queue (.resume i r) => by
    unfold InCare
    dsimp only
    rcases q.tasks[i]? with _ | ⟨call, stage⟩
    · infer_instance
    · apply Stage.casesOn (motive := fun _ => Decidable _) stage
      case pushing =>
        intros
        apply Pushed.casesOn (motive := fun _ => Decidable _) r
        all_goals intros; infer_instance
      case ready =>
        apply Call.casesOn (motive := fun _ => Decidable _) call
        all_goals intros; infer_instance
      all_goals intros; infer_instance
  | q, .restart => inferInstanceAs (Decidable (∀ o ∈ q.store, _ → _))

/-! ## The invariant -/

/-- The list says of each operation whether it was applied, and has each once. -/
structure Exact (applied : List PendingOperation) (l : List PendingOperation) : Prop where
  distinct : (ids l).Nodup
  synced : ∀ o ∈ l, o.syncStatus = .synced ↔ o.operationId ∈ ids applied

/-- Nothing before `todo` keeps an operation of `todo` from being pushed. -/
def Clear (pre todo : List PendingOperation) : Prop :=
  ∀ a ∈ pre, ∀ b ∈ todo, Waits b → a.entityId = b.entityId → a.syncStatus = .synced

/-- What holds of the one call under way. -/
def Phase (q : SyncQueue) (t : Task) : Prop :=
  match t.stage with
  | .reading => q.loaded = false ∧ t.call = .load
  | .answered raw => q.loaded = false ∧ t.call = .load ∧ raw = q.store
  | .ready => q.loaded = true ∧ ∀ op, t.call = .enqueue op →
      op.operationId ∉ ids q.ops ∧ op.operationId ∉ ids q.applied
  | .pushing op rest => q.loaded = true ∧ t.call = .drain ∧ Waits op ∧ Aparted rest ∧
      ∃ pre, q.ops = pre ++ op.copyWith .syncing :: rest ∧ Clear pre (op :: rest)
  | .writing _ l => q.loaded = true ∧ l = q.ops
  | .written => q.loaded = true
  | .done => q.loaded = true

structure Orderly (q : SyncQueue) : Prop where
  memory : Exact q.applied q.ops
  /-- What the store says is synced was applied; before the list is read it says all of it. -/
  stored : (ids q.store).Nodup ∧
    ∀ o ∈ q.store, o.syncStatus = .synced → o.operationId ∈ ids q.applied
  unread : q.loaded = false → Exact q.applied q.store
  /-- At most one call is under way. -/
  single : ∃ (i : ℕ) (t : Task), q.tasks[i]? = some t ∧ Phase q t ∧
    ∀ (j : ℕ) (t' : Task), q.tasks[j]? = some t' → j ≠ i → t'.stage = .done

variable {q q' : SyncQueue} {t : Task} {l : List PendingOperation}

variable {i : ℕ}

theorem Orderly.phase (h : Orderly q) (hi : q.tasks[i]? = some t) (hstage : t.stage ≠ .done) :
    Phase q t ∧
      ∀ (j : ℕ) (t' : Task), q.tasks[j]? = some t' → j ≠ i → t'.stage = .done := by
  rcases h.single with ⟨k, t', hk, hphase, hothers⟩
  by_cases hik : i = k
  · subst hik
    rw [hi] at hk
    have heq := Option.some.inj hk
    subst heq
    exact ⟨hphase, hothers⟩
  · exact absurd (hothers i t hi hik) hstage

theorem Orderly.loaded (h : Orderly q) (hdone : ∀ t ∈ q.tasks, t.stage = .done) :
    q.loaded = true := by
  rcases h.single with ⟨k, t, hk, hphase, -⟩
  have hstage := hdone t (List.mem_of_getElem? hk)
  unfold Phase at hphase
  rw [hstage] at hphase
  exact hphase

theorem single_move {call : Call} {stage : Stage} (htasks : q'.tasks = q.tasks)
    (hi : q.tasks[i]? = some t)
    (hothers : ∀ (j : ℕ) (t' : Task), q.tasks[j]? = some t' → j ≠ i → t'.stage = .done)
    (hphase : Phase q' { call, stage }) :
    ∃ (k : ℕ) (t : Task), (q'.setTask i call stage).tasks[k]? = some t ∧
      Phase (q'.setTask i call stage) t ∧
        ∀ (j : ℕ) (t' : Task), (q'.setTask i call stage).tasks[j]? = some t' → j ≠ k →
          t'.stage = .done := by
  have hlt : i < q.tasks.length := (List.getElem?_eq_some_iff.mp hi).1
  refine ⟨i, { call, stage }, ?_, hphase, fun j t' hj hne => ?_⟩
  · simp only [setTask, htasks]
    exact List.getElem?_set_self hlt
  · simp only [setTask, htasks] at hj
    rw [List.getElem?_set_ne (fun heq => hne heq.symm)] at hj
    exact hothers j t' hj hne

theorem single_made {call : Call} {stage : Stage} (htasks : q'.tasks = q.tasks)
    (hdone : ∀ t ∈ q.tasks, t.stage = .done) (hphase : Phase q' ⟨call, stage⟩) :
    ∃ (k : ℕ) (t : Task), (q'.tasks ++ [⟨call, stage⟩])[k]? = some t ∧
      Phase { q' with tasks := q'.tasks ++ [⟨call, stage⟩] } t ∧
        ∀ (j : ℕ) (t' : Task), (q'.tasks ++ [⟨call, stage⟩])[j]? = some t' → j ≠ k →
          t'.stage = .done := by
  refine ⟨q'.tasks.length, ⟨call, stage⟩, by simp, hphase, fun j t' hj hne => ?_⟩
  rcases List.mem_append.mp (List.mem_of_getElem? hj) with hold | hnew
  · rw [htasks] at hold
    exact hdone t' hold
  · have hlt := (List.getElem?_eq_some_iff.mp hj).1
    simp only [List.length_append, List.length_cons, List.length_nil] at hlt
    rw [List.getElem?_append_left (by omega)] at hj
    rw [htasks] at hj
    exact hdone t' (List.mem_of_getElem? hj)

/-! ## The loop of a drain -/

variable {op : PendingOperation}

theorem nextPush_some {rest : List PendingOperation} (h : nextPush l = some (op, rest)) :
    ∃ past, l = past ++ op :: rest ∧ Waits op ∧
      ∀ o ∈ past, o.syncStatus = .synced ∨ handled o = false := by
  induction l with
  | nil => cases h
  | cons o l ih =>
    unfold nextPush at h
    split at h
    · next hpast =>
      rcases ih h with ⟨past, rfl, hwaits, hall⟩
      refine ⟨o :: past, rfl, hwaits, fun o' ho' => ?_⟩
      rcases List.mem_cons.mp ho' with rfl | ho'
      · simpa using hpast
      · exact hall o' ho'
    · next hturn =>
      have heq := Option.some.inj h
      have hop := congrArg Prod.fst heq
      have hrest := congrArg Prod.snd heq
      subst hop hrest
      refine ⟨[], rfl, ?_, by simp⟩
      simpa [Waits] using hturn

theorem ids_cons (o : PendingOperation) (l : List PendingOperation) :
    ids (o :: l) = o.operationId :: ids l := rfl

/-- In a list that has each id once, one operation is replaced and the others stay. -/
theorem map_replace {pre rest : List PendingOperation} {old new : PendingOperation}
    (hid : new.operationId = old.operationId) (hdistinct : (ids (pre ++ old :: rest)).Nodup) :
    (pre ++ old :: rest).map (fun o => if o.operationId = new.operationId then new else o) =
      pre ++ new :: rest := by
  rw [ids_append, ids_cons, List.nodup_append] at hdistinct
  rcases hdistinct with ⟨-, hrest, hpre⟩
  have hkeep : ∀ l : List PendingOperation, (∀ o ∈ l, o.operationId ≠ new.operationId) →
      l.map (fun o => if o.operationId = new.operationId then new else o) = l := by
    intro l hl
    conv_rhs => rw [← List.map_id l]
    apply List.map_congr_left
    intro o ho
    simp [hl o ho]
  have hbefore : ∀ o ∈ pre, o.operationId ≠ new.operationId := by
    intro o ho heq
    exact hpre _ (mem_ids.mpr ⟨o, ho, rfl⟩) _ List.mem_cons_self (heq.trans hid)
  have hafter : ∀ o ∈ rest, o.operationId ≠ new.operationId := by
    intro o ho heq
    exact (List.nodup_cons.mp hrest).1 (mem_ids.mpr ⟨o, ho, heq.trans hid⟩)
  rw [List.map_append, List.map_cons, hkeep pre hbefore, hkeep rest hafter]
  simp [hid]

/-- Changing one operation keeps the list exact, when its status says what was done to it. -/
theorem Exact.set {applied applied' pre rest : List PendingOperation} {old new : PendingOperation}
    (h : Exact applied (pre ++ old :: rest)) (hid : new.operationId = old.operationId)
    (happlied : ∀ id, id ≠ old.operationId → (id ∈ ids applied' ↔ id ∈ ids applied))
    (hnew : new.syncStatus = .synced ↔ new.operationId ∈ ids applied') :
    Exact applied' (pre ++ new :: rest) := by
  have hdistinct := h.distinct
  have hsame : ids (pre ++ new :: rest) = ids (pre ++ old :: rest) := by
    rw [ids_append, ids_append, ids_cons, ids_cons, hid]
  constructor
  · rw [hsame]
    exact hdistinct
  · intro o ho
    rw [ids_append, ids_cons, List.nodup_append] at hdistinct
    rcases hdistinct with ⟨-, hrest, hpre⟩
    rcases List.mem_append.mp ho with hin | hin
    · have hne : o.operationId ≠ old.operationId :=
        hpre _ (mem_ids.mpr ⟨o, hin, rfl⟩) _ List.mem_cons_self
      rw [happlied _ hne]
      exact h.synced o (List.mem_append_left _ hin)
    · rcases List.mem_cons.mp hin with rfl | hin
      · exact hnew
      · have hne : o.operationId ≠ old.operationId := by
          intro heq
          exact (List.nodup_cons.mp hrest).1 (mem_ids.mpr ⟨o, hin, heq⟩)
        rw [happlied _ hne]
        exact h.synced o (List.mem_append_right _ (List.mem_cons_of_mem _ hin))

/-- What the loop of a drain leaves: the list exact and the rest of the snapshot ahead. -/
theorem phase_continueDrain {pre todo : List PendingOperation} (hloaded : q.loaded = true)
    (hops : q.ops = pre ++ todo) (hexact : Exact q.applied q.ops) (hclear : Clear pre todo)
    (hapart : Aparted todo) :
    Exact (q.continueDrain todo).1.applied (q.continueDrain todo).1.ops ∧
      Phase (q.continueDrain todo).1 ⟨.drain, (q.continueDrain todo).2⟩ := by
  unfold continueDrain
  cases hnext : nextPush todo with
  | none => exact ⟨hexact, hloaded, rfl⟩
  | some next =>
    rcases next with ⟨op, rest⟩
    rcases nextPush_some hnext with ⟨past, rfl, hwaits, hpast⟩
    have hsplit : q.ops = (pre ++ past) ++ op :: rest := by
      rw [hops, List.append_assoc]
    rw [hsplit] at hexact
    have hid : (op.copyWith .syncing).operationId = op.operationId := rfl
    have hreplaced : (q.replace (op.copyWith .syncing)).ops =
        (pre ++ past) ++ op.copyWith .syncing :: rest := by
      simp only [replace, hsplit]
      exact map_replace hid hexact.distinct
    have hnot : op.operationId ∉ ids q.applied := by
      rw [← hexact.synced op (List.mem_append_right _ List.mem_cons_self)]
      exact hwaits.1
    have hset : Exact q.applied ((pre ++ past) ++ op.copyWith .syncing :: rest) :=
      hexact.set hid (fun _ _ => Iff.rfl) (by simpa [copyWith] using hnot)
    have hparts := List.pairwise_append.mp hapart
    refine ⟨?_, hloaded, rfl, hwaits, (List.pairwise_cons.mp hparts.2.1).2, pre ++ past,
      hreplaced, ?_⟩
    · show Exact q.applied (q.replace (op.copyWith .syncing)).ops
      rw [hreplaced]
      exact hset
    · intro a ha b hb hb' hentity
      rcases List.mem_append.mp ha with hpre | hmid
      · exact hclear a hpre b (List.mem_append_right _ hb) hb' hentity
      · -- it was passed over: synced, or without a handler and of another entity
        by_contra hs
        rcases hpast a hmid with hsynced | hstuck
        · exact hs hsynced
        · exact hparts.2.2 a hmid b hb hs hstuck hb' hentity

theorem continueDrain_store (q : SyncQueue) (todo : List PendingOperation) :
    (q.continueDrain todo).1.store = q.store ∧ (q.continueDrain todo).1.loaded = q.loaded := by
  unfold continueDrain
  cases nextPush todo <;> exact ⟨rfl, rfl⟩

theorem continueDrain_applied (q : SyncQueue) (todo : List PendingOperation) :
    (q.continueDrain todo).1.applied = q.applied := by
  unfold continueDrain
  cases nextPush todo <;> rfl

/-! ## One step -/

theorem Exact.filter {applied : List PendingOperation} (p : PendingOperation → Bool)
    (h : Exact applied l) : Exact applied (l.filter p) where
  distinct := (List.filter_sublist.map _).nodup h.distinct
  synced o ho := h.synced o (List.mem_filter.mp ho).1

theorem Orderly.call {c : Call} (h : Orderly q) (hone : OneByOne q (.queue (.call c)))
    (hstep : q.step (.call c) = some q') : Orderly q' := by
  have hdone := hone.1
  have hloaded := h.loaded hdone
  have hq' := (Option.some.inj hstep).symm
  subst hq'
  have hwrites : ∀ (q₁ : SyncQueue), q₁.loaded = true → Exact q₁.applied q₁.ops →
      q₁.store = q.store → q₁.applied = q.applied → q₁.tasks = q.tasks →
        Orderly { q₁.persist.1 with tasks := q₁.persist.1.tasks ++ [⟨c, q₁.persist.2⟩] } := by
    intro q₁ hload hexact hstore happlied htasks
    refine ⟨hexact, ?_, fun hun => ?_, single_made (q := q) htasks hdone ⟨hload, rfl⟩⟩
    · show (ids q₁.store).Nodup ∧ ∀ o ∈ q₁.store, _ → _ ∈ ids q₁.applied
      rw [hstore, happlied]
      exact h.stored
    · have hun' : q₁.loaded = false := hun
      rw [hload] at hun'
      cases hun'
  have hstays : ∀ stage, Phase q ⟨c, stage⟩ →
      Orderly { q with tasks := q.tasks ++ [⟨c, stage⟩] } := fun stage hphase =>
    ⟨h.memory, h.stored, h.unread, single_made rfl hdone hphase⟩
  have hready : q.awaitLoad = .ready := by simp [awaitLoad, hloaded]
  cases c with
  | load =>
    simp only [if_pos hloaded]
    exact hstays .done hloaded
  | enqueue op =>
    simp only [hready]
    refine hstays .ready ⟨hloaded, fun op' hop => ?_⟩
    cases hop
    exact hone.2
  | drain =>
    by_cases hdraining : q.draining = true
    · simp only [if_pos hdraining]
      exact hstays .done hloaded
    · simp only [if_neg hdraining, hready]
      exact hstays .ready ⟨hloaded, fun op hop => by cases hop⟩
  | remove id => exact hwrites _ hloaded (h.memory.filter _) rfl rfl rfl
  | clearSynced => exact hwrites _ hloaded (h.memory.filter _) rfl rfl rfl

theorem Orderly.answer (h : Orderly q) (hstep : q.step (.answer i) = some q') :
    Orderly q' := by
  unfold step at hstep
  dsimp only at hstep
  split at hstep
  · next call hi =>
    have hq' := (Option.some.inj hstep).symm
    subst hq'
    have hphase := h.phase hi (by simp)
    exact ⟨h.memory, h.stored, h.unread,
      single_move rfl hi hphase.2 ⟨hphase.1.1, hphase.1.2, rfl⟩⟩
  · cases hstep

theorem Orderly.land (h : Orderly q) (hstep : q.step (.land i) = some q') :
    Orderly q' := by
  unfold step at hstep
  dsimp only at hstep
  split at hstep
  · next call n list hi =>
    have hq' := (Option.some.inj hstep).symm
    subst hq'
    have hphase := h.phase hi (by simp)
    rcases hphase with ⟨⟨hloaded, rfl⟩, hothers⟩
    refine ⟨h.memory, ⟨h.memory.distinct, fun o ho hs => (h.memory.synced o ho).mp hs⟩,
      fun hun => ?_, @single_move q { q with store := q.ops, landed := n } _ _ _ _ rfl hi
        hothers hloaded⟩
    have hun' : q.loaded = false := hun
    rw [hloaded] at hun'
    cases hun'
  · cases hstep

theorem Orderly.drained {q₁ : SyncQueue} {pre todo : List PendingOperation} (h : Orderly q)
    (hi : q.tasks[i]? = some t)
    (hothers : ∀ (j : ℕ) (t' : Task), q.tasks[j]? = some t' → j ≠ i → t'.stage = .done)
    (hloaded : q₁.loaded = true) (htasks : q₁.tasks = q.tasks) (hstore : q₁.store = q.store)
    (happlied : ∀ id ∈ ids q.applied, id ∈ ids q₁.applied) (hops : q₁.ops = pre ++ todo)
    (hexact : Exact q₁.applied q₁.ops) (hclear : Clear pre todo) (hapart : Aparted todo) :
    Orderly ((q₁.continueDrain todo).1.setTask i .drain (q₁.continueDrain todo).2) := by
  have hphase := phase_continueDrain hloaded hops hexact hclear hapart
  have hkeeps := continueDrain_store q₁ todo
  refine ⟨hphase.1, ?_, fun hun => ?_, single_move ?_ hi hothers hphase.2⟩
  · show (ids (q₁.continueDrain todo).1.store).Nodup ∧
      ∀ o ∈ (q₁.continueDrain todo).1.store, _ → _ ∈ ids (q₁.continueDrain todo).1.applied
    rw [hkeeps.1, hstore, continueDrain_applied]
    exact ⟨h.stored.1, fun o ho hs => happlied _ (h.stored.2 o ho hs)⟩
  · have hun' : (q₁.continueDrain todo).1.loaded = false := hun
    rw [hkeeps.2, hloaded] at hun'
    cases hun'
  · rw [continueDrain_tasks, htasks]

theorem Orderly.pushed {r : Pushed} {rest : List PendingOperation} (h : Orderly q)
    (hi : q.tasks[i]? = some ⟨.drain, .pushing op rest⟩) (hcare : InCare q (.queue (.resume i r))) :
    Orderly ((((q.recordPush op r).replace (outcome op r)).continueDrain rest).1.setTask i .drain
      (((q.recordPush op r).replace (outcome op r)).continueDrain rest).2) := by
  have hphase := h.phase hi (by simp)
  rcases hphase with ⟨⟨hloaded, -, hwaits, hapart, pre, hops, hclear⟩, hothers⟩
  have hexact := h.memory
  rw [hops] at hexact
  have hnot : op.operationId ∉ ids q.applied := by
    have hiff := hexact.synced (op.copyWith .syncing)
      (List.mem_append_right _ List.mem_cons_self)
    simpa [copyWith] using hiff
  have hid : (outcome op r).operationId = (op.copyWith .syncing).operationId := by
    cases r <;> rfl
  have hreplaced : ((q.recordPush op r).replace (outcome op r)).ops =
      pre ++ outcome op r :: rest := by
    simp only [replace, recordPush, hops]
    exact map_replace hid hexact.distinct
  have hcare' : (r = .ok ∨ ∃ e, r = .lost e) ∧
      ((outcome op r).syncStatus ≠ .synced → ∀ o ∈ rest, Waits o → o.entityId ≠ op.entityId) := by
    simp only [InCare, hi] at hcare
    cases r with
    | ok => exact ⟨.inl rfl, fun hs => absurd rfl hs⟩
    | lost e => exact ⟨.inr ⟨e, rfl⟩, fun _ => hcare⟩
    | timedOut e => exact hcare.elim
  have hlog : ∀ id, id ∈ ids (q.recordPush op r).applied ↔
      id ∈ ids q.applied ∨ (r.reached = true ∧ id = op.operationId) := by
    intro id
    simp only [recordPush]
    by_cases hr : r.reached = true
    · simp [hr, ids]
    · simp [hr]
  have hset : Exact (q.recordPush op r).applied (pre ++ outcome op r :: rest) := by
    refine hexact.set hid (fun id hne => ?_) ?_
    · have hne' : id ≠ op.operationId := hne
      rw [hlog]
      simp [hne']
    · rw [hlog]
      have hopid : (outcome op r).operationId = op.operationId := hid
      rw [hopid]
      rcases hcare'.1 with rfl | ⟨e, rfl⟩
      · simp [outcome, copyWith, Pushed.reached]
      · simp [outcome, copyWith, Pushed.reached, hnot]
  have hentity : (outcome op r).entityId = op.entityId := by cases r <;> rfl
  refine @Orderly.drained q _ i ((q.recordPush op r).replace (outcome op r))
    (pre ++ [outcome op r]) rest h hi hothers hloaded rfl rfl (fun id hin => ?_) ?_ ?_ ?_ hapart
  · exact (hlog id).mpr (.inl hin)
  · rw [hreplaced, List.append_assoc]
    rfl
  · rw [hreplaced]
    exact hset
  · intro a ha b hb hb' hsame
    rcases List.mem_append.mp ha with hpre | hlast
    · exact hclear a hpre b (List.mem_cons_of_mem _ hb) hb' hsame
    · -- the operation that was pushed: synced, or the last of its entity
      rw [List.mem_singleton.mp hlast] at hsame ⊢
      by_contra hs
      exact hcare'.2 hs b hb hb' (by rw [← hsame, hentity])

theorem Orderly.resume {r : Pushed} (h : Orderly q) (hcare : InCare q (.queue (.resume i r)))
    (hstep : q.step (.resume i r) = some q') :
    Orderly q' := by
  unfold step at hstep
  dsimp only at hstep
  split at hstep
  · next call stage hi =>
    cases stage with
    | reading => simp [SyncQueue.resume] at hstep
    | answered raw =>
      have hphase := h.phase hi (by simp)
      rcases hphase with ⟨⟨hun, hcall, rfl⟩, hothers⟩
      have hcall' : call = .load := hcall
      subst hcall'
      have hq' := hstep
      simp only [SyncQueue.resume, if_true, Option.map_some, Option.some.injEq] at hq'
      subst hq'
      have hread := h.unread hun
      refine ⟨hread, h.stored, (fun hun' => by cases hun'),
        @single_move q { q with ops := q.store, loaded := true } _ _ _ _ rfl hi hothers rfl⟩
    | ready =>
      have hphase := h.phase hi (by simp)
      rcases hphase with ⟨⟨hloaded, hfresh⟩, hothers⟩
      cases call with
      | load => simp [SyncQueue.resume] at hstep
      | remove id => simp [SyncQueue.resume] at hstep
      | clearSynced => simp [SyncQueue.resume] at hstep
      | enqueue op =>
        have hnew := hfresh op rfl
        have hq' := hstep
        simp only [SyncQueue.resume, Option.map_some, Option.some.injEq] at hq'
        subst hq'
        refine ⟨?_, h.stored, fun hun => ?_, single_move rfl hi hothers ⟨hloaded, rfl⟩⟩
        · constructor
          · show (ids (q.ops ++ [_])).Nodup
            rw [ids_append, List.nodup_append]
            refine ⟨h.memory.distinct, by simp [ids], fun a ha b hb heq => ?_⟩
            have hb' : b = op.operationId := by simpa [ids] using hb
            rw [heq, hb'] at ha
            exact hnew.1 ha
          · intro o ho
            rcases List.mem_append.mp ho with hold | hlast
            · exact h.memory.synced o hold
            · rw [List.mem_singleton.mp hlast]
              constructor
              · intro hs
                cases hs
              · intro hin
                exact absurd hin hnew.2
        · have hun' : q.loaded = false := hun
          rw [hloaded] at hun'
          cases hun'
      | drain =>
        have hapart : Aparted q.ops := by
          simpa [InCare, hi] using hcare
        have hq' := hstep
        simp only [SyncQueue.resume, Option.map_some, Option.some.injEq] at hq'
        subst hq'
        exact @Orderly.drained q _ i { q with draining := true } [] q.ops h hi hothers hloaded
          rfl rfl (fun _ => id) rfl h.memory (fun a ha => by cases ha) hapart
    | pushing op rest =>
      have hphase := h.phase hi (by simp)
      have hcall : call = .drain := hphase.1.2.1
      subst hcall
      have hq' := hstep
      simp only [SyncQueue.resume, Option.map_some, Option.some.injEq] at hq'
      subst hq'
      exact h.pushed hi hcare
    | writing n list => simp [SyncQueue.resume] at hstep
    | written =>
      have hphase := h.phase hi (by simp)
      rcases hphase with ⟨hloaded, hothers⟩
      have hq' := hstep
      simp only [SyncQueue.resume, Option.map_some, Option.some.injEq] at hq'
      subst hq'
      split
      · exact ⟨h.memory, h.stored, h.unread,
          @single_move q { q with draining := false } _ _ _ _ rfl hi hothers hloaded⟩
      · exact ⟨h.memory, h.stored, h.unread, single_move rfl hi hothers hloaded⟩
    | done => simp [SyncQueue.resume] at hstep
  · cases hstep

theorem orderly_opened {store applied : List PendingOperation} (h : Exact applied store) :
    Orderly (opened store applied) where
  memory := ⟨List.nodup_nil, fun o ho => by cases ho⟩
  stored := ⟨h.distinct, fun o ho hs => (h.synced o ho).mp hs⟩
  unread _ := h
  single := by
    refine ⟨0, ⟨.load, .reading⟩, rfl, ⟨rfl, rfl⟩, fun j t' hj hne => ?_⟩
    have hlt := (List.getElem?_eq_some_iff.mp hj).1
    have hone : j < 1 := hlt
    omega

theorem Orderly.step {e : LifeEvent} (h : Orderly q) (hone : OneByOne q e) (hcare : InCare q e)
    (hstep : lifeStep q e = some q') : Orderly q' := by
  cases e with
  | queue e =>
    cases e with
    | call c => exact h.call hone hstep
    | answer i => exact h.answer hstep
    | land i => exact h.land hstep
    | resume i r => exact h.resume hcare hstep
  | restart =>
    have hq' := (Option.some.inj hstep).symm
    subst hq'
    refine orderly_opened ⟨h.stored.1, fun o ho => ⟨h.stored.2 o ho, hcare o ho⟩⟩

theorem earlier_eq {pre rest : List PendingOperation}
    (hops : q.ops = pre ++ op.copyWith .syncing :: rest) (hdistinct : (ids q.ops).Nodup) :
    earlier q op = pre := by
  rw [hops, ids_append, ids_cons, List.nodup_append] at hdistinct
  have hpre : ∀ o ∈ pre, decide (o.operationId ≠ op.operationId) = true := by
    intro o ho
    have hne := hdistinct.2.2 _ (mem_ids.mpr ⟨o, ho, rfl⟩) _ List.mem_cons_self
    simpa [copyWith] using hne
  rw [earlier, hops, List.takeWhile_append_of_pos hpre]
  simp [copyWith]

theorem Orderly.replays (h : Orderly q) (e : LifeEvent) : Replays q e := by
  cases e with
  | restart => trivial
  | queue e =>
    cases e with
    | call c => trivial
    | answer i => trivial
    | land i => trivial
    | resume i r =>
      unfold Replays
      dsimp only
      split
      · next call op rest hi =>
        intro _
        have hphase := h.phase hi (by simp)
        rcases hphase with ⟨⟨-, -, hwaits, -, pre, hops, hclear⟩, -⟩
        have hexact := h.memory
        constructor
        · have hin : op.copyWith .syncing ∈ q.ops := by simp [hops]
          have hiff := hexact.synced _ hin
          simpa [copyWith] using hiff
        · rw [earlier_eq hops hexact.distinct]
          intro o ho hentity
          have hsynced := hclear o ho op List.mem_cons_self hwaits hentity
          exact (hexact.synced o (by simp [hops, ho])).mp hsynced
      · trivial

/-- **Offline work is replayed in order and once** when no answer is lost, a push that fails is
the last of its entity in the drain, nothing stuck comes before others of its entity, and the
app dies only when all that was applied is stored as synced. -/
theorem guarded_replays (es : List LifeEvent) (hone : Guarded lifeStep OneByOne newPhone es)
    (hcare : Guarded lifeStep InCare newPhone es) : Guarded lifeStep Replays newPhone es := by
  have hstart : Orderly newPhone := orderly_opened ⟨List.nodup_nil, fun o ho => by cases ho⟩
  exact guarded_of_invariant (I := Orderly)
    (fun _ _ _ horderly hboth hstep => horderly.step hboth.1 hboth.2 hstep)
    (fun _ e horderly _ => horderly.replays e) hstart (hone.and hcare)

/-! ## Two operations on one task -/

def completeTask : PendingOperation :=
  { startTask with operationId := "op_2", operationType := "housekeeping.task.complete" }

/-- A task is started and completed without a network; then a drain has the first push end as
given and the second reach the server. -/
def startAndComplete (first : Pushed) : List LifeEvent :=
  [.queue (.answer 0), .queue (.resume 0),
    .queue (.call (.enqueue startTask)), .queue (.resume 1), .queue (.land 1), .queue (.resume 1),
    .queue (.call (.enqueue completeTask)), .queue (.resume 2), .queue (.land 2),
    .queue (.resume 2), .queue (.call .drain), .queue (.resume 3), .queue (.resume 3 first),
    .queue (.resume 3)]

/-- The start fails on its way and the drain goes on: the task is completed before it is
started. -/
theorem completed_before_started : ¬∀ es : List LifeEvent,
    Guarded lifeStep OneByOne newPhone es → Guarded lifeStep Replays newPhone es := by
  intro hlaw
  have horder := hlaw (startAndComplete (.lost "network")) (by decide +kernel)
  exact absurd horder (by decide +kernel)

/-- Both pushes are answered. -/
theorem started_then_completed : Guarded lifeStep Replays newPhone (startAndComplete .ok) :=
  guarded_replays (startAndComplete .ok) (by decide +kernel) (by decide +kernel)

end Travelo.Offline
