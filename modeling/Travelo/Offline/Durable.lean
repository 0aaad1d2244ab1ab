import Mathlib.Tactic.Common
import Travelo.Offline

/-!
# The queue keeps what it was given

`Durable`: with no call under way everything that was stored or added is in memory and in the
store, and whatever happens a restart finds every operation whose `enqueue` had returned. It
holds as long as no list is removed from before the queue is loaded, no answer to a second
read takes an operation out of memory and no write takes effect after a later one
(`queue_durable`); each of the three can lose work, the second by two first calls
(`second_load_loses`).
-/

namespace Travelo.Offline

open Claims SyncQueue

/-- Removed, or pushed with success and cleared. -/
def Gone (h : History) (id : String) : Prop :=
  id ∈ h.removed ∨ (id ∈ h.synced ∧ id ∈ h.cleared)

instance (h : History) (id : String) : Decidable (Gone h id) :=
  inferInstanceAs (Decidable (_ ∨ _))

/-- The queue of a new start, once its list is read. -/
def afterRestart (q : SyncQueue) : Option SyncQueue :=
  run step (opened q.store q.applied) [.answer 0, .resume 0]

/-- There when the queue was opened, or given to an `enqueue` that has returned. -/
def Accepted (q : SyncQueue) (id : String) : Prop :=
  (id, 0) ∈ q.history.known ∨
    ∃ t ∈ q.tasks, t.stage = .done ∧ ∃ op, t.call = .enqueue op ∧ op.operationId = id

structure Durable (q : SyncQueue) : Prop where
  /-- With no call under way nothing is missing. -/
  quiet : (∀ t ∈ q.tasks, t.stage = .done) → ∀ k ∈ q.history.known,
    Gone q.history k.1 ∨ (k.1 ∈ ids q.ops ∧ k.1 ∈ ids q.store)
  /-- A restart finds what was accepted. -/
  restart : ∀ id, Accepted q id → id ∈ q.history.removed ∨ id ∈ q.history.synced ∨
    ∃ q', afterRestart q = some q' ∧ id ∈ ids q'.ops

/-- What a step must not do: change the list before it is loaded, take an operation out of
memory by the answer to an earlier read, or write over a later list. -/
def InTurn (q : SyncQueue) : Event → Prop
  | .call (.remove _) => q.loaded = true
  | .call .clearSynced => q.loaded = true
  | .call _ => True
  | .answer _ => True
  | .land i =>
    match q.tasks[i]? with
    | some { stage := .writing n _, .. } => q.landed < n
    | _ => True
  | .resume i _ =>
    match q.tasks[i]? with
    | some { stage := .answered raw, .. } => ∀ id ∈ ids q.ops, id ∈ ids raw
    | _ => True

instance : ∀ (q : SyncQueue) (e : Event), Decidable (InTurn q e)
  | q, .call (.remove _) => inferInstanceAs (Decidable (q.loaded = true))
  | q, .call .clearSynced => inferInstanceAs (Decidable (q.loaded = true))
  | _, .call .load => .isTrue trivial
  | _, .call (.enqueue _) => .isTrue trivial
  | _, .call .drain => .isTrue trivial
  | _, .answer _ => .isTrue trivial
  | q, .land i => by
    unfold InTurn
    dsimp only
    split <;> infer_instance
  | q, .resume i _ => by
    unfold InTurn
    dsimp only
    split <;> infer_instance

/-! ## The invariant -/

/-- The list holds what is known by write `n`. -/
def Holds (q : SyncQueue) (n : ℕ) (l : List PendingOperation) : Prop :=
  ∀ k ∈ q.history.known, k.2 ≤ n → Gone q.history k.1 ∨ k.1 ∈ ids l

/-- What the list says is synced was pushed with success. -/
def Marked (q : SyncQueue) (l : List PendingOperation) : Prop :=
  ∀ o ∈ l, o.syncStatus = .synced → o.operationId ∈ q.history.synced

/-- What holds of one call. -/
def TaskOk (q : SyncQueue) (t : Task) : Prop :=
  match t.stage with
  | .reading => True
  | .answered raw => Marked q raw ∧ (q.loaded = false → raw = q.store)
  | .ready => q.loaded = true
  | .pushing _ _ => q.loaded = true ∧ t.call = .drain
  | .writing n l => q.loaded = true ∧ n ≤ q.writes ∧ Holds q n l ∧ Marked q l ∧
      ∀ op, t.call = .enqueue op → (op.operationId, n) ∈ q.history.known
  | .written => q.loaded = true ∧
      ∀ op, t.call = .enqueue op → ∃ m ≤ q.landed, (op.operationId, m) ∈ q.history.known
  | .done => q.loaded = true ∧
      ∀ op, t.call = .enqueue op → ∃ m ≤ q.landed, (op.operationId, m) ∈ q.history.known

/-- What holds of the queue and the store. -/
structure CoreOk (q : SyncQueue) : Prop where
  memory : q.loaded = true → Holds q q.writes q.ops
  disk : Holds q q.landed q.store
  landed : q.landed ≤ q.writes
  known : ∀ k ∈ q.history.known, k.2 ≤ q.writes
  ops : Marked q q.ops
  store : Marked q q.store
  unloaded : q.loaded = false → q.writes = 0 ∧ q.draining = false

structure Safe (q : SyncQueue) : Prop where
  core : CoreOk q
  /-- The first `load` has been called. -/
  opened : 0 < q.tasks.length
  task : ∀ t ∈ q.tasks, TaskOk q t
  /-- The last write is under way until it takes effect. -/
  pending : q.landed < q.writes → ∃ (j : ℕ) (c : Call) (l : List PendingOperation),
    q.tasks[j]? = some { call := c, stage := .writing q.writes l }

/-- What a step does to what is already known. -/
structure Grows (q q' : SyncQueue) : Prop where
  loaded : q.loaded = true → q'.loaded = true
  unloaded : q'.loaded = false → q'.store = q.store
  writes : q.writes ≤ q'.writes
  landed : q.landed ≤ q'.landed
  gone : ∀ id, Gone q.history id → Gone q'.history id
  synced : ∀ id ∈ q.history.synced, id ∈ q'.history.synced
  kept : ∀ k ∈ q.history.known, k ∈ q'.history.known
  fresh : ∀ k ∈ q'.history.known, k ∈ q.history.known ∨ q.writes < k.2

variable {q q' : SyncQueue} {t : Task} {l : List PendingOperation} {n : ℕ}

theorem Holds.mono (hgrows : Grows q q') (hn : n ≤ q.writes) (h : Holds q n l) : Holds q' n l := by
  intro k hk hle
  rcases hgrows.fresh k hk with hold | hnew
  · rcases h k hold hle with hgone | hin
    · exact .inl (hgrows.gone _ hgone)
    · exact .inr hin
  · omega

theorem Marked.mono (hgrows : Grows q q') (h : Marked q l) : Marked q' l :=
  fun o ho hs => hgrows.synced _ (h o ho hs)

theorem TaskOk.mono (hgrows : Grows q q') (h : TaskOk q t) : TaskOk q' t := by
  rcases t with ⟨call, stage⟩
  cases stage with
  | reading => trivial
  | answered raw =>
    rcases h with ⟨hmarked, hraw⟩
    refine ⟨hmarked.mono hgrows, fun hun => ?_⟩
    have hbefore : q.loaded = false := by
      by_contra hloaded
      have hafter := hgrows.loaded (by simpa using hloaded)
      rw [hun] at hafter
      cases hafter
    rw [hgrows.unloaded hun]
    exact hraw hbefore
  | ready => exact hgrows.loaded h
  | pushing op rest => exact ⟨hgrows.loaded h.1, h.2⟩
  | writing n l =>
    rcases h with ⟨hloaded, hn, hholds, hmarked, hown⟩
    exact ⟨hgrows.loaded hloaded, Nat.le_trans hn hgrows.writes, hholds.mono hgrows hn,
      hmarked.mono hgrows, fun op hop => hgrows.kept _ (hown op hop)⟩
  | written =>
    refine ⟨hgrows.loaded h.1, fun op hop => ?_⟩
    rcases h.2 op hop with ⟨m, hm, hmem⟩
    exact ⟨m, Nat.le_trans hm hgrows.landed, hgrows.kept _ hmem⟩
  | done =>
    refine ⟨hgrows.loaded h.1, fun op hop => ?_⟩
    rcases h.2 op hop with ⟨m, hm, hmem⟩
    exact ⟨m, Nat.le_trans hm hgrows.landed, hgrows.kept _ hmem⟩

theorem Grows.refl (q : SyncQueue) : Grows q q where
  loaded := id
  unloaded _ := rfl
  writes := Nat.le_refl _
  landed := Nat.le_refl _
  gone _ := id
  synced _ := id
  kept _ := id
  fresh _ := .inl

/-! ## One step -/

@[simp] theorem ids_replace (q : SyncQueue) (o : PendingOperation) :
    ids (q.replace o).ops = ids q.ops := by
  simp only [ids, replace, List.map_map]
  apply List.map_congr_left
  intro p _
  simp only [Function.comp_apply]
  split
  · next heq => exact heq.symm
  · rfl

theorem ids_append (l l' : List PendingOperation) : ids (l ++ l') = ids l ++ ids l' :=
  List.map_append

theorem Safe.move {i : ℕ} {call : Call} {stage : Stage} (h : Safe q) (hgrows : Grows q q')
    (hcore : CoreOk q') (htasks : q'.tasks = q.tasks) (hi : q.tasks[i]? = some t)
    (htask : TaskOk q' { call, stage })
    (hpending : q'.landed < q'.writes → (∃ l, stage = .writing q'.writes l) ∨
      (q'.writes = q.writes ∧ q.landed < q.writes ∧ ∀ l, t.stage ≠ .writing q.writes l)) :
    Safe (q'.setTask i call stage) := by
  have hlt : i < q.tasks.length := (List.getElem?_eq_some_iff.mp hi).1
  constructor
  · exact { hcore with }
  · simp only [setTask, htasks, List.length_set]
    exact h.opened
  · intro t' ht'
    simp only [setTask, htasks] at ht'
    rcases List.mem_or_eq_of_mem_set ht' with hold | rfl
    · have hmoved : Grows q (q'.setTask i call stage) := { hgrows with }
      exact TaskOk.mono hmoved (h.task t' hold)
    · exact htask
  · intro hlate
    rcases hpending hlate with ⟨l, hstage⟩ | ⟨hwrites, hbefore, hother⟩
    · refine ⟨i, call, l, ?_⟩
      simp only [setTask, htasks]
      rw [List.getElem?_set_self hlt, hstage]
    · rcases h.pending hbefore with ⟨j, c, l, hj⟩
      have hne : i ≠ j := by
        rintro rfl
        rw [hi] at hj
        have heq := Option.some.inj hj
        exact hother l (by rw [heq])
      refine ⟨j, c, l, ?_⟩
      simp only [setTask, htasks, hwrites]
      rw [List.getElem?_set_ne hne, hj]

theorem Safe.made {call : Call} {stage : Stage} (h : Safe q) (hgrows : Grows q q')
    (hcore : CoreOk q') (htasks : q'.tasks = q.tasks) (htask : TaskOk q' { call, stage })
    (hpending : (∃ l, stage = .writing q'.writes l) ∨
      (q'.writes = q.writes ∧ q'.landed = q.landed)) :
    Safe { q' with tasks := q'.tasks ++ [{ call, stage }] } := by
  constructor
  · exact { hcore with }
  · simp
  · intro t' ht'
    rcases List.mem_append.mp ht' with hold | hnew
    · rw [htasks] at hold
      have hmade : Grows q { q' with tasks := q'.tasks ++ [{ call, stage }] } := { hgrows with }
      exact TaskOk.mono hmade (h.task t' hold)
    · rw [List.mem_singleton.mp hnew]
      exact htask
  · intro hlate
    rcases hpending with ⟨l, hstage⟩ | ⟨hwrites, hlanded⟩
    · refine ⟨q'.tasks.length, call, l, ?_⟩
      simp [hstage]
    · have hbefore : q.landed < q.writes := by
        have hlate' : q'.landed < q'.writes := hlate
        omega
      rcases h.pending hbefore with ⟨j, c, l, hj⟩
      have hlt : j < q.tasks.length := (List.getElem?_eq_some_iff.mp hj).1
      refine ⟨j, c, l, ?_⟩
      simp only [htasks, hwrites]
      rw [List.getElem?_append_left hlt, hj]

/-- The queue just before a write: memory has all that is known. -/
structure ToWrite (q : SyncQueue) : Prop where
  loaded : q.loaded = true
  memory : ∀ k ∈ q.history.known, Gone q.history k.1 ∨ k.1 ∈ ids q.ops
  disk : Holds q q.landed q.store
  landed : q.landed ≤ q.writes
  known : ∀ k ∈ q.history.known, k.2 ≤ q.writes + 1
  ops : Marked q q.ops
  store : Marked q q.store

theorem CoreOk.toWrite (h : CoreOk q) (hloaded : q.loaded = true) : ToWrite q where
  loaded := hloaded
  memory k hk := h.memory hloaded k hk (h.known k hk)
  disk := h.disk
  landed := h.landed
  known k hk := Nat.le_succ_of_le (h.known k hk)
  ops := h.ops
  store := h.store

theorem ToWrite.core (h : ToWrite q) : CoreOk q.persist.1 where
  memory _ k hk _ := h.memory k hk
  disk := h.disk
  landed := Nat.le_succ_of_le h.landed
  known := h.known
  ops := h.ops
  store := h.store
  unloaded hun := by
    have hloaded : q.loaded = false := hun
    rw [h.loaded] at hloaded
    cases hloaded

theorem ToWrite.task {call : Call} (h : ToWrite q)
    (hown : ∀ op, call = .enqueue op → (op.operationId, q.writes + 1) ∈ q.history.known) :
    TaskOk q.persist.1 { call, stage := q.persist.2 } :=
  ⟨h.loaded, Nat.le_refl _, fun k hk _ => h.memory k hk, h.ops, hown⟩

theorem grows_persist (q : SyncQueue) : Grows q q.persist.1 where
  loaded := id
  unloaded _ := rfl
  writes := Nat.le_succ _
  landed := Nat.le_refl _
  gone _ := id
  synced _ := id
  kept _ := id
  fresh _ := .inl

theorem Grows.trans {q'' : SyncQueue} (h : Grows q q') (h' : Grows q' q'') : Grows q q'' where
  loaded hl := h'.loaded (h.loaded hl)
  unloaded hun := by
    have hmid : q'.loaded = false := by
      by_contra hloaded
      have hafter := h'.loaded (by simpa using hloaded)
      rw [hun] at hafter
      cases hafter
    rw [h'.unloaded hun, h.unloaded hmid]
  writes := Nat.le_trans h.writes h'.writes
  landed := Nat.le_trans h.landed h'.landed
  gone k hk := h'.gone k (h.gone k hk)
  synced k hk := h'.synced k (h.synced k hk)
  kept k hk := h'.kept k (h.kept k hk)
  fresh k hk := by
    rcases h'.fresh k hk with hmid | hnew
    · exact h.fresh k hmid
    · have hle := h.writes
      exact .inr (by omega)

theorem grows_replace (q : SyncQueue) (o : PendingOperation) : Grows q (q.replace o) where
  loaded := id
  unloaded _ := rfl
  writes := Nat.le_refl _
  landed := Nat.le_refl _
  gone _ := id
  synced _ := id
  kept _ := id
  fresh _ := .inl

theorem CoreOk.replace {o : PendingOperation} (h : CoreOk q)
    (ho : o.syncStatus = .synced → o.operationId ∈ q.history.synced) : CoreOk (q.replace o) where
  memory hloaded k hk hle := by
    rw [ids_replace]
    exact h.memory hloaded k hk hle
  disk := h.disk
  landed := h.landed
  known := h.known
  ops p hp hs := by
    simp only [SyncQueue.replace, List.mem_map] at hp
    rcases hp with ⟨p', hp', heq⟩
    split at heq
    · subst heq
      exact ho hs
    · subst heq
      exact h.ops p' hp' hs
  store := h.store
  unloaded := h.unloaded

theorem CoreOk.continueDrain (snapshot : List PendingOperation) (h : CoreOk q)
    (hloaded : q.loaded = true) :
    CoreOk (q.continueDrain snapshot).1 ∧ Grows q (q.continueDrain snapshot).1 ∧
      TaskOk (q.continueDrain snapshot).1
        { call := .drain, stage := (q.continueDrain snapshot).2 } := by
  unfold SyncQueue.continueDrain
  cases nextPush snapshot with
  | none =>
    have hwrite := h.toWrite hloaded
    exact ⟨hwrite.core, grows_persist q, hwrite.task fun op hop => by cases hop⟩
  | some next =>
    rcases next with ⟨op, rest⟩
    refine ⟨h.replace fun hs => ?_, grows_replace _ _, hloaded, rfl⟩
    cases hs

theorem mem_ids {l : List PendingOperation} {id : String} :
    id ∈ ids l ↔ ∃ o ∈ l, o.operationId = id := List.mem_map

theorem Safe.call {c : Call} (h : Safe q) (hturn : InTurn q (.call c))
    (hstep : step q (.call c) = some q') : Safe q' := by
  have hq' := (Option.some.inj hstep).symm
  subst hq'
  have hwait : TaskOk q { call := c, stage := q.awaitLoad } := by
    unfold awaitLoad
    split
    · next hloaded => exact hloaded
    · trivial
  cases c with
  | load =>
    refine h.made (Grows.refl q) h.core rfl ?_ (.inr ⟨rfl, rfl⟩)
    by_cases hloaded : q.loaded = true
    · simp only [hloaded, if_true]
      exact ⟨hloaded, fun op hop => by cases hop⟩
    · simp only [hloaded, Bool.false_eq_true, if_false]
      trivial
  | enqueue op => exact h.made (Grows.refl q) h.core rfl hwait (.inr ⟨rfl, rfl⟩)
  | drain =>
    refine h.made (Grows.refl q) h.core rfl ?_ (.inr ⟨rfl, rfl⟩)
    by_cases hdraining : q.draining = true
    · have hloaded : q.loaded = true := by
        by_contra hun
        have hnot := (h.core.unloaded (by simpa using hun)).2
        rw [hdraining] at hnot
        cases hnot
      simp only [hdraining, if_true]
      exact ⟨hloaded, fun op hop => by cases hop⟩
    · simp only [hdraining, Bool.false_eq_true, if_false]
      exact hwait
  | remove id =>
    have hloaded : q.loaded = true := hturn
    have hwrite := h.core.toWrite hloaded
    have hgone : ∀ k, Gone q.history k →
        Gone { q.history with removed := id :: q.history.removed } k := by
      rintro k (hremoved | hcleared)
      · exact .inl (List.mem_cons_of_mem id hremoved)
      · exact .inr hcleared
    have hmid : ToWrite { q with
        ops := q.ops.filter fun o => o.operationId ≠ id
        history := { q.history with removed := id :: q.history.removed } } :=
      { hwrite with
        memory := fun k hk => by
          rcases hwrite.memory k hk with hout | hin
          · exact .inl (hgone _ hout)
          · by_cases hid : k.1 = id
            · exact .inl (.inl (by rw [hid]; exact List.mem_cons_self))
            · rcases mem_ids.mp hin with ⟨o, ho, hoid⟩
              refine .inr (mem_ids.mpr ⟨o, List.mem_filter.mpr ⟨ho, ?_⟩, hoid⟩)
              simpa [hoid] using hid
        disk := fun k hk hle => (hwrite.disk k hk hle).imp_left (hgone _)
        ops := fun o ho hs => hwrite.ops o (List.mem_filter.mp ho).1 hs }
    refine h.made ?_ hmid.core rfl (hmid.task fun op hop => by cases hop) (.inl ⟨_, rfl⟩)
    exact { grows_persist q with gone := hgone }
  | clearSynced =>
    have hloaded : q.loaded = true := hturn
    have hwrite := h.core.toWrite hloaded
    have hgone : ∀ k, Gone q.history k → Gone { q.history with
        cleared := ids (q.ops.filter fun o => o.syncStatus = .synced) ++ q.history.cleared }
          k := by
      rintro k (hremoved | ⟨hsynced, hcleared⟩)
      · exact .inl hremoved
      · exact .inr ⟨hsynced, List.mem_append_right _ hcleared⟩
    have hmid : ToWrite { q with
        ops := q.ops.filter fun o => o.syncStatus ≠ .synced
        history := { q.history with
          cleared := ids (q.ops.filter fun o => o.syncStatus = .synced) ++
            q.history.cleared } } :=
      { hwrite with
        memory := fun k hk => by
          rcases hwrite.memory k hk with hout | hin
          · exact .inl (hgone _ hout)
          · rcases mem_ids.mp hin with ⟨o, ho, hoid⟩
            by_cases hs : o.syncStatus = .synced
            · -- it is cleared, and its push had succeeded
              refine .inl (.inr ⟨?_, List.mem_append_left _ (mem_ids.mpr ⟨o, ?_, hoid⟩)⟩)
              · rw [← hoid]
                exact hwrite.ops o ho hs
              · simp [ho, hs]
            · refine .inr (mem_ids.mpr ⟨o, List.mem_filter.mpr ⟨ho, ?_⟩, hoid⟩)
              simpa using hs
        disk := fun k hk hle => (hwrite.disk k hk hle).imp_left (hgone _)
        ops := fun o ho hs => hwrite.ops o (List.mem_filter.mp ho).1 hs }
    refine h.made ?_ hmid.core rfl (hmid.task fun op hop => by cases hop) (.inl ⟨_, rfl⟩)
    exact { grows_persist q with gone := hgone }

theorem Safe.answer {i : ℕ} (h : Safe q) (hstep : step q (.answer i) = some q') : Safe q' := by
  unfold step at hstep
  dsimp only at hstep
  split at hstep
  · next call hi =>
    have hq' := (Option.some.inj hstep).symm
    subst hq'
    refine h.move (Grows.refl q) h.core rfl hi ⟨h.core.store, fun _ => rfl⟩ fun hlate => ?_
    exact .inr ⟨rfl, hlate, fun l => by simp⟩
  · cases hstep

theorem Safe.land {i : ℕ} (h : Safe q) (hturn : InTurn q (.land i))
    (hstep : step q (.land i) = some q') : Safe q' := by
  unfold step at hstep
  dsimp only at hstep
  split at hstep
  · next call n list hi =>
    have hq' := (Option.some.inj hstep).symm
    subst hq'
    have hlater : q.landed < n := by
      simpa [InTurn, hi] using hturn
    have htask := h.task _ (List.mem_of_getElem? hi)
    rcases htask with ⟨hloaded, hn, hholds, hmarked, hown⟩
    have hgrows : Grows q { q with store := list, landed := n } :=
      { Grows.refl q with
        unloaded := fun hun => by
          have hloaded' : q.loaded = false := hun
          rw [hloaded] at hloaded'
          cases hloaded'
        landed := Nat.le_of_lt hlater }
    refine h.move hgrows { h.core with disk := hholds, landed := hn, store := hmarked } rfl hi
      ⟨hloaded, fun op hop => ⟨n, Nat.le_refl n, hown op hop⟩⟩ fun hlate => ?_
    have hlate' : n < q.writes := hlate
    refine .inr ⟨rfl, by omega, fun l hl => ?_⟩
    have hnum : n = q.writes := (Stage.writing.inj hl).1
    omega
  · cases hstep

theorem Safe.assign {raw : List PendingOperation} (h : Safe q) (hmarked : Marked q raw)
    (hfirst : q.loaded = false → raw = q.store)
    (hturn : ∀ id ∈ ids q.ops, id ∈ ids raw) :
    CoreOk { q with ops := raw, loaded := true } ∧
      Grows q { q with ops := raw, loaded := true } := by
  constructor
  · refine { h.core with memory := fun _ k hk _ => ?_, ops := hmarked, unloaded := ?_ }
    · by_cases hloaded : q.loaded = true
      · exact (h.core.memory hloaded k hk (h.core.known k hk)).imp_right (hturn _)
      · -- nothing was written before the list is loaded
        have hun : q.loaded = false := by simpa using hloaded
        have hwrites := (h.core.unloaded hun).1
        have hle := h.core.known k hk
        have hin := h.core.disk k hk (by omega)
        rw [← hfirst hun] at hin
        exact hin
    · intro hun
      cases hun
  · exact { Grows.refl q with loaded := fun _ => rfl, unloaded := fun hun => by cases hun }

theorem Safe.added (op : PendingOperation) (h : Safe q) (hloaded : q.loaded = true)
    (hop : op.syncStatus = .pending) :
    ToWrite { q with
      ops := q.ops ++ [op]
      history := { q.history with
        known := (op.operationId, q.writes + 1) :: q.history.known } } where
  loaded := hloaded
  memory k hk := by
    rw [ids_append]
    rcases List.mem_cons.mp hk with rfl | hold
    · exact .inr (List.mem_append_right _ List.mem_cons_self)
    · exact (h.core.memory hloaded k hold (h.core.known k hold)).imp_right
        (List.mem_append_left _)
  disk k hk hle := by
    have hlanded := h.core.landed
    rcases List.mem_cons.mp hk with rfl | hold
    · have hle' : q.writes + 1 ≤ q.landed := hle
      omega
    · exact h.core.disk k hold hle
  landed := h.core.landed
  known k hk := by
    rcases List.mem_cons.mp hk with rfl | hold
    · exact Nat.le_refl _
    · exact Nat.le_succ_of_le (h.core.known k hold)
  ops o ho hs := by
    rcases List.mem_append.mp ho with hold | hnew
    · exact h.core.ops o hold hs
    · rw [List.mem_singleton.mp hnew, hop] at hs
      cases hs
  store := h.core.store

theorem CoreOk.recordPush (op : PendingOperation) (r : Pushed) (h : CoreOk q) :
    CoreOk (q.recordPush op r) ∧ Grows q (q.recordPush op r) ∧
      ((outcome op r).syncStatus = .synced →
        (outcome op r).operationId ∈ (q.recordPush op r).history.synced) := by
  have hsynced : ∀ id ∈ q.history.synced, id ∈ (q.recordPush op r).history.synced := by
    intro id hid
    simp only [SyncQueue.recordPush]
    split
    · exact List.mem_cons_of_mem _ hid
    · exact hid
  have hgrows : Grows q (q.recordPush op r) :=
    { Grows.refl q with
      gone := fun id hgone => hgone.imp_right fun hout => ⟨hsynced id hout.1, hout.2⟩
      synced := hsynced }
  refine ⟨?_, hgrows, ?_⟩
  · exact
      { memory := fun hloaded => (h.memory hloaded).mono hgrows (Nat.le_refl _)
        disk := h.disk.mono hgrows h.landed
        landed := h.landed
        known := h.known
        ops := h.ops.mono hgrows
        store := h.store.mono hgrows
        unloaded := h.unloaded }
  · cases r with
    | ok =>
      intro _
      simp [outcome, SyncQueue.recordPush, PendingOperation.copyWith]
    | lost error =>
      intro hs
      cases hs
    | timedOut error =>
      intro hs
      cases hs

theorem continueDrain_tasks (q : SyncQueue) (snapshot : List PendingOperation) :
    (q.continueDrain snapshot).1.tasks = q.tasks := by
  unfold SyncQueue.continueDrain
  cases nextPush snapshot <;> rfl

theorem continueDrain_stage (q : SyncQueue) (snapshot : List PendingOperation) :
    (∃ l, (q.continueDrain snapshot).2 = .writing (q.continueDrain snapshot).1.writes l) ∨
      ((q.continueDrain snapshot).1.writes = q.writes ∧
        (q.continueDrain snapshot).1.landed = q.landed) := by
  unfold SyncQueue.continueDrain
  cases nextPush snapshot with
  | none => exact .inl ⟨_, rfl⟩
  | some next => exact .inr ⟨rfl, rfl⟩

theorem Safe.drained {i : ℕ} {q₁ : SyncQueue} (snapshot : List PendingOperation) (h : Safe q)
    (hgrows : Grows q q₁) (hcore : CoreOk q₁) (htasks : q₁.tasks = q.tasks)
    (hloaded : q₁.loaded = true) (hwrites : q₁.writes = q.writes) (hlanded : q₁.landed = q.landed)
    (hi : q.tasks[i]? = some t) (hother : ∀ l, t.stage ≠ .writing q.writes l) :
    Safe ((q₁.continueDrain snapshot).1.setTask i .drain (q₁.continueDrain snapshot).2) := by
  have hdrain := CoreOk.continueDrain snapshot hcore hloaded
  refine h.move (hgrows.trans hdrain.2.1) hdrain.1 ?_ hi hdrain.2.2 fun hlate => ?_
  · rw [continueDrain_tasks, htasks]
  · rcases continueDrain_stage q₁ snapshot with hwriting | ⟨hsame, hsame'⟩
    · exact .inl hwriting
    · rw [hsame, hsame', hwrites, hlanded] at hlate
      exact .inr ⟨by rw [hsame, hwrites], hlate, hother⟩

theorem Safe.resume {i : ℕ} {r : Pushed} (h : Safe q) (hturn : InTurn q (.resume i r))
    (hstep : step q (.resume i r) = some q') : Safe q' := by
  unfold step at hstep
  dsimp only at hstep
  split at hstep
  · next call stage hi =>
    have htask := h.task _ (List.mem_of_getElem? hi)
    cases stage with
    | reading => simp [SyncQueue.resume] at hstep
    | answered raw =>
      have hq' : q' = setTask { q with ops := raw, loaded := true } i call
          (if call = .load then .done else .ready) := by
        simpa [SyncQueue.resume] using hstep.symm
      subst hq'
      have hids : ∀ id ∈ ids q.ops, id ∈ ids raw := by
        simpa [InTurn, hi] using hturn
      have hassign := h.assign htask.1 htask.2 hids
      refine h.move hassign.2 hassign.1 rfl hi ?_ fun hlate => ?_
      · split
        · next hload =>
          refine ⟨rfl, fun op hop => ?_⟩
          rw [hload] at hop
          cases hop
        · rfl
      · exact .inr ⟨rfl, hlate, fun l => by simp⟩
    | ready =>
      have hloaded : q.loaded = true := htask
      cases call with
      | load => simp [SyncQueue.resume] at hstep
      | remove id => simp [SyncQueue.resume] at hstep
      | clearSynced => simp [SyncQueue.resume] at hstep
      | enqueue op =>
        have hmid := Safe.added
          { op with syncStatus := .pending, attempts := 0, lastError := none } h hloaded rfl
        have hq' := hstep
        simp only [SyncQueue.resume, Option.map_some, Option.some.injEq] at hq'
        subst hq'
        refine h.move ?_ hmid.core rfl hi (hmid.task fun op' hop => ?_) fun _ => .inl ⟨_, rfl⟩
        · exact
            { grows_persist q with
              kept := fun k hk => List.mem_cons_of_mem _ hk
              fresh := fun k hk => by
                rcases List.mem_cons.mp hk with rfl | hold
                · exact .inr (Nat.lt_succ_self _)
                · exact .inl hold }
        · cases hop
          exact List.mem_cons_self
      | drain =>
        have hcore : CoreOk { q with draining := true } :=
          { h.core with
            unloaded := fun hun => by
              have hun' : q.loaded = false := hun
              rw [hloaded] at hun'
              cases hun' }
        have hgrows : Grows q { q with draining := true } := { Grows.refl q with }
        have hq' := hstep
        simp only [SyncQueue.resume, Option.map_some, Option.some.injEq] at hq'
        subst hq'
        exact h.drained q.ops hgrows hcore rfl hloaded rfl rfl hi fun l => by simp
    | pushing op rest =>
      rcases htask with ⟨hloaded, hcall⟩
      subst hcall
      have hrecord := CoreOk.recordPush op r h.core
      have hcore := hrecord.1.replace hrecord.2.2
      have hgrows := hrecord.2.1.trans (grows_replace (q.recordPush op r) (outcome op r))
      have hq' := hstep
      simp only [SyncQueue.resume, Option.map_some, Option.some.injEq] at hq'
      subst hq'
      exact h.drained rest hgrows hcore rfl hloaded rfl rfl hi fun l => by simp
    | writing n list => simp [SyncQueue.resume] at hstep
    | written =>
      have hq' := hstep
      simp only [SyncQueue.resume, Option.map_some, Option.some.injEq] at hq'
      subst hq'
      have hsame : ∀ q₁ : SyncQueue,
          q₁ = (if call = .drain then { q with draining := false } else q) →
            Safe (q₁.setTask i call .done) := by
        intro q₁ hq₁
        have hcore : CoreOk q₁ ∧ Grows q q₁ ∧ q₁.tasks = q.tasks ∧ q₁.landed = q.landed ∧
            q₁.writes = q.writes := by
          rw [hq₁]
          split
          · exact ⟨{ h.core with unloaded := fun hun => ⟨(h.core.unloaded hun).1, rfl⟩ },
              { Grows.refl q with }, rfl, rfl, rfl⟩
          · exact ⟨h.core, Grows.refl q, rfl, rfl, rfl⟩
        rcases hcore with ⟨hcore, hgrows, htasks, hlanded, hwrites⟩
        refine h.move hgrows hcore htasks hi (TaskOk.mono hgrows htask) fun hlate => ?_
        rw [hlanded, hwrites] at hlate
        exact .inr ⟨hwrites, hlate, fun l => by simp⟩
      exact hsame _ rfl
    | done => simp [SyncQueue.resume] at hstep
  · cases hstep

theorem Safe.step {e : Event} (h : Safe q) (hturn : InTurn q e)
    (hstep : step q e = some q') : Safe q' := by
  cases e with
  | call c => exact h.call hturn hstep
  | answer i => exact h.answer hstep
  | land i => exact h.land hturn hstep
  | resume i r => exact h.resume hturn hstep

theorem safe_opened (store applied : List PendingOperation) : Safe (opened store applied) where
  core :=
    { memory := fun hloaded => by cases hloaded
      disk := fun k hk _ => by
        rcases List.mem_map.mp hk with ⟨id, hid, rfl⟩
        exact .inr hid
      landed := Nat.le_refl 0
      known := fun k hk => by
        rcases List.mem_map.mp hk with ⟨id, -, rfl⟩
        exact Nat.le_refl 0
      ops := fun o ho => by cases ho
      store := fun o ho hs => mem_ids.mpr ⟨o, List.mem_filter.mpr ⟨ho, by simpa using hs⟩, rfl⟩
      unloaded := fun _ => ⟨rfl, rfl⟩ }
  opened := Nat.zero_lt_one
  task t ht := by
    rw [List.mem_singleton.mp ht]
    trivial
  pending hlate := absurd hlate (Nat.lt_irrefl 0)

theorem afterRestart_ops (q : SyncQueue) : ∃ q', afterRestart q = some q' ∧ q'.ops = q.store :=
  ⟨_, rfl, rfl⟩

theorem Safe.durable (h : Safe q) : Durable q where
  quiet hdone k hk := by
    -- the last write has taken effect
    have hlast : q.landed = q.writes := by
      by_contra hne
      have hle := h.core.landed
      rcases h.pending (by omega) with ⟨j, c, l, hj⟩
      have hstage := hdone _ (List.mem_of_getElem? hj)
      cases hstage
    have hle := h.core.known k hk
    have hloaded : q.loaded = true := by
      have hmem := List.getElem_mem h.opened
      have htask := h.task _ hmem
      unfold TaskOk at htask
      rw [hdone _ hmem] at htask
      exact htask.1
    rcases h.core.memory hloaded k hk hle with hgone | hops
    · exact .inl hgone
    · rcases h.core.disk k hk (by omega) with hgone | hstore
      · exact .inl hgone
      · exact .inr ⟨hops, hstore⟩
  restart id haccepted := by
    have hdisk : ∃ m ≤ q.landed, (id, m) ∈ q.history.known := by
      rcases haccepted with hstored | ⟨t, ht, hdone, op, hcall, rfl⟩
      · exact ⟨0, Nat.zero_le _, hstored⟩
      · have htask := h.task t ht
        unfold TaskOk at htask
        rw [hdone] at htask
        exact htask.2 op hcall
    rcases hdisk with ⟨m, hm, hknown⟩
    rcases afterRestart_ops q with ⟨q', hrun, hops⟩
    rcases h.core.disk _ hknown hm with (hremoved | ⟨hsynced, -⟩) | hin
    · exact .inl hremoved
    · exact .inr (.inl hsynced)
    · refine .inr (.inr ⟨q', hrun, ?_⟩)
      rw [hops]
      exact hin

/-- **The queue loses nothing** in a run that does not remove before the list is loaded, take
an operation out of memory by a late answer, or write over a later list. -/
theorem queue_durable (store applied : List PendingOperation) (es : List Event) (q : SyncQueue)
    (hturn : Guarded step InTurn (opened store applied) es)
    (hrun : run step (opened store applied) es = some q) : Durable q :=
  (run_invariant (I := Safe) (fun _ _ _ hsafe hin hstep => hsafe.step hin hstep)
    (safe_opened store applied) hturn hrun).durable

/-! ## The first two calls -/

/-- A task that is started while the phone has no network. -/
def startTask : PendingOperation where
  operationId := "op_1"
  entityId := "task-9"
  operationType := "housekeeping.task.start"
  createdAt := 0
  userId := "u1"
  deviceId := "d1"

/-- The operation is added before the answer to the provider's own `load` comes back. -/
def twoFirstCalls : List Event :=
  [.call (.enqueue startTask), .answer 0, .answer 1, .resume 1, .resume 1, .land 1, .resume 1,
    .resume 0]

/-- The answer to the first `load` replaces a list that has grown since: the operation is no
longer in memory. -/
theorem second_load_loses : ¬∀ (store applied : List PendingOperation) (es : List Event)
    (q : SyncQueue), run step (opened store applied) es = some q → Durable q := by
  intro hlaw
  have hdurable := hlaw [] [] twoFirstCalls _ rfl
  have hquiet := hdurable.quiet (by decide +kernel) ("op_1", 1) (by decide +kernel)
  exact absurd hquiet (by decide +kernel)

/-- The provider's `load` is answered first. -/
theorem load_then_enqueue : ∃ q, run step (opened [] []) [.answer 0, .resume 0,
    .call (.enqueue startTask), .resume 1, .land 1, .resume 1] = some q ∧ Durable q :=
  ⟨_, rfl, queue_durable [] [] [.answer 0, .resume 0, .call (.enqueue startTask), .resume 1,
    .land 1, .resume 1] _ (by decide +kernel) rfl⟩

end Travelo.Offline
