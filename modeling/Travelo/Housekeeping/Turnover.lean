import Travelo.Housekeeping
import Travelo.ReadCommitted.Fragments
import Travelo.ReadCommitted.Guarded

/-!
# Turnover cleans and their redos

A departure raises a clean unless the room has an open task, and a failed inspection raises the
task that redoes the failed one. Both are decided by a look-up, and what is decided is written
without asking again: two departures at once raise two cleans (`turnover_raised_twice`).

A task may be given another note while it is worked on, so what a task was raised for is kept in
a log of the tasks as they were raised. `one_turnover_clean`: while the look-ups still hold when
their calls commit, a room has one open automatic clean at most, and a rejected task one open
redo.
-/

namespace Travelo

open ReadCommitted

namespace HousekeepingService

/-- A call on the tasks of a property. -/
inductive TaskCall where
  /-- A departure from a room. -/
  | turnover (roomId : Id) (actorStaffId : Option Id) (now : ℤ)
  | start (id : Id) (actor : TaskActor) (now : ℤ)
  | complete (id : Id) (dto : CompleteTaskDto) (actor : TaskActor) (now : ℤ)
  | inspect (id : Id) (dto : InspectTaskDto) (actor : TaskActor) (now : ℤ)

def TaskCall.prog (propertyId : Id) : TaskCall → Op Unit
  | .turnover roomId actorStaffId now =>
    transaction (createCheckoutCleanForRoom propertyId roomId actorStaffId now)
  | .start id actor now => do
    let _ ← HousekeepingService.start propertyId id actor now
  | .complete id dto actor now => do
    let _ ← HousekeepingService.complete propertyId id dto actor now
  | .inspect id dto actor now => do
    let _ ← HousekeepingService.inspect propertyId id dto actor now

end HousekeepingService

namespace HousekeepingTask

/-- The task is live and not finished. -/
def isOpen (t : HousekeepingTask) : Bool :=
  t.deletedAt.isNone && OPEN_TASK_STATUSES.contains t.status

/-- The note of a clean raised at a departure. -/
def isTurnover (t : HousekeepingTask) : Bool :=
  t.type = "CHECKOUT_CLEAN" && t.notes = some "Auto-created on guest check-out"

/-- What the note of a redo says before the id. -/
@[irreducible]
def redoPhrase : List Char := "Re-clean after failed inspection of task ".toList

/-- How the note of a redo begins. -/
def redoHead (id : Id) : List Char := redoPhrase ++ Nat.toDigits 10 id

/-- The note names the task `id`, with or without a reason. -/
def redoes (t : HousekeepingTask) (id : Id) : Bool :=
  match t.notes with
  | some note =>
    note.toList == redoHead id || (redoHead id ++ " — ".toList).isPrefixOf note.toList
  | none => false

end HousekeepingTask

/-- The tasks as they were raised. -/
abbrev TaskLog := List HousekeepingTask

/-- The tasks of a state that the one before it had not. -/
def appeared (s s' : HotelDb) : List HousekeepingTask :=
  s'.housekeepingTasks.rows.filter fun t => !s.housekeepingTasks.hasKey t.id

def TaskLog.next (log : TaskLog) (s s' : HotelDb) : TaskLog := log ++ appeared s s'

/-- The open tasks of a room, as the look-up of a departure asks for them. -/
def openTasks (propertyId roomId : Id) (db : HotelDb) : List HousekeepingTask :=
  db.housekeepingTasks.rows.filter fun t =>
    t.propertyId = propertyId && t.roomId = some roomId && t.isOpen

/-- The task was raised as `p` tells. -/
def TaskLog.raisedAs (log : TaskLog) (p : HousekeepingTask → Bool) (t : HousekeepingTask) : Bool :=
  log.any fun r => r.id = t.id && p r

/-- No room of the property has two open automatic cleans. -/
def OneTurnoverClean (propertyId : Id) (log : TaskLog) (db : HotelDb) : Prop :=
  ∀ roomId, ((openTasks propertyId roomId db).filter
    (log.raisedAs HousekeepingTask.isTurnover)).length ≤ 1

/-- The open tasks that redo the task `id`. -/
def openRedos (log : TaskLog) (id : Id) (db : HotelDb) : List HousekeepingTask :=
  db.housekeepingTasks.rows.filter fun t => t.isOpen && log.raisedAs (·.redoes id) t

/-- A task whose inspection failed in the step has one open task that redoes it. -/
def RedoneOnce (s : HotelDb) (log : TaskLog) (s' : HotelDb) : Prop :=
  ∀ t ∈ s'.housekeepingTasks.rows, t.status = .REJECTED →
    ((s.housekeepingTasks.find? t.id).map (·.status) ≠ some .REJECTED ∨
      (appeared s s').any fun r => r.redoes t.id) →
    (openRedos log t.id s').length = 1

namespace HousekeepingService

/-- The states in which a call looked for the open tasks of a room. -/
def lookedUp (roomId : Id) (h : Trace) : List HotelDb :=
  h.filterMap fun
    | .saw (.tasks k) s => if k = roomId then some s else none
    | _ => none

/-- What the call found still holds: a room without an open task has none, a task that is open
is. -/
def StillDue (propertyId : Id) (call : TaskCall) (_ : HotelDb → HotelDb) (h : Trace)
    (now : HotelDb) : Prop :=
  match call with
  | .turnover roomId _ _ => ∀ s ∈ lookedUp roomId h, openTasks propertyId roomId s = [] →
      openTasks propertyId roomId now = []
  | .start id _ _ => (now.housekeepingTasks.find? id).any (·.isOpen) = true
  | .complete id _ _ _ => (now.housekeepingTasks.find? id).any (·.isOpen) = true
  | .inspect id _ _ _ => (now.housekeepingTasks.find? id).any (·.isOpen) = true

instance (propertyId : Id) (call : TaskCall) (w : HotelDb → HotelDb) (h : Trace)
    (now : HotelDb) : Decidable (StillDue propertyId call w h now) := by
  cases call with
  | turnover roomId actorStaffId time =>
    exact inferInstanceAs (Decidable (∀ _ ∈ _, _))
  | start id actor time =>
    exact inferInstanceAs (Decidable (_ = _))
  | complete id dto actor time =>
    exact inferInstanceAs (Decidable (_ = _))
  | inspect id dto actor time =>
    exact inferInstanceAs (Decidable (_ = _))

end HousekeepingService

/-! ## The note of a redo -/

namespace HousekeepingTask

variable {t : HousekeepingTask}

theorem tail_of_redoes {id : Id} (h : t.redoes id = true) :
    ∃ note tail, t.notes = some note ∧ note.toList = redoHead id ++ tail ∧
      tail.takeWhile Char.isDigit = [] := by
  unfold redoes at h
  cases hnote : t.notes with
  | none => simp [hnote] at h
  | some note =>
    rw [hnote] at h
    rcases (Bool.or_eq_true _ _).mp h with hall | hreason
    · refine ⟨note, [], rfl, ?_, rfl⟩
      rw [List.append_nil]
      exact eq_of_beq hall
    · rcases List.isPrefixOf_iff_prefix.mp hreason with ⟨rest, hrest⟩
      refine ⟨note, " — ".toList ++ rest, rfl, ?_, rfl⟩
      rw [← hrest, List.append_assoc]

theorem redoes_inj {id id' : Id} (h : t.redoes id = true) (h' : t.redoes id' = true) :
    id = id' := by
  rcases tail_of_redoes h with ⟨note, tail, hnote, heq, hend⟩
  rcases tail_of_redoes h' with ⟨note', tail', hnote', heq', hend'⟩
  have hsame : note = note' := Option.some.inj (hnote.symm.trans hnote')
  have hdigits : Nat.toDigits 10 id ++ tail = Nat.toDigits 10 id' ++ tail' := by
    have hchars := heq.symm.trans ((congrArg String.toList hsame).trans heq')
    simpa only [redoHead, List.append_assoc, List.append_cancel_left_eq] using hchars
  -- the digits of the number end where the note goes on
  have htake : ∀ n rest, rest.takeWhile Char.isDigit = [] →
      (Nat.toDigits 10 n ++ rest).takeWhile Char.isDigit = Nat.toDigits 10 n := by
    intro n rest hrest
    rw [List.takeWhile_append_of_pos, hrest, List.append_nil]
    exact fun c hc => Nat.isDigit_of_mem_toDigits (by decide) (by decide) hc
  have hnumber : Nat.toDigits 10 id = Nat.toDigits 10 id' := by
    rw [← htake id tail hend, hdigits, htake id' tail' hend']
  rw [← @Nat.ofDigitChars_ten_toDigits id, hnumber, Nat.ofDigitChars_ten_toDigits]

theorem not_redoes_of_isTurnover (h : t.isTurnover = true) (id : Id) :
    t.redoes id = false := by
  have hnote : t.notes = some "Auto-created on guest check-out" := by
    simp only [isTurnover, and_decide_eq] at h
    exact h.2
  by_contra hredoes
  rcases tail_of_redoes (Bool.of_not_eq_false hredoes) with ⟨note, tail, hnote', heq, -⟩
  have hchars : "Auto-created on guest check-out".toList =
      redoPhrase ++ (Nat.toDigits 10 id ++ tail) := by
    rw [← List.append_assoc, ← redoHead, ← heq]
    exact congrArg String.toList (Option.some.inj (hnote.symm.trans hnote'))
  have hfirst : ("Auto-created on guest check-out".toList).take 1 = redoPhrase.take 1 := by
    rw [hchars]
    unfold redoPhrase
    rfl
  unfold redoPhrase at hfirst
  exact absurd hfirst (by decide)

end HousekeepingTask

theorem redoTask_redoes (propertyId : Id) (before : HousekeepingTask) (dto : InspectTaskDto)
    (actor : TaskActor) (now : ℤ) (id : Id) :
    (HousekeepingService.redoTask propertyId before dto actor now id).redoes before.id = true := by
  have hchars : ("Re-clean after failed inspection of task " ++ toString before.id).toList =
      HousekeepingTask.redoHead before.id := by
    rw [String.toList_append, HousekeepingTask.redoHead, HousekeepingTask.redoPhrase]
    exact congrArg _ Nat.toList_repr
  unfold HousekeepingTask.redoes HousekeepingService.redoTask
  cases hreason : dto.notes.filter (· ≠ "") with
  | none =>
    refine (Bool.or_eq_true _ _).mpr (.inl ?_)
    rw [beq_iff_eq, Option.elim_none, String.append_empty]
    exact hchars
  | some reason =>
    refine (Bool.or_eq_true _ _).mpr (.inr ?_)
    rw [List.isPrefixOf_iff_prefix, Option.elim_some, String.toList_append, hchars,
      String.toList_append, ← List.append_assoc]
    exact List.prefix_append _ _

/-! ## What a step does to the tasks -/

/-- The row of a task keeps its id and its place. -/
structure InPlace (f : HousekeepingTask → HousekeepingTask) : Prop where
  id : ∀ t, (f t).id = t.id
  place : ∀ t, (f t).propertyId = t.propertyId ∧ (f t).roomId = t.roomId

/-- Nothing, an open task moved on, a clean for a room without an open task, or an open task
rejected with the task that redoes it. -/
inductive TaskChange (propertyId : Id) (s s' : HotelDb) : Prop where
  | same (h : s'.housekeepingTasks = s.housekeepingTasks)
  | moved {id : Id} {f : HousekeepingTask → HousekeepingTask} (hf : InPlace f)
      (hopen : ∀ t ∈ s.housekeepingTasks, t.id = id → t.isOpen = true)
      (hnot : ∀ t, (f t).status ≠ .REJECTED)
      (h : s'.housekeepingTasks = s.housekeepingTasks.update (fun t => t.id = id) f hf.id)
  | raised {row : HousekeepingTask} {roomId : Id}
      (hfresh : s.housekeepingTasks.hasKey row.id = false) (hturn : row.isTurnover = true)
      (hopen : row.isOpen = true) (hroom : row.roomId = some roomId)
      (hnone : openTasks propertyId roomId s = [])
      (h : s'.housekeepingTasks = s.housekeepingTasks.insert row)
  | redone {t row : HousekeepingTask} {f : HousekeepingTask → HousekeepingTask} (hf : InPlace f)
      (ht : t ∈ s.housekeepingTasks) (htopen : t.isOpen = true)
      (hrejected : (f t).status = .REJECTED)
      (hfresh : s.housekeepingTasks.hasKey row.id = false) (hopen : row.isOpen = true)
      (hredoes : row.redoes t.id = true)
      (h : s'.housekeepingTasks =
        (s.housekeepingTasks.update (fun u => u.id = t.id) f hf.id).insert row)

/-- The log knows tasks of the state, and the tasks it knows to be redone are closed. -/
structure LogFits (propertyId : Id) (log : TaskLog) (db : HotelDb) : Prop where
  known : ∀ r ∈ log, db.housekeepingTasks.hasKey r.id = true
  once : OneTurnoverClean propertyId log db
  closed : ∀ r ∈ log, ∀ id, r.redoes id = true →
    ∃ t ∈ db.housekeepingTasks, t.id = id ∧ t.isOpen = false

section Steps

variable {propertyId : Id} {log : TaskLog} {s s' : HotelDb}

theorem not_rejected_of_isOpen {t : HousekeepingTask} (h : t.isOpen = true) :
    t.status ≠ .REJECTED := by
  intro hs
  simp [HousekeepingTask.isOpen, hs, OPEN_TASK_STATUSES] at h

/-- The task is an open automatic clean of the room. -/
def TaskLog.counts (log : TaskLog) (propertyId roomId : Id) (t : HousekeepingTask) : Bool :=
  log.raisedAs HousekeepingTask.isTurnover t &&
    (t.propertyId = propertyId && t.roomId = some roomId && t.isOpen)

theorem oneTurnoverClean_iff : OneTurnoverClean propertyId log s ↔
    ∀ roomId, ∀ a ∈ s.housekeepingTasks, ∀ b ∈ s.housekeepingTasks,
      log.counts propertyId roomId a = true → log.counts propertyId roomId b = true → a = b := by
  unfold OneTurnoverClean openTasks
  simp only [List.filter_filter]
  exact forall_congr' fun roomId => length_filter_le_one

theorem raisedAs_append {p : HousekeepingTask → Bool} {t : HousekeepingTask} {log' : TaskLog} :
    TaskLog.raisedAs (log ++ log') p t = (log.raisedAs p t || TaskLog.raisedAs log' p t) :=
  List.any_append

variable {row : HousekeepingTask}

theorem raisedAs_of_fresh (hknown : ∀ r ∈ log, s.housekeepingTasks.hasKey r.id = true)
    (hfresh : s.housekeepingTasks.hasKey row.id = false) (p : HousekeepingTask → Bool) :
    log.raisedAs p row = false := by
  rw [TaskLog.raisedAs, List.any_eq_false]
  intro r hr
  have hne : r.id ≠ row.id := by
    intro heq
    have := hknown r hr
    rw [heq, hfresh] at this
    cases this
  simp [hne]

theorem appeared_eq_nil (h : ∀ t ∈ s'.housekeepingTasks, s.housekeepingTasks.hasKey t.id = true) :
    appeared s s' = [] :=
  List.filter_eq_nil_iff.mpr fun t ht => by simp [h t ht]

theorem appeared_insert {t : Table HousekeepingTask.id}
    (hkeys : ∀ u ∈ t, s.housekeepingTasks.hasKey u.id = true)
    (hfresh : s.housekeepingTasks.hasKey row.id = false) (hrow : t.hasKey row.id = false)
    (h : s'.housekeepingTasks = t.insert row) : appeared s s' = [row] := by
  rw [appeared, h, rows_insert hrow, List.filter_append]
  have hold : t.rows.filter (fun u => !s.housekeepingTasks.hasKey u.id) = [] :=
    List.filter_eq_nil_iff.mpr fun u hu => by simp [hkeys u hu]
  rw [hold]
  simp [hfresh]

section Moved

variable {id : Id} {f : HousekeepingTask → HousekeepingTask} (hf : InPlace f)

theorem mem_moved {b : HousekeepingTask} :
    b ∈ s.housekeepingTasks.update (fun t => t.id = id) f hf.id ↔
      ∃ a ∈ s.housekeepingTasks, b = if a.id = id then f a else a := by
  simp only [mem_update, decide_eq_true_eq]

theorem hasKey_of_mem_moved {b : HousekeepingTask}
    (hb : b ∈ s.housekeepingTasks.update (fun t => t.id = id) f hf.id) :
    s.housekeepingTasks.hasKey b.id = true := by
  rcases (mem_moved hf).mp hb with ⟨a, ha, rfl⟩
  refine Table.hasKey_iff.mpr ⟨a, ha, ?_⟩
  split
  · exact (hf.id a).symm
  · rfl

theorem hasKey_moved (k : Id) :
    (s.housekeepingTasks.update (fun t => t.id = id) f hf.id).hasKey k =
      s.housekeepingTasks.hasKey k := by
  rw [Bool.eq_iff_iff, hasKey_iff]
  constructor
  · rintro ⟨b, hb, rfl⟩
    exact hasKey_of_mem_moved hf hb
  · intro hk
    rcases Table.hasKey_iff.mp hk with ⟨a, ha, hid⟩
    refine ⟨_, (mem_moved hf).mpr ⟨a, ha, rfl⟩, ?_⟩
    split
    · exact (hf.id a).trans hid
    · exact hid

include hf in
theorem counts_moved (hopen : ∀ t ∈ s.housekeepingTasks, t.id = id → t.isOpen = true)
    {a : HousekeepingTask} (ha : a ∈ s.housekeepingTasks) {roomId : Id}
    (h : log.counts propertyId roomId (if a.id = id then f a else a) = true) :
    log.counts propertyId roomId a = true := by
  by_cases hid : a.id = id
  · rw [if_pos hid] at h
    simp only [TaskLog.counts, TaskLog.raisedAs, hf.id, (hf.place a).1, (hf.place a).2,
      Bool.and_eq_true] at h ⊢
    exact ⟨h.1, h.2.1, hopen a ha hid⟩
  · rwa [if_neg hid] at h

theorem closed_moved (hopen : ∀ t ∈ s.housekeepingTasks, t.id = id → t.isOpen = true) {k : Id}
    (h : ∃ t ∈ s.housekeepingTasks, t.id = k ∧ t.isOpen = false) :
    ∃ t ∈ s.housekeepingTasks.update (fun t => t.id = id) f hf.id,
      t.id = k ∧ t.isOpen = false := by
  rcases h with ⟨t, ht, hk, hclosed⟩
  refine ⟨t, (mem_moved hf).mpr ⟨t, ht, ?_⟩, hk, hclosed⟩
  rw [if_neg]
  intro hid
  rw [hopen t ht hid] at hclosed
  cases hclosed

end Moved

theorem LogFits.next_same (hfit : LogFits propertyId log s)
    (h : s'.housekeepingTasks = s.housekeepingTasks) :
    LogFits propertyId (log.next s s') s' ∧ RedoneOnce s (log.next s s') s' := by
  have happeared : appeared s s' = [] :=
    appeared_eq_nil fun t ht => Table.hasKey_iff.mpr ⟨t, by rwa [h] at ht, rfl⟩
  rw [TaskLog.next, happeared, List.append_nil]
  refine ⟨⟨?_, ?_, ?_⟩, fun t ht hs hnew => ?_⟩
  · rw [h]
    exact hfit.known
  · unfold OneTurnoverClean openTasks
    rw [h]
    exact hfit.once
  · rw [h]
    exact hfit.closed
  · rw [h] at ht
    rw [happeared, find?_key ht] at hnew
    simp [hs] at hnew

theorem LogFits.next_moved (hfit : LogFits propertyId log s) {id : Id}
    {f : HousekeepingTask → HousekeepingTask} (hf : InPlace f)
    (hopen : ∀ t ∈ s.housekeepingTasks, t.id = id → t.isOpen = true)
    (hnot : ∀ t, (f t).status ≠ .REJECTED)
    (h : s'.housekeepingTasks = s.housekeepingTasks.update (fun t => t.id = id) f hf.id) :
    LogFits propertyId (log.next s s') s' ∧ RedoneOnce s (log.next s s') s' := by
  have happeared : appeared s s' = [] :=
    appeared_eq_nil fun t ht => hasKey_of_mem_moved hf (by rwa [h] at ht)
  rw [TaskLog.next, happeared, List.append_nil]
  refine ⟨⟨fun r hr => ?_, ?_, fun r hr k hk => ?_⟩, fun t ht hs hnew => ?_⟩
  · rcases Table.hasKey_iff.mp (hfit.known r hr) with ⟨a, ha, hid⟩
    rw [h]
    refine Table.hasKey_iff.mpr ⟨_, (mem_moved hf).mpr ⟨a, ha, rfl⟩, ?_⟩
    split
    · exact (hf.id a).trans hid
    · exact hid
  · rw [oneTurnoverClean_iff]
    intro roomId a ha b hb hca hcb
    rw [h] at ha hb
    rcases (mem_moved hf).mp ha with ⟨a', ha', rfl⟩
    rcases (mem_moved hf).mp hb with ⟨b', hb', rfl⟩
    have heq := oneTurnoverClean_iff.mp hfit.once roomId a' ha' b' hb'
      (counts_moved hf hopen ha' hca) (counts_moved hf hopen hb' hcb)
    rw [heq]
  · rw [h]
    exact closed_moved hf hopen (hfit.closed r hr k hk)
  · -- no task is rejected here that was not before
    rw [h] at ht
    rcases (mem_moved hf).mp ht with ⟨a, ha, rfl⟩
    by_cases hid : a.id = id
    · rw [if_pos hid] at hs
      exact absurd hs (hnot a)
    · rw [if_neg hid] at hs hnew
      rw [happeared, find?_key ha] at hnew
      simp [hs] at hnew

theorem LogFits.next_raised (hfit : LogFits propertyId log s) {roomId : Id}
    (hfresh : s.housekeepingTasks.hasKey row.id = false) (hturn : row.isTurnover = true)
    (hopen : row.isOpen = true) (hroom : row.roomId = some roomId)
    (hnone : openTasks propertyId roomId s = [])
    (h : s'.housekeepingTasks = s.housekeepingTasks.insert row) :
    LogFits propertyId (log.next s s') s' ∧ RedoneOnce s (log.next s s') s' := by
  have happeared : appeared s s' = [row] :=
    appeared_insert (fun u hu => Table.hasKey_iff.mpr ⟨u, hu, rfl⟩) hfresh hfresh h
  have hmem : ∀ u, u ∈ s'.housekeepingTasks ↔ u ∈ s.housekeepingTasks ∨ u = row := by
    intro u
    rw [h, mem_insert hfresh]
  have hnoredo : ∀ k, row.redoes k = false := HousekeepingTask.not_redoes_of_isTurnover hturn
  rw [TaskLog.next, happeared]
  refine ⟨⟨fun r hr => ?_, ?_, fun r hr k hk => ?_⟩, fun t ht hs hnew => ?_⟩
  · rcases List.mem_append.mp hr with hr | hr
    · rcases Table.hasKey_iff.mp (hfit.known r hr) with ⟨a, ha, hid⟩
      exact Table.hasKey_iff.mpr ⟨a, (hmem a).mpr (.inl ha), hid⟩
    · exact Table.hasKey_iff.mpr ⟨row, (hmem row).mpr (.inr rfl), by rw [List.mem_singleton.mp hr]⟩
  · rw [oneTurnoverClean_iff]
    -- an old task counts if it did before, and not in the room of the new one
    have hold : ∀ k, ∀ a ∈ s.housekeepingTasks,
        TaskLog.counts (log ++ [row]) propertyId k a = true →
        log.counts propertyId k a = true ∧ k ≠ roomId := by
      intro k a ha hc
      have hne : row.id ≠ a.id := fun heq => Table.hasKey_eq_false.mp hfresh a ha heq.symm
      simp only [TaskLog.counts, raisedAs_append, Bool.and_eq_true] at hc
      refine ⟨?_, fun hk => ?_⟩
      · simp only [TaskLog.counts, Bool.and_eq_true]
        refine ⟨?_, hc.2⟩
        simpa [TaskLog.raisedAs, hne] using hc.1
      · have hin : a ∈ openTasks propertyId roomId s := by
          refine List.mem_filter.mpr ⟨ha, ?_⟩
          rw [← hk]
          simpa [and_assoc] using hc.2
        rw [hnone] at hin
        cases hin
    have hrow : ∀ k, TaskLog.counts (log ++ [row]) propertyId k row = true → k = roomId := by
      intro k hc
      simp only [TaskLog.counts, hroom, and_decide_eq] at hc
      exact (Option.some.inj hc.2.1.2).symm
    intro k a ha b hb hca hcb
    rcases (hmem a).mp ha with ha | rfl
    · rcases (hmem b).mp hb with hb | rfl
      · exact oneTurnoverClean_iff.mp hfit.once k a ha b hb (hold k a ha hca).1 (hold k b hb hcb).1
      · exact absurd (hrow k hcb) (hold k a ha hca).2
    · rcases (hmem b).mp hb with hb | rfl
      · exact absurd (hrow k hca) (hold k b hb hcb).2
      · rfl
  · rcases List.mem_append.mp hr with hr | hr
    · rcases hfit.closed r hr k hk with ⟨t, ht, hid, hclosed⟩
      exact ⟨t, (hmem t).mpr (.inl ht), hid, hclosed⟩
    · rw [List.mem_singleton.mp hr, hnoredo] at hk
      cases hk
  · -- no task is rejected here
    rcases (hmem t).mp ht with ht | rfl
    · rw [happeared, find?_key ht] at hnew
      simp [hs, hnoredo] at hnew
    · exact absurd hs (not_rejected_of_isOpen hopen)

theorem LogFits.next_redone (hfit : LogFits propertyId log s) {t row : HousekeepingTask}
    {f : HousekeepingTask → HousekeepingTask} (hf : InPlace f) (ht : t ∈ s.housekeepingTasks)
    (htopen : t.isOpen = true) (hrejected : (f t).status = .REJECTED)
    (hfresh : s.housekeepingTasks.hasKey row.id = false) (hopen : row.isOpen = true)
    (hredoes : row.redoes t.id = true)
    (h : s'.housekeepingTasks =
      (s.housekeepingTasks.update (fun u => u.id = t.id) f hf.id).insert row) :
    LogFits propertyId (log.next s s') s' ∧ RedoneOnce s (log.next s s') s' := by
  have honly : ∀ u ∈ s.housekeepingTasks, u.id = t.id → u.isOpen = true := by
    intro u hu hid
    rw [eq_of_key_eq hu ht hid]
    exact htopen
  have hfresh' : (s.housekeepingTasks.update (fun u => u.id = t.id) f hf.id).hasKey row.id =
      false := by
    rw [hasKey_eq_false]
    intro u hu heq
    have := hasKey_of_mem_moved hf hu
    rw [heq, hfresh] at this
    cases this
  have happeared : appeared s s' = [row] :=
    appeared_insert (fun u hu => hasKey_of_mem_moved hf hu) hfresh hfresh' h
  have hmem : ∀ u, u ∈ s'.housekeepingTasks ↔
      (∃ a ∈ s.housekeepingTasks, u = if a.id = t.id then f a else a) ∨ u = row := by
    intro u
    rw [h, mem_insert hfresh', mem_moved hf]
  have hnot : row.isTurnover = false := by
    by_contra hturn
    have := HousekeepingTask.not_redoes_of_isTurnover (Bool.of_not_eq_false hturn) t.id
    rw [hredoes] at this
    cases this
  have hclosed : (f t).isOpen = false := by
    simp [HousekeepingTask.isOpen, hrejected, OPEN_TASK_STATUSES]
  rw [TaskLog.next, happeared]
  refine ⟨⟨fun r hr => ?_, ?_, fun r hr k hk => ?_⟩, fun u hu hs hnew => ?_⟩
  · rcases List.mem_append.mp hr with hr | hr
    · rcases Table.hasKey_iff.mp (hfit.known r hr) with ⟨a, ha, hid⟩
      refine Table.hasKey_iff.mpr ⟨_, (hmem _).mpr (.inl ⟨a, ha, rfl⟩), ?_⟩
      split
      · exact (hf.id a).trans hid
      · exact hid
    · exact Table.hasKey_iff.mpr ⟨row, (hmem row).mpr (.inr rfl), by rw [List.mem_singleton.mp hr]⟩
  · have hcounts : ∀ k u, TaskLog.counts (log ++ [row]) propertyId k u =
        log.counts propertyId k u := by
      intro k u
      simp [TaskLog.counts, TaskLog.raisedAs, hnot]
    have hrow : ∀ k, log.counts propertyId k row = false := by
      intro k
      rw [TaskLog.counts, raisedAs_of_fresh hfit.known hfresh, Bool.false_and]
    rw [oneTurnoverClean_iff]
    intro k a ha b hb hca hcb
    rw [hcounts] at hca hcb
    rcases (hmem a).mp ha with ⟨a', ha', rfl⟩ | rfl
    · rcases (hmem b).mp hb with ⟨b', hb', rfl⟩ | rfl
      · have heq := oneTurnoverClean_iff.mp hfit.once k a' ha' b' hb'
          (counts_moved hf honly ha' hca) (counts_moved hf honly hb' hcb)
        rw [heq]
      · rw [hrow] at hcb
        cases hcb
    · rw [hrow] at hca
      cases hca
  · rcases List.mem_append.mp hr with hr | hr
    · rcases closed_moved hf honly (hfit.closed r hr k hk) with ⟨u, hu, hid, hshut⟩
      exact ⟨u, (hmem u).mpr (.inl ((mem_moved hf).mp hu)), hid, hshut⟩
    · rw [List.mem_singleton.mp hr] at hk
      refine ⟨f t, (hmem _).mpr (.inl ⟨t, ht, by rw [if_pos rfl]⟩), ?_, hclosed⟩
      rw [hf.id]
      exact HousekeepingTask.redoes_inj hredoes hk
  · rcases (hmem u).mp hu with ⟨a, ha, rfl⟩ | rfl
    · by_cases hid : a.id = t.id
      · -- the rejected task: its redo is the new row
        rw [if_pos hid, hf.id, hid]
        have hnone : ∀ r ∈ log, r.redoes t.id = false := by
          intro r hr
          by_contra hk
          rcases hfit.closed r hr t.id (Bool.of_not_eq_false hk) with ⟨u, hu, huid, hshut⟩
          rw [honly u hu huid] at hshut
          cases hshut
        have hraised : ∀ u, TaskLog.raisedAs (log ++ [row]) (·.redoes t.id) u =
            decide (row.id = u.id) := by
          intro u
          have hlog : log.raisedAs (·.redoes t.id) u = false := by
            rw [TaskLog.raisedAs, List.any_eq_false]
            intro r hr
            simp [hnone r hr]
          rw [raisedAs_append, hlog]
          simp [TaskLog.raisedAs, hredoes]
        have hmembers : ∀ u ∈ s'.housekeepingTasks, row.id = u.id → u = row :=
          fun u hu heq => eq_of_key_eq hu ((hmem row).mpr (.inr rfl)) heq.symm
        refine le_antisymm (Table.length_filter_le_one.mpr fun a ha b hb hpa hpb => ?_) ?_
        · simp only [hraised, and_decide_eq] at hpa hpb
          rw [hmembers a ha hpa.2, hmembers b hb hpb.2]
        · have hin : row ∈ openRedos (log ++ [row]) t.id s' :=
            List.mem_filter.mpr ⟨(hmem row).mpr (.inr rfl), by simp [hopen, hraised]⟩
          exact List.length_pos_of_mem hin
      · rw [if_neg hid] at hs hnew
        have hother : row.redoes a.id = false := by
          by_contra hk
          exact hid (HousekeepingTask.redoes_inj (Bool.of_not_eq_false hk) hredoes)
        rw [happeared, find?_key ha] at hnew
        simp [hs, hother] at hnew
    · exact absurd hs (not_rejected_of_isOpen hopen)

theorem LogFits.next (hfit : LogFits propertyId log s) (h : TaskChange propertyId s s') :
    LogFits propertyId (log.next s s') s' ∧ RedoneOnce s (log.next s s') s' := by
  cases h with
  | same h => exact hfit.next_same h
  | moved hf hopen hnot h => exact hfit.next_moved hf hopen hnot h
  | raised hfresh hturn hopen hroom hnone h =>
    exact hfit.next_raised hfresh hturn hopen hroom hnone h
  | redone hf ht htopen hrejected hfresh hopen hredoes h =>
    exact hfit.next_redone hf ht htopen hrejected hfresh hopen hredoes h

end Steps

/-! ## What a call publishes -/

namespace HousekeepingService

/-- The task a call works on. -/
def TaskCall.task? : TaskCall → Option Id
  | .turnover _ _ _ => none
  | .start id _ _ => some id
  | .complete id _ _ _ => some id
  | .inspect id _ _ _ => some id

/-- Nothing of the tasks, an update of the task of the call, a clean for a room that had no open
task, or a rejection with its redo. -/
inductive TaskWrite (propertyId : Id) (call : TaskCall) (h : Trace) (w : HotelDb → HotelDb) :
    Prop where
  | same (hw : ∀ s : HotelDb, (w s).housekeepingTasks = s.housekeepingTasks)
  | moved {id : Id} {f : HousekeepingTask → HousekeepingTask} (hf : InPlace f)
      (hid : call.task? = some id) (hnot : ∀ t, (f t).status ≠ .REJECTED)
      (hw : ∀ s : HotelDb, (w s).housekeepingTasks =
        s.housekeepingTasks.update (fun t => t.id = id) f hf.id)
  | raised {roomId : Id} {b : HotelDb} {row : HotelDb → HousekeepingTask}
      (hcall : ∃ actorStaffId now, call = .turnover roomId actorStaffId now)
      (hsaw : .saw (.tasks roomId) b ∈ h) (hnone : openTasks propertyId roomId b = [])
      (hfresh : ∀ s : HotelDb, s.housekeepingTasks.hasKey (row s).id = false)
      (hrow : ∀ s, (row s).isTurnover = true ∧ (row s).isOpen = true ∧
        (row s).roomId = some roomId)
      (hw : ∀ s : HotelDb, (w s).housekeepingTasks = s.housekeepingTasks.insert (row s))
  | redone {id : Id} {f : HousekeepingTask → HousekeepingTask} {row : HotelDb → HousekeepingTask}
      (hf : InPlace f) (hid : call.task? = some id) (hrejected : ∀ t, (f t).status = .REJECTED)
      (hfresh : ∀ s : HotelDb, s.housekeepingTasks.hasKey (row s).id = false)
      (hrow : ∀ s, (row s).isOpen = true ∧ (row s).redoes id = true)
      (hw : ∀ s : HotelDb, (w s).housekeepingTasks =
        (s.housekeepingTasks.update (fun t => t.id = id) f hf.id).insert (row s))

theorem mem_lookedUp {roomId : Id} {h : Trace} {b : HotelDb} :
    b ∈ lookedUp roomId h ↔ .saw (.tasks roomId) b ∈ h := by
  simp only [lookedUp, List.mem_filterMap]
  constructor
  · rintro ⟨o, ho, heq⟩
    split at heq
    · rcases Option.ite_none_right_eq_some.mp heq with ⟨rfl, hstate⟩
      exact Option.some.inj hstate ▸ ho
    · cases heq
  · exact fun hsaw => ⟨_, hsaw, by simp⟩

theorem TaskWrite.change {propertyId : Id} {call : TaskCall} {h : Trace} {w : HotelDb → HotelDb}
    {now : HotelDb} (hw : TaskWrite propertyId call h w) (hdue : StillDue propertyId call w h now) :
    TaskChange propertyId now (w now) := by
  -- the task of the call is there, and open
  have htask : ∀ id, call.task? = some id →
      ∃ t ∈ now.housekeepingTasks, t.id = id ∧ t.isOpen = true := by
    intro id hid
    have hany : (now.housekeepingTasks.find? id).any (·.isOpen) = true := by
      cases call with
      | turnover roomId actorStaffId time => cases hid
      | start k actor time => exact Option.some.inj hid ▸ hdue
      | complete k dto actor time => exact Option.some.inj hid ▸ hdue
      | inspect k dto actor time => exact Option.some.inj hid ▸ hdue
    rcases (Option.any_eq_true _ _).mp hany with ⟨t, hfound, hopen⟩
    rcases Table.find?_eq_some.mp hfound with ⟨ht, htid⟩
    exact ⟨t, ht, htid, hopen⟩
  cases hw with
  | same hw => exact .same (hw now)
  | moved hf hid hnot hw =>
    rcases htask _ hid with ⟨t, ht, rfl, hopen⟩
    refine .moved hf (fun u hu hsame => ?_) hnot (hw now)
    rw [eq_of_key_eq hu ht hsame]
    exact hopen
  | @raised roomId b row hcall hsaw hnone hfresh hrow hw =>
    rcases hcall with ⟨actorStaffId, time, rfl⟩
    exact .raised (hfresh now) (hrow now).1 (hrow now).2.1 (hrow now).2.2
      (hdue b (mem_lookedUp.mpr hsaw) hnone) (hw now)
  | redone hf hid hrejected hfresh hrow hw =>
    rcases htask _ hid with ⟨t, ht, rfl, hopen⟩
    exact .redone hf ht hopen (hrejected t) (hfresh now) (hrow now).1 (hrow now).2 (hw now)

theorem room_located (roomId : Id) : (some roomId).isSome ≠ (none : Option String).isSome := by
  simp

/-- The clean a departure raises. -/
def turnoverTask (propertyId roomId : Id) (actorStaffId : Option Id) (now : ℤ) (id : Id) :
    HousekeepingTask where
  id
  propertyId
  roomId := some roomId
  located := room_located roomId
  type := "CHECKOUT_CLEAN"
  status := .PENDING
  priority := "NORMAL"
  notes := some "Auto-created on guest check-out"
  createdBy := actorStaffId
  createdAt := now
  updatedAt := now

section Calls

variable {propertyId : Id} {call : TaskCall} {h : Trace}

theorem hydrate_readOnly (row : Option HousekeepingTask) : (hydrate row).ReadOnly := by
  refine .bind (.orThrow _ _) fun t => .bind ?_ fun _ => .pure _
  cases t.roomId with
  | none => exact .pure _
  | some roomId => exact .select _ _

variable {now : ℤ}

theorem publishes_turnover {roomId : Id} {actorStaffId : Option Id} :
    (transaction (createCheckoutCleanForRoom propertyId roomId actorStaffId now)).Publishes
      (TaskWrite propertyId (.turnover roomId actorStaffId now)) h := by
  refine .transaction ?_
  simp only [createCheckoutCleanForRoom, wp_simps, wp_when]
  intro db
  constructor
  · rintro hlength - w hw
    cases hw
    have hnone : openTasks propertyId roomId db = [] := by
      have hnil := List.eq_nil_of_length_eq_zero hlength
      rw [List.take_eq_nil_iff] at hnil
      unfold openTasks HousekeepingTask.isOpen
      simpa only [Bool.and_assoc, Nat.one_ne_zero, false_or, id_eq] using hnil
    refine @TaskWrite.raised _ _ _ _ roomId db
      (fun s => turnoverTask propertyId roomId actorStaffId now
        (freshId (s.housekeepingTasks.rows.map (·.id))))
      ⟨actorStaffId, now, rfl⟩ List.mem_cons_self hnone (fun s => ?_) (fun s => ⟨?_, ?_, rfl⟩)
      fun _ => rfl
    · exact hasKey_freshId s.housekeepingTasks
    · simp [HousekeepingTask.isTurnover, turnoverTask]
    · simp [HousekeepingTask.isOpen, turnoverTask, OPEN_TASK_STATUSES]
  · rintro - w hw
    cases hw
    exact .same fun _ => rfl

theorem publishes_move {id : Id} {f : HousekeepingTask → HousekeepingTask} (hf : InPlace f)
    {roomId : Option Id} {status : RoomStatus} (hid : call.task? = some id)
    (hnot : ∀ t, (f t).status ≠ .REJECTED) :
    (transaction do
      let updated ← updateTask id f hf.id
      forSome roomId fun roomId => HousekeepingService.setRoomStatus roomId status now
      return updated).Publishes (TaskWrite propertyId call) h := by
  refine .transaction ?_
  simp only [updateTask, HousekeepingService.setRoomStatus, wp_simps, wp_forSome]
  intro _
  constructor
  · rintro roomId - - w hw
    cases hw
    exact .moved hf hid hnot fun _ => rfl
  · rintro - w hw
    cases hw
    exact .moved hf hid hnot fun _ => rfl

theorem requireTask_readOnly (id : Id) : (requireTask propertyId id).ReadOnly :=
  .bind (.select _ _) fun _ => .orThrow _ _

variable {actor : TaskActor}

theorem publishes_start {id : Id} :
    (HousekeepingService.start propertyId id actor now).Publishes
      (TaskWrite propertyId (.start id actor now)) h := by
  refine .after (requireTask_readOnly id) fun before h => ?_
  refine .after (.lift _) fun _ h => .after (.lift _) fun _ h => ?_
  refine .bind (publishes_move ?_ rfl ?_) fun row h => ?_
  · exact ⟨fun _ => rfl, fun _ => ⟨rfl, rfl⟩⟩
  · simp
  · exact .after (hydrate_readOnly row) fun _ _ => .of_readOnly (.pure _)

theorem publishes_complete {id : Id} {dto : CompleteTaskDto} :
    (HousekeepingService.complete propertyId id dto actor now).Publishes
      (TaskWrite propertyId (.complete id dto actor now)) h := by
  refine .after (requireTask_readOnly id) fun before h => ?_
  refine .after (.lift _) fun _ h => .after (.lift _) fun _ h => ?_
  refine .bind (publishes_move ?_ rfl ?_) fun row h => ?_
  · exact ⟨fun _ => rfl, fun _ => ⟨rfl, rfl⟩⟩
  · simp
  · exact .after (hydrate_readOnly row) fun _ _ => .of_readOnly (.pure _)

/-- The row after an inspection. -/
def inspected (dto : InspectTaskDto) (before : HousekeepingTask) (now : ℤ) (t : HousekeepingTask) :
    HousekeepingTask :=
  { t with
    status := if dto.pass then .INSPECTED else .REJECTED, inspectedAt := some now,
    notes := dto.notes.or before.notes, updatedAt := now }

theorem inspected_inPlace (dto : InspectTaskDto) (before : HousekeepingTask) (now : ℤ) :
    InPlace (inspected dto before now) :=
  ⟨fun _ => rfl, fun _ => ⟨rfl, rfl⟩⟩

theorem publishes_inspect {id : Id} {dto : InspectTaskDto} :
    (HousekeepingService.inspect propertyId id dto actor now).Publishes
      (TaskWrite propertyId (.inspect id dto actor now)) h := by
  -- the task that was read is the one that is named
  have hread : ∀ {k : HousekeepingTask → Op (HousekeepingTask × TaskDto × Option TaskDto)},
      (∀ before h, before.id = id → (k before).Publishes
        (TaskWrite propertyId (.inspect id dto actor now)) h) →
      (requireTask propertyId id >>= k).Publishes
        (TaskWrite propertyId (.inspect id dto actor now)) h := by
    intro k hk
    unfold Prog.Publishes
    simp only [requireTask, wp_simps]
    intro db before hfound
    have hid : before.id = id := by
      simp only [taskOf, Option.filter_eq_some_iff, find?_eq_some] at hfound
      exact hfound.1.2
    exact hk before _ hid
  refine hread fun before h hbefore => .after (.lift _) fun _ h => .bind (.transaction ?_)
    fun result h => ?_
  · simp only [updateTask, HousekeepingService.setRoomStatus, insertRedo, wp_simps, wp_ite,
      wp_forSome]
    have hmoved : dto.pass = true → ∀ {h : Trace} {w : HotelDb → HotelDb},
        (∀ s, (w s).housekeepingTasks = s.housekeepingTasks.update (fun t => t.id = id)
          (inspected dto before now) (inspected_inPlace dto before now).id) →
        TaskWrite propertyId (.inspect id dto actor now) h w := by
      intro hpass h w hw
      refine .moved (inspected_inPlace dto before now) rfl (fun t => ?_) hw
      simp [inspected, hpass]
    have hredone : ¬dto.pass = true → ∀ {h : Trace} {w : HotelDb → HotelDb},
        (∀ s, (w s).housekeepingTasks = (s.housekeepingTasks.update (fun t => t.id = id)
          (inspected dto before now) (inspected_inPlace dto before now).id).insert
            (redoTask propertyId before dto actor now (freshId ((s.housekeepingTasks.update
              (fun t => t.id = id) (inspected dto before now)
                (inspected_inPlace dto before now).id).rows.map (·.id))))) →
        TaskWrite propertyId (.inspect id dto actor now) h w := by
      intro hfail h w hw
      refine .redone (inspected_inPlace dto before now) rfl (fun t => ?_) (fun s => ?_)
        (fun s => ⟨?_, ?_⟩) hw
      · simp [inspected, hfail]
      · rw [← hasKey_moved (inspected_inPlace dto before now)]
        exact hasKey_freshId _
      · simp [HousekeepingTask.isOpen, redoTask, OPEN_TASK_STATUSES]
      · rw [← hbefore]
        exact redoTask_redoes propertyId before dto actor now _
    intro _
    refine ⟨fun hpass => ⟨?_, ?_⟩, fun hfail => ⟨?_, ?_⟩⟩
    · rintro roomId - - w hw
      cases hw
      exact hmoved hpass fun _ => rfl
    · rintro - w hw
      cases hw
      exact hmoved hpass fun _ => rfl
    · rintro roomId - - - w hw
      cases hw
      exact hredone hfail fun _ => rfl
    · rintro - - w hw
      cases hw
      exact hredone hfail fun _ => rfl
  · refine .after (hydrate_readOnly result.1) fun after h => ?_
    cases result.2 with
    | none => exact .of_readOnly (.pure _)
    | some task =>
      exact .after (hydrate_readOnly (some task)) fun _ _ => .of_readOnly (.pure _)

theorem TaskCall.wp_prog (call : TaskCall) :
    (call.prog propertyId).WritesUnder (TaskWrite propertyId call) := by
  refine Prog.Publishes.writesUnder ?_
  cases call with
  | turnover roomId actorStaffId now => exact publishes_turnover
  | start id actor now => exact publishes_start.discard
  | complete id dto actor now => exact publishes_complete.discard
  | inspect id dto actor now => exact publishes_inspect.discard

end Calls

/-- However the calls are interleaved and wherever they fail: while what the calls found still
holds when they commit, after every step a room has one open automatic clean at most, and a task
just rejected has exactly one open task that redoes it. -/
theorem one_turnover_clean (propertyId : Id) (calls : List TaskCall) (log : TaskLog) (db : HotelDb)
    (hfit : LogFits propertyId log db) (evs : List Event)
    (hdue : (Config.start db (calls.map (TaskCall.prog propertyId))).Throughout
      (GuardedCalls calls (StillDue propertyId)) evs) :
    Config.EveryStepWith TaskLog.next
      (fun s log' s' => OneTurnoverClean propertyId log' s' ∧ RedoneOnce s log' s') log
      (Config.start db (calls.map (TaskCall.prog propertyId))) evs := by
  have hsteps := Config.calls_steps (I := fun _ => True) (R := TaskChange propertyId)
    TaskCall.wp_prog (fun _ => .same rfl)
    (fun _ _ _ _ hw _ hg _ => ⟨trivial, hw.change hg⟩) trivial evs hdue
  refine Config.EveryStep.withLog (fun log s s' hfit hstep => ?_) evs log _ hfit hsteps
  rcases hfit.next hstep.2 with ⟨hfit', hredone⟩
  exact ⟨hfit', hfit'.once, hredone⟩

/-! ## Two departures, two inspectors -/

/-- A room whose guests have left. -/
def vacatedRoom : HotelDb where
  rooms := (∅ : Table Room.id).insert
    { id := 101, propertyId := 1, roomTypeId := 7, number := "101", status := .DIRTY }

/-- The same room, cleaned and waiting for an inspection. -/
def cleanedRoom : HotelDb where
  rooms := vacatedRoom.rooms
  housekeepingTasks := (∅ : Table HousekeepingTask.id).insert
    { turnoverTask 1 101 none 0 1 with status := .COMPLETED }

def twoDepartures : List TaskCall := [.turnover 101 (some 5) 0, .turnover 101 (some 6) 0]

def twoInspectors : List TaskCall :=
  [.inspect 1 { pass := false } ⟨8, true⟩ 0, .inspect 1 { pass := false } ⟨9, true⟩ 0]

/-- Both have looked before either commits. -/
def bothLooked : List Event :=
  [.step 0, .step 0, .step 1, .step 1, .step 0, .step 0, .step 1, .step 1]

/-- Both have read the task before either writes. -/
def bothInspect : List Event :=
  [.step 0, .step 1] ++ List.replicate 5 (.step 0) ++ List.replicate 5 (.step 1)

/-- A departure, its clean from the start to a failed inspection, and another departure. -/
def turnaround : List TaskCall :=
  [.turnover 101 (some 5) 0, .start 1 ⟨7, false⟩ 1, .complete 1 {} ⟨7, false⟩ 2,
    .inspect 1 { pass := false, notes := some "Dust" } ⟨8, true⟩ 3, .turnover 101 (some 6) 4]

def inTurn : List Event :=
  List.replicate 4 (.step 0) ++ List.replicate 6 (.step 1) ++ List.replicate 6 (.step 2) ++
    List.replicate 8 (.step 3) ++ List.replicate 3 (.step 4)

/-- Two cleans for one room, and two redos of one task. -/
theorem turnover_raised_twice :
    (∃ c, (Config.start vacatedRoom (twoDepartures.map (TaskCall.prog 1))).run bothLooked = some c ∧
      ((openTasks 1 101 c.db).filter HousekeepingTask.isTurnover).length = 2) ∧
    ∃ c, (Config.start cleanedRoom (twoInspectors.map (TaskCall.prog 1))).run bothInspect = some c ∧
      ((openTasks 1 101 c.db).filter (·.redoes 1)).length = 2 := by
  have hcleans : ((Config.start vacatedRoom (twoDepartures.map (TaskCall.prog 1))).run
      bothLooked).any (fun c => decide
        (((openTasks 1 101 c.db).filter HousekeepingTask.isTurnover).length = 2)) = true := by
    decide +kernel
  have hredos : ((Config.start cleanedRoom (twoInspectors.map (TaskCall.prog 1))).run
      bothInspect).any (fun c => decide
        (((openTasks 1 101 c.db).filter (·.redoes 1)).length = 2)) = true := by
    decide +kernel
  rcases (Option.any_eq_true _ _).mp hcleans with ⟨c, hrun, hc⟩
  rcases (Option.any_eq_true _ _).mp hredos with ⟨c', hrun', hc'⟩
  exact ⟨⟨c, hrun, of_decide_eq_true hc⟩, c', hrun', of_decide_eq_true hc'⟩

theorem turnaround_in_turn :
    ((Config.start vacatedRoom (turnaround.map (TaskCall.prog 1))).run inTurn).isSome ∧
    Config.EveryStepWith TaskLog.next
      (fun s log' s' => OneTurnoverClean 1 log' s' ∧ RedoneOnce s log' s') []
      (Config.start vacatedRoom (turnaround.map (TaskCall.prog 1))) inTurn := by
  refine ⟨by decide +kernel, one_turnover_clean 1 turnaround [] vacatedRoom ?_ inTurn
    (by decide +kernel)⟩
  refine ⟨fun r hr => absurd hr List.not_mem_nil, fun roomId => ?_,
    fun r hr => absurd hr List.not_mem_nil⟩
  exact (List.length_filter_le _ _).trans (Nat.zero_le 1)

end HousekeepingService

end Travelo
