import Travelo.Events
import Travelo.ReadCommitted.Guarded

/-!
# Edits of one event

Each call reads the row and writes back columns it was not asked to change. `edits_kept`: the dates
always say what the status says; the status follows its table while a change of it lands on the
status that was read; and a call's values stay while the columns that others carry over are still
as they were read.
-/

namespace Travelo.Events

open ReadCommitted EventsService
open Config (start)

/-! ## Calls and columns -/

/-- A call on an event, with the clock. -/
inductive EventCall where
  | update (propertyId id : Id) (dto : UpdateEventDto) (now : ℤ)
  | setStatus (propertyId id : Id) (toStatus : EventStatus) (reason : Option String) (now : ℤ)

namespace EventCall

def prog : EventCall → EventOp (EventRow × EventRow)
  | .update propertyId id dto now => EventsService.update propertyId id dto now
  | .setStatus propertyId id toStatus reason now =>
    EventsService.setStatus propertyId id toStatus reason now

def propertyId : EventCall → Id
  | .update propertyId _ _ _ => propertyId
  | .setStatus propertyId _ _ _ _ => propertyId

def id : EventCall → Id
  | .update _ id _ _ => id
  | .setStatus _ id _ _ _ => id

/-- The row the call writes over a stored one. -/
def written : EventCall → EventRow → EventRow → EventRow
  | .update _ _ dto now, before, e => edited dto before now e
  | .setStatus _ _ toStatus reason now, before, e => statusSet toStatus reason before now e

@[simp] theorem written_id (call : EventCall) (before e : EventRow) :
    (call.written before e).id = e.id := by
  cases call <;> rfl

@[simp] theorem written_propertyId (call : EventCall) (before e : EventRow) :
    (call.written before e).propertyId = e.propertyId := by
  cases call <;> rfl

end EventCall

/-- The columns that calls write. -/
inductive EventField where
  | name
  | clientName
  | type
  | venue
  | startAt
  | endAt
  | guestCount
  | package
  | revenuePaise
  | roomBlock
  | notes
  | status
  | cancelledAt
  | completedAt
  deriving DecidableEq

def EventField.all : List EventField :=
  [.name, .clientName, .type, .venue, .startAt, .endAt, .guestCount, .package, .revenuePaise,
    .roomBlock, .notes, .status, .cancelledAt, .completedAt]

theorem EventField.mem_all (c : EventField) : c ∈ all := by
  cases c <;> decide

instance (P : EventField → Prop) [DecidablePred P] : Decidable (∀ c, P c) :=
  decidable_of_iff (∀ c ∈ EventField.all, P c) ⟨fun h c => h c c.mem_all, fun h c _ => h c⟩

/-- Two rows have the same value in a column. -/
def EventField.Same : EventField → EventRow → EventRow → Prop
  | .name, e, e' => e.name = e'.name
  | .clientName, e, e' => e.clientName = e'.clientName
  | .type, e, e' => e.type = e'.type
  | .venue, e, e' => e.venue = e'.venue
  | .startAt, e, e' => e.startAt = e'.startAt
  | .endAt, e, e' => e.endAt = e'.endAt
  | .guestCount, e, e' => e.guestCount = e'.guestCount
  | .package, e, e' => e.package = e'.package
  | .revenuePaise, e, e' => e.revenuePaise = e'.revenuePaise
  | .roomBlock, e, e' => e.roomBlock = e'.roomBlock
  | .notes, e, e' => e.notes = e'.notes
  | .status, e, e' => e.status = e'.status
  | .cancelledAt, e, e' => e.cancelledAt = e'.cancelledAt
  | .completedAt, e, e' => e.completedAt = e'.completedAt

instance (c : EventField) (e e' : EventRow) : Decidable (c.Same e e') := by
  cases c <;> unfold EventField.Same <;> infer_instance

theorem EventField.Same.symm {c : EventField} {e e' : EventRow} (h : c.Same e e') :
    c.Same e' e := by
  cases c <;> exact Eq.symm h

theorem EventField.Same.trans {c : EventField} {e e' e'' : EventRow} (h : c.Same e e')
    (h' : c.Same e' e'') : c.Same e e'' := by
  cases c <;> exact Eq.trans h h'

namespace EventCall

/-- The columns a call is asked to change. -/
def Names : EventCall → EventField → Prop
  | .update _ _ dto _, .name => dto.name.isSome
  | .update _ _ dto _, .clientName => dto.clientName.isSome
  | .update _ _ dto _, .type => dto.type.isSome
  | .update _ _ dto _, .venue => dto.venue.isSome
  | .update _ _ dto _, .startAt => dto.startAt.isSome
  | .update _ _ dto _, .endAt => dto.endAt.isSome
  | .update _ _ dto _, .guestCount => dto.guestCount.isSome
  | .update _ _ dto _, .package => dto.package.isSome
  | .update _ _ dto _, .revenuePaise => dto.revenuePaise.isSome
  | .update _ _ dto _, .roomBlock => dto.roomBlock.isSome
  | .update _ _ dto _, .notes => dto.notes.isSome
  | .update _ _ _ _, _ => False
  | .setStatus _ _ _ _ _, .status => True
  | .setStatus _ _ toStatus _ _, .cancelledAt => toStatus = .CANCELLED
  | .setStatus _ _ toStatus _ _, .completedAt => toStatus = .COMPLETED
  | .setStatus _ _ toStatus reason _, .notes => (reasonNoted toStatus reason).isSome
  | .setStatus _ _ _ _ _, _ => False

/-- The columns a call writes. -/
def Writes : EventCall → EventField → Prop
  | .update _ _ _ _, c => c ≠ .status ∧ c ≠ .cancelledAt ∧ c ≠ .completedAt
  | .setStatus _ _ _ _ _, c => c = .status ∨ c = .cancelledAt ∨ c = .completedAt ∨ c = .notes

instance (call : EventCall) (c : EventField) : Decidable (call.Names c) := by
  cases call <;> cases c <;> unfold Names <;> infer_instance

instance (call : EventCall) (c : EventField) : Decidable (call.Writes c) := by
  cases call <;> unfold Writes <;> infer_instance

variable {call : EventCall} {c : EventField}

theorem named_same (h : call.Names c) (before before' e e' : EventRow) :
    c.Same (call.written before e) (call.written before' e') := by
  cases call with
  | update propertyId id dto now =>
    cases c
    case status | cancelledAt | completedAt => exact h.elim
    all_goals
      obtain ⟨v, hv⟩ := Option.isSome_iff_exists.mp h
      simp only [EventField.Same, written, edited, hv, Option.getD_some, Option.some_or]
  | setStatus propertyId id toStatus reason now =>
    cases c
    case status => rfl
    case cancelledAt => exact (if_pos h).trans (if_pos h).symm
    case completedAt => exact (if_pos h).trans (if_pos h).symm
    case notes =>
      obtain ⟨v, hv⟩ := Option.isSome_iff_exists.mp h
      simp only [EventField.Same, written, statusSet, hv, Option.some_or]
    all_goals exact h.elim

theorem carried_same (hwrites : call.Writes c) (hnot : ¬call.Names c) (before e : EventRow) :
    c.Same (call.written before e) before := by
  cases call with
  | update propertyId id dto now =>
    cases c
    case status => exact absurd rfl hwrites.1
    case cancelledAt => exact absurd rfl hwrites.2.1
    case completedAt => exact absurd rfl hwrites.2.2
    all_goals
      have hv := Option.not_isSome_iff_eq_none.mp hnot
      simp only [EventField.Same, written, edited, hv, Option.getD_none, Option.none_or]
  | setStatus propertyId id toStatus reason now =>
    cases c
    case status => exact absurd trivial hnot
    case cancelledAt => exact if_neg hnot
    case completedAt => exact if_neg hnot
    case notes =>
      have hv := Option.not_isSome_iff_eq_none.mp hnot
      simp only [EventField.Same, written, statusSet, hv, Option.none_or]
    all_goals simp [Writes] at hwrites

theorem unwritten_same (hnot : ¬call.Writes c) (before e : EventRow) :
    c.Same (call.written before e) e := by
  cases call with
  | update propertyId id dto now =>
    cases c
    case status | cancelledAt | completedAt => rfl
    all_goals exact absurd ⟨by simp, by simp, by simp⟩ hnot
  | setStatus propertyId id toStatus reason now =>
    cases c
    case status | cancelledAt | completedAt | notes => exact absurd (by simp [Writes]) hnot
    all_goals rfl

end EventCall

/-! ## The laws -/

/-- Every event keeps its status, or takes one the table allows. -/
def FollowsTable (db db' : EventDb) : Prop :=
  ∀ e ∈ db.events, ∃ e' ∈ db'.events, e'.id = e.id ∧
    (e'.status = e.status ∨ canTransitionEvent e.status e'.status = true)

/-- An event has the date of its end, and no other. -/
def EventRow.DatesMatch (e : EventRow) : Prop :=
  (e.cancelledAt.isSome ↔ e.status = .CANCELLED) ∧ (e.completedAt.isSome ↔ e.status = .COMPLETED)

def DatesMatch (db : EventDb) : Prop := ∀ e ∈ db.events, e.DatesMatch

/-- The row of the call has the values that the call names. -/
def EventCall.Holds (call : EventCall) (db : EventDb) : Prop :=
  ∀ e ∈ db.events, e.id = call.id → e.propertyId = call.propertyId →
    ∀ c, call.Names c → c.Same e (call.written e e)

/-- No column of an event is named by two calls. -/
def Apart (call call' : EventCall) : Prop :=
  call.id = call'.id → ∀ c, call.Names c → ¬call'.Names c

/-- A guard of the calls. -/
abbrev EventGuard := EventCall → (EventDb → EventDb) → EventTrace → EventDb → Prop

theorem Apart.symm {call call' : EventCall} (h : Apart call call') : Apart call' call :=
  fun hid c hnames hnames' => h hid.symm c hnames' hnames

theorem apart_of_ne {calls : List EventCall} (hapart : calls.Pairwise Apart) {i j : ℕ}
    {call call' : EventCall} (hi : calls[i]? = some call) (hj : calls[j]? = some call')
    (hne : i ≠ j) : Apart call call' := by
  rcases List.getElem?_eq_some_iff.mp hi with ⟨hlt, rfl⟩
  rcases List.getElem?_eq_some_iff.mp hj with ⟨hlt', rfl⟩
  have hpairs := List.pairwise_iff_getElem.mp hapart
  rcases Nat.lt_or_gt_of_ne hne with h | h
  · exact hpairs i j hlt hlt' h
  · exact (hpairs j i hlt' hlt h).symm

section Laws

variable (G : EventGuard) (calls : List EventCall) (db : EventDb) (evs : List Event)

/-- Statuses move along the table if the calls interleave under the guard. -/
def StatusesFollow : Prop :=
  (start db (calls.map EventCall.prog)).Throughout (GuardedCalls calls G) evs →
    (start db (calls.map EventCall.prog)).EveryStep FollowsTable evs

/-- The dates match in the state that is reached. -/
def DatesStay : Prop :=
  DatesMatch db →
    ∀ c, (start db (calls.map EventCall.prog)).run evs = some c → DatesMatch c.db

/-- What calls that name different columns have set is there in the state that is reached. -/
def ValuesStay : Prop :=
  calls.Pairwise Apart →
    (start db (calls.map EventCall.prog)).Throughout (GuardedCalls calls G) evs →
      ∀ c, (start db (calls.map EventCall.prog)).run evs = some c →
        ∀ (i : ℕ) s call, c.sessions[i]? = some s → calls[i]? = some call →
          s.finished = true ∨ 0 < writes s.trace → call.Holds c.db

end Laws

/-! ## What must not happen meanwhile -/

/-- A status is written over the one that was read, or over the one that is written. -/
def StatusAsRead : EventGuard
  | .setStatus propertyId id toStatus _ _, _, h, now =>
    ∀ r ∈ reads h, ∀ before ∈ eventOf propertyId id r.2, ∀ e ∈ now.events, e.id = id →
      e.status = before.status ∨ e.status = toStatus
  | _, _, _, _ => True

/-- A column that is carried over is stored as it was read. -/
def CarriedAsRead : EventGuard := fun call _ h now =>
  ∀ r ∈ reads h, ∀ before ∈ eventOf call.propertyId call.id r.2, ∀ e ∈ now.events,
    e.id = call.id → ∀ c, call.Writes c → call.Names c ∨ c.Same e before

/-! ## What a call writes -/

/-- The status that is read allows the change. -/
def EventCall.Allowed : EventCall → EventRow → Prop
  | .update _ _ _ _, _ => True
  | .setStatus _ _ toStatus _ _, before => canTransitionEvent before.status toStatus = true

/-- A call writes the row it has read, with its own columns. -/
inductive EventWrite (call : EventCall) : EventTrace → (EventDb → EventDb) → Prop where
  | mk {h : EventTrace} {b : EventDb} {before : EventRow} (hread : (.event call.id, b) ∈ reads h)
      (hbefore : eventOf call.propertyId call.id b = some before) (hallowed : call.Allowed before) :
      EventWrite call h
        (setEvent call.propertyId call.id (call.written before) (call.written_id before))

theorem EventCall.wp_prog (call : EventCall) :
    call.prog.wp (EventWrite call) (fun _ h _ => 0 < writes h) (fun _ _ _ => True) [] .idle := by
  cases call with
  | update propertyId id dto now =>
    simp only [prog, EventsService.update, require, updateEvent, wp_simps]
    intro b before hbefore
    have hwrite : EventWrite (.update propertyId id dto now) [.saw (.event id) b] _ :=
      .mk (mem_reads.mpr List.mem_cons_self) hbefore trivial
    exact ⟨hwrite, fun _ _ _ => Nat.succ_pos _⟩
  | setStatus propertyId id toStatus reason now =>
    simp only [prog, EventsService.setStatus, require, updateEvent, wp_simps]
    intro b before hbefore _ hallowed
    have hwrite : EventWrite (.setStatus propertyId id toStatus reason now)
        [.saw (.event id) b] _ :=
      .mk (mem_reads.mpr List.mem_cons_self) hbefore (assertEventTransition_ok.mp hallowed)
    exact ⟨hwrite, fun _ _ _ => Nat.succ_pos _⟩

theorem EventCall.wp_writes (call : EventCall) :
    call.prog.wp (EventWrite call) (fun _ _ _ => True) (fun _ _ _ => True) [] .idle :=
  wp_mono (fun _ _ h => h) (fun _ _ _ _ => trivial) (fun _ _ _ h => h) _ _ _ call.wp_prog

/-- What a write makes of a row. -/
inductive Becomes (call : EventCall) (h : EventTrace) (e : EventRow) : EventRow → Prop where
  | written {b : EventDb} {before : EventRow} (hid : e.id = call.id)
      (hproperty : e.propertyId = call.propertyId) (hread : (.event call.id, b) ∈ reads h)
      (hbefore : eventOf call.propertyId call.id b = some before) (hallowed : call.Allowed before) :
      Becomes call h e (call.written before e)
  | left (hother : ¬(e.id = call.id ∧ e.propertyId = call.propertyId)) : Becomes call h e e

section Writes

variable {call : EventCall} {h : EventTrace} {w : EventDb → EventDb} {db : EventDb}
  {e e' : EventRow}

theorem Becomes.id_eq (hb : Becomes call h e e') : e'.id = e.id := by
  cases hb with
  | written => exact call.written_id _ e
  | left => rfl

theorem Becomes.propertyId_eq (hb : Becomes call h e e') : e'.propertyId = e.propertyId := by
  cases hb with
  | written => exact call.written_propertyId _ e
  | left => rfl

theorem EventWrite.rows (hw : EventWrite call h w) :
    (∀ e ∈ db.events, ∃ e' ∈ (w db).events, Becomes call h e e') ∧
      ∀ e' ∈ (w db).events, ∃ e ∈ db.events, Becomes call h e e' := by
  rcases hw with ⟨hread, hbefore, hallowed⟩
  rename_i b before
  have hrow : ∀ e, Becomes call h e
      (if e.id = call.id ∧ e.propertyId = call.propertyId then call.written before e else e) := by
    intro e
    by_cases hmine : e.id = call.id ∧ e.propertyId = call.propertyId
    · rw [if_pos hmine]
      exact .written hmine.1 hmine.2 hread hbefore hallowed
    · rw [if_neg hmine]
      exact .left hmine
  constructor
  · intro e he
    exact ⟨_, mem_setEvent.mpr ⟨e, he, rfl⟩, hrow e⟩
  · intro e' he'
    rcases mem_setEvent.mp he' with ⟨e, he, rfl⟩
    exact ⟨e, he, hrow e⟩

/-! ### The status -/

theorem Becomes.follows (hb : Becomes call h e e') (he : e ∈ db.events)
    (hguard : StatusAsRead call w h db) :
    e'.status = e.status ∨ canTransitionEvent e.status e'.status = true := by
  cases hb with
  | left => exact .inl rfl
  | @written b before hid hproperty hread hbefore hallowed =>
    cases call with
    | update propertyId id dto now => exact .inl rfl
    | setStatus propertyId id toStatus reason now =>
      rcases hguard _ hread before (Option.mem_def.mpr hbefore) e he hid with hstill | hthere
      · right
        rw [hstill]
        exact hallowed
      · left
        exact hthere.symm

theorem EventWrite.follows (hw : EventWrite call h w) (hguard : StatusAsRead call w h db) :
    FollowsTable db (w db) := by
  intro e he
  rcases hw.rows.1 e he with ⟨e', he', hb⟩
  exact ⟨e', he', hb.id_eq, hb.follows he hguard⟩

/-! ### The dates -/

/-- A change of the status starts from a live event, which has no date of its end. -/
theorem written_datesMatch {before : EventRow} (hallowed : call.Allowed before)
    (hbefore : before.DatesMatch) (he : e.DatesMatch) :
    (call.written before e).DatesMatch := by
  cases call with
  | update propertyId id dto now => exact he
  | setStatus propertyId id toStatus reason now =>
    have hlive := live_of_canTransition hallowed
    have hnotCancelled : ¬before.cancelledAt.isSome := fun h => hlive.2 (hbefore.1.mp h)
    have hnotCompleted : ¬before.completedAt.isSome := fun h => hlive.1 (hbefore.2.mp h)
    constructor
    · show (if toStatus = .CANCELLED then some now else before.cancelledAt).isSome ↔ _
      by_cases hto : toStatus = .CANCELLED
      · simp [EventCall.written, statusSet, hto]
      · simpa [EventCall.written, statusSet, hto] using hnotCancelled
    · show (if toStatus = .COMPLETED then some now else before.completedAt).isSome ↔ _
      by_cases hto : toStatus = .COMPLETED
      · simp [EventCall.written, statusSet, hto]
      · simpa [EventCall.written, statusSet, hto] using hnotCompleted

theorem EventWrite.datesMatch (hw : EventWrite call h w) (hdb : DatesMatch db)
    (hreads : ∀ l b, .saw l b ∈ h → DatesMatch b) : DatesMatch (w db) := by
  intro e' he'
  rcases hw.rows.2 e' he' with ⟨e, he, hb⟩
  cases hb with
  | left => exact hdb _ he
  | @written b before hid hproperty hread hbefore hallowed =>
    have hstored := hreads _ b (mem_reads.mp hread) before (eventOf_eq_some.mp hbefore).1
    exact written_datesMatch hallowed hstored (hdb e he)

/-! ### The values -/

theorem EventWrite.holds (hw : EventWrite call h w) : call.Holds (w db) := by
  intro e' he' hid hproperty c hnames
  rcases hw.rows.2 e' he' with ⟨e, he, hb⟩
  cases hb with
  | left hother => exact absurd ⟨hid, hproperty⟩ hother
  | written => exact EventCall.named_same hnames _ _ _ _

/-- A call that names other columns leaves them, if what it carries over is as it was read. -/
theorem EventWrite.keeps (hw : EventWrite call h w) {call' : EventCall} (hapart : Apart call' call)
    (hguard : CarriedAsRead call w h db) (hholds : call'.Holds db) : call'.Holds (w db) := by
  intro e' he' hid hproperty c hnames
  rcases hw.rows.2 e' he' with ⟨e, he, hb⟩
  have hold : c.Same e (call'.written e e) :=
    hholds e he (hb.id_eq.symm.trans hid) (hb.propertyId_eq.symm.trans hproperty) c hnames
  have hstays : c.Same e' e := by
    cases hb with
    | left => exact EventField.Same.trans hold hold.symm
    | @written b before hmine hmine' hread hbefore hallowed =>
      have hsame : call'.id = call.id := hid.symm.trans ((call.written_id before e).trans hmine)
      have hnot : ¬call.Names c := hapart hsame c hnames
      by_cases hwrites : call.Writes c
      -- it is carried over, from a read that still stands
      · rcases hguard _ hread before (Option.mem_def.mpr hbefore) e he hmine c hwrites with
          hnamed | hstill
        · exact absurd hnamed hnot
        · exact (EventCall.carried_same hwrites hnot before e).trans hstill.symm
      · exact EventCall.unwritten_same hwrites before e
  exact (hstays.trans hold).trans (EventCall.named_same hnames _ _ _ _)

end Writes

/-- In every session what has been written met its obligation, and the values of the calls that
have written are there. -/
structure ValuesKept (calls : List EventCall)
    (c : Config EventDb Id EventLook EventErr (EventRow × EventRow)) : Prop where
  proving : Config.Proving (fun i h w => ∃ call, calls[i]? = some call ∧ EventWrite call h w)
    (fun _ _ h _ => 0 < writes h) c
  holds : ∀ (i : ℕ) s, c.sessions[i]? = some s →
    ∀ call ∈ calls[i]?, 0 < writes s.trace → call.Holds c.db

section Values

variable {calls : List EventCall}
  {c c' : Config EventDb Id EventLook EventErr (EventRow × EventRow)}

theorem valuesKept_start (db : EventDb) :
    ValuesKept calls (start db (calls.map EventCall.prog)) := by
  constructor
  · refine Config.proving_start fun i p hp => ?_
    rw [List.getElem?_map, Option.map_eq_some_iff] at hp
    rcases hp with ⟨call, hcall, rfl⟩
    exact wp_mono (fun _ _ hw => ⟨call, hcall, hw⟩) (fun _ _ _ h => h) (fun _ _ _ h => h) _ _ _
      call.wp_prog
  · intro i s hs call _ hwrote
    simp only [start, List.map_map, List.getElem?_map, Option.map_eq_some_iff] at hs
    rcases hs with ⟨_, -, rfl⟩
    cases hwrote

theorem ValuesKept.next (hkept : ValuesKept calls c) (hapart : calls.Pairwise Apart) {ev : Event}
    (hguard : GuardedCalls calls CarriedAsRead c ev) (hn : c.next ev = some c') :
    ValuesKept calls c' := by
  refine ⟨hkept.proving.next hn, Config.each_next (F := fun i db h =>
    ∀ call ∈ calls[i]?, 0 < writes h → call.Holds db) hkept.holds ?_ hn ?_ ?_⟩
  · intro i db h l hF call hcall hwrote
    exact hF call hcall hwrote
  · intro i s w hev hs hpub call hcall _
    rcases hkept.proving.publishes hs hpub with ⟨_, hcall', hw⟩
    cases Option.some.inj (hcall'.symm.trans hcall)
    exact hw.holds
  · intro i j s w h hev hs hpub hne hF call' hcall' hwrote
    rcases hkept.proving.publishes hs hpub with ⟨call, hcall, hw⟩
    exact hw.keeps (apart_of_ne hapart hcall' hcall hne) (hguard i s w hev hs hpub call hcall)
      (hF call' hcall' hwrote)

end Values

/-- **Edits of an event do not undo each other**, while a status lands on the one that was read and
what a call carries over is stored as it was read; the dates match the status in any case. -/
theorem edits_kept (calls : List EventCall) (db : EventDb) (evs : List Event) :
    StatusesFollow StatusAsRead calls db evs ∧ DatesStay calls db evs ∧
      ValuesStay CarriedAsRead calls db evs := by
  refine ⟨?_, ?_, ?_⟩
  · intro hguarded
    have hsteps := Config.calls_steps (I := fun _ => True) (R := FollowsTable) EventCall.wp_writes
      (fun db e he => ⟨e, he, rfl, .inl rfl⟩)
      (fun call h w now hw _ hguard _ => ⟨trivial, hw.follows hguard⟩) trivial evs hguarded
    exact hsteps.mono fun _ _ h => h.2
  · intro hdb c hrun
    exact Config.calls_invariant (G := fun _ _ _ _ => True) (I := DatesMatch)
      (R := fun _ _ => True) EventCall.wp_writes (fun _ => trivial) (fun _ _ _ _ _ => trivial)
      (fun call h w now hw hseen _ hnow =>
        ⟨hw.datesMatch hnow fun l b hb => (hseen l b hb).1, trivial⟩) hdb evs
      ((Config.throughout_true evs _).mono fun _ _ _ _ _ _ _ _ _ _ _ => trivial) hrun
  · intro hapart hguarded c hrun i s call hs hcall hset
    have hkept : ValuesKept calls c := Config.run_throughout (ValuesKept calls)
      (fun _ _ _ hkept hguard hn => hkept.next hapart hguard hn) evs _ (valuesKept_start db)
      hguarded hrun
    refine hkept.holds i s hs call hcall ?_
    rcases hset with hfinished | hwrote
    · rcases hkept.proving.finished hs hfinished with ⟨a, hwrote⟩
      exact hwrote
    · exact hwrote

/-! ## A wedding that is edited and called off -/

instance (db db' : EventDb) : Decidable (FollowsTable db db') := by
  unfold FollowsTable
  infer_instance

instance (db : EventDb) : Decidable (DatesMatch db) := by
  unfold DatesMatch EventRow.DatesMatch
  infer_instance

instance (call : EventCall) (db : EventDb) : Decidable (call.Holds db) := by
  unfold EventCall.Holds
  infer_instance

instance (call call' : EventCall) : Decidable (Apart call call') := by
  unfold Apart
  infer_instance

instance (call : EventCall) (w : EventDb → EventDb) (h : EventTrace) (now : EventDb) :
    Decidable (StatusAsRead call w h now) := by
  unfold StatusAsRead
  split <;> infer_instance

instance (call : EventCall) (w : EventDb → EventDb) (h : EventTrace) (now : EventDb) :
    Decidable (CarriedAsRead call w h now) := by
  unfold CarriedAsRead
  infer_instance

/-- A wedding in the hall, which is confirmed. -/
def wedding : EventRow where
  id := 7
  propertyId := 1
  name := "Wedding"
  clientName := "Rao"
  startAt := 100
  status := .CONFIRMED

def oneWedding : EventDb where
  events := ⟨[wedding], by decide⟩

/-- It starts while it is cancelled. -/
def startsAndCancels : List EventCall :=
  [.setStatus 1 7 .IN_PROGRESS none 0, .setStatus 1 7 .CANCELLED (some "Rain") 1]

/-- The desk writes a note while the kitchen counts the guests. -/
def noteAndCount : List EventCall :=
  [.update 1 7 { notes := some "Veg only" } 0, .update 1 7 { guestCount := some 80 } 1]

/-- The first call reads, the second runs, and the first writes. -/
def firstWritesLast : List Event := [.step 0, .step 1, .step 1, .step 0]

/-- One after the other. -/
def oneThenOther : List Event := [.step 0, .step 0, .step 1, .step 1]

/-- A cancelled event is started, and a guest count is undone by a note. -/
theorem edits_undone :
    ¬(∀ calls db evs, StatusesFollow (fun _ _ _ _ => True) calls db evs) ∧
      ¬∀ calls db evs, ValuesStay (fun _ _ _ _ => True) calls db evs := by
  constructor
  · intro hlaw
    have hfollows := hlaw startsAndCancels oneWedding firstWritesLast (by decide +kernel)
    revert hfollows
    decide +kernel
  · intro hlaw
    have hheld := hlaw noteAndCount oneWedding firstWritesLast (by decide +kernel)
      (by decide +kernel) _ rfl 1 _ _ rfl rfl (.inl rfl)
    revert hheld
    decide +kernel

/-- One after the other both values stay, and the wedding starts. -/
theorem edits_kept_in_turn :
    (start oneWedding ([.setStatus 1 7 .IN_PROGRESS none 0,
      .setStatus 1 7 .CANCELLED (some "Rain") 1].map EventCall.prog)).EveryStep FollowsTable
        oneThenOther ∧
    ∃ c, (start oneWedding (noteAndCount.map EventCall.prog)).run oneThenOther = some c ∧
      DatesMatch c.db ∧ (∀ call ∈ noteAndCount[0]?, call.Holds c.db) ∧
      c.db.events.rows.map (fun e => (e.notes, e.guestCount)) = [(some "Veg only", 80)] :=
  ⟨(edits_kept startsAndCancels oneWedding oneThenOther).1 (by decide +kernel), _, rfl,
    (edits_kept noteAndCount oneWedding oneThenOther).2.1 (by decide +kernel) _ rfl,
    fun call hcall => (edits_kept noteAndCount oneWedding oneThenOther).2.2 (by decide +kernel)
      (by decide +kernel) _ rfl 0 _ call rfl hcall (.inl rfl), by decide +kernel⟩

end Travelo.Events
