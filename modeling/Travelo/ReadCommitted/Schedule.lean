import Travelo.ReadCommitted.Trail

/-!
# Interleaved sessions

A configuration is a committed database and a list of sessions. One event is one
statement of one session: carried out, failing by itself, or never reached because the
session's process dies. A statement whose rows another session has locked is not
enabled, so a schedule (a list of events) describes any order the database allows.

`Config.run_invariant` is the rule for invariants of interleaved sessions: a write may
rely on what its session read before, provided that the read is still valid — `V` says
what valid means — on the committed state the write lands on.
-/

namespace ReadCommitted

variable {σ κ Λ ε α : Type} [Faults ε]

/-- A session: the statements still to run, its transaction, its row locks and its history. -/
structure Session (σ κ Λ ε α : Type) where
  prog : Prog σ κ Λ ε α
  tx : Tx σ
  held : List κ
  trace : List (Obs σ Λ)

/-- A call about to start. -/
def Session.start (p : Prog σ κ Λ ε α) : Session σ κ Λ ε α := ⟨p, .idle, [], []⟩

/-- The call has answered. -/
def Session.finished (s : Session σ κ Λ ε α) : Bool :=
  match s.prog with
  | .ret _ => true
  | _ => false

/-- Locks live as long as their transaction. -/
def Tx.keep : Tx σ → List κ → List κ
  | .idle, _ => []
  | _, held => held

/-- The write an observation stands for. -/
def Obs.write? : Obs σ Λ → Option (σ → σ)
  | .wrote w => some w
  | .saw _ _ => none

/-- The database, its sessions, and the writes published so far, newest first, each with
the number of its session. -/
structure Config (σ κ Λ ε α : Type) where
  db : σ
  sessions : List (Session σ κ Λ ε α)
  log : List (ℕ × (σ → σ))

inductive Event where
  /-- Session `i` carries out its next statement. -/
  | step (i : ℕ)
  /-- The next statement of session `i` fails by itself. -/
  | fault (i : ℕ) (m : String)
  /-- Session `i` dies; the database rolls its transaction back. -/
  | crash (i : ℕ)

namespace Config

/-- All calls about to start on `db`. -/
def start (db : σ) (calls : List (Prog σ κ Λ ε α)) : Config σ κ Λ ε α :=
  ⟨db, calls.map Session.start, []⟩

/-- Some session other than `i` holds the lock. -/
def locked [DecidableEq κ] (c : Config σ κ Λ ε α) (i : ℕ) (k : κ) : Bool :=
  (c.sessions.eraseIdx i).any fun s => s.held.contains k

/-- The configuration after session `i` carried out statement `st` as session `s`. -/
def after (c : Config σ κ Λ ε α) (i : ℕ) (s : Session σ κ Λ ε α) (st : Stmt σ κ Λ ε)
    (k : Except ε σ → Prog σ κ Λ ε α) : Config σ κ Λ ε α :=
  let o := st.exec s.tx c.db
  { db := o.db
    sessions := c.sessions.set i
      { prog := k o.reply
        tx := o.tx
        held := o.tx.keep (st.needs (s.tx.view c.db) ++ s.held)
        trace := o.obs ++ s.trace }
    log := (o.obs.filterMap Obs.write?).map (fun w => (i, w)) ++ c.log }

/-- One event; `none` when it cannot happen now. -/
def next [DecidableEq κ] (c : Config σ κ Λ ε α) : Event → Option (Config σ κ Λ ε α)
  | .step i =>
    match c.sessions[i]? with
    | some s =>
      match s.prog with
      | .exec st k =>
        if (st.needs (s.tx.view c.db)).any (c.locked i) then none else some (c.after i s st k)
      | _ => none
    | none => none
  | .fault i m =>
    match c.sessions[i]? with
    | some s =>
      match s.prog with
      | .exec st k =>
        some { c with
          sessions := c.sessions.set i
            { prog := k (.error (lost m))
              tx := st.fault s.tx
              held := (st.fault s.tx).keep s.held
              trace := s.trace } }
      | _ => none
    | none => none
  | .crash i =>
    match c.sessions[i]? with
    | some s =>
      some { c with sessions := c.sessions.set i ⟨.throw (lost "crash"), .idle, [], s.trace⟩ }
    | none => none

/-- A schedule. -/
def run [DecidableEq κ] (c : Config σ κ Λ ε α) : List (Event) → Option (Config σ κ Λ ε α)
  | [] => some c
  | ev :: evs => (c.next ev).bind fun c' => c'.run evs

end Config

/-- The next statement of the session publishes `w` on `db`. -/
def Session.Publishes (s : Session σ κ Λ ε α) (db : σ) (w : σ → σ) : Prop :=
  ∃ st k, s.prog = .exec st k ∧ .wrote w ∈ (st.exec s.tx db).obs

/-! ## Writes on valid reads -/

/-- If the event publishes a write, everything its session has read is still valid. -/
def Valid (V : ℕ → (σ → σ) → Λ → σ → σ → Prop) (c : Config σ κ Λ ε α) (ev : Event) : Prop :=
  ∀ i s w, ev = .step i → c.sessions[i]? = some s → s.Publishes c.db w →
    ∀ l b, .saw l b ∈ s.trace → V i w l b c.db

/-- `Valid` at every event of a schedule. -/
def ValidRun [DecidableEq κ] (V : ℕ → (σ → σ) → Λ → σ → σ → Prop) :
    Config σ κ Λ ε α → List (Event) → Prop
  | _, [] => True
  | c, ev :: evs => Valid V c ev ∧ ∀ c', c.next ev = some c' → ValidRun V c' evs

/-- The writes the next statement of the session publishes on `db`. -/
def Session.published (s : Session σ κ Λ ε α) (db : σ) : List (σ → σ) :=
  match s.prog with
  | .exec st _ => (st.exec s.tx db).obs.filterMap Obs.write?
  | _ => []

theorem Session.mem_published {s : Session σ κ Λ ε α} {db : σ} {w : σ → σ} :
    w ∈ s.published db ↔ s.Publishes db w := by
  unfold published Publishes
  cases hp : s.prog with
  | ret a => simp
  | throw e => simp
  | exec st k =>
    simp only [List.mem_filterMap, Prog.exec.injEq]
    constructor
    · rintro ⟨o, ho, hw⟩
      cases o with
      | saw l b => simp [Obs.write?] at hw
      | wrote w' =>
        obtain rfl : w' = w := by simpa [Obs.write?] using hw
        exact ⟨st, k, ⟨rfl, rfl⟩, ho⟩
    · rintro ⟨st', k', ⟨rfl, rfl⟩, ho⟩
      exact ⟨_, ho, rfl⟩

/-- The reads of a history. -/
def reads (h : List (Obs σ Λ)) : List (Λ × σ) :=
  h.filterMap fun
    | .saw l b => some (l, b)
    | .wrote _ => none

theorem mem_reads {h : List (Obs σ Λ)} {l : Λ} {b : σ} : (l, b) ∈ reads h ↔ .saw l b ∈ h := by
  simp only [reads, List.mem_filterMap]
  constructor
  · rintro ⟨o, ho, heq⟩
    cases o with
    | saw l' b' =>
      obtain ⟨rfl, rfl⟩ : l' = l ∧ b' = b := by simpa using heq
      exact ho
    | wrote w => simp at heq
  · exact fun h => ⟨_, h, rfl⟩

/-- The states a history has read, oldest first. -/
def statesRead (h : List (Obs σ Λ)) : List σ := ((reads h).map (·.2)).reverse

@[simp] theorem statesRead_nil : statesRead ([] : List (Obs σ Λ)) = [] := rfl

@[simp] theorem statesRead_saw (l : Λ) (b : σ) (h : List (Obs σ Λ)) :
    statesRead (.saw l b :: h) = statesRead h ++ [b] := by
  simp [statesRead, reads]

theorem statesRead_append (o h : List (Obs σ Λ)) :
    statesRead (o ++ h) = statesRead h ++ statesRead o := by
  simp [statesRead, reads]

theorem mem_statesRead {h : List (Obs σ Λ)} {b : σ} :
    b ∈ statesRead h ↔ ∃ l, .saw l b ∈ h := by
  simp only [statesRead, List.mem_reverse, List.mem_map]
  constructor
  · rintro ⟨⟨l, b'⟩, hmem, rfl⟩
    exact ⟨l, mem_reads.mp hmem⟩
  · rintro ⟨l, hmem⟩
    exact ⟨(l, b), mem_reads.mpr hmem, rfl⟩

section Check

variable {V : ℕ → (σ → σ) → Λ → σ → σ → Prop}

theorem valid_step {c : Config σ κ Λ ε α} {i : ℕ} :
    Valid V c (.step i) ↔ ∀ s ∈ c.sessions[i]?.toList, ∀ w ∈ s.published c.db,
      ∀ r ∈ reads s.trace, V i w r.1 r.2 c.db := by
  constructor
  · intro hv s hs w hw r hr
    exact hv i s w rfl (Option.mem_toList.mp hs) (Session.mem_published.mp hw) r.1 r.2
      (mem_reads.mp hr)
  · rintro hv j s w heq hs hw l b hm
    cases heq
    exact hv s (Option.mem_toList.mpr hs) w (Session.mem_published.mpr hw) (l, b)
      (mem_reads.mpr hm)

variable [∀ i w l b now, Decidable (V i w l b now)]

instance (c : Config σ κ Λ ε α) : (ev : Event) → Decidable (Valid V c ev)
  | .step _ => decidable_of_iff _ valid_step.symm
  | .fault _ _ => .isTrue fun _ _ _ heq => by cases heq
  | .crash _ => .isTrue fun _ _ _ heq => by cases heq

instance decidableValidRun [DecidableEq κ] :
    (evs : List Event) → (c : Config σ κ Λ ε α) → Decidable (ValidRun V c evs)
  | [], _ => .isTrue trivial
  | ev :: evs, c =>
    have := decidableValidRun evs
    match hn : c.next ev with
    | none => decidable_of_iff (Valid V c ev) <| by simp [ValidRun, hn]
    | some c' => decidable_of_iff (Valid V c ev ∧ ValidRun V c' evs) <| by simp [ValidRun, hn]

end Check

/-- What a statement does to the committed state: nothing, or the one write it publishes. -/
theorem Stmt.exec_cases (st : Stmt σ κ Λ ε) (t : Tx σ) (db : σ) :
    ((st.exec t db).db = db ∧ (st.exec t db).obs.filterMap Obs.write? = []) ∨
      ∃ w, (st.exec t db).obs = [.wrote w] ∧ (st.exec t db).db = w db := by
  cases st with
  | write rows f =>
    cases t with
    | idle =>
      cases hf : f db with
      | error e => exact .inl (by simp [exec, hf])
      | ok db' => exact .inr ⟨applied f, by simp [exec, hf], by simp [exec, hf, applied]⟩
    | active w => cases hf : f (w db) <;> exact .inl (by simp [exec, hf])
    | aborted => exact .inl ⟨rfl, rfl⟩
  | commit =>
    cases t with
    | active w => exact .inr ⟨w, rfl, rfl⟩
    | idle => exact .inl ⟨rfl, rfl⟩
    | aborted => exact .inl ⟨rfl, rfl⟩
  | read l => cases t <;> exact .inl ⟨rfl, rfl⟩
  | lock l rows => cases t <;> exact .inl ⟨rfl, rfl⟩
  | begin => cases t <;> exact .inl ⟨rfl, rfl⟩
  | rollback => cases t <;> exact .inl ⟨rfl, rfl⟩

theorem Stmt.saw_exec {st : Stmt σ κ Λ ε} {t : Tx σ} {db b : σ} {l : Λ}
    (h : .saw l b ∈ (st.exec t db).obs) : b = db := by
  cases st with
  | write rows f =>
    cases t with
    | idle => cases hf : f db <;> simp [exec, hf] at h
    | active w => cases hf : f (w db) <;> simp [exec, hf] at h
    | aborted => simp [exec] at h
  | read l => cases t <;> simp [exec] at h <;> exact h.2
  | lock l rows => cases t <;> simp [exec] at h <;> exact h.2
  | begin => cases t <;> simp [exec] at h
  | commit => cases t <;> simp [exec] at h
  | rollback => cases t <;> simp [exec] at h

theorem justified_append {C : List (Obs σ Λ) → (σ → σ) → Prop} {h o : List (Obs σ Λ)}
    (hj : Justified C h) (ho : o.filterMap Obs.write? = []) : Justified C (o ++ h) := by
  induction o with
  | nil => exact hj
  | cons x o ih =>
    cases x with
    | saw l b => exact ih (by simpa [Obs.write?] using ho)
    | wrote w => simp [Obs.write?] at ho

/-- How a session moves in one event on `db`, and the write it publishes. -/
inductive Session.Moves (db : σ) (s : Session σ κ Λ ε α) :
    Session σ κ Λ ε α → Option (σ → σ) → Prop where
  | quiet {st k held} (hp : s.prog = .exec st k)
      (ho : (st.exec s.tx db).obs.filterMap Obs.write? = []) :
      s.Moves db ⟨k (st.exec s.tx db).reply, (st.exec s.tx db).tx, held,
        (st.exec s.tx db).obs ++ s.trace⟩ none
  | publish {st k held w} (hp : s.prog = .exec st k) (ho : (st.exec s.tx db).obs = [.wrote w]) :
      s.Moves db ⟨k (st.exec s.tx db).reply, (st.exec s.tx db).tx, held,
        (st.exec s.tx db).obs ++ s.trace⟩ (some w)
  | fail {st k held} (m : String) (hp : s.prog = .exec st k) :
      s.Moves db ⟨k (.error (lost m)), st.fault s.tx, held, s.trace⟩ none
  | die (e : ε) : s.Moves db ⟨.throw e, .idle, [], s.trace⟩ none

namespace Config

variable [DecidableEq κ] {c c' : Config σ κ Λ ε α}

/-- The run rule for schedules: what every valid event keeps, a valid schedule keeps. -/
theorem run_valid {V : ℕ → (σ → σ) → Λ → σ → σ → Prop} (Inv : Config σ κ Λ ε α → Prop)
    (hstep : ∀ c ev c', Inv c → Valid V c ev → c.next ev = some c' → Inv c') :
    ∀ evs c, Inv c → ValidRun V c evs → c.run evs = some c' → Inv c' := by
  intro evs
  induction evs with
  | nil =>
    intro c hc _ hrun
    cases hrun
    exact hc
  | cons ev evs ih =>
    intro c hc hv hrun
    cases hnext : c.next ev with
    | none => simp [run, hnext] at hrun
    | some c₁ =>
      simp only [run, hnext, Option.bind_some] at hrun
      exact ih c₁ (hstep c ev c₁ hc hv.1 hnext) (hv.2 c₁ hnext) hrun

/-- The inversion of an event: session `i` moves, and what it publishes reaches the database
and the log. -/
theorem next_moves {ev : Event} (hn : c.next ev = some c') :
    ∃ i s s', c.sessions[i]? = some s ∧ c'.sessions = c.sessions.set i s' ∧
      ((s.Moves c.db s' none ∧ c'.db = c.db ∧ c'.log = c.log) ∨
        ∃ w, ev = .step i ∧ s.Publishes c.db w ∧ s.Moves c.db s' (some w) ∧
          c'.db = w c.db ∧ c'.log = (i, w) :: c.log) := by
  cases ev with
  | step i =>
    cases hs : c.sessions[i]? with
    | none => simp [next, hs] at hn
    | some s =>
      cases hp : s.prog with
      | ret a => simp [next, hs, hp] at hn
      | throw e => simp [next, hs, hp] at hn
      | exec st k =>
        simp only [next, hs, hp, Option.ite_none_left_eq_some, Option.some.injEq] at hn
        obtain ⟨-, rfl⟩ := hn
        rcases st.exec_cases s.tx c.db with ⟨hdb, hobs⟩ | ⟨w, hobs, hdb⟩
        · exact ⟨i, s, _, hs, rfl, .inl ⟨.quiet hp hobs, hdb, by simp [after, hobs]⟩⟩
        · exact ⟨i, s, _, hs, rfl, .inr ⟨w, rfl, ⟨st, k, hp, by simp [hobs]⟩, .publish hp hobs,
            hdb, by simp [after, hobs, Obs.write?]⟩⟩
  | fault i m =>
    cases hs : c.sessions[i]? with
    | none => simp [next, hs] at hn
    | some s =>
      cases hp : s.prog with
      | ret a => simp [next, hs, hp] at hn
      | throw e' => simp [next, hs, hp] at hn
      | exec st k =>
        simp only [next, hs, hp, Option.some.injEq] at hn
        subst hn
        exact ⟨i, s, _, hs, rfl, .inl ⟨.fail m hp, rfl, rfl⟩⟩
  | crash i =>
    cases hs : c.sessions[i]? with
    | none => simp [next, hs] at hn
    | some s =>
      simp only [next, hs, Option.some.injEq] at hn
      subst hn
      exact ⟨i, s, _, hs, rfl, .inl ⟨.die _, rfl, rfl⟩⟩

/-- Each session still satisfies its `wp`, and justified what it has published. -/
def Sound (C : ℕ → List (Obs σ Λ) → (σ → σ) → Prop) (c : Config σ κ Λ ε α) : Prop :=
  ∀ (i : ℕ) s, c.sessions[i]? = some s →
    Justified (C i) s.trace ∧
      s.prog.wp (C i) (fun _ _ _ => True) (fun _ _ _ => True) s.trace s.tx

/-- Every committed state a session has looked at satisfies `I`. -/
def Seen (I : σ → Prop) (c : Config σ κ Λ ε α) : Prop :=
  ∀ (i : ℕ) s, c.sessions[i]? = some s → ∀ l b, .saw l b ∈ s.trace → I b

variable {C : ℕ → List (Obs σ Λ) → (σ → σ) → Prop} {I : σ → Prop}

omit [DecidableEq κ] in
theorem sound_start {db : σ} {calls : List (Prog σ κ Λ ε α)}
    (h : ∀ (i : ℕ) p, calls[i]? = some p →
      p.wp (C i) (fun _ _ _ => True) (fun _ _ _ => True) [] .idle) :
    Sound C (start db calls) := by
  intro i s hs
  simp only [start, List.getElem?_map, Option.map_eq_some_iff] at hs
  obtain ⟨p, hp, rfl⟩ := hs
  exact ⟨justified_nil, h i p hp⟩

omit [DecidableEq κ] [Faults ε] in
theorem seen_start {db : σ} {calls : List (Prog σ κ Λ ε α)} : Seen I (start db calls) := by
  intro i s hs l b hm
  simp only [start, List.getElem?_map, Option.map_eq_some_iff] at hs
  obtain ⟨p, -, rfl⟩ := hs
  simp [Session.start] at hm

omit [DecidableEq κ] [Faults ε] in
theorem forall_sessions_set {Q : ℕ → Session σ κ Λ ε α → Prop} {l : List (Session σ κ Λ ε α)}
    {i : ℕ} {s' : Session σ κ Λ ε α} (h : ∀ j s, l[j]? = some s → Q j s) (hi : Q i s') :
    ∀ j s, (l.set i s')[j]? = some s → Q j s := by
  intro j s hs
  rw [List.getElem?_set] at hs
  by_cases hij : i = j
  · subst hij
    by_cases hlt : i < l.length
    · simp only [hlt, if_true, Option.some.injEq] at hs
      exact hs ▸ hi
    · simp [hlt] at hs
  · exact h j s (by simpa [hij] using hs)

omit [DecidableEq κ] in
theorem moves_sound {i : ℕ} {db : σ} {s s' : Session σ κ Λ ε α} {o : Option (σ → σ)}
    {P : α → List (Obs σ Λ) → Tx σ → Prop} (hm : s.Moves db s' o) (hj : Justified (C i) s.trace)
    (hwp : s.prog.wp (C i) P (fun _ _ _ => True) s.trace s.tx) :
    Justified (C i) s'.trace ∧ s'.prog.wp (C i) P (fun _ _ _ => True) s'.trace s'.tx := by
  cases hm with
  | quiet hp ho =>
    rw [hp] at hwp
    exact ⟨justified_append hj ho, (hwp.1 db).2⟩
  | publish hp ho =>
    rw [hp] at hwp
    obtain ⟨hC, hk⟩ := hwp.1 db
    refine ⟨?_, hk⟩
    rw [ho] at hC ⊢
    exact ⟨hC _ (by simp), hj⟩
  | fail m hp =>
    rw [hp] at hwp
    exact ⟨hj, hwp.2 m⟩
  | die e => exact ⟨hj, trivial⟩

omit [DecidableEq κ] in
/-- What a session that moves has seen: the committed state, or what it saw before. -/
theorem moves_seen {db b : σ} {l : Λ} {s s' : Session σ κ Λ ε α} {o : Option (σ → σ)}
    (hm : s.Moves db s' o) (hsaw : .saw l b ∈ s'.trace) : b = db ∨ .saw l b ∈ s.trace := by
  cases hm with
  | quiet hp ho => exact (List.mem_append.mp hsaw).imp_left Stmt.saw_exec
  | publish hp ho => exact (List.mem_append.mp hsaw).imp_left Stmt.saw_exec
  | fail m hp => exact .inr hsaw
  | die e => exact .inr hsaw

theorem Sound.next {ev : Event} (hs : Sound C c) (hn : c.next ev = some c') : Sound C c' := by
  obtain ⟨i, s, s', hsi, hset, hcase⟩ := next_moves hn
  obtain ⟨hj, hwp⟩ := hs i s hsi
  have hs' : Justified (C i) s'.trace ∧
      s'.prog.wp (C i) (fun _ _ _ => True) (fun _ _ _ => True) s'.trace s'.tx := by
    rcases hcase with ⟨hm, -, -⟩ | ⟨w, -, -, hm, -, -⟩
    · exact moves_sound hm hj hwp
    · exact moves_sound hm hj hwp
  intro j t ht
  rw [hset] at ht
  exact forall_sessions_set (Q := fun j t => Justified (C j) t.trace ∧
    t.prog.wp (C j) (fun _ _ _ => True) (fun _ _ _ => True) t.trace t.tx) hs hs' j t ht

theorem Seen.next {ev : Event} (hs : Seen I c) (hI : I c.db) (hn : c.next ev = some c') :
    Seen I c' := by
  obtain ⟨i, s, s', hsi, hset, hcase⟩ := next_moves hn
  have hs' : ∀ l b, .saw l b ∈ s'.trace → I b := by
    intro l b hm
    have hor : b = c.db ∨ .saw l b ∈ s.trace := by
      rcases hcase with ⟨hmv, -, -⟩ | ⟨w, -, -, hmv, -, -⟩
      · exact moves_seen hmv hm
      · exact moves_seen hmv hm
    rcases hor with rfl | hold
    · exact hI
    · exact hs i s hsi l b hold
  intro j t ht
  rw [hset] at ht
  exact forall_sessions_set (Q := fun _ t => ∀ l b, Obs.saw l b ∈ t.trace → I b) hs hs' j t ht

theorem next_cases {V : ℕ → (σ → σ) → Λ → σ → σ → Prop} {ev : Event} (hs : Sound C c)
    (hseen : Seen I c) (hv : Valid V c ev) (hn : c.next ev = some c') :
    c'.db = c.db ∨ ∃ i h w, C i h w ∧ (∀ l b, .saw l b ∈ h → I b ∧ V i w l b c.db) ∧
      c'.db = w c.db := by
  obtain ⟨i, s, s', hsi, -, ⟨-, hdb, -⟩ | ⟨w, hev, hpub, -, hdb, -⟩⟩ := next_moves hn
  · exact .inl hdb
  · have hreads := hv i s w hev hsi hpub
    obtain ⟨st, k, hp, hmem⟩ := hpub
    obtain ⟨-, hwp⟩ := hs i s hsi
    rw [hp] at hwp
    exact .inr ⟨i, s.trace, w, (hwp.1 c.db).1 w hmem,
      fun l b hm => ⟨hseen i s hsi l b hm, hreads l b hm⟩, hdb⟩

/-- Each event of the schedule that happens relates the committed states around it. -/
def EveryStep (R : σ → σ → Prop) : Config σ κ Λ ε α → List Event → Prop
  | _, [] => True
  | c, ev :: evs => ∀ c', c.next ev = some c' → R c.db c'.db ∧ EveryStep R c' evs

instance decidableEveryStep (R : σ → σ → Prop) [∀ s s', Decidable (R s s')] :
    (evs : List Event) → (c : Config σ κ Λ ε α) → Decidable (c.EveryStep R evs)
  | [], _ => .isTrue trivial
  | ev :: evs, c =>
    have := decidableEveryStep R evs
    match hn : c.next ev with
    | none => .isTrue <| by simp [EveryStep, hn]
    | some c' => decidable_of_iff (R c.db c'.db ∧ c'.EveryStep R evs) <| by simp [EveryStep, hn]

theorem EveryStep.invariant {R : σ → σ → Prop} {Q : σ → Prop}
    (hQ : ∀ s s', R s s' → Q s → Q s') :
    ∀ evs (c : Config σ κ Λ ε α), c.EveryStep R evs → c.run evs = some c' → Q c.db → Q c'.db := by
  intro evs
  induction evs with
  | nil =>
    intro c _ hrun hc
    cases hrun
    exact hc
  | cons ev evs ih =>
    intro c hs hrun hc
    cases hnext : c.next ev with
    | none => simp [run, hnext] at hrun
    | some c₁ =>
      obtain ⟨hR, hrest⟩ := hs c₁ hnext
      simp only [run, hnext, Option.bind_some] at hrun
      exact ih c₁ hrest hrun (hQ _ _ hR hc)

theorem EveryStep.mono {R R' : σ → σ → Prop} (hR : ∀ s s', R s s' → R' s s') :
    ∀ {evs} {c : Config σ κ Λ ε α}, c.EveryStep R evs → c.EveryStep R' evs := by
  intro evs
  induction evs with
  | nil => exact fun _ => trivial
  | cons ev evs ih => exact fun h c' hn => ⟨hR _ _ (h c' hn).1, ih (h c' hn).2⟩

theorem EveryStep.drop {R : σ → σ → Prop} {evs₂ : List Event} {c₁ : Config σ κ Λ ε α} :
    ∀ evs₁ (c : Config σ κ Λ ε α), c.EveryStep R (evs₁ ++ evs₂) → c.run evs₁ = some c₁ →
      c₁.EveryStep R evs₂ := by
  intro evs₁
  induction evs₁ with
  | nil =>
    intro c hs hrun
    cases hrun
    exact hs
  | cons ev evs ih =>
    intro c hs hrun
    cases hnext : c.next ev with
    | none => simp [run, hnext] at hrun
    | some c' =>
      simp only [run, hnext, Option.bind_some] at hrun
      exact ih c' (hs c' hnext).2 hrun

section Invariant

variable {V : ℕ → (σ → σ) → Λ → σ → σ → Prop} {db : σ} {calls : List (Prog σ κ Λ ε α)}
  {evs : List (Event)}

/-- The invariant rule for interleaved sessions: if every write keeps `I` whenever its reads
are still valid, then `I` holds in every state a valid schedule reaches. -/
theorem run_invariant
    (hwp : ∀ (i : ℕ) p, calls[i]? = some p →
      p.wp (C i) (fun _ _ _ => True) (fun _ _ _ => True) [] .idle)
    (hC : ∀ i h w now, C i h w → (∀ l b, .saw l b ∈ h → I b ∧ V i w l b now) → I now → I (w now))
    (hI : I db) (hv : ValidRun V (start db calls) evs) (hrun : (start db calls).run evs = some c) :
    Sound C c ∧ Seen I c ∧ I c.db := by
  refine run_valid (fun c => Sound C c ∧ Seen I c ∧ I c.db) ?_ evs (start db calls)
    ⟨sound_start hwp, seen_start, hI⟩ hv hrun
  rintro c ev c' ⟨hs, hseen, hI⟩ hval hn
  refine ⟨hs.next hn, hseen.next hI hn, ?_⟩
  rcases next_cases hs hseen hval hn with hdb | ⟨i, h, w, hCw, hreads, hdb⟩
  · exact hdb ▸ hI
  · exact hdb ▸ hC i h w c.db hCw hreads hI

/-- The rule for steps: if every write whose reads are still valid relates the states around
it by `R`, then so does every step of a valid schedule. -/
theorem run_steps {R : σ → σ → Prop}
    (hwp : ∀ (i : ℕ) p, calls[i]? = some p →
      p.wp (C i) (fun _ _ _ => True) (fun _ _ _ => True) [] .idle)
    (hrefl : ∀ s, R s s)
    (hC : ∀ i h w now, C i h w → (∀ l b, .saw l b ∈ h → V i w l b now) → R now (w now)) :
    ∀ evs, ValidRun V (start db calls) evs → (start db calls).EveryStep R evs := by
  have hsteps : ∀ evs (c : Config σ κ Λ ε α), Sound C c → ValidRun V c evs →
      c.EveryStep R evs := by
    intro evs
    induction evs with
    | nil => exact fun _ _ _ => trivial
    | cons ev evs ih =>
      intro c hs hv c' hn
      refine ⟨?_, ih c' (hs.next hn) (hv.2 c' hn)⟩
      have hseen : Seen (fun _ => True) c := fun _ _ _ _ _ _ => trivial
      rcases next_cases hs hseen hv.1 hn with hdb | ⟨i, h, w, hCw, hreads, hdb⟩
      · exact hdb ▸ hrefl c.db
      · exact hdb ▸ hC i h w c.db hCw fun l b hm => (hreads l b hm).2
  exact fun evs hv => hsteps evs (start db calls) (sound_start hwp) hv

end Invariant

end Config

end ReadCommitted
