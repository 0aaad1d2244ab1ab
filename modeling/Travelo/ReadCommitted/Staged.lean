import Travelo.ReadCommitted.Watched

/-!
# Programs in stages

A method that opens no transaction is a machine: what is left of it is one of a few programs, each
named by a value of a type `Φ` that holds what the method knows by then. A `Staging` says of each
what its next statement is and which program follows the reply.

`Tracks` ties the sessions of a configuration to the places they have reached, `Tracks.next` is
the inversion of an event, and `Staging.run_throughout` is the run rule for an invariant on the
committed state and the places of all sessions.
-/

namespace ReadCommitted

variable {σ κ Λ ε α Φ : Type} [Faults ε]

/-- What comes next, and the place that follows it. -/
inductive Stage (σ Λ ε Φ : Type) where
  | ended
  | read (l : Λ) (next : σ → Φ) (failed : ε → Φ)
  | write (f : σ → Except ε σ) (next : σ → Φ) (failed : ε → Φ)

omit [Faults ε] in
/-- The program is at the stage. -/
def Prog.At (prog : Φ → Prog σ κ Λ ε α) (p : Prog σ κ Λ ε α) : Stage σ Λ ε Φ → Prop
  | .ended => p.running = false
  | .read l next failed => ∃ k, p = .exec (.read l) k ∧ (∀ db, k (.ok db) = prog (next db)) ∧
      ∀ e, k (.error e) = prog (failed e)
  | .write f next failed => ∃ rows k, p = .exec (.write rows f) k ∧
      (∀ db, k (.ok db) = prog (next db)) ∧ ∀ e, k (.error e) = prog (failed e)

omit [Faults ε] in
theorem Prog.At.running {prog : Φ → Prog σ κ Λ ε α} {p : Prog σ κ Λ ε α} {st : Stage σ Λ ε Φ}
    (h : p.At prog st) (hst : st ≠ .ended) : p.running = true := by
  cases st with
  | ended => exact absurd rfl hst
  | read l next failed =>
    rcases h with ⟨k, rfl, -⟩
    rfl
  | write f next failed =>
    rcases h with ⟨rows, k, rfl, -⟩
    rfl

omit [Faults ε] in
theorem Session.answer_of_running {s : Session σ κ Λ ε α} (h : s.prog.running = true) :
    s.answer = none := by
  unfold Session.answer
  cases hp : s.prog with
  | ret a =>
    rw [hp] at h
    cases h
  | _ => rfl

/-- Programs named by places; see the module's introduction. -/
structure Staging (σ κ Λ ε α Φ : Type) [Faults ε] where
  prog : Φ → Prog σ κ Λ ε α
  stage : Φ → Stage σ Λ ε Φ
  at_stage : ∀ φ, (prog φ).At prog (stage φ)
  /-- The place of a session that has died. -/
  dead : Φ
  dead_prog : prog dead = .throw (lost "crash")

namespace Staging

variable (S : Staging σ κ Λ ε α Φ)

/-- Each session is at its place, outside a transaction. -/
def Tracks (c : Config σ κ Λ ε α) (φs : List Φ) : Prop :=
  c.sessions.length = φs.length ∧ ∀ (i : ℕ) φ s, φs[i]? = some φ → c.sessions[i]? = some s →
    s.prog = S.prog φ ∧ s.tx = .idle

/-- What an event does to the session at the place `φ`. -/
inductive Moves (c c' : Config σ κ Λ ε α) :
    Event → ℕ → Φ → Φ → Session σ κ Λ ε α → Session σ κ Λ ε α → Prop where
  | read {i φ s s' l next failed} (hstage : S.stage φ = .read l next failed) (hdb : c'.db = c.db)
    (htrace : s'.trace = .saw l c.db :: s.trace) : Moves c c' (.step i) i φ (next c.db) s s'
  | wrote {i φ s s' f next failed} (hstage : S.stage φ = .write f next failed)
    (hok : f c.db = .ok c'.db) (hpublishes : s.Publishes c.db (applied f))
    (htrace : s'.trace = .wrote (applied f) :: s.trace) : Moves c c' (.step i) i φ (next c.db) s s'
  | refused {i φ s s' f next failed e} (hstage : S.stage φ = .write f next failed)
    (herror : f c.db = .error e) (hdb : c'.db = c.db) (htrace : s'.trace = s.trace) :
    Moves c c' (.step i) i φ (failed e) s s'
  | unread {i φ s s' l next failed m} (hstage : S.stage φ = .read l next failed)
    (hdb : c'.db = c.db) (htrace : s'.trace = s.trace) :
    Moves c c' (.fault i m) i φ (failed (lost m)) s s'
  | unwritten {i φ s s' f next failed m} (hstage : S.stage φ = .write f next failed)
    (hdb : c'.db = c.db) (htrace : s'.trace = s.trace) :
    Moves c c' (.fault i m) i φ (failed (lost m)) s s'
  | died {i φ s s'} (hdb : c'.db = c.db) (htrace : s'.trace = s.trace) :
    Moves c c' (.crash i) i φ S.dead s s'

variable {S} {c c' : Config σ κ Λ ε α} {φs : List Φ}

theorem tracks_start {db : σ} (φs : List Φ) : S.Tracks (.start db (φs.map S.prog)) φs := by
  constructor
  · simp [Config.start]
  · intro i φ s hφ hs
    simp only [Config.start, List.getElem?_map, Option.map_eq_some_iff] at hs
    rcases hs with ⟨p, ⟨φ', hφ', rfl⟩, rfl⟩
    cases hφ.symm.trans hφ'
    exact ⟨rfl, rfl⟩

theorem Tracks.place (ht : S.Tracks c φs) {i : ℕ} {s : Session σ κ Λ ε α}
    (hs : c.sessions[i]? = some s) : ∃ φ, φs[i]? = some φ ∧ s.prog = S.prog φ ∧ s.tx = .idle := by
  have hlt : i < φs.length := ht.1 ▸ (List.getElem?_eq_some_iff.mp hs).1
  exact ⟨φs[i], List.getElem?_eq_getElem hlt, ht.2 i _ s (List.getElem?_eq_getElem hlt) hs⟩

theorem Tracks.session (ht : S.Tracks c φs) {i : ℕ} {φ : Φ} (hφ : φs[i]? = some φ) :
    ∃ s, c.sessions[i]? = some s ∧ s.prog = S.prog φ ∧ s.tx = .idle := by
  have hlt : i < c.sessions.length := ht.1.symm ▸ (List.getElem?_eq_some_iff.mp hφ).1
  have hs := List.getElem?_eq_getElem hlt
  exact ⟨_, hs, ht.2 i φ _ hφ hs⟩

theorem Tracks.set (ht : S.Tracks c φs) {i : ℕ} {φ : Φ} {s : Session σ κ Λ ε α}
    (hset : c'.sessions = c.sessions.set i s) (hprog : s.prog = S.prog φ) (htx : s.tx = .idle) :
    S.Tracks c' (φs.set i φ) := by
  constructor
  · rw [hset, List.length_set, List.length_set]
    exact ht.1
  · intro j φ' s' hφ' hs'
    rw [hset] at hs'
    by_cases hj : i = j
    · subst hj
      rw [List.getElem?_set] at hφ' hs'
      simp only [if_true] at hφ' hs'
      split_ifs at hφ' hs'
      cases hφ'
      cases hs'
      exact ⟨hprog, htx⟩
    · rw [List.getElem?_set_ne hj] at hφ' hs'
      exact ht.2 j φ' s' hφ' hs'

variable [DecidableEq κ]

theorem Tracks.next {ev : Event} (ht : S.Tracks c φs) (hn : c.next ev = some c') :
    ∃ i φ φ' s s', φs[i]? = some φ ∧ c.sessions[i]? = some s ∧
      c'.sessions = c.sessions.set i s' ∧ S.Tracks c' (φs.set i φ') ∧
      S.Moves c c' ev i φ φ' s s' := by
  cases ev with
  | step i =>
    cases hs : c.sessions[i]? with
    | none => simp [Config.next, hs] at hn
    | some s =>
      rcases ht.place hs with ⟨φ, hφ, hprog, htx⟩
      have hat := S.at_stage φ
      rw [← hprog] at hat
      cases hstage : S.stage φ with
      | ended =>
        rw [hstage] at hat
        cases hp : s.prog with
        | ret a => simp [Config.next, hs, hp] at hn
        | throw e => simp [Config.next, hs, hp] at hn
        | exec st k =>
          rw [hp] at hat
          cases hat
      | read l next failed =>
        rw [hstage] at hat
        rcases hat with ⟨k, hp, hnext, -⟩
        simp only [Config.next, hs, hp, Option.ite_none_left_eq_some, Option.some.injEq] at hn
        rcases hn with ⟨-, rfl⟩
        refine ⟨i, φ, _, s, _, hφ, hs, rfl, ht.set rfl ?_ ?_, .read hstage ?_ ?_⟩
        · simp only [htx, Stmt.exec]
          exact hnext c.db
        · simp [htx, Stmt.exec]
        · simp [Config.after, htx, Stmt.exec]
        · simp [htx, Stmt.exec]
      | write f next failed =>
        rw [hstage] at hat
        rcases hat with ⟨rows, k, hp, hnext, hfailed⟩
        simp only [Config.next, hs, hp, Option.ite_none_left_eq_some, Option.some.injEq] at hn
        rcases hn with ⟨-, rfl⟩
        cases hf : f c.db with
        | ok db' =>
          refine ⟨i, φ, _, s, _, hφ, hs, rfl, ht.set rfl ?_ ?_, .wrote hstage ?_ ?_ ?_⟩
          · simp only [htx, Stmt.exec, hf]
            exact hnext c.db
          · simp [htx, Stmt.exec, hf]
          · simp [Config.after, htx, Stmt.exec, hf]
          · exact ⟨_, k, hp, by simp [htx, Stmt.exec, hf]⟩
          · simp [htx, Stmt.exec, hf]
        | error e =>
          refine ⟨i, φ, _, s, _, hφ, hs, rfl, ht.set rfl ?_ ?_, .refused hstage hf ?_ ?_⟩
          · simp only [htx, Stmt.exec, hf]
            exact hfailed e
          · simp [htx, Stmt.exec, hf]
          · simp [Config.after, htx, Stmt.exec, hf]
          · simp [htx, Stmt.exec, hf]
  | fault i m =>
    cases hs : c.sessions[i]? with
    | none => simp [Config.next, hs] at hn
    | some s =>
      rcases ht.place hs with ⟨φ, hφ, hprog, htx⟩
      have hat := S.at_stage φ
      rw [← hprog] at hat
      cases hstage : S.stage φ with
      | ended =>
        rw [hstage] at hat
        cases hp : s.prog with
        | ret a => simp [Config.next, hs, hp] at hn
        | throw e => simp [Config.next, hs, hp] at hn
        | exec st k =>
          rw [hp] at hat
          cases hat
      | read l next failed =>
        rw [hstage] at hat
        rcases hat with ⟨k, hp, -, hfailed⟩
        simp only [Config.next, hs, hp, Option.some.injEq] at hn
        subst hn
        refine ⟨i, φ, _, s, _, hφ, hs, rfl, ht.set rfl (hfailed _) ?_, .unread hstage rfl rfl⟩
        simp [htx, Stmt.fault]
      | write f next failed =>
        rw [hstage] at hat
        rcases hat with ⟨rows, k, hp, -, hfailed⟩
        simp only [Config.next, hs, hp, Option.some.injEq] at hn
        subst hn
        refine ⟨i, φ, _, s, _, hφ, hs, rfl, ht.set rfl (hfailed _) ?_, .unwritten hstage rfl rfl⟩
        simp [htx, Stmt.fault]
  | crash i =>
    cases hs : c.sessions[i]? with
    | none => simp [Config.next, hs] at hn
    | some s =>
      rcases ht.place hs with ⟨φ, hφ, -, -⟩
      simp only [Config.next, hs, Option.some.injEq] at hn
      subst hn
      exact ⟨i, φ, _, s, _, hφ, hs, rfl, ht.set rfl S.dead_prog.symm rfl, .died rfl rfl⟩

/-- **The run rule.** What every event that satisfies `Q` keeps of the configuration and the
places holds after a schedule of such events. -/
theorem run_throughout {Q : Config σ κ Λ ε α → Event → Prop}
    (I : Config σ κ Λ ε α → List Φ → Prop)
    (hstep : ∀ (c c' : Config σ κ Λ ε α) φs ev i φ φ' s s', S.Tracks c φs → I c φs → Q c ev →
      φs[i]? = some φ → c.sessions[i]? = some s → c'.sessions = c.sessions.set i s' →
      S.Moves c c' ev i φ φ' s s' → I c' (φs.set i φ'))
    {db : σ} (hstart : I (.start db (φs.map S.prog)) φs) {evs : List Event}
    (hq : (Config.start db (φs.map S.prog)).Throughout Q evs)
    (hrun : (Config.start db (φs.map S.prog)).run evs = some c) :
    ∃ φs', S.Tracks c φs' ∧ I c φs' := by
  refine Config.run_throughout (fun c => ∃ φs', S.Tracks c φs' ∧ I c φs') ?_ evs _
    ⟨φs, tracks_start φs, hstart⟩ hq hrun
  rintro c ev c' ⟨φs', ht, hI⟩ hQ hn
  rcases ht.next hn with ⟨i, φ, φ', s, s', hφ, hs, hset, ht', hmove⟩
  exact ⟨_, ht', hstep c c' φs' ev i φ φ' s s' ht hI hQ hφ hs hset hmove⟩

omit [DecidableEq κ] in
theorem Tracks.map_eq {B : Type} (ht : S.Tracks c φs) {f : Session σ κ Λ ε α → B} {g : Φ → B}
    (hfg : ∀ φ s, s.prog = S.prog φ → f s = g φ) : c.sessions.map f = φs.map g := by
  refine List.ext_getElem? fun i => ?_
  rw [List.getElem?_map, List.getElem?_map]
  cases hs : c.sessions[i]? with
  | none =>
    have hlen : φs.length ≤ i := ht.1 ▸ List.getElem?_eq_none_iff.mp hs
    rw [List.getElem?_eq_none hlen]
    rfl
  | some s =>
    rcases ht.place hs with ⟨φ, hφ, hprog, -⟩
    rw [hφ]
    exact congrArg some (hfg φ s hprog)

section Sessions

variable {γ : Type} {calls : List γ} {P P' : ℕ → γ → Φ → Session σ κ Λ ε α → Prop} {i : ℕ}
  {φ φ' : Φ} {s s' : Session σ κ Λ ε α}

/-- `P` holds of each session, of its call and of its place. -/
def EachSession (P : ℕ → γ → Φ → Session σ κ Λ ε α → Prop) (calls : List γ)
    (c : Config σ κ Λ ε α) (φs : List Φ) : Prop :=
  ∀ (i : ℕ) call φ s, calls[i]? = some call → φs[i]? = some φ → c.sessions[i]? = some s →
    P i call φ s

omit [Faults ε] [DecidableEq κ] in
theorem eachSession_start {db : σ} {place : γ → Φ} {prog : Φ → Prog σ κ Λ ε α}
    (h : ∀ (i : ℕ) call, calls[i]? = some call →
      P i call (place call) (.start (prog (place call)))) :
    EachSession P calls (.start db ((calls.map place).map prog)) (calls.map place) := by
  intro i call φ s hcall hφ hs
  rw [List.getElem?_map, hcall] at hφ
  cases hφ
  simp only [Config.start, List.getElem?_map, hcall, Option.map_some, Option.some.injEq] at hs
  subst hs
  exact h i call hcall

omit [Faults ε] [DecidableEq κ] in
theorem EachSession.set (h : EachSession P calls c φs) (hφ : φs[i]? = some φ)
    (hs : c.sessions[i]? = some s) (hset : c'.sessions = c.sessions.set i s')
    (hself : ∀ call, calls[i]? = some call → P i call φ s → P' i call φ' s')
    (hother : ∀ (j : ℕ) call ψ t, j ≠ i → calls[j]? = some call → P j call ψ t → P' j call ψ t) :
    EachSession P' calls c' (φs.set i φ') := by
  intro j call ψ t hcall hψ ht
  rw [hset] at ht
  by_cases hj : i = j
  · subst hj
    rw [List.getElem?_set_self (List.getElem?_eq_some_iff.mp hφ).1] at hψ
    rw [List.getElem?_set_self (List.getElem?_eq_some_iff.mp hs).1] at ht
    cases hψ
    cases ht
    exact hself call hcall (h i call φ s hcall hφ hs)
  · rw [List.getElem?_set_ne hj] at hψ ht
    exact hother j call ψ t (Ne.symm hj) hcall (h j call ψ t hcall hψ ht)

end Sessions

end Staging

namespace Config

variable [DecidableEq κ]

theorem throughout_of_forall {Q : Event → Prop} :
    ∀ {evs : List Event} {c : Config σ κ Λ ε α}, (∀ ev ∈ evs, Q ev) →
      c.Throughout (fun _ ev => Q ev) evs := by
  intro evs
  induction evs with
  | nil => exact fun _ => trivial
  | cons ev evs ih =>
    intro c h
    exact ⟨h ev List.mem_cons_self, fun c' _ => ih fun e he => h e (List.mem_cons_of_mem _ he)⟩

end Config

end ReadCommitted
