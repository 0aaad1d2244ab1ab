import Mathlib.Logic.Relation
import Travelo.ReadCommitted.Schedule

/-!
# Schedules under a condition

`ValidRun` asks of every write that all its session has read still holds. A guard is weaker:
it is any condition on a write, on what its session did before it and on the state it lands
on. `Config.Throughout` says that a condition on events holds at each event of a schedule,
and `Config.run_throughout` is the run rule for it.

`Proving` keeps the postconditions of the sessions next to their obligations, so that the
history of a session that has answered is known.
-/

namespace ReadCommitted

variable {σ κ Λ ε α : Type}

/-- The number of writes a history published. -/
def writes (h : List (Obs σ Λ)) : ℕ := (h.filterMap Obs.write?).length

section Histories

variable {h : List (Obs σ Λ)}

@[simp] theorem writes_nil : writes ([] : List (Obs σ Λ)) = 0 := rfl

@[simp] theorem writes_saw (l : Λ) (s : σ) : writes (.saw l s :: h) = writes h := rfl

@[simp] theorem writes_wrote (w : σ → σ) : writes (.wrote w :: h) = writes h + 1 := rfl

theorem writes_append {o : List (Obs σ Λ)} (ho : Quiet o) : writes (o ++ h) = writes h := by
  induction o with
  | nil => rfl
  | cons x o ih =>
    cases x with
    | saw l s => exact ih ho
    | wrote w => exact absurd ho quiet_wrote

end Histories

/-- The reads of a history since its newest write. -/
def readsSinceWrite : List (Obs σ Λ) → List (Λ × σ)
  | .saw l s :: h => (l, s) :: readsSinceWrite h
  | _ => []

variable [Faults ε]

/-- If the event publishes a write of session `i`, `G i` holds of the write, of what its session
did before and of the state it lands on. -/
def GuardedAt (G : ℕ → (σ → σ) → List (Obs σ Λ) → σ → Prop) (c : Config σ κ Λ ε α) (ev : Event) :
    Prop :=
  ∀ i s w, ev = .step i → c.sessions[i]? = some s → s.Publishes c.db w → G i w s.trace c.db

theorem guardedAt_step {G : ℕ → (σ → σ) → List (Obs σ Λ) → σ → Prop} {c : Config σ κ Λ ε α}
    {i : ℕ} :
    GuardedAt G c (.step i) ↔
      ∀ s ∈ c.sessions[i]?.toList, ∀ w ∈ s.published c.db, G i w s.trace c.db := by
  constructor
  · intro hg s hs w hw
    exact hg i s w rfl (Option.mem_toList.mp hs) (Session.mem_published.mp hw)
  · rintro hg j s w heq hs hw
    cases heq
    exact hg s (Option.mem_toList.mpr hs) w (Session.mem_published.mpr hw)

instance decidableGuardedAt (G : ℕ → (σ → σ) → List (Obs σ Λ) → σ → Prop)
    [∀ i w h s, Decidable (G i w h s)] (c : Config σ κ Λ ε α) :
    (ev : Event) → Decidable (GuardedAt G c ev)
  | .step _ => decidable_of_iff _ guardedAt_step.symm
  | .fault _ _ => .isTrue fun _ _ _ heq => by cases heq
  | .crash _ => .isTrue fun _ _ _ heq => by cases heq

/-- If the event publishes a write, `G` holds of the write, of what its session did before and
of the state it lands on. -/
def Guarded (G : (σ → σ) → List (Obs σ Λ) → σ → Prop) (c : Config σ κ Λ ε α) (ev : Event) :
    Prop :=
  ∀ i s w, ev = .step i → c.sessions[i]? = some s → s.Publishes c.db w → G w s.trace c.db

instance decidableGuarded (G : (σ → σ) → List (Obs σ Λ) → σ → Prop) [∀ w h s, Decidable (G w h s)]
    (c : Config σ κ Λ ε α) (ev : Event) : Decidable (Guarded G c ev) :=
  inferInstanceAs (Decidable (GuardedAt (fun _ => G) c ev))

/-- The guard of each call of a list, on the sessions that run them. -/
def GuardedCalls {γ : Type} (calls : List γ) (G : γ → (σ → σ) → List (Obs σ Λ) → σ → Prop) :
    Config σ κ Λ ε α → Event → Prop :=
  GuardedAt fun i w h now => ∀ call ∈ calls[i]?, G call w h now

instance decidableGuardedCalls {γ : Type} (calls : List γ)
    (G : γ → (σ → σ) → List (Obs σ Λ) → σ → Prop) [∀ call w h s, Decidable (G call w h s)]
    (c : Config σ κ Λ ε α) (ev : Event) : Decidable (GuardedCalls calls G c ev) :=
  decidableGuardedAt (fun i w h now => ∀ call ∈ calls[i]?, G call w h now) c ev

namespace Config

variable [DecidableEq κ] {c c' : Config σ κ Λ ε α}

/-- `Q` holds at each event of a schedule, in the configuration the event finds. -/
def Throughout (Q : Config σ κ Λ ε α → Event → Prop) : Config σ κ Λ ε α → List Event → Prop
  | _, [] => True
  | c, ev :: evs => Q c ev ∧ ∀ c', c.next ev = some c' → Throughout Q c' evs

instance decidableThroughout (Q : Config σ κ Λ ε α → Event → Prop) [∀ c ev, Decidable (Q c ev)] :
    (evs : List Event) → (c : Config σ κ Λ ε α) → Decidable (c.Throughout Q evs)
  | [], _ => .isTrue trivial
  | ev :: evs, c =>
    have := decidableThroughout Q evs
    match hn : c.next ev with
    | none => decidable_of_iff (Q c ev) <| by simp [Throughout, hn]
    | some c' => decidable_of_iff (Q c ev ∧ c'.Throughout Q evs) <| by simp [Throughout, hn]

/-- The run rule: what every event that satisfies `Q` keeps, a schedule of such events keeps. -/
theorem run_throughout {Q : Config σ κ Λ ε α → Event → Prop} (Inv : Config σ κ Λ ε α → Prop)
    (hstep : ∀ c ev c', Inv c → Q c ev → c.next ev = some c' → Inv c') :
    ∀ evs c, Inv c → c.Throughout Q evs → c.run evs = some c' → Inv c' := by
  intro evs
  induction evs with
  | nil =>
    intro c hc _ hrun
    cases hrun
    exact hc
  | cons ev evs ih =>
    intro c hc hq hrun
    cases hnext : c.next ev with
    | none => simp [run, hnext] at hrun
    | some c₁ =>
      simp only [run, hnext, Option.bind_some] at hrun
      exact ih c₁ (hstep c ev c₁ hc hq.1 hnext) (hq.2 c₁ hnext) hrun

theorem throughout_append {Q : Config σ κ Λ ε α → Event → Prop} {evs' : List Event} :
    ∀ (evs : List Event) (c : Config σ κ Λ ε α), c.Throughout Q (evs ++ evs') →
      c.Throughout Q evs ∧ ∀ c', c.run evs = some c' → c'.Throughout Q evs' := by
  intro evs
  induction evs with
  | nil =>
    intro c hq
    refine ⟨trivial, fun c' hrun => ?_⟩
    cases hrun
    exact hq
  | cons ev evs ih =>
    intro c hq
    refine ⟨⟨hq.1, fun c₁ hn => (ih c₁ (hq.2 c₁ hn)).1⟩, fun c' hrun => ?_⟩
    cases hnext : c.next ev with
    | none => simp [run, hnext] at hrun
    | some c₁ =>
      simp only [run, hnext, Option.bind_some] at hrun
      exact (ih c₁ (hq.2 c₁ hnext)).2 c' hrun

variable {Q Q' : Config σ κ Λ ε α → Event → Prop}

theorem Throughout.and :
    ∀ {evs : List Event} {c : Config σ κ Λ ε α}, c.Throughout Q evs → c.Throughout Q' evs →
      c.Throughout (fun c ev => Q c ev ∧ Q' c ev) evs := by
  intro evs
  induction evs with
  | nil => exact fun _ _ => trivial
  | cons ev evs ih =>
    exact fun h h' => ⟨⟨h.1, h'.1⟩, fun c' hn => ih (h.2 c' hn) (h'.2 c' hn)⟩

theorem Throughout.mono (hQ : ∀ c ev, Q c ev → Q' c ev) :
    ∀ {evs : List Event} {c : Config σ κ Λ ε α}, c.Throughout Q evs → c.Throughout Q' evs := by
  intro evs
  induction evs with
  | nil => exact fun _ => trivial
  | cons ev evs ih => exact fun h => ⟨hQ _ _ h.1, fun c' hn => ih (h.2 c' hn)⟩

theorem run_append {evs' : List Event} : ∀ (evs : List Event) (c : Config σ κ Λ ε α),
    c.run (evs ++ evs') = (c.run evs).bind fun c' => c'.run evs' := by
  intro evs
  induction evs with
  | nil => exact fun _ => rfl
  | cons ev evs ih =>
    intro c
    cases hnext : c.next ev with
    | none => simp [run, hnext]
    | some c₁ => simp [run, hnext, ih c₁]

theorem run_concat {ev : Event} : ∀ {evs : List Event} {c b : Config σ κ Λ ε α},
    c.run evs = some b → c.run (evs ++ [ev]) = some c' → b.next ev = some c' := by
  intro evs
  induction evs with
  | nil =>
    intro c b hb hrun
    cases hb
    simpa [run] using hrun
  | cons e evs ih =>
    intro c b hb hrun
    cases hnext : c.next e with
    | none => simp [run, hnext] at hb
    | some c₁ =>
      simp only [run, hnext, Option.bind_some, List.cons_append] at hb hrun
      exact ih hb hrun

theorem throughout_true : ∀ evs (c : Config σ κ Λ ε α), c.Throughout (fun _ _ => True) evs := by
  intro evs
  induction evs with
  | nil => exact fun _ => trivial
  | cons ev evs ih => exact fun c => ⟨trivial, fun c' _ => ih c'⟩

section Steps

variable {C : ℕ → List (Obs σ Λ) → (σ → σ) → Prop} {I : σ → Prop} {R : σ → σ → Prop} {db : σ}
  {calls : List (Prog σ κ Λ ε α)}

/-- The rule for steps under a guard. Let every write that meets the guard keep `I` and relate
the states around it by `R`, after reads of states that satisfy `I` and from which such steps led
to the state of now; then each step of a guarded schedule does so. -/
theorem throughoutAt_steps {G : ℕ → (σ → σ) → List (Obs σ Λ) → σ → Prop}
    (hwp : ∀ (i : ℕ) p, calls[i]? = some p →
      p.wp (C i) (fun _ _ _ => True) (fun _ _ _ => True) [] .idle)
    (hrefl : ∀ s, R s s)
    (hC : ∀ i h w now, C i h w →
      (∀ l b, .saw l b ∈ h → I b ∧ Relation.ReflTransGen R b now) → G i w h now → I now →
      I (w now) ∧ R now (w now))
    (hI : I db) :
    ∀ evs, (start db calls).Throughout (GuardedAt G) evs →
      (start db calls).EveryStep (fun s s' => I s' ∧ R s s') evs := by
  have hsteps : ∀ evs (c : Config σ κ Λ ε α), Sound C c →
      Seen (fun b => I b ∧ Relation.ReflTransGen R b c.db) c → I c.db →
      c.Throughout (GuardedAt G) evs → c.EveryStep (fun s s' => I s' ∧ R s s') evs := by
    intro evs
    induction evs with
    | nil => exact fun _ _ _ _ _ => trivial
    | cons ev evs ih =>
      intro c hs hseen hc hg c' hn
      have hstep : I c'.db ∧ R c.db c'.db := by
        obtain ⟨i, s, s', hsi, -, ⟨-, hdb, -⟩ | ⟨w, hev, hpub, -, hdb, -⟩⟩ := next_moves hn
        · rw [hdb]
          exact ⟨hc, hrefl c.db⟩
        · have hguard := hg.1 i s w hev hsi hpub
          obtain ⟨st, k, hp, hmem⟩ := hpub
          obtain ⟨-, hw⟩ := hs i s hsi
          rw [hp] at hw
          rw [hdb]
          exact hC i s.trace w c.db ((hw.1 c.db).1 w hmem) (hseen i s hsi) hguard hc
      -- what was seen led to the state before the step, and the step leads on
      have hseen' : Seen (fun b => I b ∧ Relation.ReflTransGen R b c'.db) c' := by
        intro j t ht l b hb
        obtain ⟨hIb, hled⟩ := hseen.next ⟨hc, .refl⟩ hn j t ht l b hb
        exact ⟨hIb, hled.tail hstep.2⟩
      exact ⟨hstep, ih c' (hs.next hn) hseen' hstep.1 (hg.2 c' hn)⟩
  exact fun evs => hsteps evs (start db calls) (sound_start hwp) seen_start hI

theorem throughout_steps {G : (σ → σ) → List (Obs σ Λ) → σ → Prop}
    (hwp : ∀ (i : ℕ) p, calls[i]? = some p →
      p.wp (C i) (fun _ _ _ => True) (fun _ _ _ => True) [] .idle)
    (hrefl : ∀ s, R s s)
    (hC : ∀ i h w now, C i h w → (∀ l b, .saw l b ∈ h → I b) → G w h now → I now →
      I (w now) ∧ R now (w now))
    (hI : I db) :
    ∀ evs, (start db calls).Throughout (Guarded G) evs → (start db calls).EveryStep R evs := by
  intro evs hg
  have hsteps := throughoutAt_steps (G := fun _ => G) hwp hrefl
    (fun i h w now hw hseen => hC i h w now hw fun l b hb => (hseen l b hb).1) hI evs hg
  exact hsteps.mono fun _ _ h => h.2

end Steps

section Calls

variable {γ : Type} {prog : γ → Prog σ κ Λ ε α} {W : γ → List (Obs σ Λ) → (σ → σ) → Prop}
  {G : γ → (σ → σ) → List (Obs σ Λ) → σ → Prop} {I : σ → Prop} {R : σ → σ → Prop} {db : σ}
  {calls : List γ}

/-- The rule for the steps of a list of calls, each with its writes `W` and its guard `G`. -/
theorem calls_steps
    (hwp : ∀ call, (prog call).wp (W call) (fun _ _ _ => True) (fun _ _ _ => True) [] .idle)
    (hrefl : ∀ s, R s s)
    (hW : ∀ call h w now, W call h w →
      (∀ l b, .saw l b ∈ h → I b ∧ Relation.ReflTransGen R b now) → G call w h now → I now →
      I (w now) ∧ R now (w now))
    (hI : I db) :
    ∀ evs, (start db (calls.map prog)).Throughout (GuardedCalls calls G) evs →
      (start db (calls.map prog)).EveryStep (fun s s' => I s' ∧ R s s') evs := by
  refine throughoutAt_steps (C := fun i h w => ∃ call, calls[i]? = some call ∧ W call h w) ?_
    hrefl ?_ hI
  · intro i p hp
    rw [List.getElem?_map, Option.map_eq_some_iff] at hp
    obtain ⟨call, hcall, rfl⟩ := hp
    exact wp_mono (fun _ _ h => ⟨call, hcall, h⟩) (fun _ _ _ h => h) (fun _ _ _ h => h) _ _ _
      (hwp call)
  · rintro i h w now ⟨call, hcall, hw⟩ hseen hguard hnow
    exact hW call h w now hw hseen (hguard call hcall) hnow

theorem calls_invariant
    (hwp : ∀ call, (prog call).wp (W call) (fun _ _ _ => True) (fun _ _ _ => True) [] .idle)
    (hrefl : ∀ s, R s s) (htrans : ∀ s s' s'', R s s' → R s' s'' → R s s'')
    (hW : ∀ call h w now, W call h w → (∀ l b, .saw l b ∈ h → I b ∧ R b now) →
      G call w h now → I now → I (w now) ∧ R now (w now))
    (hI : I db) (evs : List Event)
    (hg : (start db (calls.map prog)).Throughout (GuardedCalls calls G) evs)
    (hrun : (start db (calls.map prog)).run evs = some c) : I c.db := by
  have hled : ∀ s s', Relation.ReflTransGen R s s' → R s s' := by
    intro s s' h
    induction h with
    | refl => exact hrefl s
    | tail _ hlast ih => exact htrans _ _ _ ih hlast
  have hsteps := calls_steps hwp hrefl
    (fun call h w now hw hseen =>
      hW call h w now hw fun l b hb => ⟨(hseen l b hb).1, hled b now (hseen l b hb).2⟩) hI evs hg
  exact EveryStep.invariant (fun _ _ h _ => h.1) evs _ hsteps hrun hI

end Calls

/-- Each event relates the committed state before it to the log that it extends and the state
after it. -/
def EveryStepWith {γ : Type} (log : γ → σ → σ → γ) (Q : σ → γ → σ → Prop) :
    γ → Config σ κ Λ ε α → List Event → Prop
  | _, _, [] => True
  | g, c, ev :: evs => ∀ c', c.next ev = some c' →
      Q c.db (log g c.db c'.db) c'.db ∧ EveryStepWith log Q (log g c.db c'.db) c' evs

instance decidableEveryStepWith {γ : Type} (log : γ → σ → σ → γ) (Q : σ → γ → σ → Prop)
    [∀ s g s', Decidable (Q s g s')] :
    (evs : List Event) → (g : γ) → (c : Config σ κ Λ ε α) →
      Decidable (EveryStepWith log Q g c evs)
  | [], _, _ => .isTrue trivial
  | ev :: evs, g, c =>
    have := decidableEveryStepWith log Q evs
    match hn : c.next ev with
    | none => .isTrue <| by simp [EveryStepWith, hn]
    | some c' => decidable_of_iff
        (Q c.db (log g c.db c'.db) c'.db ∧ EveryStepWith log Q (log g c.db c'.db) c' evs) <| by
          simp [EveryStepWith, hn]

theorem EveryStep.withLog {γ : Type} {log : γ → σ → σ → γ} {Q : σ → γ → σ → Prop}
    {R : σ → σ → Prop} {Inv : γ → σ → Prop}
    (hstep : ∀ g s s', Inv g s → R s s' → Inv (log g s s') s' ∧ Q s (log g s s') s') :
    ∀ evs g (c : Config σ κ Λ ε α), Inv g c.db → c.EveryStep R evs →
      EveryStepWith log Q g c evs := by
  intro evs
  induction evs with
  | nil => exact fun _ _ _ _ => trivial
  | cons ev evs ih =>
    intro g c hinv hsteps c' hnext
    rcases hsteps c' hnext with ⟨hR, hrest⟩
    rcases hstep g c.db c'.db hinv hR with ⟨hinv', hQ⟩
    exact ⟨hQ, ih _ c' hinv' hrest⟩

theorem next_db_of_publishes {i : ℕ} {s : Session σ κ Λ ε α} {w : σ → σ}
    (hs : c.sessions[i]? = some s) (hw : s.Publishes c.db w) (hn : c.next (.step i) = some c') :
    c'.db = w c.db := by
  obtain ⟨st, k, hp, hmem⟩ := hw
  simp only [next, hs, hp, Option.ite_none_left_eq_some, Option.some.injEq] at hn
  obtain ⟨-, rfl⟩ := hn
  show (st.exec s.tx c.db).db = w c.db
  rcases st.exec_cases s.tx c.db with ⟨-, hobs⟩ | ⟨w', hobs, hdb⟩
  · have hin : w ∈ (st.exec s.tx c.db).obs.filterMap Obs.write? :=
      List.mem_filterMap.mpr ⟨.wrote w, hmem, rfl⟩
    rw [hobs] at hin
    cases hin
  · rw [hobs, List.mem_singleton, Obs.wrote.injEq] at hmem
    rw [hdb, hmem]

omit [DecidableEq κ] in
/-- What a statement observes: nothing, the committed state, or the write it publishes. -/
theorem exec_obs (st : Stmt σ κ Λ ε) (t : Tx σ) (db : σ) :
    ((st.exec t db).obs = [] ∧ (st.exec t db).db = db) ∨
      (∃ l, (st.exec t db).obs = [.saw l db] ∧ (st.exec t db).db = db) ∨
        ∃ w, (st.exec t db).obs = [.wrote w] ∧ (st.exec t db).db = w db := by
  rcases st.exec_cases t db with ⟨hdb, hobs⟩ | ⟨w, hobs, hdb⟩
  · rcases hl : (st.exec t db).obs with _ | ⟨⟨l, b⟩ | w, rest⟩
    · exact .inl ⟨rfl, hdb⟩
    · obtain rfl : b = db := Stmt.saw_exec (l := l) (by rw [hl]; exact List.mem_cons_self)
      right
      left
      refine ⟨l, ?_, hdb⟩
      cases st with
      | write rows f =>
        cases t with
        | idle => cases hf : f b <;> simp [Stmt.exec, hf] at hl
        | active w => cases hf : f (w b) <;> simp [Stmt.exec, hf] at hl
        | aborted => simp [Stmt.exec] at hl
      | _ => cases t <;> simp [Stmt.exec] at hl <;> simp [hl]
    · rw [hl] at hobs
      simp [Obs.write?] at hobs
  · exact .inr (.inr ⟨w, hobs, hdb⟩)

/-- What an event does to the history of its session: nothing, or its statement reads the
committed state or publishes a write. -/
theorem next_observes {ev : Event} (hn : c.next ev = some c') :
    ∃ i s s', c.sessions[i]? = some s ∧ c'.sessions = c.sessions.set i s' ∧
      ((c'.db = c.db ∧ s'.trace = s.trace) ∨
        ev = .step i ∧ ((c'.db = c.db ∧ ∃ l, s'.trace = .saw l c.db :: s.trace) ∨
          ∃ w, s.Publishes c.db w ∧ s'.trace = .wrote w :: s.trace ∧ c'.db = w c.db)) := by
  cases ev with
  | step i =>
    cases hs : c.sessions[i]? with
    | none => simp [next, hs] at hn
    | some s =>
      cases hp : s.prog with
      | ret a => simp [next, hs, hp] at hn
      | throw e => simp [next, hs, hp] at hn
      | exec st k =>
        simp only [next, hs, hp, Option.ite_none_left_eq_some, Option.some.injEq] at hn
        obtain ⟨-, rfl⟩ := hn
        refine ⟨i, s, _, hs, rfl, ?_⟩
        rcases exec_obs st s.tx c.db with ⟨hobs, hdb⟩ | ⟨l, hobs, hdb⟩ | ⟨w, hobs, hdb⟩
        · exact .inl ⟨hdb, by simp [hobs]⟩
        · exact .inr ⟨rfl, .inl ⟨hdb, l, by simp [hobs]⟩⟩
        · exact .inr ⟨rfl, .inr ⟨w, ⟨st, k, hp, by simp [hobs]⟩, by simp [hobs], hdb⟩⟩
  | fault i m =>
    cases hs : c.sessions[i]? with
    | none => simp [next, hs] at hn
    | some s =>
      cases hp : s.prog with
      | ret a => simp [next, hs, hp] at hn
      | throw e' => simp [next, hs, hp] at hn
      | exec st k =>
        simp only [next, hs, hp, Option.some.injEq] at hn
        subst hn
        exact ⟨i, s, _, hs, rfl, .inl ⟨rfl, rfl⟩⟩
  | crash i =>
    cases hs : c.sessions[i]? with
    | none => simp [next, hs] at hn
    | some s =>
      simp only [next, hs, Option.some.injEq] at hn
      subst hn
      exact ⟨i, s, _, hs, rfl, .inl ⟨rfl, rfl⟩⟩

/-- What an event does to the history of its session: nothing, a read of the committed state,
or a write that is published. -/
theorem next_trace {ev : Event} (hn : c.next ev = some c') :
    ∃ i s s', c.sessions[i]? = some s ∧ c'.sessions = c.sessions.set i s' ∧
      ((c'.db = c.db ∧ (s'.trace = s.trace ∨ ∃ l, s'.trace = .saw l c.db :: s.trace)) ∨
        ∃ w, ev = .step i ∧ s.Publishes c.db w ∧ s'.trace = .wrote w :: s.trace ∧
          c'.db = w c.db) := by
  obtain ⟨i, s, s', hs, hset, ⟨hdb, htrace⟩ | ⟨hev, ⟨hdb, hsaw⟩ | ⟨w, hpub, htrace, hdb⟩⟩⟩ :=
    next_observes hn
  · exact ⟨i, s, s', hs, hset, .inl ⟨hdb, .inl htrace⟩⟩
  · exact ⟨i, s, s', hs, hset, .inl ⟨hdb, .inr hsaw⟩⟩
  · exact ⟨i, s, s', hs, hset, .inr ⟨w, hev, hpub, htrace, hdb⟩⟩

end Config

namespace Config

variable [DecidableEq κ] {c c' : Config σ κ Λ ε α}

/-- Each session justified what it has published, and ends in its postcondition. -/
def Proving (C : ℕ → List (Obs σ Λ) → (σ → σ) → Prop) (P : ℕ → α → List (Obs σ Λ) → Tx σ → Prop)
    (c : Config σ κ Λ ε α) : Prop :=
  ∀ (i : ℕ) s, c.sessions[i]? = some s →
    Justified (C i) s.trace ∧ s.prog.wp (C i) (P i) (fun _ _ _ => True) s.trace s.tx

variable {C : ℕ → List (Obs σ Λ) → (σ → σ) → Prop} {P : ℕ → α → List (Obs σ Λ) → Tx σ → Prop}

omit [DecidableEq κ] in
theorem proving_start {db : σ} {calls : List (Prog σ κ Λ ε α)}
    (h : ∀ (i : ℕ) p, calls[i]? = some p → p.wp (C i) (P i) (fun _ _ _ => True) [] .idle) :
    Proving C P (start db calls) := by
  intro i s hs
  simp only [start, List.getElem?_map, Option.map_eq_some_iff] at hs
  obtain ⟨p, hp, rfl⟩ := hs
  exact ⟨justified_nil, h i p hp⟩

theorem Proving.next {ev : Event} (hp : Proving C P c) (hn : c.next ev = some c') :
    Proving C P c' := by
  obtain ⟨i, s, s', hsi, hset, hcase⟩ := next_moves hn
  obtain ⟨hj, hwp⟩ := hp i s hsi
  have hs' : Justified (C i) s'.trace ∧
      s'.prog.wp (C i) (P i) (fun _ _ _ => True) s'.trace s'.tx := by
    rcases hcase with ⟨hm, -, -⟩ | ⟨w, -, -, hm, -, -⟩
    · exact moves_sound hm hj hwp
    · exact moves_sound hm hj hwp
  intro j t ht
  rw [hset] at ht
  exact forall_sessions_set (Q := fun j t => Justified (C j) t.trace ∧
    t.prog.wp (C j) (P j) (fun _ _ _ => True) t.trace t.tx) hp hs' j t ht

variable {s : Session σ κ Λ ε α}

omit [DecidableEq κ] in
theorem Proving.publishes (hp : Proving C P c) {i : ℕ} {w : σ → σ} (hs : c.sessions[i]? = some s)
    (hw : s.Publishes c.db w) : C i s.trace w := by
  obtain ⟨st, k, hprog, hmem⟩ := hw
  obtain ⟨-, hwp⟩ := hp i s hs
  rw [hprog] at hwp
  exact (hwp.1 c.db).1 w hmem

omit [DecidableEq κ] in
theorem Proving.finished (hp : Proving C P c) {i : ℕ} (hs : c.sessions[i]? = some s)
    (hf : s.finished) : ∃ a, P i a s.trace s.tx := by
  obtain ⟨-, hwp⟩ := hp i s hs
  unfold Session.finished at hf
  cases hprog : s.prog with
  | ret a =>
    rw [hprog] at hwp
    exact ⟨a, hwp⟩
  | throw e => simp [hprog] at hf
  | exec st k => simp [hprog] at hf

end Config

end ReadCommitted
