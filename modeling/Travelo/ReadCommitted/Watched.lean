import Travelo.ReadCommitted.Answers

/-!
# What a session observes

`wp` asks something of the writes that a program publishes. `p.watch O P E h t` asks something of
its reads as well, and at the moment they are made: a statement that observes `o`, a read or a
write or nothing, satisfies `O h' o db q`, where `h'` is the history of `p` at that moment, `db` the
state it meets and `q` what is left of the program after it. So the shape of a history is known
while the session is still running, and so is that nothing follows a certain write.

`Config.Watching` keeps it through a schedule, and `Watching.observed` is the inversion of an event
under it.
-/

namespace ReadCommitted

variable {σ κ Λ ε α β : Type} [Faults ε]

namespace Prog

/-- See the module's introduction. -/
def watch (O : List (Obs σ Λ) → Option (Obs σ Λ) → σ → Prog σ κ Λ ε α → Prop)
    (P : α → List (Obs σ Λ) → Tx σ → Prop) (E : ε → List (Obs σ Λ) → Tx σ → Prop) :
    Prog σ κ Λ ε α → List (Obs σ Λ) → Tx σ → Prop
  | .ret a, h, t => P a h t
  | .throw e, h, t => E e h t
  | .exec c k, h, t =>
    (∀ db, O h (c.exec t db).obs.head? db (k (c.exec t db).reply) ∧
      (k (c.exec t db).reply).watch O P E ((c.exec t db).obs ++ h) (c.exec t db).tx) ∧
    ∀ m, (k (.error (lost m))).watch O P E h (c.fault t)

variable {O : List (Obs σ Λ) → Option (Obs σ Λ) → σ → Prog σ κ Λ ε α → Prop}
  {P : α → List (Obs σ Λ) → Tx σ → Prop} {E : ε → List (Obs σ Λ) → Tx σ → Prop}
  {h : List (Obs σ Λ)} {t : Tx σ}

theorem watch_mono {O' : List (Obs σ Λ) → Option (Obs σ Λ) → σ → Prog σ κ Λ ε α → Prop}
    {P' : α → List (Obs σ Λ) → Tx σ → Prop} {E' : ε → List (Obs σ Λ) → Tx σ → Prop}
    (hO : ∀ h o db q, O h o db q → O' h o db q) (hP : ∀ a h t, P a h t → P' a h t)
    (hE : ∀ e h t, E e h t → E' e h t) (p : Prog σ κ Λ ε α) :
    ∀ h t, p.watch O P E h t → p.watch O' P' E' h t := by
  induction p with
  | ret a => exact fun h t hp => hP a h t hp
  | throw e => exact fun h t hp => hE e h t hp
  | exec c k ih =>
    intro h t hp
    refine ⟨fun db => ⟨hO _ _ _ _ (hp.1 db).1, ?_⟩, fun e => ?_⟩
    · exact ih _ _ _ (hp.1 db).2
    · exact ih _ _ _ (hp.2 e)

theorem watch_of_wp {C : List (Obs σ Λ) → (σ → σ) → Prop} (p : Prog σ κ Λ ε α) :
    ∀ h t, p.wp C P E h t →
      p.watch (fun h o _ _ => ∀ w, o = some (.wrote w) → C h w) P E h t := by
  induction p with
  | ret a => exact fun h t hp => hp
  | throw e => exact fun h t hp => hp
  | exec c k ih =>
    intro h t hp
    refine ⟨fun db => ⟨fun w hw => ?_, ih _ _ _ (hp.1 db).2⟩, fun m => ih _ _ _ (hp.2 m)⟩
    exact (hp.1 db).1 w (List.mem_of_head? hw)

/-! ## Control flow -/

@[simp] theorem watch_pure (a : α) :
    (pure a : Prog σ κ Λ ε α).watch O P E h t ↔ P a h t := Iff.rfl

@[simp] theorem watch_ret (a : α) :
    (Prog.ret a : Prog σ κ Λ ε α).watch O P E h t ↔ P a h t := Iff.rfl

@[simp] theorem watch_throw (e : ε) :
    (MonadExcept.throw e : Prog σ κ Λ ε α).watch O P E h t ↔ E e h t := Iff.rfl

theorem watch_bind' (p : Prog σ κ Λ ε β) (f : β → Prog σ κ Λ ε α) :
    ∀ h t, (p.bind f).watch O P E h t ↔
      p.watch (fun h o db q => O h o db (q >>= f)) (fun b h t => (f b).watch O P E h t) E h t := by
  induction p with
  | ret b => exact fun h t => Iff.rfl
  | throw e => exact fun h t => Iff.rfl
  | exec c k ih =>
    intro h t
    have hbind : ∀ q : Prog σ κ Λ ε β, q >>= f = q.bind f := fun _ => rfl
    simp [bind, watch, ih, hbind]

@[simp] theorem watch_bind (p : Prog σ κ Λ ε β) (f : β → Prog σ κ Λ ε α) :
    (p >>= f).watch O P E h t ↔
      p.watch (fun h o db q => O h o db (q >>= f)) (fun b h t => (f b).watch O P E h t) E h t :=
  watch_bind' p f h t

@[simp] theorem watch_map (p : Prog σ κ Λ ε β) (f : β → α) :
    (f <$> p).watch O P E h t ↔
      p.watch (fun h o db q => O h o db (f <$> q)) (fun b h t => P (f b) h t) E h t :=
  watch_bind' p (fun b => pure (f b)) h t

theorem watch_tryCatch' (p : Prog σ κ Λ ε α) (handler : ε → Prog σ κ Λ ε α) :
    ∀ h t, (p.tryCatch handler).watch O P E h t ↔
      p.watch (fun h o db q => O h o db (q.tryCatch handler)) P
        (fun e h t => (handler e).watch O P E h t) h t := by
  induction p with
  | ret a => exact fun h t => Iff.rfl
  | throw e => exact fun h t => Iff.rfl
  | exec c k ih => simp [tryCatch, watch, ih]

@[simp] theorem watch_caught {p : Prog σ κ Λ ε α}
    {O : List (Obs σ Λ) → Option (Obs σ Λ) → σ → Prog σ κ Λ ε (Except ε α) → Prop}
    {P : Except ε α → List (Obs σ Λ) → Tx σ → Prop} :
    p.caught.watch O P E h t ↔ p.watch (fun h o db q => O h o db q.caught) (fun a => P (.ok a))
      (fun e => P (.error e)) h t := by
  have hcaught : p.caught = (Except.ok <$> p).tryCatch fun e => return .error e := rfl
  rw [hcaught, watch_tryCatch', watch_map]
  rfl

@[simp] theorem watch_ite (c : Prop) [Decidable c] (p q : Prog σ κ Λ ε α) :
    (if c then p else q).watch O P E h t ↔
      (c → p.watch O P E h t) ∧ (¬c → q.watch O P E h t) := by
  by_cases hc : c <;> simp [hc]

@[simp] theorem watch_throwIf (c : Prop) [Decidable c] (e : ε)
    {O : List (Obs σ Λ) → Option (Obs σ Λ) → σ → Prog σ κ Λ ε Unit → Prop}
    {P : Unit → List (Obs σ Λ) → Tx σ → Prop} :
    (throwIf c e : Prog σ κ Λ ε Unit).watch O P E h t ↔ (c → E e h t) ∧ (¬c → P () h t) :=
  watch_ite c (.throw e) (.ret ())

@[simp] theorem watch_when (c : Prop) [Decidable c] (p : Prog σ κ Λ ε Unit)
    {O : List (Obs σ Λ) → Option (Obs σ Λ) → σ → Prog σ κ Λ ε Unit → Prop}
    {P : Unit → List (Obs σ Λ) → Tx σ → Prop} :
    (Prog.when c p).watch O P E h t ↔ (c → p.watch O P E h t) ∧ (¬c → P () h t) :=
  watch_ite c p (.ret ())

@[simp] theorem watch_orThrow (o : Option α) (e : ε) :
    (orThrow o e : Prog σ κ Λ ε α).watch O P E h t ↔
      (o = none → E e h t) ∧ ∀ a, o = some a → P a h t := by
  cases o <;> simp [orThrow, watch]

/-! ## Statements -/

@[simp] theorem watch_select_idle (l : Λ) (q : σ → α) :
    (select (κ := κ) (ε := ε) l q).watch O P E h .idle ↔
      (∀ db, O h (some (.saw l db)) db (.ret (q db)) ∧ P (q db) (.saw l db :: h) .idle) ∧
        ∀ m, E (lost m) h .idle := by
  simp [select, stmt, watch, Stmt.exec, Stmt.fault]

@[simp] theorem watch_write_idle (rows : σ → List κ) (f : σ → σ) (q : σ → α) :
    (write (Λ := Λ) (ε := ε) rows f q).watch O P E h .idle ↔
      (∀ db, O h (some (.wrote f)) db (.ret (q db)) ∧ P (q db) (.wrote f :: h) .idle) ∧
        ∀ m, E (lost m) h .idle := by
  simp [write, stmt, watch, Stmt.exec, Stmt.fault]

theorem watch_writeChecked_idle (rows : σ → List κ) (f : σ → Except ε σ) (q : σ → α)
    (hok : ∀ db db', f db = .ok db' → O h (some (.wrote (applied f))) db (.ret (q db)) ∧
      P (q db) (.wrote (applied f) :: h) .idle)
    (hrefused : ∀ db e, f db = .error e → O h none db (.throw e))
    (hE : ∀ e, E e h .idle) : (writeChecked (Λ := Λ) rows f q).watch O P E h .idle := by
  refine ⟨fun db => ?_, fun m => hE _⟩
  cases hf : f db with
  | ok db' => simpa [Stmt.exec, hf, watch] using hok db db' hf
  | error e => simpa [Stmt.exec, hf, watch] using ⟨hrefused db e hf, hE e⟩

end Prog

export Prog (watch_mono watch_of_wp watch_pure watch_bind watch_map watch_caught watch_ite
  watch_throwIf watch_when watch_orThrow watch_select_idle watch_write_idle)

set_option linter.defProp false in
/-- What `simp` knows of `watch`. -/
def watch_simps :=
  And.intro @watch_bind <| And.intro @watch_pure <| And.intro @watch_orThrow <|
  And.intro @watch_throwIf <| And.intro @watch_select_idle <| And.intro @watch_write_idle <|
  And.intro @watch_caught <| trivially

namespace Prog

omit [Faults ε]

/-- There is a statement left. -/
def running : Prog σ κ Λ ε α → Bool
  | .exec _ _ => true
  | _ => false

/-- The program has come to an error. -/
def failed : Prog σ κ Λ ε α → Bool
  | .throw _ => true
  | _ => false

@[simp] theorem running_map (p : Prog σ κ Λ ε β) (f : β → α) : (f <$> p).running = p.running := by
  cases p <;> rfl

@[simp] theorem running_caught (p : Prog σ κ Λ ε α) : p.caught.running = p.running := by
  cases p <;> rfl

theorem running_bind {p : Prog σ κ Λ ε β} {f : β → Prog σ κ Λ ε α} (hp : p.failed = false)
    (hf : ∀ b, (f b).running = true) : (p >>= f).running = true := by
  cases p with
  | ret b => exact hf b
  | throw e => cases hp
  | exec st k => rfl

end Prog

omit [Faults ε] in
/-- The statement is a query. -/
def Stmt.reads : Stmt σ κ Λ ε → Bool
  | .read _ => true
  | .lock _ _ => true
  | _ => false

namespace Prog

omit [Faults ε]

/-- Whatever the program answers before it reads anything more satisfies `Q`. -/
def Until (Q : α → Prop) : Prog σ κ Λ ε α → Prop
  | .ret a => Q a
  | .throw _ => True
  | .exec c k => (c.reads = false → ∀ r, (k r).Until Q) ∧ ∀ e, (k (.error e)).Until Q

variable {Q : α → Prop}

theorem until_bind {R : β → Prop} {f : β → Prog σ κ Λ ε α} (hf : ∀ b, R b → (f b).Until Q) :
    ∀ p : Prog σ κ Λ ε β, p.Until R → (p >>= f).Until Q := by
  intro p
  induction p with
  | ret b => exact hf b
  | throw e => exact fun h => h
  | exec c k ih => exact fun h => ⟨fun hc r => ih r (h.1 hc r), fun e => ih _ (h.2 e)⟩

theorem until_caught : ∀ p : Prog σ κ Λ ε α, p.Until (fun _ => False) →
    p.caught.Until fun a => ∃ e, a = .error e := by
  intro p
  induction p with
  | ret a => exact fun h => h.elim
  | throw e => exact fun _ => ⟨e, rfl⟩
  | exec c k ih => exact fun h => ⟨fun hc r => ih r (h.1 hc r), fun e => ih _ (h.2 e)⟩

end Prog

omit [Faults ε] in
/-- The session has a statement left. -/
def Session.running (s : Session σ κ Λ ε α) : Bool := s.prog.running

omit [Faults ε] in
/-- What the next statement of the session reads, if it is a read. -/
def Session.looks (s : Session σ κ Λ ε α) : Option Λ :=
  match s.prog with
  | .exec (.read l) _ => some l
  | .exec (.lock l _) _ => some l
  | _ => none

theorem Stmt.looks_of_obs {st : Stmt σ κ Λ ε} {t : Tx σ} {db b : σ} {l : Λ}
    (h : .saw l b ∈ (st.exec t db).obs) : st = .read l ∨ ∃ rows, st = .lock l rows := by
  cases st with
  | write rows f =>
    cases t with
    | idle => cases hf : f db <;> simp [exec, hf] at h
    | active w => cases hf : f (w db) <;> simp [exec, hf] at h
    | aborted => simp [exec] at h
  | read l' => cases t <;> simp [exec] at h <;> simp [h]
  | lock l' rows => cases t <;> simp [exec] at h <;> simp [h]
  | begin => cases t <;> simp [exec] at h
  | commit => cases t <;> simp [exec] at h
  | rollback => cases t <;> simp [exec] at h

namespace Config

variable [DecidableEq κ] {c c' : Config σ κ Λ ε α}

/-- Each session observes what it may. -/
def Watching (O : ℕ → List (Obs σ Λ) → Option (Obs σ Λ) → σ → Prog σ κ Λ ε α → Prop)
    (P : ℕ → α → List (Obs σ Λ) → Tx σ → Prop) (c : Config σ κ Λ ε α) : Prop :=
  ∀ (i : ℕ) s, c.sessions[i]? = some s →
    s.prog.watch (O i) (P i) (fun _ _ _ => True) s.trace s.tx

variable {O : ℕ → List (Obs σ Λ) → Option (Obs σ Λ) → σ → Prog σ κ Λ ε α → Prop}
  {P : ℕ → α → List (Obs σ Λ) → Tx σ → Prop}

omit [DecidableEq κ] in
theorem watching_start {db : σ} {calls : List (Prog σ κ Λ ε α)}
    (h : ∀ (i : ℕ) p, calls[i]? = some p → p.watch (O i) (P i) (fun _ _ _ => True) [] .idle) :
    Watching O P (start db calls) := by
  intro i s hs
  simp only [start, List.getElem?_map, Option.map_eq_some_iff] at hs
  obtain ⟨p, hp, rfl⟩ := hs
  exact h i p hp

theorem Watching.next {ev : Event} (hw : Watching O P c) (hn : c.next ev = some c') :
    Watching O P c' := by
  obtain ⟨i, s, s', hsi, hset, hcase⟩ := next_moves hn
  have hwatch := hw i s hsi
  have hmove : ∀ m, s.Moves c.db s' m →
      s'.prog.watch (O i) (P i) (fun _ _ _ => True) s'.trace s'.tx := by
    intro m hm
    cases hm with
    | quiet hp ho =>
      rw [hp] at hwatch
      exact (hwatch.1 c.db).2
    | publish hp ho =>
      rw [hp] at hwatch
      exact (hwatch.1 c.db).2
    | fail m hp =>
      rw [hp] at hwatch
      exact hwatch.2 m
    | die e => exact trivial
  have hs' : s'.prog.watch (O i) (P i) (fun _ _ _ => True) s'.trace s'.tx := by
    rcases hcase with ⟨hm, -, -⟩ | ⟨w, -, -, hm, -, -⟩
    · exact hmove none hm
    · exact hmove (some w) hm
  intro j u hu
  rw [hset] at hu
  exact forall_sessions_set (Q := fun j u =>
    u.prog.watch (O j) (P j) (fun _ _ _ => True) u.trace u.tx) hw hs' j u hu

theorem until_next {Q : α → Prop} {ev : Event} (hn : c.next ev = some c') {i : ℕ}
    {s s' : Session σ κ Λ ε α} (hs : c.sessions[i]? = some s) (hs' : c'.sessions[i]? = some s')
    (hnone : ∀ l b, s'.trace ≠ .saw l b :: s.trace) (hq : s.prog.Until Q) : s'.prog.Until Q := by
  have hmove : ∀ j u u', c.sessions[j]? = some u → c'.sessions = c.sessions.set j u' →
      (j = i → u'.prog.Until Q) → s'.prog.Until Q := by
    intro j u u' hu hset hself
    by_cases hj : j = i
    · subst hj
      rw [hset, List.getElem?_set_self (List.getElem?_eq_some_iff.mp hs).1] at hs'
      cases hs'
      exact hself rfl
    · rw [hset, List.getElem?_set_ne hj, hs] at hs'
      cases hs'
      exact hq
  cases ev with
  | step j =>
    cases hu : c.sessions[j]? with
    | none => simp [Config.next, hu] at hn
    | some u =>
      cases hp : u.prog with
      | ret a => simp [Config.next, hu, hp] at hn
      | throw e => simp [Config.next, hu, hp] at hn
      | exec st k =>
        simp only [Config.next, hu, hp, Option.ite_none_left_eq_some, Option.some.injEq] at hn
        obtain ⟨-, rfl⟩ := hn
        refine hmove j u _ hu rfl fun hj => ?_
        subst hj
        obtain rfl := Option.some.inj (hs.symm.trans hu)
        rw [hp] at hq
        cases hreads : st.reads with
        | false => exact hq.1 hreads _
        | true =>
          -- a query that is carried out is observed, and in an aborted transaction it fails
          have htrace : (st.exec s.tx c.db).obs ++ s.trace = s'.trace := by
            simp only [after, List.getElem?_set_self (List.getElem?_eq_some_iff.mp hs).1,
              Option.some.injEq] at hs'
            rw [← hs']
          change (k (st.exec s.tx c.db).reply).Until Q
          cases st with
          | read l =>
            cases htx : s.tx with
            | idle => exact absurd htrace.symm (by rw [htx]; exact hnone l c.db)
            | active w => exact absurd htrace.symm (by rw [htx]; exact hnone l c.db)
            | aborted => exact hq.2 _
          | lock l rows =>
            cases htx : s.tx with
            | idle => exact absurd htrace.symm (by rw [htx]; exact hnone l c.db)
            | active w => exact absurd htrace.symm (by rw [htx]; exact hnone l c.db)
            | aborted => exact hq.2 _
          | write rows f => cases hreads
          | begin => cases hreads
          | commit => cases hreads
          | rollback => cases hreads
  | fault j m =>
    cases hu : c.sessions[j]? with
    | none => simp [Config.next, hu] at hn
    | some u =>
      cases hp : u.prog with
      | ret a => simp [Config.next, hu, hp] at hn
      | throw e' => simp [Config.next, hu, hp] at hn
      | exec st k =>
        simp only [Config.next, hu, hp, Option.some.injEq] at hn
        subst hn
        refine hmove j u _ hu rfl fun hj => ?_
        subst hj
        obtain rfl := Option.some.inj (hs.symm.trans hu)
        rw [hp] at hq
        exact hq.2 _
  | crash j =>
    cases hu : c.sessions[j]? with
    | none => simp [Config.next, hu] at hn
    | some u =>
      simp only [Config.next, hu, Option.some.injEq] at hn
      subst hn
      exact hmove j u _ hu rfl fun _ => trivial

/-- What an event is, for the session `s` that it moves to `s'`. -/
inductive Observed (O : ℕ → List (Obs σ Λ) → Option (Obs σ Λ) → σ → Prog σ κ Λ ε α → Prop)
    (c c' : Config σ κ Λ ε α) : Event → ℕ → Session σ κ Λ ε α → Session σ κ Λ ε α → Prop where
  | fault {i s s' m} (hrunning : s.running = true) (hdb : c'.db = c.db)
      (htrace : s'.trace = s.trace) : Observed O c c' (.fault i m) i s s'
  | crash {i s s'} (hstopped : s'.running = false) (hdb : c'.db = c.db)
      (htrace : s'.trace = s.trace) : Observed O c c' (.crash i) i s s'
  | silent {i s s'} (hrunning : s.running = true) (ho : O i s.trace none c.db s'.prog)
      (hdb : c'.db = c.db) (htrace : s'.trace = s.trace) : Observed O c c' (.step i) i s s'
  | saw {i s s' l} (hrunning : s.running = true) (hlooks : s.looks = some l)
      (ho : O i s.trace (some (.saw l c.db)) c.db s'.prog) (hdb : c'.db = c.db)
      (htrace : s'.trace = .saw l c.db :: s.trace) : Observed O c c' (.step i) i s s'
  | wrote {i s s' w} (hrunning : s.running = true) (hpublishes : s.Publishes c.db w)
      (ho : O i s.trace (some (.wrote w)) c.db s'.prog) (hdb : c'.db = w c.db)
      (htrace : s'.trace = .wrote w :: s.trace) : Observed O c c' (.step i) i s s'

theorem Watching.observed {ev : Event} (hw : Watching O P c) (hn : c.next ev = some c') :
    ∃ i s s', c.sessions[i]? = some s ∧ c'.sessions = c.sessions.set i s' ∧
      Observed O c c' ev i s s' := by
  cases ev with
  | step i =>
    cases hs : c.sessions[i]? with
    | none => simp [Config.next, hs] at hn
    | some s =>
      cases hp : s.prog with
      | ret a => simp [Config.next, hs, hp] at hn
      | throw e => simp [Config.next, hs, hp] at hn
      | exec st k =>
        simp only [Config.next, hs, hp, Option.ite_none_left_eq_some, Option.some.injEq] at hn
        obtain ⟨-, rfl⟩ := hn
        have hrunning : s.running = true := by
          unfold Session.running Prog.running
          rw [hp]
        have hwatch := hw i s hs
        rw [hp] at hwatch
        have hobs := (hwatch.1 c.db).1
        refine ⟨i, s, _, hs, rfl, ?_⟩
        rcases exec_obs st s.tx c.db with ⟨heq, hdb⟩ | ⟨l, heq, hdb⟩ | ⟨w, heq, hdb⟩
        · rw [heq] at hobs
          exact .silent hrunning hobs hdb (by simp [heq])
        · rw [heq] at hobs
          have hlooks : s.looks = some l := by
            unfold Session.looks
            rw [hp]
            have hsaw : .saw l c.db ∈ (st.exec s.tx c.db).obs := by simp [heq]
            rcases Stmt.looks_of_obs hsaw with rfl | ⟨rows, rfl⟩
            · rfl
            · rfl
          exact .saw hrunning hlooks hobs hdb (by simp [heq])
        · rw [heq] at hobs
          exact .wrote hrunning ⟨st, k, hp, by simp [heq]⟩ hobs hdb (by simp [heq])
  | fault i m =>
    cases hs : c.sessions[i]? with
    | none => simp [Config.next, hs] at hn
    | some s =>
      cases hp : s.prog with
      | ret a => simp [Config.next, hs, hp] at hn
      | throw e' => simp [Config.next, hs, hp] at hn
      | exec st k =>
        simp only [Config.next, hs, hp, Option.some.injEq] at hn
        subst hn
        have hrunning : s.running = true := by
          unfold Session.running Prog.running
          rw [hp]
        exact ⟨i, s, _, hs, rfl, .fault hrunning rfl rfl⟩
  | crash i =>
    cases hs : c.sessions[i]? with
    | none => simp [Config.next, hs] at hn
    | some s =>
      simp only [Config.next, hs, Option.some.injEq] at hn
      subst hn
      exact ⟨i, s, _, hs, rfl, .crash rfl rfl rfl⟩

end Config

end ReadCommitted
