import Travelo.ReadCommitted.Straight

/-!
# The states a session passes

`ends` is about the state a program leaves. `p.passes Q P E t db` asks `Q` of every committed state
before it as well, whichever statements fail, and `passes_passed` connects it to the states a run
goes through (`Prog.passed`).

`p.Strikes t db s` is the other direction: one statement of `p` that fails makes `p` throw while `s`
is committed. `Strikes.run` gives the run with that one fault.
-/

namespace ReadCommitted

variable {σ κ Λ ε α β : Type} [Faults ε]

namespace Prog

/-- The committed states of a program that runs alone, first to last. -/
def passed : Prog σ κ Λ ε α → (ℕ → Option String) → Tx σ → σ → List σ
  | .ret _, _, _, db => [db]
  | .throw _, _, _, db => [db]
  | .exec c k, φ, t, db =>
    match φ 0 with
    | some m => db :: (k (.error (lost m))).passed (fun n => φ (n + 1)) (c.fault t) db
    | none =>
      db :: (k (c.exec t db).reply).passed (fun n => φ (n + 1)) (c.exec t db).tx (c.exec t db).db

/-- See the module's introduction. -/
def passes (Q : σ → Prop) (P : α → Tx σ → σ → Prop) (E : ε → Tx σ → σ → Prop) :
    Prog σ κ Λ ε α → Tx σ → σ → Prop
  | .ret a, t, db => P a t db
  | .throw e, t, db => E e t db
  | .exec c k, t, db =>
    Q db ∧ (k (c.exec t db).reply).passes Q P E (c.exec t db).tx (c.exec t db).db ∧
      ∀ m, (k (.error (lost m))).passes Q P E (c.fault t) db

variable {Q : σ → Prop} {P : α → Tx σ → σ → Prop} {E : ε → Tx σ → σ → Prop} {t : Tx σ} {db : σ}

theorem passes_mono {P' : α → Tx σ → σ → Prop} {E' : ε → Tx σ → σ → Prop}
    (hP : ∀ a t db, P a t db → P' a t db) (hE : ∀ e t db, E e t db → E' e t db)
    (p : Prog σ κ Λ ε α) : ∀ t db, p.passes Q P E t db → p.passes Q P' E' t db := by
  induction p with
  | ret a => exact fun t db hp => hP a t db hp
  | throw e => exact fun t db hp => hE e t db hp
  | exec c k ih =>
    intro t db hp
    exact ⟨hp.1, ih _ _ _ hp.2.1, fun m => ih _ _ _ (hp.2.2 m)⟩

/-! ## Control flow -/

@[simp] theorem passes_pure (a : α) :
    (pure a : Prog σ κ Λ ε α).passes Q P E t db ↔ P a t db := Iff.rfl

@[simp] theorem passes_ret (a : α) :
    (Prog.ret a : Prog σ κ Λ ε α).passes Q P E t db ↔ P a t db := Iff.rfl

@[simp] theorem passes_throw (e : ε) :
    (Prog.throw e : Prog σ κ Λ ε α).passes Q P E t db ↔ E e t db := Iff.rfl

theorem passes_bind' (p : Prog σ κ Λ ε β) (f : β → Prog σ κ Λ ε α) :
    ∀ t db, (p.bind f).passes Q P E t db ↔
      p.passes Q (fun b t db => (f b).passes Q P E t db) E t db := by
  induction p with
  | ret b => exact fun t db => Iff.rfl
  | throw e => exact fun t db => Iff.rfl
  | exec c k ih => simp [bind, passes, ih]

@[simp] theorem passes_bind (p : Prog σ κ Λ ε β) (f : β → Prog σ κ Λ ε α) :
    (p >>= f).passes Q P E t db ↔ p.passes Q (fun b t db => (f b).passes Q P E t db) E t db :=
  passes_bind' p f t db

@[simp] theorem passes_tryCatch (p : Prog σ κ Λ ε α) (handler : ε → Prog σ κ Λ ε α) :
    ∀ t db, (p.tryCatch handler).passes Q P E t db ↔
      p.passes Q P (fun e t db => (handler e).passes Q P E t db) t db := by
  induction p with
  | ret a => exact fun t db => Iff.rfl
  | throw e => exact fun t db => Iff.rfl
  | exec c k ih => simp [tryCatch, passes, ih]

@[simp] theorem passes_ite (c : Prop) [Decidable c] (p q : Prog σ κ Λ ε α) :
    (if c then p else q).passes Q P E t db ↔
      (c → p.passes Q P E t db) ∧ (¬c → q.passes Q P E t db) := by
  by_cases hc : c <;> simp [hc]

@[simp] theorem passes_throwIf (c : Prop) [Decidable c] (e : ε) {P : Unit → Tx σ → σ → Prop} :
    (throwIf c e : Prog σ κ Λ ε Unit).passes Q P E t db ↔ (c → E e t db) ∧ (¬c → P () t db) := by
  simp [throwIf]

@[simp] theorem passes_when (c : Prop) [Decidable c] (p : Prog σ κ Λ ε Unit)
    {P : Unit → Tx σ → σ → Prop} :
    (Prog.when c p).passes Q P E t db ↔ (c → p.passes Q P E t db) ∧ (¬c → P () t db) := by
  simp [Prog.when]

@[simp] theorem passes_orThrow (o : Option α) (e : ε) :
    (orThrow o e : Prog σ κ Λ ε α).passes Q P E t db ↔
      (o = none → E e t db) ∧ ∀ a, o = some a → P a t db := by
  cases o <;> simp [orThrow]

/-! ## Statements outside a transaction -/

@[simp] theorem passes_select_idle (l : Λ) (q : σ → α) :
    (select (κ := κ) (ε := ε) l q).passes Q P E .idle db ↔
      Q db ∧ P (q db) .idle db ∧ ∀ m, E (lost m) .idle db := Iff.rfl

@[simp] theorem passes_write_idle (rows : σ → List κ) (f : σ → σ) (q : σ → α) :
    (write (Λ := Λ) (ε := ε) rows f q).passes Q P E .idle db ↔
      Q db ∧ P (q db) .idle (f db) ∧ ∀ m, E (lost m) .idle db := Iff.rfl

@[simp] theorem passes_writeChecked_idle (rows : σ → List κ) (f : σ → Except ε σ) (q : σ → α) :
    (writeChecked (Λ := Λ) rows f q).passes Q P E .idle db ↔
      Q db ∧ ((∀ db', f db = .ok db' → P (q db) .idle db') ∧
        ∀ e, f db = .error e → E e .idle db) ∧ ∀ m, E (lost m) .idle db := by
  cases hf : f db <;> simp [writeChecked, stmt, passes, Stmt.exec, Stmt.fault, hf]

variable {p : Prog σ κ Λ ε α}

theorem ReadOnly.passes_idle (hp : p.ReadOnly) (hQ : Q db) (hP : ∀ a, P a .idle db)
    (hE : ∀ e, E e .idle db) : p.passes Q P E .idle db := by
  induction hp with
  | ret a => exact hP a
  | throw e => exact hE e
  | read hk ih => exact ⟨hQ, ih _, fun m => ih _⟩

/-! ## Soundness -/

theorem passes_runFrom (p : Prog σ κ Λ ε α) :
    ∀ (φ : ℕ → Option String) (t : Tx σ) (db : σ) (h : List (Obs σ Λ)),
      p.passes Q (fun _ _ s => Q s) (fun _ _ s => Q s) t db →
        (∀ s ∈ p.passed φ t db, Q s) ∧ Q (p.runFrom φ t db h).db := by
  induction p with
  | ret a =>
    intro φ t db h hp
    exact ⟨by simpa [passed] using hp, hp⟩
  | throw e =>
    intro φ t db h hp
    exact ⟨by simpa [passed] using hp, hp⟩
  | exec c k ih =>
    intro φ t db h hp
    simp only [passed, runFrom]
    cases φ 0 with
    | some m =>
      rcases ih (.error (lost m)) (fun n => φ (n + 1)) (c.fault t) db h (hp.2.2 m) with
        ⟨hall, hlast⟩
      exact ⟨List.forall_mem_cons.mpr ⟨hp.1, hall⟩, hlast⟩
    | none =>
      rcases ih _ (fun n => φ (n + 1)) _ _ ((c.exec t db).obs ++ h) hp.2.1 with ⟨hall, hlast⟩
      exact ⟨List.forall_mem_cons.mpr ⟨hp.1, hall⟩, hlast⟩

/-- What holds of every state passed holds in every run, whatever statements failed in it. -/
theorem passes_passed (hp : p.passes Q (fun _ _ s => Q s) (fun _ _ s => Q s) .idle db)
    (φ : ℕ → Option String) :
    (∀ s ∈ p.passed φ .idle db, Q s) ∧ Q (p.runWith φ db).db :=
  passes_runFrom p φ .idle db [] hp

/-! ## One fault -/

/-- At most one statement fails. -/
def OneFault (φ : ℕ → Option String) : Prop := ∀ n m, φ n ≠ none → φ m ≠ none → n = m

/-- The `n`-th statement fails, and no other. -/
def faultAt (n : ℕ) (message : String) : ℕ → Option String :=
  fun k => if k = n then some message else none

theorem oneFault_faultAt (n : ℕ) (message : String) : OneFault (faultAt n message) := by
  intro k l hk hl
  have hkn : k = n := by
    by_contra hne
    exact hk (if_neg hne)
  have hln : l = n := by
    by_contra hne
    exact hl (if_neg hne)
  omega

theorem oneFault_noFaults : OneFault noFaults := fun _ _ h => absurd rfl h

/-- See the module's introduction. -/
inductive Strikes : Prog σ κ Λ ε α → Tx σ → σ → σ → Prop where
  | here {c : Stmt σ κ Λ ε} {k : Except ε σ → Prog σ κ Λ ε α} {t db e} (m : String)
    (hk : k (.error (lost m)) = .throw e) : Strikes (.exec c k) t db db
  | later {c : Stmt σ κ Λ ε} {k : Except ε σ → Prog σ κ Λ ε α} {t db s}
    (h : Strikes (k (c.exec t db).reply) (c.exec t db).tx (c.exec t db).db s) :
      Strikes (.exec c k) t db s

theorem strikes_stmt (c : Stmt σ κ Λ ε) (q : σ → α) : Strikes (stmt c q) t db db :=
  .here "" rfl

theorem Strikes.bind {p : Prog σ κ Λ ε β} {s : σ} (h : Strikes p t db s)
    (f : β → Prog σ κ Λ ε α) : Strikes (p >>= f) t db s := by
  induction h with
  | @here c k t db e m hk =>
    refine .here (e := e) m ?_
    rw [hk]
    rfl
  | later _ ih => exact .later ih

theorem strikes_when {c : Prop} [Decidable c] {p : Prog σ κ Λ ε Unit} {f : Unit → Prog σ κ Λ ε α}
    {s : σ} (hp : c → Strikes p t db s) (hf : ¬c → Strikes (f ()) t db s) :
    Strikes (Prog.when c p >>= f) t db s := by
  unfold Prog.when
  split_ifs with hc
  · exact (hp hc).bind f
  · exact hf hc

theorem Strikes.after {p : Prog σ κ Λ ε β} {f : β → Prog σ κ Λ ε α} {s : σ} :
    ∀ {t t' : Tx σ} {db db' : σ} {b : β}, p.eval t db = (.ok b, t', db') →
      Strikes (f b) t' db' s → Strikes (p >>= f) t db s := by
  induction p with
  | ret a =>
    intro t t' db db' b hp h
    obtain ⟨hb, rfl, rfl⟩ : Except.ok (ε := ε) a = .ok b ∧ t = t' ∧ db = db' := by
      simpa [eval] using hp
    cases hb
    exact h
  | throw e =>
    intro t t' db db' b hp h
    simp [eval] at hp
  | exec c k ih =>
    intro t t' db db' b hp h
    exact .later (ih _ hp h)

section Then

variable {l : Λ} {rows : σ → List κ} {f : β → Prog σ κ Λ ε α} {s : σ}

variable {q : σ → β}

theorem Strikes.select_then (h : Strikes (f (q db)) .idle db s) :
    Strikes (select l q >>= f) .idle db s := .later h

theorem Strikes.write_then {g : σ → σ} (h : Strikes (f (q db)) .idle (g db) s) :
    Strikes (write rows g q >>= f) .idle db s := .later h

theorem Strikes.checked_then {g : σ → Except ε σ} {db' : σ} (hg : g db = .ok db')
    (h : Strikes (f (q db)) .idle db' s) : Strikes (writeChecked rows g q >>= f) .idle db s := by
  have heval : (writeChecked (Λ := Λ) rows g q).eval .idle db = (.ok (q db), .idle, db') := by
    simp [writeChecked, stmt, eval, Stmt.exec, hg]
  exact .after heval h

theorem Strikes.throwIf_then {f : Unit → Prog σ κ Λ ε α} {c : Prop} [Decidable c] {e : ε}
    (hc : ¬c) (h : Strikes (f ()) t db s) : Strikes (throwIf c e >>= f) t db s := by
  unfold throwIf
  rw [if_neg hc]
  exact h

theorem Strikes.when_then {p : Prog σ κ Λ ε Unit} {f : Unit → Prog σ κ Λ ε α} {c : Prop}
    [Decidable c] (hc : c) (h : Strikes (p >>= f) t db s) :
    Strikes (Prog.when c p >>= f) t db s := by
  unfold Prog.when
  rw [if_pos hc]
  exact h

end Then

theorem Strikes.run {s : σ} (hs : Strikes p t db s) :
    ∃ n m, ∀ h, (∃ e, (p.runFrom (faultAt n m) t db h).res = .error e) ∧
      (p.runFrom (faultAt n m) t db h).db = s := by
  induction hs with
  | @here c k t db e m hk =>
    refine ⟨0, m, fun h => ?_⟩
    have hzero : faultAt 0 m 0 = some m := rfl
    simp only [runFrom, hzero, hk]
    exact ⟨⟨e, rfl⟩, trivial⟩
  | @later c k t db s _ ih =>
    rcases ih with ⟨n, m, ih⟩
    refine ⟨n + 1, m, fun h => ?_⟩
    have hzero : faultAt (n + 1) m 0 = none := rfl
    have hrest : (fun i => faultAt (n + 1) m (i + 1)) = faultAt n m := by
      funext i
      simp [faultAt]
    simp only [runFrom, hzero, hrest]
    exact ih _

theorem Strikes.runWith {s : σ} (hs : Strikes p .idle db s) :
    ∃ φ, OneFault φ ∧ (∃ e, (p.runWith φ db).res = .error e) ∧ (p.runWith φ db).db = s := by
  rcases hs.run with ⟨n, m, hrun⟩
  exact ⟨faultAt n m, oneFault_faultAt n m, hrun []⟩

end Prog

export Prog (passes_mono passes_bind passes_throwIf passes_when passes_select_idle
  passes_write_idle)

end ReadCommitted
