import Travelo.ReadCommitted.Fragments

/-!
# A session with nobody around

`p.ends P E t db` says: from transaction `t` on `db`, while no other session writes and
whichever of its statements fail, `p` ends normally in a state that satisfies `P` or throws
in one that satisfies `E`.

* Unlike `wp`, a statement finds the state the one before it left, so what was read still
  holds when it is used.
* Unlike `eval`, any statement may fail.

`ends_runWith` connects it to `Prog.runWith`.
-/

namespace ReadCommitted

variable {σ κ Λ ε α β : Type} [Faults ε]

namespace Prog

/-- How a program that runs alone can end; see the module's introduction. -/
def ends (P : α → Tx σ → σ → Prop) (E : ε → Tx σ → σ → Prop) :
    Prog σ κ Λ ε α → Tx σ → σ → Prop
  | .ret a, t, db => P a t db
  | .throw e, t, db => E e t db
  | .exec c k, t, db =>
    (k (c.exec t db).reply).ends P E (c.exec t db).tx (c.exec t db).db ∧
      ∀ m, (k (.error (lost m))).ends P E (c.fault t) db

variable {P : α → Tx σ → σ → Prop} {E : ε → Tx σ → σ → Prop} {t : Tx σ} {db : σ}

theorem ends_mono {P' : α → Tx σ → σ → Prop} {E' : ε → Tx σ → σ → Prop}
    (hP : ∀ a t db, P a t db → P' a t db) (hE : ∀ e t db, E e t db → E' e t db)
    (p : Prog σ κ Λ ε α) : ∀ t db, p.ends P E t db → p.ends P' E' t db := by
  induction p with
  | ret a => exact fun t db hp => hP a t db hp
  | throw e => exact fun t db hp => hE e t db hp
  | exec c k ih => exact fun t db hp => ⟨ih _ _ _ hp.1, fun m => ih _ _ _ (hp.2 m)⟩

/-! ## Control flow -/

@[simp] theorem ends_pure (a : α) : (pure a : Prog σ κ Λ ε α).ends P E t db ↔ P a t db := Iff.rfl

@[simp] theorem ends_ret (a : α) :
    (Prog.ret a : Prog σ κ Λ ε α).ends P E t db ↔ P a t db := Iff.rfl

@[simp] theorem ends_throw (e : ε) :
    (MonadExcept.throw e : Prog σ κ Λ ε α).ends P E t db ↔ E e t db := Iff.rfl

@[simp] theorem ends_throw' (e : ε) :
    (Prog.throw e : Prog σ κ Λ ε α).ends P E t db ↔ E e t db := Iff.rfl

theorem ends_bind' (p : Prog σ κ Λ ε β) (f : β → Prog σ κ Λ ε α) :
    ∀ t db, (p.bind f).ends P E t db ↔ p.ends (fun b t db => (f b).ends P E t db) E t db := by
  induction p with
  | ret b => exact fun t db => Iff.rfl
  | throw e => exact fun t db => Iff.rfl
  | exec c k ih => simp [bind, ends, ih]

@[simp] theorem ends_bind (p : Prog σ κ Λ ε β) (f : β → Prog σ κ Λ ε α) :
    (p >>= f).ends P E t db ↔ p.ends (fun b t db => (f b).ends P E t db) E t db :=
  ends_bind' p f t db

theorem ends_tryCatch' (p : Prog σ κ Λ ε α) (handler : ε → Prog σ κ Λ ε α) :
    ∀ t db, (p.tryCatch handler).ends P E t db ↔
      p.ends P (fun e t db => (handler e).ends P E t db) t db := by
  induction p with
  | ret a => exact fun t db => Iff.rfl
  | throw e => exact fun t db => Iff.rfl
  | exec c k ih => simp [tryCatch, ends, ih]

@[simp] theorem ends_tryCatch (p : Prog σ κ Λ ε α) (handler : ε → Prog σ κ Λ ε α) :
    (tryCatchThe ε p handler).ends P E t db ↔
      p.ends P (fun e t db => (handler e).ends P E t db) t db :=
  ends_tryCatch' p handler t db

@[simp] theorem ends_ite (c : Prop) [Decidable c] (p q : Prog σ κ Λ ε α) :
    (if c then p else q).ends P E t db ↔ (c → p.ends P E t db) ∧ (¬c → q.ends P E t db) := by
  by_cases hc : c <;> simp [hc]

@[simp] theorem ends_throwIf (c : Prop) [Decidable c] (e : ε) {P : Unit → Tx σ → σ → Prop} :
    (throwIf c e : Prog σ κ Λ ε Unit).ends P E t db ↔ (c → E e t db) ∧ (¬c → P () t db) := by
  simp [throwIf]

@[simp] theorem ends_when (c : Prop) [Decidable c] (p : Prog σ κ Λ ε Unit)
    {P : Unit → Tx σ → σ → Prop} :
    (Prog.when c p).ends P E t db ↔ (c → p.ends P E t db) ∧ (¬c → P () t db) := by
  simp [Prog.when]

theorem ends_forSome (x : Option β) (p : β → Prog σ κ Λ ε Unit) {P : Unit → Tx σ → σ → Prop} :
    (forSome x p).ends P E t db ↔
      (∀ b, x = some b → (p b).ends P E t db) ∧ (x = none → P () t db) := by
  cases x <;> simp [forSome]

/-- What each part of a loop keeps, the loop keeps. -/
theorem ends_all {f : β → Prog σ κ Λ ε α} {K : Tx σ → σ → Prop} {l : List β}
    (hf : ∀ b ∈ l, ∀ t s, K t s → (f b).ends (fun _ t s => K t s) (fun _ t s => K t s) t s)
    (h : K t db) : (all f l).ends (fun _ t s => K t s) (fun _ t s => K t s) t db := by
  induction l generalizing t db with
  | nil => exact h
  | cons b l ih =>
    obtain ⟨hb, hl⟩ := List.forall_mem_cons.mp hf
    refine (ends_bind' _ _ _ _).mpr (ends_mono (fun _ t s hs => ?_) (fun _ _ _ h => h) _ _ _
      (hb t db h))
    exact (ends_bind' _ _ _ _).mpr (ih hl hs)

@[simp] theorem ends_orThrow (o : Option α) (e : ε) :
    (orThrow o e : Prog σ κ Λ ε α).ends P E t db ↔
      (o = none → E e t db) ∧ ∀ a, o = some a → P a t db := by
  cases o <;> simp [orThrow]

@[simp] theorem ends_lift (x : Except ε α) :
    (lift x : Prog σ κ Λ ε α).ends P E t db ↔
      (∀ e, x = .error e → E e t db) ∧ ∀ a, x = .ok a → P a t db := by
  cases x <;> simp [lift]

/-! ## Statements -/

@[simp] theorem ends_select_idle (l : Λ) (q : σ → α) :
    (select (κ := κ) (ε := ε) l q).ends P E .idle db ↔
      P (q db) .idle db ∧ ∀ m, E (lost m) .idle db := Iff.rfl

@[simp] theorem ends_select_active (l : Λ) (q : σ → α) (w : σ → σ) :
    (select (κ := κ) (ε := ε) l q).ends P E (.active w) db ↔
      P (q (w db)) (.active w) db ∧ ∀ m, E (lost m) .aborted db := Iff.rfl

@[simp] theorem ends_selectForUpdate_active (l : Λ) (rows : σ → List κ) (q : σ → α)
    (w : σ → σ) :
    (selectForUpdate (ε := ε) l rows q).ends P E (.active w) db ↔
      P (q (w db)) (.active w) db ∧ ∀ m, E (lost m) .aborted db := Iff.rfl

@[simp] theorem ends_write_idle (rows : σ → List κ) (f : σ → σ) (q : σ → α) :
    (write (Λ := Λ) (ε := ε) rows f q).ends P E .idle db ↔
      P (q db) .idle (f db) ∧ ∀ m, E (lost m) .idle db := Iff.rfl

@[simp] theorem ends_write_active (rows : σ → List κ) (f : σ → σ) (q : σ → α) (w : σ → σ) :
    (write (Λ := Λ) (ε := ε) rows f q).ends P E (.active w) db ↔
      P (q (w db)) (.active (f ∘ w)) db ∧ ∀ m, E (lost m) .aborted db := Iff.rfl

@[simp] theorem ends_writeChecked_idle (rows : σ → List κ) (f : σ → Except ε σ) (q : σ → α) :
    (writeChecked (Λ := Λ) rows f q).ends P E .idle db ↔
      ((∀ db', f db = .ok db' → P (q db) .idle db') ∧ ∀ e, f db = .error e → E e .idle db) ∧
        ∀ m, E (lost m) .idle db := by
  cases hf : f db <;> simp [writeChecked, stmt, ends, Stmt.exec, Stmt.fault, hf]

@[simp] theorem ends_writeChecked_active (rows : σ → List κ) (f : σ → Except ε σ) (q : σ → α)
    (w : σ → σ) :
    (writeChecked (Λ := Λ) rows f q).ends P E (.active w) db ↔
      ((∀ db', f (w db) = .ok db' → P (q (w db)) (.active (applied f ∘ w)) db) ∧
        ∀ e, f (w db) = .error e → E e .aborted db) ∧ ∀ m, E (lost m) .aborted db := by
  simp only [writeChecked, stmt, ends]
  cases hf : f (w db) <;> simp [Stmt.exec, hf, Stmt.fault]

@[simp] theorem ends_transaction (body : Prog σ κ Λ ε α) :
    (transaction body).ends P E .idle db ↔
      body.ends (fun a t db' => P a .idle (t.view db') ∧ ∀ m, E (lost m) .idle db')
        (fun e _ db' => E e .idle db') (.active id) db ∧ ∀ m, E (lost m) .idle db := by
  have hrollback : ∀ e t db', (Prog.exec .rollback fun _ => .throw e : Prog σ κ Λ ε α).ends P E t
      db' ↔ E e .idle db' := by
    intro e t db'
    simp [ends, Stmt.exec, Stmt.fault]
  have hcommit : ∀ a t db', ((stmt .commit fun _ => a : Prog σ κ Λ ε α).ends P
      (fun e _ db => E e .idle db) t db') ↔
      P a .idle (t.view db') ∧ ∀ m, E (lost m) .idle db' := by
    intro a t db'
    cases t <;> simp [stmt, ends, Stmt.exec, Tx.view]
  have hbegin : (transaction body).ends P E .idle db ↔
      ((body.bind fun a => stmt .commit fun _ => a).tryCatch fun e =>
        .exec .rollback fun _ => .throw e).ends P E (.active id) db ∧ ∀ m, E (lost m) .idle db :=
    Iff.rfl
  rw [hbegin, ends_tryCatch', ends_bind']
  simp only [hrollback, hcommit]

theorem ends_rolledBack (body : Prog σ κ Λ ε α) :
    (rolledBack body).ends P E .idle db ↔
      body.ends (fun a _ db' => P a .idle db' ∧ ∀ m, E (lost m) .idle db')
        (fun e _ db' => E e .idle db') (.active id) db ∧ ∀ m, E (lost m) .idle db := by
  have hrollback : ∀ e t db', (Prog.exec .rollback fun _ => .throw e : Prog σ κ Λ ε α).ends P E t
      db' ↔ E e .idle db' := by
    intro e t db'
    simp [ends, Stmt.exec, Stmt.fault]
  have hend : ∀ a t db', ((stmt .rollback fun _ => a : Prog σ κ Λ ε α).ends P
      (fun e _ db => E e .idle db) t db') ↔
      P a .idle db' ∧ ∀ m, E (lost m) .idle db' := by
    intro a t db'
    simp [stmt, ends, Stmt.exec]
  have hbegin : (rolledBack body).ends P E .idle db ↔
      ((body.bind fun a => stmt .rollback fun _ => a).tryCatch fun e =>
        .exec .rollback fun _ => .throw e).ends P E (.active id) db ∧ ∀ m, E (lost m) .idle db :=
    Iff.rfl
  rw [hbegin, ends_tryCatch', ends_bind']
  simp only [hrollback, hend]

/-! ## Fragments -/

variable {p : Prog σ κ Λ ε α}

theorem ReadOnly.ends_idle (hp : p.ReadOnly) (hP : ∀ a, P a .idle db) (hE : ∀ e, E e .idle db) :
    p.ends P E .idle db := by
  induction hp with
  | ret a => exact hP a
  | throw e => exact hE e
  | read hk ih => exact ⟨ih _, fun m => ih _⟩

theorem Body.ends_aborted (hp : p.Body) (hP : ∀ a, P a .aborted db) (hE : ∀ e, E e .aborted db) :
    p.ends P E .aborted db := by
  induction hp with
  | ret a => exact hP a
  | throw e => exact hE e
  | readK hk ih => exact ⟨ih _, fun m => ih _⟩
  | lockK hk ih => exact ⟨ih _, fun m => ih _⟩
  | writeK hk ih => exact ⟨ih _, fun m => ih _⟩

variable {R : σ → σ → Prop}

theorem Keeps.ends_aborted (hp : p.Keeps R) (hP : ∀ a, P a .aborted db)
    (hE : ∀ e, E e .aborted db) : p.ends P E .aborted db := by
  induction hp with
  | ret a => exact hP a
  | throw e => exact hE e
  | readK hk ih => exact ⟨ih _, fun m => ih _⟩
  | lockK hk ih => exact ⟨ih _, fun m => ih _⟩
  | writeK hR hk ih => exact ⟨ih _, fun m => ih _⟩

theorem Keeps.ends_active (hrefl : ∀ s, R s s) (htrans : ∀ s s' s'', R s s' → R s' s'' → R s s'')
    (hp : p.Keeps R) :
    ∀ w, (∀ a w', (∀ s, R (w s) (w' s)) → P a (.active w') db) → (∀ a, P a .aborted db) →
      (∀ e t, E e t db) → p.ends P E (.active w) db := by
  induction hp with
  | ret a => exact fun w hP _ _ => hP a w fun s => hrefl (w s)
  | throw e => exact fun w _ _ hE => hE e _
  | readK hk ih =>
    exact fun w hP hA hE => ⟨ih _ w hP hA hE, fun m => (hk _).ends_aborted hA fun e => hE e _⟩
  | lockK hk ih =>
    exact fun w hP hA hE => ⟨ih _ w hP hA hE, fun m => (hk _).ends_aborted hA fun e => hE e _⟩
  | writeK hR hk ih =>
    intro w hP hA hE
    refine ⟨ih _ _ (fun a w' hw' => ?_) hA hE, fun m => (hk _).ends_aborted hA fun e => hE e _⟩
    exact hP a w' fun s => htrans _ _ _ (hR (w s)) (hw' s)

variable {Q : σ → Prop}

/-- A transaction whose body ends in writes to `Q` ends in `Q`, if `Q` holds at the start. -/
theorem ends_transaction_of {body : Prog σ κ Λ ε α} (hstay : Q db)
    (h : body.ends (fun _ t s => s = db ∧ Q (t.view db)) (fun _ _ s => s = db) (.active id) db) :
    (transaction body).ends (fun _ _ s => Q s) (fun _ _ s => Q s) .idle db := by
  rw [ends_transaction]
  refine ⟨ends_mono (fun a t s hend => ?_) (fun e t s hend => ?_) _ _ _ h, fun _ => hstay⟩
  · obtain ⟨rfl, hq⟩ := hend
    exact ⟨hq, fun _ => hstay⟩
  · subst hend
    exact hstay

theorem Keeps.ends_rest (hrefl : ∀ s, R s s) (htrans : ∀ s s' s'', R s s' → R s' s'' → R s s'')
    (hp : p.Keeps R) {w : σ → σ} (hstay : Q db)
    (hQ : ∀ w' : σ → σ, (∀ s, R (w s) (w' s)) → Q (w' db)) :
    p.ends (fun _ t s => s = db ∧ Q (t.view db)) (fun _ _ s => s = db) (.active w) db :=
  hp.ends_active hrefl htrans w (fun _ w' hw' => ⟨rfl, hQ w' hw'⟩) (fun _ => ⟨rfl, hstay⟩)
    fun _ _ => rfl

theorem Keeps.ends_then (hrefl : ∀ s, R s s) (htrans : ∀ s s' s'', R s s' → R s' s'' → R s s'')
    {p : Prog σ κ Λ ε β} (hp : p.Keeps R) {f : β → Prog σ κ Λ ε α}
    (hf : ∀ b, (f b).Keeps fun _ _ => True) {w : σ → σ} (hstay : Q db)
    (hQ : ∀ b (w' : σ → σ), (∀ s, R (w s) (w' s)) →
      (f b).ends (fun _ t s => s = db ∧ Q (t.view db)) (fun _ _ s => s = db) (.active w') db) :
    (p >>= f).ends (fun _ t s => s = db ∧ Q (t.view db)) (fun _ _ s => s = db) (.active w) db := by
  rw [ends_bind]
  exact hp.ends_active hrefl htrans w hQ
    (fun b => (hf b).ends_aborted (fun _ => ⟨rfl, hstay⟩) fun _ => rfl) fun _ _ => rfl

/-! ## Soundness -/

theorem ends_runFrom (p : Prog σ κ Λ ε α) :
    ∀ (φ : ℕ → Option String) (t : Tx σ) (db : σ) (h : List (Obs σ Λ)), p.ends P E t db →
      (∀ a, (p.runFrom φ t db h).res = .ok a → ∃ t', P a t' (p.runFrom φ t db h).db) ∧
        ∀ e, (p.runFrom φ t db h).res = .error e → ∃ t', E e t' (p.runFrom φ t db h).db := by
  induction p with
  | ret a =>
    intro φ t db h hp
    refine ⟨fun a' ha => ?_, (fun e he => by cases he)⟩
    cases ha
    exact ⟨t, hp⟩
  | throw e =>
    intro φ t db h hp
    refine ⟨(fun a ha => by cases ha), fun e' he => ?_⟩
    cases he
    exact ⟨t, hp⟩
  | exec c k ih =>
    intro φ t db h hp
    simp only [runFrom]
    cases φ 0 with
    | some m => exact ih (.error (lost m)) _ _ _ _ (hp.2 m)
    | none => exact ih _ _ _ _ _ hp.1

theorem ends_eval (p : Prog σ κ Λ ε α) : ∀ (t : Tx σ) (db : σ), p.ends P E t db →
    (∀ a, (p.eval t db).1 = .ok a → P a (p.eval t db).2.1 (p.eval t db).2.2) ∧
      ∀ e, (p.eval t db).1 = .error e → E e (p.eval t db).2.1 (p.eval t db).2.2 := by
  induction p with
  | ret a =>
    intro t db hp
    refine ⟨fun a' ha => ?_, (fun e he => by cases he)⟩
    cases ha
    exact hp
  | throw e =>
    intro t db hp
    refine ⟨(fun a ha => by cases ha), fun e' he => ?_⟩
    cases he
    exact hp
  | exec c k ih => exact fun t db hp => ih _ _ _ hp.1

theorem eval_of_ends (hp : p.ends (fun _ _ s => Q s) (fun _ _ s => Q s) t db) :
    Q (p.eval t db).2.2 := by
  obtain ⟨hok, herr⟩ := ends_eval p t db hp
  cases hres : (p.eval t db).1 with
  | ok a => exact hok a hres
  | error e => exact herr e hres

/-- What holds at every end holds after a run, whatever statements failed in it. -/
theorem ends_runWith (hp : p.ends (fun _ _ s => Q s) (fun _ _ s => Q s) .idle db)
    (φ : ℕ → Option String) :
    Q (p.runWith φ db).db := by
  obtain ⟨hok, herr⟩ := ends_runFrom p φ .idle db [] hp
  cases hres : (p.runWith φ db).res with
  | ok a => exact (hok a hres).elim fun _ hq => hq
  | error e => exact (herr e hres).elim fun _ hq => hq

/-! ## A part after which nothing fails -/

/-- How many statements a program carries out, with the faults that befall it. -/
def statements : Prog σ κ Λ ε α → (ℕ → Option String) → Tx σ → σ → ℕ
  | .ret _, _, _, _ => 0
  | .throw _, _, _, _ => 0
  | .exec c k, φ, t, db =>
    match φ 0 with
    | some m => (k (.error (lost m))).statements (fun n => φ (n + 1)) (c.fault t) db + 1
    | none => (k (c.exec t db).reply).statements (fun n => φ (n + 1)) (c.exec t db).tx
        (c.exec t db).db + 1

theorem runFrom_then (p : Prog σ κ Λ ε β) (f : β → Prog σ κ Λ ε α) {P : β → Tx σ → σ → Prop}
    {E : ε → Tx σ → σ → Prop} (hP : ∀ b t db, P b t db → Q ((f b).eval t db).2.2)
    (hE : ∀ e t db, E e t db → Q db) :
    ∀ φ t db h, p.ends P E t db → (∀ n, p.statements φ t db ≤ n → φ n = none) →
      Q ((p >>= f).runFrom φ t db h).db := by
  induction p with
  | ret b =>
    intro φ t db h hp hφ
    have hnone : φ = noFaults := funext fun n => hφ n (Nat.zero_le n)
    show Q ((f b).runFrom φ t db h).db
    rw [hnone, (runFrom_eval (f b) t db h).2]
    exact hP b t db hp
  | throw e => exact fun φ t db h hp _ => hE e t db hp
  | exec c k ih =>
    intro φ t db h hp hφ
    have hbind : (Prog.exec c k >>= f) = .exec c fun r => (k r >>= f) := rfl
    rw [hbind]
    simp only [runFrom]
    simp only [statements] at hφ
    cases hfault : φ 0 with
    | some m =>
      simp only [hfault] at hφ
      exact ih _ _ _ _ _ (hp.2 m) fun n hn => hφ (n + 1) (Nat.succ_le_succ hn)
    | none =>
      simp only [hfault] at hφ
      exact ih _ _ _ _ _ hp.1 fun n hn => hφ (n + 1) (Nat.succ_le_succ hn)

end Prog

export Prog (ends_mono ends_pure ends_ret ends_bind ends_tryCatch ends_ite ends_throwIf ends_when
  ends_forSome ends_orThrow ends_lift ends_select_idle ends_select_active ends_write_idle
  ends_write_active ends_writeChecked_active ends_transaction ends_transaction_of ends_runFrom
  ends_runWith)

set_option linter.defProp false in
/-- What `simp` knows of `ends`. -/
def ends_simps :=
  And.intro @ends_bind <| And.intro @ends_pure <| And.intro @ends_orThrow <|
  And.intro @ends_lift <| And.intro @ends_throwIf <| And.intro @ends_select_idle <|
  And.intro @ends_select_active <| And.intro @ends_write_idle <| And.intro @ends_write_active <|
  And.intro @ends_writeChecked_active <| And.intro @ends_transaction <| trivially

/-! ## One program after another -/

section Runs

variable {A : Type} (prog : A → Prog σ κ Λ ε Unit)

/-- Programs carried out one after another, each with the faults that befall it. -/
def runAll (steps : List (A × (ℕ → Option String))) (db : σ) : σ :=
  steps.foldl (fun db a => ((prog a.1).runWith a.2 db).db) db

/-- A condition on each step and the states around it. -/
def EachStep (R : A → σ → σ → Prop) : List (A × (ℕ → Option String)) → σ → Prop
  | [], _ => True
  | a :: steps, db => R a.1 db ((prog a.1).runWith a.2 db).db ∧
      EachStep R steps ((prog a.1).runWith a.2 db).db

instance decidableEachStep (R : A → σ → σ → Prop) [∀ a s s', Decidable (R a s s')] :
    (steps : List (A × (ℕ → Option String))) → (db : σ) → Decidable (EachStep prog R steps db)
  | [], _ => .isTrue trivial
  | a :: steps, db =>
    have := decidableEachStep R steps ((prog a.1).runWith a.2 db).db
    inferInstanceAs (Decidable (_ ∧ _))

variable {prog} {I : σ → Prop} {R R' : A → σ → σ → Prop}

theorem eachStep_true : ∀ steps db, EachStep prog (fun _ _ _ => True) steps db := by
  intro steps
  induction steps with
  | nil => exact fun _ => trivial
  | cons a steps ih => exact fun _ => ⟨trivial, ih _⟩

theorem EachStep.invariant (hstep : ∀ a s s', R a s s' → I s → I s') :
    ∀ steps db, EachStep prog R steps db → I db → I (runAll prog steps db) := by
  intro steps
  induction steps with
  | nil => exact fun db _ hI => hI
  | cons a steps ih => exact fun db hR hI => ih _ hR.2 (hstep _ _ _ hR.1 hI)

/-- Every step of a run that starts well relates the states around it, if every step from a
good state does and leads to a good state. -/
theorem EachStep.mono (hstep : ∀ a s φ, I s → R a s ((prog a).runWith φ s).db →
      R' a s ((prog a).runWith φ s).db ∧ I ((prog a).runWith φ s).db) :
    ∀ steps db, EachStep prog R steps db → I db → EachStep prog R' steps db := by
  intro steps
  induction steps with
  | nil => exact fun _ _ _ => trivial
  | cons a steps ih =>
    intro db hR hI
    obtain ⟨hR', hI'⟩ := hstep _ _ _ hI hR.1
    exact ⟨hR', ih _ hR.2 hI'⟩

variable (prog) in
/-- A condition on each step, the faults that befall it and the state before it. -/
def EachBefore (G : A → (ℕ → Option String) → σ → Prop) :
    List (A × (ℕ → Option String)) → σ → Prop
  | [], _ => True
  | a :: steps, db => G a.1 a.2 db ∧ EachBefore G steps ((prog a.1).runWith a.2 db).db

theorem EachBefore.invariant {G : A → (ℕ → Option String) → σ → Prop}
    (hstep : ∀ a φ s, G a φ s → I s → I ((prog a).runWith φ s).db) :
    ∀ steps db, EachBefore prog G steps db → I db → I (runAll prog steps db) := by
  intro steps
  induction steps with
  | nil => exact fun db _ hI => hI
  | cons a steps ih => exact fun db hG hI => ih _ hG.2 (hstep _ _ _ hG.1 hI)

/-- A value is that of the start in every state of a run exactly when no step changes it. -/
theorem EachStep.const_iff {B : Type} (g : σ → B) : ∀ steps db,
    (∀ n, g (runAll prog (steps.take n) db) = g db) ↔
      EachStep prog (fun _ s s' => g s' = g s) steps db := by
  intro steps
  induction steps with
  | nil => exact fun db => ⟨fun _ => trivial, fun _ n => by simp [runAll]⟩
  | cons a steps ih =>
    intro db
    constructor
    · intro h
      have hfirst : g ((prog a.1).runWith a.2 db).db = g db := h 1
      refine ⟨hfirst, (ih _).mp fun n => ?_⟩
      rw [hfirst]
      exact h (n + 1)
    · rintro ⟨hfirst, hrest⟩ n
      cases n with
      | zero => rfl
      | succ n => exact ((ih _).mpr hrest n).trans hfirst

end Runs

end ReadCommitted
