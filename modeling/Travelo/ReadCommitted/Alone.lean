import Travelo.ReadCommitted.Prog

/-!
# One program with nobody else around

`p.eval t db` is what `p` does from transaction `t` on `db` when no other session writes
and no statement fails by itself. The equations below evaluate a service method by
rewriting; `run_eq` connects them to `Prog.run`.
-/

namespace ReadCommitted

variable {σ κ Λ ε α β : Type} [Faults ε]

namespace Prog

/-- The answer, the transaction and the database after a program ran alone. -/
def eval : Prog σ κ Λ ε α → Tx σ → σ → Except ε α × Tx σ × σ
  | .ret a, t, db => (.ok a, t, db)
  | .throw e, t, db => (.error e, t, db)
  | .exec c k, t, db => (k (c.exec t db).reply).eval (c.exec t db).tx (c.exec t db).db

variable (p : Prog σ κ Λ ε α)

theorem runFrom_eval :
    ∀ t db h, (p.runFrom noFaults t db h).res = (p.eval t db).1 ∧
      (p.runFrom noFaults t db h).db = (p.eval t db).2.2 := by
  induction p with
  | ret a => exact fun t db h => ⟨rfl, rfl⟩
  | throw e => exact fun t db h => ⟨rfl, rfl⟩
  | exec c k ih => exact fun t db h => ih _ _ _ _

theorem run_res (db : σ) : (p.run db).res = (p.eval .idle db).1 :=
  (runFrom_eval p .idle db []).1

theorem run_db (db : σ) : (p.run db).db = (p.eval .idle db).2.2 :=
  (runFrom_eval p .idle db []).2

variable {t : Tx σ} {db : σ}

@[simp] theorem eval_pure (a : α) :
    (pure a : Prog σ κ Λ ε α).eval t db = (.ok a, t, db) := rfl

@[simp] theorem eval_ret (a : α) : (Prog.ret a : Prog σ κ Λ ε α).eval t db = (.ok a, t, db) := rfl

@[simp] theorem eval_throw (e : ε) :
    (MonadExcept.throw e : Prog σ κ Λ ε α).eval t db = (.error e, t, db) := rfl

@[simp] theorem eval_throw' (e : ε) :
    (Prog.throw e : Prog σ κ Λ ε α).eval t db = (.error e, t, db) := rfl

theorem eval_bind' (p : Prog σ κ Λ ε β) (f : β → Prog σ κ Λ ε α) :
    ∀ t db, (p.bind f).eval t db =
      match p.eval t db with
      | (.ok b, t', db') => (f b).eval t' db'
      | (.error e, t', db') => (.error e, t', db') := by
  induction p with
  | ret b => exact fun t db => rfl
  | throw e => exact fun t db => rfl
  | exec c k ih => exact fun t db => ih _ _ _

@[simp] theorem eval_bind (p : Prog σ κ Λ ε β) (f : β → Prog σ κ Λ ε α) :
    (p >>= f).eval t db =
      match p.eval t db with
      | (.ok b, t', db') => (f b).eval t' db'
      | (.error e, t', db') => (.error e, t', db') :=
  eval_bind' p f t db

theorem eval_map_res (p : Prog σ κ Λ ε β) (f : β → α) :
    ((f <$> p).eval t db).1 = (p.eval t db).1.map f := by
  have hmap : f <$> p = p >>= fun b => Prog.ret (f b) := rfl
  rw [hmap, eval_bind]
  rcases p.eval t db with ⟨_ | b, t', db'⟩ <;> rfl

variable {t' : Tx σ} {db' : σ} {a : α}

theorem eval_bind_ok {p : Prog σ κ Λ ε β} {f : β → Prog σ κ Λ ε α}
    (h : (p >>= f).eval t db = (.ok a, t', db')) :
    ∃ b t₁ db₁, p.eval t db = (.ok b, t₁, db₁) ∧ (f b).eval t₁ db₁ = (.ok a, t', db') := by
  rw [eval_bind] at h
  rcases hp : p.eval t db with ⟨_ | b, t₁, db₁⟩
  · rw [hp] at h
    cases h
  · rw [hp] at h
    exact ⟨b, t₁, db₁, rfl, h⟩

theorem eval_bind_error {p : Prog σ κ Λ ε β} {f : β → Prog σ κ Λ ε α} {e : ε}
    (h : (p >>= f).eval t db = (.error e, t', db')) :
    p.eval t db = (.error e, t', db') ∨
      ∃ b t₁ db₁, p.eval t db = (.ok b, t₁, db₁) ∧ (f b).eval t₁ db₁ = (.error e, t', db') := by
  rw [eval_bind] at h
  rcases hp : p.eval t db with ⟨e' | b, t₁, db₁⟩
  · rw [hp] at h
    cases h
    exact .inl rfl
  · rw [hp] at h
    exact .inr ⟨b, t₁, db₁, rfl, h⟩

theorem eval_discard :
    ((do let _ ← p : Prog σ κ Λ ε Unit).eval t db).2.2 = (p.eval t db).2.2 := by
  rw [eval_bind]
  split
  · next heval =>
    rw [heval]
    rfl
  · next heval => rw [heval]

theorem run_discard_ok {p : Prog σ κ Λ ε α}
    (h : ((do let _ ← p : Prog σ κ Λ ε Unit).run db).res = .ok ()) :
    ∃ a, (p.run db).res = .ok a := by
  rw [run_res, eval_bind] at h
  rw [run_res]
  rcases hp : p.eval .idle db with ⟨_ | a, t', db'⟩
  · rw [hp] at h
    cases h
  · exact ⟨a, rfl⟩

theorem run_discard_db :
    ((do let _ ← p : Prog σ κ Λ ε Unit).run db).db = (p.run db).db := by
  rw [run_db, run_db, eval_discard]

theorem eval_tryCatch' (handler : ε → Prog σ κ Λ ε α) :
    ∀ t db, (p.tryCatch handler).eval t db =
      match p.eval t db with
      | (.ok a, t', db') => (.ok a, t', db')
      | (.error e, t', db') => (handler e).eval t' db' := by
  induction p with
  | ret b => exact fun t db => rfl
  | throw e => exact fun t db => rfl
  | exec c k ih => exact fun t db => ih _ _ _

@[simp] theorem eval_tryCatch (handler : ε → Prog σ κ Λ ε α) :
    (tryCatchThe ε p handler).eval t db =
      match p.eval t db with
      | (.ok a, t', db') => (.ok a, t', db')
      | (.error e, t', db') => (handler e).eval t' db' :=
  eval_tryCatch' p handler t db

theorem eval_all {γ : Type} {p : γ → Prog σ κ Λ ε α} {f : γ → α} {l : List γ}
    (h : ∀ b ∈ l, (p b).eval t db = (.ok (f b), t, db)) :
    (all p l).eval t db = (.ok (l.map f), t, db) := by
  induction l with
  | nil => rfl
  | cons b l ih =>
    have hrest := ih fun b' hb' => h b' (List.mem_cons_of_mem b hb')
    rw [all, eval_bind', h b List.mem_cons_self]
    show ((all p l).bind _).eval t db = _
    rw [eval_bind', hrest]
    rfl

variable (c : Prop)

@[simp] theorem eval_ite [Decidable c] (p q : Prog σ κ Λ ε α) :
    (if c then p else q).eval t db = if c then p.eval t db else q.eval t db := by
  by_cases hc : c <;> simp [hc]

@[simp] theorem eval_throwIf [Decidable c] (e : ε) :
    (throwIf c e : Prog σ κ Λ ε Unit).eval t db =
      if c then (.error e, t, db) else (.ok (), t, db) := by
  simp [throwIf]

@[simp] theorem eval_when [Decidable c] (p : Prog σ κ Λ ε Unit) :
    (Prog.when c p).eval t db = if c then p.eval t db else (.ok (), t, db) := by
  by_cases hc : c <;> simp [Prog.when, hc]

@[simp] theorem eval_forSome_none (p : β → Prog σ κ Λ ε Unit) :
    (forSome none p).eval t db = (.ok (), t, db) := rfl

@[simp] theorem eval_forSome_some (b : β) (p : β → Prog σ κ Λ ε Unit) :
    (forSome (some b) p).eval t db = (p b).eval t db := rfl

@[simp] theorem eval_orThrow (o : Option α) (e : ε) :
    (orThrow o e : Prog σ κ Λ ε α).eval t db = (o.elim (.error e) .ok, t, db) := by
  cases o <;> rfl

@[simp] theorem eval_lift (x : Except ε α) :
    (lift x : Prog σ κ Λ ε α).eval t db = (x, t, db) := by
  cases x <;> rfl

@[simp] theorem eval_select_idle (l : Λ) (q : σ → α) :
    (select (κ := κ) (ε := ε) l q).eval .idle db = (.ok (q db), .idle, db) := rfl

@[simp] theorem eval_select_active (l : Λ) (q : σ → α) (w : σ → σ) :
    (select (κ := κ) (ε := ε) l q).eval (.active w) db = (.ok (q (w db)), .active w, db) := rfl

@[simp] theorem eval_selectForUpdate_active (l : Λ) (rows : σ → List κ) (q : σ → α)
    (w : σ → σ) :
    (selectForUpdate (ε := ε) l rows q).eval (.active w) db =
      (.ok (q (w db)), .active w, db) := rfl

@[simp] theorem eval_write_idle (rows : σ → List κ) (f : σ → σ) (q : σ → α) :
    (write (Λ := Λ) (ε := ε) rows f q).eval .idle db = (.ok (q db), .idle, f db) := rfl

@[simp] theorem eval_write_active (rows : σ → List κ) (f : σ → σ) (q : σ → α) (w : σ → σ) :
    (write (Λ := Λ) (ε := ε) rows f q).eval (.active w) db =
      (.ok (q (w db)), .active (f ∘ w), db) := rfl

@[simp] theorem eval_writeChecked_active (rows : σ → List κ) (f : σ → Except ε σ) (q : σ → α)
    (w : σ → σ) :
    (writeChecked (Λ := Λ) rows f q).eval (.active w) db =
      match f (w db) with
      | .ok _ => (.ok (q (w db)), .active (applied f ∘ w), db)
      | .error e => (.error e, .aborted, db) := by
  cases hf : f (w db) <;> simp [writeChecked, stmt, eval, Stmt.exec, hf]

@[simp] theorem eval_writeChecked_idle (rows : σ → List κ) (f : σ → Except ε σ) (q : σ → α) :
    (writeChecked (Λ := Λ) rows f q).eval .idle db =
      match f db with
      | .ok db' => (.ok (q db), .idle, db')
      | .error e => (.error e, .idle, db) := by
  cases hf : f db <;> simp [writeChecked, stmt, eval, Stmt.exec, hf]

theorem eval_found {l : Λ} {q : σ → Option α} {e : ε}
    (h : (select (κ := κ) l q >>= fun row => orThrow row e).eval .idle db = (.ok a, t', db')) :
    q db = some a ∧ .idle = t' ∧ db = db' := by
  rw [eval_bind, eval_select_idle] at h
  cases hq : q db with
  | none =>
    rw [hq] at h
    cases h
  | some b =>
    rw [hq] at h
    cases h
    exact ⟨rfl, rfl, rfl⟩

theorem eval_selected {l : Λ} {q : σ → α}
    (h : (select (κ := κ) (ε := ε) l q).eval .idle db = (.ok a, t', db')) :
    a = q db ∧ .idle = t' ∧ db = db' := by
  rw [eval_select_idle] at h
  cases h
  exact ⟨rfl, rfl, rfl⟩

theorem eval_written {rows : σ → List κ} {f : σ → σ} {q : σ → α}
    (h : (write (Λ := Λ) (ε := ε) rows f q).eval .idle db = (.ok a, t', db')) :
    a = q db ∧ .idle = t' ∧ f db = db' := by
  rw [eval_write_idle] at h
  cases h
  exact ⟨rfl, rfl, rfl⟩

theorem eval_passed {c : Prop} [Decidable c] {e : ε} {u : Unit}
    (h : (throwIf c e : Prog σ κ Λ ε Unit).eval t db = (.ok u, t', db')) :
    ¬c ∧ t = t' ∧ db = db' := by
  rw [eval_throwIf] at h
  by_cases hc : c
  · rw [if_pos hc] at h
    cases h
  · rw [if_neg hc] at h
    cases h
    exact ⟨hc, rfl, rfl⟩

theorem eval_lifted {x : Except ε α} (h : (lift x : Prog σ κ Λ ε α).eval t db = (.ok a, t', db')) :
    x = .ok a ∧ t = t' ∧ db = db' := by
  rw [eval_lift] at h
  cases h
  exact ⟨rfl, rfl, rfl⟩

@[simp] theorem eval_transaction (body : Prog σ κ Λ ε α) :
    (transaction body).eval .idle db =
      match body.eval (.active id) db with
      | (.ok a, .active w, db') => (.ok a, .idle, w db')
      | (.ok a, _, db') => (.ok a, .idle, db')
      | (.error e, _, db') => (.error e, .idle, db') := by
  have hbegin : (transaction body).eval .idle db =
      ((body.bind fun a => stmt .commit fun _ => a).tryCatch fun e =>
        .exec .rollback fun _ => .throw e).eval (.active id) db := rfl
  rw [hbegin, eval_tryCatch', eval_bind']
  rcases body.eval (.active id) db with ⟨_ | a, t', db'⟩
  · rfl
  · cases t' <;> rfl

@[simp] theorem eval_rolledBack (body : Prog σ κ Λ ε α) :
    (rolledBack body).eval .idle db =
      ((body.eval (.active id) db).1, .idle, (body.eval (.active id) db).2.2) := by
  have hbegin : (rolledBack body).eval .idle db =
      ((body.bind fun a => stmt .rollback fun _ => a).tryCatch fun e =>
        .exec .rollback fun _ => .throw e).eval (.active id) db := rfl
  rw [hbegin, eval_tryCatch', eval_bind']
  rcases body.eval (.active id) db with ⟨_ | a, t', db'⟩ <;> rfl

end Prog

export Prog (eval_pure eval_ret eval_bind' eval_bind eval_map_res eval_bind_ok eval_bind_error
  eval_discard eval_tryCatch eval_all eval_ite eval_throwIf eval_when eval_forSome_none
  eval_forSome_some eval_orThrow eval_lift eval_select_idle eval_select_active eval_write_idle
  eval_write_active eval_selected eval_written eval_passed eval_lifted eval_transaction)

set_option linter.defProp false in
/-- What `simp` knows of `eval`. -/
def eval_simps :=
  And.intro @eval_bind <| And.intro @eval_pure <| And.intro @eval_orThrow <|
  And.intro @eval_lift <| And.intro @eval_throwIf <| And.intro @eval_select_idle <|
  And.intro @eval_select_active <| And.intro @eval_write_idle <| And.intro @eval_write_active <|
  @eval_transaction

end ReadCommitted
