import Travelo.ReadCommitted.Alone
import Travelo.ReadCommitted.Trail

/-!
# Read-only programs and transaction bodies

Fragments whose effect is known without looking at them:

* a `ReadOnly` program only selects: it leaves the database alone and adds reads to its
  history;
* a `Body` opens and closes no transaction: run inside one it publishes nothing, and an
  aborted transaction stays aborted;
* a body that `Keeps R` has writes that nothing refuses and that relate the states around them
  by `R`; in a transaction it does what it does on its own.

The closure lemmas recognise a program that is built from such parts.
-/

namespace ReadCommitted

variable {σ κ Λ ε α β : Type}

theorem quiet_append {o h : List (Obs σ Λ)} : Quiet (o ++ h) ↔ Quiet o ∧ Quiet h := by
  induction o with
  | nil => simp
  | cons x o ih =>
    cases x with
    | saw l b => exact ih
    | wrote w => exact ⟨False.elim, fun hq => hq.1⟩

/-- The program consists of `SELECT`s. -/
inductive Prog.ReadOnly : Prog σ κ Λ ε α → Prop where
  | ret (a : α) : Prog.ReadOnly (.ret a)
  | throw (e : ε) : Prog.ReadOnly (.throw e)
  | read {l k} (hk : ∀ r, Prog.ReadOnly (k r)) : Prog.ReadOnly (.exec (.read l) k)

namespace Prog.ReadOnly

@[simp] theorem pure (a : α) : (Pure.pure a : Prog σ κ Λ ε α).ReadOnly := .ret a

theorem bind {p : Prog σ κ Λ ε β} {f : β → Prog σ κ Λ ε α} (hp : p.ReadOnly)
    (hf : ∀ b, (f b).ReadOnly) : (p >>= f).ReadOnly := by
  induction hp with
  | ret b => exact hf b
  | throw e => exact .throw e
  | read hk ih => exact .read ih

theorem map {p : Prog σ κ Λ ε β} (hp : p.ReadOnly) (f : β → α) : (f <$> p).ReadOnly :=
  bind hp fun b => .ret (f b)

theorem select (l : Λ) (q : σ → α) : (Prog.select (κ := κ) (ε := ε) l q).ReadOnly :=
  .read fun r => by cases r <;> constructor

theorem lift (x : Except ε α) : (Prog.lift x : Prog σ κ Λ ε α).ReadOnly := by
  cases x <;> constructor

theorem orThrow (o : Option α) (e : ε) : (Prog.orThrow o e : Prog σ κ Λ ε α).ReadOnly := by
  cases o <;> constructor

theorem ite (c : Prop) [Decidable c] {p q : Prog σ κ Λ ε α} (hp : p.ReadOnly) (hq : q.ReadOnly) :
    (if c then p else q).ReadOnly := by
  by_cases hc : c <;> simpa [hc]

theorem all {p : β → Prog σ κ Λ ε α} (hp : ∀ b, (p b).ReadOnly) (l : List β) :
    (Prog.all p l).ReadOnly := by
  induction l with
  | nil => exact .ret []
  | cons b l ih => exact bind (hp b) fun a => bind ih fun as => .ret (a :: as)

variable {C : List (Obs σ Λ) → (σ → σ) → Prop} {P : α → List (Obs σ Λ) → Tx σ → Prop}
  {E : ε → List (Obs σ Λ) → Tx σ → Prop} {h : List (Obs σ Λ)} [Faults ε]

theorem wp_idle [Nonempty σ] {p : Prog σ κ Λ ε α} (hp : p.ReadOnly) :
    ∀ h, (∀ a o, Quiet o → P a (o ++ h) .idle) → (∀ e o, Quiet o → E e (o ++ h) .idle) →
      p.wp C P E h .idle := by
  induction hp with
  | ret a => exact fun h hP _ => hP a [] quiet_nil
  | throw e => exact fun h _ hE => hE e [] quiet_nil
  | @read l k hk ih =>
    intro h hP hE
    refine ⟨fun db => ⟨fun w hw => by simp [Stmt.exec] at hw, ?_⟩, fun e => ih _ h hP hE⟩
    refine ih _ (.saw l db :: h) (fun a o ho => ?_) (fun e o ho => ?_)
    · simpa using hP a (o ++ [.saw l db]) (quiet_append.mpr ⟨ho, by simp⟩)
    · simpa using hE e (o ++ [.saw l db]) (quiet_append.mpr ⟨ho, by simp⟩)

theorem eval_idle {p : Prog σ κ Λ ε α} (hp : p.ReadOnly) (db : σ) :
    (p.eval .idle db).2 = (.idle, db) := by
  induction hp with
  | ret a => rfl
  | throw e => rfl
  | read hk ih => exact ih _

end Prog.ReadOnly

/-- The program opens and closes no transaction. -/
inductive Prog.Body : Prog σ κ Λ ε α → Prop where
  | ret (a : α) : Prog.Body (.ret a)
  | throw (e : ε) : Prog.Body (.throw e)
  | readK {l k} (hk : ∀ r, Prog.Body (k r)) : Prog.Body (.exec (.read l) k)
  | lockK {l rows k} (hk : ∀ r, Prog.Body (k r)) : Prog.Body (.exec (.lock l rows) k)
  | writeK {rows f k} (hk : ∀ r, Prog.Body (k r)) : Prog.Body (.exec (.write rows f) k)

/-- A transaction is open, and if it was aborted it still is. -/
def Tx.StaysOpen (t t' : Tx σ) : Prop :=
  match t with
  | .idle => False
  | .active _ => t' ≠ .idle
  | .aborted => t' = .aborted

theorem Tx.StaysOpen.trans {t t' t'' : Tx σ} (h : t.StaysOpen t') (h' : t'.StaysOpen t'') :
    t.StaysOpen t'' := by
  cases t with
  | idle => exact h
  | active w =>
    cases t' with
    | idle => exact absurd rfl h
    | active w' => exact h'
    | aborted =>
      obtain rfl : t'' = .aborted := h'
      simp [StaysOpen]
  | aborted =>
    obtain rfl : t' = .aborted := h
    exact h'

theorem Tx.StaysOpen.refl {t : Tx σ} (h : t ≠ .idle) : t.StaysOpen t := by
  cases t with
  | idle => exact h rfl
  | active w => simp [StaysOpen]
  | aborted => rfl

theorem notMem_of_quiet {o : List (Obs σ Λ)} {w : σ → σ} (ho : Quiet o) : .wrote w ∉ o := by
  induction o with
  | nil => simp
  | cons x o ih =>
    cases x with
    | saw l b => simpa using ih ho
    | wrote w' => exact absurd ho quiet_wrote

namespace Prog.Body

@[simp] theorem pure (a : α) : (Pure.pure a : Prog σ κ Λ ε α).Body := .ret a

theorem bind {p : Prog σ κ Λ ε β} {f : β → Prog σ κ Λ ε α} (hp : p.Body) (hf : ∀ b, (f b).Body) :
    (p >>= f).Body := by
  induction hp with
  | ret b => exact hf b
  | throw e => exact .throw e
  | readK hk ih => exact .readK ih
  | lockK hk ih => exact .lockK ih
  | writeK hk ih => exact .writeK ih

theorem tryCatch {p : Prog σ κ Λ ε α} {f : ε → Prog σ κ Λ ε α} (hp : p.Body)
    (hf : ∀ e, (f e).Body) : (tryCatchThe ε p f).Body := by
  induction hp with
  | ret a => exact .ret a
  | throw e => exact hf e
  | readK hk ih => exact .readK ih
  | lockK hk ih => exact .lockK ih
  | writeK hk ih => exact .writeK ih

theorem selectForUpdate (l : Λ) (rows : σ → List κ) (q : σ → α) :
    (Prog.selectForUpdate (ε := ε) l rows q).Body :=
  .lockK fun r => by cases r <;> constructor

theorem write (rows : σ → List κ) (f : σ → σ) (q : σ → α) :
    (Prog.write (Λ := Λ) (ε := ε) rows f q).Body :=
  .writeK fun r => by cases r <;> constructor

theorem throwIf (c : Prop) [Decidable c] (e : ε) :
    (Prog.throwIf c e : Prog σ κ Λ ε Unit).Body := by
  unfold Prog.throwIf
  split <;> constructor

theorem ite (c : Prop) [Decidable c] {p q : Prog σ κ Λ ε α} (hp : p.Body) (hq : q.Body) :
    (if c then p else q).Body := by
  by_cases hc : c <;> simpa [hc]

variable {C : List (Obs σ Λ) → (σ → σ) → Prop} {P : α → List (Obs σ Λ) → Tx σ → Prop}
  {E : ε → List (Obs σ Λ) → Tx σ → Prop} [Faults ε]

variable {c : Stmt σ κ Λ ε}

theorem exec_open (hc : c ≠ .begin ∧ c ≠ .commit ∧ c ≠ .rollback) {t : Tx σ} (ht : t ≠ .idle)
    (db : σ) :
    Quiet (c.exec t db).obs ∧ t.StaysOpen (c.exec t db).tx := by
  obtain ⟨hb, hcm, hr⟩ := hc
  cases t with
  | idle => exact absurd rfl ht
  | active w =>
    cases c with
    | read l => simp [Stmt.exec, Tx.StaysOpen]
    | lock l rows => simp [Stmt.exec, Tx.StaysOpen]
    | write rows f => cases hf : f (w db) <;> simp [Stmt.exec, Tx.StaysOpen, hf]
    | begin => exact absurd rfl hb
    | commit => exact absurd rfl hcm
    | rollback => exact absurd rfl hr
  | aborted =>
    cases c with
    | read l => simp [Stmt.exec, Tx.StaysOpen]
    | lock l rows => simp [Stmt.exec, Tx.StaysOpen]
    | write rows f => simp [Stmt.exec, Tx.StaysOpen]
    | begin => exact absurd rfl hb
    | commit => exact absurd rfl hcm
    | rollback => exact absurd rfl hr

omit [Faults ε] in
theorem fault_open (hc : c ≠ .begin ∧ c ≠ .commit ∧ c ≠ .rollback) {t : Tx σ} (ht : t ≠ .idle) :
    t.StaysOpen (c.fault t) := by
  cases t with
  | idle => exact absurd rfl ht
  | active w => cases c <;> simp [Stmt.fault, Tx.StaysOpen] at hc ⊢
  | aborted => cases c <;> simp [Stmt.fault, Tx.StaysOpen] at hc ⊢

theorem wp_exec {k : Except ε σ → Prog σ κ Λ ε α} (hc : c ≠ .begin ∧ c ≠ .commit ∧ c ≠ .rollback)
    {h : List (Obs σ Λ)} {t : Tx σ} (ht : t ≠ .idle)
    (hk : ∀ r o t', Quiet o → t.StaysOpen t' → (k r).wp C P E (o ++ h) t') :
    (Prog.exec c k).wp C P E h t := by
  refine ⟨fun db => ?_, fun m => ?_⟩
  · obtain ⟨hq, hopen⟩ := exec_open hc ht db
    exact ⟨fun w hw => absurd hw (notMem_of_quiet hq), hk _ _ _ hq hopen⟩
  · simpa using hk (.error (lost m)) [] _ quiet_nil (fault_open hc ht)

theorem wp_open {p : Prog σ κ Λ ε α} (hp : p.Body) :
    ∀ h (t : Tx σ), t ≠ .idle →
      (∀ a o t', Quiet o → t.StaysOpen t' → P a (o ++ h) t') →
      (∀ e o t', Quiet o → t.StaysOpen t' → E e (o ++ h) t') → p.wp C P E h t := by
  have step : ∀ {c : Stmt σ κ Λ ε} {k : Except ε σ → Prog σ κ Λ ε α},
      (c ≠ .begin ∧ c ≠ .commit ∧ c ≠ .rollback) →
      (∀ r h (t : Tx σ), t ≠ .idle →
        (∀ a o t', Quiet o → t.StaysOpen t' → P a (o ++ h) t') →
        (∀ e o t', Quiet o → t.StaysOpen t' → E e (o ++ h) t') → (k r).wp C P E h t) →
      ∀ h (t : Tx σ), t ≠ .idle →
        (∀ a o t', Quiet o → t.StaysOpen t' → P a (o ++ h) t') →
        (∀ e o t', Quiet o → t.StaysOpen t' → E e (o ++ h) t') →
        (Prog.exec c k).wp C P E h t := by
    intro c k hc ih h t ht hP hE
    refine wp_exec hc ht fun r o t' ho hopen => ih r _ _ ?_ ?_ ?_
    · rintro rfl
      cases t <;> simp [Tx.StaysOpen] at hopen
    · intro a o' t'' ho' hopen'
      simpa using hP a (o' ++ o) t'' (quiet_append.mpr ⟨ho', ho⟩) (hopen.trans hopen')
    · intro e o' t'' ho' hopen'
      simpa using hE e (o' ++ o) t'' (quiet_append.mpr ⟨ho', ho⟩) (hopen.trans hopen')
  induction hp with
  | ret a => exact fun h t ht hP _ => hP a [] t quiet_nil (.refl ht)
  | throw e => exact fun h t ht _ hE => hE e [] t quiet_nil (.refl ht)
  | readK hk ih => exact step (by simp) ih
  | lockK hk ih => exact step (by simp) ih
  | writeK hk ih => exact step (by simp) ih

end Prog.Body

/-! ## Bodies that keep something -/

/-- The program opens and closes no transaction, and its writes cannot be refused and relate by
`R`. -/
inductive Prog.Keeps (R : σ → σ → Prop) : Prog σ κ Λ ε α → Prop where
  | ret (a : α) : Prog.Keeps R (.ret a)
  | throw (e : ε) : Prog.Keeps R (.throw e)
  | readK {l k} (hk : ∀ r, Prog.Keeps R (k r)) : Prog.Keeps R (.exec (.read l) k)
  | lockK {l rows k} (hk : ∀ r, Prog.Keeps R (k r)) : Prog.Keeps R (.exec (.lock l rows) k)
  | writeK {rows k} {f : σ → σ} (hf : ∀ s, R s (f s)) (hk : ∀ r, Prog.Keeps R (k r)) :
      Prog.Keeps R (.exec (.write rows fun s => .ok (f s)) k)

namespace Prog.Keeps

variable {R R' : σ → σ → Prop}

variable {p : Prog σ κ Λ ε α}

theorem mono (hp : p.Keeps R) (h : ∀ s s', R s s' → R' s s') :
    p.Keeps R' := by
  induction hp with
  | ret a => exact .ret a
  | throw e => exact .throw e
  | readK hk ih => exact .readK ih
  | lockK hk ih => exact .lockK ih
  | writeK hf hk ih => exact .writeK (fun s => h _ _ (hf s)) ih

@[simp] theorem pure (a : α) : (Pure.pure a : Prog σ κ Λ ε α).Keeps R := .ret a

theorem bind {p : Prog σ κ Λ ε β} {f : β → Prog σ κ Λ ε α} (hp : p.Keeps R)
    (hf : ∀ b, (f b).Keeps R) : (p >>= f).Keeps R := by
  induction hp with
  | ret b => exact hf b
  | throw e => exact .throw e
  | readK hk ih => exact .readK ih
  | lockK hk ih => exact .lockK ih
  | writeK hR hk ih => exact .writeK hR ih

theorem tryCatch {f : ε → Prog σ κ Λ ε α} (hp : p.Keeps R) (hf : ∀ e, (f e).Keeps R) :
    (tryCatchThe ε p f).Keeps R := by
  induction hp with
  | ret a => exact .ret a
  | throw e => exact hf e
  | readK hk ih => exact .readK ih
  | lockK hk ih => exact .lockK ih
  | writeK hR hk ih => exact .writeK hR ih

theorem ite (c : Prop) [Decidable c] {p q : Prog σ κ Λ ε α} (hp : p.Keeps R)
    (hq : q.Keeps R) : (if c then p else q).Keeps R := by
  by_cases hc : c <;> simpa [hc]

theorem throwIf (c : Prop) [Decidable c] (e : ε) :
    (Prog.throwIf c e : Prog σ κ Λ ε Unit).Keeps R :=
  ite c (.throw e) (.ret ())

theorem when (c : Prop) [Decidable c] {p : Prog σ κ Λ ε Unit} (hp : p.Keeps R) :
    (Prog.when c p).Keeps R :=
  ite c hp (.ret ())

theorem forSome (x : Option β) {p : β → Prog σ κ Λ ε Unit} (hp : ∀ a, (p a).Keeps R) :
    (Prog.forSome x p).Keeps R := by
  cases x with
  | none => exact .ret ()
  | some a => exact hp a

theorem orThrow (o : Option α) (e : ε) : (Prog.orThrow o e : Prog σ κ Λ ε α).Keeps R := by
  cases o <;> constructor

theorem lift (x : Except ε α) : (Prog.lift x : Prog σ κ Λ ε α).Keeps R := by
  cases x <;> constructor

theorem all {p : β → Prog σ κ Λ ε α} (hp : ∀ a, (p a).Keeps R) (l : List β) :
    (Prog.all p l).Keeps R := by
  induction l with
  | nil => exact .ret []
  | cons a l ih => exact bind (hp a) fun _ => bind ih fun _ => .ret _

theorem select (l : Λ) (q : σ → α) : (Prog.select (κ := κ) (ε := ε) l q).Keeps R :=
  .readK fun r => by cases r <;> constructor

theorem selectForUpdate (l : Λ) (rows : σ → List κ) (q : σ → α) :
    (Prog.selectForUpdate (ε := ε) l rows q).Keeps R :=
  .lockK fun r => by cases r <;> constructor

theorem write (rows : σ → List κ) {f : σ → σ} (q : σ → α) (hf : ∀ s, R s (f s)) :
    (Prog.write (Λ := Λ) (ε := ε) rows f q).Keeps R :=
  .writeK hf fun r => by cases r <;> constructor

theorem of_readOnly (hp : p.ReadOnly) : p.Keeps R := by
  induction hp with
  | ret a => exact .ret a
  | throw e => exact .throw e
  | read hk ih => exact .readK ih

variable {C : List (Obs σ Λ) → (σ → σ) → Prop} {P : α → List (Obs σ Λ) → Tx σ → Prop}
  {E : ε → List (Obs σ Λ) → Tx σ → Prop} [Faults ε]

theorem wp_aborted (hp : p.Keeps R) :
    ∀ h, (∀ a, P a h .aborted) → (∀ e, E e h .aborted) → p.wp C P E h .aborted := by
  induction hp with
  | ret a => exact fun h hP _ => hP a
  | throw e => exact fun h _ hE => hE e
  | readK hk ih =>
    exact fun h hP hE => ⟨fun db => ⟨fun w hw => by simp [Stmt.exec] at hw, ih _ h hP hE⟩,
      fun m => ih _ h hP hE⟩
  | lockK hk ih =>
    exact fun h hP hE => ⟨fun db => ⟨fun w hw => by simp [Stmt.exec] at hw, ih _ h hP hE⟩,
      fun m => ih _ h hP hE⟩
  | writeK hR hk ih =>
    exact fun h hP hE => ⟨fun db => ⟨fun w hw => by simp [Stmt.exec] at hw, ih _ h hP hE⟩,
      fun m => ih _ h hP hE⟩

section Order

variable (hrefl : ∀ s, R s s) (htrans : ∀ s s' s'', R s s' → R s' s'' → R s s'')

include hrefl htrans

/-- In a transaction it adds reads to the history and writes that relate by `R`. -/
theorem wp_active {p : Prog σ κ Λ ε α} (hp : p.Keeps R) :
    ∀ h w, (∀ a o w', Quiet o → (∀ s, R (w s) (w' s)) → P a (o ++ h) (.active w')) →
      (∀ a o, Quiet o → P a (o ++ h) .aborted) →
      (∀ e o t, Quiet o → E e (o ++ h) t) → p.wp C P E h (.active w) := by
  induction hp with
  | ret a => exact fun h w hP _ _ => hP a [] w quiet_nil fun s => hrefl (w s)
  | throw e => exact fun h w _ _ hE => hE e [] _ quiet_nil
  | @readK l k hk ih =>
    intro h w hP hA hE
    refine ⟨fun db => ⟨fun w hw => by simp [Stmt.exec] at hw, ?_⟩, fun m =>
      (hk _).wp_aborted h (fun a => hA a [] quiet_nil) fun e => hE e [] _ quiet_nil⟩
    refine ih _ (.saw l db :: h) w (fun a o w' ho hw' => ?_) (fun a o ho => ?_) fun e o t ho => ?_
    · simpa using hP a (o ++ [.saw l db]) w' (quiet_append.mpr ⟨ho, by simp⟩) hw'
    · simpa using hA a (o ++ [.saw l db]) (quiet_append.mpr ⟨ho, by simp⟩)
    · simpa using hE e (o ++ [.saw l db]) t (quiet_append.mpr ⟨ho, by simp⟩)
  | @lockK l rows k hk ih =>
    intro h w hP hA hE
    refine ⟨fun db => ⟨fun w hw => by simp [Stmt.exec] at hw, ?_⟩, fun m =>
      (hk _).wp_aborted h (fun a => hA a [] quiet_nil) fun e => hE e [] _ quiet_nil⟩
    refine ih _ (.saw l db :: h) w (fun a o w' ho hw' => ?_) (fun a o ho => ?_) fun e o t ho => ?_
    · simpa using hP a (o ++ [.saw l db]) w' (quiet_append.mpr ⟨ho, by simp⟩) hw'
    · simpa using hA a (o ++ [.saw l db]) (quiet_append.mpr ⟨ho, by simp⟩)
    · simpa using hE e (o ++ [.saw l db]) t (quiet_append.mpr ⟨ho, by simp⟩)
  | @writeK rows k f hR hk ih =>
    intro h w hP hA hE
    refine ⟨fun db => ⟨fun w hw => by simp [Stmt.exec] at hw, ?_⟩, fun m =>
      (hk _).wp_aborted h (fun a => hA a [] quiet_nil) fun e => hE e [] _ quiet_nil⟩
    exact ih _ h (f ∘ w)
      (fun a o w' ho hw' => hP a o w' ho fun s => htrans _ _ _ (hR (w s)) (hw' s)) hA hE

/-- In a transaction a program does what it does on its own, on the state under the writes. -/
theorem eval_active {p : Prog σ κ Λ ε α} (hp : p.Keeps R) (db : σ) :
    ∀ w, ∃ w', p.eval (.active w) db = ((p.eval .idle (w db)).1, .active w', db) ∧
      w' db = (p.eval .idle (w db)).2.2 ∧ ∀ s, R (w s) (w' s) := by
  induction hp with
  | ret a => exact fun w => ⟨w, rfl, rfl, fun s => hrefl (w s)⟩
  | throw e => exact fun w => ⟨w, rfl, rfl, fun s => hrefl (w s)⟩
  | readK hk ih => exact fun w => ih _ w
  | lockK hk ih => exact fun w => ih _ w
  | writeK hR hk ih =>
    intro w
    obtain ⟨w', heval, hw', hsame⟩ := ih (.ok (w db)) (_ ∘ w)
    exact ⟨w', heval, hw', fun s => htrans _ _ _ (hR (w s)) (hsame s)⟩

theorem eval_idle {p : Prog σ κ Λ ε α} (hp : p.Keeps R) :
    ∀ db, R db (p.eval .idle db).2.2 := by
  induction hp with
  | ret a => exact fun db => hrefl db
  | throw e => exact fun db => hrefl db
  | readK hk ih => exact fun db => ih _ db
  | lockK hk ih => exact fun db => ih _ db
  | @writeK rows k f hR hk ih => exact fun db => htrans _ _ _ (hR db) (ih (.ok db) (f db))

theorem relates {p : Prog σ κ Λ ε α} {db db' : σ} {res : Except ε α} {t : Tx σ}
    (heval : p.eval .idle db = (res, t, db')) (hp : p.Keeps R) : R db db' := by
  have h := hp.eval_idle hrefl htrans db
  rwa [heval] at h

end Order

theorem eval_transaction_ok {db : σ} {a : α} (hok : ((Prog.transaction p).eval .idle db).1 = .ok a)
    (hp : p.Keeps R) :
    ∃ t db', p.eval .idle db = (.ok a, t, db') ∧
      (Prog.transaction p).eval .idle db = (.ok a, .idle, db') := by
  have hany : p.Keeps fun _ _ => True := hp.mono fun _ _ _ => trivial
  obtain ⟨w, heval, hw, -⟩ := hany.eval_active (fun _ => trivial) (fun _ _ _ _ _ => trivial) db id
  rw [eval_transaction, heval] at hok ⊢
  rcases hres : p.eval .idle db with ⟨_ | b, t, db'⟩
  · rw [id, hres] at hok
    cases hok
  · have hbody : w db = db' := by rw [hw, id, hres]
    rw [id, hres] at hok ⊢
    cases hok
    refine ⟨t, db', rfl, ?_⟩
    show (Except.ok a, Tx.idle, w db) = _
    rw [hbody]

end Prog.Keeps

section

variable [Faults ε]

/-- Every write of the program, started outside a transaction, satisfies `C` at its moment. -/
def Prog.WritesUnder (p : Prog σ κ Λ ε α) (C : List (Obs σ Λ) → (σ → σ) → Prop) : Prop :=
  p.wp C (fun _ _ _ => True) (fun _ _ _ => True) [] .idle

variable {p : Prog σ κ Λ ε α}

theorem Prog.WritesUnder.mono {C C' : List (Obs σ Λ) → (σ → σ) → Prop} (hp : p.WritesUnder C)
    (hC : ∀ h w, C h w → C' h w) : p.WritesUnder C' :=
  wp_mono hC (fun _ _ _ => id) (fun _ _ _ => id) p [] .idle hp

variable {C : List (Obs σ Λ) → (σ → σ) → Prop}

theorem Prog.WritesUnder.discard (hp : p.WritesUnder C) :
    (p >>= fun _ => pure () : Prog σ κ Λ ε Unit).WritesUnder C := by
  unfold WritesUnder
  rw [wp_bind]
  exact hp

theorem Prog.writesUnder_transaction [Nonempty σ] {body : Prog σ κ Λ ε α}
    (h : body.wp C (fun _ h t => ∀ w, t = .active w → C h w) (fun _ _ _ => True) []
      (.active id)) : (Prog.transaction body).WritesUnder C := by
  unfold WritesUnder
  simp only [wp_transaction, implies_true, true_and]
  refine wp_mono (fun _ _ h => h) (fun a h t hc => ?_) (fun _ _ _ h => h) body [] _ h
  cases t with
  | active w => exact ⟨hc w rfl, trivial⟩
  | idle => trivial
  | aborted => trivial

/-- Every write of the program satisfies `C` at its moment, and an answer leaves no transaction
open. -/
def Prog.Publishes (C : List (Obs σ Λ) → (σ → σ) → Prop) (p : Prog σ κ Λ ε α)
    (h : List (Obs σ Λ)) : Prop :=
  p.wp C (fun _ _ t => t = .idle) (fun _ _ _ => True) h .idle

namespace Prog.Publishes

variable {h : List (Obs σ Λ)}

theorem writesUnder {p : Prog σ κ Λ ε α} (hp : p.Publishes C []) : p.WritesUnder C :=
  wp_mono (fun _ _ hw => hw) (fun _ _ _ _ => trivial) (fun _ _ _ he => he) p [] .idle hp

theorem of_readOnly [Nonempty σ] {p : Prog σ κ Λ ε α} (hp : p.ReadOnly) : p.Publishes C h :=
  hp.wp_idle h (fun _ _ _ => rfl) fun _ _ _ => trivial

variable {p : Prog σ κ Λ ε β}

variable {k : β → Prog σ κ Λ ε α}

theorem bind (hp : p.Publishes C h) (hk : ∀ b h, (k b).Publishes C h) :
    (p >>= k).Publishes C h := by
  unfold Publishes
  rw [wp_bind]
  refine wp_mono (fun _ _ hw => hw) (fun b h' t ht => ?_) (fun _ _ _ he => he) _ _ _ hp
  rw [ht]
  exact hk b h'

theorem after [Nonempty σ] (hp : p.ReadOnly) (hk : ∀ b h, (k b).Publishes C h) :
    (p >>= k).Publishes C h :=
  bind (of_readOnly hp) hk

theorem discard [Nonempty σ] {p : Prog σ κ Λ ε α} (hp : p.Publishes C h) :
    (p >>= fun _ => pure () : Prog σ κ Λ ε Unit).Publishes C h :=
  bind hp fun _ _ => of_readOnly (.pure _)

theorem map [Nonempty σ] (hp : p.Publishes C h) (f : β → α) :
    (f <$> p).Publishes C h :=
  bind hp fun _ _ => of_readOnly (.pure _)

theorem transaction [Nonempty σ] {body : Prog σ κ Λ ε α}
    (hbody : body.wp C (fun _ h t => ∀ w, t = .active w → C h w) (fun _ _ _ => True) h
      (.active id)) : (Prog.transaction body).Publishes C h := by
  unfold Publishes
  rw [wp_transaction]
  refine ⟨fun _ => trivial, wp_mono (fun _ _ hw => hw) (fun _ h t ht => ?_)
    (fun _ _ _ _ => trivial) _ _ _ hbody⟩
  cases t with
  | active w => exact ⟨fun _ => trivial, ht w rfl, rfl⟩
  | idle => exact ⟨fun _ => trivial, rfl⟩
  | aborted => exact ⟨fun _ => trivial, rfl⟩

end Prog.Publishes

theorem Prog.Keeps.wp_rest {R : σ → σ → Prop} (hrefl : ∀ s, R s s)
    (htrans : ∀ s s' s'', R s s' → R s' s'' → R s s'') (hp : p.Keeps R) {h : List (Obs σ Λ)}
    {w : σ → σ} (hC : ∀ o w', Quiet o → (∀ s, R (w s) (w' s)) → C (o ++ h) w') :
    p.wp C (fun _ h t => ∀ w, t = .active w → C h w) (fun _ _ _ => True) h (.active w) := by
  refine hp.wp_active hrefl htrans h w (fun a o w' ho hw' => ?_) (fun a o ho => ?_)
    fun _ _ _ _ => trivial
  · rintro w'' heq
    cases heq
    exact hC o w' ho hw'
  · intro w'' heq
    cases heq

end

end ReadCommitted
