import Travelo.ReadCommitted.Solo

/-!
# Calls that run alone

A program is *straight* when it catches no error: a statement that fails ends it. A straight
body has the same effect in a transaction of its own as without one, except that an error
undoes it (`Straight.eval_transaction`).

`p.Alone R` says that a whole call, transactions included, relates the state it finds to the
one it leaves when nobody else is around.
-/

namespace ReadCommitted

variable {σ κ Λ ε α β : Type}

/-- The program opens and closes no transaction and catches no error, and the writes that are
not refused relate by `R`. -/
inductive Prog.Straight (R : σ → σ → Prop) : Prog σ κ Λ ε α → Prop where
  | ret (a : α) : Prog.Straight R (.ret a)
  | throw (e : ε) : Prog.Straight R (.throw e)
  | readK {l k} (he : ∀ e, k (.error e) = .throw e) (hk : ∀ s, Prog.Straight R (k (.ok s))) :
      Prog.Straight R (.exec (.read l) k)
  | lockK {l rows k} (he : ∀ e, k (.error e) = .throw e)
      (hk : ∀ s, Prog.Straight R (k (.ok s))) : Prog.Straight R (.exec (.lock l rows) k)
  | writeK {rows k f} (hf : ∀ s s', f s = .ok s' → R s s') (he : ∀ e, k (.error e) = .throw e)
      (hk : ∀ s, Prog.Straight R (k (.ok s))) : Prog.Straight R (.exec (.write rows f) k)

namespace Prog.Straight

variable {R R' : σ → σ → Prop}

@[simp] theorem pure (a : α) : (Pure.pure a : Prog σ κ Λ ε α).Straight R := .ret a

theorem bind {p : Prog σ κ Λ ε β} {f : β → Prog σ κ Λ ε α} (hp : p.Straight R)
    (hf : ∀ b, (f b).Straight R) : (p >>= f).Straight R := by
  -- an error skips the rest
  have herr : ∀ {k : Except ε σ → Prog σ κ Λ ε β}, (∀ e, k (.error e) = .throw e) →
      ∀ e, (k (.error e)).bind f = .throw e := by
    intro k he e
    rw [he]
    rfl
  induction hp with
  | ret b => exact hf b
  | throw e => exact .throw e
  | readK he hk ih => exact .readK (herr he) ih
  | lockK he hk ih => exact .lockK (herr he) ih
  | writeK hR he hk ih => exact .writeK hR (herr he) ih

theorem ite (c : Prop) [Decidable c] {p q : Prog σ κ Λ ε α} (hp : p.Straight R)
    (hq : q.Straight R) : (if c then p else q).Straight R := by
  by_cases hc : c <;> simpa [hc]

theorem throwIf (c : Prop) [Decidable c] (e : ε) :
    (Prog.throwIf c e : Prog σ κ Λ ε Unit).Straight R :=
  ite c (.throw e) (.ret ())

theorem orThrow (o : Option α) (e : ε) : (Prog.orThrow o e : Prog σ κ Λ ε α).Straight R := by
  cases o <;> constructor

theorem lift (x : Except ε α) : (Prog.lift x : Prog σ κ Λ ε α).Straight R := by
  cases x <;> constructor

theorem forSome {x : Option β} {p : β → Prog σ κ Λ ε Unit} (hp : ∀ b, (p b).Straight R) :
    (Prog.forSome x p).Straight R := by
  cases x with
  | none => exact .ret ()
  | some b => exact hp b

theorem all {p : β → Prog σ κ Λ ε α} {l : List β} (hp : ∀ a ∈ l, (p a).Straight R) :
    (Prog.all p l).Straight R := by
  induction l with
  | nil => exact .ret []
  | cons a l ih =>
    have hrest := ih fun b hb => hp b (List.mem_cons_of_mem a hb)
    exact bind (hp a List.mem_cons_self) fun _ => bind hrest fun _ => .ret _

theorem select (l : Λ) (q : σ → α) : (Prog.select (κ := κ) (ε := ε) l q).Straight R :=
  .readK (fun _ => rfl) fun _ => .ret _

theorem selectForUpdate (l : Λ) (rows : σ → List κ) (q : σ → α) :
    (Prog.selectForUpdate (ε := ε) l rows q).Straight R :=
  .lockK (fun _ => rfl) fun _ => .ret _

theorem write (rows : σ → List κ) {f : σ → σ} (q : σ → α) (hf : ∀ s, R s (f s)) :
    (Prog.write (Λ := Λ) (ε := ε) rows f q).Straight R := by
  refine .writeK (fun s s' hs => ?_) (fun _ => rfl) fun _ => .ret _
  cases hs
  exact hf s

theorem writeChecked (rows : σ → List κ) {f : σ → Except ε σ} (q : σ → α)
    (hf : ∀ s s', f s = .ok s' → R s s') :
    (Prog.writeChecked (Λ := Λ) rows f q).Straight R :=
  .writeK hf (fun _ => rfl) fun _ => .ret _

variable [Faults ε]

variable {p : Prog σ κ Λ ε α}

/-- In a transaction a straight program does what it does on its own, on the state under the
writes. -/
theorem eval_active (hp : p.Straight R) (db : σ) :
    ∀ w : σ → σ,
      (∀ a t db', p.eval .idle (w db) = (.ok a, t, db') →
        ∃ w', p.eval (.active w) db = (.ok a, .active w', db) ∧ w' db = db') ∧
      ∀ e t db', p.eval .idle (w db) = (.error e, t, db') →
        ∃ t', p.eval (.active w) db = (.error e, t', db) := by
  induction hp with
  | ret a =>
    intro w
    refine ⟨?_, (fun e t db' h => by cases h)⟩
    rintro a' t db' ⟨⟩
    exact ⟨w, rfl, rfl⟩
  | throw e =>
    intro w
    refine ⟨(fun a t db' h => by cases h), ?_⟩
    rintro e' t db' ⟨⟩
    exact ⟨.active w, rfl⟩
  | readK he hk ih => exact fun w => ih (w db) w
  | lockK he hk ih => exact fun w => ih (w db) w
  | @writeK rows k f hf he hk ih =>
    intro w
    cases hw : f (w db) with
    | error e =>
      -- the write is refused in both, and the program ends
      have hidle : (Prog.exec (.write rows f) k).eval .idle (w db) =
          (.error e, .idle, w db) := by
        simp only [Prog.eval, Stmt.exec, hw, he]
      have hactive : (Prog.exec (.write rows f) k).eval (.active w) db =
          (.error e, .aborted, db) := by
        simp only [Prog.eval, Stmt.exec, hw, he]
      rw [hidle, hactive]
      refine ⟨(fun a t db' h => by cases h), ?_⟩
      rintro e' t db' ⟨⟩
      exact ⟨_, rfl⟩
    | ok s =>
      have happlied : (applied f ∘ w) db = s := by simp [applied, hw]
      have hidle : (Prog.exec (.write rows f) k).eval .idle (w db) =
          (k (.ok (w db))).eval .idle ((applied f ∘ w) db) := by
        simp only [Prog.eval, Stmt.exec, hw, happlied]
      have hactive : (Prog.exec (.write rows f) k).eval (.active w) db =
          (k (.ok (w db))).eval (.active (applied f ∘ w)) db := by
        simp only [Prog.eval, Stmt.exec, hw]
      rw [hidle, hactive]
      exact ih (w db) (applied f ∘ w)

theorem eval_transaction (hp : p.Straight R) (db : σ) :
    (Prog.transaction p).eval .idle db =
      match p.eval .idle db with
      | (.ok a, _, db') => (.ok a, .idle, db')
      | (.error e, _, _) => (.error e, .idle, db) := by
  obtain ⟨hok, herr⟩ := hp.eval_active db id
  rw [Prog.eval_transaction]
  rcases hres : p.eval .idle db with ⟨e | a, t, db'⟩
  · obtain ⟨t', heval⟩ := herr e t db' hres
    simp only [heval]
  · obtain ⟨w, heval, hw⟩ := hok a t db' hres
    simp only [heval, hw]

variable {P : α → Tx σ → σ → Prop} {E : ε → Tx σ → σ → Prop}

/-- Whichever of its statements fail, one that writes nothing answers what it does without
failures, or throws. -/
theorem ends_idle {db : σ} (hp : p.Straight fun _ _ => False)
    (hP : ∀ a, (p.eval .idle db).1 = .ok a → P a .idle db) (hE : ∀ e, E e .idle db) :
    p.ends P E .idle db := by
  induction hp with
  | ret a => exact hP a rfl
  | throw e => exact hE e
  | readK he hk ih => exact ⟨ih db hP, fun m => by rw [he]; exact hE _⟩
  | lockK he hk ih => exact ⟨ih db hP, fun m => by rw [he]; exact hE _⟩
  | @writeK rows k f hf he hk ih =>
    refine ⟨?_, fun m => by rw [he]; exact hE _⟩
    cases hw : f db with
    | ok s => exact (hf db s hw).elim
    | error e =>
      simp only [Stmt.exec, hw, he]
      exact hE e

theorem ends_active {db : σ} {w : σ → σ} (hp : p.Straight fun _ _ => False)
    (hP : ∀ a, p.eval (.active w) db = (.ok a, .active w, db) → P a (.active w) db)
    (hE : ∀ e t, E e t db) : p.ends P E (.active w) db := by
  induction hp with
  | ret a => exact hP a rfl
  | throw e => exact hE e _
  | readK he hk ih => exact ⟨ih (w db) hP, fun m => by rw [he]; exact hE _ _⟩
  | lockK he hk ih => exact ⟨ih (w db) hP, fun m => by rw [he]; exact hE _ _⟩
  | @writeK rows k f hf he hk ih =>
    refine ⟨?_, fun m => by rw [he]; exact hE _ _⟩
    cases hw : f (w db) with
    | ok s => exact (hf (w db) s hw).elim
    | error e =>
      simp only [Stmt.exec, hw, he]
      exact hE e _

section Order

variable (hrefl : ∀ s, R s s) (htrans : ∀ s s' s'', R s s' → R s' s'' → R s s'')

include hrefl htrans

theorem eval_idle {p : Prog σ κ Λ ε α} (hp : p.Straight R) :
    ∀ db, (p.eval .idle db).2.1 = .idle ∧ R db (p.eval .idle db).2.2 := by
  induction hp with
  | ret a => exact fun db => ⟨rfl, hrefl db⟩
  | throw e => exact fun db => ⟨rfl, hrefl db⟩
  | readK he hk ih => exact fun db => ih db db
  | lockK he hk ih => exact fun db => ih db db
  | @writeK rows k f hf he hk ih =>
    intro db
    cases hw : f db with
    | error e => simp [Prog.eval, Stmt.exec, hw, he, hrefl]
    | ok s =>
      have hidle : (Prog.exec (.write rows f) k).eval .idle db =
          (k (.ok db)).eval .idle s := by
        simp only [Prog.eval, Stmt.exec, hw]
      rw [hidle]
      exact ⟨(ih db s).1, htrans _ _ _ (hf db s hw) (ih db s).2⟩

end Order

end Prog.Straight

/-! ## Whole calls -/

/-- Alone on `db`, the call ends outside a transaction and leaves a state that relates to the
one it found. -/
def Prog.AloneOn [Faults ε] (R : σ → σ → Prop) (p : Prog σ κ Λ ε α) (db : σ) : Prop :=
  (p.eval .idle db).2.1 = .idle ∧ R db (p.eval .idle db).2.2

/-- The same on every state. -/
def Prog.Alone [Faults ε] (R : σ → σ → Prop) (p : Prog σ κ Λ ε α) : Prop :=
  ∀ db, p.AloneOn R db

theorem Prog.AloneOn.run [Faults ε] {R : σ → σ → Prop} {p : Prog σ κ Λ ε α} {db : σ}
    (hp : p.AloneOn R db) : R db (p.run db).db := by
  rw [run_db]
  exact hp.2

theorem Prog.AloneOn.bind [Faults ε] {R : σ → σ → Prop}
    (htrans : ∀ s s' s'', R s s' → R s' s'' → R s s'') {p : Prog σ κ Λ ε β}
    {f : β → Prog σ κ Λ ε α} {db : σ} (hp : p.AloneOn R db)
    (hf : ∀ b db', p.eval .idle db = (.ok b, .idle, db') → (f b).AloneOn R db') :
    (p >>= f).AloneOn R db := by
  obtain ⟨hidle, hR⟩ := hp
  unfold Prog.AloneOn
  rw [eval_bind]
  rcases heval : p.eval .idle db with ⟨e | b, t, db'⟩
  · rw [heval] at hidle hR
    exact ⟨hidle, hR⟩
  · rw [heval] at hidle hR
    obtain rfl : t = .idle := hidle
    obtain ⟨hidle', hR'⟩ := hf b db' heval
    exact ⟨hidle', htrans _ _ _ hR hR'⟩

namespace Prog.Alone

variable [Faults ε] {R R' : σ → σ → Prop}

variable {p : Prog σ κ Λ ε α}

theorem mono (hp : p.Alone R) (h : ∀ s s', R s s' → R' s s') :
    p.Alone R' :=
  fun db => ⟨(hp db).1, h _ _ (hp db).2⟩

theorem run (hp : p.Alone R) (db : σ) : R db (p.run db).db := (hp db).run

theorem relates {db db' : σ} {res : Except ε α} {t : Tx σ} (heval : p.eval .idle db = (res, t, db'))
    (hp : p.Alone R) : t = .idle ∧ R db db' := by
  have h : (p.eval .idle db).2.1 = .idle ∧ R db (p.eval .idle db).2.2 := hp db
  rwa [heval] at h

section Refl

variable (hrefl : ∀ s, R s s)

include hrefl

theorem pure (a : α) : (Pure.pure a : Prog σ κ Λ ε α).Alone R := fun db => ⟨rfl, hrefl db⟩

theorem throwIf (c : Prop) [Decidable c] (e : ε) :
    (Prog.throwIf c e : Prog σ κ Λ ε Unit).Alone R := by
  intro db
  unfold AloneOn
  by_cases hc : c <;> simp [hc, hrefl]

theorem orThrow (o : Option α) (e : ε) : (Prog.orThrow o e : Prog σ κ Λ ε α).Alone R := by
  intro db
  simp [AloneOn, hrefl]

theorem lift (x : Except ε α) : (Prog.lift x : Prog σ κ Λ ε α).Alone R := by
  intro db
  simp [AloneOn, hrefl]

theorem select (l : Λ) (q : σ → α) : (Prog.select (κ := κ) (ε := ε) l q).Alone R :=
  fun db => ⟨rfl, hrefl db⟩

theorem when (c : Prop) [Decidable c] {p : Prog σ κ Λ ε Unit} (hp : p.Alone R) :
    (Prog.when c p).Alone R := by
  intro db
  unfold AloneOn
  by_cases hc : c
  · simpa [hc, AloneOn] using hp db
  · simp [hc, hrefl]

theorem of_readOnly {p : Prog σ κ Λ ε α} (hp : p.ReadOnly) : p.Alone R := by
  intro db
  induction hp with
  | ret a => exact ⟨rfl, hrefl db⟩
  | throw e => exact ⟨rfl, hrefl db⟩
  | read hk ih => exact ih _

end Refl

theorem ite (c : Prop) [Decidable c] {p q : Prog σ κ Λ ε α} (hp : p.Alone R) (hq : q.Alone R) :
    (if c then p else q).Alone R := by
  by_cases hc : c <;> simpa [hc]

theorem write (rows : σ → List κ) {f : σ → σ} (q : σ → α) (hf : ∀ s, R s (f s)) :
    (Prog.write (Λ := Λ) (ε := ε) rows f q).Alone R :=
  fun db => ⟨rfl, hf db⟩

section Order

variable (hrefl : ∀ s, R s s) (htrans : ∀ s s' s'', R s s' → R s' s'' → R s s'')

include htrans in
theorem bind {p : Prog σ κ Λ ε β} {f : β → Prog σ κ Λ ε α} (hp : p.Alone R)
    (hf : ∀ b, (f b).Alone R) : (p >>= f).Alone R :=
  fun db => AloneOn.bind htrans (hp db) fun b db' _ => hf b db'

include hrefl htrans

theorem all {p : β → Prog σ κ Λ ε α} {l : List β} (hp : ∀ a ∈ l, (p a).Alone R) :
    (Prog.all p l).Alone R := by
  induction l with
  | nil => exact pure hrefl []
  | cons a l ih =>
    have hrest := ih fun b hb => hp b (List.mem_cons_of_mem a hb)
    exact bind htrans (hp a List.mem_cons_self) fun _ => bind htrans hrest fun _ => pure hrefl _

theorem transaction {p : Prog σ κ Λ ε α} (hp : p.Straight R) : (Prog.transaction p).Alone R := by
  intro db
  unfold AloneOn
  rw [hp.eval_transaction]
  have h := hp.eval_idle hrefl htrans db
  rcases heval : p.eval .idle db with ⟨e | a, t, db'⟩
  · exact ⟨rfl, hrefl db⟩
  · rw [heval] at h
    exact ⟨rfl, h.2⟩

end Order

end Prog.Alone

namespace Prog

variable [Faults ε] {p : β → Prog σ κ Λ ε α}

variable {l : List β}

theorem eval_all_cons_ok {b : β} {as : List α} {t t' : Tx σ} {db db' : σ}
    (h : (Prog.all p (b :: l)).eval t db = (.ok as, t', db')) :
    ∃ a as' t₁ db₁, as = a :: as' ∧ (p b).eval t db = (.ok a, t₁, db₁) ∧
      (Prog.all p l).eval t₁ db₁ = (.ok as', t', db') := by
  obtain ⟨a, t₁, db₁, ha, hrest⟩ := eval_bind_ok (p := p b) (f := fun a =>
    (Prog.all p l).bind fun as => .ret (a :: as)) h
  obtain ⟨as', t₂, db₂, has, hret⟩ := eval_bind_ok (p := Prog.all p l)
    (f := fun as => .ret (a :: as)) hrest
  cases hret
  exact ⟨a, as', t₁, db₁, rfl, ha, has⟩

theorem eval_all_keeps {P : σ → Prop}
    (hstep : ∀ b ∈ l, ∀ db a t db', P db → (p b).eval .idle db = (.ok a, t, db') →
      t = .idle ∧ P db') :
    ∀ {db db' as t}, P db → (Prog.all p l).eval .idle db = (.ok as, t, db') →
      t = .idle ∧ P db' := by
  induction l with
  | nil =>
    intro db db' as t hP h
    cases h
    exact ⟨rfl, hP⟩
  | cons b l ih =>
    intro db db' as t hP h
    obtain ⟨a, as', t₁, db₁, -, ha, hrest⟩ := eval_all_cons_ok h
    obtain ⟨rfl, hP₁⟩ := hstep b List.mem_cons_self db a t₁ db₁ hP ha
    exact ih (fun b' hb' => hstep b' (List.mem_cons_of_mem b hb')) hP₁ hrest

theorem eval_all_succeeds {P : σ → Prop}
    (hstep : ∀ b ∈ l, ∀ db, P db → ∃ a db', (p b).eval .idle db = (.ok a, .idle, db') ∧ P db') :
    ∀ {db}, P db → ∃ as db', (Prog.all p l).eval .idle db = (.ok as, .idle, db') ∧ P db' := by
  induction l with
  | nil => exact fun {db} hP => ⟨[], db, rfl, hP⟩
  | cons b l ih =>
    intro db hP
    obtain ⟨a, db₁, ha, hP₁⟩ := hstep b List.mem_cons_self db hP
    obtain ⟨as, db₂, has, hP₂⟩ := ih (fun b' hb' => hstep b' (List.mem_cons_of_mem b hb')) hP₁
    refine ⟨a :: as, db₂, ?_, hP₂⟩
    rw [Prog.all, eval_bind', ha]
    show ((Prog.all p l).bind _).eval .idle db₁ = _
    rw [eval_bind', has]
    rfl

theorem eval_all_brings {P Q : σ → Prop} {b₀ : β} (hmem : b₀ ∈ l)
    (hP : ∀ b ∈ l, ∀ db a t db', P db → (p b).eval .idle db = (.ok a, t, db') →
      t = .idle ∧ P db') (hQ : ∀ b ∈ l, ∀ db a t db', Q db → (p b).eval .idle db = (.ok a, t, db') →
      t = .idle ∧ Q db')
    (h₀ : ∀ db a t db', P db → (p b₀).eval .idle db = (.ok a, t, db') → Q db') :
    ∀ {db db' as t}, P db → (Prog.all p l).eval .idle db = (.ok as, t, db') → Q db' := by
  induction l with
  | nil => cases hmem
  | cons b l ih =>
    intro db db' as t hPdb h
    obtain ⟨a, as', t₁, db₁, -, ha, hrest⟩ := eval_all_cons_ok h
    obtain ⟨rfl, hP₁⟩ := hP b List.mem_cons_self db a t₁ db₁ hPdb ha
    rcases List.mem_cons.mp hmem with rfl | hin
    · have hQ₁ : Q db₁ := h₀ db a .idle db₁ hPdb ha
      exact (eval_all_keeps (fun b' hb' => hQ b' (List.mem_cons_of_mem b₀ hb')) hQ₁ hrest).2
    · exact ih hin (fun b' hb' => hP b' (List.mem_cons_of_mem b hb'))
        (fun b' hb' => hQ b' (List.mem_cons_of_mem b hb')) hP₁ hrest

/-- The same when the parts work on different keys: what the one with the key of `b₀` finds and
leaves is not touched by the others. -/
theorem eval_all_once {γ : Type} {key : β → γ} {P Q : σ → Prop} {b₀ : β}
    (hnodup : (l.map key).Nodup) (hmem : b₀ ∈ l)
    (hP : ∀ b ∈ l, key b ≠ key b₀ → ∀ db a t db', P db →
      (p b).eval .idle db = (.ok a, t, db') → t = .idle ∧ P db')
    (hQ : ∀ b ∈ l, key b ≠ key b₀ → ∀ db a t db', Q db →
      (p b).eval .idle db = (.ok a, t, db') → t = .idle ∧ Q db')
    (h₀ : ∀ db a t db', P db → (p b₀).eval .idle db = (.ok a, t, db') → t = .idle ∧ Q db') :
    ∀ {db db' as t}, P db → (Prog.all p l).eval .idle db = (.ok as, t, db') →
      t = .idle ∧ Q db' := by
  induction l with
  | nil => cases hmem
  | cons b l ih =>
    intro db db' as t hPdb h
    obtain ⟨a, as', t₁, db₁, -, ha, hrest⟩ := eval_all_cons_ok h
    obtain ⟨hfresh, hnodup'⟩ := List.nodup_cons.mp hnodup
    rcases List.mem_cons.mp hmem with rfl | hin
    · obtain ⟨rfl, hQ₁⟩ := h₀ db a t₁ db₁ hPdb ha
      refine eval_all_keeps (fun b' hb' => hQ b' (List.mem_cons_of_mem b₀ hb') ?_) hQ₁ hrest
      exact fun heq => hfresh (heq ▸ List.mem_map_of_mem hb')
    · have hne : key b ≠ key b₀ := fun heq => hfresh (heq ▸ List.mem_map_of_mem hin)
      obtain ⟨rfl, hP₁⟩ := hP b List.mem_cons_self hne db a t₁ db₁ hPdb ha
      exact ih hnodup' hin (fun b' hb' => hP b' (List.mem_cons_of_mem b hb'))
        (fun b' hb' => hQ b' (List.mem_cons_of_mem b hb')) hP₁ hrest

end Prog

end ReadCommitted
