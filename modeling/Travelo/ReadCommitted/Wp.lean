import Travelo.ReadCommitted.Prog

/-!
# A weakest precondition for sessions among others

`p.wp C P E h t` says: from transaction `t` and history `h`, whatever the other
sessions commit between the statements of `p` and whichever of its statements fail,
every write `w` that `p` publishes satisfies `C h' w` for the history `h'` of `p` at
that moment, a normal end satisfies `P` and a thrown error satisfies `E`.

Each statement is quantified over the committed state it finds, so `wp` describes what
a program does under every interleaving; what ties the states together (nothing
happened in between, or nothing that matters) is added by the rules of `Trail` for a
program running alone, and of `ReadCommitted.Schedule` for interleaved ones.
-/

namespace ReadCommitted

variable {σ κ Λ ε α β : Type} [Faults ε]

namespace Prog

/-- The weakest precondition; see the module's introduction. -/
def wp (C : List (Obs σ Λ) → (σ → σ) → Prop) (P : α → List (Obs σ Λ) → Tx σ → Prop)
    (E : ε → List (Obs σ Λ) → Tx σ → Prop) :
    Prog σ κ Λ ε α → List (Obs σ Λ) → Tx σ → Prop
  | .ret a, h, t => P a h t
  | .throw e, h, t => E e h t
  | .exec c k, h, t =>
    (∀ db, (∀ w, .wrote w ∈ (c.exec t db).obs → C h w) ∧
      (k (c.exec t db).reply).wp C P E ((c.exec t db).obs ++ h) (c.exec t db).tx) ∧
    ∀ m, (k (.error (lost m))).wp C P E h (c.fault t)

variable {C : List (Obs σ Λ) → (σ → σ) → Prop} {P : α → List (Obs σ Λ) → Tx σ → Prop}
  {E : ε → List (Obs σ Λ) → Tx σ → Prop} {h : List (Obs σ Λ)} {t : Tx σ}

theorem wp_mono {C' : List (Obs σ Λ) → (σ → σ) → Prop}
    {P' : α → List (Obs σ Λ) → Tx σ → Prop} {E' : ε → List (Obs σ Λ) → Tx σ → Prop}
    (hC : ∀ h w, C h w → C' h w) (hP : ∀ a h t, P a h t → P' a h t)
    (hE : ∀ e h t, E e h t → E' e h t) (p : Prog σ κ Λ ε α) :
    ∀ h t, p.wp C P E h t → p.wp C' P' E' h t := by
  induction p with
  | ret a => exact fun h t hp => hP a h t hp
  | throw e => exact fun h t hp => hE e h t hp
  | exec c k ih =>
    intro h t hp
    refine ⟨fun db => ⟨fun w hw => hC _ _ ((hp.1 db).1 w hw), ?_⟩, fun e => ?_⟩
    · exact ih _ _ _ (hp.1 db).2
    · exact ih _ _ _ (hp.2 e)

variable (p : Prog σ κ Λ ε α)

theorem wp_grows : ∀ h t, p.wp C P E h t →
    p.wp (fun h' w => C h' w ∧ h <:+ h') (fun a h' t => P a h' t ∧ h <:+ h')
      (fun e h' t => E e h' t ∧ h <:+ h') h t := by
  induction p with
  | ret a => exact fun h t hp => ⟨hp, List.suffix_rfl⟩
  | throw e => exact fun h t hp => ⟨hp, List.suffix_rfl⟩
  | exec c k ih =>
    intro h t hp
    refine ⟨fun db => ⟨fun w hw => ⟨(hp.1 db).1 w hw, List.suffix_rfl⟩, ?_⟩, fun m => ?_⟩
    · have hobs : h <:+ (c.exec t db).obs ++ h := List.suffix_append _ h
      exact wp_mono (fun h' w hw => ⟨hw.1, hobs.trans hw.2⟩)
        (fun a h' t ha => ⟨ha.1, hobs.trans ha.2⟩) (fun e h' t he => ⟨he.1, hobs.trans he.2⟩) _ _ _
        (ih _ _ _ (hp.1 db).2)
    · exact ih _ _ _ (hp.2 m)

/-! ## Control flow -/

variable (a : α)

@[simp] theorem wp_pure :
    (pure a : Prog σ κ Λ ε α).wp C P E h t ↔ P a h t := Iff.rfl

@[simp] theorem wp_ret : (Prog.ret a : Prog σ κ Λ ε α).wp C P E h t ↔ P a h t := Iff.rfl

variable (e : ε)

@[simp] theorem wp_throw :
    (MonadExcept.throw e : Prog σ κ Λ ε α).wp C P E h t ↔ E e h t := Iff.rfl

@[simp] theorem wp_throw' :
    (Prog.throw e : Prog σ κ Λ ε α).wp C P E h t ↔ E e h t := Iff.rfl

theorem wp_bind' (p : Prog σ κ Λ ε β) (f : β → Prog σ κ Λ ε α) :
    ∀ h t, (p.bind f).wp C P E h t ↔ p.wp C (fun b h t => (f b).wp C P E h t) E h t := by
  induction p with
  | ret b => exact fun h t => Iff.rfl
  | throw e => exact fun h t => Iff.rfl
  | exec c k ih => simp [bind, wp, ih]

@[simp] theorem wp_bind (p : Prog σ κ Λ ε β) (f : β → Prog σ κ Λ ε α) :
    (p >>= f).wp C P E h t ↔ p.wp C (fun b h t => (f b).wp C P E h t) E h t :=
  wp_bind' p f h t

@[simp] theorem wp_map (p : Prog σ κ Λ ε β) (f : β → α) :
    (f <$> p).wp C P E h t ↔ p.wp C (fun b h t => P (f b) h t) E h t :=
  wp_bind' p (fun b => pure (f b)) h t

theorem wp_tryCatch' (handler : ε → Prog σ κ Λ ε α) :
    ∀ h t, (p.tryCatch handler).wp C P E h t ↔
      p.wp C P (fun e h t => (handler e).wp C P E h t) h t := by
  induction p with
  | ret a => exact fun h t => Iff.rfl
  | throw e => exact fun h t => Iff.rfl
  | exec c k ih => simp [tryCatch, wp, ih]

@[simp] theorem wp_tryCatch (handler : ε → Prog σ κ Λ ε α) :
    (tryCatchThe ε p handler).wp C P E h t ↔
      p.wp C P (fun e h t => (handler e).wp C P E h t) h t :=
  wp_tryCatch' p handler h t

variable (c : Prop)

@[simp] theorem wp_ite [Decidable c] (p q : Prog σ κ Λ ε α) :
    (if c then p else q).wp C P E h t ↔ (c → p.wp C P E h t) ∧ (¬c → q.wp C P E h t) := by
  by_cases hc : c <;> simp [hc]

@[simp] theorem wp_throwIf [Decidable c] (e : ε) {P : Unit → List (Obs σ Λ) → Tx σ → Prop} :
    (throwIf c e : Prog σ κ Λ ε Unit).wp C P E h t ↔ (c → E e h t) ∧ (¬c → P () h t) := by
  simp [throwIf]

@[simp] theorem wp_when [Decidable c] (p : Prog σ κ Λ ε Unit)
    {P : Unit → List (Obs σ Λ) → Tx σ → Prop} :
    (Prog.when c p).wp C P E h t ↔ (c → p.wp C P E h t) ∧ (¬c → P () h t) := by
  simp [Prog.when]

theorem wp_forSome (x : Option β) (p : β → Prog σ κ Λ ε Unit)
    {P : Unit → List (Obs σ Λ) → Tx σ → Prop} :
    (forSome x p).wp C P E h t ↔
      (∀ b, x = some b → (p b).wp C P E h t) ∧ (x = none → P () h t) := by
  cases x <;> simp [forSome]

@[simp] theorem wp_orThrow (o : Option α) (e : ε) :
    (orThrow o e : Prog σ κ Λ ε α).wp C P E h t ↔
      (o = none → E e h t) ∧ ∀ a, o = some a → P a h t := by
  cases o <;> simp [orThrow]

@[simp] theorem wp_lift (x : Except ε α) :
    (lift x : Prog σ κ Λ ε α).wp C P E h t ↔
      (∀ e, x = .error e → E e h t) ∧ ∀ a, x = .ok a → P a h t := by
  cases x <;> simp [lift]

/-! ## Statements -/

@[simp] theorem wp_select_idle (l : Λ) (q : σ → α) :
    (select (κ := κ) (ε := ε) l q).wp C P E h .idle ↔
      (∀ db, P (q db) (.saw l db :: h) .idle) ∧ ∀ m, E (lost m) h .idle := by
  simp [select, stmt, wp, Stmt.exec, Stmt.fault]

@[simp] theorem wp_select_active (l : Λ) (q : σ → α) (w : σ → σ) :
    (select (κ := κ) (ε := ε) l q).wp C P E h (.active w) ↔
      (∀ db, P (q (w db)) (.saw l db :: h) (.active w)) ∧ ∀ m, E (lost m) h .aborted := by
  simp [select, stmt, wp, Stmt.exec, Stmt.fault]

@[simp] theorem wp_selectForUpdate_active (l : Λ) (rows : σ → List κ) (q : σ → α)
    (w : σ → σ) :
    (selectForUpdate (ε := ε) l rows q).wp C P E h (.active w) ↔
      (∀ db, P (q (w db)) (.saw l db :: h) (.active w)) ∧ ∀ m, E (lost m) h .aborted := by
  simp [selectForUpdate, stmt, wp, Stmt.exec, Stmt.fault]

@[simp] theorem wp_write_idle [Nonempty σ] (rows : σ → List κ) (f : σ → σ) (q : σ → α) :
    (write (Λ := Λ) (ε := ε) rows f q).wp C P E h .idle ↔
      C h f ∧ (∀ db, P (q db) (.wrote f :: h) .idle) ∧ ∀ m, E (lost m) h .idle := by
  simp [write, stmt, wp, Stmt.exec, Stmt.fault, and_assoc, forall_and]

@[simp] theorem wp_write_active (rows : σ → List κ) (f : σ → σ) (q : σ → α) (w : σ → σ) :
    (write (Λ := Λ) (ε := ε) rows f q).wp C P E h (.active w) ↔
      (∀ db, P (q (w db)) h (.active (f ∘ w))) ∧ ∀ m, E (lost m) h .aborted := by
  simp [write, stmt, wp, Stmt.exec, Stmt.fault]

@[simp] theorem wp_writeChecked_idle (rows : σ → List κ) (f : σ → Except ε σ) (q : σ → α) :
    (writeChecked (Λ := Λ) rows f q).wp C P E h .idle ↔
      (∀ db db', f db = .ok db' → C h (applied f) ∧ P (q db) (.wrote (applied f) :: h) .idle) ∧
      (∀ db e, f db = .error e → E e h .idle) ∧ ∀ m, E (lost m) h .idle := by
  simp only [writeChecked, stmt, wp]
  constructor
  · rintro ⟨hk, he⟩
    refine ⟨fun db db' hf => ?_, fun db e hf => ?_, he⟩
    · have hdb := hk db
      simp only [Stmt.exec, hf] at hdb
      exact ⟨hdb.1 _ (by simp), hdb.2⟩
    · have hdb := hk db
      simp only [Stmt.exec, hf] at hdb
      exact hdb.2
  · rintro ⟨hok, hno, he⟩
    refine ⟨fun db => ?_, he⟩
    cases hf : f db with
    | ok db' =>
      have hdb := hok db db' hf
      simp only [Stmt.exec, hf]
      exact ⟨fun w hw => by simp at hw; exact hw ▸ hdb.1, hdb.2⟩
    | error e =>
      simp only [Stmt.exec, hf]
      exact ⟨fun w hw => by simp at hw, hno db e hf⟩

@[simp] theorem wp_writeChecked_active (rows : σ → List κ) (f : σ → Except ε σ) (q : σ → α)
    (w : σ → σ) :
    (writeChecked (Λ := Λ) rows f q).wp C P E h (.active w) ↔
      (∀ db db', f (w db) = .ok db' → P (q (w db)) h (.active (applied f ∘ w))) ∧
      (∀ db e, f (w db) = .error e → E e h .aborted) ∧ ∀ m, E (lost m) h .aborted := by
  simp only [writeChecked, stmt, wp]
  constructor
  · rintro ⟨hk, he⟩
    refine ⟨fun db db' hf => ?_, fun db e hf => ?_, he⟩
    · have hdb := hk db
      simp only [Stmt.exec, hf] at hdb
      exact hdb.2
    · have hdb := hk db
      simp only [Stmt.exec, hf] at hdb
      exact hdb.2
  · rintro ⟨hok, hno, he⟩
    refine ⟨fun db => ?_, he⟩
    cases hf : f (w db) with
    | ok db' =>
      simp only [Stmt.exec, hf]
      exact ⟨fun w hw => by simp at hw, hok db db' hf⟩
    | error e =>
      simp only [Stmt.exec, hf]
      exact ⟨fun w hw => by simp at hw, hno db e hf⟩

theorem wp_begin [Nonempty σ] :
    ((stmt .begin fun _ => ()).bind fun _ => p).wp C P E h .idle ↔
      (∀ m, E (lost m) h .idle) ∧ p.wp C P E h (.active id) := by
  simp [stmt, bind, wp, Stmt.exec, Stmt.fault, and_comm]

theorem wp_rollback_throw [Nonempty σ] :
    (Prog.exec (.rollback : Stmt σ κ Λ ε) fun _ => (.throw e : Prog σ κ Λ ε α)).wp C P E h t ↔
      E e h .idle := by
  simp only [wp, Stmt.exec, Stmt.fault, List.not_mem_nil, List.nil_append]
  exact ⟨fun he => (he.1 (Classical.arbitrary σ)).2, fun he => by simp [he]⟩

theorem wp_commit [Nonempty σ] :
    (stmt (.commit : Stmt σ κ Λ ε) fun _ => a).wp C P (fun e h _ => E e h .idle) h t ↔
      (∀ m, E (lost m) h .idle) ∧
        match t with
        | .active w => C h w ∧ P a (.wrote w :: h) .idle
        | _ => P a h .idle := by
  cases t <;> simp [stmt, wp, Stmt.exec, and_comm]

theorem wp_rollback [Nonempty σ] :
    (stmt (.rollback : Stmt σ κ Λ ε) fun _ => a).wp C P (fun e h _ => E e h .idle) h t ↔
      (∀ m, E (lost m) h .idle) ∧ P a h .idle := by
  cases t <;> simp [stmt, wp, Stmt.exec, and_comm]

/-- The transaction of a service method: what the body leaves is published under `C`, or
rolled back with the error. -/
@[simp] theorem wp_transaction (body : Prog σ κ Λ ε α) [Nonempty σ] :
    (transaction body).wp C P E h .idle ↔
      (∀ m, E (lost m) h .idle) ∧
      body.wp C
        (fun a h t => (∀ m, E (lost m) h .idle) ∧
          match t with
          | .active w => C h w ∧ P a (.wrote w :: h) .idle
          | _ => P a h .idle)
        (fun e h _ => E e h .idle) h (.active id) := by
  rw [transaction, wp_begin, wp_tryCatch', wp_bind']
  simp only [wp_rollback_throw, wp_commit]

@[simp] theorem wp_rolledBack (body : Prog σ κ Λ ε α) [Nonempty σ] :
    (rolledBack body).wp C P E h .idle ↔
      (∀ m, E (lost m) h .idle) ∧
      body.wp C (fun a h _ => (∀ m, E (lost m) h .idle) ∧ P a h .idle) (fun e h _ => E e h .idle)
        h (.active id) := by
  rw [rolledBack, wp_begin, wp_tryCatch', wp_bind']
  simp only [wp_rollback_throw, wp_rollback]

end Prog

export Prog (wp_mono wp_grows wp_pure wp_throw wp_bind' wp_bind wp_map wp_tryCatch wp_ite wp_throwIf
  wp_when wp_forSome wp_orThrow wp_lift wp_select_idle wp_select_active wp_write_idle
  wp_write_active wp_writeChecked_active wp_transaction)

set_option linter.defProp false in
/-- What `simp` knows of `wp`. -/
def wp_simps :=
  And.intro @wp_bind <| And.intro @wp_pure <| And.intro @wp_orThrow <| And.intro @wp_lift <|
  And.intro @wp_throwIf <| And.intro @wp_select_idle <| And.intro @wp_select_active <|
  And.intro @wp_write_idle <| And.intro @wp_write_active <| And.intro @wp_writeChecked_active <|
  And.intro @wp_transaction <| trivially

end ReadCommitted
