import Travelo.ReadCommitted.Relying

/-!
# Sessions that lock what they change

`part k s` is the part of the state `s` that the lock `k` stands for. A session that changes
no part but those of locks it holds finds a part, once locked, as it last saw it: the other
sessions cannot change it before the transaction ends.

* `p.locks part I P E held t b` says that `p` does so and keeps the invariant `I`, from
  transaction `t`, locks `held` and `b`, the committed state it last saw; whatever `P` and `E`
  say of the end.
* `t.Owes part I Q held b` is what a transaction is between two statements: the state under
  its writes satisfies `Q`, the parts that are not locked are the committed ones, and the
  locked ones are known. `Q` is `I` wherever the transaction may be committed.
* A body that leaves the transaction so is `Prog.Owned`; such bodies compose.

`Config.run_locks` is the rule for interleaved sessions.
-/

namespace ReadCommitted

variable {σ κ Λ ε α β τ : Type} [Faults ε]

/-- The locked parts are the same in both states. -/
def Agree (part : κ → σ → τ) (held : List κ) (b db : σ) : Prop :=
  ∀ k ∈ held, part k db = part k b

section Agree

variable {part : κ → σ → τ} {held held' : List κ} {b db db' : σ}

omit [Faults ε] in
theorem agree_refl : Agree part held b b := fun _ _ => rfl

omit [Faults ε] in
theorem Agree.trans (h : Agree part held b db) (h' : Agree part held db db') :
    Agree part held b db' :=
  fun k hk => (h' k hk).trans (h k hk)

omit [Faults ε] in
theorem Agree.mono (h : Agree part held b db) (hsub : held' ⊆ held) : Agree part held' b db :=
  fun k hk => h k (hsub hk)

end Agree

/-- The locks a session holds after a statement. -/
def Stmt.locksAfter (c : Stmt σ κ Λ ε) (t : Tx σ) (held : List κ) (db : σ) : List κ :=
  c.needs (t.view db) ++ held

namespace Prog

/-- The program keeps `I` and changes locked parts only; see the module's introduction. -/
def locks (part : κ → σ → τ) (I : σ → Prop) (P : α → List κ → Tx σ → σ → Prop)
    (E : ε → List κ → Tx σ → σ → Prop) : Prog σ κ Λ ε α → List κ → Tx σ → σ → Prop
  | .ret a, held, t, b => P a held t b
  | .throw e, held, t, b => E e held t b
  | .exec c k, held, t, b =>
    (∀ db, I db → Agree part held b db →
      (∀ w, .wrote w ∈ (c.exec t db).obs →
        I (w db) ∧ ∀ k ∉ c.locksAfter t held db, part k (w db) = part k db) ∧
      (k (c.exec t db).reply).locks part I P E
        ((c.exec t db).tx.keep (c.locksAfter t held db)) (c.exec t db).tx (c.exec t db).db) ∧
    ∀ m, (k (.error (lost m))).locks part I P E ((c.fault t).keep held) (c.fault t) b

variable {part : κ → σ → τ} {I : σ → Prop} {P : α → List κ → Tx σ → σ → Prop}
  {E : ε → List κ → Tx σ → σ → Prop} {held : List κ} {t : Tx σ} {b : σ}

theorem locks_mono {P' : α → List κ → Tx σ → σ → Prop} {E' : ε → List κ → Tx σ → σ → Prop}
    (hP : ∀ a held t b, P a held t b → P' a held t b)
    (hE : ∀ e held t b, E e held t b → E' e held t b) (p : Prog σ κ Λ ε α) :
    ∀ held t b, p.locks part I P E held t b → p.locks part I P' E' held t b := by
  induction p with
  | ret a => exact fun held t b hp => hP a held t b hp
  | throw e => exact fun held t b hp => hE e held t b hp
  | exec c k ih =>
    intro held t b hp
    refine ⟨fun db hI hag => ⟨(hp.1 db hI hag).1, ?_⟩, fun m => ?_⟩
    · exact ih _ _ _ _ (hp.1 db hI hag).2
    · exact ih _ _ _ _ (hp.2 m)

/-! ### Control flow -/

@[simp] theorem locks_pure (a : α) :
    (pure a : Prog σ κ Λ ε α).locks part I P E held t b ↔ P a held t b := Iff.rfl

@[simp] theorem locks_throw (e : ε) :
    (Prog.throw e : Prog σ κ Λ ε α).locks part I P E held t b ↔ E e held t b := Iff.rfl

theorem locks_bind' (p : Prog σ κ Λ ε β) (f : β → Prog σ κ Λ ε α) :
    ∀ held t b, (p.bind f).locks part I P E held t b ↔
      p.locks part I (fun a held t b => (f a).locks part I P E held t b) E held t b := by
  induction p with
  | ret a => exact fun held t b => Iff.rfl
  | throw e => exact fun held t b => Iff.rfl
  | exec c k ih => simp [bind, locks, ih]

@[simp] theorem locks_bind (p : Prog σ κ Λ ε β) (f : β → Prog σ κ Λ ε α) :
    (p >>= f).locks part I P E held t b ↔
      p.locks part I (fun a held t b => (f a).locks part I P E held t b) E held t b :=
  locks_bind' p f held t b

@[simp] theorem locks_throwIf (c : Prop) [Decidable c] (e : ε)
    {P : Unit → List κ → Tx σ → σ → Prop} :
    (throwIf c e : Prog σ κ Λ ε Unit).locks part I P E held t b ↔
      (c → E e held t b) ∧ (¬c → P () held t b) := by
  by_cases hc : c <;> simp [throwIf, hc, locks]

@[simp] theorem locks_orThrow (o : Option α) (e : ε) :
    (orThrow o e : Prog σ κ Λ ε α).locks part I P E held t b ↔
      (o = none → E e held t b) ∧ ∀ a, o = some a → P a held t b := by
  cases o <;> simp [orThrow, locks]

theorem locks_tryCatch (p : Prog σ κ Λ ε α) (handler : ε → Prog σ κ Λ ε α) :
    ∀ held t b, (p.tryCatch handler).locks part I P E held t b ↔
      p.locks part I P (fun e held t b => (handler e).locks part I P E held t b) held t b := by
  induction p with
  | ret a => exact fun held t b => Iff.rfl
  | throw e => exact fun held t b => Iff.rfl
  | exec c k ih => simp [tryCatch, locks, ih]

end Prog

/-! ## Transactions -/

/-- What a transaction is between two statements; see the module's introduction. -/
def Tx.Owes (part : κ → σ → τ) (I Q : σ → Prop) (held : List κ) (b : σ) : Tx σ → Prop
  | .idle => False
  | .active w => ∀ db, I db → Agree part held b db →
      Q (w db) ∧ ∀ k, (k ∈ held → part k (w db) = part k (w b)) ∧
        (k ∉ held → part k (w db) = part k db)
  | .aborted => True

section Owes

variable {part : κ → σ → τ} {I Q Q' : σ → Prop} {held held' : List κ} {t : Tx σ} {b db : σ}
  {w f : σ → σ}

omit [Faults ε] in
theorem Tx.owes_id : (Tx.active id : Tx σ).Owes part I I [] b :=
  fun _ hI _ => ⟨hI, fun _ => ⟨fun hk => absurd hk List.not_mem_nil, fun _ => rfl⟩⟩

omit [Faults ε] in
theorem Tx.Owes.later (h : t.Owes part I Q held b) (hI : I db) (hag : Agree part held b db)
    (hsub : held ⊆ held') : t.Owes part I Q held' db := by
  cases t with
  | idle => exact h
  | aborted => trivial
  | active w =>
    intro db' hI' hag'
    obtain ⟨hQ, hparts⟩ := h db' hI' (hag.trans (hag'.mono hsub))
    refine ⟨hQ, fun k => ⟨fun hk => ?_, fun hk => ?_⟩⟩
    · by_cases hold : k ∈ held
      · rw [(hparts k).1 hold, ((h db hI hag).2 k).1 hold]
      · -- a lock that is new: the part is the committed one, and that is known now
        rw [(hparts k).2 hold, ((h db hI hag).2 k).2 hold, hag' k hk]
    · exact (hparts k).2 fun hold => hk (hsub hold)

omit [Faults ε] in
/-- What is known of the state under the writes, with the locked part as it is now. -/
theorem Tx.Owes.known (h : (Tx.active w).Owes part I Q held b) {k : κ} (hk : k ∈ held)
    (hQ : ∀ s, Q s → part k s = part k (w b) → Q' s) :
    (Tx.active w).Owes part I Q' held b := by
  intro db hI hag
  obtain ⟨hw, hparts⟩ := h db hI hag
  exact ⟨hQ _ hw ((hparts k).1 hk), hparts⟩

omit [Faults ε] in
theorem Tx.Owes.write (h : (Tx.active w).Owes part I Q held b) (hQ : ∀ s, Q s → Q' (f s))
    (hfree : ∀ s, ∀ k ∉ held, part k (f s) = part k s)
    (hheld : ∀ s s', ∀ k ∈ held, part k s = part k s' → part k (f s) = part k (f s')) :
    (Tx.active (f ∘ w)).Owes part I Q' held b := by
  intro db hI hag
  obtain ⟨hw, hparts⟩ := h db hI hag
  refine ⟨hQ _ hw, fun k => ⟨fun hk => ?_, fun hk => ?_⟩⟩
  · exact hheld _ _ k hk ((hparts k).1 hk)
  · exact (hfree _ k hk).trans ((hparts k).2 hk)

omit [Faults ε] in
/-- A write whose effect depends on what is known of the state under the writes. -/
theorem Tx.Owes.writeKnown (h : (Tx.active w).Owes part I Q held b) (hb : I b)
    (hQ : ∀ s, Q s → Q' (f s)) (hfree : ∀ s, Q s → ∀ k ∉ held, part k (f s) = part k s)
    (hheld : ∀ s s', Q s → Q s' → ∀ k ∈ held, part k s = part k s' → part k (f s) = part k (f s')) :
    (Tx.active (f ∘ w)).Owes part I Q' held b := by
  intro db hI hag
  obtain ⟨hw, hparts⟩ := h db hI hag
  obtain ⟨hwb, -⟩ := h b hb agree_refl
  refine ⟨hQ _ hw, fun k => ⟨fun hk => ?_, fun hk => ?_⟩⟩
  · exact hheld _ _ hw hwb k hk ((hparts k).1 hk)
  · exact (hfree _ hw k hk).trans ((hparts k).2 hk)

end Owes

/-! ## Bodies -/

/-- The body leaves its transaction ready to be committed, however it ends. -/
def Prog.Owned (part : κ → σ → τ) (I : σ → Prop) (p : Prog σ κ Λ ε α) : Prop :=
  ∀ held t b, t.Owes part I I held b →
    p.locks part I (fun _ held t b => t.Owes part I I held b)
      (fun _ held t b => t.Owes part I I held b) held t b

namespace Prog

variable {part : κ → σ → τ} {I : σ → Prop} {P : α → List κ → Tx σ → σ → Prop}
  {E : ε → List κ → Tx σ → σ → Prop} {held : List κ} {b : σ} {w : σ → σ}

/-! ### Statements in a transaction -/

@[simp] theorem locks_select_active (l : Λ) (q : σ → α) :
    (select (κ := κ) (ε := ε) l q).locks part I P E held (.active w) b ↔
      (∀ db, I db → Agree part held b db → P (q (w db)) held (.active w) db) ∧
        ∀ m, E (lost m) held .aborted b := by
  simp [select, stmt, locks, Stmt.exec, Stmt.fault, Tx.keep, Stmt.locksAfter, Stmt.needs]

@[simp] theorem locks_selectForUpdate_active (l : Λ) (rows : σ → List κ) (q : σ → α) :
    (selectForUpdate (ε := ε) l rows q).locks part I P E held (.active w) b ↔
      (∀ db, I db → Agree part held b db →
        P (q (w db)) (rows (w db) ++ held) (.active w) db) ∧
        ∀ m, E (lost m) held .aborted b := by
  simp [selectForUpdate, stmt, locks, Stmt.exec, Stmt.fault, Tx.keep, Stmt.locksAfter, Stmt.needs]

@[simp] theorem locks_write_active (rows : σ → List κ) (f : σ → σ) (q : σ → α) :
    (write (Λ := Λ) (ε := ε) rows f q).locks part I P E held (.active w) b ↔
      (∀ db, I db → Agree part held b db →
        P (q (w db)) (rows (w db) ++ held) (.active (f ∘ w)) db) ∧
        ∀ m, E (lost m) held .aborted b := by
  simp [write, stmt, locks, Stmt.exec, Stmt.fault, Tx.keep, Stmt.locksAfter, Stmt.needs]

@[simp] theorem locks_writeChecked_active (rows : σ → List κ) (f : σ → Except ε σ) (q : σ → α) :
    (writeChecked (Λ := Λ) rows f q).locks part I P E held (.active w) b ↔
      (∀ db, I db → Agree part held b db →
        (∀ db', f (w db) = .ok db' →
          P (q (w db)) (rows (w db) ++ held) (.active (applied f ∘ w)) db) ∧
        ∀ e, f (w db) = .error e → E e (rows (w db) ++ held) .aborted db) ∧
        ∀ m, E (lost m) held .aborted b := by
  simp only [writeChecked, stmt, locks]
  refine and_congr (forall_congr' fun db => forall_congr' fun _ => forall_congr' fun _ => ?_) Iff.rfl
  cases hf : f (w db) <;>
    simp [Stmt.exec, hf, Tx.keep, Stmt.locksAfter, Stmt.needs, locks]

theorem Plain.locks {W : (σ → σ) → Prop} {p : Prog σ κ Λ ε α} (hp : p.Plain W)
    (hW : ∀ w, W w → ∀ db, I db → I (w db) ∧ ∀ k, part k (w db) = part k db) :
    ∀ held (t : Tx σ) b,
      p.locks part I (fun _ _ _ _ => True) (fun _ _ _ _ => True) held t b := by
  induction hp with
  | ret a => exact fun _ _ _ => trivial
  | throw e => exact fun _ _ _ => trivial
  | read _ ih =>
    intro held t b
    refine ⟨fun db _ _ => ⟨fun w hw => ?_, ih _ _ _ _⟩, fun m => ih _ _ _ _⟩
    cases t <;> simp [Stmt.exec] at hw
  | @written rows f k hw _ ih =>
    intro held t b
    refine ⟨fun db hI _ => ⟨fun w hmem => ?_, ih _ _ _ _⟩, fun m => ih _ _ _ _⟩
    cases t with
    | idle =>
      obtain rfl : w = applied f := by
        cases hf : f db <;> simp [Stmt.exec, hf] at hmem
        exact hmem
      obtain ⟨hkept, hparts⟩ := hW _ hw db hI
      exact ⟨hkept, fun k _ => hparts k⟩
    | active w' => cases hf : f (w' db) <;> simp [Stmt.exec, hf] at hmem
    | aborted => simp [Stmt.exec] at hmem

theorem locks_stmt_aborted {c : Stmt σ κ Λ ε} (hc : c ≠ .begin ∧ c ≠ .commit ∧ c ≠ .rollback)
    (q : σ → α) (hE : ∀ e held b, E e held .aborted b) :
    (stmt c q).locks part I P E held .aborted b := by
  obtain ⟨hb, hcm, hr⟩ := hc
  cases c with
  | read l => simp [stmt, locks, Stmt.exec, Stmt.fault, hE]
  | lock l rows => simp [stmt, locks, Stmt.exec, Stmt.fault, hE]
  | write rows f => simp [stmt, locks, Stmt.exec, Stmt.fault, hE]
  | begin => exact absurd rfl hb
  | commit => exact absurd rfl hcm
  | rollback => exact absurd rfl hr

namespace Owned

@[simp] theorem pure (a : α) : (Pure.pure a : Prog σ κ Λ ε α).Owned part I :=
  fun _ _ _ h => h

theorem throw (e : ε) : (Prog.throw e : Prog σ κ Λ ε α).Owned part I := fun _ _ _ h => h

theorem bind {p : Prog σ κ Λ ε β} {f : β → Prog σ κ Λ ε α} (hp : p.Owned part I)
    (hf : ∀ a, (f a).Owned part I) : (p >>= f).Owned part I := by
  intro held t b h
  refine (locks_bind' p f held t b).mpr ?_
  exact locks_mono (fun a held t b h => hf a held t b h) (fun _ _ _ _ h => h) p held t b
    (hp held t b h)

theorem tryCatch {p : Prog σ κ Λ ε α} {f : ε → Prog σ κ Λ ε α} (hp : p.Owned part I)
    (hf : ∀ e, (f e).Owned part I) : (tryCatchThe ε p f).Owned part I := by
  intro held t b h
  refine (locks_tryCatch p f held t b).mpr ?_
  exact locks_mono (fun _ _ _ _ h => h) (fun e held t b h => hf e held t b h) p held t b
    (hp held t b h)

theorem ite (c : Prop) [Decidable c] {p q : Prog σ κ Λ ε α} (hp : p.Owned part I)
    (hq : q.Owned part I) : (if c then p else q).Owned part I := by
  by_cases hc : c
  · rwa [if_pos hc]
  · rwa [if_neg hc]

theorem throwIf (c : Prop) [Decidable c] (e : ε) :
    (Prog.throwIf c e : Prog σ κ Λ ε Unit).Owned part I :=
  ite c (throw e) (pure ())

theorem when (c : Prop) [Decidable c] {p : Prog σ κ Λ ε Unit} (hp : p.Owned part I) :
    (Prog.when c p).Owned part I :=
  ite c hp (pure ())

theorem forSome (x : Option β) {p : β → Prog σ κ Λ ε Unit} (hp : ∀ a, (p a).Owned part I) :
    (Prog.forSome x p).Owned part I := by
  cases x with
  | none => exact pure ()
  | some a => exact hp a

theorem orThrow (o : Option α) (e : ε) :
    (Prog.orThrow o e : Prog σ κ Λ ε α).Owned part I := by
  cases o with
  | none => exact throw e
  | some a => exact pure a

theorem lift (x : Except ε α) : (Prog.lift x : Prog σ κ Λ ε α).Owned part I := by
  cases x with
  | error e => exact throw e
  | ok a => exact pure a

theorem all {p : β → Prog σ κ Λ ε α} (hp : ∀ a, (p a).Owned part I) (l : List β) :
    (Prog.all p l).Owned part I := by
  induction l with
  | nil => exact pure []
  | cons a l ih => exact bind (hp a) fun _ => bind ih fun _ => pure _

theorem select (l : Λ) (q : σ → α) : (Prog.select (κ := κ) (ε := ε) l q).Owned part I := by
  intro held t b h
  cases t with
  | idle => exact absurd h id
  | aborted => exact locks_stmt_aborted (by simp) q fun _ _ _ => trivial
  | active w =>
    exact (locks_select_active l q).mpr
      ⟨fun db hI hag => h.later hI hag fun _ hk => hk, fun _ => trivial⟩

theorem write (rows : σ → List κ) {f : σ → σ} (q : σ → α) (hI : ∀ s, I s → I (f s))
    (hparts : ∀ k s, part k (f s) = part k s) :
    (Prog.write (Λ := Λ) (ε := ε) rows f q).Owned part I := by
  intro held t b h
  cases t with
  | idle => exact absurd h id
  | aborted => exact locks_stmt_aborted (by simp) q fun _ _ _ => trivial
  | active w =>
    refine (locks_write_active rows f q).mpr ⟨fun db hIdb hag => ?_, fun _ => trivial⟩
    have hlater := h.later hIdb hag (List.subset_append_right (rows (w db)) held)
    refine hlater.write hI (fun s k _ => hparts k s) (fun s s' k _ hs => ?_)
    rw [hparts, hparts, hs]

end Owned

theorem locks_discard {p : Prog σ κ Λ ε α}
    (hp : p.locks part I (fun _ _ _ _ => True) (fun _ _ _ _ => True) [] .idle b) :
    (do let _ ← p : Prog σ κ Λ ε Unit).locks part I (fun _ _ _ _ => True) (fun _ _ _ _ => True)
      [] .idle b := by
  simpa using hp

theorem locks_transaction {body : Prog σ κ Λ ε α} (hbody : body.Owned part I) :
    (transaction body).locks part I (fun _ _ _ _ => True) (fun _ _ _ _ => True) [] .idle b := by
  have hrollback : ∀ e held (t : Tx σ) b, (Prog.exec .rollback fun _ => .throw e :
      Prog σ κ Λ ε α).locks part I (fun _ _ _ _ => True) (fun _ _ _ _ => True) held t b :=
    fun e held t b => ⟨fun db _ _ => ⟨fun w hw => by simp [Stmt.exec] at hw, trivial⟩,
      fun _ => trivial⟩
  have hcommit : ∀ a held (t : Tx σ) b, t.Owes part I I held b →
      (stmt .commit fun _ => a : Prog σ κ Λ ε α).locks part I (fun _ _ _ _ => True)
        (fun _ _ _ _ => True) held t b := by
    intro a held t b h
    refine ⟨fun db hI hag => ⟨fun w hw => ?_, ?_⟩, fun _ => trivial⟩
    · cases t with
      | idle => exact absurd h id
      | aborted => simp [Stmt.exec] at hw
      | active w' =>
        obtain rfl : w = w' := by simpa [Stmt.exec] using hw
        obtain ⟨hw, hparts⟩ := h db hI hag
        exact ⟨hw, fun k hk => (hparts k).2 hk⟩
    · cases t with
      | idle => exact absurd h id
      | aborted => trivial
      | active w => trivial
  refine (locks_bind' _ _ _ _ _).mpr ⟨fun db hI _ => ⟨fun w hw => by simp [Stmt.exec] at hw, ?_⟩,
    fun _ => trivial⟩
  refine (locks_tryCatch _ _ _ _ _).mpr ((locks_bind' _ _ _ _ _).mpr ?_)
  refine locks_mono (fun a held t b h => ?_) (fun e held t b _ => hrollback e held t b) body _ _ _
    (hbody [] (.active id) db Tx.owes_id)
  exact locks_mono (fun _ _ _ _ _ => trivial) (fun e held t b _ => hrollback e held t b) _ _ _ _
    (hcommit a held t b h)

end Prog

export Prog (locks_discard)

/-! ## Interleaved sessions -/

namespace Config

variable [DecidableEq κ] {part : κ → σ → τ} {I : σ → Prop} {c c' : Config σ κ Λ ε α}

/-- What holds while such sessions are interleaved. -/
structure Locking (part : κ → σ → τ) (I : σ → Prop) (c : Config σ κ Λ ε α) : Prop where
  inv : I c.db
  /-- Each session goes on so from a state that agrees with the present one. -/
  each : ∀ (i : ℕ) s, c.sessions[i]? = some s → ∃ b, Agree part s.held b c.db ∧
    s.prog.locks part I (fun _ _ _ _ => True) (fun _ _ _ _ => True) s.held s.tx b
  /-- No lock is held twice. -/
  exclusive : ∀ (i j : ℕ) s t, i ≠ j → c.sessions[i]? = some s → c.sessions[j]? = some t →
    ∀ k ∈ s.held, k ∉ t.held

omit [Faults ε] in
theorem notMem_of_not_locked {i j : ℕ} {k : κ} {t : Session σ κ Λ ε α} (h : c.locked i k = false)
    (hij : j ≠ i) (ht : c.sessions[j]? = some t) : k ∉ t.held := by
  intro hk
  have hmem : t ∈ c.sessions.eraseIdx i := List.mem_eraseIdx_iff_getElem?.mpr ⟨j, hij, ht⟩
  have hlocked : c.locked i k = true := by
    unfold locked
    exact List.any_eq_true.mpr ⟨t, hmem, by simpa using hk⟩
  rw [h] at hlocked
  cases hlocked

omit [Faults ε] [DecidableEq κ] in
theorem keep_subset (t : Tx σ) (held : List κ) : t.keep held ⊆ held := by
  cases t with
  | idle => exact List.nil_subset held
  | active w => exact fun _ hk => hk
  | aborted => exact fun _ hk => hk

omit [DecidableEq κ] in
/-- A session moved to `s'`, whose locks are among `locks`, and parts of others did not change. -/
theorem Locking.set {i : ℕ} {s s' : Session σ κ Λ ε α} (h : Locking part I c) (locks : List κ)
    (hset : c'.sessions = c.sessions.set i s') (hs : c.sessions[i]? = some s)
    (hinv : I c'.db) (hheld : s'.held ⊆ locks)
    (hfree : ∀ (j : ℕ) t, j ≠ i → c.sessions[j]? = some t → ∀ k ∈ locks, k ∉ t.held)
    (hparts : ∀ k ∉ locks, part k c'.db = part k c.db)
    (hown : ∃ b, Agree part s'.held b c'.db ∧
      s'.prog.locks part I (fun _ _ _ _ => True) (fun _ _ _ _ => True) s'.held s'.tx b) :
    Locking part I c' := by
  have hget : ∀ (j : ℕ) t, c'.sessions[j]? = some t →
      (j = i ∧ t = s') ∨ (j ≠ i ∧ c.sessions[j]? = some t) := by
    intro j t ht
    rw [hset] at ht
    by_cases hij : j = i
    · subst hij
      rw [List.getElem?_set_self (List.getElem?_eq_some_iff.mp hs).1] at ht
      exact .inl ⟨rfl, (Option.some.inj ht).symm⟩
    · rw [List.getElem?_set_ne (Ne.symm hij)] at ht
      exact .inr ⟨hij, ht⟩
  refine ⟨hinv, fun j t ht => ?_, fun j l t u hjl ht hu => ?_⟩
  · rcases hget j t ht with ⟨-, rfl⟩ | ⟨hj, ht⟩
    · exact hown
    · obtain ⟨b, hag, hlocks⟩ := h.each j t ht
      refine ⟨b, fun k hk => ?_, hlocks⟩
      rw [hparts k fun hmine => hfree j t hj ht k hmine hk]
      exact hag k hk
  · rcases hget j t ht with ⟨rfl, rfl⟩ | ⟨hj, ht⟩
    · rcases hget l u hu with ⟨rfl, -⟩ | ⟨hl, hu⟩
      · exact absurd rfl hjl
      · exact fun k hk => hfree l u hl hu k (hheld hk)
    · rcases hget l u hu with ⟨rfl, rfl⟩ | ⟨hl, hu⟩
      · exact fun k hk hk' => hfree j t hj ht k (hheld hk') hk
      · exact h.exclusive j l t u hjl ht hu

theorem Locking.next {ev : Event} (h : Locking part I c) (hn : c.next ev = some c') :
    Locking part I c' := by
  -- a session that only loses locks
  have hless : ∀ (i : ℕ) s s', c.sessions[i]? = some s → s'.held ⊆ s.held →
      (∀ b, s.prog.locks part I (fun _ _ _ _ => True) (fun _ _ _ _ => True) s.held s.tx b →
        s'.prog.locks part I (fun _ _ _ _ => True) (fun _ _ _ _ => True) s'.held s'.tx b) →
      Locking part I { c with sessions := c.sessions.set i s' } := by
    intro i s s' hs hsub hlocks
    refine h.set s.held rfl hs h.inv hsub (fun j t hj ht k hk => ?_) (fun _ _ => rfl) ?_
    · exact h.exclusive i j s t (Ne.symm hj) hs ht k hk
    · obtain ⟨b, hag, hown⟩ := h.each i s hs
      exact ⟨b, hag.mono hsub, hlocks b hown⟩
  cases ev with
  | step i =>
    cases hs : c.sessions[i]? with
    | none => simp [Config.next, hs] at hn
    | some s =>
      cases hp : s.prog with
      | ret a => simp [Config.next, hs, hp] at hn
      | throw e => simp [Config.next, hs, hp] at hn
      | exec st k =>
        simp only [Config.next, hs, hp, Option.ite_none_left_eq_some, Option.some.injEq] at hn
        obtain ⟨hfree, rfl⟩ := hn
        obtain ⟨b, hag, hown⟩ := h.each i s hs
        rw [hp] at hown
        obtain ⟨hpub, hrest⟩ := hown.1 c.db h.inv hag
        -- the committed state is the old one, or the old one under the write
        have hdb : I (st.exec s.tx c.db).db ∧ ∀ k ∉ st.locksAfter s.tx s.held c.db,
            part k (st.exec s.tx c.db).db = part k c.db := by
          rcases st.exec_cases s.tx c.db with ⟨hsame, -⟩ | ⟨w, hobs, hw⟩
          · rw [hsame]
            exact ⟨h.inv, fun _ _ => rfl⟩
          · rw [hw]
            exact hpub w (by simp [hobs])
        refine h.set (st.locksAfter s.tx s.held c.db) rfl hs hdb.1 (keep_subset _ _) ?_ hdb.2
          ⟨_, agree_refl, hrest⟩
        intro j t hj ht l hl
        rcases List.mem_append.mp hl with hneed | hheld
        · refine notMem_of_not_locked ?_ hj ht
          have hany : ¬(st.needs (s.tx.view c.db)).any (c.locked i) = true := hfree
          simpa using fun hlocked => hany (List.any_eq_true.mpr ⟨l, hneed, hlocked⟩)
        · exact h.exclusive i j s t (Ne.symm hj) hs ht l hheld
  | fault i m =>
    cases hs : c.sessions[i]? with
    | none => simp [Config.next, hs] at hn
    | some s =>
      cases hp : s.prog with
      | ret a => simp [Config.next, hs, hp] at hn
      | throw e => simp [Config.next, hs, hp] at hn
      | exec st k =>
        simp only [Config.next, hs, hp, Option.some.injEq] at hn
        subst hn
        refine hless i s _ hs (keep_subset _ _) fun b hown => ?_
        rw [hp] at hown
        exact hown.2 m
  | crash i =>
    cases hs : c.sessions[i]? with
    | none => simp [Config.next, hs] at hn
    | some s =>
      simp only [Config.next, hs, Option.some.injEq] at hn
      subst hn
      exact hless i s _ hs (List.nil_subset _) fun _ _ => trivial

/-- The run rule: the invariant holds in every committed state of every schedule. -/
theorem run_locks (part : κ → σ → τ) {db : σ} {calls : List (Prog σ κ Λ ε α)}
    (hcalls : ∀ p ∈ calls, ∀ b,
      p.locks part I (fun _ _ _ _ => True) (fun _ _ _ _ => True) [] .idle b)
    (hI : I db) (evs : List Event) (hrun : (start db calls).run evs = some c) : I c.db := by
  have hstart : Locking part I (start db calls) := by
    have hnew : ∀ (i : ℕ) s, (start db calls).sessions[i]? = some s →
        ∃ p ∈ calls, s = Session.start p := by
      intro i s hs
      simp only [start, List.getElem?_map, Option.map_eq_some_iff] at hs
      obtain ⟨p, hp, rfl⟩ := hs
      exact ⟨p, List.mem_of_getElem? hp, rfl⟩
    refine ⟨hI, fun i s hs => ?_, fun i j s t _ hs _ k hk => ?_⟩
    · obtain ⟨p, hp, rfl⟩ := hnew i s hs
      exact ⟨db, agree_refl, hcalls p hp db⟩
    · obtain ⟨p, -, rfl⟩ := hnew i s hs
      cases hk
  have hend : Locking part I c := run_throughout (Q := fun _ _ => True) (Locking part I)
    (fun _ _ _ h _ hn => h.next hn) evs _ hstart (throughout_true evs _) hrun
  exact hend.inv

end Config

end ReadCommitted
