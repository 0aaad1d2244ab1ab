import Travelo.ReadCommitted.Fragments
import Travelo.ReadCommitted.Watched

/-!
# Programs that rely on the states they meet

`p.relying D G V P E t` says how `p` ends when every state that its statements meet satisfies `V`:
its answers satisfy `P` and its errors `E`. The claim is given up where a statement of `D` is
carried out, or one of `G` fails. So with `P` false it says that `p` carries out such a statement,
or fails to, before it answers.

A `Plain W` program consists of queries and of writes that satisfy `W`, outside a transaction; of
such a part nothing else need be known.

`Config.relying_next` keeps it through a schedule whose states satisfy `V`.
-/

namespace ReadCommitted

variable {σ κ Λ ε α β : Type} [Faults ε]

namespace Prog

/-- See the module's introduction. -/
def relying (D G : Stmt σ κ Λ ε → Tx σ → Prop) (V : σ → Prop) (P : α → Tx σ → Prop)
    (E : ε → Tx σ → Prop) : Prog σ κ Λ ε α → Tx σ → Prop
  | .ret a, t => P a t
  | .throw e, t => E e t
  | .exec c k, t =>
    (D c t ∨ ∀ db, V db → (k (c.exec t db).reply).relying D G V P E (c.exec t db).tx) ∧
      (G c t ∨ ∀ m, (k (.error (lost m))).relying D G V P E (c.fault t))

variable {D G : Stmt σ κ Λ ε → Tx σ → Prop} {V : σ → Prop} {P : α → Tx σ → Prop} {E : ε → Tx σ → Prop}
  {t : Tx σ}

theorem relying_mono {P' : α → Tx σ → Prop} {E' : ε → Tx σ → Prop} (hP : ∀ a t, P a t → P' a t)
    (hE : ∀ e t, E e t → E' e t) (p : Prog σ κ Λ ε α) :
    ∀ t, p.relying D G V P E t → p.relying D G V P' E' t := by
  induction p with
  | ret a => exact fun t hp => hP a t hp
  | throw e => exact fun t hp => hE e t hp
  | exec c k ih =>
    intro t hp
    exact ⟨hp.1.imp_right fun h db hdb => ih _ _ (h db hdb),
      hp.2.imp_right fun h m => ih _ _ (h m)⟩

/-! ## Control flow -/

@[simp] theorem relying_pure (a : α) :
    (pure a : Prog σ κ Λ ε α).relying D G V P E t ↔ P a t := Iff.rfl

@[simp] theorem relying_ret (a : α) :
    (Prog.ret a : Prog σ κ Λ ε α).relying D G V P E t ↔ P a t := Iff.rfl

@[simp] theorem relying_throw (e : ε) :
    (Prog.throw e : Prog σ κ Λ ε α).relying D G V P E t ↔ E e t := Iff.rfl

theorem relying_bind' (p : Prog σ κ Λ ε β) (f : β → Prog σ κ Λ ε α) :
    ∀ t, (p.bind f).relying D G V P E t ↔
      p.relying D G V (fun b t => (f b).relying D G V P E t) E t := by
  induction p with
  | ret b => exact fun t => Iff.rfl
  | throw e => exact fun t => Iff.rfl
  | exec c k ih => simp [bind, relying, ih]

@[simp] theorem relying_bind (p : Prog σ κ Λ ε β) (f : β → Prog σ κ Λ ε α) :
    (p >>= f).relying D G V P E t ↔
      p.relying D G V (fun b t => (f b).relying D G V P E t) E t :=
  relying_bind' p f t

@[simp] theorem relying_map (p : Prog σ κ Λ ε β) (f : β → α) :
    (f <$> p).relying D G V P E t ↔ p.relying D G V (fun b t => P (f b) t) E t :=
  relying_bind' p (fun b => pure (f b)) t

theorem relying_tryCatch (p : Prog σ κ Λ ε α) (handler : ε → Prog σ κ Λ ε α) :
    ∀ t, (p.tryCatch handler).relying D G V P E t ↔
      p.relying D G V P (fun e t => (handler e).relying D G V P E t) t := by
  induction p with
  | ret a => exact fun t => Iff.rfl
  | throw e => exact fun t => Iff.rfl
  | exec c k ih => simp [tryCatch, relying, ih]

@[simp] theorem relying_caught {p : Prog σ κ Λ ε α} {P : Except ε α → Tx σ → Prop} :
    p.caught.relying D G V P E t ↔
      p.relying D G V (fun a => P (.ok a)) (fun e => P (.error e)) t := by
  have hcaught : p.caught = (Except.ok <$> p).tryCatch fun e => return .error e := rfl
  rw [hcaught, relying_tryCatch, relying_map]
  rfl

@[simp] theorem relying_ite (c : Prop) [Decidable c] (p q : Prog σ κ Λ ε α) :
    (if c then p else q).relying D G V P E t ↔
      (c → p.relying D G V P E t) ∧ (¬c → q.relying D G V P E t) := by
  by_cases hc : c <;> simp [hc]

@[simp] theorem relying_throwIf (c : Prop) [Decidable c] (e : ε) {P : Unit → Tx σ → Prop} :
    (throwIf c e : Prog σ κ Λ ε Unit).relying D G V P E t ↔ (c → E e t) ∧ (¬c → P () t) := by
  simp [throwIf]

/-! ## Statements outside a transaction -/

theorem relying_select_idle {l : Λ} {q : σ → α} (hP : ∀ db, V db → P (q db) .idle)
    (hE : ∀ m, E (lost m) .idle) : (select (κ := κ) l q).relying D G V P E .idle :=
  ⟨.inr hP, .inr hE⟩

theorem relying_write_idle {rows : σ → List κ} {f : σ → σ} {q : σ → α}
    (hP : ∀ db, V db → P (q db) .idle) (hE : ∀ m, E (lost m) .idle) :
    (write (Λ := Λ) rows f q).relying D G V P E .idle :=
  ⟨.inr hP, .inr hE⟩

theorem relying_all {p : β → Prog σ κ Λ ε α} {b₀ : β} {R : List α → Tx σ → Prop}
    (hp : ∀ b P, (∀ a, P a .idle) → (∀ e, E e .idle) → (p b).relying D G V P E .idle)
    (hpay : ∀ P, (∀ e, E e .idle) → (p b₀).relying D G V P E .idle) (hE : ∀ e, E e .idle) :
    ∀ {l : List β}, b₀ ∈ l → (all p l).relying D G V R E .idle := by
  intro l
  induction l generalizing R with
  | nil => exact fun h => absurd h (by simp)
  | cons b bs ih =>
    intro hmem
    change ((p b).bind fun a => (all p bs).bind fun as => .ret (a :: as)).relying D G V R E .idle
    rw [relying_bind']
    rcases List.mem_cons.mp hmem with rfl | hmem
    · exact hpay _ hE
    · refine hp b _ (fun a => ?_) hE
      rw [relying_bind']
      exact ih hmem

/-! ## Plain programs -/

omit [Faults ε] in
/-- See the module's introduction. -/
inductive Plain (W : (σ → σ) → Prop) : Prog σ κ Λ ε α → Prop where
  | ret (a : α) : Plain W (.ret a)
  | throw (e : ε) : Plain W (.throw e)
  | read {l k} (hk : ∀ r, Plain W (k r)) : Plain W (.exec (.read l) k)
  | written {rows : σ → List κ} {f : σ → Except ε σ} {k} (hw : W (applied f))
    (hk : ∀ r, Plain W (k r)) : Plain W (.exec (.write rows f) k)

namespace Plain

variable {W W' : (σ → σ) → Prop}

section

omit [Faults ε]

theorem mono (hW : ∀ w, W w → W' w) {p : Prog σ κ Λ ε α} (hp : p.Plain W) : p.Plain W' := by
  induction hp with
  | ret a => exact .ret a
  | throw e => exact .throw e
  | read _ ih => exact .read ih
  | written hw _ ih => exact .written (hW _ hw) ih

theorem of_readOnly {p : Prog σ κ Λ ε α} (hp : p.ReadOnly) : p.Plain W := by
  induction hp with
  | ret a => exact .ret a
  | throw e => exact .throw e
  | read _ ih => exact .read ih

theorem write {rows : σ → List κ} {f : σ → σ} {q : σ → α} (hf : W f) :
    (Prog.write (Λ := Λ) (ε := ε) rows f q).Plain W :=
  .written hf fun r => by cases r <;> constructor

theorem writeChecked {rows : σ → List κ} {f : σ → Except ε σ} {q : σ → α} (hf : W (applied f)) :
    (Prog.writeChecked (Λ := Λ) rows f q).Plain W :=
  .written hf fun r => by cases r <;> constructor

theorem bind {p : Prog σ κ Λ ε β} {f : β → Prog σ κ Λ ε α} (hp : p.Plain W)
    (hf : ∀ b, (f b).Plain W) : (p >>= f).Plain W := by
  induction hp with
  | ret b => exact hf b
  | throw e => exact .throw e
  | read _ ih => exact .read ih
  | written hw _ ih => exact .written hw ih

theorem map {p : Prog σ κ Λ ε β} (hp : p.Plain W) (f : β → α) : (f <$> p).Plain W :=
  bind hp fun b => .ret (f b)

theorem tryCatch {p : Prog σ κ Λ ε α} {handler : ε → Prog σ κ Λ ε α} (hp : p.Plain W)
    (hhandler : ∀ e, (handler e).Plain W) : (p.tryCatch handler).Plain W := by
  induction hp with
  | ret a => exact .ret a
  | throw e => exact hhandler e
  | read _ ih => exact .read ih
  | written hw _ ih => exact .written hw ih

theorem throwIf (c : Prop) [Decidable c] (e : ε) :
    (Prog.throwIf c e : Prog σ κ Λ ε Unit).Plain W := by
  unfold Prog.throwIf
  split_ifs <;> constructor

theorem when {c : Prop} [Decidable c] {p : Prog σ κ Λ ε Unit} (hp : p.Plain W) :
    (Prog.when c p).Plain W := by
  unfold Prog.when
  split_ifs
  · exact hp
  · exact .ret ()

theorem forSome {x : Option β} {p : β → Prog σ κ Λ ε Unit} (hp : ∀ b, (p b).Plain W) :
    (Prog.forSome x p).Plain W := by
  cases x with
  | none => exact .ret ()
  | some b => exact hp b

theorem all {p : β → Prog σ κ Λ ε α} (hp : ∀ b, (p b).Plain W) (l : List β) :
    (Prog.all p l).Plain W := by
  induction l with
  | nil => exact .ret []
  | cons b l ih => exact bind (hp b) fun a => bind ih fun as => .ret (a :: as)

end

theorem relying_idle {p : Prog σ κ Λ ε α} (hp : p.Plain W) (hP : ∀ a, P a .idle)
    (hE : ∀ e, E e .idle) : p.relying D G V P E .idle := by
  induction hp with
  | ret a => exact hP a
  | throw e => exact hE e
  | read _ ih => exact ⟨.inr fun _ _ => ih _, .inr fun _ => ih _⟩
  | @written rows f k _ _ ih =>
    refine ⟨.inr fun db _ => ?_, .inr fun _ => ih _⟩
    cases hf : f db with
    | ok db' => simpa [Stmt.exec, hf] using ih (.ok db)
    | error e => simpa [Stmt.exec, hf] using ih (.error e)

theorem watch_idle {p : Prog σ κ Λ ε α} (hp : p.Plain W)
    {O : List (Obs σ Λ) → Option (Obs σ Λ) → σ → Prog σ κ Λ ε α → Prop}
    {P : α → List (Obs σ Λ) → Tx σ → Prop} {E : ε → List (Obs σ Λ) → Tx σ → Prop} :
    ∀ {h : List (Obs σ Λ)},
      (∀ h o db q, (∀ w, o = some (.wrote w) → W w) → O h o db q) →
      (∀ a h, P a h .idle) → (∀ e h, E e h .idle) → p.watch O P E h .idle := by
  induction hp with
  | ret a => exact fun _ hP _ => hP a _
  | throw e => exact fun _ _ hE => hE e _
  | read _ ih =>
    intro h hO hP hE
    exact ⟨fun db => ⟨hO _ _ _ _ fun _ hw => by simp [Stmt.exec] at hw, ih _ hO hP hE⟩,
      fun m => ih _ hO hP hE⟩
  | @written rows f k hw _ ih =>
    intro h hO hP hE
    refine ⟨fun db => ?_, fun m => ih _ hO hP hE⟩
    cases hf : f db with
    | ok db' =>
      refine ⟨hO _ _ _ _ fun w heq => ?_, ?_⟩
      · obtain rfl : applied f = w := by simpa [Stmt.exec, hf] using heq
        exact hw
      · simpa [Stmt.exec, hf] using ih (.ok db) hO hP hE
    | error e =>
      refine ⟨hO _ _ _ _ fun w heq => by simp [Stmt.exec, hf] at heq, ?_⟩
      simpa [Stmt.exec, hf] using ih (.error e) hO hP hE

end Plain

end Prog

export Prog (relying_bind relying_map relying_caught relying_select_idle)

/-- The session an event is about. -/
def Event.session : Event → ℕ
  | .step i => i
  | .fault i _ => i
  | .crash i => i

namespace Config

variable [DecidableEq κ] {c c' : Config σ κ Λ ε α} {D G : Stmt σ κ Λ ε → Tx σ → Prop}
  {V : σ → Prop} {P : α → Tx σ → Prop} {ev : Event} {i : ℕ} {s s' : Session σ κ Λ ε α}

/-- The event is where the session gives up: a statement of `D` is carried out, or one of `G`
fails. -/
def GivesUp (D G : Stmt σ κ Λ ε → Tx σ → Prop) (i : ℕ) (s : Session σ κ Λ ε α) (ev : Event) :
    Prop :=
  ∃ st k, s.prog = .exec st k ∧
    ((D st s.tx ∧ ev = .step i) ∨ (G st s.tx ∧ ∃ m, ev = .fault i m))

/-- The step lemma: a session goes on relying, unless this event is where it gives up. -/
theorem relying_next (hn : c.next ev = some c') (hs : c.sessions[i]? = some s)
    (hs' : c'.sessions[i]? = some s') (hV : V c.db)
    (hr : s.prog.relying D G V P (fun _ _ => True) s.tx) :
    s'.prog.relying D G V P (fun _ _ => True) s'.tx ∨ GivesUp D G i s ev := by
  have hmove : ∀ j u u', c.sessions[j]? = some u → c'.sessions = c.sessions.set j u' →
      (j = i → u'.prog.relying D G V P (fun _ _ => True) u'.tx ∨ GivesUp D G i s ev) →
      s'.prog.relying D G V P (fun _ _ => True) s'.tx ∨ GivesUp D G i s ev := by
    intro j u u' hu hset hself
    by_cases hj : j = i
    · subst hj
      rw [hset, List.getElem?_set_self (List.getElem?_eq_some_iff.mp hs).1] at hs'
      cases hs'
      exact hself rfl
    · rw [hset, List.getElem?_set_ne hj, hs] at hs'
      cases hs'
      exact .inl hr
  cases ev with
  | step j =>
    cases hu : c.sessions[j]? with
    | none => simp [Config.next, hu] at hn
    | some u =>
      cases hp : u.prog with
      | ret a => simp [Config.next, hu, hp] at hn
      | throw e => simp [Config.next, hu, hp] at hn
      | exec st k =>
        simp only [Config.next, hu, hp, Option.ite_none_left_eq_some, Option.some.injEq] at hn
        obtain ⟨-, rfl⟩ := hn
        refine hmove j u _ hu rfl fun hj => ?_
        subst hj
        obtain rfl := Option.some.inj (hs.symm.trans hu)
        rw [hp] at hr
        rcases hr.1 with hD | hgo
        · exact .inr ⟨st, k, hp, .inl ⟨hD, rfl⟩⟩
        · exact .inl (hgo c.db hV)
  | fault j m =>
    cases hu : c.sessions[j]? with
    | none => simp [Config.next, hu] at hn
    | some u =>
      cases hp : u.prog with
      | ret a => simp [Config.next, hu, hp] at hn
      | throw e' => simp [Config.next, hu, hp] at hn
      | exec st k =>
        simp only [Config.next, hu, hp, Option.some.injEq] at hn
        subst hn
        refine hmove j u _ hu rfl fun hj => ?_
        subst hj
        obtain rfl := Option.some.inj (hs.symm.trans hu)
        rw [hp] at hr
        rcases hr.2 with hG | hgo
        · exact .inr ⟨st, k, hp, .inr ⟨hG, m, rfl⟩⟩
        · exact .inl (hgo m)
  | crash j =>
    cases hu : c.sessions[j]? with
    | none => simp [Config.next, hu] at hn
    | some u =>
      simp only [Config.next, hu, Option.some.injEq] at hn
      subst hn
      exact hmove j u _ hu rfl fun _ => .inl trivial

theorem idle_of_publishes {w : σ → σ} (hn : c.next (.step i) = some c')
    (hs : c.sessions[i]? = some s) (hs' : c'.sessions[i]? = some s') (hw : s.Publishes c.db w) :
    s'.tx = .idle := by
  rcases hw with ⟨st, k, hp, hmem⟩
  simp only [Config.next, hs, hp, Option.ite_none_left_eq_some, Option.some.injEq] at hn
  rcases hn with ⟨-, rfl⟩
  have hset : (c.after i s st k).sessions[i]? = some _ :=
    List.getElem?_set_self (List.getElem?_eq_some_iff.mp hs).1
  rw [hset] at hs'
  cases hs'
  cases st with
  | write rows f =>
    cases htx : s.tx with
    | idle => cases hf : f c.db <;> simp [Stmt.exec, hf]
    | active w => cases hf : f (w c.db) <;> simp [htx, Stmt.exec, hf] at hmem
    | aborted => simp [htx, Stmt.exec] at hmem
  | commit => cases htx : s.tx <;> simp [Stmt.exec]
  | rollback => simp [Stmt.exec]
  | read l => cases htx : s.tx <;> simp [htx, Stmt.exec] at hmem
  | lock l rows => cases htx : s.tx <;> simp [htx, Stmt.exec] at hmem
  | begin => cases htx : s.tx <;> simp [htx, Stmt.exec] at hmem

theorem session_next (hn : c.next ev = some c') (hs : c.sessions[i]? = some s) :
    ∃ s', c'.sessions[i]? = some s' := by
  obtain ⟨j, u, u', -, hset, -⟩ := next_moves hn
  have hlt := (List.getElem?_eq_some_iff.mp hs).1
  rw [hset]
  exact ⟨_, List.getElem?_eq_getElem (by simpa using hlt)⟩

end Config

end ReadCommitted
