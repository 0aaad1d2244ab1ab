import Travelo.ReadCommitted.Guarded

/-!
# What the callers are told

`Prog.caught` is a program as its caller sees it: an error is an answer too. Sessions of such
programs keep their answer, whatever it is, so a statement about a schedule can speak of the
calls that were refused beside those that succeeded.

`Config.each_next` is the step rule for facts about the single sessions: a fact about what a
session has done and the committed state is kept when each read, each write of its own and each
write of another session keeps it.
-/

namespace ReadCommitted

variable {σ κ Λ ε α : Type} [Faults ε]

omit [Faults ε] in
theorem Justified.of_suffix {C : List (Obs σ Λ) → (σ → σ) → Prop} {h h' : List (Obs σ Λ)}
    (hj : Justified C h) (hh : h' <:+ h) : Justified C h' := by
  obtain ⟨o, rfl⟩ := hh
  induction o with
  | nil => exact hj
  | cons x o ih =>
    cases x with
    | saw l b => exact ih hj
    | wrote w => exact ih hj.2

namespace Prog

omit [Faults ε] in
/-- `try { … } catch (e) { … }` around the call: what it throws is an answer. -/
def caught (p : Prog σ κ Λ ε α) : Prog σ κ Λ ε (Except ε α) :=
  tryCatchThe ε (Except.ok <$> p) fun e => return .error e

variable {E : ε → List (Obs σ Λ) → Tx σ → Prop} {C : List (Obs σ Λ) → (σ → σ) → Prop}

@[simp] theorem wp_caught {p : Prog σ κ Λ ε α} {P : Except ε α → List (Obs σ Λ) → Tx σ → Prop}
    {h : List (Obs σ Λ)} {t : Tx σ} :
    p.caught.wp C P E h t ↔ p.wp C (fun a => P (.ok a)) (fun e => P (.error e)) h t := by
  simp [caught]

/-- From the history `h` the call can come to answer `a` with the history `h'`, whatever the other
sessions commit between its statements. -/
inductive Yields : Prog σ κ Λ ε α → List (Obs σ Λ) → Tx σ → α → List (Obs σ Λ) → Prop where
  | ret {a h t} : Yields (.ret a) h t a h
  | exec {c k h t a h'} (db : σ)
      (hk : Yields (k (c.exec t db).reply) ((c.exec t db).obs ++ h) (c.exec t db).tx a h') :
      Yields (.exec c k) h t a h'
  | fault {c k h t a h'} (m : String) (hk : Yields (k (.error (lost m))) h (c.fault t) a h') :
      Yields (.exec c k) h t a h'

theorem Yields.post {P : α → List (Obs σ Λ) → Tx σ → Prop} {p : Prog σ κ Λ ε α}
    {h h' : List (Obs σ Λ)} {t : Tx σ} {a : α} (hy : p.Yields h t a h') (hp : p.wp C P E h t) :
    ∃ t', P a h' t' := by
  induction hy with
  | ret => exact ⟨_, hp⟩
  | exec db _ ih => exact ih (hp.1 db).2
  | fault m _ ih => exact ih (hp.2 m)

theorem Yields.of_map {β : Type} {f : β → α} {a : α} (p : Prog σ κ Λ ε β) :
    ∀ {h h' : List (Obs σ Λ)} {t : Tx σ}, (f <$> p).Yields h t a h' → ∃ b, p.Yields h t b h' := by
  induction p with
  | ret b =>
    intro h h' t hy
    cases hy
    exact ⟨b, .ret⟩
  | throw e =>
    intro h h' t hy
    cases hy
  | exec c k ih =>
    intro h h' t hy
    have hmap : (f <$> Prog.exec c k) = .exec c fun r => f <$> k r := rfl
    rw [hmap] at hy
    cases hy with
    | exec db hk => exact (ih _ hk).imp fun b hb => .exec db hb
    | fault m hk => exact (ih _ hk).imp fun b hb => .fault m hb

theorem Yields.of_runFrom {a : α} (p : Prog σ κ Λ ε α) :
    ∀ (φ : ℕ → Option String) (t : Tx σ) (db : σ) (h : List (Obs σ Λ)),
      (p.runFrom φ t db h).res = .ok a → p.Yields h t a (p.runFrom φ t db h).trace := by
  induction p with
  | ret b =>
    intro φ t db h hres
    cases hres
    exact .ret
  | throw e =>
    intro φ t db h hres
    cases hres
  | exec c k ih =>
    intro φ t db h hres
    simp only [runFrom] at hres ⊢
    cases hφ : φ 0 with
    | some m =>
      rw [hφ] at hres
      exact .fault m (ih _ _ _ _ _ hres)
    | none =>
      rw [hφ] at hres
      exact .exec db (ih _ _ _ _ _ hres)

end Prog

export Prog (wp_caught)

omit [Faults ε] in
/-- What the call has answered. -/
def Session.answer (s : Session σ κ Λ ε α) : Option α :=
  match s.prog with
  | .ret a => some a
  | _ => none

namespace Config

variable {c c' : Config σ κ Λ ε α}

/-- What the call of session `i` has answered. -/
def answer (c : Config σ κ Λ ε α) (i : ℕ) : Option α := c.sessions[i]?.bind Session.answer

/-- The history of session `i` is one of which `q` holds. -/
def Shows (c : Config σ κ Λ ε α) (q : List (Obs σ Λ) → Bool) (i : ℕ) : Prop :=
  ∃ s, c.sessions[i]? = some s ∧ q s.trace = true

section Shows

variable {q : List (Obs σ Λ) → Bool} {i : ℕ} {s s' : Session σ κ Λ ε α}

omit [Faults ε] in
theorem shows_of_getElem? (hs : c.sessions[i]? = some s) : c.Shows q i ↔ q s.trace = true := by
  simp [Shows, hs]

omit [Faults ε] in
theorem shows_set (hs : c.sessions[i]? = some s) (hset : c'.sessions = c.sessions.set i s')
    (j : ℕ) : c'.Shows q j ↔ (j ≠ i ∧ c.Shows q j) ∨ (j = i ∧ q s'.trace = true) := by
  unfold Shows
  rw [hset]
  by_cases hj : j = i
  · subst hj
    rw [List.getElem?_set_self (List.getElem?_eq_some_iff.mp hs).1]
    simp
  · rw [List.getElem?_set_ne (Ne.symm hj)]
    simp [hj]

omit [Faults ε] in
theorem shows_same (hs : c.sessions[i]? = some s) (hset : c'.sessions = c.sessions.set i s')
    (hq : q s'.trace = q s.trace) (j : ℕ) : c'.Shows q j ↔ c.Shows q j := by
  rw [shows_set hs hset, hq]
  by_cases hj : j = i
  · subst hj
    simp [shows_of_getElem? hs]
  · simp [hj]

end Shows

variable {P : ℕ → α → List (Obs σ Λ) → Tx σ → Prop} {C : ℕ → List (Obs σ Λ) → (σ → σ) → Prop}

theorem Proving.answered (hp : Proving C P c) {i : ℕ} {a : α} (ha : c.answer i = some a) :
    ∃ s, c.sessions[i]? = some s ∧ P i a s.trace s.tx := by
  unfold answer at ha
  obtain ⟨s, hs, hans⟩ := Option.bind_eq_some_iff.mp ha
  obtain ⟨-, hwp⟩ := hp i s hs
  unfold Session.answer at hans
  cases hprog : s.prog with
  | ret a' =>
    rw [hprog] at hwp hans
    cases hans
    exact ⟨s, hs, hwp⟩
  | throw e => simp [hprog] at hans
  | exec st k => simp [hprog] at hans

theorem Proving.wrote (hp : Proving C P c) {i : ℕ} {s : Session σ κ Λ ε α}
    (hs : c.sessions[i]? = some s) {w : σ → σ} {h : List (Obs σ Λ)}
    (hh : .wrote w :: h <:+ s.trace) : C i h w :=
  ((hp i s hs).1.of_suffix hh).1

variable [DecidableEq κ]

theorem each_next {F : ℕ → σ → List (Obs σ Λ) → Prop}
    (hF : ∀ (i : ℕ) s, c.sessions[i]? = some s → F i c.db s.trace)
    (hsaw : ∀ i db h l, F i db h → F i db (.saw l db :: h))
    {ev : Event} (hn : c.next ev = some c')
    (hown : ∀ (i : ℕ) s w, ev = .step i → c.sessions[i]? = some s → s.Publishes c.db w →
      F i (w c.db) (.wrote w :: s.trace))
    (hother : ∀ (i j : ℕ) s w h, ev = .step i → c.sessions[i]? = some s → s.Publishes c.db w →
      j ≠ i → F j c.db h → F j (w c.db) h) :
    ∀ (i : ℕ) s, c'.sessions[i]? = some s → F i c'.db s.trace := by
  obtain ⟨i, s, s', hs, hset, ⟨hdb, htrace⟩ | ⟨w, hev, hpub, htrace, hdb⟩⟩ := next_trace hn
  · rw [hdb, hset]
    refine forall_sessions_set (Q := fun j t => F j c.db t.trace) hF ?_
    rcases htrace with htrace | ⟨l, htrace⟩
    · rw [htrace]
      exact hF i s hs
    · rw [htrace]
      exact hsaw i c.db s.trace l (hF i s hs)
  · rw [hdb, hset]
    intro j t ht
    by_cases hj : j = i
    · subst hj
      rw [List.getElem?_set_self (List.getElem?_eq_some_iff.mp hs).1] at ht
      cases ht
      rw [htrace]
      exact hown j s w hev hs hpub
    · rw [List.getElem?_set_ne (Ne.symm hj)] at ht
      exact hother i j s w t.trace hev hs hpub hj (hF j t ht)

end Config

end ReadCommitted
