import Travelo.ReadCommitted.Wp

/-!
# What a session leaves behind

`Justified C h`: every write in the history `h` met its obligation `C` when it was
published. `Trail s h s'`: with nobody else writing, the history `h` leads from `s` to
`s'`, and each of its reads saw the state of that moment.

`Prog.wp_runFrom` is the soundness of `wp` for a program running on its own;
`Trail.invariant` turns the obligations into an invariant of such runs.
-/

namespace ReadCommitted

variable {σ κ Λ ε α : Type} [Faults ε]

/-- Every write of the history met `C` at its moment. -/
def Justified (C : List (Obs σ Λ) → (σ → σ) → Prop) : List (Obs σ Λ) → Prop
  | [] => True
  | .saw _ _ :: h => Justified C h
  | .wrote w :: h => C h w ∧ Justified C h

/-- The history published nothing. -/
def Quiet : List (Obs σ Λ) → Prop
  | [] => True
  | .saw _ _ :: h => Quiet h
  | .wrote _ :: _ => False

/-- The history `h`, newest first, of a session that ran alone from `s`. -/
inductive Trail (s : σ) : List (Obs σ Λ) → σ → Prop where
  | start : Trail s [] s
  | saw {h db} (l : Λ) : Trail s h db → Trail s (.saw l db :: h) db
  | wrote {h db} (w : σ → σ) : Trail s h db → Trail s (.wrote w :: h) (w db)

section Histories

variable {C : List (Obs σ Λ) → (σ → σ) → Prop} {h : List (Obs σ Λ)} {s s' : σ}

@[simp] theorem justified_nil : Justified C ([] : List (Obs σ Λ)) := trivial

@[simp] theorem justified_saw {l : Λ} {db : σ} :
    Justified C (.saw l db :: h) ↔ Justified C h := Iff.rfl

@[simp] theorem justified_wrote {w : σ → σ} :
    Justified C (.wrote w :: h) ↔ C h w ∧ Justified C h := Iff.rfl

@[simp] theorem quiet_nil : Quiet ([] : List (Obs σ Λ)) := trivial

@[simp] theorem quiet_saw {l : Λ} {db : σ} : Quiet (.saw l db :: h) ↔ Quiet h := Iff.rfl

@[simp] theorem quiet_wrote {w : σ → σ} : ¬Quiet (.wrote w :: h : List (Obs σ Λ)) := fun hq => hq

/-- Before its first write a session alone has always seen the state it started on. -/
theorem Trail.quiet (ht : Trail s h s') (hq : Quiet h) :
    s' = s ∧ ∀ l db, .saw l db ∈ h → db = s := by
  induction ht with
  | start => exact ⟨rfl, fun l db hm => by cases hm⟩
  | @saw h db l _ ih =>
    obtain ⟨rfl, hall⟩ := ih hq
    refine ⟨rfl, fun l' db' hm => ?_⟩
    rcases List.mem_cons.mp hm with heq | hmem
    · cases heq
      rfl
    · exact hall l' db' hmem
  | wrote w _ _ => exact absurd hq quiet_wrote

theorem Trail.invariant {I : σ → Prop} (ht : Trail s h s') (hj : Justified C h)
    (hC : ∀ h w db, C h w → Trail s h db → Justified C h → I db → I (w db)) (hs : I s) :
    I s' := by
  induction ht with
  | start => exact hs
  | saw l _ ih => exact ih hj
  | wrote w ht ih => exact hC _ w _ hj.1 ht hj.2 (ih hj.2)

theorem Trail.saw_invariant {I : σ → Prop} (ht : Trail s h s') (hj : Justified C h)
    (hC : ∀ h w db, C h w → Trail s h db → Justified C h → I db → I (w db)) (hs : I s)
    {l : Λ} {b : σ} (hsaw : .saw l b ∈ h) : I b := by
  induction ht with
  | start => cases hsaw
  | saw l' ht ih =>
    rcases List.mem_cons.mp hsaw with heq | hmem
    · cases heq
      exact ht.invariant hj hC hs
    · exact ih hj hmem
  | wrote w ht ih =>
    rcases List.mem_cons.mp hsaw with heq | hmem
    · cases heq
    · exact ih hj.2 hmem

end Histories

namespace Prog

theorem runFrom_bind {β : Type} (p : Prog σ κ Λ ε β) (f : β → Prog σ κ Λ ε α) :
    ∀ (φ : ℕ → Option String) (t : Tx σ) (db : σ) (h : List (Obs σ Λ)),
      (∀ e, (p.runFrom φ t db h).res = .error e → ((p >>= f).runFrom φ t db h) =
        ⟨.error e, (p.runFrom φ t db h).db, (p.runFrom φ t db h).trace⟩) ∧
      ∀ b, (p.runFrom φ t db h).res = .ok b → ∃ φ' t', (p >>= f).runFrom φ t db h =
        (f b).runFrom φ' t' (p.runFrom φ t db h).db (p.runFrom φ t db h).trace := by
  induction p with
  | ret b =>
    intro φ t db h
    refine ⟨(fun e he => by cases he), fun b' hb => ?_⟩
    cases hb
    exact ⟨φ, t, rfl⟩
  | throw e =>
    intro φ t db h
    refine ⟨fun e' he => ?_, (fun b hb => by cases hb)⟩
    cases he
    rfl
  | exec c k ih =>
    intro φ t db h
    have hbind : (Prog.exec c k >>= f) = .exec c fun r => (k r >>= f) := rfl
    rw [hbind]
    simp only [runFrom]
    cases φ 0 with
    | some m => exact ih _ _ _ _ _
    | none => exact ih _ _ _ _ _

theorem runFrom_write_then (rows : σ → List κ) (f : σ → σ) (a : α) (φ : ℕ → Option String)
    (t : Tx σ) (db : σ) (h : List (Obs σ Λ)) :
    ((do
      write rows f fun _ => ()
      return a : Prog σ κ Λ ε α).runFrom φ t db h).db = db ∨
    ((do
      write rows f fun _ => ()
      return a : Prog σ κ Λ ε α).runFrom φ t db h).db = f db := by
  show (runFrom (.exec (.write rows fun db => .ok (f db)) _) φ t db h).db = db ∨
    (runFrom (.exec (.write rows fun db => .ok (f db)) _) φ t db h).db = f db
  rw [runFrom]
  cases φ 0 with
  | some m => exact .inl rfl
  | none =>
    cases t with
    | idle => exact .inr rfl
    | active w => exact .inl rfl
    | aborted => exact .inl rfl

variable {C : List (Obs σ Λ) → (σ → σ) → Prop} {P : α → List (Obs σ Λ) → Tx σ → Prop}
  {E : ε → List (Obs σ Λ) → Tx σ → Prop}

/-- A statement carried out alone extends the trail by what it observed, and `C` justifies
what it published. -/
theorem exec_trail {s db : σ} {h : List (Obs σ Λ)} (c : Stmt σ κ Λ ε) (t : Tx σ)
    (ht : Trail s h db) (hj : Justified C h)
    (hC : ∀ w, .wrote w ∈ (c.exec t db).obs → C h w) :
    Trail s ((c.exec t db).obs ++ h) (c.exec t db).db ∧
      Justified C ((c.exec t db).obs ++ h) := by
  cases c with
  | read l =>
    cases t with
    | aborted => exact ⟨ht, hj⟩
    | idle => exact ⟨ht.saw l, hj⟩
    | active w => exact ⟨ht.saw l, hj⟩
  | lock l rows =>
    cases t with
    | aborted => exact ⟨ht, hj⟩
    | idle => exact ⟨ht.saw l, hj⟩
    | active w => exact ⟨ht.saw l, hj⟩
  | write rows f =>
    cases t with
    | aborted => exact ⟨ht, hj⟩
    | idle =>
      cases hf : f db with
      | error e => simpa [Stmt.exec, hf] using ⟨ht, hj⟩
      | ok db' =>
        have hdb : applied f db = db' := by simp [applied, hf]
        simp only [Stmt.exec, hf, List.mem_singleton, Obs.wrote.injEq, forall_eq,
          List.singleton_append] at hC ⊢
        exact ⟨by simpa [hdb] using ht.wrote (applied f), hC, hj⟩
    | active w =>
      cases hf : f (w db) with
      | error e => simpa [Stmt.exec, hf] using ⟨ht, hj⟩
      | ok db' => simpa [Stmt.exec, hf] using ⟨ht, hj⟩
  | begin => cases t <;> exact ⟨ht, hj⟩
  | commit =>
    cases t with
    | idle => exact ⟨ht, hj⟩
    | aborted => exact ⟨ht, hj⟩
    | active w => exact ⟨ht.wrote w, hC w (by simp [Stmt.exec]), hj⟩
  | rollback => cases t <;> exact ⟨ht, hj⟩

/-- Soundness of `wp` for a program running on its own, whatever statements fail. -/
theorem wp_runFrom (p : Prog σ κ Λ ε α) {s : σ} :
    ∀ (φ : ℕ → Option String) (t : Tx σ) (db : σ) (h : List (Obs σ Λ)),
      p.wp C P E h t → Trail s h db → Justified C h →
      Trail s (p.runFrom φ t db h).trace (p.runFrom φ t db h).db ∧
        Justified C (p.runFrom φ t db h).trace ∧
        (∀ a, (p.runFrom φ t db h).res = .ok a → ∃ t', P a (p.runFrom φ t db h).trace t') ∧
        ∀ e, (p.runFrom φ t db h).res = .error e → ∃ t', E e (p.runFrom φ t db h).trace t' := by
  induction p with
  | ret a =>
    intro φ t db h hp ht hj
    refine ⟨ht, hj, fun a' ha => ?_, fun e he => by cases he⟩
    cases ha
    exact ⟨t, hp⟩
  | throw e =>
    intro φ t db h hp ht hj
    refine ⟨ht, hj, (fun a ha => by cases ha), fun e' he => ?_⟩
    cases he
    exact ⟨t, hp⟩
  | exec c k ih =>
    intro φ t db h hp ht hj
    simp only [runFrom]
    cases φ 0 with
    | some m => exact ih (.error (lost m)) _ _ db h (hp.2 m) ht hj
    | none =>
      obtain ⟨hC, hk⟩ := hp.1 db
      obtain ⟨ht', hj'⟩ := exec_trail c t ht hj hC
      exact ih _ _ _ _ _ hk ht' hj'

theorem wp_runWith {p : Prog σ κ Λ ε α} (hp : p.wp C P E [] .idle) (φ : ℕ → Option String) (s : σ) :
    Trail s (p.runWith φ s).trace (p.runWith φ s).db ∧ Justified C (p.runWith φ s).trace ∧
      (∀ a, (p.runWith φ s).res = .ok a → ∃ t, P a (p.runWith φ s).trace t) ∧
      ∀ e, (p.runWith φ s).res = .error e → ∃ t, E e (p.runWith φ s).trace t :=
  wp_runFrom p φ .idle s [] hp .start justified_nil

end Prog

export Prog (wp_runWith)

end ReadCommitted
