/-!
# Two runs that differ in secret events

A machine with a total step, some of whose events are secret. If a secret event leaves alone what
is observed, and an open event takes observed-alike states to observed-alike states, then two runs
with the same open events end observed alike (`foldl_alike`). The first condition may need a guard
on the events where they happen.
-/

namespace Claims

section Unwinding

variable {σ ε β : Type} (step : σ → ε → σ)

/-- Every event of the run meets `G` in the state where it happens. -/
def AllAlong (G : σ → ε → Prop) : σ → List ε → Prop
  | _, [] => True
  | s, e :: es => G s e ∧ AllAlong G (step s e) es

instance decidableAllAlong (G : σ → ε → Prop) [∀ s e, Decidable (G s e)] :
    ∀ (s : σ) (es : List ε), Decidable (AllAlong step G s es)
  | _, [] => .isTrue trivial
  | s, e :: es =>
    have : Decidable (AllAlong step G (step s e) es) := decidableAllAlong G (step s e) es
    inferInstanceAs (Decidable (_ ∧ _))

variable {step} {G : σ → ε → Prop} {I : σ → Prop} {s s' : σ} {es es' : List ε}

theorem foldl_invariant (hstep : ∀ (s : σ) (e : ε), I s → G s e → I (step s e)) (hs : I s)
    (hguard : AllAlong step G s es) : I (es.foldl step s) := by
  induction es generalizing s with
  | nil => exact hs
  | cons e es ih =>
    rw [List.foldl_cons]
    exact ih (hstep s e hs hguard.1) hguard.2

variable {isSecret : ε → Bool} {view : σ → β}

/-- A run is observed as its open events alone are, from any state observed as its own. -/
theorem foldl_alike_open
    (hsecret : ∀ (s : σ) (e : ε), isSecret e = true → G s e → view (step s e) = view s)
    (hopen : ∀ (s s' : σ) (e : ε), isSecret e = false → view s = view s' →
      view (step s e) = view (step s' e))
    (hview : view s = view s') (hguard : AllAlong step G s es) :
    view (es.foldl step s) = view ((es.filter fun e => !isSecret e).foldl step s') := by
  induction es generalizing s s' with
  | nil => exact hview
  | cons e es ih =>
    rcases hguard with ⟨hhead, htail⟩
    rw [List.foldl_cons]
    cases he : isSecret e with
    | true =>
      have hsame : view (step s e) = view s' := (hsecret s e he hhead).trans hview
      rw [List.filter_cons_of_neg (by simp [he])]
      exact ih hsame htail
    | false =>
      have hsame : view (step s e) = view (step s' e) := hopen s s' e he hview
      rw [List.filter_cons_of_pos (by simp [he]), List.foldl_cons]
      exact ih hsame htail

theorem foldl_alike
    (hsecret : ∀ (s : σ) (e : ε), isSecret e = true → G s e → view (step s e) = view s)
    (hopen : ∀ (s s' : σ) (e : ε), isSecret e = false → view s = view s' →
      view (step s e) = view (step s' e))
    (hsame : (es.filter fun e => !isSecret e) = es'.filter fun e => !isSecret e)
    (hguard : AllAlong step G s es) (hguard' : AllAlong step G s es') :
    view (es.foldl step s) = view (es'.foldl step s) := by
  have hleft := foldl_alike_open hsecret hopen (rfl : view s = view s) hguard
  have hright := foldl_alike_open hsecret hopen (rfl : view s = view s) hguard'
  rw [hleft, hright, hsame]

end Unwinding

end Claims
