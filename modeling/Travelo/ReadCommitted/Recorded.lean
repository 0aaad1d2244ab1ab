import Mathlib.Algebra.BigOperators.Group.List.Basic
import Mathlib.Algebra.Ring.Int.Defs
import Travelo.ReadCommitted.Relying
import Travelo.ReadCommitted.Staged

/-!
# Who changed what

The history of a schedule keeps each of its events with the states around it, so that what one
session did can be told from what happened meanwhile: `net` is by how much a session changed a
number. `Staging.run_recorded` is the run rule for an invariant that also speaks of the history.
-/

namespace ReadCommitted

variable {σ κ Λ ε α Φ : Type}

/-- What an event of a session did to the committed state. -/
structure Change (σ : Type) where
  session : ℕ
  before : σ
  after : σ

/-- By how much session `i` has changed a number. -/
def net (measure : σ → ℤ) (i : ℕ) (hist : List (Change σ)) : ℤ :=
  ((hist.filter fun d => d.session = i).map fun d => measure d.after - measure d.before).sum

section Net

variable {measure : σ → ℤ} {i j : ℕ} {hist : List (Change σ)} {s s' : σ}

@[simp] theorem net_nil : net measure i [] = 0 := rfl

theorem net_concat_self :
    net measure i (hist ++ [⟨i, s, s'⟩]) = net measure i hist + (measure s' - measure s) := by
  simp [net]

theorem net_concat_ne (hij : j ≠ i) :
    net measure i (hist ++ [⟨j, s, s'⟩]) = net measure i hist := by
  simp [net, hij]

theorem net_concat_same (h : measure s' = measure s) :
    net measure i (hist ++ [⟨j, s, s'⟩]) = net measure i hist := by
  by_cases hij : j = i
  · subst hij
    rw [net_concat_self, h, Int.sub_self, Int.add_zero]
  · exact net_concat_ne hij

end Net

variable [Faults ε]

/-- The changes of a schedule, oldest first. -/
def Config.history [DecidableEq κ] (c : Config σ κ Λ ε α) : List Event → List (Change σ)
  | [] => []
  | ev :: evs =>
    match c.next ev with
    | some c' => ⟨ev.session, c.db, c'.db⟩ :: c'.history evs
    | none => []

section Calls

variable [DecidableEq κ] {γ : Type} {prog : γ → Prog σ κ Λ ε α}
  {W : γ → List (Obs σ Λ) → (σ → σ) → Prop} {G : γ → (σ → σ) → List (Obs σ Λ) → σ → Prop}
  {I : σ → Prop} {R : σ → σ → Prop} {Q : γ → σ → σ → Prop} {db : σ} {calls : List γ}

/-- The rule for what each change is, and whose: as `calls_steps`, with a relation `Q` of the
states around the changes of each call. -/
theorem Config.calls_history
    (hwp : ∀ call, (prog call).wp (W call) (fun _ _ _ => True) (fun _ _ _ => True) [] .idle)
    (hrefl : ∀ s, R s s) (hsame : ∀ call s, Q call s s)
    (hW : ∀ call h w now, W call h w →
      (∀ l b, .saw l b ∈ h → I b ∧ Relation.ReflTransGen R b now) → G call w h now → I now →
      I (w now) ∧ R now (w now) ∧ Q call now (w now))
    (hI : I db) (evs : List Event)
    (hg : (start db (calls.map prog)).Throughout (GuardedCalls calls G) evs) :
    ∀ d ∈ (start db (calls.map prog)).history evs, I d.after ∧ R d.before d.after ∧
      ∀ call ∈ calls[d.session]?, Q call d.before d.after := by
  have hsteps : ∀ evs (c : Config σ κ Λ ε α),
      Sound (fun i h w => ∃ call, calls[i]? = some call ∧ W call h w) c →
      Seen (fun b => I b ∧ Relation.ReflTransGen R b c.db) c → I c.db →
      c.Throughout (GuardedCalls calls G) evs → ∀ d ∈ c.history evs,
        I d.after ∧ R d.before d.after ∧ ∀ call ∈ calls[d.session]?, Q call d.before d.after := by
    intro evs
    induction evs with
    | nil => exact fun _ _ _ _ _ _ hd => nomatch hd
    | cons ev evs ih =>
      intro c hs hseen hc hg d hd
      cases hn : c.next ev with
      | none => simp [history, hn] at hd
      | some c' =>
        have hstep : I c'.db ∧ R c.db c'.db ∧
            ∀ call ∈ calls[ev.session]?, Q call c.db c'.db := by
          obtain ⟨i, s, s', hsi, -, ⟨-, hdb, -⟩ | ⟨w, hev, hpub, -, hdb, -⟩⟩ := next_moves hn
          · rw [hdb]
            exact ⟨hc, hrefl c.db, fun call _ => hsame call c.db⟩
          · have hguard := hg.1 i s w hev hsi hpub
            obtain ⟨st, k, hp, hmem⟩ := hpub
            obtain ⟨-, hw⟩ := hs i s hsi
            rw [hp] at hw
            obtain ⟨call, hcall, hwrite⟩ := (hw.1 c.db).1 w hmem
            obtain ⟨hI', hR', hQ'⟩ :=
              hW call s.trace w c.db hwrite (hseen i s hsi) (hguard call hcall) hc
            rw [hdb, hev]
            refine ⟨hI', hR', fun other hother => ?_⟩
            obtain rfl : call = other := Option.some.inj (hcall.symm.trans hother)
            exact hQ'
        simp only [history, hn, List.mem_cons] at hd
        rcases hd with rfl | hd
        · exact hstep
        · -- what was seen led to the state before the step, and the step leads on
          have hseen' : Seen (fun b => I b ∧ Relation.ReflTransGen R b c'.db) c' := by
            intro j t ht l b hb
            obtain ⟨hIb, hled⟩ := hseen.next ⟨hc, .refl⟩ hn j t ht l b hb
            exact ⟨hIb, hled.tail hstep.2.1⟩
          exact ih c' (hs.next hn) hseen' hstep.1 (hg.2 c' hn) d hd
  refine hsteps evs _ (sound_start fun i p hp => ?_) seen_start hI hg
  rw [List.getElem?_map, Option.map_eq_some_iff] at hp
  obtain ⟨call, hcall, rfl⟩ := hp
  exact wp_mono (fun _ _ h => ⟨call, hcall, h⟩) (fun _ _ _ h => h) (fun _ _ _ h => h) _ _ _
    (hwp call)

end Calls

namespace Staging

variable {S : Staging σ κ Λ ε α Φ} {c c' : Config σ κ Λ ε α}

theorem Moves.session_eq {ev : Event} {i : ℕ} {φ φ' : Φ} {s s' : Session σ κ Λ ε α}
    (hmove : S.Moves c c' ev i φ φ' s s') : ev.session = i := by
  cases hmove <;> rfl

variable [DecidableEq κ]

theorem run_recorded {Q : Config σ κ Λ ε α → Event → Prop}
    (I : Config σ κ Λ ε α → List (Change σ) → List Φ → Prop)
    (hstep : ∀ (c c' : Config σ κ Λ ε α) hist φs ev i φ φ' s s', S.Tracks c φs → I c hist φs →
      Q c ev → φs[i]? = some φ → c.sessions[i]? = some s → c'.sessions = c.sessions.set i s' →
      S.Moves c c' ev i φ φ' s s' → I c' (hist ++ [⟨i, c.db, c'.db⟩]) (φs.set i φ'))
    {db : σ} {φs : List Φ} (hstart : I (.start db (φs.map S.prog)) [] φs) {evs : List Event}
    (hq : (Config.start db (φs.map S.prog)).Throughout Q evs)
    (hrun : (Config.start db (φs.map S.prog)).run evs = some c) :
    ∃ φs', S.Tracks c φs' ∧ I c ((Config.start db (φs.map S.prog)).history evs) φs' := by
  have hall : ∀ evs (c₀ : Config σ κ Λ ε α) hist φs, S.Tracks c₀ φs → I c₀ hist φs →
      c₀.Throughout Q evs → c₀.run evs = some c →
      ∃ φs', S.Tracks c φs' ∧ I c (hist ++ c₀.history evs) φs' := by
    intro evs
    induction evs with
    | nil =>
      intro c₀ hist φs ht hI _ hrun
      cases hrun
      exact ⟨φs, ht, by simpa [Config.history] using hI⟩
    | cons ev evs ih =>
      intro c₀ hist φs ht hI hq hrun
      cases hnext : c₀.next ev with
      | none => simp [Config.run, hnext] at hrun
      | some c₁ =>
        simp only [Config.run, hnext, Option.bind_some] at hrun
        rcases ht.next hnext with ⟨i, φ, φ', s, s', hφ, hs, hset, ht', hmove⟩
        have hI' := hstep c₀ c₁ hist φs ev i φ φ' s s' ht hI hq.1 hφ hs hset hmove
        rcases ih c₁ _ _ ht' hI' (hq.2 c₁ hnext) hrun with ⟨φs', hend, hinv⟩
        refine ⟨φs', hend, ?_⟩
        rw [List.append_assoc, List.singleton_append] at hinv
        simpa only [Config.history, hnext, hmove.session_eq] using hinv
  simpa using hall evs _ [] φs (tracks_start φs) hstart hq hrun

end Staging

end ReadCommitted
