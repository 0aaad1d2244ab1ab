import Travelo.ReadCommitted.Alone
import Travelo.ReadCommitted.Schedule

/-!
# Reachable states

`Reached Start IsCall db`: from a state that satisfies `Start`, calls that satisfy `IsCall`
lead to `db`, in any number of rounds, each an interleaving of any number of calls. A call
that never takes a step may as well not be there, and one that is not finished is lost at
the end of its round, so this is every state that interleaved calls can leave.

`Config.run_growing` is the run rule when each write moves the state up in a preorder: a
session then knows that all it has seen is below the state its write lands on, and no
schedule has to be ruled out.
-/

namespace ReadCommitted

variable {σ κ Λ ε α : Type} [Faults ε] [DecidableEq κ]

/-- The states that calls can reach, see the module's introduction. -/
inductive Reached (Start : σ → Prop) (IsCall : Prog σ κ Λ ε α → Prop) : σ → Prop where
  | start {db} (h : Start db) : Reached Start IsCall db
  | round {db calls evs c} (h : Reached Start IsCall db) (hcalls : ∀ p ∈ calls, IsCall p)
      (hrun : (Config.start db calls).run evs = some c) : Reached Start IsCall c.db

namespace Config

theorem run_eval (p : Prog σ κ Λ ε α) : ∀ (t : Tx σ) (db : σ) held trace log,
    ∃ evs c, (⟨db, [⟨p, t, held, trace⟩], log⟩ : Config σ κ Λ ε α).run evs = some c ∧
      c.db = (p.eval t db).2.2 := by
  induction p with
  | ret a => exact fun t db held trace log => ⟨[], _, rfl, rfl⟩
  | throw e => exact fun t db held trace log => ⟨[], _, rfl, rfl⟩
  | exec st k ih =>
    intro t db held trace log
    obtain ⟨evs, c, hrun, hdb⟩ := ih (st.exec t db).reply (st.exec t db).tx (st.exec t db).db
      ((st.exec t db).tx.keep (st.needs (t.view db) ++ held)) ((st.exec t db).obs ++ trace)
      (((st.exec t db).obs.filterMap Obs.write?).map (fun w => (0, w)) ++ log)
    have hfree : (st.needs (t.view db)).any
        (locked (⟨db, [⟨.exec st k, t, held, trace⟩], log⟩ : Config σ κ Λ ε α) 0) = false := by
      simp [locked]
    have hnext : (⟨db, [⟨.exec st k, t, held, trace⟩], log⟩ : Config σ κ Λ ε α).next (.step 0) =
        some (after ⟨db, [⟨.exec st k, t, held, trace⟩], log⟩ 0
          ⟨.exec st k, t, held, trace⟩ st k) := by
      simp only [next, List.getElem?_cons_zero, hfree, Bool.false_eq_true, if_false]
    refine ⟨.step 0 :: evs, c, ?_, hdb⟩
    rw [run, hnext]
    exact hrun

variable {C : ℕ → List (Obs σ Λ) → (σ → σ) → Prop} {I : σ → Prop} {M : σ → σ → Prop} {db : σ}
  {calls : List (Prog σ κ Λ ε α)} {evs : List Event} {c : Config σ κ Λ ε α}

/-- The run rule for states that grow: if every write, after reads of states that satisfy `I`
and are below the state it lands on, keeps `I` and moves up, then so does every schedule. -/
theorem run_growing
    (hwp : ∀ (i : ℕ) p, calls[i]? = some p →
      p.wp (C i) (fun _ _ _ => True) (fun _ _ _ => True) [] .idle)
    (hrefl : ∀ s, M s s) (htrans : ∀ s s' s'', M s s' → M s' s'' → M s s'')
    (hC : ∀ i h w now, C i h w → (∀ l b, .saw l b ∈ h → I b ∧ M b now) → I now →
      I (w now) ∧ M now (w now))
    (hI : I db) (hrun : (start db calls).run evs = some c) : I c.db := by
  have hinv : ∀ evs (c₀ : Config σ κ Λ ε α), Sound C c₀ → Seen I c₀ → Seen (fun b => M b c₀.db) c₀ →
      I c₀.db → c₀.run evs = some c → I c.db := by
    intro evs
    induction evs with
    | nil =>
      intro c₀ _ _ _ hI hrun
      cases hrun
      exact hI
    | cons ev evs ih =>
      intro c₀ hs hseen hbelow hI hrun
      cases hn : c₀.next ev with
      | none => simp [run, hn] at hrun
      | some c₁ =>
        simp only [run, hn, Option.bind_some] at hrun
        have hstep : I c₁.db ∧ M c₀.db c₁.db := by
          obtain ⟨i, s, s', hsi, -, ⟨-, hdb, -⟩ | ⟨w, -, ⟨st, k, hp, hmem⟩, -, hdb, -⟩⟩ :=
            next_moves hn
          · rw [hdb]
            exact ⟨hI, hrefl c₀.db⟩
          · obtain ⟨-, hw⟩ := hs i s hsi
            rw [hp] at hw
            rw [hdb]
            exact hC i s.trace w c₀.db ((hw.1 c₀.db).1 w hmem)
              (fun l b hb => ⟨hseen i s hsi l b hb, hbelow i s hsi l b hb⟩) hI
        have hbelow' : Seen (fun b => M b c₁.db) c₁ := fun i s hs l b hb =>
          htrans _ _ _ (hbelow.next (hrefl c₀.db) hn i s hs l b hb) hstep.2
        exact ih c₁ (hs.next hn) (hseen.next hI hn) hbelow' hstep.1 hrun
  exact hinv evs (start db calls) (sound_start hwp) seen_start seen_start hI hrun

end Config

namespace Reached

variable {Start : σ → Prop} {IsCall : Prog σ κ Λ ε α → Prop} {I : σ → Prop} {db : σ}

theorem invariant (hstart : ∀ db, Start db → I db)
    (hround : ∀ db calls evs (c : Config σ κ Λ ε α), I db → (∀ p ∈ calls, IsCall p) →
      (Config.start db calls).run evs = some c → I c.db)
    (h : Reached Start IsCall db) : I db := by
  induction h with
  | start h => exact hstart _ h
  | round _ hcalls hrun ih => exact hround _ _ _ _ ih hcalls hrun

theorem alone (h : Reached Start IsCall db) {p : Prog σ κ Λ ε α} (hp : IsCall p) :
    Reached Start IsCall (p.eval .idle db).2.2 := by
  obtain ⟨evs, c, hrun, hdb⟩ := Config.run_eval p .idle db [] [] []
  have hstart : (Config.start db [p]).run evs = some c := hrun
  rw [← hdb]
  refine Reached.round h ?_ hstart
  simpa using hp

end Reached

end ReadCommitted
