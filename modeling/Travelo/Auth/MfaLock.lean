import Travelo.Auth.MfaAttempts

/-!
# The lock of the second factor

A challenge looks at the lock, reads the account, compares the code and counts the failure, each
after an await of its own. Challenges that have passed the lock together are all compared, however
few attempts were left; and switching the factor off compares codes as well, and neither looks at
the lock nor counts. `second_factor_guessed` has both.

`second_factor_locked`: as long as a wrong code is compared only by a challenge, while the failures
that are counted and those that are about to be leave room for it, and none is under way when the
lock is set, a window of `MFA_LOCK_SECONDS` without a success sees at most `MFA_MAX_ATTEMPTS` wrong
codes, and the lock is one.
-/

namespace Travelo

open ReadCommitted

/-! ## What has been compared -/

section Histories

variable {cfg : MfaConfig} {p : Presented}

theorem comparisons_wrote {w : MfaWorld → MfaWorld} {h : MfaTrace} :
    p.comparisons cfg (.wrote w :: h) = p.comparisons cfg h := rfl

theorem guessed_wrote {w : MfaWorld → MfaWorld} {h : MfaTrace} :
    p.guessed cfg (.wrote w :: h) = p.guessed cfg h := rfl

theorem comparisons_saw {l : MfaLook} {db : MfaWorld} {h : MfaTrace} :
    p.comparisons cfg (.saw l db :: h) =
      p.comparisons cfg h + if p.comparison cfg (l, db) = true then 1 else 0 := by
  simp [Presented.comparisons, reads, List.countP_cons]

end Histories

/-- Between `c` and `c'` call `i` has compared a wrong code, and it is not under way any more. -/
def settledSince (cfg : MfaConfig) (calls : List MfaCall) (surface : Surface) (id : Id)
    (c c' : MfaRun) (i : ℕ) : Bool :=
  guessedSince cfg calls surface id c c' i && !underWay cfg calls surface id c' i

section Since

variable {cfg : MfaConfig} {calls : List MfaCall} {surface : Surface} {id : Id}
  {c d d' : MfaRun} {i : ℕ} {s s' : MfaSession} {call : MfaCall} {p : Presented}

theorem guessedSince_ne (hset : d'.sessions = d.sessions.set i s') {j : ℕ} (hj : j ≠ i) :
    guessedSince cfg calls surface id c d' j = guessedSince cfg calls surface id c d j := by
  unfold guessedSince
  rw [offering_ne hset hj, comparedBy_ne hset hj]

theorem settledSince_ne (hset : d'.sessions = d.sessions.set i s') {j : ℕ} (hj : j ≠ i) :
    settledSince cfg calls surface id c d' j = settledSince cfg calls surface id c d j := by
  unfold settledSince
  rw [guessedSince_ne hset hj, underWay_ne hset hj]

theorem guessedSince_apart (hnone : calls[i]?.bind (MfaCall.offers cfg surface id) = none) :
    guessedSince cfg calls surface id c d i = false := by
  simp [guessedSince, offering, hnone]

theorem guessedSince_honest (hcall : calls[i]? = some call)
    (hp : call.offers cfg surface id = some p) (hs : d.sessions[i]? = some s)
    (hno : p.guessed cfg s.trace = false) : guessedSince cfg calls surface id c d i = false := by
  simp [guessedSince, offering_eq hcall hp hs, hno]

theorem guessedSince_same (hs : d.sessions[i]? = some s) (hs' : d'.sessions[i]? = some s')
    (hreads : ∀ p : Presented, p.guessed cfg s'.trace = p.guessed cfg s.trace ∧
      p.comparisons cfg s'.trace = p.comparisons cfg s.trace) :
    guessedSince cfg calls surface id c d' i = guessedSince cfg calls surface id c d i := by
  unfold guessedSince offering comparedBy
  rw [hs, hs']
  cases calls[i]?.bind (MfaCall.offers cfg surface id) with
  | none => rfl
  | some p => simp [(hreads p).1, (hreads p).2]

end Since

/-! ## What holds throughout -/

section Kept

variable (cfg : MfaConfig) (calls : List MfaCall) (surface : Surface) (id : Id)

/-- What holds of the account while the calls are interleaved. -/
structure LockKept (d : MfaRun) : Prop where
  watching : MfaWatching cfg calls d
  /-- An entry that locks counts nothing. -/
  entry : (entryOf surface id d.db).lockedUntil ≠ 0 → (entryOf surface id d.db).count = 0
  /-- A challenge that is under way has passed the lock, and none was set since. -/
  free : ∀ i, underWay cfg calls surface id d i = true → (entryOf surface id d.db).lockedUntil = 0
  /-- A switching off presents no wrong code. -/
  honest : ∀ (i : ℕ) (call : MfaCall) (p : Presented) (s : MfaSession), calls[i]? = some call →
    call.isChallenge = false → call.offers cfg surface id = some p → d.sessions[i]? = some s →
      p.guessed cfg s.trace = false

/-- What holds of a window that begins at `c`. -/
structure WindowKept (c d : MfaRun) : Prop where
  kept : LockKept cfg calls surface id d
  now : c.db.now ≤ d.db.now
  answers : ∀ i, challenges cfg calls surface id i = true → c.answer i = some (.ok ()) →
    d.answer i = some (.ok ())
  /-- Until the lock is set, whatever was compared and is over was counted. -/
  bounded : d.db.now < c.db.now + cfg.MFA_LOCK_SECONDS * 1000 → NoSuccess cfg calls surface id c d →
    guessesSince cfg calls surface id c d ≤ cfg.MFA_MAX_ATTEMPTS ∧
      ((entryOf surface id d.db).lockedUntil < c.db.now + cfg.MFA_LOCK_SECONDS * 1000 →
        (List.range calls.length).countP (settledSince cfg calls surface id c d) ≤
          (entryOf surface id d.db).count)
  locked : d.db.now < (entryOf surface id c.db).lockedUntil →
    entryOf surface id d.db = entryOf surface id c.db ∧
      ∀ i, comparedBy cfg calls surface id d i = comparedBy cfg calls surface id c i

end Kept

section Runs

variable {cfg : MfaConfig} {calls : List MfaCall} {surface : Surface} {id : Id}
  {c d d' : MfaRun} {ev : Event} {i : ℕ} {s s' : MfaSession}

theorem isChallenge_of_underWay {call : MfaCall} (hcall : calls[i]? = some call)
    (hunder : underWay cfg calls surface id d i = true) : call.isChallenge = true := by
  simp only [underWay, hcall, Option.any_some, Bool.and_eq_true] at hunder
  exact hunder.1

theorem lt_of_underWay (hunder : underWay cfg calls surface id d i = true) : i < calls.length := by
  by_contra hge
  simp [underWay, List.getElem?_eq_none (not_lt.mp hge)] at hunder

theorem underWay_apart (hnone : calls[i]?.bind (MfaCall.offers cfg surface id) = none) :
    underWay cfg calls surface id d i = false := by
  simp [underWay, offering, hnone]

theorem LockKept.next (hk : LockKept cfg calls surface id d)
    (hg : AttemptsCovered cfg calls surface id d ev) (hn : d.next ev = some d') :
    LockKept cfg calls surface id d' := by
  rcases hk.watching.lockStep hg hn with ⟨-, i, s, s', hs, hset, hstep⟩
  have hs' : d'.sessions[i]? = some s' := by
    rw [hset, List.getElem?_set_self (List.getElem?_eq_some_iff.mp hs).1]
  -- the others are under way as they were
  have hfree : (underWay cfg calls surface id d' i = true →
      (entryOf surface id d'.db).lockedUntil = 0) →
      (∀ j, j ≠ i → underWay cfg calls surface id d j = true →
        (entryOf surface id d'.db).lockedUntil = 0) →
      ∀ j, underWay cfg calls surface id d' j = true →
        (entryOf surface id d'.db).lockedUntil = 0 := by
    intro hself hothers j hj
    by_cases hji : j = i
    · exact hself (hji ▸ hj)
    · exact hothers j hji (by rwa [underWay_ne hset hji] at hj)
  have hhonest : (∀ (call : MfaCall) (p : Presented), calls[i]? = some call →
      call.isChallenge = false → call.offers cfg surface id = some p →
        p.guessed cfg s'.trace = false) →
      ∀ (j : ℕ) (call : MfaCall) (p : Presented) (t : MfaSession), calls[j]? = some call →
        call.isChallenge = false →
        call.offers cfg surface id = some p → d'.sessions[j]? = some t →
          p.guessed cfg t.trace = false := by
    intro hself j call p t hcall hno hp ht
    by_cases hji : j = i
    · subst hji
      obtain rfl := Option.some.inj (hs'.symm.trans ht)
      exact hself call p hcall hno hp
    · rw [hset, List.getElem?_set_ne (Ne.symm hji)] at ht
      exact hk.honest j call p t hcall hno hp ht
  refine ⟨hk.watching.next hn, ?_, ?_, ?_⟩
  · cases hstep with
    | apart _ hentry =>
      rw [hentry]
      exact hk.entry
    | quiet hdb =>
      rw [hdb]
      exact hk.entry
    | look _ _ hdb =>
      rw [hdb]
      exact hk.entry
    | pass _ _ _ hentry =>
      rw [hentry]
      split
      · exact hk.entry
      · exact fun h => absurd rfl h
    | spend _ _ _ hentry =>
      rw [hentry]
      exact hk.entry
    | count _ hbefore _ hentry =>
      have hzero := hk.free i hbefore
      rw [hentry]
      unfold failedOnce
      split
      · exact fun _ => rfl
      · exact fun h => absurd hzero h
    | succeed _ _ _ _ _ hentry =>
      rw [hentry]
      exact fun h => absurd rfl h
  · cases hstep with
    | apart hnone hentry =>
      rw [hentry] at hfree ⊢
      exact hfree (fun h => by simp [underWay_apart hnone] at h) fun j _ => hk.free j
    | quiet hdb _ _ hafter =>
      rw [hdb] at hfree ⊢
      exact hfree (fun h => by simp [hafter] at h) fun j _ => hk.free j
    | look hcall _ hdb _ hbefore =>
      rw [hdb] at hfree ⊢
      exact hfree (fun h => hk.free i (hbefore (isChallenge_of_underWay hcall h)))
        fun j _ => hk.free j
    | pass _ _ _ hentry =>
      have hzero : (entryOf surface id d'.db).lockedUntil = 0 := by
        rw [hentry]
        split
        · assumption
        · rfl
      exact hfree (fun _ => hzero) fun _ _ _ => hzero
    | spend hcall _ _ hentry hbefore =>
      rw [hentry] at hfree ⊢
      exact hfree (fun h => hk.free i (hbefore (isChallenge_of_underWay hcall h)))
        fun j _ => hk.free j
    | count _ hbefore hafter _ hset' =>
      have hzero := hk.free i hbefore
      refine hfree (fun h => by simp [hafter] at h) fun j hji hj => ?_
      by_contra hraised
      -- the lock was set while `j` was under way
      have hnone := hset' (by omega)
      unfold others at hnone
      rw [List.countP_eq_zero] at hnone
      refine hnone j ?_ hj
      simp [hji, lt_of_underWay hj]
    | succeed _ _ _ _ _ hentry =>
      have hzero : (entryOf surface id d'.db).lockedUntil = 0 := by rw [hentry]
      exact hfree (fun _ => hzero) fun _ _ _ => hzero
  · refine hhonest fun call p hcall hno hp => ?_
    have hold := hk.honest i call p s hcall hno hp hs
    cases hstep with
    | apart hnone => simp [hcall, hp] at hnone
    | quiet _ htrace => rwa [htrace]
    | look hcall' hp' _ htrace _ _ hmay =>
      obtain rfl := Option.some.inj (hcall'.symm.trans hcall)
      obtain rfl := Option.some.inj (hp'.symm.trans hp)
      unfold MayCompare at hmay
      rw [if_neg (by simp [hno])] at hmay
      rw [htrace]
      exact hmay.1
    | pass _ htrace =>
      rw [htrace]
      rfl
    | spend _ _ htrace => rwa [htrace, guessed_wrote]
    | count htrace => rwa [htrace, guessed_wrote]
    | succeed hcall' hchallenge =>
      obtain rfl := Option.some.inj (hcall'.symm.trans hcall)
      simp [hno] at hchallenge

theorem challenges_of_underWay (hunder : underWay cfg calls surface id d i = true) :
    challenges cfg calls surface id i = true := by
  cases hcall : calls[i]? with
  | none => simp [underWay, hcall] at hunder
  | some call =>
    cases hp : call.offers cfg surface id with
    | none => simp [underWay, offering, hcall, hp] at hunder
    | some p => simp [challenges, hcall, hp, isChallenge_of_underWay hcall hunder]

theorem not_answered (hs : d.sessions[i]? = some s)
    (hunder : underWay cfg calls surface id d i = true) {a : MfaAnswer} : d.answer i ≠ some a := by
  intro ha
  have hrunning : s.running = true := by
    simp only [underWay, offering, hs, Bool.and_eq_true, Option.any_eq_true, Option.any_some]
      at hunder
    rcases hunder with ⟨-, p, -, hrunning, -⟩
    exact hrunning
  unfold Config.answer at ha
  rw [hs, Option.bind_some] at ha
  unfold Session.answer at ha
  unfold Session.running at hrunning
  cases hprog : s.prog with
  | ret b => simp [hprog, Prog.running] at hrunning
  | throw e => simp [hprog] at ha
  | exec st k => simp [hprog] at ha

/-- A wrong code meets the account only where the failures counted leave room for it. -/
theorem WindowKept.bounded_next (hk : WindowKept cfg calls surface id c d)
    (hs : d.sessions[i]? = some s) (hset : d'.sessions = d.sessions.set i s')
    (hstep : LockStep cfg calls surface id d d' i s s') (hnow : d.db.now ≤ d'.db.now)
    (hstays : ∀ j, challenges cfg calls surface id j = true → ∀ a : MfaAnswer,
      d.answer j = some a → d'.answer j = some a)
    (hwindow : d'.db.now < c.db.now + cfg.MFA_LOCK_SECONDS * 1000)
    (hno : NoSuccess cfg calls surface id c d') :
    guessesSince cfg calls surface id c d' ≤ cfg.MFA_MAX_ATTEMPTS ∧
      ((entryOf surface id d'.db).lockedUntil < c.db.now + cfg.MFA_LOCK_SECONDS * 1000 →
        (List.range calls.length).countP (settledSince cfg calls surface id c d') ≤
          (entryOf surface id d'.db).count) := by
  have hs' : d'.sessions[i]? = some s' := by
    rw [hset, List.getElem?_set_self (List.getElem?_eq_some_iff.mp hs).1]
  have hold : NoSuccess cfg calls surface id c d := by
    intro j call p hcall hchallenge hp hanswer
    refine hno j call p hcall hchallenge hp (hstays j ?_ _ hanswer)
    simp [challenges, hcall, hchallenge, hp]
  rcases hk.bounded (by omega) hold with ⟨hguesses, hsettled⟩
  -- a session that adds nothing to a tally
  have hkeep : guessedSince cfg calls surface id c d' i = false →
      guessesSince cfg calls surface id c d' ≤ guessesSince cfg calls surface id c d ∧
      (List.range calls.length).countP (settledSince cfg calls surface id c d') ≤
        (List.range calls.length).countP (settledSince cfg calls surface id c d) := by
    intro hnone
    constructor
    · exact countP_le_of_others hnone fun j hj => guessedSince_ne hset hj
    · exact countP_le_of_others (by simp [settledSince, hnone]) fun j hj => settledSince_ne hset hj
  have hsame : guessedSince cfg calls surface id c d' i = guessedSince cfg calls surface id c d i →
      guessesSince cfg calls surface id c d' = guessesSince cfg calls surface id c d := by
    intro heq
    have hall : guessedSince cfg calls surface id c d' = guessedSince cfg calls surface id c d := by
      funext j
      by_cases hj : j = i
      · rw [hj, heq]
      · exact guessedSince_ne hset hj
    unfold guessesSince
    rw [hall]
  have hless : (settledSince cfg calls surface id c d' i = true →
      settledSince cfg calls surface id c d i = true) →
      (List.range calls.length).countP (settledSince cfg calls surface id c d') ≤
        (List.range calls.length).countP (settledSince cfg calls surface id c d) := by
    intro hself
    refine List.countP_mono_left fun j _ hj => ?_
    by_cases hji : j = i
    · subst hji
      exact hself hj
    · rwa [settledSince_ne hset hji] at hj
  cases hstep with
  | apart hnone hentry =>
    have htally := hkeep (guessedSince_apart hnone)
    rw [hentry]
    exact ⟨htally.1.trans hguesses, fun h => htally.2.trans (hsettled h)⟩
  | quiet hdb htrace hbefore hafter =>
    have hguessed : guessedSince cfg calls surface id c d' i =
        guessedSince cfg calls surface id c d i :=
      guessedSince_same hs hs' fun p => by simp [htrace]
    rw [hsame hguessed, hdb]
    refine ⟨hguesses, fun h => (hless fun hj => ?_).trans (hsettled h)⟩
    unfold settledSince at hj ⊢
    rwa [hguessed, hafter, ← hbefore] at hj
  | @look call p l hcall hp hdb htrace hbefore hafter hmay =>
    rw [hdb] at hwindow ⊢
    cases hguessed : p.guessed cfg s'.trace with
    | false =>
      have htally := hkeep (guessedSince_honest hcall hp hs' hguessed)
      exact ⟨htally.1.trans hguesses, fun h => htally.2.trans (hsettled h)⟩
    | true =>
      unfold MayCompare at hmay
      split_ifs at hmay with hchallenge
      · -- the failures counted and the codes not counted yet leave room for this one
        have hroom := hmay (by rw [← htrace]; exact hguessed)
        have hfree := hk.kept.free i (hbefore hchallenge)
        have hcounted := hsettled (by omega)
        have hothers : others calls.length i (guessedSince cfg calls surface id c d) ≤
            others calls.length i (settledSince cfg calls surface id c d) +
              others calls.length i (uncounted cfg calls surface id d) := by
          refine others_le_add fun j hj => ?_
          cases hunder : underWay cfg calls surface id d j with
          | false => exact .inl (by simp [settledSince, hj, hunder])
          | true =>
            simp only [guessedSince, Bool.and_eq_true] at hj
            exact .inr (by simp [uncounted, hunder, hj.1])
        have hle := others_le_countP calls.length i (settledSince cfg calls surface id c d)
        have hmore :=
          countP_le_others_succ calls.length i (guessedSince cfg calls surface id c d')
        have hsame' : others calls.length i (guessedSince cfg calls surface id c d') =
            others calls.length i (guessedSince cfg calls surface id c d) :=
          others_congr fun j hj => guessedSince_ne hset hj
        constructor
        · unfold guessesSince
          omega
        · intro _
          refine (hless fun hj => ?_).trans hcounted
          simp [settledSince, hafter hchallenge hguessed] at hj
      · rw [htrace, hmay.1] at hguessed
        cases hguessed
  | pass hempty htrace hfree hentry =>
    have hnone : guessedSince cfg calls surface id c d' i = false := by
      rw [guessedSince_same hs hs' fun p => by rw [htrace, hempty]; exact ⟨rfl, rfl⟩]
      unfold guessedSince offering
      rw [hs]
      cases calls[i]?.bind (MfaCall.offers cfg surface id) with
      | none => rfl
      | some p => simp [hempty, Presented.guessed, Presented.wrong, Presented.seen, reads]
    have htally := hkeep hnone
    refine ⟨htally.1.trans hguesses, fun _ => ?_⟩
    rw [hentry]
    have hcounted := hsettled (by omega)
    split
    · exact htally.2.trans hcounted
    · -- an entry that locked counted nothing, and so nothing was compared
      rename_i hlocked
      have hzero := hk.kept.entry hlocked
      have hnil := htally.2.trans (hzero ▸ hcounted)
      exact hnil
  | @spend call w hcall hp htrace hentry hbefore hafter =>
    have hguessed : guessedSince cfg calls surface id c d' i =
        guessedSince cfg calls surface id c d i :=
      guessedSince_same hs hs' fun p => by rw [htrace, guessed_wrote, comparisons_wrote]; simp
    rw [hsame hguessed, hentry]
    refine ⟨hguesses, fun h => (hless fun hj => ?_).trans (hsettled h)⟩
    cases hchallenge : call.isChallenge with
    | true => simp [settledSince, hafter hchallenge] at hj
    | false =>
      rcases Option.isSome_iff_exists.mp hp with ⟨p, hp⟩
      have hhonest := hk.kept.honest i call p s hcall hchallenge hp hs
      simp [settledSince, hguessed, guessedSince_honest hcall hp hs hhonest] at hj
  | count htrace hbefore hafter hentry _ =>
    have hguessed : guessedSince cfg calls surface id c d' i =
        guessedSince cfg calls surface id c d i :=
      guessedSince_same hs hs' fun p => by rw [htrace, guessed_wrote, comparisons_wrote]; simp
    rw [hsame hguessed, hentry]
    refine ⟨hguesses, fun h => ?_⟩
    have hzero := hk.kept.free i hbefore
    have hcounted := hsettled (by omega)
    unfold failedOnce at h ⊢
    split_ifs at h ⊢ with hmax
    · -- the lock that is set now lasts longer than the window
      simp only at h
      have hstart := hk.now
      omega
    · have hsucc : (List.range calls.length).countP (settledSince cfg calls surface id c d') ≤
          (List.range calls.length).countP (settledSince cfg calls surface id c d) + 1 := by
        refine countP_le_succ (i := i) (fun j hj => ?_) calls.length
        by_cases hji : j = i
        · exact .inr hji
        · rw [settledSince_ne hset hji] at hj
          exact .inl hj
      simp only
      omega
  | succeed hcall hchallenge hp hbefore hanswer hentry =>
    have hanswered := hno i _ _ hcall hchallenge hp hanswer
    have hc := hk.answers i (challenges_of_underWay hbefore) hanswered
    exact absurd hc (not_answered hs hbefore)

theorem WindowKept.locked_next (hk : WindowKept cfg calls surface id c d)
    (hs : d.sessions[i]? = some s) (hset : d'.sessions = d.sessions.set i s')
    (hstep : LockStep cfg calls surface id d d' i s s') (hnow : d.db.now ≤ d'.db.now)
    (hlocked : d'.db.now < (entryOf surface id c.db).lockedUntil) :
    entryOf surface id d'.db = entryOf surface id c.db ∧
      ∀ j, comparedBy cfg calls surface id d' j = comparedBy cfg calls surface id c j := by
  have hs' : d'.sessions[i]? = some s' := by
    rw [hset, List.getElem?_set_self (List.getElem?_eq_some_iff.mp hs).1]
  rcases hk.locked (by omega) with ⟨hsame, hcompared⟩
  have hidle : ∀ j, underWay cfg calls surface id d j = true → False := by
    intro j hj
    have hzero := hk.kept.free j hj
    rw [hsame] at hzero
    omega
  have hall : comparedBy cfg calls surface id d' i = comparedBy cfg calls surface id d i →
      ∀ j, comparedBy cfg calls surface id d' j = comparedBy cfg calls surface id c j := by
    intro hself j
    by_cases hji : j = i
    · rw [hji, hself, hcompared]
    · rw [comparedBy_ne hset hji, hcompared]
  have hreads : (∀ p : Presented, p.comparisons cfg s'.trace = p.comparisons cfg s.trace) →
      comparedBy cfg calls surface id d' i = comparedBy cfg calls surface id d i := by
    intro heq
    unfold comparedBy
    rw [hs, hs']
    cases calls[i]?.bind (MfaCall.offers cfg surface id) with
    | none => rfl
    | some p => simp [heq]
  cases hstep with
  | apart hnone hentry =>
    refine ⟨hentry.trans hsame, hall ?_⟩
    simp [comparedBy, hnone]
  | quiet hdb htrace => exact ⟨by rw [hdb, hsame], hall (hreads fun p => by rw [htrace])⟩
  | @look call p l hcall hp hdb htrace hbefore _ hmay =>
    refine ⟨by rw [hdb, hsame], hall ?_⟩
    unfold MayCompare at hmay
    split_ifs at hmay with hchallenge
    · exact (hidle i (hbefore hchallenge)).elim
    · -- a switching off compares nothing now
      have hnot : ¬p.comparison cfg (l, d.db) = true := by
        intro hcompares
        have hover := hmay.2 hcompares
        rw [hsame] at hover
        omega
      rw [comparedBy_eq hcall hp hs', comparedBy_eq hcall hp hs, htrace, comparisons_saw,
        if_neg hnot, Nat.add_zero]
  | pass _ _ hfree =>
    rw [hsame] at hfree
    omega
  | spend _ _ htrace hentry =>
    exact ⟨hentry.trans hsame, hall (hreads fun p => by rw [htrace, comparisons_wrote])⟩
  | count _ hbefore => exact (hidle i hbefore).elim
  | succeed _ _ _ hbefore => exact (hidle i hbefore).elim

theorem WindowKept.next (hk : WindowKept cfg calls surface id c d)
    (hg : AttemptsCovered cfg calls surface id d ev) (hn : d.next ev = some d') :
    WindowKept cfg calls surface id c d' := by
  rcases hk.kept.watching.lockStep hg hn with ⟨hnow, i, s, s', hs, hset, hstep⟩
  have hstays : ∀ j, challenges cfg calls surface id j = true → ∀ a : MfaAnswer,
      d.answer j = some a → d'.answer j = some a :=
    fun j hj _ ha => answer_stays hg hn hk.kept.watching hj ha
  exact ⟨hk.kept.next hg hn, hk.now.trans hnow, fun j hj ha => hstays j hj _ (hk.answers j hj ha),
    hk.bounded_next hs hset hstep hnow hstays, hk.locked_next hs hset hstep hnow⟩

theorem lockKept_start {w : MfaWorld} :
    LockKept cfg calls surface id (MfaRun.start cfg w calls) := by
  have hnew : ∀ (j : ℕ) (t : MfaSession), (MfaRun.start cfg w calls).sessions[j]? = some t →
      t.trace = [] := by
    intro j t ht
    simp only [MfaRun.start, Config.start, List.getElem?_map, Option.map_map,
      Option.map_eq_some_iff] at ht
    rcases ht with ⟨call, -, rfl⟩
    rfl
  refine ⟨mfaWatching_start, fun h => absurd rfl h, fun _ _ => rfl, ?_⟩
  intro j call p t _ _ _ ht
  rw [hnew j t ht]
  rfl

theorem windowKept_start (hk : LockKept cfg calls surface id c) :
    WindowKept cfg calls surface id c c := by
  have hnone : ∀ j, guessedSince cfg calls surface id c c j = false := by
    intro j
    simp [guessedSince]
  refine ⟨hk, le_rfl, fun _ _ h => h, fun _ _ => ⟨?_, fun _ => ?_⟩, fun _ => ⟨rfl, fun _ => rfl⟩⟩
  · have hzero : guessesSince cfg calls surface id c c = 0 :=
      List.countP_eq_zero.mpr fun j _ => by simp [hnone j]
    omega
  · have hzero : (List.range calls.length).countP (settledSince cfg calls surface id c c) = 0 :=
      List.countP_eq_zero.mpr fun j _ => by simp [settledSince, hnone j]
    omega

end Runs

/-- **The second-factor lock.** In every interleaving in which a wrong code is compared only by a
challenge, where the failures counted and the codes not counted yet leave room for it, and in which
the lock is set while no other challenge is under way, the lock holds over every window. -/
theorem second_factor_locked (cfg : MfaConfig) (w : MfaWorld) (calls : List MfaCall)
    (surface : Surface) (id : Id) (evs evs' : List Event) (c c' : MfaRun)
    (hrun : (MfaRun.start cfg w calls).run evs = some c) (hrun' : c.run evs' = some c')
    (hg : (MfaRun.start cfg w calls).Throughout (AttemptsCovered cfg calls surface id) evs)
    (hg' : c.Throughout (AttemptsCovered cfg calls surface id) evs') :
    SecondFactorLock cfg calls surface id c c' := by
  have hk := Config.run_throughout (LockKept cfg calls surface id)
    (fun _ _ _ hd hguard hn => hd.next hguard hn) evs _ lockKept_start hg hrun
  have hk' := Config.run_throughout (WindowKept cfg calls surface id c)
    (fun _ _ _ hd hguard hn => hd.next hguard hn) evs' _ (windowKept_start hk) hg' hrun'
  exact ⟨fun hwindow hno => (hk'.bounded hwindow hno).1, fun hlocked => (hk'.locked hlocked).2⟩

/-! ## Six guesses -/

/-- The authenticator of admin 0 shows `123456`. -/
def lockConfig : MfaConfig where
  jwt := sixSecrets
  MFA_SECRET_KEY := some 7
  check code secret _ := code = "123456" && secret = 1

def enrolledAdmin : MfaWorld where
  accounts := Function.update (fun _ => ∅) .ADMIN <| (∅ : Table MfaAccount.id).insert
    { id := 0, mfaSecret := some ⟨1, 7⟩, mfaEnabled := true }

/-- A sign-in of admin 0. -/
def signIn (code : String) : MfaCall :=
  .challenge .ADMIN 1000 (AdminMfaService.issueChallenge sixSecrets 1000 0 "totp") code

def sixSignIns : List MfaCall := List.replicate 6 (signIn "000000")

/-- Five wrong codes, and the factor is to be switched off. -/
def fiveSignIns : List MfaCall :=
  List.replicate 5 (signIn "000000") ++ [.disable .ADMIN 0 "000000", signIn "123456"]

/-- The first `n` calls take a step each. -/
def eachStep (n : ℕ) : List Event := (List.range n).map .step

/-- The first five calls one after the other. -/
def fiveInTurn : List Event := (List.range 5).flatMap fun i => List.replicate 4 (.step i)

theorem noSuccess_of_answers {cfg : MfaConfig} {calls : List MfaCall} {surface : Surface} {id : Id}
    {c c' : MfaRun} (h : (c'.sessions.all fun s => !s.answer.any Except.isOk) = true) :
    NoSuccess cfg calls surface id c c' := by
  intro i call p _ _ _ hanswer
  rcases Option.bind_eq_some_iff.mp hanswer with ⟨s, hs, hok⟩
  have hnot := List.all_eq_true.mp h s (List.mem_of_getElem? hs)
  rw [hok] at hnot
  cases hnot

/-- Six sign-ins that pass the lock together are all compared; and once the lock is set a code is
compared by the switching off. -/
theorem second_factor_guessed :
    (∃ c', (MfaRun.start lockConfig enrolledAdmin sixSignIns).run (eachStep 6 ++ eachStep 6) =
        some c' ∧ ¬SecondFactorLock lockConfig sixSignIns .ADMIN 0
          (MfaRun.start lockConfig enrolledAdmin sixSignIns) c') ∧
      ∃ c c', (MfaRun.start lockConfig enrolledAdmin fiveSignIns).run fiveInTurn = some c ∧
        c.run [.step 5] = some c' ∧
        ¬SecondFactorLock lockConfig fiveSignIns .ADMIN 0 c c' := by
  constructor
  · have hrun : ((MfaRun.start lockConfig enrolledAdmin sixSignIns).run
        (eachStep 6 ++ eachStep 6)).any (fun c' =>
          c'.sessions.all (fun s => !s.answer.any Except.isOk) && c'.db.now = 0 &&
            guessesSince lockConfig sixSignIns .ADMIN 0
              (MfaRun.start lockConfig enrolledAdmin sixSignIns) c' = 6) = true := by
      decide +kernel
    rcases (Option.any_eq_true _ _).mp hrun with ⟨c', hc', hfacts⟩
    simp only [and_decide_eq] at hfacts
    rcases hfacts with ⟨⟨hnone, hnow⟩, hsix⟩
    refine ⟨c', hc', fun hlaw => ?_⟩
    have hfive := hlaw.bounded (by rw [hnow]; decide) (noSuccess_of_answers hnone)
    rw [hsix] at hfive
    exact absurd hfive (by decide)
  · have hrun : ((MfaRun.start lockConfig enrolledAdmin fiveSignIns).run fiveInTurn).any (fun c =>
        (c.run [.step 5]).any fun c' =>
          c'.db.now < (entryOf .ADMIN 0 c.db).lockedUntil &&
            comparedBy lockConfig fiveSignIns .ADMIN 0 c' 5 ≠
              comparedBy lockConfig fiveSignIns .ADMIN 0 c 5) = true := by
      decide +kernel
    rcases (Option.any_eq_true _ _).mp hrun with ⟨c, hc, hnext⟩
    rcases (Option.any_eq_true _ _).mp hnext with ⟨c', hc', hfacts⟩
    simp only [and_decide_eq] at hfacts
    exact ⟨c, c', hc, hc', fun hlaw => hfacts.2 (hlaw.locked hfacts.1 5)⟩

/-- In turn the fifth wrong code sets the lock, and the right one is refused after it. -/
theorem second_factor_locked_in_turn :
    ∃ c c', (MfaRun.start lockConfig enrolledAdmin fiveSignIns).run fiveInTurn = some c ∧
      c.run [.step 6] = some c' ∧ (entryOf .ADMIN 0 c.db).lockedUntil = 900000 ∧
        SecondFactorLock lockConfig fiveSignIns .ADMIN 0 c c' := by
  have hrun : ((MfaRun.start lockConfig enrolledAdmin fiveSignIns).run fiveInTurn).any (fun c =>
      (c.run [.step 6]).any (fun _ => (entryOf .ADMIN 0 c.db).lockedUntil = 900000) &&
        decide (c.Throughout (AttemptsCovered lockConfig fiveSignIns .ADMIN 0) [.step 6])) =
          true := by
    decide +kernel
  rcases (Option.any_eq_true _ _).mp hrun with ⟨c, hc, hfacts⟩
  simp only [and_decide_eq] at hfacts
  rcases hfacts with ⟨hnext, hguard⟩
  rcases (Option.any_eq_true _ _).mp hnext with ⟨c', hc', hlocked⟩
  exact ⟨c, c', hc, hc', of_decide_eq_true hlocked,
    second_factor_locked lockConfig enrolledAdmin fiveSignIns .ADMIN 0 fiveInTurn [.step 6] c c' hc
      hc' (by decide +kernel) hguard⟩

end Travelo
