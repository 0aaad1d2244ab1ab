import Travelo.Auth.RecoveryCodes

/-!
# The enabled factor

Enrolment writes the secret, takes the old recovery codes away and puts the new ones in, each in a
statement of its own that asks for nothing but the account's id; so do the verification that turns
the factor on and the switching off. What they read of `mfa_enabled` and of the secret was read
before, and may be so no longer (`enabled_unverified`).

`enabled_factor_consistent`: as long as an enrolment writes its secret while the factor is off and
its codes while that secret is stored, and a verification and a switching off write while the secret
that they read is, the secret of an enabled factor was verified, its unused recovery codes come from
the enrolment that made it, nothing but a verified switching off changes it, and a recovery code is
accepted once.
-/

namespace Travelo

open ReadCommitted

section Account

variable (cfg : MfaConfig) (calls : List MfaCall) (surface : Surface) (id : Id) (c c' : MfaRun)

def storedSecret (w : MfaWorld) : Option SealedSecret :=
  ((w.accounts surface).find? id).bind (·.mfaSecret)

/-- `mfa_enabled` is set. -/
def factorOn (w : MfaWorld) : Bool := ((w.accounts surface).find? id).any (·.mfaEnabled)

/-- The secret that an enrolment writes. -/
def EnrolDraw.sealed (draw : EnrolDraw) : Option SealedSecret :=
  cfg.MFA_SECRET_KEY.map (SealedSecret.mk draw.secret)

/-- The secret that the call has read. -/
def secretRead (h : MfaTrace) : Option SealedSecret :=
  (Presented.seen (· = .account surface id) h).bind fun w =>
    (liveAccount surface id w).bind (·.mfaSecret)

/-! ## The law -/

/-- Call `i` is an enrolment of the account which has drawn the secret, and has written as often as
`q` says. -/
def EnrolledBy (secret : SealedSecret) (q : MfaSession → EnrolDraw → Prop) (i : ℕ) : Prop :=
  ∃ draw s, calls[i]? = some (.enroll surface id draw) ∧ c.sessions[i]? = some s ∧
    draw.sealed cfg = some secret ∧ q s draw

/-- By what the call has read `code` is one of the secret, and it has turned the factor on. -/
def turnedOn (code : String) (stored : Option SealedSecret) (h : MfaTrace) : Bool :=
  writes h = 1 && (Presented.seen (· = .account surface id) h).any fun w =>
    (liveAccount surface id w).any fun a => a.mfaSecret = stored &&
      (usableSecret cfg stored).any fun secret => verifyTotp cfg secret code w.now

/-- Call `i` has verified a code of the secret and turned the factor on. -/
def TurnedOnBy (stored : Option SealedSecret) (i : ℕ) : Prop :=
  ∃ code s, calls[i]? = some (.verifyEnrolment surface id code) ∧ c.sessions[i]? = some s ∧
    turnedOn cfg surface id code stored s.trace = true

/-- No call is in progress. -/
def AtRest : Prop := ∀ s ∈ c.sessions, s.trace = [] ∨ s.running = false

/-- What holds of the account in a run that has come to `c`, and in the step to `c'`. -/
structure ConsistentFactor (ev : Event) : Prop where
  /-- The secret of an enabled factor is one that a code was verified of. -/
  verified : factorOn surface id c'.db = true →
    ∃ i, TurnedOnBy cfg calls surface id c' (storedSecret surface id c'.db) i
  /-- Its unused recovery codes come from the enrolment that made it. -/
  codes : factorOn surface id c'.db = true → AtRest c' →
    ∀ r ∈ unusedCodes surface id c'.db, ∃ i secret,
      storedSecret surface id c'.db = some secret ∧
        EnrolledBy cfg calls surface id c' secret (fun s draw => writes s.trace = 3 ∧
          ∃ code ∈ draw.recoveryCodes, r.codeHash = .hash (normalizeRecoveryCode code)) i
  /-- It is changed by a switching off alone, which has verified a code of it. -/
  changed : factorOn surface id c.db = true →
    storedSecret surface id c'.db ≠ storedSecret surface id c.db →
      ∃ i code s, ev = .step i ∧ calls[i]? = some (.disable surface id code) ∧
        c.sessions[i]? = some s ∧ Presented.verifiedAgainst cfg ⟨surface, id, code⟩
          (storedSecret surface id c.db) s.trace = true
  /-- A recovery code is accepted by one call. -/
  once : ∀ k i j, Redeemed cfg calls c' surface k i → Redeemed cfg calls c' surface k j → i = j

/-! ## The condition -/

/-- An enrolment writes its secret while the factor is off, and its codes while no other secret is
stored; a verification writes while the secret that it read is stored, and so does a switching off
of a factor that is on. -/
def MayWrite (db : MfaWorld) (call : MfaCall) (h : MfaTrace) (w : MfaWorld → MfaWorld) : Prop :=
  match call with
  | .enroll s a draw => s = surface → a = id →
    (writes h = 0 → factorOn surface id db = false) ∧
      (writes h = 2 → storedSecret surface id db = none ∨
        storedSecret surface id db = draw.sealed cfg)
  | .verifyEnrolment s a _ => s = surface → a = id →
    storedSecret surface id db = secretRead surface id h
  | .disable s a _ => s = surface → a = id → factorOn surface id db = true →
    storedSecret surface id (w db) ≠ storedSecret surface id db →
      storedSecret surface id db = secretRead surface id h
  | _ => True

/-- Call `i` is an enrolment of the account that has written its secret, and the old recovery codes
are there still. -/
def replacing (i : ℕ) : Bool :=
  calls[i]?.any (fun
    | .enroll s a _ => s = surface && a = id
    | _ => false) && c.sessions[i]?.any fun s => s.running && writes s.trace = 1

/-- The condition on an event; no enrolment is cut off between its secret and its codes. -/
def WritesFresh : Event → Prop
  | .step i => ∀ s ∈ c.sessions[i]?, ∀ call ∈ calls[i]?, ∀ w ∈ s.published c.db,
    MayWrite cfg surface id c.db call s.trace w
  | .fault i _ => replacing calls surface id c i = false
  | .crash i => replacing calls surface id c i = false

instance (db : MfaWorld) (call : MfaCall) (h : MfaTrace) (w : MfaWorld → MfaWorld) :
    Decidable (MayWrite cfg surface id db call h w) :=
  match call with
  | .enroll _ _ _ => inferInstanceAs (Decidable (_ → _))
  | .verifyEnrolment _ _ _ => inferInstanceAs (Decidable (_ → _))
  | .disable _ _ _ => inferInstanceAs (Decidable (_ → _))
  | .challenge _ _ _ _ => .isTrue trivial
  | .tick _ => .isTrue trivial

instance : (ev : Event) → Decidable (WritesFresh cfg calls surface id c ev)
  | .step _ => inferInstanceAs (Decidable (∀ _ ∈ _, _))
  | .fault _ _ => inferInstanceAs (Decidable (_ = _))
  | .crash _ => inferInstanceAs (Decidable (_ = _))

end Account

/-! ## The tables -/

section Tables

variable {surface surface' : Surface} {id id' : Id} {w : MfaWorld}

theorem find?_updateAccount {f : MfaAccount → MfaAccount} {hf : ∀ a, (f a).id = a.id} :
    ((updateAccount surface' id' f hf w).accounts surface).find? id =
      if surface = surface' ∧ id = id' then ((w.accounts surface).find? id).map f
      else (w.accounts surface).find? id := by
  unfold updateAccount
  by_cases hs : surface = surface'
  · subst hs
    simp only [Function.update_self, true_and]
    by_cases hid : id = id'
    · subst hid
      rw [if_pos rfl]
      exact find?_update_self f hf id
    · rw [if_neg hid]
      exact find?_update_ne f hf hid
  · simp [hs]

variable {r : RecoveryCode}

theorem mem_unusedCodes : r ∈ unusedCodes surface id w ↔
    r ∈ w.codes surface ∧ r.accountId = id ∧ r.usedAt = none := by
  simp [unusedCodes, mem_rows]

theorem unusedCodes_delete (hr : r ∈ unusedCodes surface id (deleteCodes surface' id' w)) :
    r ∈ unusedCodes surface id w ∧ ¬(surface = surface' ∧ id = id') := by
  rw [mem_unusedCodes] at hr ⊢
  rcases hr with ⟨hr, hid, hused⟩
  unfold deleteCodes at hr
  by_cases hs : surface = surface'
  · subst hs
    simp only [Function.update_self] at hr
    have hmem := Table.mem_delete.mp hr
    refine ⟨⟨hmem.1, hid, hused⟩, ?_⟩
    rintro ⟨-, rfl⟩
    simp [hid] at hmem
  · simp only [Function.update_of_ne hs] at hr
    exact ⟨⟨hr, hid, hused⟩, fun h => hs h.1⟩

theorem unusedCodes_burn {k : Id} (hr : r ∈ unusedCodes surface id (burnCode surface' k w)) :
    r ∈ unusedCodes surface id w := by
  rw [mem_unusedCodes] at hr ⊢
  rcases hr with ⟨hr, hid, hused⟩
  unfold burnCode at hr
  by_cases hs : surface = surface'
  · subst hs
    simp only [Function.update_self] at hr
    rcases Table.mem_update.mp hr with ⟨r', hr', heq⟩
    split at heq
    · rw [heq] at hused
      cases hused
    · exact heq ▸ ⟨hr', heq ▸ hid, heq ▸ hused⟩
  · simp only [Function.update_of_ne hs] at hr
    exact ⟨hr, hid, hused⟩

theorem unusedCodes_insert {codes : List String} : ∀ w : MfaWorld,
    r ∈ unusedCodes surface id (insertCodes surface' id' codes w) →
      r ∈ unusedCodes surface id w ∨ (surface = surface' ∧ id = id' ∧
        ∃ code ∈ codes, r.codeHash = .hash (normalizeRecoveryCode code)) := by
  unfold insertCodes
  induction codes with
  | nil => exact fun w hr => .inl hr
  | cons code codes ih =>
    intro w hr
    rcases ih _ hr with hold | ⟨hs, hid, code', hcode', hhash⟩
    · rw [mem_unusedCodes] at hold ⊢
      rcases hold with ⟨hold, hid, hused⟩
      unfold insertCode at hold
      by_cases hs : surface = surface'
      · subst hs
        simp only [Function.update_self] at hold
        rcases mem_or_eq_of_mem_insert hold with hmem | rfl
        · exact .inl ⟨hmem, hid, hused⟩
        · exact .inr ⟨rfl, hid.symm, code, List.mem_cons_self, rfl⟩
      · simp only [Function.update_of_ne hs] at hold
        exact .inl ⟨hold, hid, hused⟩
    · exact .inr ⟨hs, hid, code', List.mem_cons_of_mem _ hcode', hhash⟩

theorem insertCodes_accounts (surface : Surface) (id : Id) (codes : List String) :
    ∀ w : MfaWorld, (insertCodes surface id codes w).accounts = w.accounts := by
  unfold insertCodes
  induction codes with
  | nil => exact fun _ => rfl
  | cons code codes ih => exact fun w => ih (insertCode surface id w code)

theorem stored_of_accounts (surface : Surface) (id : Id) {w w' : MfaWorld}
    (h : w'.accounts = w.accounts) :
    storedSecret surface id w' = storedSecret surface id w ∧
      factorOn surface id w' = factorOn surface id w := by
  unfold storedSecret factorOn
  rw [h]
  exact ⟨rfl, rfl⟩

end Tables

/-! ## What a step can do -/

section Step

variable {cfg : MfaConfig} {calls : List MfaCall} {surface : Surface} {id : Id} {c c' : MfaRun}
  {ev : Event} {i : ℕ} {s s' : MfaSession}

/-- What a step is to the account. -/
inductive FactorStep (cfg : MfaConfig) (calls : List MfaCall) (surface : Surface) (id : Id)
    (c c' : MfaRun) (ev : Event) (i : ℕ) (s s' : MfaSession) : Prop where
  | leave (hstored : storedSecret surface id c'.db = storedSecret surface id c.db)
      (hon : factorOn surface id c'.db = factorOn surface id c.db)
      (hcodes : ∀ r ∈ unusedCodes surface id c'.db, r ∈ unusedCodes surface id c.db)
  | secret {draw : EnrolDraw} (hcall : calls[i]? = some (.enroll surface id draw))
      (hwrites : writes s'.trace = 1) (hrunning : s'.running = true)
      (hbefore : factorOn surface id c.db = false) (hafter : factorOn surface id c'.db = false)
      (hstored : storedSecret surface id c'.db = draw.sealed cfg ∨
        storedSecret surface id c'.db = none)
  | fill {draw : EnrolDraw} (hcall : calls[i]? = some (.enroll surface id draw))
      (hwrites : writes s'.trace = 3)
      (hown : storedSecret surface id c.db = none ∨
        storedSecret surface id c.db = draw.sealed cfg)
      (hstored : storedSecret surface id c'.db = storedSecret surface id c.db)
      (hon : factorOn surface id c'.db = factorOn surface id c.db)
      (hcodes : ∀ r ∈ unusedCodes surface id c'.db, r ∈ unusedCodes surface id c.db ∨
        ∃ code ∈ draw.recoveryCodes, r.codeHash = .hash (normalizeRecoveryCode code))
  | enable {code : String} (hcall : calls[i]? = some (.verifyEnrolment surface id code))
      (hturned : turnedOn cfg surface id code (storedSecret surface id c.db) s'.trace = true)
      (hstored : storedSecret surface id c'.db = storedSecret surface id c.db)
      (hcodes : ∀ r ∈ unusedCodes surface id c'.db, r ∈ unusedCodes surface id c.db)
  | disable {code : String} (hev : ev = .step i)
      (hcall : calls[i]? = some (.disable surface id code))
      (hverified : factorOn surface id c.db = true → storedSecret surface id c.db ≠ none →
        Presented.verifiedAgainst cfg ⟨surface, id, code⟩ (storedSecret surface id c.db) s.trace =
          true)
      (hstored : storedSecret surface id c'.db = none)
      (hafter : factorOn surface id c'.db = false)

variable {q : MfaOp MfaAnswer} {db : MfaWorld} {h : MfaTrace}

theorem FactorObs.turnedOn_ends {code : String} {o : Obs MfaWorld MfaLook}
    (ho : FactorObs cfg (.verifyEnrolment surface id code) h (some o) db q) : writes h ≠ 1 := by
  cases ho with
  | look hfirst =>
    rw [hfirst rfl]
    simp
  | memory hno => cases hno
  | burn hp => cases hp
  | enable => simp

theorem FactorObs.of_silent {call : MfaCall} (ho : FactorObs cfg call h none db q) :
    call.enrols = false := by
  cases ho with
  | silent hno => exact hno

/-- Nor does an enrolment that has written its codes; one that has written its secret takes the
old codes away. -/
theorem FactorObs.enrol_goes {draw : EnrolDraw} {o : Obs MfaWorld MfaLook}
    (ho : FactorObs cfg (.enroll surface id draw) h (some o) db q) :
    writes h ≠ 3 ∧ (writes h = 1 → o = .wrote (deleteCodes surface id)) := by
  cases ho with
  | look hfirst =>
    rw [hfirst rfl]
    simp
  | memory hno => cases hno
  | burn hp => cases hp
  | secret => simp
  | replace => simp
  | fill => simp

theorem observed_trace {O : ℕ → MfaTrace → Option (Obs MfaWorld MfaLook) → MfaWorld →
    MfaOp MfaAnswer → Prop} (hobs : Config.Observed O c c' ev i s s') :
    s'.trace = s.trace ∨ ∃ o, O i s.trace (some o) c.db s'.prog ∧
      ∀ w, o = .wrote w → c'.db = w c.db := by
  cases hobs with
  | fault _ _ htrace => exact .inl htrace
  | crash _ _ htrace => exact .inl htrace
  | silent _ _ _ htrace => exact .inl htrace
  | saw _ _ ho _ _ => exact .inr ⟨_, ho, fun _ h => by cases h⟩
  | wrote _ _ ho hdb _ => exact .inr ⟨_, ho, fun _ h => by cases h; exact hdb⟩

theorem TurnedOnBy.next (hw : FactorWatching cfg calls c) (hn : c.next ev = some c')
    {stored : Option SealedSecret} (h : TurnedOnBy cfg calls surface id c stored i) :
    TurnedOnBy cfg calls surface id c' stored i := by
  rcases h with ⟨code, s, hcall, hs, hturned⟩
  rcases Config.Watching.observed hw hn with ⟨j, t, t', ht, hset, hobs⟩
  by_cases hji : j = i
  · subst hji
    obtain rfl := Option.some.inj (hs.symm.trans ht)
    have ht' : c'.sessions[j]? = some t' := by
      rw [hset, List.getElem?_set_self (List.getElem?_eq_some_iff.mp ht).1]
    rcases observed_trace hobs with htrace | ⟨o, ⟨call, hcall', ho⟩, -⟩
    · exact ⟨code, t', hcall, ht', by rwa [htrace]⟩
    · obtain rfl := Option.some.inj (hcall.symm.trans hcall')
      simp only [turnedOn, and_decide_eq] at hturned
      exact absurd hturned.1 ho.turnedOn_ends
  · exact ⟨code, s, hcall, by rwa [hset, List.getElem?_set_ne hji], hturned⟩

theorem EnrolledBy.issued_next (hw : FactorWatching cfg calls c) (hn : c.next ev = some c')
    {secret : SealedSecret} {Q : EnrolDraw → Prop}
    (h : EnrolledBy cfg calls surface id c secret (fun s draw => writes s.trace = 3 ∧ Q draw) i) :
    EnrolledBy cfg calls surface id c' secret (fun s draw => writes s.trace = 3 ∧ Q draw) i := by
  rcases h with ⟨draw, s, hcall, hs, hsecret, hwrites, hq⟩
  rcases Config.Watching.observed hw hn with ⟨j, t, t', ht, hset, hobs⟩
  by_cases hji : j = i
  · subst hji
    obtain rfl := Option.some.inj (hs.symm.trans ht)
    have ht' : c'.sessions[j]? = some t' := by
      rw [hset, List.getElem?_set_self (List.getElem?_eq_some_iff.mp ht).1]
    rcases observed_trace hobs with htrace | ⟨o, ⟨call, hcall', ho⟩, -⟩
    · exact ⟨draw, t', hcall, ht', hsecret, by rwa [htrace], hq⟩
    · obtain rfl := Option.some.inj (hcall.symm.trans hcall')
      exact absurd hwrites ho.enrol_goes.1
  · exact ⟨draw, s, hcall, by rwa [hset, List.getElem?_set_ne hji], hsecret, hwrites, hq⟩

/-- The enrolment that has written its secret goes on to take the old codes away. -/
theorem EnrolledBy.replacing_next (hw : FactorWatching cfg calls c)
    (hg : WritesFresh cfg calls surface id c ev) (hn : c.next ev = some c') {secret : SealedSecret}
    (h : EnrolledBy cfg calls surface id c secret
      (fun s _ => writes s.trace = 1 ∧ s.running = true) i) :
    EnrolledBy cfg calls surface id c' secret
        (fun s _ => writes s.trace = 1 ∧ s.running = true) i ∨
      ∀ r, r ∉ unusedCodes surface id c'.db := by
  rcases h with ⟨draw, s, hcall, hs, hsecret, hwrites, hrunning⟩
  rcases Config.Watching.observed hw hn with ⟨j, t, t', ht, hset, hobs⟩
  by_cases hji : j = i
  · subst hji
    obtain rfl := Option.some.inj (hs.symm.trans ht)
    have hreplacing : replacing calls surface id c j = true := by
      simp [replacing, hcall, hs, hrunning, hwrites]
    have hobserved : ∀ o, (∃ call, calls[j]? = some call ∧
        FactorObs cfg call s.trace (some o) c.db t'.prog) → (∀ w, o = .wrote w → c'.db = w c.db) →
          ∀ r, r ∉ unusedCodes surface id c'.db := by
      rintro o ⟨call, hcall', ho⟩ hdb r hr
      obtain rfl := Option.some.inj (hcall.symm.trans hcall')
      have hdelete := ho.enrol_goes.2 hwrites
      rw [hdb _ hdelete] at hr
      exact (unusedCodes_delete hr).2 ⟨rfl, rfl⟩
    cases hobs with
    | fault _ _ _ =>
      have hnot : replacing calls surface id c j = false := hg
      simp [hnot] at hreplacing
    | crash _ _ _ =>
      have hnot : replacing calls surface id c j = false := hg
      simp [hnot] at hreplacing
    | silent _ ho _ _ =>
      rcases ho with ⟨call, hcall', ho⟩
      obtain rfl := Option.some.inj (hcall.symm.trans hcall')
      exact absurd ho.of_silent (by simp [MfaCall.enrols])
    | saw _ _ ho _ _ => exact .inr (hobserved _ ho fun _ h => by cases h)
    | wrote _ _ ho hdb _ => exact .inr (hobserved _ ho fun _ h => by cases h; exact hdb)
  · exact .inl ⟨draw, s, hcall, by rwa [hset, List.getElem?_set_ne hji], hsecret, hwrites, hrunning⟩

theorem FactorWatching.factorStep (hw : FactorWatching cfg calls c)
    (hg : WritesFresh cfg calls surface id c ev) (hn : c.next ev = some c') :
    ∃ i s s', c.sessions[i]? = some s ∧ c'.sessions[i]? = some s' ∧
      FactorStep cfg calls surface id c c' ev i s s' := by
  rcases Config.Watching.observed hw hn with ⟨i, s, s', hs, hset, hobs⟩
  have hs' : c'.sessions[i]? = some s' := by
    rw [hset, List.getElem?_set_self (List.getElem?_eq_some_iff.mp hs).1]
  refine ⟨i, s, s', hs, hs', ?_⟩
  have hstill : c'.db = c.db → FactorStep cfg calls surface id c c' ev i s s' := by
    intro hdb
    exact .leave (by rw [hdb]) (by rw [hdb]) fun r hr => by rwa [hdb] at hr
  cases hobs with
  | fault _ hdb _ => exact hstill hdb
  | crash _ hdb _ => exact hstill hdb
  | silent _ _ hdb _ => exact hstill hdb
  | saw _ _ _ hdb _ => exact hstill hdb
  | @wrote _ _ _ w hrunning hpublishes ho hdb htrace =>
    rcases ho with ⟨call, hcall, ho⟩
    have hmay := hg s hs call hcall w (Session.mem_published.mpr hpublishes)
    -- a write that leaves the accounts as they are
    have haccounts : (w c.db).accounts = c.db.accounts →
        (∀ r ∈ unusedCodes surface id (w c.db), r ∈ unusedCodes surface id c.db) →
          FactorStep cfg calls surface id c c' (.step i) i s s' := by
      intro hsame hcodes
      have hboth := stored_of_accounts surface id hsame
      exact .leave (by rw [hdb, hboth.1]) (by rw [hdb, hboth.2]) fun r hr => by
        rw [hdb] at hr
        exact hcodes r hr
    generalize hh : s.trace = h at ho
    generalize hq : s'.prog = q at ho
    cases ho with
    | memory hno hw hh' =>
      refine haccounts (hw c.db).1 fun r hr => ?_
      unfold unusedCodes at hr ⊢
      rwa [(hw c.db).2.1] at hr
    | burn hp hspent => exact haccounts rfl fun r hr => unusedCodes_burn hr
    | replace => exact haccounts rfl fun r hr => (unusedCodes_delete hr).1
    | drop => exact haccounts rfl fun r hr => (unusedCodes_delete hr).1
    | @secret sur a draw key b _ _ hkey hgoes =>
      by_cases hacc : surface = sur ∧ id = a
      · rcases hacc with ⟨rfl, rfl⟩
        rw [hh] at hmay
        have hoff := (hmay rfl rfl).1 rfl
        have hrow : ((setSecret surface id ⟨draw.secret, key⟩ c.db).accounts surface).find? id =
            ((c.db.accounts surface).find? id).map fun acc =>
              { acc with mfaSecret := some ⟨draw.secret, key⟩ } := by
          unfold setSecret
          rw [find?_updateAccount, if_pos ⟨rfl, rfl⟩]
        have hrunning' : s'.running = true := by
          unfold Session.running
          rw [hq]
          exact hgoes
        refine .secret hcall (by rw [htrace, hh]; rfl) hrunning' hoff ?_ ?_
        · rw [hdb]
          unfold factorOn at hoff ⊢
          rw [hrow, Option.any_map]
          exact hoff
        · rw [hdb]
          unfold storedSecret EnrolDraw.sealed
          rw [hrow, hkey]
          cases (c.db.accounts surface).find? id with
          | none => exact .inr rfl
          | some acc => exact .inl rfl
      · refine .leave ?_ ?_ fun r hr => by rwa [hdb] at hr
        · rw [hdb]
          unfold storedSecret setSecret
          rw [find?_updateAccount, if_neg hacc]
        · rw [hdb]
          unfold factorOn setSecret
          rw [find?_updateAccount, if_neg hacc]
    | @fill sur a draw w₁ w₂ b _ _ =>
      have hboth := stored_of_accounts surface id (insertCodes_accounts sur a draw.recoveryCodes c.db)
      by_cases hacc : surface = sur ∧ id = a
      · rcases hacc with ⟨rfl, rfl⟩
        rw [hh] at hmay
        refine .fill hcall (by rw [htrace, hh]; rfl) ((hmay rfl rfl).2 rfl) (by rw [hdb, hboth.1])
          (by rw [hdb, hboth.2]) fun r hr => ?_
        rw [hdb] at hr
        rcases unusedCodes_insert c.db hr with hold | ⟨-, -, hnew⟩
        · exact .inl hold
        · exact .inr hnew
      · refine haccounts (insertCodes_accounts _ _ _ c.db) fun r hr => ?_
        rcases unusedCodes_insert c.db hr with hold | ⟨hsur, ha, -⟩
        · exact hold
        · exact absurd ⟨hsur, ha⟩ hacc
    | @enable sur a code b acc secret _ _ ha hsecret hcode =>
      have hstored : storedSecret surface id (setEnabled sur a c.db) =
          storedSecret surface id c.db := by
        unfold storedSecret setEnabled
        rw [find?_updateAccount]
        split
        · cases (c.db.accounts surface).find? id <;> rfl
        · rfl
      by_cases hacc : surface = sur ∧ id = a
      · rcases hacc with ⟨rfl, rfl⟩
        rw [hh] at hmay
        have hread : secretRead surface id [.saw (.account surface id) b] = acc.mfaSecret := by
          simp [secretRead, Presented.seen, reads, ha]
        have hsame := hmay rfl rfl
        rw [hread] at hsame
        refine .enable hcall ?_ (by rw [hdb, hstored]) fun r hr => by rwa [hdb] at hr
        rw [htrace, hh, hsame]
        simp [turnedOn, Presented.seen, reads, ha, hsecret, hcode]
      · refine .leave (by rw [hdb, hstored]) ?_ fun r hr => by rwa [hdb] at hr
        rw [hdb]
        unfold factorOn setEnabled
        rw [find?_updateAccount, if_neg hacc]
    | @disable sur a code stored h' _ _ hverified hh' =>
      by_cases hacc : surface = sur ∧ id = a
      · rcases hacc with ⟨rfl, rfl⟩
        have hrow : ((setDisabled surface id c.db).accounts surface).find? id =
            ((c.db.accounts surface).find? id).map fun acc =>
              { acc with mfaEnabled := false, mfaSecret := none } := by
          unfold setDisabled
          rw [find?_updateAccount, if_pos ⟨rfl, rfl⟩]
        have hnone : storedSecret surface id (setDisabled surface id c.db) = none := by
          unfold storedSecret
          rw [hrow]
          cases (c.db.accounts surface).find? id <;> rfl
        refine .disable rfl hcall (fun hon hsome => ?_) (by rw [hdb, hnone]) ?_
        · -- the secret that was read is the one that is stored
          have hsame := hmay rfl rfl hon (by rw [hnone]; exact Ne.symm hsome)
          have hread : secretRead surface id s.trace = stored := by
            rw [hh]
            simp only [Presented.verifiedAgainst, Option.any_eq_true, and_decide_eq] at hverified
            rcases hverified with ⟨b, hb, ⟨acc, hacc, -, hstored⟩, -⟩
            unfold secretRead
            rw [hb, Option.bind_some, hacc]
            exact hstored
          rw [hsame, hread, hh]
          exact hverified
        · rw [hdb]
          unfold factorOn
          rw [hrow]
          cases (c.db.accounts surface).find? id <;> rfl
      · refine .leave ?_ ?_ fun r hr => by rwa [hdb] at hr
        · rw [hdb]
          unfold storedSecret setDisabled
          rw [find?_updateAccount, if_neg hacc]
        · rw [hdb]
          unfold factorOn setDisabled
          rw [find?_updateAccount, if_neg hacc]

end Step

/-! ## What holds throughout -/

/-- What holds of the account while the calls are interleaved. -/
structure FactorKept (cfg : MfaConfig) (calls : List MfaCall) (surface : Surface) (id : Id)
    (c : MfaRun) : Prop where
  once : CodesOnce cfg calls c
  verified : factorOn surface id c.db = true →
    ∃ i, TurnedOnBy cfg calls surface id c (storedSecret surface id c.db) i
  /-- The unused codes are those of the enrolment that made the secret, or it has yet to take the
  old ones away. -/
  codes : ∀ secret, storedSecret surface id c.db = some secret →
    (∀ r ∈ unusedCodes surface id c.db, ∃ i, EnrolledBy cfg calls surface id c secret
      (fun s draw => writes s.trace = 3 ∧
        ∃ code ∈ draw.recoveryCodes, r.codeHash = .hash (normalizeRecoveryCode code)) i) ∨
    ∃ i, EnrolledBy cfg calls surface id c secret
      (fun s _ => writes s.trace = 1 ∧ s.running = true) i

section Runs

variable {cfg : MfaConfig} {calls : List MfaCall} {surface : Surface} {id : Id} {c c' : MfaRun}
  {ev : Event}

theorem FactorKept.next (hk : FactorKept cfg calls surface id c)
    (hg : WritesFresh cfg calls surface id c ev) (hn : c.next ev = some c') :
    FactorKept cfg calls surface id c' := by
  have hw := hk.once.watching
  rcases hw.factorStep hg hn with ⟨i, s, s', hs, hs', hstep⟩
  -- codes that were the enrolment's own are so still
  have hkeep : ∀ secret, storedSecret surface id c.db = some secret →
      (∀ r ∈ unusedCodes surface id c'.db, r ∈ unusedCodes surface id c.db) →
      (∀ r ∈ unusedCodes surface id c'.db, ∃ i, EnrolledBy cfg calls surface id c' secret
        (fun s draw => writes s.trace = 3 ∧
          ∃ code ∈ draw.recoveryCodes, r.codeHash = .hash (normalizeRecoveryCode code)) i) ∨
      ∃ i, EnrolledBy cfg calls surface id c' secret
        (fun s _ => writes s.trace = 1 ∧ s.running = true) i := by
    intro secret hsecret hcodes
    rcases hk.codes secret hsecret with hown | ⟨j, hj⟩
    · left
      intro r hr
      rcases hown r (hcodes r hr) with ⟨j, hj⟩
      exact ⟨j, hj.issued_next hw hn⟩
    · rcases hj.replacing_next hw hg hn with hj' | hnone
      · exact .inr ⟨j, hj'⟩
      · exact .inl fun r hr => absurd hr (hnone r)
  refine ⟨hk.once.next hn, fun hon' => ?_, fun secret hsecret => ?_⟩
  · cases hstep with
    | leave hstored hon =>
      rw [hon] at hon'
      rcases hk.verified hon' with ⟨j, hj⟩
      exact ⟨j, hstored ▸ hj.next hw hn⟩
    | secret _ _ _ _ hafter => simp [hafter] at hon'
    | fill _ _ _ hstored hon =>
      rw [hon] at hon'
      rcases hk.verified hon' with ⟨j, hj⟩
      exact ⟨j, hstored ▸ hj.next hw hn⟩
    | @enable code hcall hturned hstored =>
      exact ⟨i, code, s', hcall, hs', by rw [hstored]; exact hturned⟩
    | disable _ _ _ _ hafter => simp [hafter] at hon'
  · cases hstep with
    | leave hstored _ hcodes => exact hkeep secret (hstored ▸ hsecret) hcodes
    | secret hcall hwrites hrunning _ _ hstored =>
      rw [hsecret] at hstored
      rcases hstored with heq | heq
      · exact .inr ⟨i, _, s', hcall, hs', heq.symm, hwrites, hrunning⟩
      · cases heq
    | fill hcall hwrites hown hstored _ hcodes =>
      rw [hstored] at hsecret
      have hsealed := hown.resolve_left (by simp [hsecret])
      rw [hsecret] at hsealed
      rcases hk.codes secret hsecret with hold | ⟨j, hj⟩
      · left
        intro r hr
        rcases hcodes r hr with hbefore | hnew
        · rcases hold r hbefore with ⟨j, hj⟩
          exact ⟨j, hj.issued_next hw hn⟩
        · exact ⟨i, _, s', hcall, hs', hsealed.symm, hwrites, hnew⟩
      · rcases hj.replacing_next hw hg hn with hj' | hnone
        · exact .inr ⟨j, hj'⟩
        · exact .inl fun r hr => absurd hr (hnone r)
    | enable _ _ hstored hcodes => exact hkeep secret (hstored ▸ hsecret) hcodes
    | disable _ _ _ hstored =>
      rw [hstored] at hsecret
      cases hsecret

/-- An account before its first enrolment, and recovery codes that were all drawn. -/
structure FreshAccount (surface : Surface) (id : Id) (w : MfaWorld) : Prop where
  off : factorOn surface id w = false
  empty : storedSecret surface id w = none
  drawn : Drawn w

theorem factorKept_start {w : MfaWorld} (hw : FreshAccount surface id w) :
    FactorKept cfg calls surface id (MfaRun.start cfg w calls) := by
  have hempty : storedSecret surface id (MfaRun.start cfg w calls).db = none := hw.empty
  have hoff : factorOn surface id (MfaRun.start cfg w calls).db = false := hw.off
  refine ⟨codesOnce_start hw.drawn, fun hon => ?_, fun secret hsecret => ?_⟩
  · rw [hoff] at hon
    cases hon
  · rw [hempty] at hsecret
    cases hsecret

theorem FactorKept.consistent (hk : FactorKept cfg calls surface id c)
    (hg : WritesFresh cfg calls surface id c ev) (hn : c.next ev = some c') :
    ConsistentFactor cfg calls surface id c c' ev := by
  have hk' := hk.next hg hn
  refine ⟨hk'.verified, fun hon hrest r hr => ?_, fun hon hne => ?_, fun k i j hi hj =>
    hk'.once.redeemed_once hi hj⟩
  · rcases hk'.verified hon with ⟨i, code, s, -, -, hturned⟩
    -- a code was verified, so there is a secret
    have hsome : storedSecret surface id c'.db ≠ none := by
      intro hnone
      rw [hnone] at hturned
      simp [turnedOn, usableSecret] at hturned
    rcases Option.ne_none_iff_exists'.mp hsome with ⟨secret, hsecret⟩
    rcases hk'.codes secret hsecret with hown | ⟨j, draw, s, -, hs, -, hwrites, hrunning⟩
    · rcases hown r hr with ⟨j, hj⟩
      exact ⟨j, secret, hsecret, hj⟩
    · rcases hrest s (List.mem_of_getElem? hs) with hempty | hstopped
      · simp [hempty] at hwrites
      · simp [hstopped] at hrunning
  · rcases hk.once.watching.factorStep hg hn with ⟨i, s, s', hs, -, hstep⟩
    cases hstep with
    | leave hstored => exact absurd hstored hne
    | secret _ _ _ hbefore => simp [hbefore] at hon
    | fill _ _ _ hstored => exact absurd hstored hne
    | enable _ _ hstored => exact absurd hstored hne
    | @disable code hev hcall hverified hstored =>
      refine ⟨i, code, s, hev, hcall, hs, hverified hon fun hnone => hne ?_⟩
      rw [hstored, hnone]

end Runs

/-- **The enabled factor is consistent.** From an account without a factor, in every interleaving in
which the writes of the enrolments, verifications and switchings off find the secret and the switch
as they are to find them, and no enrolment is cut off between its secret and its codes. -/
theorem enabled_factor_consistent (cfg : MfaConfig) (w : MfaWorld) (calls : List MfaCall)
    (surface : Surface) (id : Id) (hw : FreshAccount surface id w) (evs : List Event) (ev : Event)
    (c c' : MfaRun) (hrun : (MfaRun.start cfg w calls).run evs = some c)
    (hnext : c.next ev = some c')
    (hg : (MfaRun.start cfg w calls).Throughout (WritesFresh cfg calls surface id) evs)
    (hlast : WritesFresh cfg calls surface id c ev) :
    ConsistentFactor cfg calls surface id c c' ev := by
  have hk := Config.run_throughout (FactorKept cfg calls surface id)
    (fun _ _ _ hd hguard hn => hd.next hguard hn) evs _ (factorKept_start hw) hg hrun
  exact hk.consistent hlast hnext

/-! ## Two enrolments -/

/-- The authenticators of the secrets 1 and 2 show `111111` and `222222`. -/
def enrolConfig : MfaConfig where
  jwt := sixSecrets
  MFA_SECRET_KEY := some 7
  check code secret _ := code = (if secret = 1 then "111111" else "222222")

def newAdmin : MfaWorld where
  accounts := Function.update (fun _ => ∅) .ADMIN <| (∅ : Table MfaAccount.id).insert { id := 0 }

/-- An enrolment, its verification, and an enrolment again. -/
def enrolments : List MfaCall :=
  [.enroll .ADMIN 0 ⟨1, ["AAAA"]⟩, .verifyEnrolment .ADMIN 0 "111111",
    .enroll .ADMIN 0 ⟨2, ["BBBB"]⟩]

theorem newAdmin_fresh : FreshAccount .ADMIN 0 newAdmin := by
  refine ⟨by decide +kernel, by decide +kernel, fun surface r hr => ?_⟩
  cases hr

/-- The second enrolment runs between the verification's read and its write, and a secret of which
no code was verified is on; and it writes its secret after the verification has turned the factor
on. -/
theorem enabled_unverified :
    (∃ c c', (MfaRun.start enrolConfig newAdmin enrolments).run [.step 0, .step 0, .step 0, .step 0,
        .step 1, .step 2, .step 2, .step 2, .step 2] = some c ∧ c.next (.step 1) = some c' ∧
      ¬ConsistentFactor enrolConfig enrolments .ADMIN 0 c c' (.step 1)) ∧
    ∃ c c', (MfaRun.start enrolConfig newAdmin enrolments).run [.step 0, .step 0, .step 0, .step 0,
        .step 2, .step 1, .step 1] = some c ∧ c.next (.step 2) = some c' ∧
      ¬ConsistentFactor enrolConfig enrolments .ADMIN 0 c c' (.step 2) := by
  constructor
  · have hrun : ((MfaRun.start enrolConfig newAdmin enrolments).run [.step 0, .step 0, .step 0,
        .step 0, .step 1, .step 2, .step 2, .step 2, .step 2]).any (fun c =>
          (c.next (.step 1)).any fun c' => factorOn .ADMIN 0 c'.db &&
            c'.sessions[1]?.all fun s => !turnedOn enrolConfig .ADMIN 0 "111111"
              (storedSecret .ADMIN 0 c'.db) s.trace) = true := by
      decide +kernel
    rcases (Option.any_eq_true _ _).mp hrun with ⟨c, hc, hnext⟩
    rcases (Option.any_eq_true _ _).mp hnext with ⟨c', hc', hfacts⟩
    simp only [Bool.and_eq_true] at hfacts
    refine ⟨c, c', hc, hc', fun hlaw => ?_⟩
    rcases hlaw.verified hfacts.1 with ⟨i, code, s, hcall, hs, hturned⟩
    -- the verification is the one call that could have
    match i, hcall with
    | 1, hcall =>
      cases hcall
      rw [hs] at hfacts
      simp [hturned] at hfacts
    | 2, hcall => cases hcall
    | n + 3, hcall => cases hcall
  · have hrun : ((MfaRun.start enrolConfig newAdmin enrolments).run [.step 0, .step 0, .step 0,
        .step 0, .step 2, .step 1, .step 1]).any (fun c =>
          (c.next (.step 2)).any fun c' => factorOn .ADMIN 0 c.db &&
            storedSecret .ADMIN 0 c'.db ≠ storedSecret .ADMIN 0 c.db) = true := by
      decide +kernel
    rcases (Option.any_eq_true _ _).mp hrun with ⟨c, hc, hnext⟩
    rcases (Option.any_eq_true _ _).mp hnext with ⟨c', hc', hfacts⟩
    simp only [and_decide_eq] at hfacts
    refine ⟨c, c', hc, hc', fun hlaw => ?_⟩
    rcases hlaw.changed hfacts.1 hfacts.2 with ⟨i, code, s, hev, hcall, -⟩
    cases hev
    cases hcall

/-- In turn the verification turns on the secret of which it has verified a code, and the second
enrolment is refused. -/
theorem enabled_factor_in_turn :
    ∃ c c', (MfaRun.start enrolConfig newAdmin enrolments).run [.step 0, .step 0, .step 0, .step 0,
        .step 1, .step 1] = some c ∧ c.next (.step 2) = some c' ∧
      factorOn .ADMIN 0 c'.db = true ∧
        ConsistentFactor enrolConfig enrolments .ADMIN 0 c c' (.step 2) := by
  have hrun : ((MfaRun.start enrolConfig newAdmin enrolments).run [.step 0, .step 0, .step 0,
      .step 0, .step 1, .step 1]).any (fun c =>
        (c.next (.step 2)).any (fun c' => factorOn .ADMIN 0 c'.db) &&
          decide (WritesFresh enrolConfig enrolments .ADMIN 0 c (.step 2))) = true := by
    decide +kernel
  rcases (Option.any_eq_true _ _).mp hrun with ⟨c, hc, hfacts⟩
  simp only [and_decide_eq] at hfacts
  rcases (Option.any_eq_true _ _).mp hfacts.1 with ⟨c', hc', hon⟩
  exact ⟨c, c', hc, hc', hon,
    enabled_factor_consistent enrolConfig newAdmin enrolments .ADMIN 0 newAdmin_fresh
      [.step 0, .step 0, .step 0, .step 0, .step 1, .step 1] (.step 2) c c' hc hc'
      (by decide +kernel) hfacts.2⟩

end Travelo
