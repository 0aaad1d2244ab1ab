import Travelo.Auth.Mfa
import Travelo.ReadCommitted.Tally
import Travelo.ReadCommitted.Watched

/-!
# The attempts at a second factor

What a call has compared, read off its history; what the lock of an account promises
(`SecondFactorLock`); and under which condition on the steps it is kept (`AttemptsCovered`).
`MfaWatching.lockStep` is the inversion of a step: what it is to the account's entry, and who is
under way before it and after it.
-/

namespace Travelo

open ReadCommitted

/-! ## Runs -/

abbrev MfaAnswer := Except MfaErr Unit

abbrev MfaSession := Session MfaWorld MfaRow MfaLook MfaErr MfaAnswer

abbrev MfaRun := Config MfaWorld MfaRow MfaLook MfaErr MfaAnswer

/-- A process that starts with an empty memory, and the calls it is to serve. -/
def MfaRun.start (cfg : MfaConfig) (w : MfaWorld) (calls : List MfaCall) : MfaRun :=
  Config.start { w with attempts := fun _ _ => none } (calls.map (MfaCall.prog cfg))

/-- A code that is presented for an account. -/
structure Presented where
  surface : Surface
  id : Id
  code : String

/-- The code that a challenge or a switching off presents. -/
def MfaCall.presented (cfg : MfaConfig) : MfaCall → Option Presented
  | .challenge surface verifiedAt mfaToken code =>
    (challengedAccount cfg.jwt surface verifiedAt mfaToken).map fun id => ⟨surface, id, code⟩
  | .disable surface id code => some ⟨surface, id, code⟩
  | _ => none

def MfaCall.isChallenge : MfaCall → Bool
  | .challenge _ _ _ _ => true
  | _ => false

/-- The code that the call presents for the account. -/
def MfaCall.offers (cfg : MfaConfig) (surface : Surface) (id : Id) (call : MfaCall) :
    Option Presented :=
  (call.presented cfg).filter fun p => p.surface = surface && p.id = id

/-- The entry of the account, an empty one when it has none. -/
def entryOf (surface : Surface) (id : Id) (w : MfaWorld) : Attempts :=
  (w.attempts surface id).getD {}

/-! ## What a call has compared -/

namespace Presented

variable (cfg : MfaConfig) (p : Presented)

/-- The code is compared with the secret of the account as it is in `w`, and `matched` tells how
it comes out. -/
def meetsSecret (w : MfaWorld) (matched : Id → Bool) : Bool :=
  cleanedCode p.code ≠ "" && (liveAccount p.surface p.id w).any fun a =>
    a.mfaEnabled && (usableSecret cfg a.mfaSecret).any matched

/-- A read after which the code is compared: the account, for its secret, or a recovery code. -/
def comparison : MfaLook × MfaWorld → Bool
  | (.account _ _, w) => p.meetsSecret cfg w fun _ => true
  | (.compare _, _) => true
  | (.codes _ _, _) => false

/-- How often the code has been compared. -/
def comparisons (h : MfaTrace) : ℕ := (reads h).countP (p.comparison cfg)

/-- The state that the last read of the account, or of the codes, has seen. -/
def seen (isIt : MfaLook → Bool) (h : MfaTrace) : Option MfaWorld :=
  ((reads h).find? fun r => isIt r.1).map (·.2)

/-- An unused recovery code of the account matches. -/
def recovers (w : MfaWorld) : Bool :=
  (unusedCodes p.surface p.id w).any fun c => c.codeHash.verify (normalizeRecoveryCode p.code)

/-- By what the call has read, the code is neither the authenticator's nor an unused recovery
code. -/
def wrong (h : MfaTrace) : Bool :=
  (seen (· = .account p.surface p.id) h).any fun w =>
    !(p.meetsSecret cfg w fun secret => verifyTotp cfg secret (cleanedCode p.code) w.now) &&
      !p.recovers ((seen (· = .codes p.surface p.id) h).getD w)

/-- A wrong code has been compared. -/
def guessed (h : MfaTrace) : Bool := p.wrong cfg h && p.comparisons cfg h ≠ 0

end Presented

section Account

variable (cfg : MfaConfig) (calls : List MfaCall) (surface : Surface) (id : Id) (c c' : MfaRun)

/-- Call `i` presents a code for the account, and `q` holds of the code and of its session. -/
def offering (q : Presented → MfaSession → Bool) (i : ℕ) : Bool :=
  (calls[i]?.bind (MfaCall.offers cfg surface id)).any fun p => c.sessions[i]?.any (q p)

variable (i : ℕ)

/-- Call `i` is a challenge of the account that has passed the lock and goes on. -/
def underWay : Bool :=
  calls[i]?.any MfaCall.isChallenge &&
    offering cfg calls surface id c (fun _ s => s.running && s.trace ≠ []) i

/-- … and has compared a wrong code, which is not counted yet. -/
def uncounted : Bool :=
  underWay cfg calls surface id c i &&
    offering cfg calls surface id c (fun p s => p.guessed cfg s.trace) i

/-- How often call `i` has compared its code, if it is one for the account. -/
def comparedBy : ℕ :=
  ((calls[i]?.bind (MfaCall.offers cfg surface id)).bind fun p =>
    c.sessions[i]?.map fun s => p.comparisons cfg s.trace).getD 0

/-- Between `c` and `c'` call `i` has compared its code, which is a wrong one. -/
def guessedSince : Bool :=
  offering cfg calls surface id c' (fun p s => p.guessed cfg s.trace) i &&
    comparedBy cfg calls surface id c i < comparedBy cfg calls surface id c' i

/-- The wrong codes that were compared between `c` and `c'`. -/
def guessesSince : ℕ := (List.range calls.length).countP (guessedSince cfg calls surface id c c')

/-- Between `c` and `c'` no challenge of the account has succeeded. -/
def NoSuccess : Prop :=
  ∀ i call p, calls[i]? = some call → call.isChallenge = true →
    call.offers cfg surface id = some p → c'.answer i = some (.ok ()) → c.answer i = some (.ok ())

/-! ## The law -/

/-- What holds of the account in a run that has come to `c` and then to `c'`. -/
structure SecondFactorLock : Prop where
  /-- A window without a success sees a bounded number of wrong codes. -/
  bounded : c'.db.now < c.db.now + cfg.MFA_LOCK_SECONDS * 1000 →
    NoSuccess cfg calls surface id c c' →
      guessesSince cfg calls surface id c c' ≤ cfg.MFA_MAX_ATTEMPTS
  /-- Nothing is compared under the lock. -/
  locked : c'.db.now < (entryOf surface id c.db).lockedUntil →
    ∀ i, comparedBy cfg calls surface id c' i = comparedBy cfg calls surface id c i

/-! ## The condition -/

/-- A read may leave a call with a wrong code that has been compared only if the call is a
challenge, and the failures counted and the codes not counted yet leave room for it; and a
switching off compares nothing under the lock. -/
def MayCompare (call : MfaCall) (p : Presented) (l : MfaLook) (h : MfaTrace) : Prop :=
  if call.isChallenge then
    p.guessed cfg (.saw l c.db :: h) = true →
      (entryOf surface id c.db).count + others calls.length i (uncounted cfg calls surface id c) <
        cfg.MFA_MAX_ATTEMPTS
  else
    p.guessed cfg (.saw l c.db :: h) = false ∧
      (p.comparison cfg (l, c.db) = true → (entryOf surface id c.db).lockedUntil ≤ c.db.now)

/-- The lock is set only when no other challenge is under way. -/
def MaySet (w : MfaWorld → MfaWorld) : Prop :=
  (entryOf surface id c.db).lockedUntil < (entryOf surface id (w c.db)).lockedUntil →
    others calls.length i (underWay cfg calls surface id c) = 0

/-- Call `i` is a challenge of the account. -/
def challenges : Bool :=
  calls[i]?.any fun call => call.isChallenge && (call.offers cfg surface id).isSome

/-- The condition on an event; no challenge of the account is cut off. -/
def AttemptsCovered : Event → Prop
  | .step i => ∀ s ∈ c.sessions[i]?, ∀ call ∈ calls[i]?, ∀ p ∈ call.offers cfg surface id,
    (∀ l ∈ s.looks, MayCompare cfg calls surface id c i call p l s.trace) ∧
      ∀ w ∈ s.published c.db, MaySet cfg calls surface id c i w
  | .fault i _ => challenges cfg calls surface id i = false
  | .crash i => challenges cfg calls surface id i = false

instance (call : MfaCall) (p : Presented) (l : MfaLook) (h : MfaTrace) :
    Decidable (MayCompare cfg calls surface id c i call p l h) :=
  inferInstanceAs (Decidable (ite _ _ _))

instance (w : MfaWorld → MfaWorld) : Decidable (MaySet cfg calls surface id c i w) :=
  inferInstanceAs (Decidable (_ → _))

instance : (ev : Event) → Decidable (AttemptsCovered cfg calls surface id c ev)
  | .step _ => inferInstanceAs (Decidable (∀ _ ∈ _, _))
  | .fault _ _ => inferInstanceAs (Decidable (_ = _))
  | .crash _ => inferInstanceAs (Decidable (_ = _))

end Account

/-! ## What a call observes -/

/-- A challenge for `p` looks at the lock first, and the write that ends it is the failure or the
success; a wrong code that has been compared leaves it with something to do. -/
inductive ChallengeObs (cfg : MfaConfig) (p : Presented) :
    MfaTrace → Option (Obs MfaWorld MfaLook) → MfaWorld → MfaOp MfaAnswer → Prop where
  | refused {db q} : ChallengeObs cfg p [] none db q
  | pass {db db' q} (hok : assertNotLocked p.surface p.id db = .ok db') :
      ChallengeObs cfg p [] (some (.wrote (applied (assertNotLocked p.surface p.id)))) db q
  | look {h l db q} (hh : h ≠ [])
      (hgoes : p.guessed cfg (.saw l db :: h) = true → q.running = true) :
      ChallengeObs cfg p h (some (.saw l db)) db q
  | burn {h codeId db q} (hh : h ≠ []) (hgoes : q.running = true) :
      ChallengeObs cfg p h (some (.wrote (burnCode p.surface codeId))) db q
  | count {h db q} (hh : h ≠ []) (hends : q.running = false) :
      ChallengeObs cfg p h (some (.wrote (recordFailure cfg p.surface p.id))) db q
  | succeed {h db} (hh : h ≠ []) :
      ChallengeObs cfg p h (some (.wrote (setAttempts? p.surface p.id none))) db (.ret (.ok ()))

/-- Every other call leaves the attempts alone. -/
def LeavesAttempts (o : Option (Obs MfaWorld MfaLook)) : Prop :=
  ∀ w, o = some (.wrote w) → ∀ db : MfaWorld,
    (w db).attempts = db.attempts ∧ db.now ≤ (w db).now

def MfaCall.Observes (cfg : MfaConfig) (call : MfaCall) (h : MfaTrace)
    (o : Option (Obs MfaWorld MfaLook)) (db : MfaWorld) (q : MfaOp MfaAnswer) : Prop :=
  if call.isChallenge then ∃ p, call.presented cfg = some p ∧ ChallengeObs cfg p h o db q
  else LeavesAttempts o

/-- The recovery code is there and has not been used. -/
def unspent (surface : Surface) (codeId : Id) (w : MfaWorld) : Bool :=
  ((w.codes surface).find? codeId).any fun c => c.usedAt.isNone

section Comparison

variable {O : MfaTrace → Option (Obs MfaWorld MfaLook) → MfaWorld →
    MfaOp (Option VerifiedWith) → Prop}
  {P : Option VerifiedWith → MfaTrace → Tx MfaWorld → Prop}
  {E : MfaErr → MfaTrace → Tx MfaWorld → Prop} {surface : Surface}

/-- Comparing the recovery codes never gives up with an error of its own; a row that could not be
marked used is not what it answers with; and a code is accepted by a write that follows the
comparison. `I` is what is known of the histories. -/
theorem watch_burnFirst (I : MfaTrace → Prop) (normalised : String)
    (hIsaw : ∀ h k b, I h → I (.saw (.compare k) b :: h))
    (hIwrote : ∀ h w, I h → I (.wrote w :: h))
    (hsaw : ∀ h k db q, I h → q.failed = false → (∀ v, q ≠ .ret (some v)) →
      O h (some (.saw (.compare k) db)) db q)
    (hburn : ∀ h k b db q, I h → q.failed = false →
      unspent surface k db = true ∨ q.Until (· = none) →
        O (.saw (.compare k) b :: h) (some (.wrote (burnCode surface k))) db q)
    (hnone : ∀ h, I h → P none h .idle) (hE : ∀ e h, I h → E e h .idle) :
    ∀ rows h, (∀ row ∈ rows, row.codeHash.verify normalised = true → ∀ h b w, I h →
      P (some .recovery) (.wrote w :: .saw (.compare row.id) b :: h) .idle) → I h →
        (burnFirst surface normalised rows).watch O P E h .idle := by
  intro rows
  have hlive : ∀ rows, (burnFirst surface normalised rows).failed = false := by
    intro rows
    cases rows <;> rfl
  have hopen : ∀ rows v, burnFirst surface normalised rows ≠ .ret (some v) := by
    intro rows v
    cases rows with
    | nil => exact fun h => by cases h
    | cons row rows => exact fun h => by cases h
  have hsilent : ∀ rows, (burnFirst surface normalised rows).Until (· = none) := by
    intro rows
    cases rows with
    | nil => exact rfl
    | cons row rows =>
      constructor
      · intro hquery
        cases hquery
      · exact fun _ => trivial
  induction rows with
  | nil => exact fun h _ hI => hnone h hI
  | cons row rows ih =>
    intro h hsome hI
    have hrest : ∀ h, I h → (burnFirst surface normalised rows).watch O P E h .idle :=
      fun h hI => ih h (fun r hr => hsome r (List.mem_cons_of_mem _ hr)) hI
    simp only [burnFirst, watch_simps, watch_ite]
    refine ⟨fun db => ⟨hsaw _ _ _ _ hI ?_ ?_, fun hmatched => ⟨fun db' => ⟨hburn _ _ _ _ _ hI ?_ ?_,
      fun _ => ?_, fun _ => hrest _ (hIwrote _ _ (hIsaw _ _ _ hI))⟩,
      fun _ => hE _ _ (hIsaw _ _ _ hI)⟩, fun _ => hrest _ (hIsaw _ _ _ hI)⟩, fun _ => hE _ _ hI⟩
    · change (if row.codeHash.verify normalised then _ else _ : MfaOp _).failed = false
      split
      · rfl
      · exact hlive rows
    · intro v
      change (if row.codeHash.verify normalised then _ else _ : MfaOp _) ≠ _
      split
      · exact fun h => by cases h
      · exact hopen rows v
    · change (if _ then _ else _ : MfaOp (Option VerifiedWith)).failed = false
      split
      · rfl
      · exact hlive rows
    · change _ ∨ (if (((db'.codes surface).find? row.id).filter fun c =>
        c.usedAt.isNone).isSome then _ else _ : MfaOp (Option VerifiedWith)).Until _
      cases hunspent : unspent surface row.id db' with
      | true => exact .inl rfl
      | false =>
        right
        rw [if_neg]
        · exact hsilent rows
        · unfold unspent at hunspent
          cases hrow : (db'.codes surface).find? row.id with
          | none => simp
          | some c =>
            have hused : c.usedAt.isSome = true := by simpa [hrow] using hunspent
            simp [Option.filter, Option.isSome_iff_ne_none.mp hused]
    · exact hsome row List.mem_cons_self hmatched _ _ _ hI

theorem watch_consumeCode (I : MfaTrace → Prop) {cfg : MfaConfig} {id : Id}
    {stored : Option SealedSecret} {code : String} {now : ℕ} {h : MfaTrace}
    (hIsaw : ∀ h l b, (∀ s a, l ≠ .account s a) → I h → I (.saw l b :: h))
    (hIwrote : ∀ h w, I h → I (.wrote w :: h))
    (hsaw : ∀ h l db q, I h → q.failed = false → (∀ k v, l = .compare k → q ≠ .ret (some v)) →
      O h (some (.saw l db)) db q)
    (hburn : ∀ h k b db q, I h → q.failed = false →
      unspent surface k db = true ∨ q.Until (· = none) →
        O (.saw (.compare k) b :: h) (some (.wrote (burnCode surface k))) db q)
    (hnone : ∀ h, I h → P none h .idle)
    (htotp : cleanedCode code ≠ "" → ((usableSecret cfg stored).any fun secret =>
      verifyTotp cfg secret (cleanedCode code) now) = true → P (some .totp) h .idle)
    (hrecovery : ∀ h' ws k b w, I h' →
      Presented.seen (· = .codes surface id) h' = some ws →
        (unusedCodes surface id ws).any (fun c =>
          c.codeHash.verify (normalizeRecoveryCode code)) = true →
          P (some .recovery) (.wrote w :: .saw (.compare k) b :: h') .idle)
    (hE : ∀ e h, I h → E e h .idle) (hI : I h) :
    (consumeCode cfg surface id stored code now).watch O P E h .idle := by
  unfold consumeCode
  simp only [watch_ite, watch_simps]
  refine ⟨fun _ => hnone _ hI, fun hne => ⟨htotp hne, fun _ => ⟨fun db => ⟨?_, ?_⟩,
    fun _ => hE _ _ hI⟩⟩⟩
  · refine hsaw _ _ _ _ hI ?_ (fun k v h => by cases h)
    change (burnFirst surface (normalizeRecoveryCode code) (unusedCodes surface id db)).failed =
      false
    cases unusedCodes surface id db <;> rfl
  · -- the rows that were read stay what was seen last of the codes
    refine watch_burnFirst (fun h' => I h' ∧
      Presented.seen (· = .codes surface id) h' = some db) _ (fun h' k b hJ =>
        ⟨hIsaw _ _ _ (fun _ _ h => by cases h) hJ.1, ?_⟩)
      (fun h' w hJ => ⟨hIwrote _ _ hJ.1, hJ.2⟩) (fun h' k db' q hJ hq hv => ?_)
      (fun h' k b db' q hJ hq hburned => hburn _ _ _ _ _ hJ.1 hq hburned)
      (fun h' hJ => hnone _ hJ.1) (fun e h' hJ => hE _ _ hJ.1) _ _
      (fun row hrow hmatched h' b w hJ => ?_) ⟨hIsaw _ _ _ (fun _ _ h => by cases h) hI, ?_⟩
    · simpa [Presented.seen, reads] using hJ.2
    · exact hsaw _ _ _ _ hJ.1 hq fun _ v _ => hv v
    · exact hrecovery _ _ _ _ _ hJ.1 hJ.2 (List.any_eq_true.mpr ⟨row, hrow, hmatched⟩)
    · simp [Presented.seen, reads]

end Comparison

theorem id_of_liveAccount {surface : Surface} {id : Id} {w : MfaWorld} {a : MfaAccount}
    (ha : liveAccount surface id w = some a) : a.id = id :=
  key_of_find? (Option.filter_eq_some_iff.mp ha).1

/-- A wrong code has been compared with the secret of an account where the factor is on. -/
theorem enabled_of_guessed {cfg : MfaConfig} {p : Presented} {w : MfaWorld → MfaWorld}
    {db : MfaWorld}
    (hg : p.guessed cfg [.saw (.account p.surface p.id) db, .wrote w] = true) :
    cleanedCode p.code ≠ "" ∧ ∃ a, liveAccount p.surface p.id db = some a ∧ a.mfaEnabled = true ∧
      (usableSecret cfg a.mfaSecret).any (fun secret =>
        verifyTotp cfg secret (cleanedCode p.code) db.now) = false := by
  simp only [Presented.guessed, Presented.wrong, Presented.comparisons, Presented.seen, reads,
    List.filterMap_cons, List.filterMap_nil, List.find?_cons, List.find?_nil, List.countP_cons,
    List.countP_nil, decide_true, Option.map_some, Option.any_some, and_decide_eq,
    Bool.not_eq_true', ne_eq, Presented.comparison] at hg
  rcases hg with ⟨⟨hbad, -⟩, hcompared⟩
  have hmeets : p.meetsSecret cfg db (fun _ => true) = true := by
    by_contra hnot
    simp [hnot] at hcompared
  simp only [Presented.meetsSecret, ne_eq, decide_not, Bool.and_eq_true, Bool.not_eq_true',
    decide_eq_false_iff_not, Option.any_eq_true] at hmeets
  rcases hmeets with ⟨hne, a, ha, henabled, -⟩
  refine ⟨hne, a, ha, henabled, ?_⟩
  simpa [Presented.meetsSecret, hne, ha, henabled] using hbad

theorem watch_challenge (cfg : MfaConfig) (surface : Surface) (verifiedAt : ℤ) (mfaToken : Jwt)
    (code : String) (p : Presented)
    (hp : (challengedAccount cfg.jwt surface verifiedAt mfaToken).map
      (fun id => Presented.mk surface id code) = some p) :
    (((fun _ => ()) <$> consumeChallenge cfg surface verifiedAt mfaToken code :
      MfaOp Unit).caught).watch (ChallengeObs cfg p) (fun _ _ _ => True) (fun _ _ _ => True)
        [] .idle := by
  rcases Option.map_eq_some_iff.mp hp with ⟨id, hid, rfl⟩
  simp only [consumeChallenge, hid, watch_simps, watch_map, reduceCtorEq, Option.some.injEq,
    forall_eq']
  refine Prog.watch_writeChecked_idle _ _ _ (fun db db' hok => ⟨.pass hok, ?_⟩)
    (fun _ _ _ => .refused) fun _ => trivial
  simp only [loadAccount, watch_simps]
  intro db
  refine ⟨.look (by simp) fun hg => ?_, fun a ha henabled => ?_⟩
  · rcases enabled_of_guessed hg with ⟨hne, a, ha, henabled, hbad⟩
    have hon : ¬a.mfaEnabled = false := by simp [henabled]
    simp only [Prog.running_caught, Prog.running_map, ha]
    change ((if a.mfaEnabled = false then _ else _ : MfaOp Unit) >>= fun _ =>
      consumeCode cfg surface a.id a.mfaSecret code db.now >>= _).running = true
    rw [if_neg hon, consumeCode, if_neg hne, hbad]
    rfl
  · obtain rfl := id_of_liveAccount ha
    -- whatever the comparison gives, a write follows it
    refine watch_consumeCode (· ≠ []) (fun _ _ _ _ _ => by simp) (fun _ _ _ => by simp)
      (fun h l db q hh hq _ => .look hh fun _ => ?_) (fun h k b db q hh hq _ => .burn (by simp) ?_)
      (fun h hh => ?_) (fun _ _ => ?_) (fun h ws k b w hh _ _ => ?_) (fun _ _ _ => trivial)
      (by simp)
    · rw [Prog.running_caught, Prog.running_map]
      exact Prog.running_bind hq fun verifiedWith => by cases verifiedWith <;> rfl
    · rw [Prog.running_caught, Prog.running_map]
      exact Prog.running_bind hq fun verifiedWith => by cases verifiedWith <;> rfl
    · simp only [watch_simps, Prog.watch_throw]
      exact fun _ => .count hh rfl
    · simp only [watch_simps]
      exact fun _ => .succeed (by simp)
    · simp only [watch_simps]
      exact fun _ => .succeed (by simp)

theorem leavesAttempts_saw {l : MfaLook} {db : MfaWorld} : LeavesAttempts (some (.saw l db)) := by
  intro w heq
  cases heq

theorem leavesAttempts_wrote {w : MfaWorld → MfaWorld}
    (hw : ∀ db, (w db).attempts = db.attempts ∧ db.now ≤ (w db).now) :
    LeavesAttempts (some (.wrote w)) := by
  intro w' heq
  cases heq
  exact hw

theorem insertCodes_leaves (surface : Surface) (id : Id) (codes : List String) :
    ∀ db, (insertCodes surface id codes db).attempts = db.attempts ∧
      db.now ≤ (insertCodes surface id codes db).now := by
  unfold insertCodes
  induction codes with
  | nil => exact fun _ => ⟨rfl, le_rfl⟩
  | cons code codes ih => exact fun db => ih (insertCode surface id db code)

theorem watch_disable (cfg : MfaConfig) (surface : Surface) (id : Id) (code : String) :
    (disable cfg surface id code).watch (fun _ o _ _ => LeavesAttempts o) (fun _ _ _ => True)
      (fun _ _ _ => True) [] .idle := by
  have hsaw : ∀ l db, LeavesAttempts (some (.saw l db)) := fun _ _ => leavesAttempts_saw
  simp only [disable, loadAccount, watch_simps, hsaw]
  intro db a _ _
  have hwrites : ∀ h, Prog.watch (fun _ o _ _ => LeavesAttempts o) (fun _ _ _ => True)
      (fun _ _ _ => True) (write (fun _ => [.account surface id]) (setDisabled surface id)
        (fun _ => ()) >>= fun _ => write (fun w => ((w.codes surface).rows.filter fun c =>
          c.accountId = id).map fun c => .code surface c.id) (deleteCodes surface id)
            fun _ => () : MfaOp Unit) h .idle := by
    intro h
    simp only [watch_simps]
    exact fun _ => ⟨leavesAttempts_wrote fun _ => ⟨rfl, le_rfl⟩,
      fun _ => leavesAttempts_wrote fun _ => ⟨rfl, le_rfl⟩⟩
  refine watch_consumeCode (fun _ => True) (fun _ _ _ _ h => h) (fun _ _ h => h)
    (fun _ _ _ _ _ _ _ => leavesAttempts_saw)
    (fun _ k _ _ _ _ _ _ => leavesAttempts_wrote (w := burnCode surface k) fun _ =>
      ⟨rfl, le_rfl⟩) (fun _ _ h => absurd rfl h) (fun _ _ _ => hwrites _)
    (fun _ _ _ _ _ _ _ _ _ => hwrites _) (fun _ _ _ => trivial) trivial

theorem MfaCall.watch_prog (cfg : MfaConfig) (call : MfaCall) :
    (call.prog cfg).watch (call.Observes cfg) (fun _ _ _ => True) (fun _ _ _ => True) [] .idle := by
  have hsaw : ∀ l db, LeavesAttempts (some (.saw l db)) := fun _ _ => leavesAttempts_saw
  cases call with
  | challenge surface verifiedAt mfaToken code =>
    have hwatch : (((fun _ => ()) <$> consumeChallenge cfg surface verifiedAt mfaToken code :
        MfaOp Unit).caught).watch
        (MfaCall.Observes cfg (.challenge surface verifiedAt mfaToken code)) (fun _ _ _ => True)
        (fun _ _ _ => True) [] .idle := by
      cases hid : challengedAccount cfg.jwt surface verifiedAt mfaToken with
      | none =>
        unfold consumeChallenge
        rw [hid]
        exact trivial
      | some id =>
        have hp : (challengedAccount cfg.jwt surface verifiedAt mfaToken).map
            (fun id => Presented.mk surface id code) = some ⟨surface, id, code⟩ := by rw [hid]; rfl
        refine watch_mono (fun h o db q hobs => ?_) (fun _ _ _ h => h) (fun _ _ _ h => h) _ _ _
          (watch_challenge cfg surface verifiedAt mfaToken code _ hp)
        exact ⟨_, hp, hobs⟩
    cases surface <;> exact hwatch
  | enroll surface id draw =>
    have hwatch : (((fun _ => ()) <$> Travelo.enroll cfg surface id draw : MfaOp Unit).caught).watch
        (fun _ o _ _ => LeavesAttempts o) (fun _ _ _ => True) (fun _ _ _ => True) [] .idle := by
      simp only [Travelo.enroll, loadAccount, watch_simps, watch_map, hsaw]
      exact fun _ _ _ _ _ _ _ => ⟨leavesAttempts_wrote fun _ => ⟨rfl, le_rfl⟩,
        fun _ => ⟨leavesAttempts_wrote fun _ => ⟨rfl, le_rfl⟩,
          fun _ => leavesAttempts_wrote (insertCodes_leaves surface id draw.recoveryCodes)⟩⟩
    cases surface <;> exact hwatch
  | verifyEnrolment surface id code =>
    have hwatch : ((Travelo.verifyEnrolment cfg surface id code : MfaOp Unit).caught).watch
        (fun _ o _ _ => LeavesAttempts o) (fun _ _ _ => True) (fun _ _ _ => True) [] .idle := by
      simp only [Travelo.verifyEnrolment, loadAccount, watch_simps, hsaw]
      exact fun _ _ _ _ _ _ _ _ _ _ _ _ => leavesAttempts_wrote fun _ => ⟨rfl, le_rfl⟩
    cases surface <;> exact hwatch
  | disable surface id code => 
    have hwatch : (((Travelo.disable cfg surface id code : MfaOp Unit).caught).watch
        (fun _ o _ _ => LeavesAttempts o) (fun _ _ _ => True) (fun _ _ _ => True) [] .idle) := by
      rw [watch_caught]
      exact watch_disable cfg surface id code
    cases surface <;> exact hwatch
  | tick elapsed =>
    simp only [MfaCall.prog, MfaCall.body, MfaCall.Observes, MfaCall.isChallenge, if_false,
      Bool.false_eq_true, watch_simps]
    exact fun _ => leavesAttempts_wrote fun _ => ⟨rfl, Nat.le_add_right _ _⟩

/-! ## What a step can do -/

section Step

variable {cfg : MfaConfig} {calls : List MfaCall} {surface : Surface} {id : Id} {c c' : MfaRun}
  {ev : Event} {i : ℕ} {s s' : MfaSession} {call : MfaCall} {p : Presented}

theorem underWay_eq (hcall : calls[i]? = some call) (hp : call.offers cfg surface id = some p)
    (hs : c.sessions[i]? = some s) : underWay cfg calls surface id c i =
      (call.isChallenge && (s.running && s.trace ≠ [])) := by
  simp [underWay, offering, hcall, hp, hs]

theorem offering_eq {q : Presented → MfaSession → Bool} (hcall : calls[i]? = some call)
    (hp : call.offers cfg surface id = some p) (hs : c.sessions[i]? = some s) :
    offering cfg calls surface id c q i = q p s := by
  simp [offering, hcall, hp, hs]

theorem comparedBy_eq (hcall : calls[i]? = some call) (hp : call.offers cfg surface id = some p)
    (hs : c.sessions[i]? = some s) : comparedBy cfg calls surface id c i =
      p.comparisons cfg s.trace := by
  simp [comparedBy, hcall, hp, hs]

variable {j : ℕ}

theorem offering_ne {q : Presented → MfaSession → Bool} (hset : c'.sessions = c.sessions.set i s')
    (hj : j ≠ i) :
    offering cfg calls surface id c' q j = offering cfg calls surface id c q j := by
  unfold offering
  rw [hset, List.getElem?_set_ne (Ne.symm hj)]

theorem underWay_ne (hset : c'.sessions = c.sessions.set i s') (hj : j ≠ i) :
    underWay cfg calls surface id c' j = underWay cfg calls surface id c j := by
  unfold underWay
  rw [offering_ne hset hj]

theorem comparedBy_ne (hset : c'.sessions = c.sessions.set i s') (hj : j ≠ i) :
    comparedBy cfg calls surface id c' j = comparedBy cfg calls surface id c j := by
  unfold comparedBy
  rw [hset, List.getElem?_set_ne (Ne.symm hj)]

theorem account_of_offers (hp : call.offers cfg surface id = some p) :
    call.presented cfg = some p ∧ p.surface = surface ∧ p.id = id := by
  rcases Option.filter_eq_some_iff.mp hp with ⟨hpresented, heq⟩
  simp only [and_decide_eq] at heq
  exact ⟨hpresented, heq⟩

/-- What a step is to the account. -/
inductive LockStep (cfg : MfaConfig) (calls : List MfaCall) (surface : Surface) (id : Id)
    (c c' : MfaRun) (i : ℕ) (s s' : MfaSession) : Prop where
  /-- Of a call that presents nothing for it. -/
  | apart (hnone : calls[i]?.bind (MfaCall.offers cfg surface id) = none)
      (hentry : entryOf surface id c'.db = entryOf surface id c.db)
  | quiet (hdb : c'.db = c.db) (htrace : s'.trace = s.trace)
      (hbefore : underWay cfg calls surface id c i = false)
      (hafter : underWay cfg calls surface id c' i = false)
  | look {call : MfaCall} {p : Presented} {l : MfaLook} (hcall : calls[i]? = some call)
      (hp : call.offers cfg surface id = some p) (hdb : c'.db = c.db)
      (htrace : s'.trace = .saw l c.db :: s.trace)
      (hbefore : call.isChallenge = true → underWay cfg calls surface id c i = true)
      (hafter : call.isChallenge = true → p.guessed cfg s'.trace = true →
        underWay cfg calls surface id c' i = true)
      (hmay : MayCompare cfg calls surface id c i call p l s.trace)
  | pass {w} (hempty : s.trace = []) (htrace : s'.trace = [.wrote w])
      (hfree : (entryOf surface id c.db).lockedUntil ≤ c.db.now)
      (hentry : entryOf surface id c'.db =
        if (entryOf surface id c.db).lockedUntil = 0 then entryOf surface id c.db else {})
  | spend {call : MfaCall} {w} (hcall : calls[i]? = some call)
      (hp : (call.offers cfg surface id).isSome = true) (htrace : s'.trace = .wrote w :: s.trace)
      (hentry : entryOf surface id c'.db = entryOf surface id c.db)
      (hbefore : call.isChallenge = true → underWay cfg calls surface id c i = true)
      (hafter : call.isChallenge = true → underWay cfg calls surface id c' i = true)
  | count {w} (htrace : s'.trace = .wrote w :: s.trace)
      (hbefore : underWay cfg calls surface id c i = true)
      (hafter : underWay cfg calls surface id c' i = false)
      (hentry : entryOf surface id c'.db = failedOnce cfg c.db.now (entryOf surface id c.db))
      (hset : (entryOf surface id c.db).lockedUntil < (entryOf surface id c'.db).lockedUntil →
        others calls.length i (underWay cfg calls surface id c) = 0)
  | succeed {call : MfaCall} {p : Presented} (hcall : calls[i]? = some call)
      (hchallenge : call.isChallenge = true) (hp : call.offers cfg surface id = some p)
      (hbefore : underWay cfg calls surface id c i = true)
      (hanswer : c'.answer i = some (.ok ()))
      (hentry : entryOf surface id c'.db = {})

/-- What the sessions keep to. -/
def MfaWatching (cfg : MfaConfig) (calls : List MfaCall) (c : MfaRun) : Prop :=
  Config.Watching (fun i h o db q => ∃ call, calls[i]? = some call ∧ call.Observes cfg h o db q)
    (fun _ _ _ _ => True) c

variable {w : MfaWorld}

theorem mfaWatching_start : MfaWatching cfg calls (MfaRun.start cfg w calls) := by
  refine Config.watching_start fun i q hq => ?_
  rw [List.getElem?_map, Option.map_eq_some_iff] at hq
  rcases hq with ⟨call, hcall, rfl⟩
  exact watch_mono (fun h o db q hobs => ⟨call, hcall, hobs⟩) (fun _ _ _ h => h)
    (fun _ _ _ h => h) _ _ _ (call.watch_prog cfg)

theorem entryOf_of_attempts {w w' : MfaWorld} (h : w'.attempts = w.attempts) :
    entryOf surface id w' = entryOf surface id w := by
  unfold entryOf
  rw [h]

theorem entryOf_setAttempts? {entry : Option Attempts} {surface' : Surface} {id' : Id} :
    entryOf surface id (setAttempts? surface' id' entry w) =
      if surface = surface' ∧ id = id' then entry.getD {} else entryOf surface id w := by
  unfold entryOf setAttempts?
  by_cases hsurface : surface = surface'
  · subst hsurface
    by_cases hid : id = id'
    · subst hid
      simp
    · simp [hid]
  · simp [hsurface]

theorem entryOf_recordFailure :
    entryOf surface id (recordFailure cfg surface id w) =
      failedOnce cfg w.now (entryOf surface id w) := by
  unfold recordFailure
  rw [entryOf_setAttempts?, if_pos ⟨rfl, rfl⟩]
  rfl

theorem entryOf_pass {w w' : MfaWorld} (hok : assertNotLocked surface id w = .ok w') :
    (entryOf surface id w).lockedUntil ≤ w.now ∧ w'.now = w.now ∧
      entryOf surface id w' =
        if (entryOf surface id w).lockedUntil = 0 then entryOf surface id w else {} := by
  unfold assertNotLocked at hok
  cases hentry : w.attempts surface id with
  | none =>
    rw [hentry] at hok
    cases hok
    simp [entryOf, hentry]
  | some entry =>
    have heq : entryOf surface id w = entry := by simp [entryOf, hentry]
    simp only [hentry] at hok
    split_ifs at hok with hlocked hover
    · cases hok
      have hne : ¬entry.lockedUntil = 0 := hover
      refine ⟨by rw [heq]; omega, rfl, ?_⟩
      rw [entryOf_setAttempts?, if_pos ⟨rfl, rfl⟩, heq, if_neg hne]
      rfl
    · cases hok
      have hzero : entry.lockedUntil = 0 := by omega
      refine ⟨by rw [heq]; omega, rfl, ?_⟩
      rw [heq, if_pos hzero]

variable {q : MfaOp MfaAnswer} {h : MfaTrace} {db : MfaWorld}

theorem ChallengeObs.entry_other {w : MfaWorld → MfaWorld}
    (ho : ChallengeObs cfg p h (some (.wrote w)) db q) (hne : ¬(surface = p.surface ∧ id = p.id)) :
    entryOf surface id (w db) = entryOf surface id db := by
  cases ho with
  | pass hok =>
    rename_i db'
    have happlied : applied (assertNotLocked p.surface p.id) db = db' := by simp [applied, hok]
    rw [happlied]
    unfold assertNotLocked at hok
    split at hok
    · cases hok
      rfl
    · split_ifs at hok
      · cases hok
        rw [entryOf_setAttempts?, if_neg hne]
      · cases hok
        rfl
  | burn hh hgoes => exact entryOf_of_attempts rfl
  | count hh hends =>
    unfold recordFailure
    rw [entryOf_setAttempts?, if_neg hne]
  | succeed hh => rw [entryOf_setAttempts?, if_neg hne]

theorem ChallengeObs.of_silent (ho : ChallengeObs cfg p h none db q) : h = [] := by
  cases ho
  rfl

theorem ChallengeObs.of_saw {l : MfaLook} {db db' : MfaWorld}
    (ho : ChallengeObs cfg p h (some (.saw l db')) db q) :
    h ≠ [] ∧ (p.guessed cfg (.saw l db' :: h) = true → q.running = true) := by
  cases ho with
  | look hh hgoes => exact ⟨hh, hgoes⟩

theorem ChallengeObs.now_eq {w : MfaWorld → MfaWorld}
    (ho : ChallengeObs cfg p h (some (.wrote w)) db q) :
    (w db).now = db.now := by
  cases ho with
  | pass hok =>
    have hpass := (entryOf_pass hok).2.1
    simpa [applied, hok] using hpass
  | burn hh hgoes => rfl
  | count hh hends => rfl
  | succeed hh => rfl

theorem MfaWatching.lockStep (hw : MfaWatching cfg calls c)
    (hg : AttemptsCovered cfg calls surface id c ev) (hn : c.next ev = some c') :
    c.db.now ≤ c'.db.now ∧ ∃ i s s', c.sessions[i]? = some s ∧
      c'.sessions = c.sessions.set i s' ∧ LockStep cfg calls surface id c c' i s s' := by
  rcases Config.Watching.observed hw hn with ⟨i, s, s', hs, hset, hobs⟩
  have hs' : c'.sessions[i]? = some s' := by
    rw [hset, List.getElem?_set_self (List.getElem?_eq_some_iff.mp hs).1]
  -- a call that is no challenge is never under way
  have hquiet : ∀ call, calls[i]? = some call → call.isChallenge = false → c'.db = c.db →
      s'.trace = s.trace → LockStep cfg calls surface id c c' i s s' := by
    intro call hcall hno hdb htrace
    exact .quiet hdb htrace (by simp [underWay, hcall, hno]) (by simp [underWay, hcall, hno])
  have hcut : challenges cfg calls surface id i = false → c'.db = c.db → s'.trace = s.trace →
      LockStep cfg calls surface id c c' i s s' := by
    intro hno hdb htrace
    cases hoffers : calls[i]?.bind (MfaCall.offers cfg surface id) with
    | none => exact .apart hoffers (by rw [hdb])
    | some p =>
      rcases Option.bind_eq_some_iff.mp hoffers with ⟨call, hcall, hp⟩
      refine hquiet call hcall ?_ hdb htrace
      simpa [challenges, hcall, hp] using hno
  cases hobs with
  | fault hrunning hdb htrace =>
    exact ⟨by rw [hdb], i, s, s', hs, hset, hcut hg hdb htrace⟩
  | crash hstopped hdb htrace =>
    exact ⟨by rw [hdb], i, s, s', hs, hset, hcut hg hdb htrace⟩
  | silent hrunning ho hdb htrace =>
    refine ⟨by rw [hdb], i, s, s', hs, hset, ?_⟩
    rcases ho with ⟨call, hcall, ho⟩
    cases hoffers : call.offers cfg surface id with
    | none => exact .apart (by simp [hcall, hoffers]) (by rw [hdb])
    | some p =>
      unfold MfaCall.Observes at ho
      split_ifs at ho with hchallenge
      · -- a challenge that the lock refuses
        rcases ho with ⟨p', -, ho⟩
        have hempty : s.trace = [] := ho.of_silent
        refine .quiet hdb htrace ?_ ?_
        · simp [underWay_eq hcall hoffers hs, hempty]
        · simp [underWay_eq hcall hoffers hs', htrace, hempty]
      · exact hquiet call hcall (by simpa using hchallenge) hdb htrace
  | @saw _ _ _ l hrunning hlooks ho hdb htrace =>
    refine ⟨by rw [hdb], i, s, s', hs, hset, ?_⟩
    rcases ho with ⟨call, hcall, ho⟩
    cases hoffers : call.offers cfg surface id with
    | none => exact .apart (by simp [hcall, hoffers]) (by rw [hdb])
    | some p =>
      have hmay := (hg s hs call hcall p hoffers).1 l hlooks
      refine .look hcall hoffers hdb htrace (fun hchallenge => ?_) (fun hchallenge hguessed => ?_)
        hmay
      · unfold MfaCall.Observes at ho
        rw [if_pos hchallenge] at ho
        rcases ho with ⟨p', -, ho⟩
        simp [underWay_eq hcall hoffers hs, hchallenge, hrunning, ho.of_saw.1]
      · unfold MfaCall.Observes at ho
        rw [if_pos hchallenge] at ho
        rcases ho with ⟨p', hp', ho⟩
        obtain rfl := Option.some.inj (hp'.symm.trans (account_of_offers hoffers).1)
        have hgoes : s'.running = true := ho.of_saw.2 (by rw [← htrace]; exact hguessed)
        simp [underWay_eq hcall hoffers hs', hchallenge, hgoes, htrace]
  | @wrote _ _ _ w hrunning hpublishes ho hdb htrace =>
    rcases ho with ⟨call, hcall, ho⟩
    unfold MfaCall.Observes at ho
    split_ifs at ho with hchallenge
    · rcases ho with ⟨p', hp', ho⟩
      refine ⟨by rw [hdb, ho.now_eq], i, s, s', hs, hset, ?_⟩
      cases hoffers : call.offers cfg surface id with
      | none =>
        refine .apart (by simp [hcall, hoffers]) ?_
        rw [hdb]
        refine ho.entry_other ?_
        rintro ⟨rfl, rfl⟩
        simp [MfaCall.offers, hp'] at hoffers
      | some p =>
        rcases account_of_offers hoffers with ⟨hp, rfl, rfl⟩
        obtain rfl := Option.some.inj (hp'.symm.trans hp)
        have hmay := (hg s hs call hcall _ hoffers).2 w (Session.mem_published.mpr hpublishes)
        have hunder : s.trace ≠ [] → underWay cfg calls p'.surface p'.id c i = true := by
          intro hne
          simp [underWay_eq hcall hoffers hs, hchallenge, hrunning, hne]
        generalize hh : s.trace = h at ho
        generalize hq : s'.prog = q at ho
        cases ho with
        | @pass _ db' _ hok =>
          have happlied : applied (assertNotLocked p'.surface p'.id) c.db = db' := by
            simp [applied, hok]
          rcases entryOf_pass hok with ⟨hfree, -, hentry⟩
          refine .pass hh (by rw [htrace, hh]) hfree ?_
          rw [hdb, happlied]
          exact hentry
        | burn hne hgoes =>
          refine .spend hcall (by rw [hoffers]; rfl) htrace ?_ (fun _ => hunder (hh ▸ hne))
            fun _ => ?_
          · rw [hdb]
            exact entryOf_of_attempts rfl
          · have hgoes' : s'.running = true := by
              unfold Session.running
              rw [hq]
              exact hgoes
            simp [underWay_eq hcall hoffers hs', hchallenge, hgoes', htrace]
        | count hne hends =>
          have hends' : s'.running = false := by
            unfold Session.running
            rw [hq]
            exact hends
          refine .count htrace (hunder (hh ▸ hne)) ?_ (by rw [hdb, entryOf_recordFailure]) ?_
          · simp [underWay_eq hcall hoffers hs', hends']
          · rw [hdb]
            exact hmay
        | succeed hne =>
          refine .succeed hcall hchallenge hoffers (hunder (hh ▸ hne)) ?_ ?_
          · simp [Config.answer, hs', Session.answer, hq]
          · rw [hdb, entryOf_setAttempts?, if_pos ⟨rfl, rfl⟩]
            rfl
    · have hleaves := ho w rfl c.db
      refine ⟨by rw [hdb]; exact hleaves.2, i, s, s', hs, hset, ?_⟩
      have hentry : entryOf surface id c'.db = entryOf surface id c.db := by
        rw [hdb]
        exact entryOf_of_attempts hleaves.1
      cases hoffers : call.offers cfg surface id with
      | none => exact .apart (by simp [hcall, hoffers]) hentry
      | some p =>
        exact .spend hcall (by rw [hoffers]; rfl) htrace hentry (fun h => absurd h hchallenge)
          fun h => absurd h hchallenge

theorem answer_stays (hg : AttemptsCovered cfg calls surface id c ev) (hn : c.next ev = some c')
    (hw : MfaWatching cfg calls c) (hj : challenges cfg calls surface id j = true) {a : MfaAnswer}
    (ha : c.answer j = some a) : c'.answer j = some a := by
  rcases Config.Watching.observed hw hn with ⟨i, s, s', hs, hset, hobs⟩
  by_cases hji : j = i
  · subst hji
    have hstill : s.running = false := by
      unfold Config.answer at ha
      rw [hs, Option.bind_some] at ha
      unfold Session.answer at ha
      unfold Session.running
      cases hprog : s.prog with
      | ret b => rfl
      | throw e => rfl
      | exec st k => simp [hprog] at ha
    cases hobs with
    | fault hrunning _ _ => simp [hstill] at hrunning
    | crash _ _ _ =>
      have hno : challenges cfg calls surface id j = false := hg
      simp [hno] at hj
    | silent hrunning _ _ _ => simp [hstill] at hrunning
    | saw hrunning _ _ _ _ => simp [hstill] at hrunning
    | wrote hrunning _ _ _ _ => simp [hstill] at hrunning
  · unfold Config.answer at ha ⊢
    rwa [hset, List.getElem?_set_ne (Ne.symm hji)]

end Step

end Travelo
