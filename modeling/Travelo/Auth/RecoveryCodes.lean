import Travelo.Auth.MfaAttempts

/-!
# Recovery codes

What each call of the second factor observes and writes (`FactorObs`), and from it that a recovery
code is accepted once, in any interleaving and whatever fails: the row is marked used only if it was
not, and a call that could not mark it does not answer with it (`CodesOnce.next`).
-/

namespace Travelo

open ReadCommitted

/-! ## What a call observes -/

/-- The call can only fail, unless it reads something more. -/
abbrev CanOnlyFail (q : MfaOp MfaAnswer) : Prop := q.Until fun a => ∃ e, a = .error e

/-- The history does not end in the comparison of a recovery code. -/
def NotCompared (h : MfaTrace) : Prop := ∀ k b h', h ≠ .saw (.compare k) b :: h'

/-- By what it has read the call has verified a code of the factor with the stored secret, in which
the factor was on. -/
def Presented.verifiedAgainst (cfg : MfaConfig) (p : Presented) (stored : Option SealedSecret)
    (h : MfaTrace) : Bool :=
  (seen (· = .account p.surface p.id) h).any fun w =>
    (liveAccount p.surface p.id w).any (fun a => a.mfaEnabled && a.mfaSecret = stored) &&
      (p.meetsSecret cfg w (fun secret => verifyTotp cfg secret (cleanedCode p.code) w.now) ||
        (seen (· = .codes p.surface p.id) h).any p.recovers)

/-- The call reads the account and nothing else. -/
def MfaCall.enrols : MfaCall → Bool
  | .enroll _ _ _ => true
  | .verifyEnrolment _ _ _ => true
  | _ => false

/-- A call does not end well with a comparison. -/
def WrittenLast (a : MfaAnswer) (h : MfaTrace) (_ : Tx MfaWorld) : Prop :=
  a = .ok () → NotCompared h

variable {h : MfaTrace}

theorem writtenLast_wrote {a : MfaAnswer} {w : MfaWorld → MfaWorld} {t : Tx MfaWorld} :
    WrittenLast a (.wrote w :: h) t := by
  intro _ k b h' heq
  cases heq

theorem writtenLast_error {e : MfaErr} {t : Tx MfaWorld} :
    WrittenLast (.error e) h t := by
  intro heq
  cases heq

/-- What a call observes, as far as the accounts and the recovery codes go. -/
inductive FactorObs (cfg : MfaConfig) :
    MfaCall → MfaTrace → Option (Obs MfaWorld MfaLook) → MfaWorld → MfaOp MfaAnswer → Prop where
  | silent {call : MfaCall} {h db q} (hno : call.enrols = false) (hfails : CanOnlyFail q) :
      FactorObs cfg call h none db q
  | look {call : MfaCall} {h l db q} (hfirst : call.enrols = true → h = []) :
      FactorObs cfg call h (some (.saw l db)) db q
  /-- The memory or the clock. -/
  | memory {call : MfaCall} {h w db q} (hno : call.enrols = false)
      (hw : ∀ db : MfaWorld, (w db).accounts = db.accounts ∧ (w db).codes = db.codes ∧
        (w db).codesDrawn = db.codesDrawn)
      (hh : NotCompared h ∨ CanOnlyFail q) : FactorObs cfg call h (some (.wrote w)) db q
  | burn {call : MfaCall} {p k b h db q} (hp : call.presented cfg = some p)
      (hspent : unspent p.surface k db = true ∨ CanOnlyFail q) :
      FactorObs cfg call (.saw (.compare k) b :: h) (some (.wrote (burnCode p.surface k))) db q
  | secret {surface id draw key b db q} (hkey : cfg.MFA_SECRET_KEY = some key)
      (hgoes : q.running = true) : FactorObs cfg (.enroll surface id draw)
        [.saw (.account surface id) b]
        (some (.wrote (setSecret surface id ⟨draw.secret, key⟩))) db q
  | replace {surface id draw w b db q} : FactorObs cfg (.enroll surface id draw)
        [.wrote w, .saw (.account surface id) b] (some (.wrote (deleteCodes surface id))) db q
  | fill {surface id draw w w' b db q} : FactorObs cfg (.enroll surface id draw)
        [.wrote w', .wrote w, .saw (.account surface id) b]
        (some (.wrote (insertCodes surface id draw.recoveryCodes))) db q
  | enable {surface id code b a secret db q} (ha : liveAccount surface id b = some a)
      (hsecret : usableSecret cfg a.mfaSecret = some secret)
      (hcode : verifyTotp cfg secret code b.now = true) :
      FactorObs cfg (.verifyEnrolment surface id code) [.saw (.account surface id) b]
        (some (.wrote (setEnabled surface id))) db q
  | disable {surface id code stored h db q}
      (hverified : Presented.verifiedAgainst cfg ⟨surface, id, code⟩ stored h = true)
      (hh : NotCompared h) : FactorObs cfg (.disable surface id code) h
        (some (.wrote (setDisabled surface id))) db q
  | drop {surface id code w h db q} : FactorObs cfg (.disable surface id code) (.wrote w :: h)
        (some (.wrote (deleteCodes surface id))) db q

theorem notCompared_wrote {w : MfaWorld → MfaWorld} :
    NotCompared (.wrote w :: h) := by
  intro k b h' heq
  cases heq

theorem notCompared_look {l : MfaLook} {b : MfaWorld} (hl : ∀ k, l ≠ .compare k) :
    NotCompared (.saw l b :: h) := by
  intro k b' h' heq
  cases heq
  exact hl k rfl

theorem seen_wrote {isIt : MfaLook → Bool} {w : MfaWorld → MfaWorld} :
    Presented.seen isIt (.wrote w :: h) = Presented.seen isIt h := rfl

theorem seen_skip {isIt : MfaLook → Bool} {l : MfaLook} {b : MfaWorld} (hl : isIt l = false) :
    Presented.seen isIt (.saw l b :: h) = Presented.seen isIt h := by
  simp [Presented.seen, reads, hl]

section Watch

variable (cfg : MfaConfig)

variable (surface : Surface) (id : Id)

theorem watch_enroll (draw : EnrolDraw) :
    (((fun _ => ()) <$> Travelo.enroll cfg surface id draw : MfaOp Unit).caught).watch
      (FactorObs cfg (.enroll surface id draw)) WrittenLast (fun _ _ _ => True) [] .idle := by
  simp only [Travelo.enroll, loadAccount, writtenLast_error, writtenLast_wrote, watch_simps,
    watch_map]
  intro key hkey db
  exact ⟨.look fun _ => rfl,
    fun a _ _ db' => ⟨.secret hkey rfl, fun _ => ⟨.replace, fun _ => .fill⟩⟩⟩

theorem watch_verifyEnrolment (code : String) :
    (Travelo.verifyEnrolment cfg surface id code).caught.watch
      (FactorObs cfg (.verifyEnrolment surface id code)) WrittenLast (fun _ _ _ => True)
        [] .idle := by
  simp only [Travelo.verifyEnrolment, loadAccount, writtenLast_error, writtenLast_wrote,
    watch_simps]
  intro key hkey b
  refine ⟨.look (fun _ => rfl), ?_⟩
  intro a ha _ stored hstored secret hsecret hcode _
  refine .enable ha ?_ (by simpa using hcode)
  simp [usableSecret, hstored, hkey, hsecret]

theorem canOnlyFail_bind {q : MfaOp (Option VerifiedWith)} {f : Option VerifiedWith → MfaOp Unit}
    (hq : q.Until (· = none)) (hf : (f none).Until fun _ => False) :
    CanOnlyFail (q >>= f).caught := by
  refine Prog.until_caught _ (Prog.until_bind (fun v hv => ?_) q hq)
  rw [hv]
  exact hf

theorem map_bind' {α β γ : Type} (q : MfaOp α) (f : α → MfaOp β) (g : β → γ) :
    g <$> (q >>= f) = q >>= fun v => g <$> f v := Prog.bind_assoc q f fun b => pure (g b)

theorem watch_switchOff (code : String) :
    (Travelo.disable cfg surface id code).caught.watch (FactorObs cfg (.disable surface id code))
      WrittenLast (fun _ _ _ => True) [] .idle := by
  have hfirst : ∀ h : MfaTrace, (MfaCall.disable surface id code).enrols = true → h = [] :=
    fun _ h => by cases h
  simp only [Travelo.disable, loadAccount, writtenLast_error, watch_simps]
  intro b
  refine ⟨.look (hfirst _), fun a ha hon => ?_⟩
  have henabled : a.mfaEnabled = true := by simpa using hon
  -- both writes, once a code of the factor is verified
  have hwrites : ∀ h, Presented.verifiedAgainst cfg ⟨surface, id, code⟩ a.mfaSecret h = true →
      NotCompared h → Prog.watch (fun h o db q => FactorObs cfg (.disable surface id code) h o db
        q.caught) (fun _ => WrittenLast (.ok ())) (fun e => WrittenLast (.error e))
          (write (fun _ => [.account surface id]) (setDisabled surface id) (fun _ => ()) >>=
            fun _ => write (fun w => ((w.codes surface).rows.filter fun c =>
              c.accountId = id).map fun c => .code surface c.id) (deleteCodes surface id)
                fun _ => () : MfaOp Unit) h .idle := by
    intro h hverified hh
    simp only [writtenLast_error, writtenLast_wrote, watch_simps]
    exact fun _ => ⟨.disable hverified hh, fun _ => .drop⟩
  refine watch_consumeCode (fun h => Presented.seen (· = .account surface id) h = some b)
    (fun h l b' hl hI => ?_) (fun h w hI => hI) (fun h l db q _ hq hv => ?_)
    (fun h k b' db q _ hq hspent => ?_) (fun _ _ h => absurd rfl h) (fun hne htotp _ => ?_)
    (fun h ws k b' w hI hcodes hrecovers _ => ?_) (fun _ _ _ => writtenLast_error) ?_
  · rw [← hI]
    simp [Presented.seen, reads, hl surface id]
  · exact .look (hfirst _)
  · refine .burn (p := ⟨surface, id, code⟩) rfl (hspent.imp_right fun hnone => ?_)
    exact canOnlyFail_bind hnone trivial
  · refine hwrites _ ?_ (notCompared_look fun k h => by cases h)
    have hmeets : Presented.meetsSecret cfg ⟨surface, id, code⟩ b (fun secret =>
        verifyTotp cfg secret (cleanedCode code) b.now) = true := by
      simp [Presented.meetsSecret, hne, ha, henabled, htotp]
    simp [Presented.verifiedAgainst, Presented.seen, reads, ha, henabled, hmeets]
  · refine hwrites _ ?_ notCompared_wrote
    have hrecovers' : Presented.recovers ⟨surface, id, code⟩ ws = true := hrecovers
    unfold Presented.verifiedAgainst
    rw [seen_wrote, seen_wrote, seen_skip (by simp), seen_skip (by simp), hI, hcodes]
    simp [ha, henabled, hrecovers']
  · simp [Presented.seen, reads]

theorem assertNotLocked_leaves {surface : Surface} {id : Id} (w : MfaWorld) :
    (applied (assertNotLocked surface id) w).accounts = w.accounts ∧
      (applied (assertNotLocked surface id) w).codes = w.codes ∧
        (applied (assertNotLocked surface id) w).codesDrawn = w.codesDrawn := by
  unfold applied assertNotLocked
  split
  · rename_i w' hok
    split at hok
    · cases hok
      exact ⟨rfl, rfl, rfl⟩
    · split_ifs at hok
      · cases hok
        exact ⟨rfl, rfl, rfl⟩
      · cases hok
        exact ⟨rfl, rfl, rfl⟩
  · exact ⟨rfl, rfl, rfl⟩

theorem watch_signIn (verifiedAt : ℤ) (mfaToken : Jwt) (code : String) :
    (((fun _ => ()) <$> Travelo.consumeChallenge cfg surface verifiedAt mfaToken code :
      MfaOp Unit).caught).watch (FactorObs cfg (.challenge surface verifiedAt mfaToken code))
        WrittenLast (fun _ _ _ => True) [] .idle := by
  have hfirst : ∀ h : MfaTrace,
      (MfaCall.challenge surface verifiedAt mfaToken code).enrols = true → h = [] :=
    fun _ h => by cases h
  cases hid : challengedAccount cfg.jwt surface verifiedAt mfaToken with
  | none =>
    unfold Travelo.consumeChallenge
    rw [hid]
    exact writtenLast_error
  | some id =>
    have hp : MfaCall.presented cfg (.challenge surface verifiedAt mfaToken code) =
        some ⟨surface, id, code⟩ := by simp [MfaCall.presented, hid]
    simp only [Travelo.consumeChallenge, hid, writtenLast_error, watch_simps, watch_map,
      reduceCtorEq, Option.some.injEq, forall_eq']
    refine Prog.watch_writeChecked_idle _ _ _ (fun db db' hok => ⟨.memory rfl
      assertNotLocked_leaves (.inl fun _ _ _ h => by cases h), ?_⟩)
      (fun _ e _ => .silent rfl ⟨e, rfl⟩) fun _ => writtenLast_error
    simp only [loadAccount, writtenLast_error, watch_simps]
    intro b
    refine ⟨.look (hfirst _), fun a ha hon => ?_⟩
    obtain rfl := id_of_liveAccount ha
    -- the failure is counted, or the attempts are forgotten
    have hfails : ∀ h, Prog.watch (fun h o db q => FactorObs cfg
        (.challenge surface verifiedAt mfaToken code) h o db ((fun _ => ()) <$> q).caught)
          (fun _ => WrittenLast (.ok ())) (fun e => WrittenLast (.error e)) (do
            write (fun _ => []) (recordFailure cfg surface a.id) fun _ => ()
            throw MfaErr.mfaInvalidCode : MfaOp (Id × VerifiedWith)) h .idle := by
      intro h
      simp only [writtenLast_error, watch_simps, Prog.watch_throw]
      exact fun _ => .memory rfl (fun _ => ⟨rfl, rfl, rfl⟩) (.inr ⟨_, rfl⟩)
    have hpasses : ∀ how h, NotCompared h → Prog.watch (fun h o db q => FactorObs cfg
        (.challenge surface verifiedAt mfaToken code) h o db ((fun _ => ()) <$> q).caught)
          (fun _ => WrittenLast (.ok ())) (fun e => WrittenLast (.error e)) (do
            write (fun _ => []) (setAttempts? surface a.id none) fun _ => ()
            return (a.id, how) : MfaOp (Id × VerifiedWith)) h .idle := by
      intro how h hh
      simp only [writtenLast_error, writtenLast_wrote, watch_simps]
      exact fun _ => .memory rfl (fun _ => ⟨rfl, rfl, rfl⟩) (.inl hh)
    refine watch_consumeCode (fun _ => True) (fun _ _ _ _ h => h) (fun _ _ h => h)
      (fun h l db q _ hq hv => ?_) (fun h k b' db q _ hq hspent => ?_) (fun h _ => hfails h)
      (fun _ _ => hpasses _ _ (notCompared_look fun k h => by cases h))
      (fun _ _ _ _ _ _ _ _ => hpasses _ _ notCompared_wrote) (fun _ _ _ => writtenLast_error)
      trivial
    · exact .look (hfirst _)
    · refine .burn (p := ⟨surface, a.id, code⟩) hp (hspent.imp_right fun hnone => ?_)
      rw [map_bind']
      refine canOnlyFail_bind hnone ⟨fun _ r => ?_, fun _ => trivial⟩
      cases r <;> trivial

theorem MfaCall.watch_factor (call : MfaCall) :
    (call.prog cfg).watch (FactorObs cfg call) WrittenLast (fun _ _ _ => True) [] .idle := by
  cases call with
  | challenge surface verifiedAt mfaToken code =>
    have hwatch := watch_signIn cfg surface verifiedAt mfaToken code
    cases surface <;> exact hwatch
  | enroll surface id draw =>
    have hwatch := watch_enroll cfg surface id draw
    cases surface <;> exact hwatch
  | verifyEnrolment surface id code =>
    have hwatch := watch_verifyEnrolment cfg surface id code
    cases surface <;> exact hwatch
  | disable surface id code =>
    have hwatch := watch_switchOff cfg surface id code
    cases surface <;> exact hwatch
  | tick elapsed =>
    simp only [MfaCall.prog, MfaCall.body, watch_simps, writtenLast_error, writtenLast_wrote]
    exact fun _ => .memory rfl (fun _ => ⟨rfl, rfl, rfl⟩)
      (.inl fun _ _ _ h => by cases h)

end Watch

/-! ## The rows -/

/-- Every row of a recovery code was drawn. -/
def Drawn (w : MfaWorld) : Prop := ∀ surface, ∀ r ∈ w.codes surface, r.id < w.codesDrawn

/-- The code was drawn, and is used or gone. -/
def Spent (surface : Surface) (k : Id) (w : MfaWorld) : Prop :=
  k < w.codesDrawn ∧ unspent surface k w = false

/-- What is spent stays so. -/
structure CodesGo (w w' : MfaWorld) : Prop where
  drawn : Drawn w → Drawn w'
  spent : Drawn w → ∀ surface k, Spent surface k w → Spent surface k w'

section Rows

variable {surface surface' : Surface} {id k : Id} {w w' w'' : MfaWorld}

theorem CodesGo.trans (h : CodesGo w w') (h' : CodesGo w' w'') : CodesGo w w'' :=
  ⟨fun hd => h'.drawn (h.drawn hd), fun hd s k hk => h'.spent (h.drawn hd) s k (h.spent hd s k hk)⟩

theorem codesGo_of_codes (hcodes : w'.codes = w.codes) (hdrawn : w'.codesDrawn = w.codesDrawn) :
    CodesGo w w' := by
  constructor
  · intro hd s r hr
    rw [hdrawn]
    exact hd s r (hcodes ▸ hr)
  · intro hd s k hk
    unfold Spent unspent at hk ⊢
    rw [hcodes, hdrawn]
    exact hk

theorem codesGo_delete : CodesGo w (deleteCodes surface id w) := by
  have hrows : ∀ s r, r ∈ (deleteCodes surface id w).codes s → r ∈ w.codes s := by
    intro s r hr
    unfold deleteCodes at hr
    by_cases hs : s = surface
    · subst hs
      simp only [Function.update_self] at hr
      exact (Table.mem_delete.mp hr).1
    · simpa [Function.update_of_ne hs] using hr
  constructor
  · exact fun hd s r hr => hd s r (hrows s r hr)
  · rintro hd s k ⟨hlt, hk⟩
    refine ⟨hlt, ?_⟩
    unfold unspent at hk ⊢
    unfold deleteCodes
    by_cases hs : s = surface
    · subst hs
      simp only [Function.update_self]
      rw [Table.find?_delete]
      cases hrow : (w.codes s).find? k with
      | none => rfl
      | some r =>
        rw [hrow] at hk
        by_cases hown : r.accountId = id
        · simp [Option.filter, hown]
        · simpa [Option.filter, hown] using hk
    · simpa [Function.update_of_ne hs] using hk

theorem codesGo_insertCode {code : String} : CodesGo w (insertCode surface id w code) := by
  have hfresh : ∀ (_ : Drawn w) s, (w.codes s).hasKey w.codesDrawn = false := by
    intro hd s
    refine Table.hasKey_eq_false.mpr fun r hr heq => ?_
    have hlt := hd s r hr
    rw [heq] at hlt
    exact absurd hlt (lt_irrefl _)
  constructor
  · intro hd s r hr
    unfold insertCode at hr ⊢
    by_cases hs : s = surface
    · subst hs
      simp only [Function.update_self] at hr ⊢
      rcases mem_or_eq_of_mem_insert hr with hold | rfl
      · exact Nat.lt_succ_of_lt (hd s r hold)
      · exact Nat.lt_succ_self _
    · simp only [Function.update_of_ne hs] at hr ⊢
      exact Nat.lt_succ_of_lt (hd s r hr)
  · rintro hd s k ⟨hlt, hk⟩
    refine ⟨Nat.lt_succ_of_lt hlt, ?_⟩
    unfold unspent at hk ⊢
    unfold insertCode
    by_cases hs : s = surface
    · subst hs
      simp only [Function.update_self]
      rw [find?_insert (hfresh hd s), if_neg (Nat.ne_of_gt hlt)]
      exact hk
    · simpa [Function.update_of_ne hs] using hk

theorem codesGo_insertCodes {codes : List String} :
    ∀ w, CodesGo w (insertCodes surface id codes w) := by
  unfold insertCodes
  induction codes with
  | nil => exact fun w => codesGo_of_codes rfl rfl
  | cons code codes ih => exact fun w => codesGo_insertCode.trans (ih _)

theorem unspent_burnCode : unspent surface' k (burnCode surface id w) =
    (unspent surface' k w && !(surface' = surface && k = id)) := by
  unfold unspent burnCode
  by_cases hs : surface' = surface
  · subst hs
    simp only [Function.update_self, decide_true, Bool.true_and]
    rw [find?_update]
    cases hrow : (w.codes surface').find? k with
    | none => rfl
    | some r =>
      have hkey : r.id = k := key_of_find? hrow
      by_cases hk : k = id
      · cases hused : r.usedAt <;> simp [hkey, hk, hused]
      · simp [hkey, hk]
  · simp [hs]

theorem codesGo_burn : CodesGo w (burnCode surface id w) := by
  constructor
  · intro hd s r hr
    unfold burnCode at hr ⊢
    by_cases hs : s = surface
    · subst hs
      simp only [Function.update_self] at hr
      rcases Table.mem_update.mp hr with ⟨r', hr', heq⟩
      have hid : r.id = r'.id := by
        rw [heq]
        split <;> rfl
      rw [hid]
      exact hd s r' hr'
    · simp only [Function.update_of_ne hs] at hr
      exact hd s r hr
  · rintro hd s k ⟨hlt, hk⟩
    exact ⟨hlt, by rw [unspent_burnCode, hk, Bool.false_and]⟩

theorem spent_burnCode (hd : Drawn w) (hk : unspent surface k w = true) :
    Spent surface k (burnCode surface k w) := by
  refine ⟨?_, by simp [unspent_burnCode]⟩
  rcases (Option.any_eq_true _ _).mp hk with ⟨r, hr, -⟩
  have hlt := hd surface r (mem_of_find? hr)
  rwa [show r.id = k from key_of_find? hr] at hlt

end Rows

/-! ## Runs -/

/-- The recovery code that was compared last, if that was the last read. -/
def comparedLast (h : MfaTrace) : Option Id :=
  match (reads h).head? with
  | some (.compare k, _) => some k
  | _ => none

section Runs

variable (cfg : MfaConfig) (calls : List MfaCall) (c : MfaRun) (surface : Surface) (k : Id) (i : ℕ)

/-- Call `i` presents a code on the surface and its session is as `q` says. -/
def PresentsOn (q : MfaSession → Prop) : Prop :=
  ∃ call p s, calls[i]? = some call ∧ call.presented cfg = some p ∧ p.surface = surface ∧
    c.sessions[i]? = some s ∧ q s

/-- Call `i` has accepted recovery code `k`. -/
def Redeemed : Prop :=
  PresentsOn cfg calls c surface i fun s =>
    s.answer = some (.ok ()) ∧ comparedLast s.trace = some k

/-- Call `i` is about to, or has. -/
def Redeems : Prop :=
  PresentsOn cfg calls c surface i fun s =>
    comparedLast s.trace = some k ∧ NotCompared s.trace ∧ ¬CanOnlyFail s.prog

/-- What the sessions keep to. -/
def FactorWatching : Prop :=
  Config.Watching (fun i h o db q => ∃ call, calls[i]? = some call ∧ FactorObs cfg call h o db q)
    (fun _ => WrittenLast) c

/-- What holds of the recovery codes in every run. -/
structure CodesOnce : Prop where
  watching : FactorWatching cfg calls c
  drawn : Drawn c.db
  /-- Whoever accepts a code has marked it. -/
  spent : ∀ surface k i, Redeems cfg calls c surface k i → Spent surface k c.db
  once : ∀ surface k i j, Redeems cfg calls c surface k i → Redeems cfg calls c surface k j → i = j

end Runs

section Step

variable {cfg : MfaConfig} {calls : List MfaCall} {c c' : MfaRun} {ev : Event} {surface : Surface}
  {k : Id} {i : ℕ}

theorem factorWatching_start {w : MfaWorld} :
    FactorWatching cfg calls (MfaRun.start cfg w calls) := by
  refine Config.watching_start fun i q hq => ?_
  rw [List.getElem?_map, Option.map_eq_some_iff] at hq
  rcases hq with ⟨call, hcall, rfl⟩
  exact watch_mono (fun h o db q hobs => ⟨call, hcall, hobs⟩) (fun _ _ _ h => h)
    (fun _ _ _ h => h) _ _ _ (call.watch_factor cfg)

theorem FactorObs.codesGo {call : MfaCall} {h : MfaTrace} {w : MfaWorld → MfaWorld} {db : MfaWorld}
    {q : MfaOp MfaAnswer} (ho : FactorObs cfg call h (some (.wrote w)) db q) :
    CodesGo db (w db) := by
  cases ho with
  | memory hno hw hh => exact codesGo_of_codes (hw db).2.1 (hw db).2.2
  | burn hp hspent => exact codesGo_burn
  | secret hkey hgoes => exact codesGo_of_codes rfl rfl
  | replace => exact codesGo_delete
  | fill => exact codesGo_insertCodes db
  | enable ha hsecret hcode => exact codesGo_of_codes rfl rfl
  | disable hverified hh => exact codesGo_of_codes rfl rfl
  | drop => exact codesGo_delete

theorem notCompared_iff {h : MfaTrace} {k : Id} (hk : comparedLast h = some k) :
    ¬NotCompared h → ∃ b h', h = .saw (.compare k) b :: h' := by
  intro hnot
  unfold NotCompared at hnot
  push Not at hnot
  rcases hnot with ⟨k', b, h', rfl⟩
  have heq : comparedLast (.saw (.compare k') b :: h') = some k' := rfl
  rw [heq] at hk
  cases hk
  exact ⟨b, h', rfl⟩

theorem FactorObs.marks {call : MfaCall} {p : Presented} {b : MfaWorld} {h : MfaTrace}
    {w : MfaWorld → MfaWorld} {db : MfaWorld} {q : MfaOp MfaAnswer}
    (ho : FactorObs cfg call (.saw (.compare k) b :: h) (some (.wrote w)) db q)
    (hp : call.presented cfg = some p) (hq : ¬CanOnlyFail q) :
    w = burnCode p.surface k ∧ unspent p.surface k db = true := by
  cases ho with
  | memory hno hw hh =>
    rcases hh with hnot | hfails
    · exact absurd rfl (hnot k b h)
    · exact absurd hfails hq
  | burn hp' hspent =>
    obtain rfl := Option.some.inj (hp.symm.trans hp')
    exact ⟨rfl, hspent.resolve_right hq⟩
  | disable hverified hh => exact absurd rfl (hh k b h)

theorem FactorWatching.redeems (hw : FactorWatching cfg calls c) (hn : c.next ev = some c')
    (h : Redeems cfg calls c' surface k i) :
    Redeems cfg calls c surface k i ∨
      (c'.db = burnCode surface k c.db ∧ unspent surface k c.db = true ∧
        ∀ j, j ≠ i → Redeems cfg calls c' surface k j → Redeems cfg calls c surface k j) := by
  rcases h with ⟨call, p, s₁, hcall, hp, rfl, hs₁, hlast, hnot, hopen⟩
  rcases Config.Watching.observed hw hn with ⟨j, s, s', hs, hset, hobs⟩
  have hothers : ∀ j', j' ≠ j → Redeems cfg calls c' p.surface k j' →
      Redeems cfg calls c p.surface k j' := by
    rintro j' hj' ⟨call', p', t, hcall', hp', hsurface, ht, hrest⟩
    rw [hset, List.getElem?_set_ne (Ne.symm hj')] at ht
    exact ⟨call', p', t, hcall', hp', hsurface, ht, hrest⟩
  by_cases hji : i = j
  · subst hji
    have hs' : c'.sessions[i]? = some s' := by
      rw [hset, List.getElem?_set_self (List.getElem?_eq_some_iff.mp hs).1]
    obtain rfl := Option.some.inj (hs₁.symm.trans hs')
    have hsame : s₁.trace = s.trace → Redeems cfg calls c p.surface k i := by
      intro htrace
      rw [htrace] at hlast hnot
      refine ⟨call, p, s, hcall, hp, rfl, hs, hlast, hnot, fun hfails => hopen ?_⟩
      refine Config.until_next hn hs hs₁ (fun l b h => ?_) hfails
      rw [htrace] at h
      exact absurd h (List.cons_ne_self _ _).symm
    cases hobs with
    | fault _ _ htrace => exact .inl (hsame htrace)
    | crash _ _ htrace => exact .inl (hsame htrace)
    | silent _ _ _ htrace => exact .inl (hsame htrace)
    | @saw _ _ _ l _ _ _ _ htrace =>
      -- a comparison, and nothing written after it
      rw [htrace] at hlast hnot
      cases l with
      | compare k' => exact absurd rfl (hnot k' c.db s.trace)
      | account s a => cases hlast
      | codes s a => cases hlast
    | @wrote _ _ _ w _ _ ho hdb htrace =>
      have hlast' : comparedLast s.trace = some k := by
        rw [htrace] at hlast
        exact hlast
      by_cases hbefore : NotCompared s.trace
      · refine .inl ⟨call, p, s, hcall, hp, rfl, hs, hlast', hbefore, fun hfails => hopen ?_⟩
        refine Config.until_next hn hs hs₁ (fun l b h => ?_) hfails
        rw [htrace] at h
        cases h
      · rcases notCompared_iff hlast' hbefore with ⟨b, h', hh⟩
        rcases ho with ⟨call', hcall', ho⟩
        obtain rfl := Option.some.inj (hcall.symm.trans hcall')
        rw [hh] at ho
        rcases ho.marks hp hopen with ⟨rfl, hunspent⟩
        exact .inr ⟨hdb, hunspent, hothers⟩
  · exact .inl (hothers i hji ⟨call, p, s₁, hcall, hp, rfl, hs₁, hlast, hnot, hopen⟩)

theorem FactorWatching.codesGo (hw : FactorWatching cfg calls c) (hn : c.next ev = some c') :
    CodesGo c.db c'.db := by
  rcases Config.Watching.observed hw hn with ⟨j, s, s', hs, hset, hobs⟩
  cases hobs with
  | fault _ hdb _ => rw [hdb]; exact codesGo_of_codes rfl rfl
  | crash _ hdb _ => rw [hdb]; exact codesGo_of_codes rfl rfl
  | silent _ _ hdb _ => rw [hdb]; exact codesGo_of_codes rfl rfl
  | saw _ _ _ hdb _ => rw [hdb]; exact codesGo_of_codes rfl rfl
  | wrote _ _ ho hdb _ =>
    rcases ho with ⟨call, -, ho⟩
    rw [hdb]
    exact ho.codesGo

theorem CodesOnce.next (hk : CodesOnce cfg calls c) (hn : c.next ev = some c') :
    CodesOnce cfg calls c' := by
  have hgo := hk.watching.codesGo hn
  refine ⟨Config.Watching.next hk.watching hn, hgo.drawn hk.drawn, ?_, ?_⟩
  · intro surface k i h
    rcases hk.watching.redeems hn h with hold | ⟨hdb, hunspent, -⟩
    · exact hgo.spent hk.drawn surface k (hk.spent surface k i hold)
    · rw [hdb]
      exact spent_burnCode hk.drawn hunspent
  · intro surface k i j hi hj
    -- what is marked now was accepted by nobody before
    have hnobody : unspent surface k c.db = true → ∀ j, ¬Redeems cfg calls c surface k j := by
      intro hunspent j hj
      have hgone := (hk.spent surface k j hj).2
      rw [hunspent] at hgone
      cases hgone
    by_contra hij
    rcases hk.watching.redeems hn hi with hi' | ⟨-, hunspent, hothers⟩
    · rcases hk.watching.redeems hn hj with hj' | ⟨-, hunspent, -⟩
      · exact hij (hk.once surface k i j hi' hj')
      · exact hnobody hunspent i hi'
    · exact hnobody hunspent j (hothers j (Ne.symm hij) hj)

theorem codesOnce_start {w : MfaWorld} (hw : Drawn w) :
    CodesOnce cfg calls (MfaRun.start cfg w calls) := by
  have hnone : ∀ surface k i, ¬Redeems cfg calls (MfaRun.start cfg w calls) surface k i := by
    rintro surface k i ⟨call, p, s, -, -, -, hs, hlast, -⟩
    simp only [MfaRun.start, Config.start, List.getElem?_map, Option.map_map,
      Option.map_eq_some_iff] at hs
    rcases hs with ⟨call', -, rfl⟩
    cases hlast
  exact ⟨factorWatching_start, hw, fun surface k i h => absurd h (hnone surface k i),
    fun surface k i _ h => absurd h (hnone surface k i)⟩

theorem FactorWatching.redeems_of_redeemed (hw : FactorWatching cfg calls c)
    (h : Redeemed cfg calls c surface k i) : Redeems cfg calls c surface k i := by
  rcases h with ⟨call, p, s, hcall, hp, hsurface, hs, hanswer, hlast⟩
  have hprog : s.prog = .ret (.ok ()) := by
    unfold Session.answer at hanswer
    cases hq : s.prog with
    | ret a =>
      rw [hq] at hanswer
      cases hanswer
      rfl
    | throw e => simp [hq] at hanswer
    | exec st q => simp [hq] at hanswer
  have hwatch := hw i s hs
  rw [hprog] at hwatch
  refine ⟨call, p, s, hcall, hp, hsurface, hs, hlast, hwatch rfl, ?_⟩
  rw [hprog]
  rintro ⟨e, he⟩
  cases he

theorem CodesOnce.redeemed_once (hk : CodesOnce cfg calls c) {j : ℕ}
    (hi : Redeemed cfg calls c surface k i) (hj : Redeemed cfg calls c surface k j) : i = j :=
  hk.once surface k i j (hk.watching.redeems_of_redeemed hi) (hk.watching.redeems_of_redeemed hj)

end Step

end Travelo
