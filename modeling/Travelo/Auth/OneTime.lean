import Travelo.Auth
import Travelo.ReadCommitted.Answers
import Travelo.ReadCommitted.Fragments
import Travelo.ReadCommitted.Tally

/-!
# One-time codes

A verification reads the newest code of the number that is not consumed, compares, and then
writes: the attempts it read plus one, or the consumption, by the code's id alone. Guesses that
are compared before either is counted are counted as one; a code that two verifications read is
accepted twice; and the code before the newest is accepted once the newest is consumed
(`codes_accepted_again`).

`codes_one_time`: as long as a code is compared only when its row counts every wrong guess before,
and accepted only when it is the one code of its number that is not consumed, at most
`OTP_MAX_ATTEMPTS` wrong guesses meet one code, each code is accepted once, and none that was
minted before a success is accepted after it.
-/

namespace Travelo

open ReadCommitted

/-! ## Calls -/

structure VerifyCall where
  surface : Surface
  env : AuthEnv
  mobile : String
  otp : String

/-- The number whose codes the call reads. -/
def VerifyCall.target (cfg : AuthConfig) (v : VerifyCall) : Option String :=
  match v.surface with
  | .ADMIN => AdminOtpService.normalized cfg v.mobile
  | _ => some v.mobile

def VerifyCall.prog (cfg : AuthConfig) (v : VerifyCall) : AuthOp OtpHolder :=
  match v.surface with
  | .STAFF => StaffOtpService.verify cfg v.env v.mobile v.otp
  | .OWNER => OwnerOtpService.verify cfg v.env v.mobile v.otp
  | .ADMIN => AdminOtpService.verify cfg v.env v.mobile v.otp

def generateForMobile (cfg : AuthConfig) (surface : Surface) (env : AuthEnv) (mobile : String) :
    AuthOp (Option (String × ℤ)) :=
  match surface with
  | .STAFF => StaffOtpService.generateForMobile cfg env mobile
  | .OWNER => OwnerOtpService.generateForMobile cfg env mobile
  | .ADMIN => AdminOtpService.generateForMobile cfg env mobile

inductive OtpCall where
  | generate (surface : Surface) (env : AuthEnv) (mobile : String)
  | verify (v : VerifyCall)

def OtpCall.verify? : OtpCall → Option VerifyCall
  | .verify v => some v
  | .generate _ _ _ => none

/-- A verification answers with the account, a request for a code with nothing here. -/
def OtpCall.prog (cfg : AuthConfig) : OtpCall → AuthOp (Except AuthErr (Option OtpHolder))
  | .generate surface env mobile =>
    ((fun _ => none) <$> generateForMobile cfg surface env mobile :
      AuthOp (Option OtpHolder)).caught
  | .verify v => (some <$> v.prog cfg : AuthOp (Option OtpHolder)).caught

/-- A configuration of such calls. -/
abbrev OtpRun := Config AuthDb AuthRow AuthLook AuthErr (Except AuthErr (Option OtpHolder))

/-- All calls about to start. -/
def OtpRun.start (cfg : AuthConfig) (db : AuthDb) (calls : List OtpCall) : OtpRun :=
  Config.start db (calls.map (OtpCall.prog cfg))

/-! ## What a verification has done -/

namespace VerifyCall

variable (cfg : AuthConfig) (v : VerifyCall)

/-- The code that is compared with the guess: the newest, in time and with attempts left. -/
def compared (m : String) (b : AuthDb) : Option Otp :=
  (newestOtp v.surface m b).filter fun r =>
    !(r.expiresAt < v.env.now) && r.attempts < cfg.otpMaxAttempts

/-- A wrong guess was compared with code `k`. -/
def wrong (k : Id) (h : AuthTrace) : Bool :=
  match h.reverse with
  | .saw _ b :: _ => (v.target cfg).any fun m =>
    (v.compared cfg m b).any fun r => r.id = k && !r.otpHash.verify v.otp
  | _ => false

/-- Code `k` was matched and consumed. -/
def accepted (k : Id) (h : AuthTrace) : Bool :=
  match h.reverse with
  | .saw _ b :: .wrote _ :: _ => (v.target cfg).any fun m =>
    (v.compared cfg m b).any fun r => r.id = k && r.otpHash.verify v.otp
  | _ => false

end VerifyCall

/-- Call `i` is the verification `v`, and has accepted code `k`. -/
def Accepted (cfg : AuthConfig) (calls : List OtpCall) (c : OtpRun) (i : ℕ) (v : VerifyCall)
    (k : Id) : Prop :=
  calls[i]? = some (.verify v) ∧ c.Shows (v.accepted cfg k) i

/-- Call `i` has compared a wrong guess with code `k`. -/
def wrongAt (cfg : AuthConfig) (calls : List OtpCall) (c : OtpRun) (surface : Surface) (k : Id)
    (i : ℕ) : Bool :=
  (calls[i]?.bind OtpCall.verify?).any fun v =>
    v.surface = surface && c.sessions[i]?.any fun s => v.wrong cfg k s.trace

/-- The wrong guesses that were compared with code `k`. -/
def wrongGuesses (cfg : AuthConfig) (calls : List OtpCall) (c : OtpRun) (surface : Surface)
    (k : Id) : ℕ :=
  (List.range calls.length).countP (wrongAt cfg calls c surface k)

/-- Code `k` is one of the number. -/
def CodeOf (db : AuthDb) (surface : Surface) (m : String) (k : Id) : Prop :=
  ∃ o, (db.otps surface).find? k = some o ∧ o.mobile = m

/-- Code `k` is consumed. -/
def Consumed (db : AuthDb) (surface : Surface) (k : Id) : Prop :=
  ∃ o, (db.otps surface).find? k = some o ∧ o.consumedAt.isSome = true

/-! ## The law -/

/-- What holds of a run that has come to `c`, then to `c'` and then to `c''`. -/
structure OneTime (cfg : AuthConfig) (calls : List OtpCall) (c c' c'' : OtpRun) : Prop where
  /-- Whoever is signed in has had a code accepted. -/
  answered : ∀ i v, calls[i]? = some (.verify v) → ∀ holder,
    c''.answer i = some (.ok (some holder)) → ∃ k, Accepted cfg calls c'' i v k
  /-- A code meets a bounded number of wrong guesses. -/
  bounded : ∀ surface k, wrongGuesses cfg calls c'' surface k ≤ cfg.otpMaxAttempts
  /-- A code is accepted by one call. -/
  once : ∀ i j v v' k, Accepted cfg calls c'' i v k → Accepted cfg calls c'' j v' k →
    v.surface = v'.surface → i = j
  /-- A code that was there before a success of its number, which came between `c` and `c'`, is
  not accepted after it. -/
  after : ∀ m k i v, calls[i]? = some (.verify v) → v.target cfg = some m →
    CodeOf c.db v.surface m k → (∀ k', ¬Accepted cfg calls c i v k') →
    (∃ k', Accepted cfg calls c' i v k') →
    ∀ j v', v'.surface = v.surface → Accepted cfg calls c'' j v' k → Accepted cfg calls c' j v' k

/-- The code is not consumed, and every other code of the number is. -/
def Sole (surface : Surface) (m : String) (k : Id) (db : AuthDb) : Prop :=
  ((db.otps surface).find? k).any (fun o => o.consumedAt.isNone) = true ∧
    ∀ o ∈ db.otps surface, o.mobile = m → o.id ≠ k → o.consumedAt.isSome = true

instance (surface : Surface) (m : String) (k : Id) (db : AuthDb) :
    Decidable (Sole surface m k db) :=
  inferInstanceAs (Decidable (_ ∧ _))

/-- A code that the call is about to find wrong counts every wrong guess before, and a code that
it is about to consume is the one of its number that is not consumed. -/
def Ready (cfg : AuthConfig) (calls : List OtpCall) (c : OtpRun) (v : VerifyCall) (m : String) :
    AuthTrace → Prop
  | [] => ∀ r ∈ v.compared cfg m c.db, r.otpHash.verify v.otp = false →
    wrongGuesses cfg calls c v.surface r.id ≤ r.attempts
  | [.saw _ b] => ∀ r ∈ v.compared cfg m b, r.otpHash.verify v.otp = true →
    Sole v.surface m r.id c.db
  | _ => True

instance (cfg : AuthConfig) (calls : List OtpCall) (c : OtpRun) (v : VerifyCall) (m : String) :
    (h : AuthTrace) → Decidable (Ready cfg calls c v m h)
  | [] => inferInstanceAs (Decidable (∀ _ ∈ _, _))
  | [.saw _ _] => inferInstanceAs (Decidable (∀ _ ∈ _, _))
  | .wrote _ :: _ => .isTrue trivial
  | .saw _ _ :: _ :: _ => .isTrue trivial

/-- Every verification that moves is ready to. -/
def CountedAndSole (cfg : AuthConfig) (calls : List OtpCall) (c : OtpRun) : Event → Prop
  | .step i => ∀ s ∈ c.sessions[i]?, ∀ v ∈ calls[i]?.bind OtpCall.verify?, ∀ m ∈ v.target cfg,
    Ready cfg calls c v m s.trace
  | _ => True

instance (cfg : AuthConfig) (calls : List OtpCall) (c : OtpRun) : (ev : Event) →
    Decidable (CountedAndSole cfg calls c ev)
  | .step _ => inferInstanceAs (Decidable (∀ _ ∈ _, _))
  | .fault _ _ => .isTrue trivial
  | .crash _ => .isTrue trivial

/-! ## The tables -/

/-- Codes stay with their numbers, and a code that is consumed stays so. -/
def CodesStay (db db' : AuthDb) : Prop :=
  ∀ surface k o, (db.otps surface).find? k = some o →
    ∃ o', (db'.otps surface).find? k = some o' ∧ o'.mobile = o.mobile ∧
      (o.consumedAt.isSome = true → o'.consumedAt.isSome = true)

theorem CodesStay.refl (db : AuthDb) : CodesStay db db :=
  fun _ _ o ho => ⟨o, ho, rfl, fun h => h⟩

section Tables

variable {db db' : AuthDb} {surface surface' : Surface} {k id : Id} {m : String}

theorem CodeOf.stay (h : CodeOf db surface m k) (hs : CodesStay db db') :
    CodeOf db' surface m k := by
  rcases h with ⟨o, ho, hm⟩
  rcases hs surface k o ho with ⟨o', ho', hm', -⟩
  exact ⟨o', ho', hm'.trans hm⟩

theorem Consumed.stay (h : Consumed db surface k) (hs : CodesStay db db') :
    Consumed db' surface k := by
  rcases h with ⟨o, ho, hc⟩
  rcases hs surface k o ho with ⟨o', ho', -, hc'⟩
  exact ⟨o', ho', hc' hc⟩

theorem find?_updateOtp {f : Otp → Otp} {hf : ∀ o, (f o).id = o.id} :
    ((updateOtp surface id f hf db).otps surface').find? k =
      if surface' = surface ∧ k = id then ((db.otps surface').find? k).map f
      else (db.otps surface').find? k := by
  unfold updateOtp
  by_cases h : surface' = surface
  · subst h
    simp only [Function.update_self, true_and]
    by_cases hk : k = id
    · subst hk
      rw [if_pos rfl]
      exact find?_update_self f hf k
    · rw [if_neg hk]
      exact find?_update_ne f hf hk
  · simp [h]

theorem codesStay_update {f : Otp → Otp} {hf : ∀ o, (f o).id = o.id}
    (hmobile : ∀ o, (f o).mobile = o.mobile)
    (hkeep : ∀ o : Otp, o.consumedAt.isSome = true → (f o).consumedAt.isSome = true) :
    CodesStay db (updateOtp surface id f hf db) := by
  intro surface' k o ho
  rw [find?_updateOtp]
  split
  · exact ⟨f o, by rw [ho]; rfl, hmobile o, hkeep o⟩
  · exact ⟨o, ho, rfl, fun h => h⟩

theorem codesStay_insert {mobile otp : String} {expiresAt now : ℤ} :
    CodesStay db (insertOtp surface mobile otp expiresAt now db) := by
  intro surface' k o ho
  refine ⟨o, ?_, rfl, fun h => h⟩
  unfold insertOtp
  by_cases h : surface' = surface
  · subst h
    simp only [Function.update_self]
    rw [find?_insert (hasKey_freshId (db.otps surface'))]
    have hne : freshId ((db.otps surface').rows.map (·.id)) ≠ k := by
      intro heq
      have hfree := Table.hasKey_eq_false.mp (hasKey_freshId (db.otps surface')) o
        (mem_of_find? ho)
      exact hfree ((key_of_find? ho).trans heq.symm)
    rw [if_neg hne, ho]
  · simpa [Function.update_of_ne h] using ho

theorem consumed_consumeOtp {now : ℤ} (h : CodeOf db surface m k) :
    Consumed (consumeOtp surface k now db) surface k := by
  rcases h with ⟨o, ho, -⟩
  unfold consumeOtp Consumed
  rw [find?_updateOtp, if_pos ⟨rfl, rfl⟩, ho]
  exact ⟨_, rfl, rfl⟩

theorem Sole.not_consumed (h : Sole surface m k db) : ¬Consumed db surface k := by
  rintro ⟨o, ho, hc⟩
  have hfree := h.1
  rw [ho, Option.any_some, Option.isNone_iff_eq_none] at hfree
  rw [hfree] at hc
  cases hc

theorem Sole.codeOf (h : Sole surface m k db) : ∃ m', CodeOf db surface m' k := by
  rcases (Option.any_eq_true _ _).mp h.1 with ⟨o, ho, -⟩
  exact ⟨o.mobile, o, ho, rfl⟩

theorem Sole.consumed {now : ℤ} (h : Sole surface m k db) (hcode : CodeOf db surface m id) :
    Consumed (consumeOtp surface k now db) surface id := by
  by_cases hid : id = k
  · subst hid
    exact consumed_consumeOtp hcode
  · rcases hcode with ⟨o, ho, hm⟩
    have hkey : o.id = id := key_of_find? ho
    have hc := h.2 o (mem_of_find? ho) hm (by rwa [hkey])
    exact Consumed.stay ⟨o, ho, hc⟩ (codesStay_update (fun _ => rfl) fun _ _ => rfl)

end Tables

/-! ## One call -/

/-- What a verification publishes. -/
inductive VerifyWrite (cfg : AuthConfig) (v : VerifyCall) :
    AuthTrace → (AuthDb → AuthDb) → Prop where
  | consume {m : String} {b : AuthDb} {r : Otp} (hm : v.target cfg = some m)
      (hr : v.compared cfg m b = some r) (hok : r.otpHash.verify v.otp = true) :
      VerifyWrite cfg v [.saw (.otp v.surface m) b] (consumeOtp v.surface r.id v.env.now)
  | count {m : String} {b : AuthDb} {r : Otp} (hm : v.target cfg = some m)
      (hr : v.compared cfg m b = some r) (hbad : r.otpHash.verify v.otp = false) :
      VerifyWrite cfg v [.saw (.otp v.surface m) b] (setAttempts v.surface r.id (r.attempts + 1))

/-- What a call publishes. -/
def OtpWrite (cfg : AuthConfig) (call : OtpCall) (h : AuthTrace) (w : AuthDb → AuthDb) : Prop :=
  match call with
  | .verify v => VerifyWrite cfg v h w
  | .generate surface _ _ => ∃ mobile otp expiresAt now,
    w = insertOtp surface mobile otp expiresAt now

/-- Whoever is answered with an account has had a code accepted. -/
def VerifyDone (cfg : AuthConfig) (v : VerifyCall) (answer : Except AuthErr (Option OtpHolder))
    (h : AuthTrace) : Prop :=
  ∀ holder, answer = .ok (some holder) → ∃ k, v.accepted cfg k h = true

theorem wp_verifyWith (cfg : AuthConfig) (v : VerifyCall) {m : String}
    (hm : v.target cfg = some m) (account : AuthDb → Except AuthErr OtpHolder) :
    (verifyWith cfg v.surface account v.env m v.otp).wp (VerifyWrite cfg v)
      (fun a h _ => VerifyDone cfg v (.ok (some a)) h) (fun _ _ _ => True) [] .idle := by
  simp only [verifyWith, wp_simps]
  intro b r hr hexpired hattempts
  have hcompared : v.compared cfg m b = some r := by
    unfold VerifyCall.compared
    rw [hr]
    simp [hexpired, Nat.lt_of_not_le hattempts]
  rw [wp_ite]
  constructor
  · intro hok
    simp only [wp_simps]
    refine ⟨.consume hm hcompared hok, fun _ a holder _ _ _ => ⟨r.id, ?_⟩⟩
    simp [VerifyCall.accepted, hm, hcompared, hok]
  · intro hbad
    simp only [wp_simps, wp_throw]
    exact .count hm hcompared (by simpa using hbad)

theorem VerifyCall.wp_prog (cfg : AuthConfig) (v : VerifyCall) :
    (v.prog cfg).wp (VerifyWrite cfg v) (fun a h _ => VerifyDone cfg v (.ok (some a)) h)
      (fun _ _ _ => True) [] .idle := by
  have hwp := fun m hm account => @wp_verifyWith cfg v m hm account
  unfold VerifyCall.prog
  unfold VerifyCall.target at hwp
  cases hs : v.surface with
  | STAFF =>
    rw [hs] at hwp
    exact hwp v.mobile rfl _
  | OWNER =>
    rw [hs] at hwp
    exact hwp v.mobile rfl _
  | ADMIN =>
    rw [hs] at hwp
    simp only [AdminOtpService.verify, wp_simps]
    intro number hnumber
    exact hwp number hnumber _

theorem publishes_mintOtp {cfg : AuthConfig} {surface : Surface} {env : AuthEnv} {mobile : String}
    {h : AuthTrace} : (mintOtp cfg surface env mobile).Publishes (fun _ w =>
      ∃ mobile otp expiresAt now, w = insertOtp surface mobile otp expiresAt now) h := by
  unfold mintOtp
  refine .bind ?_ fun _ _ => .of_readOnly (.pure _)
  unfold Prog.Publishes
  rw [wp_write_idle]
  exact ⟨⟨_, _, _, _, rfl⟩, fun _ => rfl, fun _ => trivial⟩

theorem publishes_generate (cfg : AuthConfig) (surface : Surface) (env : AuthEnv)
    (mobile : String) : (generateForMobile cfg surface env mobile).Publishes (fun _ w =>
      ∃ mobile otp expiresAt now, w = insertOtp surface mobile otp expiresAt now) [] := by
  unfold generateForMobile
  cases surface with
  | STAFF =>
    refine .after (.select _ _) fun staff _ => ?_
    cases staff with
    | none => exact .of_readOnly (.pure _)
    | some _ => exact publishes_mintOtp
  | OWNER =>
    refine .after (.select _ _) fun owner _ => ?_
    cases owner.filter fun o => o.deletedAt.isNone && o.status = .ACTIVE with
    | none => exact .of_readOnly (.pure _)
    | some _ => exact publishes_mintOtp
  | ADMIN =>
    simp only [AdminOtpService.generateForMobile]
    cases AdminOtpService.normalized cfg mobile with
    | none => exact .of_readOnly (.pure _)
    | some number =>
      refine .after (.select _ _) fun admin _ => ?_
      cases admin.filter fun a => a.status = .Active with
      | none => exact .of_readOnly (.pure _)
      | some _ => exact publishes_mintOtp

theorem OtpCall.wp_prog (cfg : AuthConfig) (call : OtpCall) :
    (call.prog cfg).wp (OtpWrite cfg call) (fun a h _ => ∀ v, call = .verify v →
      VerifyDone cfg v a h) (fun _ _ _ => True) [] .idle := by
  cases call with
  | verify v =>
    simp only [OtpCall.prog, wp_caught, wp_map]
    refine wp_mono (fun _ _ hw => hw) (fun a h _ hdone => ?_) (fun e h _ _ => ?_) _ _ _
      (v.wp_prog cfg)
    · rintro v' heq
      cases heq
      exact hdone
    · rintro v' - holder heq
      cases heq
  | generate surface env mobile =>
    simp only [OtpCall.prog, wp_caught, wp_map]
    exact wp_mono (fun _ _ hw => hw) (fun _ _ _ _ _ heq => by cases heq)
      (fun _ _ _ _ _ heq => by cases heq) _ _ _ (publishes_generate cfg surface env mobile)

/-! ## What a step can do -/

section Histories

variable {cfg : AuthConfig} {v : VerifyCall} {k : Id} {h : AuthTrace}

theorem VerifyCall.accepted_saw {l : AuthLook} {b : AuthDb} :
    v.accepted cfg k (.saw l b :: h) = v.accepted cfg k h := by
  unfold VerifyCall.accepted
  rw [List.reverse_cons]
  rcases h.reverse with _ | ⟨_ | _, _ | ⟨_ | _, _⟩⟩ <;> rfl

theorem VerifyCall.wrong_cons {o : Obs AuthDb AuthLook} (hne : h ≠ []) :
    v.wrong cfg k (o :: h) = v.wrong cfg k h := by
  unfold VerifyCall.wrong
  rw [List.reverse_cons]
  rcases hr : h.reverse with _ | ⟨_ | _, _⟩
  · exact absurd (List.reverse_eq_nil_iff.mp hr) hne
  · rfl
  · rfl

end Histories

/-- A step of the calls, by what it does to the codes. -/
inductive OtpStep (cfg : AuthConfig) (calls : List OtpCall) (c c' : OtpRun) : Prop where
  | other (hdb : CodesStay c.db c'.db)
      (hA : ∀ j v k, Accepted cfg calls c' j v k ↔ Accepted cfg calls c j v k)
  | consume (i : ℕ) (v : VerifyCall) (m : String) (r : Otp) (hcall : calls[i]? = some (.verify v))
      (hm : v.target cfg = some m) (hdb : c'.db = consumeOtp v.surface r.id v.env.now c.db)
      (hsole : Sole v.surface m r.id c.db)
      (hA : ∀ j v' k, Accepted cfg calls c' j v' k ↔
        Accepted cfg calls c j v' k ∨ (j = i ∧ v' = v ∧ k = r.id))

/-- What holds while the calls are interleaved. -/
structure CodesKept (cfg : AuthConfig) (calls : List OtpCall) (c : OtpRun) : Prop where
  proving : Config.Proving (fun i h w => ∃ call, calls[i]? = some call ∧ OtpWrite cfg call h w)
    (fun i a h _ => ∀ v, calls[i]? = some (.verify v) → VerifyDone cfg v a h) c
  bounded : ∀ surface k, wrongGuesses cfg calls c surface k ≤ cfg.otpMaxAttempts
  /-- A code that was accepted is consumed. -/
  consumed : ∀ i v k, Accepted cfg calls c i v k → Consumed c.db v.surface k
  once : ∀ i j v v' k, Accepted cfg calls c i v k → Accepted cfg calls c j v' k →
    v.surface = v'.surface → i = j

section Step

variable {cfg : AuthConfig} {calls : List OtpCall} {c c' : OtpRun} {ev : Event}

theorem CodesKept.otpStep (hk : CodesKept cfg calls c) (hg : CountedAndSole cfg calls c ev)
    (hn : c.next ev = some c') : OtpStep cfg calls c c' := by
  obtain ⟨i, s, s', hs, hset, ⟨hdb, htrace⟩ | ⟨w, hev, hpub, htrace, hdb⟩⟩ := Config.next_trace hn
  · -- Nothing is published, and a read accepts nothing.
    have hsame : ∀ v k,
        VerifyCall.accepted cfg v k s'.trace = VerifyCall.accepted cfg v k s.trace := by
      intro v k
      rcases htrace with htrace | ⟨l, htrace⟩
      · rw [htrace]
      · rw [htrace, VerifyCall.accepted_saw]
    refine .other (hdb ▸ CodesStay.refl c.db) fun j v k => and_congr_right fun _ => ?_
    exact Config.shows_same hs hset (hsame v k) j
  · rcases hk.proving.publishes hs hpub with ⟨call, hcall, hw⟩
    cases call with
    | generate surface env mobile =>
      rcases hw with ⟨m, otp, expiresAt, now, rfl⟩
      refine .other (hdb ▸ codesStay_insert) fun j v k => and_congr_right fun hj => ?_
      have hne : j ≠ i := by
        rintro rfl
        rw [hcall] at hj
        cases hj
      simp [Config.shows_set hs hset, hne]
    | verify v =>
      have hmine : ∀ j v', calls[j]? = some (OtpCall.verify v') → j = i → v' = v := by
        rintro j v' hj rfl
        rw [hcall, Option.some.injEq, OtpCall.verify.injEq] at hj
        exact hj.symm
      generalize hh : s.trace = h at hw
      cases hw with
      | @count m b r hm hr hbad =>
        refine .other (hdb ▸ codesStay_update (fun _ => rfl) fun _ ho => ho) fun j v' k =>
          and_congr_right fun hj => ?_
        by_cases hji : j = i
        · obtain rfl := hmine j v' hj hji
          subst hji
          have hold : v'.accepted cfg k s.trace = false := by
            rw [hh]
            rfl
          have hnew : v'.accepted cfg k s'.trace = false := by
            rw [htrace, hh]
            simp [VerifyCall.accepted, hm, hr, hbad]
          simp [Config.shows_set hs hset, Config.shows_of_getElem? hs, hold, hnew]
        · simp [Config.shows_set hs hset, hji]
      | @consume m b r hm hr hok =>
        subst hev
        have hready := hg s hs v (by simp [hcall, OtpCall.verify?]) m hm
        rw [hh] at hready
        refine .consume i v m r hcall hm hdb (hready r hr hok) fun j v' k => ?_
        unfold Accepted
        rw [Config.shows_set hs hset]
        by_cases hji : j = i
        · subst hji
          have hold : ∀ v', ¬c.Shows (VerifyCall.accepted cfg v' k) j := by
            intro v'
            rw [Config.shows_of_getElem? hs, hh]
            simp [VerifyCall.accepted]
          have hnew : v.accepted cfg k s'.trace = decide (r.id = k) := by
            rw [htrace, hh]
            simp [VerifyCall.accepted, hm, hr, hok]
          simp only [hold v', and_false, false_or, true_and, ne_eq, not_true_eq_false]
          constructor
          · rintro ⟨hj, haccepted⟩
            obtain rfl := hmine j v' hj rfl
            rw [hnew, decide_eq_true_eq] at haccepted
            exact ⟨rfl, haccepted.symm⟩
          · rintro ⟨rfl, rfl⟩
            exact ⟨hcall, by rw [hnew]; simp⟩
        · simp [hji]

theorem wrongAt_ne {i j : ℕ} {s' : Session AuthDb AuthRow AuthLook AuthErr _}
    (hset : c'.sessions = c.sessions.set i s') (hj : j ≠ i) (surface : Surface) (k : Id) :
    wrongAt cfg calls c' surface k j = wrongAt cfg calls c surface k j := by
  unfold wrongAt
  rw [hset, List.getElem?_set_ne (Ne.symm hj)]

theorem wrongAt_self {i : ℕ} {s : Session AuthDb AuthRow AuthLook AuthErr _}
    (hs : c.sessions[i]? = some s) (surface : Surface) (k : Id) :
    wrongAt cfg calls c surface k i = (calls[i]?.bind OtpCall.verify?).any fun v =>
      v.surface = surface && v.wrong cfg k s.trace := by
  unfold wrongAt
  rw [hs]
  rfl

/-- A session whose comparison was settled, or that has read nothing, adds no guess. -/
theorem wrongGuesses_same {i : ℕ} {s s' : Session AuthDb AuthRow AuthLook AuthErr _}
    (hs : c.sessions[i]? = some s) (hset : c'.sessions = c.sessions.set i s') {surface : Surface}
    {k : Id} (hsame : ∀ v, VerifyCall.wrong cfg v k s'.trace = VerifyCall.wrong cfg v k s.trace) :
    wrongGuesses cfg calls c' surface k = wrongGuesses cfg calls c surface k := by
  have hs' : c'.sessions[i]? = some s' := by
    rw [hset, List.getElem?_set_self (List.getElem?_eq_some_iff.mp hs).1]
  have hall : wrongAt cfg calls c' surface k = wrongAt cfg calls c surface k := by
    funext j
    by_cases hj : j = i
    · subst hj
      rw [wrongAt_self hs', wrongAt_self hs]
      simp only [hsame]
    · exact wrongAt_ne hset hj surface k
  unfold wrongGuesses
  rw [hall]

/-- A guess is compared with a code that counts all those before, and has attempts left. -/
theorem CodesKept.bounded_next (hk : CodesKept cfg calls c) (hg : CountedAndSole cfg calls c ev)
    (hn : c.next ev = some c') (surface : Surface) (k : Id) :
    wrongGuesses cfg calls c' surface k ≤ cfg.otpMaxAttempts := by
  have hold := hk.bounded surface k
  obtain ⟨i, s, s', hs, hset, ⟨-, htrace⟩ | ⟨hev, ⟨-, l, htrace⟩ | ⟨w, -, htrace, -⟩⟩⟩ :=
    Config.next_observes hn
  · rw [wrongGuesses_same hs hset fun v => by rw [htrace]]
    exact hold
  · by_cases hempty : s.trace = []
    · have hs' : c'.sessions[i]? = some s' := by
        rw [hset, List.getElem?_set_self (List.getElem?_eq_some_iff.mp hs).1]
      cases hnew : wrongAt cfg calls c' surface k i with
      | false =>
        have hmono : wrongGuesses cfg calls c' surface k ≤ wrongGuesses cfg calls c surface k := by
          refine List.countP_mono_left fun j _ hj => ?_
          by_cases hji : j = i
          · rw [hji, hnew] at hj
            cases hj
          · rwa [← wrongAt_ne hset hji]
        omega
      | true =>
        -- The first read of a verification that will find the guess wrong.
        rw [wrongAt_self hs', htrace, hempty] at hnew
        rcases (Option.any_eq_true _ _).mp hnew with ⟨v, hv, hwrong⟩
        simp only [VerifyCall.wrong, List.reverse_cons, List.reverse_nil, List.nil_append,
          and_decide_eq, Option.any_eq_true, Bool.not_eq_true'] at hwrong
        rcases hwrong with ⟨rfl, m, hm, r, hr, rfl, hbad⟩
        subst hev
        have hready := hg s hs v hv m hm
        rw [hempty] at hready
        have hcounted := hready r hr hbad
        have hleft : r.attempts < cfg.otpMaxAttempts := by
          have hfilter := (Option.filter_eq_some_iff.mp hr).2
          simp only [and_decide_eq] at hfilter
          exact hfilter.2
        have hsucc : wrongGuesses cfg calls c' v.surface r.id ≤
            wrongGuesses cfg calls c v.surface r.id + 1 := by
          refine countP_le_succ (i := i) (fun j hj => ?_) calls.length
          by_cases hji : j = i
          · exact .inr hji
          · rw [wrongAt_ne hset hji] at hj
            exact .inl hj
        omega
    · rw [wrongGuesses_same hs hset fun v => by rw [htrace, VerifyCall.wrong_cons hempty]]
      exact hold
  · have hsame : ∀ v, VerifyCall.wrong cfg v k s'.trace = VerifyCall.wrong cfg v k s.trace := by
      intro v
      rw [htrace]
      by_cases hempty : s.trace = []
      · rw [hempty]
        rfl
      · exact VerifyCall.wrong_cons hempty
    rw [wrongGuesses_same hs hset hsame]
    exact hold

theorem CodesKept.next (hk : CodesKept cfg calls c) (hg : CountedAndSole cfg calls c ev)
    (hn : c.next ev = some c') : CodesKept cfg calls c' := by
  refine ⟨hk.proving.next hn, hk.bounded_next hg hn, ?_, ?_⟩
  · intro i v k hi
    cases hk.otpStep hg hn with
    | other hdb hA => exact (hk.consumed i v k ((hA i v k).mp hi)).stay hdb
    | consume j v₁ m r _ _ hdb hsole hA =>
      rw [hdb]
      rcases (hA i v k).mp hi with hold | ⟨rfl, rfl, rfl⟩
      · exact (hk.consumed i v k hold).stay (codesStay_update (fun _ => rfl) fun _ _ => rfl)
      · rcases hsole.codeOf with ⟨m', hcode⟩
        exact consumed_consumeOtp hcode
  · intro i j v v' k hi hj hsurface
    cases hk.otpStep hg hn with
    | other hdb hA => exact hk.once i j v v' k ((hA i v k).mp hi) ((hA j v' k).mp hj) hsurface
    | consume l v₁ m r _ _ hdb hsole hA =>
      -- The code that is consumed now was accepted by nobody before.
      have hfresh : ∀ j' v₂, Accepted cfg calls c j' v₂ r.id → v₂.surface ≠ v₁.surface := by
        intro j' v₂ hold heq
        have hconsumed := hk.consumed j' v₂ r.id hold
        rw [heq] at hconsumed
        exact hsole.not_consumed hconsumed
      rcases (hA i v k).mp hi with hold | ⟨rfl, rfl, rfl⟩
      · rcases (hA j v' k).mp hj with hold' | ⟨rfl, rfl, rfl⟩
        · exact hk.once i j v v' k hold hold' hsurface
        · exact absurd hsurface (hfresh i v hold)
      · rcases (hA j v' r.id).mp hj with hold' | ⟨rfl, rfl, -⟩
        · exact absurd hsurface.symm (hfresh j v' hold')
        · rfl

theorem codesKept_start {db : AuthDb} : CodesKept cfg calls (OtpRun.start cfg db calls) := by
  have hnew : ∀ (i : ℕ) s, (OtpRun.start cfg db calls).sessions[i]? = some s → s.trace = [] := by
    intro i s hs
    simp only [OtpRun.start, Config.start, List.getElem?_map, Option.map_map,
      Option.map_eq_some_iff] at hs
    rcases hs with ⟨call, -, rfl⟩
    rfl
  have hnone : ∀ i v k, ¬Accepted cfg calls (OtpRun.start cfg db calls) i v k := by
    rintro i v k ⟨-, s, hs, hshows⟩
    rw [hnew i s hs] at hshows
    cases hshows
  refine ⟨Config.proving_start fun i p hp => ?_, fun surface k => ?_,
    fun i v k hi => absurd hi (hnone i v k), fun i j v v' k hi => absurd hi (hnone i v k)⟩
  · rw [List.getElem?_map, Option.map_eq_some_iff] at hp
    rcases hp with ⟨call, hcall, rfl⟩
    refine wp_mono (fun _ _ hw => ⟨call, hcall, hw⟩) (fun a h t hdone v hv => ?_)
      (fun _ _ _ h => h) _ _ _ (call.wp_prog cfg)
    exact hdone v (Option.some.inj (hcall.symm.trans hv))
  · have hzero : wrongGuesses cfg calls (OtpRun.start cfg db calls) surface k = 0 := by
      refine List.countP_eq_zero.mpr fun i _ hwrong => ?_
      unfold wrongAt at hwrong
      simp only [Option.any_eq_true, Bool.and_eq_true] at hwrong
      rcases hwrong with ⟨v, -, -, s, hs, hwrong⟩
      rw [hnew i s hs] at hwrong
      cases hwrong
    omega

/-- After a success between `c` and `c'` each code of the number that was there is consumed. -/
theorem CodesKept.consumed_after (hk : CodesKept cfg calls c) {m : String} {k : Id} {i : ℕ}
    {v : VerifyCall} (hm : v.target cfg = some m)
    (hcode : CodeOf c.db v.surface m k) (hnot : ∀ k', ¬Accepted cfg calls c i v k')
    (evs : List Event) (hg : c.Throughout (CountedAndSole cfg calls) evs)
    (hrun : c.run evs = some c') (hi : ∃ k', Accepted cfg calls c' i v k') :
    Consumed c'.db v.surface k := by
  have hkept := Config.run_throughout (fun d : OtpRun => CodesKept cfg calls d ∧
    CodeOf d.db v.surface m k ∧ ((∃ k', Accepted cfg calls d i v k') →
      Consumed d.db v.surface k)) ?_ evs c
    ⟨hk, hcode, fun ⟨k', hk'⟩ => absurd hk' (hnot k')⟩ hg hrun
  · exact hkept.2.2 hi
  · rintro d ev d' ⟨hd, hthere, hdone⟩ hguard hn
    refine ⟨hd.next hguard hn, ?_⟩
    cases hd.otpStep hguard hn with
    | other hdb hA =>
      refine ⟨hthere.stay hdb, ?_⟩
      rintro ⟨k', hk'⟩
      exact (hdone ⟨k', (hA i v k').mp hk'⟩).stay hdb
    | consume j v₁ m₁ r _ hm₁ hdb hsole hA =>
      have hstay : CodesStay d.db d'.db := by
        rw [hdb]
        exact codesStay_update (fun _ => rfl) fun _ _ => rfl
      refine ⟨hthere.stay hstay, ?_⟩
      rintro ⟨k', hk'⟩
      rcases (hA i v k').mp hk' with hold | ⟨-, rfl, -⟩
      · exact (hdone ⟨k', hold⟩).stay hstay
      · obtain rfl : m₁ = m := Option.some.inj (hm₁.symm.trans hm)
        rw [hdb]
        exact hsole.consumed hthere

theorem CodesKept.consumed_closed (hk : CodesKept cfg calls c) {surface : Surface} {k : Id}
    (hconsumed : Consumed c.db surface k) (evs : List Event)
    (hg : c.Throughout (CountedAndSole cfg calls) evs) (hrun : c.run evs = some c') (j : ℕ)
    (v' : VerifyCall) (hsurface : v'.surface = surface) (hj : Accepted cfg calls c' j v' k) :
    Accepted cfg calls c j v' k := by
  have hkept := Config.run_throughout (fun d : OtpRun => CodesKept cfg calls d ∧
    Consumed d.db surface k ∧ ∀ j v', v'.surface = surface → Accepted cfg calls d j v' k →
      Accepted cfg calls c j v' k) ?_ evs c ⟨hk, hconsumed, fun _ _ _ h => h⟩ hg hrun
  · exact hkept.2.2 j v' hsurface hj
  · rintro d ev d' ⟨hd, hthere, hold⟩ hguard hn
    refine ⟨hd.next hguard hn, ?_⟩
    cases hd.otpStep hguard hn with
    | other hdb hA =>
      exact ⟨hthere.stay hdb, fun j v' hs hj => hold j v' hs ((hA j v' k).mp hj)⟩
    | consume l v₁ m r _ _ hdb hsole hA =>
      refine ⟨?_, fun j v' hs hj => ?_⟩
      · rw [hdb]
        exact hthere.stay (codesStay_update (fun _ => rfl) fun _ _ => rfl)
      · rcases (hA j v' k).mp hj with hbefore | ⟨-, rfl, rfl⟩
        · exact hold j v' hs hbefore
        · rw [← hs] at hthere
          exact absurd hthere hsole.not_consumed

end Step

/-- **One-time codes.** In every interleaving of requests for codes and verifications in which a
code is compared only when its row counts every wrong guess before, and consumed only when it is
the one code of its number that is not, the codes are one-time and their guesses bounded. -/
theorem codes_one_time (cfg : AuthConfig) (calls : List OtpCall) (db : AuthDb)
    (evs evs' evs'' : List Event) (c c' c'' : OtpRun)
    (hrun : (OtpRun.start cfg db calls).run evs = some c) (hrun' : c.run evs' = some c')
    (hrun'' : c'.run evs'' = some c'')
    (hg : (OtpRun.start cfg db calls).Throughout (CountedAndSole cfg calls) evs)
    (hg' : c.Throughout (CountedAndSole cfg calls) evs')
    (hg'' : c'.Throughout (CountedAndSole cfg calls) evs'') : OneTime cfg calls c c' c'' := by
  have hkeeps : ∀ (d : OtpRun) ev d', CodesKept cfg calls d → CountedAndSole cfg calls d ev →
      d.next ev = some d' → CodesKept cfg calls d' := fun _ _ _ hd hg hn => hd.next hg hn
  have hk := Config.run_throughout (CodesKept cfg calls) hkeeps evs _ codesKept_start hg hrun
  have hk' := Config.run_throughout (CodesKept cfg calls) hkeeps evs' _ hk hg' hrun'
  have hk'' := Config.run_throughout (CodesKept cfg calls) hkeeps evs'' _ hk' hg'' hrun''
  refine ⟨fun i v hcall holder hanswer => ?_, hk''.bounded, hk''.once, ?_⟩
  · rcases hk''.proving.answered hanswer with ⟨s, hs, hdone⟩
    rcases hdone v hcall holder rfl with ⟨k, hk⟩
    exact ⟨k, hcall, s, hs, hk⟩
  · intro m k i v _ hm hcode hnot hi j v' hsurface hj
    have hconsumed := hk.consumed_after hm hcode hnot evs' hg' hrun' hi
    exact hk'.consumed_closed hconsumed evs'' hg'' hrun'' j v' hsurface hj

/-! ## Two codes of one number -/

/-- A waiter who has asked for a code. -/
def oneCode : AuthDb :=
  insertOtp .STAFF "9895077492" "111111" 600000 0
    { hotelStaff := (∅ : Table HotelStaff.id).insert
        { id := 1, propertyId := 1, role := .WAITER, mobile := "9895077492" } }

/-- A waiter who has asked again. -/
def twoCodes : AuthDb := insertOtp .STAFF "9895077492" "222222" 600000 1000 oneCode

/-- A guess at the waiter's code. -/
def guess (otp : String) : VerifyCall :=
  { surface := .STAFF, env := { now := 2000 }, mobile := "9895077492", otp }

def guesses (otps : List String) : List OtpCall := otps.map fun otp => .verify (guess otp)

/-- Two verifications that both read a code before either consumes it are both answered; once the
newest code is used the one before it signs in as well; and six guesses that are all compared
before the first is counted meet one code. -/
theorem codes_accepted_again :
    (∃ c, (OtpRun.start {} twoCodes (guesses ["222222", "222222"])).run
        [.step 0, .step 1, .step 0, .step 1, .step 0, .step 1] = some c ∧
      ¬OneTime {} (guesses ["222222", "222222"]) c c c) ∧
    (∃ c c' c'', (OtpRun.start {} twoCodes (guesses ["222222", "111111"])).run [] = some c ∧
      c.run [.step 0, .step 0, .step 0] = some c' ∧
      c'.run [.step 1, .step 1, .step 1] = some c'' ∧
      ¬OneTime {} (guesses ["222222", "111111"]) c c' c'') ∧
    ∃ c, (OtpRun.start {} twoCodes (guesses (List.replicate 6 "333333"))).run
        [.step 0, .step 1, .step 2, .step 3, .step 4, .step 5] = some c ∧
      ¬OneTime {} (guesses (List.replicate 6 "333333")) c c c := by
  refine ⟨⟨_, rfl, fun hlaw => ?_⟩, ⟨_, _, _, rfl, rfl, rfl, fun hlaw => ?_⟩,
    ⟨_, rfl, fun hlaw => ?_⟩⟩
  · have hboth := hlaw.once 0 1 _ _ 2 ⟨rfl, _, rfl, rfl⟩ ⟨rfl, _, rfl, rfl⟩ rfl
    cases hboth
  · have hagain := hlaw.after "9895077492" 1 0 (guess "222222") rfl rfl ⟨_, rfl, rfl⟩ ?_
      ⟨2, rfl, _, rfl, rfl⟩ 1 (guess "111111") rfl ⟨rfl, _, rfl, rfl⟩
    · rcases hagain.2 with ⟨s, hs, hshows⟩
      cases hs
      cases hshows
    · rintro k' ⟨-, s, hs, hshows⟩
      cases hs
      cases hshows
  · have hsix := hlaw.bounded .STAFF 2
    revert hsix
    decide +kernel

/-- In turn, a code that is used signs nobody else in. -/
theorem codes_one_time_in_turn :
    ∃ c, (OtpRun.start {} oneCode (guesses ["333333", "111111", "111111"])).run
        [.step 0, .step 0, .step 1, .step 1, .step 1, .step 2] = some c ∧
      c.answer 2 = some (.error .invalidOtp) ∧
      OneTime {} (guesses ["333333", "111111", "111111"]) c c c := by
  refine ⟨_, rfl, rfl, ?_⟩
  exact codes_one_time {} _ oneCode
    [.step 0, .step 0, .step 1, .step 1, .step 1, .step 2] [] [] _ _ _ rfl rfl rfl
    (by decide +kernel) (by decide +kernel) (by decide +kernel)

end Travelo
