import Travelo.Auth
import Travelo.ReadCommitted.Answers
import Travelo.ReadCommitted.Fragments

/-!
# The calls that read and write sessions

Refreshes, sign-outs of one session and of many, on the three surfaces. A refresh publishes one
write: the hash of the token it signs, after it has read its session and its account, or the
revocation of the session, after it has read the session alone (`RefreshWrite`). The other calls
publish revocations (`SignOut`).
-/

namespace Travelo

open ReadCommitted

/-! ## Calls -/

structure RefreshCall where
  surface : Surface
  env : AuthEnv
  /-- What the presented text was signed for, if it was. -/
  refreshToken : Option RefreshToken

/-- The payload, when the text verifies. -/
def RefreshCall.token (r : RefreshCall) : Option RefreshToken :=
  verifyRefresh r.surface r.env.now r.refreshToken

variable (cfg : AuthConfig)

def RefreshCall.prog (r : RefreshCall) : AuthOp TokenPair :=
  match r.surface with
  | .STAFF => StaffTokenService.rotate cfg r.env r.refreshToken
  | .OWNER => OwnerTokenService.rotate cfg r.env r.refreshToken
  | .ADMIN => AuthService.refresh cfg r.env r.refreshToken

/-- The calls that read or write sessions. -/
inductive AuthCall where
  | refresh (r : RefreshCall)
  | staffLogout (now : ℤ) (sessionId : Id)
  | ownerLogout (now : ℤ) (sessionId : Id)
  | adminLogout (now : ℤ) (sessionId : Id)
  | staffRevoke (now : ℤ) (staffId sessionId : Id)
  | ownerRevoke (now : ℤ) (ownerId sessionId : Id)
  | adminRevoke (now : ℤ) (adminId sessionId : Id)
  | staffRevokeAll (now : ℤ) (staffId currentSessionId : Id)
  | ownerRevokeAll (now : ℤ) (ownerId currentSessionId : Id)
  | revokeAllSessions (now : ℤ) (staffId : Id)
  | setStatus (now : ℤ) (adminId : Id) (status : AdminStatus)

def AuthCall.refresh? : AuthCall → Option RefreshCall
  | .refresh r => some r
  | _ => none

/-- A refresh answers with a pair, the others with nothing that matters here. -/
def AuthCall.body : AuthCall → AuthOp (Option TokenPair)
  | .refresh r => some <$> r.prog cfg
  | .staffLogout now sid => (fun _ => none) <$> StaffTokenService.revoke now sid
  | .ownerLogout now sid => (fun _ => none) <$> OwnerTokenService.revoke now sid
  | .adminLogout now sid => (fun _ => none) <$> AuthService.logout now sid
  | .staffRevoke now id sid => (fun _ => none) <$> StaffSessionsService.revoke now id sid
  | .ownerRevoke now id sid => (fun _ => none) <$> OwnerSessionsService.revoke now id sid
  | .adminRevoke now id sid => (fun _ => none) <$> AdminsService.revokeSession now id sid
  | .staffRevokeAll now id sid => (fun _ => none) <$> StaffSessionsService.revokeAll now id sid
  | .ownerRevokeAll now id sid => (fun _ => none) <$> OwnerSessionsService.revokeAll now id sid
  | .revokeAllSessions now id => (fun _ => none) <$> StaffService.revokeAllSessions now id
  | .setStatus now id status => (fun _ => none) <$> AdminsService.setStatus now id status

variable (call : AuthCall)

def AuthCall.prog :
    AuthOp (Except AuthErr (Option TokenPair)) :=
  (call.body cfg).caught

/-- A configuration of such calls. -/
abbrev AuthRun := Config AuthDb AuthRow AuthLook AuthErr (Except AuthErr (Option TokenPair))

/-- All calls about to start. -/
def AuthRun.start (cfg : AuthConfig) (db : AuthDb) (calls : List AuthCall) : AuthRun :=
  Config.start db (calls.map (AuthCall.prog cfg))

/-! ## What a refresh has done -/

/-- It read the session and the account, and stored a new hash. -/
def exchanged (h : AuthTrace) : Bool :=
  match h.reverse with
  | .saw _ _ :: .saw _ _ :: .wrote _ :: _ => true
  | _ => false

/-- It read the session, which holds another token, and revoked it. -/
def refused (h : AuthTrace) : Bool :=
  match h.reverse with
  | .saw _ _ :: .wrote _ :: _ => true
  | _ => false

section Run

variable (calls : List AuthCall) (c : AuthRun)

variable (i : ℕ) (r : RefreshCall)

/-- Call `i` is the refresh `r`, and has stored the hash of a new token. -/
def Exchanged : Prop :=
  calls[i]? = some (.refresh r) ∧ c.Shows exchanged i

/-- Call `i` is the refresh `r`, and has revoked the session for a replay. -/
def Refused : Prop :=
  calls[i]? = some (.refresh r) ∧ c.Shows refused i

/-- Call `i` is the refresh `r`, and has not begun. -/
def Waiting : Prop :=
  calls[i]? = some (.refresh r) ∧ c.Shows List.isEmpty i

end Run

/-- The session of the token holds its hash. -/
def Stored (db : AuthDb) (t : RefreshToken) : Bool :=
  (sessionOf t.surface t.sid db).any fun s => s.refreshTokenHash.verify t

/-- The session is revoked. -/
def Revoked (db : AuthDb) (surface : Surface) (sid : Id) : Bool :=
  (sessionOf surface sid db).any fun s => s.revokedAt.isSome

/-! ## The tables -/

section Tables

variable {db : AuthDb} {surface surface' : Surface} {p : AuthSession → Bool}
  {f : AuthSession → AuthSession} {hf : ∀ s, (f s).id = s.id} {sid : Id} {t t' : RefreshToken}
  {now : ℤ}

theorem sessionOf_update :
    sessionOf surface' sid (updateSessions surface p f hf db) =
      if surface' = surface then
        (sessionOf surface' sid db).map fun s => if p s then f s else s
      else sessionOf surface' sid db := by
  unfold sessionOf updateSessions
  by_cases h : surface' = surface
  · subst h
    simp only [Function.update_self, if_true, find?_update]
  · simp only [Function.update_of_ne h, if_neg h]

theorem revoked_update (hkeep : ∀ s : AuthSession, s.revokedAt.isSome → (f s).revokedAt.isSome)
    (h : Revoked db surface' sid = true) :
    Revoked (updateSessions surface p f hf db) surface' sid = true := by
  unfold Revoked at h ⊢
  rw [sessionOf_update]
  rcases (Option.any_eq_true _ _).mp h with ⟨s, hs, hrev⟩
  rw [hs]
  split
  · by_cases hp : p s = true
    · simpa [hp] using hkeep s hrev
    · simpa [hp] using hrev
  · simpa using hrev

theorem stored_revoke : Stored (revokeSessions surface p now db) t = Stored db t := by
  unfold Stored revokeSessions
  rw [sessionOf_update]
  split
  · cases sessionOf t.surface t.sid db with
    | none => rfl
    | some s => by_cases hp : p s = true <;> simp [hp]
  · rfl

theorem revoked_revokeById (h : (sessionOf surface sid db).isSome) :
    Revoked (revokeSessions surface (fun s => s.id = sid) now db) surface sid = true := by
  unfold Revoked revokeSessions
  rw [sessionOf_update, if_pos rfl]
  rcases Option.isSome_iff_exists.mp h with ⟨s, hs⟩
  have hid : s.id = sid := key_of_find? hs
  simp [hs, hid]

theorem stored_storeHash (h : Stored (storeHash t now db) t' = true) :
    t' = t ∨ (Stored db t' = true ∧ ¬(t'.surface = t.surface ∧ t'.sid = t.sid)) := by
  unfold Stored storeHash at h
  rw [sessionOf_update] at h
  by_cases hsurface : t'.surface = t.surface
  · rw [if_pos hsurface] at h
    rcases (Option.any_eq_true _ _).mp h with ⟨s, hs, hverify⟩
    rcases Option.map_eq_some_iff.mp hs with ⟨s₀, hs₀, rfl⟩
    have hid : s₀.id = t'.sid := key_of_find? hs₀
    by_cases hsid : t'.sid = t.sid
    · left
      simp only [hid, hsid, decide_true, if_true, Argon2.verify, decide_eq_true_eq] at hverify
      exact hverify.symm
    · right
      simp only [hid, hsid, decide_false, Bool.false_eq_true, if_false] at hverify
      refine ⟨?_, fun hboth => hsid hboth.2⟩
      simp [Stored, hs₀, hverify]
  · rw [if_neg hsurface] at h
    exact .inr ⟨h, fun hboth => hsurface hboth.1⟩

end Tables

/-! ## One call -/

/-- What a refresh publishes. -/
inductive RefreshWrite (cfg : AuthConfig) (r : RefreshCall) :
    AuthTrace → (AuthDb → AuthDb) → Prop where
  | exchange {t : RefreshToken} {a b : AuthDb} {s : AuthSession} (sub : Id) (ht : r.token = some t)
      (hrow : sessionOf r.surface t.sid b = some s) (hlive : s.live r.env.now = true) :
      RefreshWrite cfg r [.saw (.account r.surface) a, .saw (.session r.surface t.sid) b]
        (storeHash (signRefresh cfg r.env r.surface sub t.sid) r.env.now)
  | refuse {t : RefreshToken} {b : AuthDb} (ht : r.token = some t)
      (hrow : (sessionOf r.surface t.sid b).isSome = true) :
      RefreshWrite cfg r [.saw (.session r.surface t.sid) b]
        (revokeSessions r.surface (fun s => s.id = t.sid) r.env.now)

/-- What the other calls publish: revocations, and changes to admins. -/
inductive SignOut : (AuthDb → AuthDb) → Prop where
  | revoke (surface : Surface) (p : AuthSession → Bool) (now : ℤ) :
      SignOut (revokeSessions surface p now)
  | admins (f : Table Admin.id → Table Admin.id) :
      SignOut fun db => { db with admins := f db.admins }

/-- What a call publishes. -/
def AuthWrite (h : AuthTrace) (w : AuthDb → AuthDb) : Prop :=
  match call with
  | .refresh r => RefreshWrite cfg r h w
  | _ => SignOut w

/-- How a refresh answers. -/
def RefreshDone (answer : Except AuthErr (Option TokenPair)) (h : AuthTrace) : Prop :=
  (∀ pair, answer = .ok (some pair) → exchanged h = true) ∧
    (answer = .error .refreshTokenMismatch → refused h = true)

theorem wp_rotateWith (r : RefreshCall)
    {holder : AuthSession → AuthDb → Except AuthErr (Id × AccessToken)}
    (hholder : ∀ s db e, holder s db = .error e → e ≠ .refreshTokenMismatch) :
    (some <$> rotateWith cfg r.surface holder r.env r.refreshToken).wp (RefreshWrite cfg r)
      (fun a h _ => RefreshDone (.ok a) h) (fun e h _ => RefreshDone (.error e) h) [] .idle := by
  have hother : ∀ e h, e ≠ AuthErr.refreshTokenMismatch → RefreshDone (.error e) h := by
    intro e h he
    exact ⟨(fun _ heq => by cases heq), fun heq => absurd (Except.error.inj heq) he⟩
  simp only [rotateWith, wp_map, wp_bind, wp_orThrow]
  refine ⟨fun _ => hother _ _ (by simp), fun t ht => ?_⟩
  simp only [wp_select_idle]
  refine ⟨fun b => ⟨fun _ => hother _ _ (by simp), fun s hs => ?_⟩, fun m => hother _ _ (by simp)⟩
  rcases Option.filter_eq_some_iff.mp hs with ⟨hrow, hlive⟩
  have hid : s.id = t.sid := key_of_find? hrow
  rw [wp_ite]
  constructor
  · intro _
    simp only [wp_bind, wp_select_idle, wp_lift]
    refine ⟨fun a => ⟨fun e he => hother _ _ (hholder s a e he), fun found _ => ?_⟩,
      fun m => hother _ _ (by simp)⟩
    rw [hid]
    simp only [wp_write_idle, wp_pure]
    refine ⟨.exchange found.1 ht hrow hlive, fun _ => ?_, fun m => hother _ _ (by simp)⟩
    exact ⟨fun _ _ => rfl, fun heq => by cases heq⟩
  · intro _
    rw [hid]
    simp only [wp_bind, wp_write_idle, wp_throw]
    refine ⟨.refuse ht (by simp [hrow]), fun _ => ?_, fun m => hother _ _ (by simp)⟩
    exact ⟨(fun _ heq => by cases heq), fun _ => rfl⟩

theorem StaffTokenService.holder_error {s : AuthSession} {db : AuthDb} {e : AuthErr}
    (h : StaffTokenService.holder s db = .error e) : e = .staffInactive := by
  unfold StaffTokenService.holder at h
  split at h
  · exact (Except.error.inj h).symm
  · split at h
    · exact (Except.error.inj h).symm
    · cases h

theorem OwnerTokenService.holder_error {s : AuthSession} {db : AuthDb} {e : AuthErr}
    (h : OwnerTokenService.holder s db = .error e) : e = .ownerInactive := by
  unfold OwnerTokenService.holder at h
  split at h
  · exact (Except.error.inj h).symm
  · split at h
    · exact (Except.error.inj h).symm
    · cases h

theorem AuthService.holder_error {s : AuthSession} {db : AuthDb} {e : AuthErr}
    (h : AuthService.holder s db = .error e) : e = .adminInactive := by
  unfold AuthService.holder at h
  split at h
  · exact (Except.error.inj h).symm
  · split at h
    · exact (Except.error.inj h).symm
    · cases h

theorem RefreshCall.prog_eq (r : RefreshCall) :
    ∃ holder : AuthSession → AuthDb → Except AuthErr (Id × AccessToken),
      (∀ s db e, holder s db = .error e → e ≠ .refreshTokenMismatch) ∧
      r.prog cfg = rotateWith cfg r.surface holder r.env r.refreshToken := by
  unfold RefreshCall.prog
  cases r.surface with
  | STAFF =>
    refine ⟨StaffTokenService.holder, fun s db e he => ?_, rfl⟩
    rw [StaffTokenService.holder_error he]
    simp
  | OWNER =>
    refine ⟨OwnerTokenService.holder, fun s db e he => ?_, rfl⟩
    rw [OwnerTokenService.holder_error he]
    simp
  | ADMIN =>
    refine ⟨AuthService.holder, fun s db e he => ?_, rfl⟩
    rw [AuthService.holder_error he]
    simp

section SignOuts

variable {surface : Surface} {now : ℤ} {h : AuthTrace}

theorem publishes_revokeById (sid : Id) :
    (revokeById surface now sid).Publishes (fun _ w => SignOut w) h := by
  unfold revokeById Prog.Publishes
  rw [wp_write_idle]
  exact ⟨.revoke surface _ now, fun _ => rfl, fun _ => trivial⟩

theorem publishes_revokeWhere (p : AuthSession → Bool) :
    (revokeWhere surface now p).Publishes (fun _ w => SignOut w) h := by
  unfold revokeWhere Prog.Publishes
  rw [wp_write_idle]
  exact ⟨.revoke surface p now, fun _ => rfl, fun _ => trivial⟩

theorem publishes_revokeOwn (p : AuthSession → Bool) (accountId sid : Id) :
    (revokeOwn surface p accountId now sid).Publishes (fun _ w => SignOut w) h := by
  unfold revokeOwn
  exact .after (.select _ _) fun _ _ => .after (.orThrow _ _) fun _ _ => publishes_revokeById sid

variable (id : Id)

theorem publishes_revokeAllSessions :
    (StaffService.revokeAllSessions now id).Publishes (fun _ w => SignOut w) h := by
  unfold StaffService.revokeAllSessions
  refine .after (.select _ _) fun _ _ => .after (.orThrow _ _) fun _ _ => ?_
  exact .bind (publishes_revokeWhere _) fun _ _ => .of_readOnly (.pure _)

theorem readOnly_get : (AdminsService.get id).ReadOnly := by
  unfold AdminsService.get
  exact .bind (.select _ _) fun _ => .orThrow _ _

theorem publishes_setStatus (status : AdminStatus) :
    (AdminsService.setStatus now id status).Publishes (fun _ w => SignOut w) h := by
  unfold AdminsService.setStatus
  refine .after (readOnly_get id) fun _ _ => .bind ?_ fun _ _ => .bind ?_ fun _ _ => ?_
  · unfold Prog.Publishes
    rw [wp_write_idle]
    exact ⟨.admins fun admins => admins.update (fun a => a.id = id) fun a =>
      { a with status, updatedAt := now }, fun _ => rfl, fun _ => trivial⟩
  · unfold when
    split
    · exact .bind (publishes_revokeWhere _) fun _ _ => .of_readOnly (.pure _)
    · exact .of_readOnly (.ret ())
  · exact .of_readOnly (readOnly_get id)

end SignOuts

theorem AuthCall.publishes_body {call : AuthCall} (hcall : call.refresh? = none) :
    (call.body cfg).Publishes (fun _ w => SignOut w) [] := by
  cases call with
  | refresh r => cases hcall
  | staffLogout now sid => exact .map (publishes_revokeById sid) _
  | ownerLogout now sid => exact .map (publishes_revokeById sid) _
  | adminLogout now sid => exact .map (publishes_revokeById sid) _
  | staffRevoke now id sid => exact .map (publishes_revokeOwn _ id sid) _
  | ownerRevoke now id sid => exact .map (publishes_revokeOwn _ id sid) _
  | adminRevoke now id sid => exact .map (publishes_revokeOwn _ id sid) _
  | staffRevokeAll now id sid => exact .map (publishes_revokeWhere _) _
  | ownerRevokeAll now id sid => exact .map (publishes_revokeWhere _) _
  | revokeAllSessions now id => exact .map (publishes_revokeAllSessions id) _
  | setStatus now id status => exact .map (publishes_setStatus id status) _

theorem AuthCall.wp_prog :
    (call.prog cfg).wp (AuthWrite cfg call)
      (fun a h _ => ∀ r, call = .refresh r → RefreshDone a h) (fun _ _ _ => True) [] .idle := by
  unfold AuthCall.prog
  rw [wp_caught]
  cases hcall : call.refresh? with
  | some r =>
    obtain rfl : call = .refresh r := by
      cases call with
      | refresh r' => exact congrArg AuthCall.refresh (Option.some.inj hcall)
      | _ => cases hcall
    rcases r.prog_eq cfg with ⟨holder, hholder, hprog⟩
    have hwp := wp_rotateWith cfg r hholder
    rw [← hprog] at hwp
    refine wp_mono (fun _ _ hw => hw) (fun a h _ hdone => ?_) (fun e h _ hdone => ?_) _ _ _ hwp
    · rintro r' heq
      exact hdone
    · rintro r' heq
      exact hdone
  | none =>
    have hne : ∀ r, call ≠ .refresh r := by
      rintro r rfl
      cases hcall
    refine wp_mono (fun h w hw => ?_) (fun _ _ _ _ r heq => absurd heq (hne r))
      (fun _ _ _ _ r heq => absurd heq (hne r)) _ _ _ (call.publishes_body cfg hcall)
    cases call with
    | refresh r => exact absurd rfl (hne r)
    | _ => exact hw

end Travelo
