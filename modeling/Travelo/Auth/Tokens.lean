import Travelo.Auth.StaffRoles
import Travelo.ReadCommitted.Answers

/-!
# Token families

Ten signers mint the tokens of the API and three guards take them. Five of the six secrets sign
one family for one surface; the admin access secret also signs support sessions and the admin
portal's challenges, and the admin guard asks for no issuer. What keeps those two out of it is
that one names no account and the other no session.

`token_families_apart`: no token is taken by two guards, refresh tokens and challenges by none,
and a support session serves reads of an owner while it lasts.
-/

namespace Travelo

open ReadCommitted

/-! ## Tokens -/

/-- The claims of a token. -/
structure JwtClaims where
  iss : Option String := none
  aud : Option String := none
  sub : Option Id := none
  sid : Option Id := none
  typ : Option String := none
  jti : Option Id := none
  email : Option String := none
  pid : Option Id := none
  role : Option HotelStaffRole := none
  method : Option String := none
  /-- Of a support session. -/
  sessionId : Option Id := none
  actorAdminId : Option Id := none
  targetUserId : Option Id := none
  /-- In seconds. -/
  exp : ℤ

/-- What a text was signed for, and with which secret. -/
structure Jwt where
  secret : String
  claims : JwtClaims

/-- The secrets and lifetimes of a deployment. -/
structure JwtConfig where
  JWT_ACCESS_SECRET : String
  JWT_REFRESH_SECRET : String
  OWNER_JWT_ACCESS_SECRET : String
  OWNER_JWT_REFRESH_SECRET : String
  STAFF_JWT_ACCESS_SECRET : String
  STAFF_JWT_REFRESH_SECRET : String
  /-- `*_JWT_ACCESS_TTL` and `*_JWT_REFRESH_TTL`, in seconds. -/
  accessTtl : Surface → ℤ := fun _ => 900
  refreshTtl : Surface → ℤ := fun _ => 30 * 86400

def JwtConfig.secrets (cfg : JwtConfig) : List String :=
  [cfg.JWT_ACCESS_SECRET, cfg.JWT_REFRESH_SECRET, cfg.OWNER_JWT_ACCESS_SECRET,
    cfg.OWNER_JWT_REFRESH_SECRET, cfg.STAFF_JWT_ACCESS_SECRET, cfg.STAFF_JWT_REFRESH_SECRET]

/-- `jwt.verifyAsync(token, { secret, issuer, audience })`. -/
def Jwt.verify (secret : String) (issuer audience : Option String) (now : ℤ) (t : Jwt) :
    Option JwtClaims :=
  if t.secret = secret ∧ now / 1000 < t.claims.exp ∧ (∀ i ∈ issuer, t.claims.iss = some i) ∧
      ∀ a ∈ audience, t.claims.aud = some a then
    some t.claims
  else none

def OWNER_ISSUER : String := "tavelo-owner"
def OWNER_AUDIENCE : String := "tavelo-owner"
def STAFF_ISSUER : String := "tavelo-staff"
def STAFF_AUDIENCE : String := "tavelo-staff"
def MFA_CHALLENGE_ISSUER : String := "tavelo-admin-mfa"
def MFA_CHALLENGE_AUDIENCE : String := "tavelo-admin-mfa"
def OWNER_MFA_CHALLENGE_ISSUER : String := "tavelo-owner-mfa"
def OWNER_MFA_CHALLENGE_AUDIENCE : String := "tavelo-owner-mfa"
def STAFF_MFA_CHALLENGE_ISSUER : String := "tavelo-staff-mfa"
def STAFF_MFA_CHALLENGE_AUDIENCE : String := "tavelo-staff-mfa"
def IMPERSONATION_ISSUER : String := "tavelo-impersonation"
def IMPERSONATION_AUDIENCE : String := "tavelo-impersonation"

def MFA_CHALLENGE_TTL_SECONDS : ℤ := 5 * 60
def IMPERSONATION_TTL_SECONDS : ℤ := 60 * 60

/-! ## Signers -/

section Signers

variable (cfg : JwtConfig) (now : ℤ)

def AuthService.signAccess (adminId : Id) (email : String) (sessionId : Id) : Jwt where
  secret := cfg.JWT_ACCESS_SECRET
  claims := { sub := adminId, email, sid := sessionId, exp := now / 1000 + cfg.accessTtl .ADMIN }

def AuthService.signRefresh (jti adminId sessionId : Id) : Jwt where
  secret := cfg.JWT_REFRESH_SECRET
  claims :=
    { sub := adminId, sid := sessionId, typ := "refresh", jti,
      exp := now / 1000 + cfg.refreshTtl .ADMIN }

def OwnerTokenService.signAccess (ownerId : Id) (email : String) (sessionId : Id) : Jwt where
  secret := cfg.OWNER_JWT_ACCESS_SECRET
  claims :=
    { iss := OWNER_ISSUER, aud := OWNER_AUDIENCE, sub := ownerId, email, sid := sessionId,
      typ := "access", exp := now / 1000 + cfg.accessTtl .OWNER }

def OwnerTokenService.signRefresh (jti ownerId sessionId : Id) : Jwt where
  secret := cfg.OWNER_JWT_REFRESH_SECRET
  claims :=
    { iss := OWNER_ISSUER, aud := OWNER_AUDIENCE, sub := ownerId, sid := sessionId,
      typ := "refresh", jti, exp := now / 1000 + cfg.refreshTtl .OWNER }

def StaffTokenService.signAccess (staffId propertyId : Id) (role : HotelStaffRole)
    (sessionId : Id) : Jwt where
  secret := cfg.STAFF_JWT_ACCESS_SECRET
  claims :=
    { iss := STAFF_ISSUER, aud := STAFF_AUDIENCE, sub := staffId, pid := propertyId, role,
      sid := sessionId, typ := "access", exp := now / 1000 + cfg.accessTtl .STAFF }

def StaffTokenService.signRefresh (jti staffId sessionId : Id) : Jwt where
  secret := cfg.STAFF_JWT_REFRESH_SECRET
  claims :=
    { iss := STAFF_ISSUER, aud := STAFF_AUDIENCE, sub := staffId, sid := sessionId,
      typ := "refresh", jti, exp := now / 1000 + cfg.refreshTtl .STAFF }

/-- The claims of a challenge, which opens no session. -/
def challengeClaims (issuer audience : String) (accountId : Id) (method : String) : JwtClaims :=
  { iss := issuer, aud := audience, sub := accountId, method, typ := "mfa_challenge",
    exp := now / 1000 + MFA_CHALLENGE_TTL_SECONDS }

def AdminMfaService.issueChallenge (adminId : Id) (method : String) : Jwt where
  secret := cfg.JWT_ACCESS_SECRET
  claims := challengeClaims now MFA_CHALLENGE_ISSUER MFA_CHALLENGE_AUDIENCE adminId method

def OwnerMfaService.issueChallenge (ownerId : Id) (method : String) : Jwt where
  secret := cfg.OWNER_JWT_ACCESS_SECRET
  claims :=
    challengeClaims now OWNER_MFA_CHALLENGE_ISSUER OWNER_MFA_CHALLENGE_AUDIENCE ownerId method

def StaffMfaService.issueChallenge (staffId : Id) (method : String) : Jwt where
  secret := cfg.STAFF_JWT_ACCESS_SECRET
  claims :=
    challengeClaims now STAFF_MFA_CHALLENGE_ISSUER STAFF_MFA_CHALLENGE_AUDIENCE staffId method

def ImpersonationService.issueToken (sessionId actorAdminId : Id) (targetUserId : Option Id)
    (jti : Id) : Jwt where
  secret := cfg.JWT_ACCESS_SECRET
  claims :=
    { iss := IMPERSONATION_ISSUER, aud := IMPERSONATION_AUDIENCE, actorAdminId, targetUserId,
      sessionId, jti, exp := now / 1000 + IMPERSONATION_TTL_SECONDS }

end Signers

inductive TokenFamily where
  | access (surface : Surface)
  | refresh (surface : Surface)
  | challenge (surface : Surface)
  | impersonation

/-- The tokens of each family. -/
inductive Minted (cfg : JwtConfig) : TokenFamily → Jwt → Prop where
  | adminAccess (now adminId email sessionId) :
      Minted cfg (.access .ADMIN) (AuthService.signAccess cfg now adminId email sessionId)
  | adminRefresh (now jti adminId sessionId) :
      Minted cfg (.refresh .ADMIN) (AuthService.signRefresh cfg now jti adminId sessionId)
  | ownerAccess (now ownerId email sessionId) :
      Minted cfg (.access .OWNER) (OwnerTokenService.signAccess cfg now ownerId email sessionId)
  | ownerRefresh (now jti ownerId sessionId) :
      Minted cfg (.refresh .OWNER) (OwnerTokenService.signRefresh cfg now jti ownerId sessionId)
  | staffAccess (now staffId propertyId role sessionId) :
      Minted cfg (.access .STAFF)
        (StaffTokenService.signAccess cfg now staffId propertyId role sessionId)
  | staffRefresh (now jti staffId sessionId) :
      Minted cfg (.refresh .STAFF) (StaffTokenService.signRefresh cfg now jti staffId sessionId)
  | adminChallenge (now adminId method) :
      Minted cfg (.challenge .ADMIN) (AdminMfaService.issueChallenge cfg now adminId method)
  | ownerChallenge (now ownerId method) :
      Minted cfg (.challenge .OWNER) (OwnerMfaService.issueChallenge cfg now ownerId method)
  | staffChallenge (now staffId method) :
      Minted cfg (.challenge .STAFF) (StaffMfaService.issueChallenge cfg now staffId method)
  | impersonation (now sessionId actorAdminId targetUserId jti) :
      Minted cfg .impersonation
        (ImpersonationService.issueToken cfg now sessionId actorAdminId targetUserId jti)

/-! ## Guards -/

inductive GuardLook where
  | account (surface : Surface)
  | session (surface : Surface)
  | impersonation (sessionId : Id)
  | member (staffId : Id)
  | approvers
  | property

inductive GuardErr where
  | unauthorized (message : String)
  /-- ``Account ${status}``. -/
  | ownerStatus (status : OwnerStatus)
  | staffStatus (status : HotelStaffStatus)
  | sessionEnded
  | wrongTarget
  | readOnly
  | forbidden
  | badRequest
  | roleNotPermitted
  | roleNotAssignable
  | activationRequiresApproval
  | selfModification
  | staffMemberNotFound
  | uniqueViolation
  /-- The database failed. -/
  | internal (message : String)

instance : Faults GuardErr where
  lost := .internal

abbrev GuardOp := Prog AuthDb AuthRow GuardLook GuardErr

structure GuardRequest where
  /-- The token behind `Bearer`. -/
  authorization : Option Jwt
  method : String
  path : String

structure ImpersonationGrant where
  sessionId : Id
  actorAdminId : Id
  byAdminEmail : String
  targetUserType : TargetUserType
  targetUserId : Id

structure AuthedAdmin where
  id : Id
  email : String
  status : AdminStatus
  sessionId : Id

structure AuthedOwner where
  id : Id
  email : String
  status : OwnerStatus
  sessionId : Id
  impersonation : Option ImpersonationGrant := none

structure AuthedStaff where
  id : Id
  propertyId : Id
  role : HotelStaffRole
  email : String
  mobile : String
  status : HotelStaffStatus
  sessionId : Id
  permissions : List StaffPermission

/-- Whom a request comes from. -/
inductive Principal where
  | admin (admin : AuthedAdmin)
  | owner (owner : AuthedOwner)
  | staff (staff : AuthedStaff)

/-- The session of the payload, when it is live. -/
def liveSession (surface : Surface) (now : ℤ) (sid : Option Id) (message : String) :
    GuardOp AuthSession := do
  let session ← select (.session surface) fun db => sid.bind (sessionOf surface · db)
  orThrow (session.filter (AuthSession.live now)) (.unauthorized message)

namespace ImpersonationAccessService

structure WriteAllowance where
  method : String
  path : String → Bool

def WRITE_ALLOWLIST : List WriteAllowance := []

def READ_ONLY_METHODS : List String := ["GET", "HEAD", "OPTIONS"]

/-- Read off the claims before anything is verified. -/
def looksLikeImpersonationToken (token : Jwt) : Bool :=
  token.claims.iss = some IMPERSONATION_ISSUER

def authenticate (cfg : JwtConfig) (now : ℤ) (token : Jwt) (expectedTargetType : TargetUserType) :
    GuardOp (Option ImpersonationGrant) :=
  match token.verify cfg.JWT_ACCESS_SECRET IMPERSONATION_ISSUER IMPERSONATION_AUDIENCE now with
  | none => return none
  | some payload =>
    match payload.sessionId with
    | none => return none
    | some sessionId => do
      let found ← select (.impersonation sessionId) fun db =>
        db.impersonationSessions.find? sessionId
      let row ← orThrow found .sessionEnded
      throwIf (row.status ≠ .ACTIVE ∨ row.endedAt.isSome) .sessionEnded
      throwIf (row.tokenJti.isSome ∧ payload.jti.isSome ∧ row.tokenJti ≠ payload.jti)
        .sessionEnded
      throwIf (row.targetUserType ≠ expectedTargetType) .wrongTarget
      let targetUserId ← orThrow
        ((row.targetUserId.or row.targetOwnerId).or payload.targetUserId) .wrongTarget
      throwIf (payload.targetUserId.isSome ∧ payload.targetUserId ≠ some targetUserId)
        .wrongTarget
      let admin ← select (.account .ADMIN) fun db => db.admins.find? row.actorAdminId
      return some
        { sessionId := row.id, actorAdminId := row.actorAdminId,
          byAdminEmail := (admin.map (·.email)).getD "", targetUserType := row.targetUserType,
          targetUserId }

def assertReadOnly (method path : String) : Except GuardErr Unit :=
  if method.toUpper ∈ READ_ONLY_METHODS then .ok ()
  else
    let bare := (path.splitOn "?").headD ""
    if WRITE_ALLOWLIST.any fun a => a.method = method.toUpper && a.path bare then .ok ()
    else .error .readOnly

end ImpersonationAccessService

namespace OwnerJwtGuard

def loadOwner (ownerId : Option Id) : GuardOp Owner := do
  let found ← select (.account .OWNER) fun db => ownerId.bind db.owners.find?
  let owner ← orThrow (found.filter fun o => o.deletedAt.isNone)
    (.unauthorized "Owner not found")
  throwIf (owner.status ≠ .ACTIVE) (.ownerStatus owner.status)
  return owner

def acceptImpersonation (req : GuardRequest) (grant : ImpersonationGrant) :
    GuardOp AuthedOwner := do
  lift (ImpersonationAccessService.assertReadOnly req.method req.path)
  let owner ← loadOwner (some grant.targetUserId)
  let authed : AuthedOwner :=
    { id := owner.id, email := owner.email, status := owner.status, sessionId := grant.sessionId,
      impersonation := some grant }
  return authed

def canActivate (cfg : JwtConfig) (now : ℤ) (req : GuardRequest) :
    GuardOp AuthedOwner := do
  let token ← orThrow req.authorization (.unauthorized "Missing owner token")
  if ImpersonationAccessService.looksLikeImpersonationToken token then
    let grant ← ImpersonationAccessService.authenticate cfg now token .OWNER
    let grant ← orThrow grant (.unauthorized "Invalid owner token")
    acceptImpersonation req grant
  else
    let payload ← orThrow
      (token.verify cfg.OWNER_JWT_ACCESS_SECRET OWNER_ISSUER OWNER_AUDIENCE now)
      (.unauthorized "Invalid owner token")
    let owner ← loadOwner payload.sub
    let session ← liveSession .OWNER now payload.sid "Owner session invalid"
    return { id := owner.id, email := owner.email, status := owner.status, sessionId := session.id }

end OwnerJwtGuard

/-- The role is that of the row, not of the token. -/
def StaffJwtGuard.canActivate (cfg : JwtConfig) (now : ℤ) (req : GuardRequest) :
    GuardOp AuthedStaff := do
  let token ← orThrow req.authorization (.unauthorized "Missing staff token")
  let payload ← orThrow
    (token.verify cfg.STAFF_JWT_ACCESS_SECRET STAFF_ISSUER STAFF_AUDIENCE now)
    (.unauthorized "Invalid staff token")
  let found ← select (.account .STAFF) fun db => payload.sub.bind db.hotelStaff.find?
  let staff ← orThrow (found.filter fun s => s.deletedAt.isNone)
    (.unauthorized "Staff not found")
  throwIf (staff.status ≠ .ACTIVE) (.staffStatus staff.status)
  let session ← liveSession .STAFF now payload.sid "Staff session invalid"
  let authed : AuthedStaff :=
    { id := staff.id, propertyId := staff.propertyId, role := staff.role, email := staff.email,
      mobile := staff.mobile, status := staff.status, sessionId := session.id,
      permissions := permissionsForRole staff.role }
  return authed

namespace JwtStrategy

def validate (now : ℤ) (payload : JwtClaims) : GuardOp AuthedAdmin := do
  let found ← select (.account .ADMIN) fun db => payload.sub.bind db.admins.find?
  let admin ← orThrow
    (found.filter fun a => a.status = .Active && a.deletedAt.isNone)
    (.unauthorized "Admin not active")
  let session ← liveSession .ADMIN now payload.sid "Session invalid"
  return { id := admin.id, email := admin.email, status := admin.status, sessionId := session.id }

/-- The `jwt` strategy of passport on a route that is not public: neither issuer nor audience is
asked for. -/
def authenticate (cfg : JwtConfig) (now : ℤ) (req : GuardRequest) :
    GuardOp AuthedAdmin := do
  let token ← orThrow req.authorization (.unauthorized "Unauthorized")
  let payload ← orThrow (token.verify cfg.JWT_ACCESS_SECRET none none now)
    (.unauthorized "Unauthorized")
  validate now payload

end JwtStrategy

/-- The guard of a surface. -/
def canActivate (cfg : JwtConfig) (now : ℤ) (req : GuardRequest) : Surface → GuardOp Principal
  | .ADMIN => Principal.admin <$> JwtStrategy.authenticate cfg now req
  | .OWNER => Principal.owner <$> OwnerJwtGuard.canActivate cfg now req
  | .STAFF => Principal.staff <$> StaffJwtGuard.canActivate cfg now req

/-- The guard of the surface can let a request with this token through. -/
def Accepts (cfg : JwtConfig) (t : Jwt) (guard : Surface) : Prop :=
  ∃ now method path who h, (canActivate cfg now ⟨some t, method, path⟩ guard).Yields [] .idle who h

/-- What holds of a token of a family. -/
structure FamilyApart (cfg : JwtConfig) (family : TokenFamily) (t : Jwt) : Prop where
  one : ∀ guard guard', Accepts cfg t guard → Accepts cfg t guard' → guard = guard'
  nowhere : ∀ surface, family = .refresh surface ∨ family = .challenge surface →
    ∀ guard, ¬Accepts cfg t guard
  /-- The token of a support session serves reads, while the session is live in the row that was
  read and the token that ends it is in time. -/
  support : family = .impersonation → ∀ now method path who h,
    (OwnerJwtGuard.canActivate cfg now ⟨some t, method, path⟩).Yields [] .idle who h →
      method.toUpper ∈ ImpersonationAccessService.READ_ONLY_METHODS ∧ now / 1000 < t.claims.exp ∧
      ∃ b row, .saw (.impersonation row.id) b ∈ h ∧
        b.impersonationSessions.find? row.id = some row ∧ t.claims.sessionId = some row.id ∧
        row.status = .ACTIVE ∧ row.endedAt = none ∧ row.targetUserType = .OWNER

/-! ## What a guard asks of a token -/

/-- What a token must show at each guard. -/
def Presents (cfg : JwtConfig) (t : Jwt) : Surface → Prop
  | .ADMIN => t.secret = cfg.JWT_ACCESS_SECRET ∧ t.claims.sub.isSome ∧ t.claims.sid.isSome
  | .OWNER =>
    (t.claims.iss = some IMPERSONATION_ISSUER ∧ t.secret = cfg.JWT_ACCESS_SECRET ∧
      t.claims.sessionId.isSome) ∨
    (t.claims.iss = some OWNER_ISSUER ∧ t.secret = cfg.OWNER_JWT_ACCESS_SECRET)
  | .STAFF => t.claims.iss = some STAFF_ISSUER ∧ t.secret = cfg.STAFF_JWT_ACCESS_SECRET

section Guards

variable {cfg : JwtConfig} {now : ℤ} {req : GuardRequest} {t : Jwt}
  {h : List (Obs AuthDb GuardLook)}

theorem Jwt.verify_eq_some {secret : String} {issuer audience : Option String}
    {payload : JwtClaims} (hv : t.verify secret issuer audience now = some payload) :
    t.claims = payload ∧ t.secret = secret ∧ now / 1000 < t.claims.exp ∧
      ∀ i ∈ issuer, t.claims.iss = some i := by
  unfold Jwt.verify at hv
  split at hv
  case isTrue hok => exact ⟨Option.some.inj hv, hok.1, hok.2.1, hok.2.2.1⟩
  case isFalse => cases hv

theorem wp_liveSession (surface : Surface) (sid : Option Id) (message : String) :
    (liveSession surface now sid message).wp (fun _ _ => True) (fun _ _ _ => sid.isSome = true)
      (fun _ _ _ => True) h .idle := by
  simp only [liveSession, wp_simps]
  intro db session hsession
  cases sid with
  | none => cases hsession
  | some id => rfl

theorem wp_adminGuard (token : Jwt) (hreq : req.authorization = some token) :
    (JwtStrategy.authenticate cfg now req).wp (fun _ _ => True)
      (fun _ _ _ => Presents cfg token .ADMIN) (fun _ _ _ => True) h .idle := by
  simp only [JwtStrategy.authenticate, JwtStrategy.validate, hreq, wp_simps, Option.some.injEq,
    forall_eq']
  intro payload hv db admin hadmin
  obtain ⟨rfl, hsecret, -, -⟩ := Jwt.verify_eq_some hv
  have hsub : token.claims.sub.isSome = true := by
    cases hs : token.claims.sub with
    | none =>
      rw [hs] at hadmin
      cases hadmin
    | some id => rfl
  refine wp_mono (fun _ _ h => h) (fun _ _ _ hsid => ?_) (fun _ _ _ h => h) _ _ _
    (wp_liveSession .ADMIN token.claims.sid "Session invalid")
  exact ⟨hsecret, hsub, hsid⟩

theorem wp_staffGuard (token : Jwt) (hreq : req.authorization = some token) :
    (StaffJwtGuard.canActivate cfg now req).wp (fun _ _ => True)
      (fun _ _ _ => Presents cfg token .STAFF) (fun _ _ _ => True) h .idle := by
  simp only [StaffJwtGuard.canActivate, hreq, wp_simps, Option.some.injEq, forall_eq']
  intro payload hv db staff hstaff hstatus
  obtain ⟨rfl, hsecret, -, hissuer⟩ := Jwt.verify_eq_some hv
  refine wp_mono (fun _ _ h => h) (fun _ _ _ _ => ?_) (fun _ _ _ h => h) _ _ _
    (wp_liveSession .STAFF token.claims.sid "Staff session invalid")
  exact ⟨hissuer _ rfl, hsecret⟩

/-- What a grant shows of the token and of the row behind it. -/
structure Granted (cfg : JwtConfig) (now : ℤ) (token : Jwt) (expected : TargetUserType)
    (h : List (Obs AuthDb GuardLook)) : Prop where
  secret : token.secret = cfg.JWT_ACCESS_SECRET
  inTime : now / 1000 < token.claims.exp
  live : ∃ b row, .saw (.impersonation row.id) b ∈ h ∧
    b.impersonationSessions.find? row.id = some row ∧ token.claims.sessionId = some row.id ∧
    row.status = .ACTIVE ∧ row.endedAt = none ∧ row.targetUserType = expected

theorem Granted.later {token : Jwt} {expected : TargetUserType} {h h' : List (Obs AuthDb GuardLook)}
    (hg : Granted cfg now token expected h) (hh : h <:+ h') :
    Granted cfg now token expected h' := by
  rcases hg.live with ⟨b, row, hsaw, hrest⟩
  exact ⟨hg.secret, hg.inTime, b, row, hh.subset hsaw, hrest⟩

theorem wp_authenticate (token : Jwt) (expected : TargetUserType) :
    (ImpersonationAccessService.authenticate cfg now token expected).wp (fun _ _ => True)
      (fun grant h t => t = .idle ∧ (grant.isSome = true → Granted cfg now token expected h))
      (fun _ _ _ => True) h .idle := by
  unfold ImpersonationAccessService.authenticate
  cases hv : token.verify cfg.JWT_ACCESS_SECRET IMPERSONATION_ISSUER IMPERSONATION_AUDIENCE now with
  | none => simp
  | some payload =>
    obtain ⟨rfl, hsecret, htime, -⟩ := Jwt.verify_eq_some hv
    cases hid : token.claims.sessionId with
    | none => simp [hid]
    | some sessionId =>
      simp only [hid, wp_simps]
      intro b row hrow hactive _ htype target _ _ b' _
      have hkey : row.id = sessionId := key_of_find? hrow
      subst hkey
      rw [not_or, not_not, Bool.not_eq_true, Option.isSome_eq_false_iff, Option.isNone_iff_eq_none]
        at hactive
      exact ⟨hsecret, htime, b, row, by simp, hrow, hid, hactive.1, hactive.2, not_not.mp htype⟩

theorem wp_loadOwner (ownerId : Option Id) :
    (OwnerJwtGuard.loadOwner ownerId).wp (fun _ _ => True) (fun _ h' t => t = .idle ∧ h <:+ h')
      (fun _ _ _ => True) h .idle := by
  simp [OwnerJwtGuard.loadOwner]

theorem wp_ownerGuard (token : Jwt) (hreq : req.authorization = some token) :
    (OwnerJwtGuard.canActivate cfg now req).wp (fun _ _ => True)
      (fun _ h _ => Presents cfg token .OWNER ∧ (token.claims.iss = some IMPERSONATION_ISSUER →
        req.method.toUpper ∈ ImpersonationAccessService.READ_ONLY_METHODS ∧
          Granted cfg now token .OWNER h))
      (fun _ _ _ => True) [] .idle := by
  simp only [OwnerJwtGuard.canActivate, hreq, wp_simps, wp_ite, Option.some.injEq, forall_eq']
  constructor
  · -- A token that says it is of a support session.
    intro hlooks
    have hiss : token.claims.iss = some IMPERSONATION_ISSUER := of_decide_eq_true hlooks
    refine wp_mono (fun _ _ h => h) (fun grant h t hgranted found heq => ?_)
      (fun _ _ _ h => h) _ _ _ (wp_authenticate token .OWNER)
    subst heq
    obtain ⟨rfl, hgrant⟩ := hgranted
    have hgranted := hgrant rfl
    simp only [OwnerJwtGuard.acceptImpersonation, wp_simps]
    intro _ hreads
    have hmethod : req.method.toUpper ∈ ImpersonationAccessService.READ_ONLY_METHODS := by
      unfold ImpersonationAccessService.assertReadOnly at hreads
      split at hreads
      case isTrue hmem => exact hmem
      case isFalse => cases hreads
    refine wp_mono (fun _ _ h => h) (fun owner h' t hloaded => ?_) (fun _ _ _ h => h) _ _ _
      (wp_loadOwner (some found.targetUserId))
    have hlater := hgranted.later hloaded.2
    have hsession : token.claims.sessionId.isSome = true := by
      rcases hgranted.live with ⟨b, row, -, -, hid, -⟩
      rw [hid]
      rfl
    exact ⟨.inl ⟨hiss, hgranted.secret, hsession⟩, fun _ => ⟨hmethod, hlater⟩⟩
  · intro hlooks payload hv
    obtain ⟨rfl, hsecret, -, hissuer⟩ := Jwt.verify_eq_some hv
    have hiss : token.claims.iss = some OWNER_ISSUER := hissuer _ rfl
    have hother : token.claims.iss ≠ some IMPERSONATION_ISSUER := by
      rw [hiss]
      decide
    refine wp_mono (fun _ _ h => h) (fun owner h t hloaded => ?_) (fun _ _ _ h => h) _ _ _
      (wp_loadOwner token.claims.sub)
    obtain ⟨rfl, -⟩ := hloaded
    refine wp_mono (fun _ _ h => h) (fun _ _ _ _ => ?_) (fun _ _ _ h => h) _ _ _
      (wp_liveSession .OWNER token.claims.sid "Owner session invalid")
    exact ⟨.inr ⟨hiss, hsecret⟩, fun heq => absurd heq hother⟩

theorem Accepts.presents {guard : Surface} (ha : Accepts cfg t guard) : Presents cfg t guard := by
  rcases ha with ⟨now, method, path, who, h, hy⟩
  cases guard with
  | ADMIN =>
    rcases Prog.Yields.of_map _ hy with ⟨admin, hadmin⟩
    exact (hadmin.post (wp_adminGuard t rfl)).elim fun _ hs => hs
  | OWNER =>
    rcases Prog.Yields.of_map _ hy with ⟨owner, howner⟩
    exact (howner.post (wp_ownerGuard t rfl)).elim fun _ hs => hs.1
  | STAFF =>
    rcases Prog.Yields.of_map _ hy with ⟨staff, hstaff⟩
    exact (hstaff.post (wp_staffGuard t rfl)).elim fun _ hs => hs

end Guards

/-! ## What a signer signs -/

variable {guard : Surface} {cfg : JwtConfig}

theorem challenge_presents_nothing {t : Jwt} {issuer audience method : String} {now : ℤ}
    {accountId : Id} (hissuer : issuer ∉ [IMPERSONATION_ISSUER, OWNER_ISSUER, STAFF_ISSUER])
    (ht : t.claims = challengeClaims now issuer audience accountId method) :
    ¬Presents cfg t guard := by
  simp only [List.mem_cons, List.not_mem_nil, or_false, not_or] at hissuer
  obtain ⟨hsupport, howner, hstaff⟩ := hissuer
  cases guard with
  | ADMIN => simp [Presents, ht, challengeClaims]
  | OWNER => simp [Presents, ht, challengeClaims, hsupport, howner]
  | STAFF => simp [Presents, ht, challengeClaims, hstaff]

/-- A minted token shows no guard what it asks but its own, and the owner guard also what it asks
of a support session. -/
theorem Minted.presents {family : TokenFamily} {t : Jwt} (hm : Minted cfg family t)
    (hs : cfg.secrets.Nodup) (ht : Presents cfg t guard) :
    family = .access guard ∨ (family = .impersonation ∧ guard = .OWNER) := by
  simp only [JwtConfig.secrets, List.nodup_cons, List.mem_cons, List.not_mem_nil, or_false,
    not_or] at hs
  obtain ⟨⟨hA, hAO, hAP, hAS, hAT⟩, ⟨hRO, hRP, hRS, hRT⟩, ⟨hOP, hOS, hOT⟩, ⟨hPS, hPT⟩, hST, -⟩ := hs
  cases hm with
  | adminAccess =>
    cases guard with
    | ADMIN => exact .inl rfl
    | OWNER => simp [Presents, AuthService.signAccess] at ht
    | STAFF => simp [Presents, AuthService.signAccess] at ht
  | adminRefresh =>
    cases guard with
    | ADMIN => exact absurd ht.1.symm hA
    | OWNER => simp [Presents, AuthService.signRefresh] at ht
    | STAFF => simp [Presents, AuthService.signRefresh] at ht
  | ownerAccess =>
    cases guard with
    | ADMIN => exact absurd ht.1.symm hAO
    | OWNER => exact .inl rfl
    | STAFF => exact absurd ht.2 hOS
  | ownerRefresh =>
    cases guard with
    | ADMIN => exact absurd ht.1.symm hAP
    | OWNER =>
      rcases ht with ⟨-, hsecret, -⟩ | ⟨-, hsecret⟩
      · exact absurd hsecret.symm hAP
      · exact absurd hsecret.symm hOP
    | STAFF => exact absurd ht.2 hPS
  | staffAccess =>
    cases guard with
    | ADMIN => exact absurd ht.1.symm hAS
    | OWNER =>
      rcases ht with ⟨-, hsecret, -⟩ | ⟨-, hsecret⟩
      · exact absurd hsecret.symm hAS
      · exact absurd hsecret.symm hOS
    | STAFF => exact .inl rfl
  | staffRefresh =>
    cases guard with
    | ADMIN => exact absurd ht.1.symm hAT
    | OWNER =>
      rcases ht with ⟨-, hsecret, -⟩ | ⟨-, hsecret⟩
      · exact absurd hsecret.symm hAT
      · exact absurd hsecret.symm hOT
    | STAFF => exact absurd ht.2.symm hST
  | adminChallenge => exact absurd ht (challenge_presents_nothing (by decide) rfl)
  | ownerChallenge => exact absurd ht (challenge_presents_nothing (by decide) rfl)
  | staffChallenge => exact absurd ht (challenge_presents_nothing (by decide) rfl)
  | impersonation =>
    -- Its secret is the admin guard's, but it names no account.
    cases guard with
    | ADMIN => cases ht.2.1
    | OWNER => exact .inr ⟨rfl, rfl⟩
    | STAFF =>
      have hiss : some IMPERSONATION_ISSUER = some STAFF_ISSUER := ht.1
      exact absurd hiss (by decide)

/-- **Token families do not mix.** -/
theorem token_families_apart (cfg : JwtConfig) (hs : cfg.secrets.Nodup) (family : TokenFamily)
    (t : Jwt) (hm : Minted cfg family t) : FamilyApart cfg family t := by
  have hwhere : ∀ guard, Accepts cfg t guard →
      family = .access guard ∨ (family = .impersonation ∧ guard = .OWNER) :=
    fun guard ha => hm.presents hs ha.presents
  refine ⟨fun guard guard' ha ha' => ?_, fun surface hf guard ha => ?_, ?_⟩
  · rcases hwhere guard ha with rfl | ⟨rfl, rfl⟩
    · rcases hwhere guard' ha' with heq | ⟨heq, -⟩
      · cases heq
        rfl
      · cases heq
    · rcases hwhere guard' ha' with heq | ⟨-, rfl⟩
      · cases heq
      · rfl
  · rcases hwhere guard ha with rfl | ⟨rfl, -⟩
    · rcases hf with heq | heq <;> cases heq
    · rcases hf with heq | heq <;> cases heq
  · rintro rfl now method path who h hy
    have hiss : t.claims.iss = some IMPERSONATION_ISSUER := by
      cases hm
      rfl
    rcases hy.post (wp_ownerGuard t rfl) with ⟨-, -, hsupport⟩
    rcases hsupport hiss with ⟨hmethod, hgranted⟩
    exact ⟨hmethod, hgranted.inTime, hgranted.live⟩

/-- A deployment with six secrets. -/
def sixSecrets : JwtConfig where
  JWT_ACCESS_SECRET := "admin"
  JWT_REFRESH_SECRET := "admin refresh"
  OWNER_JWT_ACCESS_SECRET := "owner"
  OWNER_JWT_REFRESH_SECRET := "owner refresh"
  STAFF_JWT_ACCESS_SECRET := "staff"
  STAFF_JWT_REFRESH_SECRET := "staff refresh"

/-- A support session for owner 3, and its token. -/
def supportToken : Jwt := ImpersonationService.issueToken sixSecrets 0 1 2 (some 3) 4

def supportSession : AuthDb where
  owners := (∅ : Table Owner.id).insert { id := 3, email := "owner@example.com", status := .ACTIVE }
  impersonationSessions := (∅ : Table ImpersonationSession.id).insert
    { id := 1, actorAdminId := 2, targetUserType := .OWNER, targetUserId := some 3,
      tokenJti := some 4 }

theorem accepts_of_run {t : Jwt} (now : ℤ) (method path : String) (db : AuthDb) (hrun :
      ((canActivate cfg now ⟨some t, method, path⟩ guard).run db).res.toOption.isSome = true) :
    Accepts cfg t guard := by
  cases hres : ((canActivate cfg now ⟨some t, method, path⟩ guard).run db).res with
  | error e =>
    rw [hres] at hrun
    cases hrun
  | ok who =>
    exact ⟨now, method, path, who, _, Prog.Yields.of_runFrom _ noFaults .idle db [] hres⟩

/-- The owner guard lets the support session read, and no other guard does. -/
theorem support_token_apart :
    Accepts sixSecrets supportToken .OWNER ∧
      FamilyApart sixSecrets .impersonation supportToken :=
  ⟨accepts_of_run 1000 "GET" "/owner/properties" supportSession (by decide +kernel),
    token_families_apart sixSecrets (by decide) _ _ (.impersonation 0 1 2 (some 3) 4)⟩

end Travelo
