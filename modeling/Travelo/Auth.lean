import Mathlib.Logic.Function.Basic
import Travelo.Reservations.Service

/-!
# Sign-in: sessions and one-time codes

Three surfaces sign people in: the staff app, the owner app and the admin portal. Each has its
accounts, its sessions and its one-time codes in tables of its own, and its refresh tokens are
signed with a secret of its own. The token and code services are three copies of one text, and
differ in the account they look up.

A refresh token is what it was signed for, with a `jti` of its own; a hash is known by the value
that it verifies.
-/

namespace Travelo

open ReadCommitted

/-! ## Rows -/

inductive Surface where
  | STAFF
  | OWNER
  | ADMIN
  deriving DecidableEq

/-- What `argon2.hash` gives, or a text that is no hash. -/
inductive Argon2 (α : Type) where
  | hash (value : α)
  | malformed

/-- `argon2.verify(hash, value).catch(() => false)`. -/
def Argon2.verify {α : Type} [DecidableEq α] : Argon2 α → α → Bool
  | .hash stored, value => stored = value
  | .malformed, _ => false

/-- A signed refresh token. -/
structure RefreshToken where
  /-- Whose secret signed it. -/
  surface : Surface
  sub : Id
  sid : Id
  jti : Id
  /-- In seconds. -/
  exp : ℤ
  deriving DecidableEq

/-- A row of `staff_sessions`, `owner_sessions` or `admin_sessions`. -/
structure AuthSession where
  id : Id
  /-- `staff_id`, `owner_id` or `admin_id`. -/
  accountId : Id
  refreshTokenHash : Argon2 RefreshToken
  expiresAt : ℤ
  revokedAt : Option ℤ := none
  /-- Kept for admins alone. -/
  lastUsedAt : Option ℤ := none

/-- A row of `staff_otps`, `owner_otps` or `admin_otps`. -/
structure Otp where
  id : Id
  mobile : String
  otpHash : Argon2 String
  expiresAt : ℤ
  attempts : ℕ := 0
  consumedAt : Option ℤ := none
  createdAt : ℤ

inductive HotelStaffRole where
  | GENERAL_MANAGER
  | ASSISTANT_GENERAL_MANAGER
  | HR
  | ACCOUNTS
  | RECEPTIONIST
  | SALES_MANAGER
  | TRAVEL_DESK
  | HOUSEKEEPING_SUPERVISOR
  | ROOM_ATTENDANT
  | CLEANING_STAFF
  | TECHNICIAN
  | SPA_MANAGER
  | SPA_ACCOUNTS
  | SPA_STAFF
  | RESTAURANT_MANAGER
  | CASHIER
  | WAITER
  | CHEF
  | CLEANER
  | INVENTORY_STORE_MANAGER
  | SECURITY_MANAGER
  | SECURITY_STAFF
  | DRIVER
  | EVENT_MANAGER
  deriving DecidableEq

inductive HotelStaffStatus where
  | INVITED
  | PENDING_APPROVAL
  | APPROVED
  | ACTIVE
  | BLOCKED
  | SUSPENDED
  | DEACTIVATED
  deriving DecidableEq

inductive OwnerStatus where
  | PENDING
  | ACTIVE
  | SUSPENDED
  | BLOCKED
  | DEACTIVATED
  deriving DecidableEq

inductive AdminStatus where
  | Active
  | Inactive
  | Blocked
  deriving DecidableEq

structure HotelStaff where
  id : Id
  propertyId : Id
  role : HotelStaffRole
  email : String := ""
  mobile : String
  status : HotelStaffStatus := .ACTIVE
  createdAt : ℤ := 0
  deletedAt : Option ℤ := none

structure Owner where
  id : Id
  email : String
  mobile : Option String := none
  status : OwnerStatus := .PENDING
  deletedAt : Option ℤ := none

structure Admin where
  id : Id
  email : String
  mobile : Option String := none
  status : AdminStatus := .Active
  updatedAt : ℤ := 0
  deletedAt : Option ℤ := none

inductive TargetUserType where
  | OWNER
  | GM
  | AGM
  deriving DecidableEq

inductive ImpersonationStatus where
  | ACTIVE
  | TERMINATED
  deriving DecidableEq

/-- A row of `impersonation_sessions`. -/
structure ImpersonationSession where
  id : Id
  actorAdminId : Id
  targetUserType : TargetUserType
  targetUserId : Option Id := none
  targetOwnerId : Option Id := none
  endedAt : Option ℤ := none
  status : ImpersonationStatus := .ACTIVE
  tokenJti : Option Id := none

/-- The tables of signing in. -/
structure AuthDb where
  hotelStaff : Table HotelStaff.id := ∅
  owners : Table Owner.id := ∅
  admins : Table Admin.id := ∅
  sessions : Surface → Table AuthSession.id := fun _ => ∅
  otps : Surface → Table Otp.id := fun _ => ∅
  impersonationSessions : Table ImpersonationSession.id := ∅

instance : Inhabited AuthDb := ⟨{}⟩

inductive AuthRow where
  | session (surface : Surface) (id : Id)
  | otp (surface : Surface) (id : Id)
  | admin (id : Id)
  deriving DecidableEq

inductive AuthLook where
  | session (surface : Surface) (id : Id)
  | account (surface : Surface)
  | otp (surface : Surface) (mobile : String)

inductive AuthErr where
  | invalidRefreshToken
  | sessionExpired
  | refreshTokenMismatch
  | staffInactive
  | ownerInactive
  | adminInactive
  | sessionNotFound
  | staffNotFound
  | adminNotFound
  | invalidOtp
  | otpExpired
  | accountSuspended
  | accountBlocked
  /-- The database failed. -/
  | internal (message : String)

instance : Faults AuthErr where
  lost := .internal

/-- A service method over the tables of signing in. -/
abbrev AuthOp := Prog AuthDb AuthRow AuthLook AuthErr

/-- The history of such a call. -/
abbrev AuthTrace := List (Obs AuthDb AuthLook)

/-- What a call draws and reads from outside. -/
structure AuthEnv where
  /-- In milliseconds. -/
  now : ℤ
  /-- `randomUUID()`, for the `jti`. -/
  jti : Id := 0
  /-- `randomInt(100000, 1000000)`. -/
  randomInt : ℕ := 100000

/-- The settings of a deployment. -/
structure AuthConfig where
  /-- `*_JWT_REFRESH_TTL`, in seconds. -/
  refreshTtl : ℤ := 30 * 86400
  otpTtlMin : ℤ := 10
  otpMaxAttempts : ℕ := 5
  superAdminMobile : Option String := none

/-! ## Refresh tokens -/

variable (surface : Surface) (p : AuthSession → Bool)

/-- `UPDATE …_sessions SET … WHERE p`. -/
def updateSessions (f : AuthSession → AuthSession) (hf : ∀ s, (f s).id = s.id) (db : AuthDb) :
    AuthDb :=
  { db with
    sessions := Function.update db.sessions surface ((db.sessions surface).update p f hf) }

variable (now : ℤ)

/-- `SET revoked_at = now()`. -/
def revokeSessions : AuthDb → AuthDb :=
  updateSessions surface p (fun s => { s with revokedAt := some now }) fun _ => rfl

/-- `SET refresh_token_hash = …` of one session; the admin portal also notes when. -/
def storeHash (token : RefreshToken) (now : ℤ) : AuthDb → AuthDb :=
  updateSessions token.surface (fun s => s.id = token.sid)
    (fun s => { s with
      refreshTokenHash := .hash token
      lastUsedAt := if token.surface = .ADMIN then some now else s.lastUsedAt }) fun _ => rfl

/-- An access token, with what it says of its holder. -/
inductive AccessToken where
  | staff (sub pid : Id) (role : HotelStaffRole) (sid : Id)
  | owner (sub : Id) (email : String) (sid : Id)
  | admin (sub : Id) (email : String) (sid : Id)

structure TokenPair where
  accessToken : AccessToken
  refreshToken : RefreshToken

/-- `jwt.verifyAsync(refreshToken, { secret, … })`. What the presented text was signed for, if it
was signed: a token of another surface does not verify, nor does an old one. -/
def verifyRefresh (presented : Option RefreshToken) :
    Option RefreshToken :=
  presented.filter fun t => t.surface = surface && now / 1000 < t.exp

variable (cfg : AuthConfig)

/-- `signRefresh(accountId, sessionId)`. -/
def signRefresh (env : AuthEnv) (surface : Surface) (sub sid : Id) :
    RefreshToken :=
  { surface, sub, sid, jti := env.jti, exp := env.now / 1000 + cfg.refreshTtl }

/-- Neither revoked nor past its end. -/
def AuthSession.live (s : AuthSession) : Bool :=
  s.revokedAt.isNone && !(s.expiresAt < now)

def sessionOf (sid : Id) (db : AuthDb) : Option AuthSession :=
  (db.sessions surface).find? sid

/-- The text of `rotate` and `refresh`; `holder` looks the account up and gives its id and what
its access token says. -/
def rotateWith (surface : Surface)
    (holder : AuthSession → AuthDb → Except AuthErr (Id × AccessToken)) (env : AuthEnv)
    (refreshToken : Option RefreshToken) : AuthOp TokenPair := do
  let payload ← orThrow (verifyRefresh surface env.now refreshToken) .invalidRefreshToken
  let row ← select (.session surface payload.sid) (sessionOf surface payload.sid)
  let session ← orThrow (row.filter (AuthSession.live env.now)) .sessionExpired
  if session.refreshTokenHash.verify payload then
    let found ← select (.account surface) (holder session)
    let (id, accessToken) ← lift found
    let newRefresh := signRefresh cfg env surface id session.id
    write (fun _ => [.session surface session.id]) (storeHash newRefresh env.now) fun _ => ()
    return ⟨accessToken, newRefresh⟩
  else
    -- Possible replay: kill the session rather than re-issue.
    write (fun _ => [.session surface session.id])
      (revokeSessions surface (fun s => s.id = session.id) env.now) fun _ => ()
    throw .refreshTokenMismatch

/-- `UPDATE …_sessions SET revoked_at = now() WHERE id = …`. -/
def revokeById (sessionId : Id) : AuthOp Unit :=
  write (fun _ => [.session surface sessionId])
    (revokeSessions surface (fun s => s.id = sessionId) now) fun _ => ()

/-- `UPDATE …_sessions SET revoked_at = now() WHERE p RETURNING id`. -/
def revokeWhere (p : AuthSession → Bool) : AuthOp (List Id) :=
  write
    (fun db => ((db.sessions surface).rows.filter p).map fun s => .session surface s.id)
    (revokeSessions surface p now) fun db => ((db.sessions surface).rows.filter p).map (·.id)

/-- Sign one of an account's sessions out; `p` says which sessions are still to be found. -/
def revokeOwn (accountId : Id) (now : ℤ) (sessionId : Id) : AuthOp Unit := do
  let row ← select (.session surface sessionId) fun db =>
    (sessionOf surface sessionId db).filter fun s => s.accountId = accountId && p s
  let _ ← orThrow row .sessionNotFound
  revokeById surface now sessionId

/-- Sign an account out everywhere but here. -/
def revokeOthers (accountId : Id) (now : ℤ) (currentSessionId : Id) :
    AuthOp (List Id) :=
  revokeWhere surface now fun s =>
    s.accountId = accountId && s.id ≠ currentSessionId && s.revokedAt.isNone

namespace StaffTokenService

def holder (session : AuthSession) (db : AuthDb) : Except AuthErr (Id × AccessToken) :=
  match db.hotelStaff.find? session.accountId with
  | none => .error .staffInactive
  | some staff =>
    if staff.deletedAt.isSome ∨ staff.status ≠ .ACTIVE then .error .staffInactive
    else .ok (staff.id, .staff staff.id staff.propertyId staff.role session.id)

def rotate (cfg : AuthConfig) (env : AuthEnv) (refreshToken : Option RefreshToken) :
    AuthOp TokenPair :=
  rotateWith cfg .STAFF holder env refreshToken

def revoke (now : ℤ) (sessionId : Id) : AuthOp Unit := revokeById .STAFF now sessionId

end StaffTokenService

namespace OwnerTokenService

def holder (session : AuthSession) (db : AuthDb) : Except AuthErr (Id × AccessToken) :=
  match db.owners.find? session.accountId with
  | none => .error .ownerInactive
  | some owner =>
    if owner.status ≠ .ACTIVE then .error .ownerInactive
    else .ok (owner.id, .owner owner.id owner.email session.id)

def rotate (cfg : AuthConfig) (env : AuthEnv) (refreshToken : Option RefreshToken) :
    AuthOp TokenPair :=
  rotateWith cfg .OWNER holder env refreshToken

def revoke (now : ℤ) (sessionId : Id) : AuthOp Unit := revokeById .OWNER now sessionId

end OwnerTokenService

namespace AuthService

def holder (session : AuthSession) (db : AuthDb) : Except AuthErr (Id × AccessToken) :=
  match db.admins.find? session.accountId with
  | none => .error .adminInactive
  | some admin =>
    if admin.status ≠ .Active then .error .adminInactive
    else .ok (admin.id, .admin admin.id admin.email session.id)

def refresh (cfg : AuthConfig) (env : AuthEnv) (refreshToken : Option RefreshToken) :
    AuthOp TokenPair :=
  rotateWith cfg .ADMIN holder env refreshToken

def logout (now : ℤ) (sessionId : Id) : AuthOp Unit := revokeById .ADMIN now sessionId

end AuthService

namespace StaffSessionsService

def revoke (now : ℤ) (staffId sessionId : Id) : AuthOp Unit :=
  revokeOwn .STAFF (fun s => s.revokedAt.isNone) staffId now sessionId

def revokeAll (now : ℤ) (staffId currentSessionId : Id) : AuthOp (List Id) :=
  revokeOthers .STAFF staffId now currentSessionId

end StaffSessionsService

namespace OwnerSessionsService

def revoke (now : ℤ) (ownerId sessionId : Id) : AuthOp Unit :=
  revokeOwn .OWNER (fun s => s.revokedAt.isNone) ownerId now sessionId

def revokeAll (now : ℤ) (ownerId currentSessionId : Id) : AuthOp (List Id) :=
  revokeOthers .OWNER ownerId now currentSessionId

end OwnerSessionsService

namespace StaffService

/-- Sign a member of staff out everywhere. -/
def revokeAllSessions (now : ℤ) (id : Id) : AuthOp ℕ := do
  let existing ← select (.account .STAFF) fun db =>
    (db.hotelStaff.find? id).filter fun s => s.deletedAt.isNone
  let _ ← orThrow existing .staffNotFound
  let revoked ← revokeWhere .STAFF now fun s => s.accountId = id && s.revokedAt.isNone
  return revoked.length

end StaffService

namespace AdminsService

/-- A session of the admin, revoked or not. -/
def revokeSession (now : ℤ) (adminId sessionId : Id) : AuthOp Unit :=
  revokeOwn .ADMIN (fun _ => true) adminId now sessionId

def get (id : Id) : AuthOp Admin := do
  let row ← select (.account .ADMIN) fun db =>
    (db.admins.find? id).filter fun a => a.deletedAt.isNone
  orThrow row .adminNotFound

/-- An admin who is no longer active is signed out everywhere. -/
def setStatus (now : ℤ) (id : Id) (status : AdminStatus) : AuthOp Admin := do
  let _ ← get id
  write (fun _ => [.admin id])
    (fun db => { db with
      admins := db.admins.update (fun a => a.id = id) fun a =>
        { a with status, updatedAt := now } }) fun _ => ()
  when (status ≠ .Active) do
    let _ ← revokeWhere .ADMIN now fun s => s.accountId = id && s.revokedAt.isNone
  get id

end AdminsService

/-! ## One-time codes -/

/-- `normalizeMobile(raw)`: the digits, without an Indian country code and trunk zeros. -/
def normalizeMobile (raw : Option String) : Option String :=
  let digits := (raw.getD "").toList.filter Char.isDigit
  let digits := if 10 < digits.length && ['9', '1'].isPrefixOf digits then digits.drop 2 else digits
  let digits := digits.dropWhile (· = '0')
  if digits.length < 10 || 15 < digits.length then none else some (String.ofList digits)

/-- The first row of an `ORDER BY … LIMIT 1`. -/
def firstBy {α : Type} (before : α → α → Bool) : List α → Option α
  | [] => none
  | a :: rows =>
    match firstBy before rows with
    | some b => if before b a then some b else some a
    | none => some a

/-- The newest code of the number that is not consumed. -/
def newestOtp (mobile : String) (db : AuthDb) : Option Otp :=
  firstBy (fun a b => b.createdAt < a.createdAt)
    ((db.otps surface).rows.filter fun o => o.mobile = mobile && o.consumedAt.isNone)

variable (id : Id)

/-- `UPDATE …_otps SET … WHERE id = …`. -/
def updateOtp (f : Otp → Otp) (hf : ∀ o, (f o).id = o.id) (db : AuthDb) : AuthDb :=
  { db with
    otps := Function.update db.otps surface ((db.otps surface).update (fun o => o.id = id) f hf) }

/-- `SET attempts = …`. -/
def setAttempts (attempts : ℕ) : AuthDb → AuthDb :=
  updateOtp surface id (fun o => { o with attempts }) fun _ => rfl

/-- `SET consumed_at = now()`. -/
def consumeOtp (now : ℤ) : AuthDb → AuthDb :=
  updateOtp surface id (fun o => { o with consumedAt := some now }) fun _ => rfl

/-- `INSERT INTO …_otps`. -/
def insertOtp (mobile otp : String) (expiresAt now : ℤ) (db : AuthDb) :
    AuthDb :=
  { db with
    otps := Function.update db.otps surface <| (db.otps surface).insert
      { id := freshId ((db.otps surface).rows.map (·.id)), mobile, otpHash := .hash otp, expiresAt,
        createdAt := now } }

/-- Mint a code and store it. -/
def mintOtp (surface : Surface) (env : AuthEnv) (mobile : String) :
    AuthOp (Option (String × ℤ)) := do
  let expiresAt := env.now + cfg.otpTtlMin * 60 * 1000
  let otp := toString env.randomInt
  write (fun _ => []) (insertOtp surface mobile otp expiresAt env.now) fun _ => ()
  return some (otp, expiresAt)

/-- Whom a code signs in. -/
inductive OtpHolder where
  | staff (staff : HotelStaff)
  | owner (ownerId : Id) (email : String)
  | admin (adminId : Id)

/-- The text of `verify`; `account` is what follows once the code is consumed. -/
def verifyWith (surface : Surface) (account : AuthDb → Except AuthErr OtpHolder) (env : AuthEnv)
    (mobile otp : String) : AuthOp OtpHolder := do
  let row ← select (.otp surface mobile) (newestOtp surface mobile)
  let record ← orThrow row .invalidOtp
  throwIf (record.expiresAt < env.now) .otpExpired
  throwIf (cfg.otpMaxAttempts ≤ record.attempts) .invalidOtp
  if record.otpHash.verify otp then
    write (fun _ => [.otp surface record.id]) (consumeOtp surface record.id env.now)
      fun _ => ()
    let found ← select (.account surface) account
    lift found
  else
    write (fun _ => [.otp surface record.id])
      (setAttempts surface record.id (record.attempts + 1)) fun _ => ()
    throw .invalidOtp

namespace StaffOtpService

/-- An active member of staff wins, else the oldest. -/
def findByMobile (mobile : String) (db : AuthDb) : Option HotelStaff :=
  let rank := fun s : HotelStaff => if s.status = .ACTIVE then 0 else 1
  firstBy (fun a b => rank a < rank b || (rank a = rank b && a.createdAt < b.createdAt))
    (db.hotelStaff.rows.filter fun s => s.mobile = mobile && s.deletedAt.isNone)

def generateForMobile (cfg : AuthConfig) (env : AuthEnv) (mobile : String) :
    AuthOp (Option (String × ℤ)) := do
  let staff ← select (.account .STAFF) (findByMobile mobile)
  match staff with
  | none => return none
  | some _ => mintOtp cfg .STAFF env mobile

def account (mobile : String) (db : AuthDb) : Except AuthErr OtpHolder :=
  match findByMobile mobile db with
  | some staff => .ok (.staff staff)
  | none => .error .invalidOtp

def verify (cfg : AuthConfig) (env : AuthEnv) (mobile otp : String) : AuthOp OtpHolder :=
  verifyWith cfg .STAFF (account mobile) env mobile otp

end StaffOtpService

namespace OwnerOtpService

def findByMobile (mobile : String) (db : AuthDb) : Option Owner :=
  db.owners.rows.find? fun o => o.mobile = some mobile

def generateForMobile (cfg : AuthConfig) (env : AuthEnv) (mobile : String) :
    AuthOp (Option (String × ℤ)) := do
  let owner ← select (.account .OWNER) (findByMobile mobile)
  match owner.filter fun o => o.deletedAt.isNone && o.status = .ACTIVE with
  | none => return none
  | some _ => mintOtp cfg .OWNER env mobile

def account (mobile : String) (db : AuthDb) : Except AuthErr OtpHolder :=
  match findByMobile mobile db with
  | none => .error .invalidOtp
  | some owner =>
    if owner.deletedAt.isSome then .error .invalidOtp
    else if owner.status = .SUSPENDED then .error .accountSuspended
    else if owner.status = .BLOCKED then .error .accountBlocked
    else if owner.status ≠ .ACTIVE then .error .invalidOtp
    else .ok (.owner owner.id owner.email)

def verify (cfg : AuthConfig) (env : AuthEnv) (mobile otp : String) : AuthOp OtpHolder :=
  verifyWith cfg .OWNER (account mobile) env mobile otp

end OwnerOtpService

namespace AdminOtpService

variable (cfg : AuthConfig)

/-- The one number that may sign in. -/
def allowlistedMobile : Option String := normalizeMobile cfg.superAdminMobile

def isAllowlisted (mobile : String) : Bool :=
  (allowlistedMobile cfg).isSome && (normalizeMobile (some mobile)).isSome &&
    allowlistedMobile cfg = normalizeMobile (some mobile)

/-- The number in its canonical form, when it may sign in. -/
def normalized (mobile : String) : Option String :=
  (normalizeMobile (some mobile)).filter (isAllowlisted cfg)

def findAdminByMobile (normalized : String) (db : AuthDb) : Option Admin :=
  db.admins.rows.find? fun a => a.mobile = some normalized && a.deletedAt.isNone

def generateForMobile (env : AuthEnv) (mobile : String) :
    AuthOp (Option (String × ℤ)) :=
  match normalized cfg mobile with
  | none => return none
  | some number => do
    let admin ← select (.account .ADMIN) (findAdminByMobile number)
    match admin.filter fun a => a.status = .Active with
    | none => return none
    | some _ => mintOtp cfg .ADMIN env number

def account (number : String) (db : AuthDb) : Except AuthErr OtpHolder :=
  match findAdminByMobile number db with
  | none => .error .invalidOtp
  | some admin =>
    if admin.status = .Blocked then .error .accountBlocked
    else if admin.status ≠ .Active then .error .accountSuspended
    else .ok (.admin admin.id)

def verify (env : AuthEnv) (mobile otp : String) : AuthOp OtpHolder := do
  let number ← orThrow (normalized cfg mobile) .invalidOtp
  verifyWith cfg .ADMIN (account number) env number otp

end AdminOtpService

end Travelo
