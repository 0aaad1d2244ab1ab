import Travelo.Auth.Tokens
import Travelo.Schema

/-!
# The second factor

Enrolment, its verification, switching off and the challenge at sign-in, for the three portals;
their services are copies of one text. The failed attempts are counted in the memory of the
process, between the statements, so the memory and its clock are part of the state, and each
access to it is a step of its own, as is each comparison of a code that is awaited.
-/

namespace Travelo

open ReadCommitted

/-! ## State -/

/-- What `encryptMfaSecret` gives. -/
structure SealedSecret where
  secret : Id
  key : Id
  deriving DecidableEq

/-- A row of `admins`, `owners` or `hotel_staff`, as far as the second factor goes. -/
structure MfaAccount where
  id : Id
  mfaSecret : Option SealedSecret := none
  mfaEnabled : Bool := false
  deletedAt : Option ℤ := none

/-- A row of `admin_mfa_recovery_codes`, `owner_…` or `staff_…`. -/
structure RecoveryCode where
  id : Id
  /-- `admin_id`, `owner_id` or `staff_id`. -/
  accountId : Id
  codeHash : Argon2 String
  usedAt : Option ℕ := none

/-- An entry of the map of failed attempts. -/
structure Attempts where
  count : ℕ := 0
  lockedUntil : ℕ := 0

/-- The tables, the memory of the process and `Date.now()`. -/
structure MfaWorld where
  accounts : Surface → Table MfaAccount.id := fun _ => ∅
  codes : Surface → Table RecoveryCode.id := fun _ => ∅
  attempts : Surface → Id → Option Attempts := fun _ _ => none
  now : ℕ := 0
  /-- The recovery codes drawn so far; no id is drawn twice. -/
  codesDrawn : ℕ := 0

inductive MfaRow where
  | account (surface : Surface) (id : Id)
  | code (surface : Surface) (id : Id)
  deriving DecidableEq

inductive MfaLook where
  | account (surface : Surface) (id : Id)
  | codes (surface : Surface) (id : Id)
  /-- `await argon2.verify(row.codeHash, …)`. -/
  | compare (codeId : Id)
  deriving DecidableEq

inductive MfaErr where
  | mfaNotConfigured
  | accountNotFound
  | mfaAlreadyEnabled
  | mfaNotEnrolled
  | mfaNotEnabled
  | mfaInvalidCode
  | mfaChallengeInvalid
  | mfaLocked
  /-- The database failed. -/
  | internal (message : String)

instance : Faults MfaErr where
  lost := .internal

abbrev MfaOp := Prog MfaWorld MfaRow MfaLook MfaErr

abbrev MfaTrace := List (Obs MfaWorld MfaLook)

structure MfaConfig where
  jwt : JwtConfig
  /-- The key, when there is one and it is usable. -/
  MFA_SECRET_KEY : Option Id := none
  MFA_MAX_ATTEMPTS : ℕ := 5
  MFA_LOCK_SECONDS : ℕ := 900
  /-- `authenticator.check(code, secret)` with a window of one step. -/
  check : String → Id → ℕ → Bool

/-! ## Codes -/

variable (code : String)

/-- `code.replace(/\s/g, '')`. -/
def withoutSpace : String :=
  String.ofList (code.toList.filter fun c => !isJsSpace c)

/-- `code.replace(/[\s-]/g, '')`. -/
def cleanedCode : String :=
  String.ofList (code.toList.filter fun c => !(isJsSpace c || c = '-'))

def normalizeRecoveryCode : String :=
  String.ofList ((cleanedCode code).toList.map Char.toUpper)

/-- `/^\d{6}$/`. -/
def isSixDigits : Bool :=
  code.toList.length = 6 && code.toList.all Char.isDigit

variable (cfg : MfaConfig)

def verifyTotp (secret : Id) (code : String) (now : ℕ) : Bool :=
  isSixDigits (withoutSpace code) && cfg.check (withoutSpace code) secret now

/-- Nothing for a value that was sealed with another key. -/
def decryptMfaSecret (stored : SealedSecret) (key : Id) : Option Id :=
  if stored.key = key then some stored.secret else none

/-- The stored secret in the clear, when there is one and a key for it. -/
def usableSecret (stored : Option SealedSecret) : Option Id :=
  stored.bind fun s => cfg.MFA_SECRET_KEY.bind (decryptMfaSecret s)

inductive VerifiedWith where
  | totp
  | recovery

/-! ## Reads and writes -/

variable (surface : Surface) (id : Id) (w : MfaWorld)

def liveAccount : Option MfaAccount :=
  ((w.accounts surface).find? id).filter fun a => a.deletedAt.isNone

/-- `loadAdmin`, `loadOwner` or `loadStaff`, and the time. -/
def loadAccount : MfaOp (MfaAccount × ℕ) := do
  let (row, now) ← select (.account surface id) fun w => (liveAccount surface id w, w.now)
  let account ← orThrow row .accountNotFound
  return (account, now)

/-- `UPDATE … SET … WHERE id = …` of an account. -/
def updateAccount (f : MfaAccount → MfaAccount) (hf : ∀ a, (f a).id = a.id) (w : MfaWorld) :
    MfaWorld :=
  { w with
    accounts := Function.update w.accounts surface
      ((w.accounts surface).update (fun a => a.id = id) f hf) }

def setSecret (sealedSecret : SealedSecret) : MfaWorld → MfaWorld :=
  updateAccount surface id (fun a => { a with mfaSecret := some sealedSecret }) fun _ => rfl

def setEnabled : MfaWorld → MfaWorld :=
  updateAccount surface id (fun a => { a with mfaEnabled := true }) fun _ => rfl

def setDisabled : MfaWorld → MfaWorld :=
  updateAccount surface id (fun a => { a with mfaEnabled := false, mfaSecret := none })
    fun _ => rfl

/-- `DELETE FROM …_mfa_recovery_codes WHERE account_id = …`. -/
def deleteCodes : MfaWorld :=
  { w with
    codes := Function.update w.codes surface ((w.codes surface).delete fun c => c.accountId = id) }

/-- One row of the `INSERT`. -/
def insertCode (code : String) : MfaWorld :=
  { w with
    codes := Function.update w.codes surface <| (w.codes surface).insert
      { id := w.codesDrawn, accountId := id, codeHash := .hash (normalizeRecoveryCode code) }
    codesDrawn := w.codesDrawn + 1 }

def insertCodes (codes : List String) (w : MfaWorld) : MfaWorld :=
  codes.foldl (insertCode surface id) w

def unusedCodes : List RecoveryCode :=
  (w.codes surface).rows.filter fun c => c.accountId = id && c.usedAt.isNone

/-- `SET used_at = now() WHERE id = … AND used_at IS NULL`. -/
def burnCode (codeId : Id) (w : MfaWorld) : MfaWorld :=
  { w with
    codes := Function.update w.codes surface <|
      (w.codes surface).update (fun c => c.id = codeId && c.usedAt.isNone)
        (fun c => { c with usedAt := some w.now }) fun _ => rfl }

def setAttempts? (entry : Option Attempts) (w : MfaWorld) :
    MfaWorld :=
  { w with
    attempts := Function.update w.attempts surface
      (Function.update (w.attempts surface) id entry) }

/-! ## The services -/

/-- Refused while the lock is on; an entry whose lock is over goes. -/
def assertNotLocked : Except MfaErr MfaWorld :=
  match w.attempts surface id with
  | none => .ok w
  | some entry =>
    if w.now < entry.lockedUntil then .error .mfaLocked
    else if entry.lockedUntil ≠ 0 then .ok (setAttempts? surface id none w)
    else .ok w

/-- The entry after one more failure. -/
def failedOnce (now : ℕ) (entry : Attempts) : Attempts :=
  if cfg.MFA_MAX_ATTEMPTS ≤ entry.count + 1 then
    { count := 0, lockedUntil := now + cfg.MFA_LOCK_SECONDS * 1000 }
  else { entry with count := entry.count + 1 }

def recordFailure : MfaWorld :=
  setAttempts? surface id (some (failedOnce cfg w.now ((w.attempts surface id).getD {}))) w

/-- The rows one after the other, until one matches and could be marked used. -/
def burnFirst (surface : Surface) (normalisedRecovery : String) :
    List RecoveryCode → MfaOp (Option VerifiedWith)
  | [] => return none
  | row :: rows => do
    let matched ← select (.compare row.id) fun _ => row.codeHash.verify normalisedRecovery
    if matched then
      let burned ← write (fun _ => [.code surface row.id]) (burnCode surface row.id) fun w =>
        (((w.codes surface).find? row.id).filter fun c => c.usedAt.isNone).isSome
      if burned then return some .recovery
      else burnFirst surface normalisedRecovery rows
    else burnFirst surface normalisedRecovery rows

/-- The code of the authenticator at the time the account was read, else an unused recovery
code, which is spent. -/
def consumeCode (storedSecret : Option SealedSecret) (code : String) (now : ℕ) :
    MfaOp (Option VerifiedWith) := do
  if cleanedCode code = "" then return none
  else if (usableSecret cfg storedSecret).any fun secret =>
      verifyTotp cfg secret (cleanedCode code) now then
    return some .totp
  else
    let rows ← select (.codes surface id) (unusedCodes surface id)
    burnFirst surface (normalizeRecoveryCode code) rows

/-- What `enroll` draws. -/
structure EnrolDraw where
  secret : Id
  recoveryCodes : List String

def enroll (draw : EnrolDraw) :
    MfaOp EnrolDraw := do
  let key ← orThrow cfg.MFA_SECRET_KEY .mfaNotConfigured
  let (account, _) ← loadAccount surface id
  throwIf (account.mfaEnabled = true) .mfaAlreadyEnabled
  write (fun _ => [.account surface id]) (setSecret surface id ⟨draw.secret, key⟩) fun _ => ()
  write (fun w => (unusedCodes surface id w).map fun c => .code surface c.id)
    (deleteCodes surface id) fun _ => ()
  write (fun _ => []) (insertCodes surface id draw.recoveryCodes) fun _ => ()
  return draw

def verifyEnrolment (code : String) :
    MfaOp Unit := do
  let key ← orThrow cfg.MFA_SECRET_KEY .mfaNotConfigured
  let (account, now) ← loadAccount surface id
  throwIf (account.mfaEnabled = true) .mfaAlreadyEnabled
  let stored ← orThrow account.mfaSecret .mfaNotEnrolled
  let secret ← orThrow (decryptMfaSecret stored key) .mfaNotEnrolled
  throwIf (verifyTotp cfg secret code now = false) .mfaInvalidCode
  write (fun _ => [.account surface id]) (setEnabled surface id) fun _ => ()

def disable (code : String) : MfaOp Unit := do
  let (account, now) ← loadAccount surface id
  throwIf (account.mfaEnabled = false) .mfaNotEnabled
  let how ← consumeCode cfg surface id account.mfaSecret code now
  throwIf (how = none) .mfaInvalidCode
  write (fun _ => [.account surface id]) (setDisabled surface id) fun _ => ()
  write (fun w => ((w.codes surface).rows.filter fun c => c.accountId = id).map fun c =>
    .code surface c.id) (deleteCodes surface id) fun _ => ()

/-- `jwt.verifyAsync(mfaToken, …)` of the portal. -/
def verifyChallenge (cfg : JwtConfig) (surface : Surface) (verifiedAt : ℤ) (mfaToken : Jwt) :
    Option JwtClaims :=
  match surface with
  | .ADMIN => mfaToken.verify cfg.JWT_ACCESS_SECRET MFA_CHALLENGE_ISSUER MFA_CHALLENGE_AUDIENCE
      verifiedAt
  | .OWNER => mfaToken.verify cfg.OWNER_JWT_ACCESS_SECRET OWNER_MFA_CHALLENGE_ISSUER
      OWNER_MFA_CHALLENGE_AUDIENCE verifiedAt
  | .STAFF => mfaToken.verify cfg.STAFF_JWT_ACCESS_SECRET STAFF_MFA_CHALLENGE_ISSUER
      STAFF_MFA_CHALLENGE_AUDIENCE verifiedAt

/-- The account of a valid challenge. -/
def challengedAccount (cfg : JwtConfig) (surface : Surface) (verifiedAt : ℤ) (mfaToken : Jwt) :
    Option Id :=
  (verifyChallenge cfg surface verifiedAt mfaToken).bind fun payload =>
    if payload.typ = some "mfa_challenge" then payload.sub else none

def consumeChallenge (verifiedAt : ℤ) (mfaToken : Jwt) (code : String) :
    MfaOp (Id × VerifiedWith) := do
  let id ← orThrow (challengedAccount cfg.jwt surface verifiedAt mfaToken)
    .mfaChallengeInvalid
  writeChecked (fun _ => []) (assertNotLocked surface id) fun _ => ()
  let (account, now) ← loadAccount surface id
  throwIf (account.mfaEnabled = false) .mfaNotEnabled
  let verifiedWith ← consumeCode cfg surface account.id account.mfaSecret code now
  match verifiedWith with
  | none =>
    write (fun _ => []) (recordFailure cfg surface account.id) fun _ => ()
    throw .mfaInvalidCode
  | some how =>
    write (fun _ => []) (setAttempts? surface account.id none) fun _ => ()
    return (account.id, how)

namespace AdminMfaService

def enroll (cfg : MfaConfig) := Travelo.enroll cfg .ADMIN
def verifyEnrolment (cfg : MfaConfig) := Travelo.verifyEnrolment cfg .ADMIN
def disable (cfg : MfaConfig) := Travelo.disable cfg .ADMIN
def consumeChallenge (cfg : MfaConfig) := Travelo.consumeChallenge cfg .ADMIN

end AdminMfaService

namespace OwnerMfaService

def enroll (cfg : MfaConfig) := Travelo.enroll cfg .OWNER
def verifyEnrolment (cfg : MfaConfig) := Travelo.verifyEnrolment cfg .OWNER
def disable (cfg : MfaConfig) := Travelo.disable cfg .OWNER
def consumeChallenge (cfg : MfaConfig) := Travelo.consumeChallenge cfg .OWNER

end OwnerMfaService

namespace StaffMfaService

def enroll (cfg : MfaConfig) := Travelo.enroll cfg .STAFF
def verifyEnrolment (cfg : MfaConfig) := Travelo.verifyEnrolment cfg .STAFF
def disable (cfg : MfaConfig) := Travelo.disable cfg .STAFF
def consumeChallenge (cfg : MfaConfig) := Travelo.consumeChallenge cfg .STAFF

end StaffMfaService

/-! ## Calls -/

inductive MfaCall where
  | enroll (surface : Surface) (id : Id) (draw : EnrolDraw)
  | verifyEnrolment (surface : Surface) (id : Id) (code : String)
  | disable (surface : Surface) (id : Id) (code : String)
  | challenge (surface : Surface) (verifiedAt : ℤ) (mfaToken : Jwt) (code : String)
  /-- Time passes. -/
  | tick (elapsed : ℕ)

def MfaCall.body : MfaCall → MfaOp Unit
  | .enroll surface id draw =>
    match surface with
    | .ADMIN => (fun _ => ()) <$> AdminMfaService.enroll cfg id draw
    | .OWNER => (fun _ => ()) <$> OwnerMfaService.enroll cfg id draw
    | .STAFF => (fun _ => ()) <$> StaffMfaService.enroll cfg id draw
  | .verifyEnrolment surface id code =>
    match surface with
    | .ADMIN => AdminMfaService.verifyEnrolment cfg id code
    | .OWNER => OwnerMfaService.verifyEnrolment cfg id code
    | .STAFF => StaffMfaService.verifyEnrolment cfg id code
  | .disable surface id code =>
    match surface with
    | .ADMIN => AdminMfaService.disable cfg id code
    | .OWNER => OwnerMfaService.disable cfg id code
    | .STAFF => StaffMfaService.disable cfg id code
  | .challenge surface verifiedAt mfaToken code =>
    match surface with
    | .ADMIN => (fun _ => ()) <$> AdminMfaService.consumeChallenge cfg verifiedAt mfaToken code
    | .OWNER => (fun _ => ()) <$> OwnerMfaService.consumeChallenge cfg verifiedAt mfaToken code
    | .STAFF => (fun _ => ()) <$> StaffMfaService.consumeChallenge cfg verifiedAt mfaToken code
  | .tick elapsed =>
    write (fun _ => []) (fun w => { w with now := w.now + elapsed }) fun _ => ()

/-- A call as its caller sees it. -/
def MfaCall.prog (call : MfaCall) : MfaOp (Except MfaErr Unit) :=
  (call.body cfg).caught

end Travelo
