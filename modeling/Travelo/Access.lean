import Travelo.Auth
import Travelo.ReadCommitted.Fragments
import Travelo.Reservations.Service

/-!
# Roles, admins and plan features

`RolesService`, `AdminsService`, `PlansService.setFeatures` and the effective permissions of an
admin, which `PermissionsService` keeps in Redis and in the memory of the process. Both caches and
the clock are part of the state, and each access to a cache is a step of its own. No method opens a
transaction, so no row stays locked.
-/

namespace Travelo.Access

open ReadCommitted

/-! ## State -/

structure Role where
  id : Id
  key : String
  name : String
  description : Option String := none
  isSystem : Bool := false
  updatedAt : ℕ := 0
  deriving DecidableEq

/-- A row of `role_permissions`; both columns are its key. -/
structure RolePermission where
  roleId : Id
  permissionKey : String
  deriving DecidableEq

/-- A row of `admin_roles`; both columns are its key. -/
structure AdminRole where
  adminId : Id
  roleId : Id
  deriving DecidableEq

structure Admin where
  id : Id
  email : String
  name : String
  passwordHash : Argon2 String
  status : AdminStatus := .Active
  mfaEnabled : Bool := false
  updatedAt : ℕ := 0
  deletedAt : Option ℕ := none

structure AdminSession where
  id : Id
  adminId : Id
  revokedAt : Option ℕ := none

structure SubscriptionPlan where
  id : Id
  monthlyPrice : ℤ
  durationMonths : ℤ

/-- A row of `plan_features`; both columns are its key. -/
structure PlanFeature where
  planId : Id
  featureKey : String
  deriving DecidableEq

structure AuditLog where
  action : String
  entity : String
  entityId : Id

/-- What an admin holds. -/
structure Effective where
  roles : List String
  permissions : List String

/-- A value of Redis under `perms:<admin>`. -/
structure RedisEntry where
  value : Effective
  /-- Set by `EX`. -/
  expiresAt : ℕ

/-- A value of `memoryCache`. -/
structure MemoryEntry where
  value : Effective
  /-- `at`. -/
  storedAt : ℕ

/-- The tables, both caches and the clock. -/
structure AccessDb where
  roles : Table Role.id := ∅
  rolePermissions : Table (fun r : RolePermission => r) := ∅
  admins : Table Admin.id := ∅
  adminRoles : Table (fun r : AdminRole => r) := ∅
  sessions : Table AdminSession.id := ∅
  plans : Table SubscriptionPlan.id := ∅
  planFeatures : Table (fun r : PlanFeature => r) := ∅
  /-- The keys of the permission catalogue. -/
  permissions : List String := []
  auditLogs : List AuditLog := []
  redis : Id → Option RedisEntry := fun _ => none
  memory : Id → Option MemoryEntry := fun _ => none
  /-- In milliseconds. -/
  now : ℕ := 0

/-- What a statement reads. -/
inductive AccessLook where
  | redis (adminId : Id)
  | memory (adminId : Id)
  | roles
  | rolePermissions
  | adminRoles (adminId : Id)
  /-- The admins of a role. -/
  | bound (roleId : Id)
  | permissions
  | admins
  | plans
  | planFeatures
  deriving DecidableEq

inductive AccessErr where
  | roleKeyExists
  | roleNotFound
  | systemRoleImmutable
  | unknownPermissions (missing : List String)
  | emailRegistered
  | adminNotFound
  | unknownRoleKeys (missing : List String)
  | planNotFound
  | uniqueViolation
  | foreignKeyViolation
  /-- The database, or Redis, failed. -/
  | internal (message : String)
  deriving DecidableEq

instance : Faults AccessErr where
  lost := .internal

abbrev AccessOp := Prog AccessDb Empty AccessLook AccessErr

/-- Whether `REDIS_URL` is set. -/
structure AccessConfig where
  redis : Bool

/-! ## Writes -/

namespace AccessDb

def insertRole (key name : String) (description : Option String) (db : AccessDb) :
    Except AccessErr AccessDb :=
  if ∃ r ∈ db.roles, r.key = key then .error .uniqueViolation
  else .ok { db with
    roles := db.roles.insert
      { id := freshId (db.roles.rows.map Role.id), key, name, description, updatedAt := db.now } }

variable (id : Id)

def updateRole (name : String) (description : Option String) (db : AccessDb) : AccessDb :=
  { db with
    roles := db.roles.update (fun r => r.id = id)
      (fun r => { r with name, description, updatedAt := db.now }) fun _ => rfl }

def deleteRolePermissions (roleId : Id) (db : AccessDb) : AccessDb :=
  { db with rolePermissions := db.rolePermissions.delete fun r => r.roleId = roleId }

def insertRolePermissions (roleId : Id) (keys : List String) (db : AccessDb) :
    Except AccessErr AccessDb :=
  match db.rolePermissions.insertAll (keys.map fun k => ⟨roleId, k⟩) with
  | some rolePermissions => .ok { db with rolePermissions }
  | none => .error .uniqueViolation

def insertAdmin (email name : String) (passwordHash : Argon2 String) (db : AccessDb) :
    Except AccessErr AccessDb :=
  if ∃ a ∈ db.admins, a.email = email then .error .uniqueViolation
  else .ok { db with
    admins := db.admins.insert
      { id := freshId (db.admins.rows.map Admin.id), email, name, passwordHash,
        updatedAt := db.now } }

def updateAdmin (name : String) (db : AccessDb) : AccessDb :=
  { db with
    admins := db.admins.update (fun a => a.id = id)
      (fun a => { a with name, updatedAt := db.now }) fun _ => rfl }

def updateStatus (status : AdminStatus) (db : AccessDb) : AccessDb :=
  { db with
    admins := db.admins.update (fun a => a.id = id)
      (fun a => { a with status, updatedAt := db.now }) fun _ => rfl }

variable (adminId : Id)

def revokeSessions (db : AccessDb) : AccessDb :=
  { db with
    sessions := db.sessions.update (fun s => s.adminId = adminId && s.revokedAt.isNone)
      (fun s => { s with revokedAt := some db.now }) fun _ => rfl }

def deleteAdminRoles (db : AccessDb) : AccessDb :=
  { db with adminRoles := db.adminRoles.delete fun r => r.adminId = adminId }

/-- `ON CONFLICT DO NOTHING`. -/
def insertAdminRoles (roleIds : List Id) (db : AccessDb) : AccessDb :=
  { db with adminRoles := (roleIds.map fun r => ⟨adminId, r⟩).foldl Table.insert db.adminRoles }

def deletePlanFeatures (planId : Id) (db : AccessDb) : AccessDb :=
  { db with planFeatures := db.planFeatures.delete fun f => f.planId = planId }

/-- The plan is a foreign key, the feature is not. -/
def insertPlanFeatures (planId : Id) (keys : List String) (db : AccessDb) :
    Except AccessErr AccessDb :=
  match db.planFeatures.insertAll (keys.map fun k => ⟨planId, k⟩) with
  | some planFeatures =>
    if db.plans.hasKey planId then .ok { db with planFeatures } else .error .foreignKeyViolation
  | none => .error .uniqueViolation

def setRedis (entry : Option RedisEntry) (db : AccessDb) : AccessDb :=
  { db with redis := Function.update db.redis adminId entry }

def setMemory (entry : Option MemoryEntry) (db : AccessDb) : AccessDb :=
  { db with memory := Function.update db.memory adminId entry }

/-! ## Reads -/

def roleIdsOf (db : AccessDb) : List Id :=
  (db.adminRoles.rows.filter fun r => r.adminId = adminId).map AdminRole.roleId

def permissionRows (roleIds : List Id) (db : AccessDb) : List RolePermission :=
  db.rolePermissions.rows.filter fun r => r.roleId ∈ roleIds

end AccessDb

/-- `AuditService.record`. -/
def record (action entity : String) (entityId : Id) : AccessOp Unit :=
  write (fun _ => [])
    (fun db => { db with auditLogs := db.auditLogs ++ [⟨action, entity, entityId⟩] }) fun _ => ()

/-! ## Permissions -/

def CACHE_TTL_SECONDS : ℕ := 300

namespace PermissionsService

/-- A Redis command whose failure is logged only. -/
def ignoring {α : Type} (p : AccessOp α) (otherwise : α) : AccessOp α :=
  p.tryCatch fun _ => return otherwise

variable (adminId : Id)

def redisValue (db : AccessDb) : Option Effective :=
  ((db.redis adminId).filter fun e => db.now < e.expiresAt).map RedisEntry.value

def memoryValue (db : AccessDb) : Option Effective :=
  ((db.memory adminId).filter fun e => db.now < e.storedAt + CACHE_TTL_SECONDS * 1000).map
    MemoryEntry.value

variable (cfg : AccessConfig)

/-- `redis.get`; nothing without a Redis. -/
def redisGet (adminId : Id) : AccessOp (Option Effective) :=
  if cfg.redis = true then ignoring (select (.redis adminId) (redisValue adminId)) none
  else return none

def readCache (adminId : Id) : AccessOp (Option Effective) := do
  let raw ← redisGet cfg adminId
  match raw with
  | some value => return some value
  | none => select (.memory adminId) (memoryValue adminId)

/-- `redis.set`, and whether it was stored. -/
def redisSet (adminId : Id) (value : Effective) : AccessOp Bool :=
  if cfg.redis = true then
    ignoring (write (fun _ => [])
      (fun db => db.setRedis adminId (some ⟨value, db.now + CACHE_TTL_SECONDS * 1000⟩))
      fun _ => true) false
  else return false

def writeCache (adminId : Id) (value : Effective) : AccessOp Unit := do
  let stored ← redisSet cfg adminId value
  when (stored = false) <|
    write (fun _ => []) (fun db => db.setMemory adminId (some ⟨value, db.now⟩)) fun _ => ()

def getEffectivePermissions (adminId : Id) : AccessOp Effective := do
  let cached ← readCache cfg adminId
  match cached with
  | some value => return value
  | none =>
    let roleIds ← select (.adminRoles adminId) (AccessDb.roleIdsOf adminId)
    if roleIds = [] then
      writeCache cfg adminId { roles := [], permissions := [] }
      return { roles := [], permissions := [] }
    else
      let names ← select .roles fun db =>
        (db.roles.rows.filter fun r => r.id ∈ roleIds).map Role.name
      let rows ← select .rolePermissions (AccessDb.permissionRows roleIds)
      let result : Effective :=
        { roles := names, permissions := (rows.map RolePermission.permissionKey).eraseDups }
      writeCache cfg adminId result
      return result

def forgetMemory : AccessOp Unit :=
  write (fun _ => []) (fun db => db.setMemory adminId none) fun _ => ()

def forgetRedis (adminId : Id) : AccessOp Unit :=
  when (cfg.redis = true) <|
    ignoring (write (fun _ => []) (fun db => db.setRedis adminId none) fun _ => ()) ()

def invalidate (cfg : AccessConfig) (adminId : Id) : AccessOp Unit := do
  forgetMemory adminId
  forgetRedis cfg adminId

/-- `Promise.all(adminIds.map((a) => this.perms.invalidate(a)))`: each call runs up to its first
`await`, and then Redis answers them in turn. -/
def invalidateAll (adminIds : List Id) : AccessOp Unit := do
  let _ ← all forgetMemory adminIds
  let _ ← all (forgetRedis cfg) adminIds
  return ()

end PermissionsService

/-! ## Roles -/

structure CreateRoleDto where
  key : String
  name : String
  description : Option String := none
  permissions : Option (List String) := none

structure UpdateRoleDto where
  name : Option String := none
  /-- `some none` is `null`, which is not `undefined`. -/
  description : Option (Option String) := none
  permissions : Option (List String) := none

namespace RolesService

def getById (id : Id) : AccessOp (Role × List String) := do
  let found ← select .roles fun db => db.roles.find? id
  let row ← orThrow found .roleNotFound
  let perms ← select .rolePermissions (AccessDb.permissionRows [id])
  return (row, perms.map RolePermission.permissionKey)

/-- The keys that have to be in the catalogue. -/
def nonWildcard (keys : List String) : List String := keys.filter (· ≠ "*")

def setPermissions (roleId : Id) (keys : List String) : AccessOp Unit := do
  when (nonWildcard keys ≠ []) do
    let found ← select .permissions fun db => db.permissions.filter (· ∈ nonWildcard keys)
    let missing := (nonWildcard keys).filter (· ∉ found)
    throwIf (missing ≠ []) (.unknownPermissions missing)
  write (fun _ => []) (AccessDb.deleteRolePermissions roleId) fun _ => ()
  when (keys ≠ []) <|
    writeChecked (fun _ => []) (AccessDb.insertRolePermissions roleId keys) fun _ => ()

def create (dto : CreateRoleDto) : AccessOp (Role × List String) := do
  let existing ← select .roles fun db => decide (∃ r ∈ db.roles, r.key = dto.key)
  throwIf (existing = true) .roleKeyExists
  let id ← writeChecked (fun _ => [])
    (AccessDb.insertRole dto.key dto.name dto.description)
    fun db => freshId (db.roles.rows.map Role.id)
  when (dto.permissions.getD [] ≠ []) (setPermissions id (dto.permissions.getD []))
  record "role.created" "role" id
  getById id

/-- `dto.name || dto.description !== undefined`. -/
def renames (dto : UpdateRoleDto) : Bool := dto.name.any (· ≠ "") || dto.description.isSome

def update (cfg : AccessConfig) (id : Id) (dto : UpdateRoleDto) :
    AccessOp (Role × List String) := do
  let (before, _) ← getById id
  throwIf (before.isSystem = true ∧ dto.permissions.isSome = true) .systemRoleImmutable
  when (renames dto = true) <|
    write (fun _ => []) (AccessDb.updateRole id (dto.name.getD before.name)
      (dto.description.join <|> before.description)) fun _ => ()
  forSome dto.permissions fun keys => do
    setPermissions id keys
    -- every admin bound to this role
    let bound ← select (.bound id) fun db =>
      (db.adminRoles.rows.filter fun r => r.roleId = id).map AdminRole.adminId
    PermissionsService.invalidateAll cfg bound
  let after ← getById id
  record "role.updated" "role" id
  return after

end RolesService

/-! ## Admins -/

structure CreateAdminDto where
  email : String
  name : String
  password : String
  roleKeys : Option (List String) := none

structure UpdateAdminDto where
  name : Option String := none
  roleKeys : Option (List String) := none

/-- What `serialize` makes of an admin and its roles. -/
structure SerializedAdmin where
  id : Id
  email : String
  name : String
  status : AdminStatus
  mfa : Bool
  role : String
  roles : List (String × String)

namespace AdminsService

def serialize (admin : Admin) (rs : List (String × String)) : SerializedAdmin where
  id := admin.id
  email := admin.email
  name := admin.name
  status := admin.status
  mfa := admin.mfaEnabled
  role := if rs = [] then "Unassigned" else String.intercalate ", " (rs.map Prod.fst)
  roles := rs

def get (id : Id) : AccessOp SerializedAdmin := do
  let found ← select .admins fun db => (db.admins.find? id).filter fun a => a.deletedAt.isNone
  let row ← orThrow found .adminNotFound
  let rs ← select (.adminRoles id) fun db =>
    (db.roleIdsOf id).filterMap fun roleId => (db.roles.find? roleId).map fun r => (r.name, r.key)
  return serialize row rs

variable (cfg : AccessConfig)

def assignRolesByKey (adminId : Id) (keys : List String) : AccessOp Unit := do
  let rows ← select .roles fun db => db.roles.rows.filter fun r => r.key ∈ keys
  throwIf (rows.length ≠ keys.length)
    (.unknownRoleKeys (keys.filter (· ∉ rows.map Role.key)))
  write (fun _ => []) (AccessDb.insertAdminRoles adminId (rows.map Role.id)) fun _ => ()
  PermissionsService.invalidate cfg adminId

def create (dto : CreateAdminDto) : AccessOp SerializedAdmin := do
  let existing ← select .admins fun db =>
    decide (∃ a ∈ db.admins, a.email = dto.email.toLower)
  throwIf (existing = true) .emailRegistered
  let id ← writeChecked (fun _ => [])
    (AccessDb.insertAdmin dto.email.toLower dto.name (.hash dto.password))
    fun db => freshId (db.admins.rows.map Admin.id)
  when (dto.roleKeys.getD [] ≠ []) (assignRolesByKey cfg id (dto.roleKeys.getD []))
  record "admin.created" "admin" id
  get id

def update (id : Id) (dto : UpdateAdminDto) : AccessOp SerializedAdmin := do
  let _ ← get id
  forSome (dto.name.filter (· ≠ "")) fun name =>
    write (fun _ => []) (AccessDb.updateAdmin id name) fun _ => ()
  forSome dto.roleKeys fun keys => do
    write (fun _ => []) (AccessDb.deleteAdminRoles id) fun _ => ()
    when (keys ≠ []) (assignRolesByKey cfg id keys)
    PermissionsService.invalidate cfg id
  let after ← get id
  record "admin.updated" "admin" id
  return after

def statusAction : AdminStatus → String
  | .Active => "admin.status.active"
  | .Inactive => "admin.status.inactive"
  | .Blocked => "admin.status.blocked"

def setStatus (id : Id) (status : AdminStatus) :
    AccessOp SerializedAdmin := do
  let _ ← get id
  write (fun _ => []) (AccessDb.updateStatus id status) fun _ => ()
  when (status ≠ .Active) <|
    write (fun _ => []) (AccessDb.revokeSessions id) fun _ => ()
  PermissionsService.invalidate cfg id
  let after ← get id
  record (statusAction status) "admin" id
  return after

end AdminsService

/-! ## Plans -/

namespace PlansService

def get (id : Id) : AccessOp (SubscriptionPlan × ℤ × List String) := do
  let found ← select .plans fun db => db.plans.find? id
  let row ← orThrow found .planNotFound
  let fs ← select .planFeatures fun db => db.planFeatures.rows.filter fun f => f.planId = id
  return (row, row.monthlyPrice * row.durationMonths, fs.map PlanFeature.featureKey)

def setFeatures (id : Id) (keys : List String) :
    AccessOp (SubscriptionPlan × ℤ × List String) := do
  write (fun _ => []) (AccessDb.deletePlanFeatures id) fun _ => ()
  when (keys ≠ []) <|
    writeChecked (fun _ => []) (AccessDb.insertPlanFeatures id keys) fun _ => ()
  record "plan.features.set" "plan" id
  get id

end PlansService

/-! ## Rows read back -/

variable (id : Id)

theorem readOnly_getById : (RolesService.getById id).ReadOnly :=
  (Prog.ReadOnly.select _ _).bind fun _ => (Prog.ReadOnly.orThrow _ _).bind fun _ =>
    (Prog.ReadOnly.select _ _).bind fun _ => .pure _

theorem readOnly_getAdmin : (AdminsService.get id).ReadOnly :=
  (Prog.ReadOnly.select _ _).bind fun _ => (Prog.ReadOnly.orThrow _ _).bind fun _ =>
    (Prog.ReadOnly.select _ _).bind fun _ => .pure _

theorem readOnly_getPlan : (PlansService.get id).ReadOnly :=
  (Prog.ReadOnly.select _ _).bind fun _ => (Prog.ReadOnly.orThrow _ _).bind fun _ =>
    (Prog.ReadOnly.select _ _).bind fun _ => .pure _

/-! ## Calls -/

/-- The calls that change roles, admins and plan features. -/
inductive Change where
  | createRole (dto : CreateRoleDto)
  | updateRole (id : Id) (dto : UpdateRoleDto)
  | createAdmin (dto : CreateAdminDto)
  | updateAdmin (id : Id) (dto : UpdateAdminDto)
  | setFeatures (planId : Id) (keys : List String)

def Change.prog (cfg : AccessConfig) : Change → AccessOp Unit
  | .createRole dto => do let _ ← RolesService.create dto
  | .updateRole id dto => do let _ ← RolesService.update cfg id dto
  | .createAdmin dto => do let _ ← AdminsService.create cfg dto
  | .updateAdmin id dto => do let _ ← AdminsService.update cfg id dto
  | .setFeatures planId keys => do let _ ← PlansService.setFeatures planId keys

end Travelo.Access
