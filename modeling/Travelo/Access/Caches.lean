import Travelo.Access
import Travelo.ReadCommitted.Relying

/-!
# What the calls do to the caches

`AccessCall.Observes` sums up what a call does to the entries of one admin: it fills in only what it
has computed from the links it has read (`Computed`), and a change that writes the links of the
admin has both entries still to drop (`Owes`). `AccessCall.watch_prog` proves it of every call.
-/

namespace Travelo.Access

open ReadCommitted
open PermissionsService (getEffectivePermissions forgetMemory forgetRedis invalidate invalidateAll
  ignoring writeCache redisSet readCache redisGet)
open RolesService (setPermissions getById)
open AccessDb (setMemory setRedis insertRole insertAdmin)

/-! ## Calls -/

/-- The calls that are interleaved. -/
inductive AccessCall where
  | get (adminId : Id)
  | updateRole (id : Id) (dto : UpdateRoleDto)
  | updateAdmin (id : Id) (dto : UpdateAdminDto)
  | setStatus (id : Id) (status : AdminStatus)
  | createRole (dto : CreateRoleDto)
  | createAdmin (dto : CreateAdminDto)
  | setFeatures (planId : Id) (keys : List String)
  /-- Time passes. -/
  | tick (elapsed : ℕ)

def AccessCall.body (cfg : AccessConfig) : AccessCall → AccessOp (Option Effective)
  | .get adminId => some <$> getEffectivePermissions cfg adminId
  | .updateRole id dto => (fun _ => none) <$> RolesService.update cfg id dto
  | .updateAdmin id dto => (fun _ => none) <$> AdminsService.update cfg id dto
  | .setStatus id status => (fun _ => none) <$> AdminsService.setStatus cfg id status
  | .createRole dto => (fun _ => none) <$> RolesService.create dto
  | .createAdmin dto => (fun _ => none) <$> AdminsService.create cfg dto
  | .setFeatures planId keys => (fun _ => none) <$> PlansService.setFeatures planId keys
  | .tick elapsed =>
    write (fun _ => []) (fun db => { db with now := db.now + elapsed }) fun _ => none

abbrev AccessAnswer := Except AccessErr (Option Effective)

/-- A call as its caller sees it. -/
def AccessCall.prog (cfg : AccessConfig) (call : AccessCall) : AccessOp AccessAnswer :=
  (call.body cfg).caught

abbrev AccessRun := Config AccessDb Empty AccessLook AccessErr AccessAnswer

abbrev AccessSession := Session AccessDb Empty AccessLook AccessErr AccessAnswer

abbrev AccessTrace := List (Obs AccessDb AccessLook)

def AccessRun.start (cfg : AccessConfig) (db : AccessDb) (calls : List AccessCall) : AccessRun :=
  Config.start db (calls.map (AccessCall.prog cfg))

/-! ## Links -/

/-- The links the permissions of an admin are computed from. -/
def AccessDb.grants (adminId : Id) (db : AccessDb) : List Id × List RolePermission :=
  (db.roleIdsOf adminId, db.permissionRows (db.roleIdsOf adminId))

/-- The permissions of an admin, computed from the links. -/
def AccessDb.permissionsOf (adminId : Id) (db : AccessDb) : List String :=
  ((db.permissionRows (db.roleIdsOf adminId)).map RolePermission.permissionKey).eraseDups

/-- The call is a change of the permissions of the admin. -/
def AccessCall.changes (adminId : Id) (db : AccessDb) : AccessCall → Bool
  | .updateRole id dto => dto.permissions.isSome && decide (id ∈ db.roleIdsOf adminId)
  | .updateAdmin id dto => id = adminId && dto.roleKeys.isSome
  | .setStatus id _ => id = adminId
  | _ => false

def AccessCall.isGet (adminId : Id) : AccessCall → Bool
  | .get id => id = adminId
  | _ => false

/-! ## What the calls write -/

section Writes

variable {cfg : AccessConfig} {adminId : Id}

/-- The write caches nothing more for the admin. -/
def CachesNothing (adminId : Id) (w : AccessDb → AccessDb) : Prop :=
  ∀ db, (∀ e, (w db).redis adminId = some e → db.redis adminId = some e) ∧
    ∀ e, (w db).memory adminId = some e → db.memory adminId = some e

/-- Nor does it touch the links of the admin. -/
def Calm (adminId : Id) (w : AccessDb → AccessDb) : Prop :=
  CachesNothing adminId w ∧ ∀ db, (w db).grants adminId = db.grants adminId

theorem cachesNothing_of_same {w : AccessDb → AccessDb}
    (hw : ∀ db, (w db).redis = db.redis ∧ (w db).memory = db.memory) : CachesNothing adminId w := by
  intro db
  rw [(hw db).1, (hw db).2]
  exact ⟨fun _ h => h, fun _ h => h⟩

theorem cachesNothing_applied {f : AccessDb → Except AccessErr AccessDb}
    (hf : ∀ db db', f db = .ok db' → db'.redis = db.redis ∧ db'.memory = db.memory) :
    CachesNothing adminId (applied f) := by
  refine cachesNothing_of_same fun db => ?_
  unfold applied
  cases hdb : f db with
  | ok db' => exact hf db db' hdb
  | error e => exact ⟨rfl, rfl⟩

theorem calm_of_same {w : AccessDb → AccessDb}
    (hw : ∀ db, (w db).redis = db.redis ∧ (w db).memory = db.memory ∧
      (w db).adminRoles = db.adminRoles ∧ (w db).rolePermissions = db.rolePermissions) :
    Calm adminId w := by
  refine ⟨cachesNothing_of_same fun db => ⟨(hw db).1, (hw db).2.1⟩, fun db => ?_⟩
  unfold AccessDb.grants AccessDb.permissionRows AccessDb.roleIdsOf
  rw [(hw db).2.2.1, (hw db).2.2.2]

theorem calm_setMemory_none (id : Id) : Calm adminId fun db => db.setMemory id none := by
  refine ⟨fun db => ⟨fun _ h => h, fun e h => ?_⟩, fun _ => rfl⟩
  by_cases heq : adminId = id
  · subst heq
    simp [setMemory] at h
  · simpa [setMemory, Function.update_of_ne heq] using h

theorem calm_setRedis_none (id : Id) : Calm adminId fun db => db.setRedis id none := by
  refine ⟨fun db => ⟨fun e h => ?_, fun _ h => h⟩, fun _ => rfl⟩
  by_cases heq : adminId = id
  · subst heq
    simp [setRedis] at h
  · simpa [setRedis, Function.update_of_ne heq] using h

/-! ### Programs that only drop -/

theorem plain_forgetMemory (id : Id) : (forgetMemory id).Plain (Calm adminId) :=
  .write (calm_setMemory_none id)

theorem plain_forgetRedis (id : Id) :
    (forgetRedis cfg id).Plain (Calm adminId) :=
  .when (.tryCatch (.write (calm_setRedis_none id)) fun _ => .ret ())

theorem plain_invalidate (id : Id) : (invalidate cfg id).Plain (Calm adminId) :=
  (plain_forgetMemory id).bind fun _ => plain_forgetRedis id

theorem plain_invalidateAll (ids : List Id) :
    (invalidateAll cfg ids).Plain (Calm adminId) :=
  (Prog.Plain.all plain_forgetMemory ids).bind fun _ =>
    (Prog.Plain.all plain_forgetRedis ids).bind fun _ => .ret ()

theorem plain_record (action entity : String) (id : Id) :
    (record action entity id).Plain (Calm adminId) :=
  .write (calm_of_same fun _ => ⟨rfl, rfl, rfl, rfl⟩)

end Writes

/-! ## What the calls owe -/

inductive Cache where
  | redis
  | memory

/-- The statement that drops the admin's entry. -/
def Cache.drop (adminId : Id) : Cache → Stmt AccessDb Empty AccessLook AccessErr
  | .redis => .write (fun _ => []) fun db => .ok (db.setRedis adminId none)
  | .memory => .write (fun _ => []) fun db => .ok (db.setMemory adminId none)

def Cache.dropped (adminId : Id) (cache : Cache) (st : Stmt AccessDb Empty AccessLook AccessErr)
    (t : Tx AccessDb) : Prop := st = cache.drop adminId ∧ t = .idle

/-- Only what Redis does not drop is passed over. -/
def Cache.missed (adminId : Id) (cache : Cache) (st : Stmt AccessDb Empty AccessLook AccessErr)
    (t : Tx AccessDb) : Prop := cache = .redis ∧ cache.dropped adminId st t

/-- While the links of the admin are `grants`, the program drops the entry before it answers; only
where Redis fails it goes on. -/
def Owes (adminId : Id) (grants : List Id × List RolePermission) (cache : Cache)
    (p : AccessOp AccessAnswer) (t : Tx AccessDb) : Prop :=
  p.relying (cache.dropped adminId) (cache.missed adminId) (fun db => db.grants adminId = grants)
    (fun answer _ => ∃ e, answer = .error e) (fun _ _ => True) t

/-- The value was computed from what the history has read of the links. -/
def Computed (adminId : Id) (h : AccessTrace) (value : Effective) : Prop :=
  ∃ b, .saw (.adminRoles adminId) b ∈ h ∧
    ((b.roleIdsOf adminId = [] ∧ value.permissions = []) ∨
      ∃ b', .saw .rolePermissions b' ∈ h ∧ value.permissions =
        ((b'.permissionRows (b.roleIdsOf adminId)).map RolePermission.permissionKey).eraseDups)

/-- What a write puts into the caches of the admin is what the call has computed. -/
def FillsComputed (adminId : Id) (call : AccessCall) (h : AccessTrace)
    (w : AccessDb → AccessDb) : Prop :=
  ∀ db, (∀ e, (w db).redis adminId = some e → db.redis adminId = some e ∨
      (call.isGet adminId = true ∧ Computed adminId h e.value)) ∧
    ∀ e, (w db).memory adminId = some e → db.memory adminId = some e ∨
      (call.isGet adminId = true ∧ Computed adminId h e.value)

/-- A call fills caches with what it has computed, and a change that writes the links has the
entries still to drop. -/
def AccessCall.Observes (cfg : AccessConfig) (adminId : Id) (call : AccessCall) (h : AccessTrace)
    (o : Option (Obs AccessDb AccessLook)) (db : AccessDb) (q : AccessOp AccessAnswer) : Prop :=
  ∀ w, o = some (.wrote w) → FillsComputed adminId call h w ∧
    (call.changes adminId (w db) = true → (w db).grants adminId ≠ db.grants adminId →
      ∀ cache, (cache = .redis → cfg.redis = true) →
        Owes adminId ((w db).grants adminId) cache q .idle)

section Observes

variable {cfg : AccessConfig} {adminId : Id} {call : AccessCall}

variable {db : AccessDb} {q : AccessOp AccessAnswer}

variable {o : Option (Obs AccessDb AccessLook)} {h : AccessTrace}

theorem CachesNothing.fills {w : AccessDb → AccessDb} (hw : CachesNothing adminId w) :
    FillsComputed adminId call h w :=
  fun db => ⟨fun e he => .inl ((hw db).1 e he), fun e he => .inl ((hw db).2 e he)⟩

theorem observes_of_calm (hcalm : ∀ w, o = some (.wrote w) → Calm adminId w) :
    call.Observes cfg adminId h o db q :=
  fun w hw => ⟨(hcalm w hw).1.fills, fun _ hne => absurd ((hcalm w hw).2 db) hne⟩

theorem observes_of_cachesNothing (hnot : ∀ db, call.changes adminId db = false)
    (hcaches : ∀ w, o = some (.wrote w) → CachesNothing adminId w) :
    call.Observes cfg adminId h o db q := by
  intro w hw
  refine ⟨(hcaches w hw).fills, fun hchanges => ?_⟩
  rw [hnot] at hchanges
  cases hchanges

theorem observes_wrote {w : AccessDb → AccessDb} (hcaches : CachesNothing adminId w)
    (howes : call.changes adminId (w db) = true → ∀ cache, (cache = .redis → cfg.redis = true) →
      Owes adminId ((w db).grants adminId) cache q .idle) :
    call.Observes cfg adminId h (some (.wrote w)) db q := by
  intro w' hw'
  cases hw'
  exact ⟨hcaches.fills, fun hchanges _ => howes hchanges⟩

theorem watch_calm {α : Type} {p : AccessOp α} {k : AccessOp α → AccessOp AccessAnswer}
    {P : α → AccessTrace → Tx AccessDb → Prop} (hp : p.Plain (Calm adminId))
    (hP : ∀ a h, P a h .idle) :
    p.watch (fun h o db q => call.Observes cfg adminId h o db (k q)) P (fun _ _ _ => True) h
      .idle :=
  hp.watch_idle (fun _ _ _ _ hw => observes_of_calm hw) hP fun _ _ => trivial

theorem watch_drop {α : Type} {p : AccessOp Unit} {rest : AccessOp α} (hp : p.Plain (Calm adminId))
    (hrest : rest.Plain (Calm adminId)) :
    p.watch (fun h o db q => call.Observes cfg adminId h o db
        ((fun _ => none) <$> (q >>= fun _ => rest)).caught)
      (fun _ h t => rest.watch (fun h o db q => call.Observes cfg adminId h o db
        ((fun _ => none) <$> q).caught) (fun _ _ _ => True) (fun _ _ _ => True) h t)
      (fun _ _ _ => True) h .idle :=
  watch_calm hp fun _ _ => watch_calm hrest fun _ _ => trivial

theorem refused (e : AccessErr) : ∃ e', (Except.error e : AccessAnswer) = .error e' := ⟨e, rfl⟩

/-! ### Dropping -/

section Drops

variable {V : AccessDb → Prop} {E : AccessErr → Tx AccessDb → Prop} {cache : Cache}

variable {P : Unit → Tx AccessDb → Prop}

theorem drops_memory (hE : ∀ e, E e .idle) :
    (forgetMemory adminId).relying (Cache.memory.dropped adminId)
      (Cache.memory.missed adminId) V P E .idle :=
  ⟨.inl ⟨rfl, rfl⟩, .inr fun _ => hE _⟩

theorem drops_redis (hon : cfg.redis = true) :
    (forgetRedis cfg adminId).relying (Cache.redis.dropped adminId)
      (Cache.redis.missed adminId) V P E .idle := by
  unfold forgetRedis ignoring when
  rw [if_pos hon, Prog.relying_tryCatch]
  exact ⟨.inl ⟨rfl, rfl⟩, .inl ⟨rfl, rfl, rfl⟩⟩

theorem drops_invalidate (hon : cache = .redis → cfg.redis = true) (hE : ∀ e, E e .idle) :
    (invalidate cfg adminId).relying (cache.dropped adminId)
      (cache.missed adminId) V P E .idle := by
  unfold invalidate
  rw [relying_bind]
  cases cache with
  | memory => exact drops_memory hE
  | redis => exact (@plain_forgetMemory 0 adminId).relying_idle (fun _ => drops_redis (hon rfl)) hE

theorem drops_invalidateAll {ids : List Id} (hon : cache = .redis → cfg.redis = true)
    (hmem : adminId ∈ ids) (hE : ∀ e, E e .idle) :
    (invalidateAll cfg ids).relying (cache.dropped adminId)
      (cache.missed adminId) V P E .idle := by
  unfold invalidateAll
  rw [relying_bind]
  cases cache with
  | memory =>
    exact Prog.relying_all (fun id P hP hE => (@plain_forgetMemory 0 id).relying_idle hP hE)
      (fun P hE => drops_memory hE) hE hmem
  | redis =>
    refine Prog.Plain.relying_idle (Prog.Plain.all (@plain_forgetMemory 0) ids) (fun _ => ?_) hE
    rw [relying_bind]
    exact Prog.relying_all (fun id P hP hE => (@plain_forgetRedis cfg 0 id).relying_idle hP hE)
      (fun P _ => drops_redis (hon rfl)) hE hmem

theorem drops_bound {id : Id} {grants : List Id × List RolePermission}
    (hon : cache = .redis → cfg.redis = true) (hid : id ∈ grants.1) (hE : ∀ e, E e .idle) :
    (do
      let bound ← select (.bound id) fun db =>
        (db.adminRoles.rows.filter fun r => r.roleId = id).map AdminRole.adminId
      invalidateAll cfg bound : AccessOp Unit).relying
        (cache.dropped adminId) (cache.missed adminId) (fun db => db.grants adminId = grants) P E
          .idle := by
  rw [relying_bind]
  refine relying_select_idle (fun db hdb => ?_) fun m => hE _
  subst hdb
  refine drops_invalidateAll hon ?_ hE
  rcases List.mem_map.mp hid with ⟨r, hr, rfl⟩
  rw [List.mem_filter] at hr
  have hadmin := of_decide_eq_true hr.2
  exact List.mem_map.mpr ⟨r, List.mem_filter.mpr ⟨hr.1, decide_eq_true rfl⟩, hadmin⟩

end Drops

/-! ### Writes of the changes -/

theorem cachesNothing_insertRolePermissions (id : Id) (keys : List String) :
    CachesNothing adminId (applied (AccessDb.insertRolePermissions id keys)) := by
  refine cachesNothing_applied fun db db' h => ?_
  unfold AccessDb.insertRolePermissions at h
  split at h
  · cases h
    exact ⟨rfl, rfl⟩
  · cases h

theorem plain_setPermissions (id : Id) (keys : List String) :
    (setPermissions id keys).Plain (CachesNothing adminId) := by
  have hdelete : CachesNothing adminId (AccessDb.deleteRolePermissions id) :=
    cachesNothing_of_same fun _ => ⟨rfl, rfl⟩
  exact (Prog.Plain.when <| (Prog.Plain.of_readOnly (.select _ _)).bind fun _ =>
    Prog.Plain.throwIf _ _).bind fun _ => (Prog.Plain.write hdelete).bind fun _ =>
      .when (.writeChecked (cachesNothing_insertRolePermissions id keys))

/-- The entries of whoever is bound to role `id` are dropped. -/
def dropBound (cfg : AccessConfig) (id : Id) : AccessOp Unit := do
  let bound ← select (.bound id) fun db =>
    (db.adminRoles.rows.filter fun r => r.roleId = id).map AdminRole.adminId
  invalidateAll cfg bound

theorem plain_dropBound (id : Id) : (dropBound cfg id).Plain (Calm adminId) :=
  (Prog.Plain.of_readOnly (.select _ _)).bind fun _ => plain_invalidateAll _

variable {cache : Cache} {W : (AccessDb → AccessDb) → Prop}

theorem owes_dropBound {α : Type} {id : Id} {p : AccessOp Unit} {rest : Unit → AccessOp α}
    (hp : p.Plain W) (hon : cache = .redis → cfg.redis = true) (hid : id ∈ db.roleIdsOf adminId) :
    Owes adminId (db.grants adminId) cache
      ((fun _ => none) <$> ((p >>= fun _ => dropBound cfg id) >>= rest)).caught .idle := by
  unfold Owes
  rw [relying_caught, relying_map, relying_bind, relying_bind]
  exact hp.relying_idle (fun _ => drops_bound hon hid refused) refused

theorem updateRole_observes {α : Type} {id : Id} {dto : UpdateRoleDto} {w : AccessDb → AccessDb}
    {p : AccessOp Unit} {rest : Unit → AccessOp α} (hcaches : CachesNothing adminId w)
    (hp : p.Plain (CachesNothing adminId)) :
    (AccessCall.updateRole id dto).Observes cfg adminId h (some (.wrote w)) db
      ((fun _ => none) <$> ((p >>= fun _ => dropBound cfg id) >>= rest)).caught := by
  refine observes_wrote hcaches fun hchanges cache hon => ?_
  simp only [AccessCall.changes, and_decide_eq] at hchanges
  exact owes_dropBound hp hon hchanges.2

theorem updateRole_owes {id : Id} {dto : UpdateRoleDto}
    (hchanges : (AccessCall.updateRole id dto).changes adminId db = true)
    (hon : cache = .redis → cfg.redis = true) :
    Owes adminId (db.grants adminId) cache ((AccessCall.updateRole id dto).prog cfg) .idle := by
  simp only [AccessCall.changes, and_decide_eq, Option.isSome_iff_exists]
    at hchanges
  rcases hchanges with ⟨⟨keys, hkeys⟩, hid⟩
  unfold Owes AccessCall.prog AccessCall.body RolesService.update
  rw [relying_caught, relying_map, relying_bind, hkeys]
  refine (Prog.Plain.of_readOnly (W := fun _ => True) (readOnly_getById id)).relying_idle
    (fun row => ?_) refused
  rw [relying_bind, Prog.relying_throwIf]
  refine ⟨fun _ => refused _, fun _ => ?_⟩
  rw [relying_bind]
  refine (Prog.Plain.when (.write (W := fun _ => True) trivial)).relying_idle (fun _ => ?_) refused
  rw [relying_bind]
  simp only [forSome]
  rw [relying_bind]
  exact (@plain_setPermissions adminId id keys).relying_idle
    (fun _ => drops_bound hon hid refused) refused

theorem updateRole_watch {id : Id} {dto : UpdateRoleDto} :
    ((AccessCall.updateRole id dto).prog cfg).watch
      ((AccessCall.updateRole id dto).Observes cfg adminId) (fun _ _ _ => True)
      (fun _ _ _ => True) [] .idle := by
  unfold AccessCall.prog AccessCall.body RolesService.update
  rw [watch_caught, watch_map, watch_bind]
  refine watch_calm (.of_readOnly (readOnly_getById id)) fun row h => ?_
  rw [watch_bind, watch_throwIf]
  refine ⟨fun _ => trivial, fun _ => ?_⟩
  rw [watch_bind]
  have hname : Calm adminId (AccessDb.updateRole id (dto.name.getD row.1.name)
    (dto.description.join <|> row.1.description)) := calm_of_same fun _ => ⟨rfl, rfl, rfl, rfl⟩
  refine watch_calm (.when (.write hname)) fun _ h => ?_
  rw [watch_bind]
  have hrest : (getById id >>= fun after => do
      record "role.updated" "role" id
      return after : AccessOp (Role × List String)).Plain (Calm adminId) :=
    (Prog.Plain.of_readOnly (readOnly_getById id)).bind fun after =>
      (plain_record _ _ _).bind fun _ => .ret after
  cases hkeys : dto.permissions with
  | none => exact watch_calm (.ret ()) fun _ _ => watch_calm hrest fun _ _ => trivial
  | some keys =>
    have hdelete : CachesNothing adminId (AccessDb.deleteRolePermissions id) :=
      cachesNothing_of_same fun _ => ⟨rfl, rfl⟩
    have hinsert := @cachesNothing_insertRolePermissions adminId id keys
    simp only [forSome]
    rw [watch_bind]
    unfold setPermissions
    rw [watch_bind]
    refine watch_calm (.when <| (Prog.Plain.of_readOnly (.select _ _)).bind fun _ => .throwIf _ _)
      fun _ h => ?_
    rw [watch_bind, watch_write_idle]
    refine ⟨fun db => ⟨?_, ?_⟩, fun _ => trivial⟩
    · exact updateRole_observes hdelete
        ((Prog.Plain.ret ()).bind fun _ => .when (.writeChecked hinsert))
    · rw [watch_when]
      refine ⟨fun _ => ?_, fun _ => watch_drop (plain_dropBound id) hrest⟩
      refine Prog.watch_writeChecked_idle _ _ _
        (fun db db' _ => ⟨?_, watch_drop (plain_dropBound id) hrest⟩) (fun db e _ => ?_)
        fun _ => trivial
      · exact updateRole_observes hinsert (Prog.Plain.ret ())
      · exact fun w hw => by cases hw

theorem cachesNothing_insertAdminRoles (id : Id) (roleIds : List Id) :
    CachesNothing adminId (AccessDb.insertAdminRoles id roleIds) :=
  cachesNothing_of_same fun _ => ⟨rfl, rfl⟩

theorem plain_assignRolesByKey (id : Id) (keys : List String) :
    (AdminsService.assignRolesByKey cfg id keys).Plain (CachesNothing adminId) :=
  (Prog.Plain.of_readOnly (.select _ _)).bind fun _ => (Prog.Plain.throwIf _ _).bind fun _ =>
    (Prog.Plain.write (cachesNothing_insertAdminRoles id _)).bind fun _ =>
      (plain_invalidate id).mono fun _ h => h.1

variable {grants : List Id × List RolePermission}

/-- What is left of a change of the admin when the entries are still to be dropped. -/
theorem owes_invalidate {α : Type} {p : AccessOp Unit} {rest : Unit → AccessOp α} (hp : p.Plain W)
    (hon : cache = .redis → cfg.redis = true) :
    Owes adminId grants cache ((fun _ => none) <$>
      ((p >>= fun _ => invalidate cfg adminId) >>= rest)).caught .idle := by
  unfold Owes
  rw [relying_caught, relying_map, relying_bind, relying_bind]
  exact hp.relying_idle (fun _ => drops_invalidate hon refused) refused

theorem updateAdmin_observes {α : Type} {id : Id} {dto : UpdateAdminDto} {w : AccessDb → AccessDb}
    {p : AccessOp Unit} {rest : Unit → AccessOp α} (hcaches : CachesNothing adminId w)
    (hp : p.Plain (CachesNothing adminId)) :
    (AccessCall.updateAdmin id dto).Observes cfg adminId h (some (.wrote w)) db
      ((fun _ => none) <$> ((p >>= fun _ => invalidate cfg id) >>= rest)).caught := by
  refine observes_wrote hcaches fun hchanges cache hon => ?_
  simp only [AccessCall.changes, and_decide_eq] at hchanges
  rcases hchanges with ⟨rfl, -⟩
  exact owes_invalidate hp hon

theorem updateAdmin_owes {dto : UpdateAdminDto} (hkeys : dto.roleKeys.isSome = true)
    (hon : cache = .redis → cfg.redis = true) :
    Owes adminId grants cache ((AccessCall.updateAdmin adminId dto).prog cfg) .idle := by
  rcases Option.isSome_iff_exists.mp hkeys with ⟨keys, hkeys⟩
  unfold Owes AccessCall.prog AccessCall.body AdminsService.update
  rw [relying_caught, relying_map, relying_bind, hkeys]
  refine (Prog.Plain.of_readOnly (W := fun _ => True) (readOnly_getAdmin adminId)).relying_idle
    (fun row => ?_) refused
  rw [relying_bind]
  refine (Prog.Plain.forSome (W := fun _ => True) fun name => .write trivial).relying_idle
    (fun _ => ?_) refused
  rw [relying_bind]
  simp only [forSome]
  rw [relying_bind]
  refine Prog.relying_write_idle (fun _ _ => ?_) fun _ => refused _
  rw [relying_bind]
  exact (Prog.Plain.when (@plain_assignRolesByKey cfg adminId adminId keys)).relying_idle
    (fun _ => drops_invalidate hon refused) refused

theorem setStatus_owes {status : AdminStatus} (hon : cache = .redis → cfg.redis = true) :
    Owes adminId grants cache ((AccessCall.setStatus adminId status).prog cfg) .idle := by
  unfold Owes AccessCall.prog AccessCall.body AdminsService.setStatus
  rw [relying_caught, relying_map, relying_bind]
  refine (Prog.Plain.of_readOnly (W := fun _ => True) (readOnly_getAdmin adminId)).relying_idle
    (fun row => ?_) refused
  rw [relying_bind]
  refine Prog.relying_write_idle (fun _ _ => ?_) fun _ => refused _
  rw [relying_bind]
  refine (Prog.Plain.when (.write (W := fun _ => True) trivial)).relying_idle (fun _ => ?_) refused
  rw [relying_bind]
  exact drops_invalidate hon refused

/-- A change of the admin's permissions that has not begun has both entries to drop. -/
theorem owes_of_changes (hchanges : call.changes adminId db = true)
    (hon : cache = .redis → cfg.redis = true) :
    Owes adminId (db.grants adminId) cache (call.prog cfg) .idle := by
  cases call with
  | updateRole id dto => exact updateRole_owes hchanges hon
  | updateAdmin id dto =>
    simp only [AccessCall.changes, and_decide_eq] at hchanges
    rcases hchanges with ⟨rfl, hkeys⟩
    exact updateAdmin_owes hkeys hon
  | setStatus id status =>
    obtain rfl : id = adminId := of_decide_eq_true hchanges
    exact setStatus_owes hon
  | get id => cases hchanges
  | createRole dto => cases hchanges
  | createAdmin dto => cases hchanges
  | setFeatures planId keys => cases hchanges
  | tick elapsed => cases hchanges

theorem updateAdmin_watch {id : Id} {dto : UpdateAdminDto} :
    ((AccessCall.updateAdmin id dto).prog cfg).watch
      ((AccessCall.updateAdmin id dto).Observes cfg adminId) (fun _ _ _ => True)
      (fun _ _ _ => True) [] .idle := by
  unfold AccessCall.prog AccessCall.body AdminsService.update
  rw [watch_caught, watch_map, watch_bind]
  refine watch_calm (.of_readOnly (readOnly_getAdmin id)) fun row h => ?_
  rw [watch_bind]
  have hname : ∀ name, Calm adminId (AccessDb.updateAdmin id name) :=
    fun name => calm_of_same fun _ => ⟨rfl, rfl, rfl, rfl⟩
  refine watch_calm (.forSome fun name => .write (hname name)) fun _ h => ?_
  rw [watch_bind]
  have hrest : (AdminsService.get id >>= fun after => do
      record "admin.updated" "admin" id
      return after : AccessOp SerializedAdmin).Plain (Calm adminId) :=
    (Prog.Plain.of_readOnly (readOnly_getAdmin id)).bind fun after =>
      (plain_record _ _ _).bind fun _ => .ret after
  cases hkeys : dto.roleKeys with
  | none => exact watch_calm (.ret ()) fun _ _ => watch_calm hrest fun _ _ => trivial
  | some keys =>
    have hdelete : CachesNothing adminId (AccessDb.deleteAdminRoles id) :=
      cachesNothing_of_same fun _ => ⟨rfl, rfl⟩
    simp only [forSome]
    rw [watch_bind, watch_write_idle]
    refine ⟨fun db => ⟨?_, ?_⟩, fun _ => trivial⟩
    · exact updateAdmin_observes hdelete (Prog.Plain.when (plain_assignRolesByKey id keys))
    · rw [watch_bind, watch_when]
      refine ⟨fun _ => ?_, fun _ => watch_drop (plain_invalidate id) hrest⟩
      unfold AdminsService.assignRolesByKey
      rw [watch_bind]
      refine watch_calm (.of_readOnly (.select _ _)) fun rows _ => ?_
      rw [watch_bind, watch_throwIf]
      refine ⟨fun _ => trivial, fun _ => ?_⟩
      rw [watch_bind, watch_write_idle]
      refine ⟨fun db => ⟨?_, ?_⟩, fun _ => trivial⟩
      · exact updateAdmin_observes (cachesNothing_insertAdminRoles id _)
          ((plain_invalidate id).mono fun _ h => h.1)
      · exact watch_calm (plain_invalidate id) fun _ _ => watch_drop (plain_invalidate id) hrest

/-! ### Fills -/

section Fills

variable {id : Id} {value : Effective} {h : AccessTrace}

theorem fills_redis (hvalue : Computed id h value) : FillsComputed adminId (.get id) h
    fun db => db.setRedis id (some ⟨value, db.now + CACHE_TTL_SECONDS * 1000⟩) := by
  refine fun db => ⟨fun e he => ?_, fun _ he => .inl he⟩
  by_cases hid : adminId = id
  · subst hid
    simp only [setRedis, Function.update_self, Option.some.injEq] at he
    rw [← he]
    exact .inr ⟨decide_eq_true rfl, hvalue⟩
  · left
    simpa [setRedis, Function.update_of_ne hid] using he

theorem fills_memory (hvalue : Computed id h value) : FillsComputed adminId (.get id) h
    fun db => db.setMemory id (some ⟨value, db.now⟩) := by
  refine fun db => ⟨fun _ he => .inl he, fun e he => ?_⟩
  by_cases hid : adminId = id
  · subst hid
    simp only [setMemory, Function.update_self, Option.some.injEq] at he
    rw [← he]
    exact .inr ⟨decide_eq_true rfl, hvalue⟩
  · left
    simpa [setMemory, Function.update_of_ne hid] using he

theorem observes_fill {db : AccessDb} {q : AccessOp AccessAnswer} {w : AccessDb → AccessDb}
    (hw : FillsComputed adminId (.get id) h w) :
    (AccessCall.get id).Observes cfg adminId h (some (.wrote w)) db q := by
  intro w' hw'
  cases hw'
  exact ⟨hw, fun hchanges => by cases hchanges⟩

theorem writeCache_watch {k : AccessOp Unit → AccessOp AccessAnswer}
    {P : Unit → AccessTrace → Tx AccessDb → Prop} (hvalue : Computed id h value)
    (hP : ∀ h, P () h .idle) :
    (writeCache cfg id value).watch (fun h o db q =>
      (AccessCall.get id).Observes cfg adminId h o db (k q)) P (fun _ _ _ => True) h .idle := by
  have hmemory : ∀ {k : AccessOp Unit → AccessOp AccessAnswer}, (write (fun _ => [])
      (fun db => db.setMemory id (some ⟨value, db.now⟩)) fun _ => () : AccessOp Unit).watch
        (fun h o db q => (AccessCall.get id).Observes cfg adminId h o db (k q)) P
        (fun _ _ _ => True) h .idle := by
    intro k
    rw [watch_write_idle]
    exact ⟨fun db => ⟨observes_fill (fills_memory hvalue), hP _⟩, fun _ => trivial⟩
  unfold writeCache redisSet ignoring
  rw [watch_bind, watch_ite]
  refine ⟨fun _ => ?_, fun _ => ?_⟩
  · rw [Prog.watch_tryCatch', watch_write_idle]
    refine ⟨fun db => ⟨observes_fill (fills_redis hvalue), ?_⟩, fun _ => ?_⟩
    · rw [watch_when]
      exact ⟨fun h => absurd h (by simp), fun _ => hP _⟩
    · rw [watch_pure, watch_when]
      exact ⟨fun _ => hmemory, fun _ => hP _⟩
  · rw [watch_pure, watch_when]
    exact ⟨fun _ => hmemory, fun _ => hP _⟩

theorem plain_readCache : (readCache cfg id).Plain (Calm adminId) := by
  have hraw : (redisGet cfg id).Plain (Calm adminId) := by
    unfold redisGet
    split_ifs
    · exact .tryCatch (.of_readOnly (.select _ _)) fun _ => .ret none
    · exact .ret none
  refine hraw.bind fun raw => ?_
  cases raw with
  | some value => exact .ret _
  | none => exact .of_readOnly (.select _ _)

theorem get_watch :
    ((AccessCall.get id).prog cfg).watch ((AccessCall.get id).Observes cfg adminId)
      (fun _ _ _ => True) (fun _ _ _ => True) [] .idle := by
  have hsaw : ∀ {h : AccessTrace} {l : AccessLook} {db : AccessDb} {q : AccessOp AccessAnswer},
      (AccessCall.get id).Observes cfg adminId h (some (.saw l db)) db q :=
    observes_of_calm fun _ hw => by cases hw
  unfold AccessCall.prog AccessCall.body getEffectivePermissions
  rw [watch_caught, watch_map, watch_bind]
  refine watch_calm plain_readCache fun cached h => ?_
  cases cached with
  | some value => exact trivial
  | none =>
    simp only
    rw [watch_bind, watch_select_idle]
    refine ⟨fun b => ⟨hsaw, ?_⟩, fun _ => trivial⟩
    rw [watch_ite]
    refine ⟨fun hnone => ?_, fun _ => ?_⟩
    · rw [watch_bind]
      refine writeCache_watch ⟨b, List.mem_cons_self, .inl ⟨hnone, rfl⟩⟩ fun _ => ?_
      exact trivial
    · rw [watch_bind, watch_select_idle]
      refine ⟨fun _ => ⟨hsaw, ?_⟩, fun _ => trivial⟩
      rw [watch_bind, watch_select_idle]
      refine ⟨fun b' => ⟨hsaw, ?_⟩, fun _ => trivial⟩
      rw [watch_bind]
      refine writeCache_watch ⟨b, by simp, .inr ⟨b', by simp, rfl⟩⟩ fun _ => ?_
      exact trivial

end Fills

theorem AccessCall.watch_prog (call : AccessCall) :
    (call.prog cfg).watch (call.Observes cfg adminId) (fun _ _ _ => True) (fun _ _ _ => True) []
      .idle := by
  have hcalm : ∀ {p : AccessOp (Option Effective)}, p.Plain (Calm adminId) → p.caught.watch
      (call.Observes cfg adminId) (fun _ _ _ => True) (fun _ _ _ => True) [] .idle := by
    intro p hp
    rw [watch_caught]
    exact hp.watch_idle (fun _ _ _ _ hw => observes_of_calm hw) (fun _ _ => trivial)
      fun _ _ => trivial
  have hcaches : ∀ {p : AccessOp (Option Effective)}, (∀ db, call.changes adminId db = false) →
      p.Plain (CachesNothing adminId) → p.caught.watch (call.Observes cfg adminId)
        (fun _ _ _ => True) (fun _ _ _ => True) [] .idle := by
    intro p hnot hp
    rw [watch_caught]
    exact hp.watch_idle (fun _ _ _ _ hw => observes_of_cachesNothing hnot hw) (fun _ _ => trivial)
      fun _ _ => trivial
  have hrecord : ∀ {action entity : String} {id : Id},
      (record action entity id).Plain (CachesNothing adminId) :=
    (plain_record _ _ _).mono fun _ h => h.1
  cases call with
  | get id => exact get_watch
  | updateRole id dto => exact updateRole_watch
  | updateAdmin id dto => exact updateAdmin_watch
  | setStatus id status =>
    have hstatus : Calm adminId (AccessDb.updateStatus id status) :=
      calm_of_same fun _ => ⟨rfl, rfl, rfl, rfl⟩
    have hrevoke : Calm adminId (AccessDb.revokeSessions id) :=
      calm_of_same fun _ => ⟨rfl, rfl, rfl, rfl⟩
    refine hcalm (Prog.Plain.map ?_ _)
    exact (Prog.Plain.of_readOnly (readOnly_getAdmin id)).bind fun _ =>
      (Prog.Plain.write hstatus).bind fun _ => (Prog.Plain.when (.write hrevoke)).bind fun _ =>
        (plain_invalidate id).bind fun _ => (Prog.Plain.of_readOnly (readOnly_getAdmin id)).bind
          fun after => (plain_record _ _ _).bind fun _ => .ret after
  | createRole dto =>
    have hinsert : CachesNothing adminId
        (applied (insertRole dto.key dto.name dto.description)) := by
      refine cachesNothing_applied fun db db' h => ?_
      unfold insertRole at h
      split_ifs at h
      cases h
      exact ⟨rfl, rfl⟩
    refine hcaches (fun _ => rfl) (Prog.Plain.map ?_ _)
    exact (Prog.Plain.of_readOnly (.select _ _)).bind fun _ => (Prog.Plain.throwIf _ _).bind
      fun _ => (Prog.Plain.writeChecked hinsert).bind fun id =>
        (Prog.Plain.when (plain_setPermissions id _)).bind fun _ => hrecord.bind fun _ =>
          .of_readOnly (readOnly_getById id)
  | createAdmin dto =>
    have hinsert : CachesNothing adminId
        (applied (insertAdmin dto.email.toLower dto.name (.hash dto.password))) := by
      refine cachesNothing_applied fun db db' h => ?_
      unfold insertAdmin at h
      split_ifs at h
      cases h
      exact ⟨rfl, rfl⟩
    refine hcaches (fun _ => rfl) (Prog.Plain.map ?_ _)
    exact (Prog.Plain.of_readOnly (.select _ _)).bind fun _ => (Prog.Plain.throwIf _ _).bind
      fun _ => (Prog.Plain.writeChecked hinsert).bind fun id =>
        (Prog.Plain.when (plain_assignRolesByKey id _)).bind fun _ => hrecord.bind fun _ =>
          .of_readOnly (readOnly_getAdmin id)
  | setFeatures planId keys =>
    have hdelete : CachesNothing adminId (AccessDb.deletePlanFeatures planId) :=
      cachesNothing_of_same fun _ => ⟨rfl, rfl⟩
    have hinsert : CachesNothing adminId (applied (AccessDb.insertPlanFeatures planId keys)) := by
      refine cachesNothing_applied fun db db' h => ?_
      unfold AccessDb.insertPlanFeatures at h
      split at h
      · split_ifs at h
        cases h
        exact ⟨rfl, rfl⟩
      · cases h
    refine hcaches (fun _ => rfl) (Prog.Plain.map ?_ _)
    exact (Prog.Plain.write hdelete).bind fun _ => (Prog.Plain.when (.writeChecked hinsert)).bind
      fun _ => hrecord.bind fun _ => .of_readOnly (readOnly_getPlan planId)
  | tick elapsed =>
    have htick : Calm adminId fun db => { db with now := db.now + elapsed } :=
      calm_of_same fun _ => ⟨rfl, rfl, rfl, rfl⟩
    exact hcalm (.write htick)

end Observes

end Travelo.Access
