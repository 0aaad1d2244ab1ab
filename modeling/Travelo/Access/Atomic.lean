import Travelo.Access
import Travelo.ReadCommitted.Passing

/-!
# Half-made changes

Each change of a role, an admin or a plan is a sequence of statements that commit one by one: the
parent row, the deletion of its links, the new links, the audit log, and the row read back. After
the first of them that changes anything there is always another that may fail, so a change is all
or nothing exactly when it changes nothing at all. `change_atomic_iff` says which those are.
-/

namespace Travelo.Access

open ReadCommitted
open Prog (bind_assoc strikes_when strikes_stmt)
open AccessDb (deleteAdminRoles insertRolePermissions insertPlanFeatures)
open PermissionsService (forgetMemory forgetRedis ignoring invalidate invalidateAll)
open RolesService (nonWildcard renames setPermissions getById create update)

/-! ## The law -/

/-- The role, admin and link rows. -/
def AccessDb.held (db : AccessDb) :=
  (db.roles, db.rolePermissions, db.admins, db.adminRoles, db.planFeatures)

/-- Whose links are counted. -/
inductive Holder where
  | role (id : Id)
  | admin (id : Id)
  | plan (id : Id)

def AccessDb.links (db : AccessDb) : Holder → ℕ
  | .role id => (db.rolePermissions.rows.filter fun r => r.roleId = id).length
  | .admin id => (db.adminRoles.rows.filter fun r => r.adminId = id).length
  | .plan id => (db.planFeatures.rows.filter fun f => f.planId = id).length

/-- With one statement failing or none: a call that throws leaves the rows as they were, and one
that answers passes no state in which a holder has fewer links than before and than after. -/
structure AllOrNothing (cfg : AccessConfig) (change : Change) (db : AccessDb) : Prop where
  thrown : ∀ φ, Prog.OneFault φ → ∀ e, ((change.prog cfg).runWith φ db).res = .error e →
    ((change.prog cfg).runWith φ db).db.held = db.held
  between : ∀ φ, Prog.OneFault φ → ((change.prog cfg).runWith φ db).res = .ok () →
    ∀ s ∈ (change.prog cfg).passed φ .idle db, ∀ holder, ¬(s.links holder < db.links holder ∧
      s.links holder < ((change.prog cfg).runWith φ db).db.links holder)

/-! ## What changes nothing -/

/-- The `INSERT` of the links is refused, or there is none. -/
def NoNewLinks (keys : List String) : Prop := keys = [] ∨ ¬keys.Nodup

/-- `setPermissions` changes nothing: a key is unknown, or the role has no links and gets none. -/
def PermissionsStay (roleId : Id) (keys : List String) (db : AccessDb) : Prop :=
  (∃ k ∈ nonWildcard keys, k ∉ db.permissions) ∨
    ((∀ r ∈ db.rolePermissions, r.roleId ≠ roleId) ∧ NoNewLinks keys)

/-- The call changes no row. -/
def Change.Idle (db : AccessDb) : Change → Prop
  | .createRole dto => ∃ r ∈ db.roles, r.key = dto.key
  | .updateRole id dto => ∀ before, db.roles.find? id = some before →
      (before.isSystem = true ∧ dto.permissions.isSome = true) ∨
        ((renames dto = true → { before with
            name := dto.name.getD before.name
            description := dto.description.join <|> before.description
            updatedAt := db.now } = before) ∧
          ∀ keys, dto.permissions = some keys → PermissionsStay id keys db)
  | .createAdmin dto => ∃ a ∈ db.admins, a.email = dto.email.toLower
  | .updateAdmin id dto => ∀ before, db.admins.find? id = some before → before.deletedAt = none →
      (∀ name, dto.name.filter (· ≠ "") = some name →
          { before with name, updatedAt := db.now } = before) ∧
        ∀ keys, dto.roleKeys = some keys → (∀ r ∈ db.adminRoles, r.adminId ≠ id) ∧
          (keys = [] ∨ (db.roles.rows.filter fun r => r.key ∈ keys).length ≠ keys.length)
  | .setFeatures planId keys => (∀ f ∈ db.planFeatures, f.planId ≠ planId) ∧
      (NoNewLinks keys ∨ db.plans.hasKey planId = false)

/-! ## Statements that leave the rows alone -/

/-- The program never changes the rows. -/
def Leaves {α : Type} (p : AccessOp α) : Prop :=
  ∀ s, p.passes (fun s' => s'.held = s.held) (fun _ t s' => t = .idle ∧ s'.held = s.held)
    (fun _ _ s' => s'.held = s.held) .idle s

section Leaves

variable {α β : Type} {p : AccessOp α}

theorem Leaves.bind {f : α → AccessOp β} (hp : Leaves p) (hf : ∀ a, Leaves (f a)) :
    Leaves (p >>= f) := by
  intro s
  rw [passes_bind]
  refine passes_mono (fun a t s' h => ?_) (fun _ _ _ h => h) _ _ _ (hp s)
  rcases h with ⟨rfl, h⟩
  have hrest := hf a s'
  rwa [h] at hrest

theorem leaves_pure (a : α) : Leaves (pure a) := fun _ => ⟨rfl, rfl⟩

theorem Leaves.of_readOnly (hp : p.ReadOnly) : Leaves p :=
  fun _ => hp.passes_idle rfl (fun _ => ⟨rfl, rfl⟩) fun _ => rfl

theorem leaves_write {f : AccessDb → AccessDb} {q : AccessDb → α}
    (hf : ∀ s, (f s).held = s.held) : Leaves (write (fun _ => []) f q) :=
  fun s => ⟨rfl, ⟨rfl, hf s⟩, fun _ => rfl⟩

theorem leaves_when {c : Prop} [Decidable c] {p : AccessOp Unit} (hp : Leaves p) :
    Leaves (when c p) := by
  unfold when
  split_ifs
  · exact hp
  · exact leaves_pure ()

theorem leaves_record (action entity : String) (id : Id) : Leaves (record action entity id) :=
  leaves_write fun _ => rfl

theorem leaves_forgetMemory (id : Id) : Leaves (forgetMemory id) :=
  leaves_write fun _ => rfl

theorem leaves_forgetRedis (cfg : AccessConfig) (id : Id) :
    Leaves (forgetRedis cfg id) := by
  refine leaves_when fun s => ?_
  unfold ignoring
  rw [Prog.passes_tryCatch]
  exact ⟨rfl, ⟨rfl, rfl⟩, fun _ => ⟨rfl, rfl⟩⟩

theorem leaves_invalidate (cfg : AccessConfig) (id : Id) :
    Leaves (invalidate cfg id) :=
  (leaves_forgetMemory id).bind fun _ => leaves_forgetRedis cfg id

theorem leaves_all {p : β → AccessOp α} (hp : ∀ b, Leaves (p b)) (l : List β) :
    Leaves (all p l) := by
  induction l with
  | nil => exact leaves_pure []
  | cons b l ih => exact (hp b).bind fun a => ih.bind fun as => leaves_pure (a :: as)

theorem leaves_invalidateAll (cfg : AccessConfig) (ids : List Id) :
    Leaves (invalidateAll cfg ids) :=
  (leaves_all leaves_forgetMemory ids).bind fun _ =>
    (leaves_all (leaves_forgetRedis cfg) ids).bind fun _ => leaves_pure ()

end Leaves

/-! ## Idle changes -/

section Idle

variable {db : AccessDb} {roleId id : Id} {keys : List String}

theorem deleteRolePermissions_of_none (h : ∀ r ∈ db.rolePermissions, r.roleId ≠ roleId) :
    db.deleteRolePermissions roleId = db := by
  unfold AccessDb.deleteRolePermissions
  rw [delete_of_false fun r hr => by simp [h r hr]]

theorem deleteAdminRoles_of_none (h : ∀ r ∈ db.adminRoles, r.adminId ≠ id) :
    db.deleteAdminRoles id = db := by
  unfold deleteAdminRoles
  rw [delete_of_false fun r hr => by simp [h r hr]]

theorem deletePlanFeatures_of_none (h : ∀ f ∈ db.planFeatures, f.planId ≠ id) :
    db.deletePlanFeatures id = db := by
  unfold AccessDb.deletePlanFeatures
  rw [delete_of_false fun r hr => by simp [h r hr]]

theorem nodup_links {α : Type} {link : String → α} (hlink : Function.Injective link) :
    ((keys.map link).map fun r => r).Nodup ↔ keys.Nodup := by
  rw [List.map_id', List.nodup_map_iff hlink]

theorem rolePermission_injective (roleId : Id) :
    Function.Injective fun k => (⟨roleId, k⟩ : RolePermission) :=
  fun _ _ h => congrArg RolePermission.permissionKey h

theorem planFeature_injective (planId : Id) :
    Function.Injective fun k => (⟨planId, k⟩ : PlanFeature) :=
  fun _ _ h => congrArg PlanFeature.featureKey h

theorem insertRolePermissions_of_dup (h : ¬keys.Nodup) :
    insertRolePermissions roleId keys db = .error .uniqueViolation := by
  unfold insertRolePermissions
  rw [Table.insertAll_eq_none ((nodup_links (rolePermission_injective roleId)).not.mpr h)]

theorem insertAll_of_new {α : Type} [DecidableEq α] {t : Table (fun a : α => a)} {link : String → α}
    (hlink : Function.Injective link) (hne : keys ≠ []) (hnodup : keys.Nodup)
    (hnew : ∀ k, ∀ a ∈ t, a ≠ link k) : ∃ t', t.insertAll (keys.map link) = some t' ∧ t' ≠ t := by
  have hfresh : ∀ a ∈ keys.map link, t.hasKey a = false := by
    intro a ha
    rcases List.mem_map.mp ha with ⟨k, -, rfl⟩
    exact Table.hasKey_eq_false.mpr (hnew k)
  have hkeys := (nodup_links hlink).mpr hnodup
  refine ⟨_, Table.insertAll_eq_some hkeys hfresh, fun heq => ?_⟩
  have hlength := congrArg (fun t : Table (fun a : α => a) => t.rows.length) heq
  simp only [rows_foldl_insert hkeys hfresh, List.length_append, List.length_map] at hlength
  exact hne (List.length_eq_zero_iff.mp (by omega))

theorem insertRolePermissions_of_new (hno : ∀ r ∈ db.rolePermissions, r.roleId ≠ roleId)
    (hne : keys ≠ []) (hnodup : keys.Nodup) :
    ∃ s, insertRolePermissions roleId keys db = .ok s ∧ s.held ≠ db.held := by
  rcases insertAll_of_new (rolePermission_injective roleId) hne hnodup
    (fun k r hr heq => hno r hr (congrArg RolePermission.roleId heq)) with ⟨t, hstored, hne⟩
  unfold insertRolePermissions
  rw [hstored]
  exact ⟨_, rfl, fun heq => hne (congrArg (fun rows => rows.2.1) heq)⟩

theorem insertPlanFeatures_of_dup (h : ¬keys.Nodup) :
    insertPlanFeatures id keys db = .error .uniqueViolation := by
  unfold insertPlanFeatures
  rw [Table.insertAll_eq_none ((nodup_links (planFeature_injective id)).not.mpr h)]

theorem insertPlanFeatures_of_new (hno : ∀ f ∈ db.planFeatures, f.planId ≠ id) (hne : keys ≠ [])
    (hnodup : keys.Nodup) (hplan : db.plans.hasKey id = true) :
    ∃ s, insertPlanFeatures id keys db = .ok s ∧ s.held ≠ db.held := by
  rcases insertAll_of_new (planFeature_injective id) hne hnodup
    (fun k f hf heq => hno f hf (congrArg PlanFeature.planId heq)) with ⟨t, hstored, hne⟩
  unfold insertPlanFeatures
  simp only [hstored, hplan, if_true]
  exact ⟨_, rfl, fun heq => hne (congrArg (fun rows => rows.2.2.2.2) heq)⟩

theorem insertPlanFeatures_of_noPlan (hplan : db.plans.hasKey id = false) :
    ∃ e, insertPlanFeatures id keys db = .error e := by
  unfold insertPlanFeatures
  cases db.planFeatures.insertAll (keys.map fun k => ⟨id, k⟩) with
  | none => exact ⟨_, rfl⟩
  | some t => exact ⟨.foreignKeyViolation, by simp [hplan]⟩

section Passes

variable {Q : AccessDb → Prop} {P : Unit → Tx AccessDb → AccessDb → Prop}
  {E : AccessErr → Tx AccessDb → AccessDb → Prop}

theorem passes_setPermissions (hstay : PermissionsStay roleId keys db) (hQ : Q db)
    (hP : P () .idle db) (hE : ∀ e, E e .idle db) :
    (setPermissions roleId keys).passes Q P E .idle db := by
  have hlost : ∀ m, E (lost m) .idle db := fun m => hE _
  unfold setPermissions
  rcases hstay with ⟨k, hk, hunknown⟩ | ⟨hno, hkeys⟩
  · -- the unknown key is found missing before anything is written
    have hne : nonWildcard keys ≠ [] := List.ne_nil_of_mem hk
    have hmissing : (nonWildcard keys).filter
        (· ∉ db.permissions.filter (· ∈ nonWildcard keys)) ≠ [] := by
      refine List.ne_nil_of_mem (a := k) (List.mem_filter.mpr ⟨hk, ?_⟩)
      simp [hunknown]
    rw [passes_bind, passes_when]
    refine ⟨fun _ => ?_, fun h => absurd hne h⟩
    rw [passes_bind, passes_select_idle]
    refine ⟨hQ, ?_, hlost⟩
    rw [passes_throwIf]
    exact ⟨fun _ => hE _, fun h => absurd hmissing h⟩
  · have hrest : (do
        write (fun _ => []) (AccessDb.deleteRolePermissions roleId) fun _ => ()
        when (keys ≠ []) <|
          writeChecked (fun _ => []) (insertRolePermissions roleId keys)
            fun _ => () : AccessOp Unit).passes Q P E .idle db := by
      rw [passes_bind, passes_write_idle, deleteRolePermissions_of_none hno,
        passes_when]
      refine ⟨hQ, ⟨fun hne => ?_, fun _ => hP⟩, hlost⟩
      have hdup : ¬keys.Nodup := hkeys.resolve_left hne
      rw [Prog.passes_writeChecked_idle, insertRolePermissions_of_dup hdup]
      exact ⟨hQ, ⟨fun _ h => by simp at h, fun e _ => hE e⟩, hlost⟩
    rw [passes_bind, passes_when]
    refine ⟨fun _ => ?_, fun _ => hrest⟩
    rw [passes_bind, passes_select_idle]
    refine ⟨hQ, ?_, hlost⟩
    rw [passes_throwIf]
    exact ⟨fun _ => hE _, fun _ => hrest⟩

theorem passes_getById {P : Role × List String → Tx AccessDb → AccessDb → Prop} (hQ : Q db)
    (hP : ∀ before, db.roles.find? id = some before → ∀ perms, P (before, perms) .idle db)
    (hE : ∀ e, E e .idle db) : (getById id).passes Q P E .idle db := by
  simp only [getById, passes_bind, passes_select_idle, Prog.passes_orThrow,
    Prog.passes_pure]
  exact ⟨hQ, ⟨fun _ => hE _, fun before h => ⟨hQ, hP before h _, fun _ => hE _⟩⟩, fun _ => hE _⟩

theorem passes_getAdmin {P : SerializedAdmin → Tx AccessDb → AccessDb → Prop}
    (hQ : Q db)
    (hP : ∀ before, db.admins.find? id = some before → before.deletedAt = none →
      ∀ answer, P answer .idle db)
    (hE : ∀ e, E e .idle db) : (AdminsService.get id).passes Q P E .idle db := by
  simp only [AdminsService.get, passes_bind, passes_select_idle, Prog.passes_orThrow,
    Prog.passes_pure]
  refine ⟨hQ, ⟨fun _ => hE _, fun before h => ⟨hQ, ?_, fun _ => hE _⟩⟩, fun _ => hE _⟩
  rcases Option.filter_eq_some_iff.mp h with ⟨hfound, hlive⟩
  exact hP before hfound (Option.isNone_iff_eq_none.mp hlive) _

end Passes

theorem updateRole_of_same {before : Role} {name : String} {description : Option String}
    (hbefore : db.roles.find? id = some before)
    (hsame : { before with name, description, updatedAt := db.now } = before) :
    db.updateRole id name description = db := by
  unfold AccessDb.updateRole
  rw [Table.update_of_fixed]
  intro r hr hid
  have hkey : db.roles.find? r.id = some r := find?_key hr
  rw [of_decide_eq_true hid, hbefore] at hkey
  cases hkey
  exact hsame

theorem updateAdmin_of_same {before : Admin} {name : String}
    (hbefore : db.admins.find? id = some before)
    (hsame : { before with name, updatedAt := db.now } = before) :
    db.updateAdmin id name = db := by
  unfold AccessDb.updateAdmin
  rw [Table.update_of_fixed]
  intro a ha hid
  have hkey : db.admins.find? a.id = some a := find?_key ha
  rw [of_decide_eq_true hid, hbefore] at hkey
  cases hkey
  exact hsame

theorem Leaves.passes {α : Type} {p : AccessOp α} (hp : Leaves p) :
    p.passes (fun s => s.held = db.held) (fun _ _ s => s.held = db.held)
      (fun _ _ s => s.held = db.held) .idle db :=
  passes_mono (fun _ _ _ h => h.2) (fun _ _ _ h => h) _ _ _ (hp db)

theorem leaves_discard {α : Type} {p : AccessOp α} (hp : Leaves p) :
    Leaves (do let _ ← p : AccessOp Unit) :=
  hp.bind fun _ => leaves_pure ()

theorem Change.Idle.passes {change : Change} (cfg : AccessConfig) (hidle : change.Idle db) :
    (change.prog cfg).passes (fun s => s.held = db.held) (fun _ _ s => s.held = db.held)
      (fun _ _ s => s.held = db.held) .idle db := by
  cases change with
  | createRole dto =>
    have hexisting : decide (∃ r ∈ db.roles, r.key = dto.key) = true := decide_eq_true hidle
    simp only [Change.prog, create, passes_bind, passes_select_idle,
      passes_throwIf]
    exact ⟨trivial, ⟨fun _ => trivial, fun h => absurd hexisting h⟩, fun _ => trivial⟩
  | createAdmin dto =>
    have hexisting : decide (∃ a ∈ db.admins, a.email = dto.email.toLower) = true :=
      decide_eq_true hidle
    simp only [Change.prog, AdminsService.create, passes_bind, passes_select_idle,
      passes_throwIf]
    exact ⟨trivial, ⟨fun _ => trivial, fun h => absurd hexisting h⟩, fun _ => trivial⟩
  | setFeatures planId keys =>
    rcases hidle with ⟨hno, hkeys⟩
    have hrest : Leaves (do
        record "plan.features.set" "plan" planId
        let _ ← PlansService.get planId : AccessOp Unit) :=
      (leaves_record _ _ _).bind fun _ => leaves_discard (.of_readOnly (readOnly_getPlan planId))
    simp only [Change.prog, PlansService.setFeatures, bind_assoc]
    rw [passes_bind, passes_write_idle, deletePlanFeatures_of_none hno,
      passes_bind, passes_when]
    refine ⟨rfl, ⟨fun hne => ?_, fun _ => hrest.passes⟩, fun _ => rfl⟩
    have hrefused : ∃ e, insertPlanFeatures planId keys db = .error e := by
      rcases hkeys with hnew | hplan
      · exact ⟨_, insertPlanFeatures_of_dup (hnew.resolve_left hne)⟩
      · exact insertPlanFeatures_of_noPlan hplan
    rcases hrefused with ⟨e, hrefused⟩
    rw [Prog.passes_writeChecked_idle, hrefused]
    exact ⟨rfl, ⟨fun _ h => by simp at h, fun _ _ => rfl⟩, fun _ => rfl⟩
  | updateRole id dto =>
    have hrest : Leaves (do
        let after ← getById id
        record "role.updated" "role" id
        let _ ← (pure after : AccessOp (Role × List String)) : AccessOp Unit) :=
      (Leaves.of_readOnly (readOnly_getById id)).bind fun _ =>
        (leaves_record _ _ _).bind fun _ => leaves_pure ()
    simp only [Change.prog, update, bind_assoc]
    rw [passes_bind]
    refine passes_getById rfl (fun before hbefore perms => ?_) fun _ => rfl
    rw [passes_bind, passes_throwIf]
    refine ⟨fun _ => rfl, fun hmutable => ?_⟩
    rcases (hidle before hbefore).resolve_left hmutable with ⟨hsame, hstay⟩
    rw [passes_bind, passes_when]
    have hlinks : (forSome dto.permissions fun keys => do
        setPermissions id keys
        let bound ← select (.bound id) fun db =>
          (db.adminRoles.rows.filter fun r => r.roleId = id).map AdminRole.adminId
        invalidateAll cfg bound).passes (fun s => s.held = db.held)
          (fun _ t s => t = .idle ∧ s.held = db.held) (fun _ _ s => s.held = db.held) .idle db := by
      cases hkeys : dto.permissions with
      | none => exact ⟨rfl, rfl⟩
      | some keys =>
        simp only [forSome]
        rw [passes_bind]
        refine passes_setPermissions (hstay keys hkeys) rfl ?_ fun _ => rfl
        exact ((Leaves.of_readOnly (Prog.ReadOnly.select _ _)).bind fun _ =>
          leaves_invalidateAll cfg _) db
    have hafter : ((forSome dto.permissions fun keys => do
        setPermissions id keys
        let bound ← select (.bound id) fun db =>
          (db.adminRoles.rows.filter fun r => r.roleId = id).map AdminRole.adminId
        invalidateAll cfg bound) >>= fun _ => do
          let after ← getById id
          record "role.updated" "role" id
          let _ ← (pure after : AccessOp (Role × List String))).passes (fun s => s.held = db.held)
            (fun _ _ s => s.held = db.held) (fun _ _ s => s.held = db.held) .idle db := by
      rw [passes_bind]
      refine passes_mono (fun _ t s h => ?_) (fun _ _ _ h => h) _ _ _ hlinks
      rcases h with ⟨rfl, hheld⟩
      have hend := @Leaves.passes s Unit _ hrest
      rwa [hheld] at hend
    refine ⟨fun hrenames => ?_, fun _ => hafter⟩
    rw [passes_write_idle, updateRole_of_same hbefore (hsame hrenames)]
    exact ⟨rfl, hafter, fun _ => rfl⟩
  | updateAdmin id dto =>
    have hrest : Leaves (do
        let after ← AdminsService.get id
        record "admin.updated" "admin" id
        let _ ← (pure after : AccessOp SerializedAdmin) : AccessOp Unit) :=
      (Leaves.of_readOnly (readOnly_getAdmin id)).bind fun _ =>
        (leaves_record _ _ _).bind fun _ => leaves_pure ()
    simp only [Change.prog, AdminsService.update, bind_assoc]
    rw [passes_bind]
    refine passes_getAdmin rfl (fun before hbefore hlive answer => ?_) fun _ => rfl
    rcases hidle before hbefore hlive with ⟨hsame, hstay⟩
    have hlinks : (forSome dto.roleKeys fun keys => do
        write (fun _ => []) (deleteAdminRoles id) fun _ => ()
        when (keys ≠ []) (AdminsService.assignRolesByKey cfg id keys)
        invalidate cfg id).passes (fun s => s.held = db.held)
          (fun _ t s => t = .idle ∧ s.held = db.held) (fun _ _ s => s.held = db.held) .idle db := by
      cases hkeys : dto.roleKeys with
      | none => exact ⟨rfl, rfl⟩
      | some keys =>
        rcases hstay keys hkeys with ⟨hno, hunmatched⟩
        simp only [forSome]
        rw [passes_bind, passes_write_idle, deleteAdminRoles_of_none hno,
          passes_bind, passes_when]
        refine ⟨rfl, ⟨fun hne => ?_, fun _ => leaves_invalidate cfg id db⟩, fun _ => rfl⟩
        -- the roles that are found are not as many as the keys
        have hrefused := hunmatched.resolve_left hne
        rw [AdminsService.assignRolesByKey, passes_bind, passes_select_idle,
          passes_bind, passes_throwIf]
        exact ⟨rfl, ⟨fun _ => rfl, fun h => absurd hrefused h⟩, fun _ => rfl⟩
    have hafter : ((forSome dto.roleKeys fun keys => do
        write (fun _ => []) (deleteAdminRoles id) fun _ => ()
        when (keys ≠ []) (AdminsService.assignRolesByKey cfg id keys)
        invalidate cfg id) >>= fun _ => do
          let after ← AdminsService.get id
          record "admin.updated" "admin" id
          let _ ← (pure after : AccessOp SerializedAdmin)).passes (fun s => s.held = db.held)
            (fun _ _ s => s.held = db.held) (fun _ _ s => s.held = db.held) .idle db := by
      rw [passes_bind]
      refine passes_mono (fun _ t s h => ?_) (fun _ _ _ h => h) _ _ _ hlinks
      rcases h with ⟨rfl, hheld⟩
      have hend := @Leaves.passes s Unit _ hrest
      rwa [hheld] at hend
    rw [passes_bind]
    cases hname : dto.name.filter (· ≠ "") with
    | none => exact hafter
    | some name =>
      simp only [forSome]
      rw [passes_write_idle, updateAdmin_of_same hbefore (hsame name hname)]
      exact ⟨rfl, hafter, fun _ => rfl⟩

end Idle

/-! ## Changes that change something -/

section Struck

variable {db : AccessDb} {roleId id : Id} {keys : List String}

theorem strikes_setPermissions :
    Prog.Strikes (setPermissions roleId keys) .idle db db :=
  strikes_when (fun _ => (strikes_stmt _ _).bind _) fun _ =>
    (strikes_stmt _ _).bind _

theorem strikes_getById : Prog.Strikes (getById id) .idle db db :=
  (strikes_stmt _ _).bind _

theorem strikes_getAdmin : Prog.Strikes (AdminsService.get id) .idle db db :=
  (strikes_stmt _ _).bind _

variable {cfg : AccessConfig}

theorem strikes_assignRolesByKey :
    Prog.Strikes (AdminsService.assignRolesByKey cfg id keys) .idle db db :=
  (strikes_stmt _ _).bind _

theorem insert_ne {α κ : Type} [DecidableEq κ] {key : α → κ} {t : Table key} {a : α}
    (h : t.hasKey (key a) = false) : t.insert a ≠ t := by
  intro heq
  have hlength := congrArg (fun t : Table key => t.rows.length) heq
  simp [rows_insert h] at hlength

theorem delete_ne {α κ : Type} {key : α → κ} {t : Table key} {p : α → Bool} {a : α} (ha : a ∈ t)
    (hp : p a = true) : t.delete p ≠ t := by
  intro heq
  have hmem : a ∈ t.delete p := by
    rw [heq]
    exact ha
  rw [mem_delete, hp] at hmem
  exact absurd hmem.2 (by simp)

theorem insertRole_of_free {key name : String} {description : Option String}
    (hfree : ¬∃ r ∈ db.roles, r.key = key) :
    ∃ s, db.insertRole key name description = .ok s ∧ s.held ≠ db.held := by
  refine ⟨_, if_neg hfree, fun heq => ?_⟩
  exact insert_ne (hasKey_freshId db.roles) (congrArg Prod.fst heq)

theorem insertAdmin_of_free {email name : String} {passwordHash : Argon2 String}
    (hfree : ¬∃ a ∈ db.admins, a.email = email) :
    ∃ s, db.insertAdmin email name passwordHash = .ok s ∧ s.held ≠ db.held := by
  refine ⟨_, if_neg hfree, fun heq => ?_⟩
  exact insert_ne (hasKey_freshId db.admins) (congrArg (fun rows => rows.2.2.1) heq)

theorem createRole_strikes {dto : CreateRoleDto} (hfree : ¬∃ r ∈ db.roles, r.key = dto.key) :
    ∃ s, Prog.Strikes ((Change.createRole dto).prog cfg) .idle db s ∧ s.held ≠ db.held := by
  rcases insertRole_of_free hfree with ⟨s, hstored, hne⟩
  refine ⟨s, .bind ?_ _, hne⟩
  unfold create
  refine .select_then (.throwIf_then (by simp [hfree]) (.checked_then hstored ?_))
  exact strikes_when (fun _ => strikes_setPermissions) fun _ => (strikes_stmt _ _).bind _

theorem createAdmin_strikes {dto : CreateAdminDto}
    (hfree : ¬∃ a ∈ db.admins, a.email = dto.email.toLower) :
    ∃ s, Prog.Strikes ((Change.createAdmin dto).prog cfg) .idle db s ∧ s.held ≠ db.held := by
  rcases insertAdmin_of_free hfree with ⟨s, hstored, hne⟩
  refine ⟨s, .bind ?_ _, hne⟩
  unfold AdminsService.create
  refine .select_then (.throwIf_then (by simp [hfree]) (.checked_then hstored ?_))
  exact strikes_when (fun _ => strikes_assignRolesByKey) fun _ =>
    (strikes_stmt _ _).bind _

/-- The links that are there go with the `DELETE`, and the next statement may fail. -/
theorem setFeatures_strikes (hbusy : ¬(Change.setFeatures id keys).Idle db) :
    ∃ s, Prog.Strikes ((Change.setFeatures id keys).prog cfg) .idle db s ∧ s.held ≠ db.held := by
  by_cases hno : ∀ f ∈ db.planFeatures, f.planId ≠ id
  · have hnew : ¬(NoNewLinks keys ∨ db.plans.hasKey id = false) := fun h => hbusy ⟨hno, h⟩
    simp only [NoNewLinks, not_or, not_not, Bool.not_eq_false] at hnew
    rcases hnew with ⟨⟨hne, hnodup⟩, hplan⟩
    rcases insertPlanFeatures_of_new hno hne hnodup hplan with ⟨s, hstored, hnew⟩
    refine ⟨s, .bind (.write_then ?_) _, hnew⟩
    rw [deletePlanFeatures_of_none hno]
    exact .when_then hne (.checked_then hstored ((strikes_stmt _ _).bind _))
  · push Not at hno
    rcases hno with ⟨f, hf, hid⟩
    refine ⟨db.deletePlanFeatures id, .bind (.write_then ?_) _, fun heq => ?_⟩
    · exact strikes_when (fun _ => strikes_stmt _ _) fun _ =>
        (strikes_stmt _ _).bind _
    · exact delete_ne hf (by simp [hid]) (congrArg (fun rows => rows.2.2.2.2) heq)

/-- Known keys: the links that are there go with the `DELETE`, or the new ones come, and a later
statement may fail. -/
theorem setPermissions_strikes {α : Type} {f : Unit → AccessOp α}
    (hf : ∀ s, Prog.Strikes (f ()) .idle s s) (hchange : ¬PermissionsStay roleId keys db) :
    ∃ s, Prog.Strikes (setPermissions roleId keys >>= f) .idle db s ∧
      s.held ≠ db.held := by
  simp only [PermissionsStay, not_or, not_exists, not_and, not_not] at hchange
  rcases hchange with ⟨hknown, hlinks⟩
  -- the check of the keys lets them through
  have hchecked : ∀ {s} {rest : Unit → AccessOp α}, Prog.Strikes (rest ()) .idle db s →
      Prog.Strikes (when (nonWildcard keys ≠ []) (do
        let found ← select .permissions fun db =>
          db.permissions.filter (· ∈ nonWildcard keys)
        throwIf ((nonWildcard keys).filter (· ∉ found) ≠ [])
          (.unknownPermissions ((nonWildcard keys).filter (· ∉ found)))) >>= rest)
        .idle db s := by
    intro s rest hrest
    refine .after (b := ()) ?_ hrest
    rw [eval_when]
    split_ifs
    · simpa using fun k hk => ⟨hknown k hk, hk⟩
    · rfl
  unfold setPermissions
  simp only [bind_assoc]
  by_cases hno : ∀ r ∈ db.rolePermissions, r.roleId ≠ roleId
  · have hnew := hlinks hno
    simp only [NoNewLinks, not_or, not_not] at hnew
    rcases insertRolePermissions_of_new hno hnew.1 hnew.2 with ⟨s, hstored, hne⟩
    refine ⟨s, hchecked (.write_then ?_), hne⟩
    rw [deleteRolePermissions_of_none hno]
    exact .when_then hnew.1 (.checked_then hstored (hf s))
  · push Not at hno
    rcases hno with ⟨r, hr, hid⟩
    refine ⟨db.deleteRolePermissions roleId, hchecked (.write_then ?_), fun heq => ?_⟩
    · exact strikes_when (fun _ => strikes_stmt _ _) fun _ => hf _
    · exact delete_ne hr (by simp [hid]) (congrArg (fun rows => rows.2.1) heq)

theorem fixed_of_map_eq {α : Type} {l : List α} {p : α → Bool} {f : α → α}
    (heq : (l.map fun a => if p a then f a else a) = l) {a : α} (ha : a ∈ l) (hp : p a = true) :
    f a = a := by
  have hmap : (l.map fun a => if p a then f a else a) = l.map id := by
    rw [List.map_id]
    exact heq
  have hsame := List.map_inj_left.mp hmap a ha
  rwa [if_pos hp] at hsame

theorem eval_getById {before : Role} (hbefore : db.roles.find? id = some before) :
    (getById id).eval .idle db =
      (.ok (before, (db.permissionRows [id]).map RolePermission.permissionKey), .idle, db) := by
  simp [getById, hbefore]

theorem updateRole_strikes {dto : UpdateRoleDto} (hbusy : ¬(Change.updateRole id dto).Idle db) :
    ∃ s, Prog.Strikes ((Change.updateRole id dto).prog cfg) .idle db s ∧ s.held ≠ db.held := by
  simp only [Change.Idle, not_forall, not_or] at hbusy
  rcases hbusy with ⟨before, hbefore, hmutable, hchange⟩
  have hmem := mem_of_find? hbefore
  have hid := key_of_find? hbefore
  have hrest : ∀ {α : Type} {f : Role × List String → AccessOp α} (s : AccessDb),
      Prog.Strikes (getById id >>= f) .idle s s := fun s => strikes_getById.bind _
  by_cases hsame : renames dto = true → { before with
      name := dto.name.getD before.name
      description := dto.description.join <|> before.description
      updatedAt := db.now } = before
  · -- the name stays, and so it is the links that change
    have hlinks := not_and.mp hchange hsame
    simp only [not_forall] at hlinks
    rcases hlinks with ⟨keys, hkeys, hchange⟩
    rcases setPermissions_strikes (f := fun _ => do
      let bound ← select (.bound id) fun db =>
        (db.adminRoles.rows.filter fun r => r.roleId = id).map AdminRole.adminId
      invalidateAll cfg bound) (fun s => (strikes_stmt _ _).bind _) hchange
      with ⟨s, hs, hne⟩
    refine ⟨s, .bind ?_ _, hne⟩
    unfold update
    have hrenamed : (when (renames dto = true) <|
        write (fun _ => []) (AccessDb.updateRole id (dto.name.getD before.name)
          (dto.description.join <|> before.description)) fun _ => () : AccessOp Unit).eval
            .idle db = (.ok (), .idle, db) := by
      rw [eval_when]
      split_ifs with hrenames
      · rw [eval_write_idle, updateRole_of_same hbefore (hsame hrenames)]
      · rfl
    refine .after (eval_getById hbefore) (.throwIf_then hmutable (.after hrenamed ?_))
    rw [hkeys]
    exact hs.bind _
  · simp only [not_forall] at hsame
    rcases hsame with ⟨hrenames, hne⟩
    refine ⟨db.updateRole id (dto.name.getD before.name)
      (dto.description.join <|> before.description), .bind ?_ _, fun heq => ?_⟩
    · unfold update
      refine .after (eval_getById hbefore) (.throwIf_then hmutable
        (.when_then hrenames (.write_then ?_)))
      cases dto.permissions with
      | none => exact hrest _
      | some keys => exact (strikes_setPermissions.bind _).bind _
    · have hrows : (db.updateRole id _ _).roles.rows = db.roles.rows :=
        congrArg (fun rows => rows.1.rows) heq
      exact hne (fixed_of_map_eq hrows hmem (by simp [hid]))

theorem eval_getAdmin {before : Admin} (hbefore : db.admins.find? id = some before)
    (hlive : before.deletedAt = none) :
    ∃ answer, (AdminsService.get id).eval .idle db = (.ok answer, .idle, db) := by
  have hfound : (some before).filter (fun a => a.deletedAt.isNone) = some before := by
    simp [Option.filter, hlive]
  simp [AdminsService.get, hbefore, hfound]

theorem insertAdminRoles_of_new {roleIds : List Id} (hno : ∀ r ∈ db.adminRoles, r.adminId ≠ id)
    (hne : roleIds ≠ []) : (db.insertAdminRoles id roleIds).held ≠ db.held := by
  intro heq
  have htable : (roleIds.map fun r => (⟨id, r⟩ : AdminRole)).foldl Table.insert db.adminRoles =
      db.adminRoles := congrArg (fun rows => rows.2.2.2.1) heq
  rcases List.exists_cons_of_ne_nil hne with ⟨r, rest, rfl⟩
  have hkept : ∀ (l : List AdminRole) (t : Table fun r : AdminRole => r), ∀ a ∈ t,
      a ∈ l.foldl Table.insert t := by
    intro l
    induction l with
    | nil => exact fun _ _ h => h
    | cons b l ih => exact fun t a h => ih _ _ (mem_insert_of_mem h)
  have hfree : db.adminRoles.hasKey (⟨id, r⟩ : AdminRole) = false :=
    Table.hasKey_eq_false.mpr fun a ha heq => hno a ha (congrArg AdminRole.adminId heq)
  have hmem : (⟨id, r⟩ : AdminRole) ∈ db.adminRoles := by
    rw [← htable]
    exact hkept (rest.map _) _ _ ((mem_insert hfree).mpr (.inr rfl))
  exact hno _ hmem rfl

theorem updateAdmin_strikes {dto : UpdateAdminDto} (hbusy : ¬(Change.updateAdmin id dto).Idle db) :
    ∃ s, Prog.Strikes ((Change.updateAdmin id dto).prog cfg) .idle db s ∧ s.held ≠ db.held := by
  simp only [Change.Idle, not_forall] at hbusy
  rcases hbusy with ⟨before, hbefore, hlive, hchange⟩
  have hmem := mem_of_find? hbefore
  have hid := key_of_find? hbefore
  rcases eval_getAdmin hbefore hlive with ⟨answer, hget⟩
  by_cases hsame : ∀ name, dto.name.filter (· ≠ "") = some name →
      { before with name, updatedAt := db.now } = before
  · -- the name stays, and so it is the links that change
    have hlinks := not_and.mp hchange hsame
    simp only [not_forall, not_and, not_or, not_not] at hlinks
    rcases hlinks with ⟨keys, hkeys, hlinks⟩
    have hnamed : (forSome (dto.name.filter (· ≠ "")) fun name =>
        write (fun _ => []) (AccessDb.updateAdmin id name) fun _ => () : AccessOp Unit).eval
          .idle db = (.ok (), .idle, db) := by
      cases hname : dto.name.filter (· ≠ "") with
      | none => rfl
      | some name =>
        rw [eval_forSome_some, eval_write_idle,
          updateAdmin_of_same hbefore (hsame name hname)]
    have hafter : ∃ s, Prog.Strikes (do
        write (fun _ => []) (deleteAdminRoles id) fun _ => ()
        when (keys ≠ []) (AdminsService.assignRolesByKey cfg id keys)
        invalidate cfg id : AccessOp Unit) .idle db s ∧ s.held ≠ db.held := by
      by_cases hno : ∀ r ∈ db.adminRoles, r.adminId ≠ id
      · rcases hlinks hno with ⟨hne, hall⟩
        have hfound : (db.roles.rows.filter fun r => r.key ∈ keys).map Role.id ≠ [] := by
          intro hnil
          have hzero := congrArg List.length hnil
          rw [List.length_map, hall] at hzero
          exact hne (List.length_eq_zero_iff.mp hzero)
        refine ⟨_, .write_then ?_, insertAdminRoles_of_new hno hfound⟩
        rw [deleteAdminRoles_of_none hno]
        refine .when_then hne (.bind ?_ _)
        unfold AdminsService.assignRolesByKey
        exact .select_then (.throwIf_then (not_not.mpr hall)
          (.write_then ((strikes_stmt _ _).bind _)))
      · push Not at hno
        rcases hno with ⟨r, hr, hrid⟩
        refine ⟨db.deleteAdminRoles id, .write_then ?_, fun heq => ?_⟩
        · exact strikes_when (fun _ => strikes_assignRolesByKey) fun _ =>
            (strikes_stmt _ _).bind _
        · exact delete_ne hr (by simp [hrid]) (congrArg (fun rows => rows.2.2.2.1) heq)
    rcases hafter with ⟨s, hs, hne⟩
    refine ⟨s, .bind ?_ _, hne⟩
    unfold AdminsService.update
    refine .after hget (.after hnamed ?_)
    rw [hkeys]
    exact hs.bind _
  · simp only [not_forall] at hsame
    rcases hsame with ⟨name, hname, hne⟩
    refine ⟨db.updateAdmin id name, .bind ?_ _, fun heq => ?_⟩
    · unfold AdminsService.update
      refine .after hget ?_
      rw [hname]
      refine .write_then ?_
      cases dto.roleKeys with
      | none => exact strikes_getAdmin.bind _
      | some keys => exact ((strikes_stmt _ _).bind _).bind _
    · have hrows : (db.updateAdmin id name).admins.rows = db.admins.rows :=
        congrArg (fun rows => rows.2.2.1.rows) heq
      exact hne (fixed_of_map_eq hrows hmem (by simp [hid]))

end Struck

/-- A change is all or nothing, whichever single statement of it fails, exactly when it changes no
row: there is always a statement left after the first that does. -/
theorem change_atomic_iff (cfg : AccessConfig) (change : Change) (db : AccessDb) :
    AllOrNothing cfg change db ↔ change.Idle db := by
  constructor
  · intro hatomic
    by_contra hbusy
    have hstruck : ∃ s, Prog.Strikes (change.prog cfg) .idle db s ∧ s.held ≠ db.held := by
      cases change with
      | createRole dto => exact createRole_strikes hbusy
      | updateRole id dto => exact updateRole_strikes hbusy
      | createAdmin dto => exact createAdmin_strikes hbusy
      | updateAdmin id dto => exact updateAdmin_strikes hbusy
      | setFeatures planId keys => exact setFeatures_strikes hbusy
    rcases hstruck with ⟨s, hs, hne⟩
    rcases hs.runWith with ⟨φ, hone, ⟨e, hthrown⟩, rfl⟩
    exact hne (hatomic.thrown φ hone e hthrown)
  · intro hidle
    have hpasses := Prog.passes_passed (hidle.passes cfg)
    refine ⟨fun φ _ e _ => (hpasses φ).2, fun φ _ _ s hs holder hfewer => ?_⟩
    have hsame : s.links holder = db.links holder := by
      have hheld := (hpasses φ).1 s hs
      simp only [AccessDb.held, Prod.mk.injEq] at hheld
      rcases hheld with ⟨-, hpermissions, -, hroles, hfeatures⟩
      cases holder <;> simp [AccessDb.links, hpermissions, hroles, hfeatures]
    omega

/-! ## A key that is listed twice -/

/-- Role 1 grants `booking.view`; the catalogue knows another key. -/
def oneRole : AccessDb where
  roles := (∅ : Table Role.id).insert { id := 1, key := "desk", name := "Desk" }
  rolePermissions := (∅ : Table fun r : RolePermission => r).insert ⟨1, "booking.view"⟩
  permissions := ["booking.view", "booking.edit"]

/-- Role 1 is to grant the keys instead. -/
def grantInstead (keys : List String) : Change := .updateRole 1 { permissions := some keys }

/-- The key is listed twice: the call throws, and the role grants nothing. And where the call
succeeds it passes a state in which the role grants nothing. -/
theorem role_update_halfway :
    ¬AllOrNothing ⟨false⟩ (grantInstead ["booking.edit", "booking.edit"]) oneRole ∧
      ¬AllOrNothing ⟨false⟩ (grantInstead ["booking.edit"]) oneRole := by
  constructor
  · intro hatomic
    have hthrown : (((grantInstead ["booking.edit", "booking.edit"]).prog ⟨false⟩).runWith
        noFaults oneRole).res = .error .uniqueViolation := by
      decide +kernel
    have hheld := hatomic.thrown noFaults Prog.oneFault_noFaults _ hthrown
    exact absurd (congrArg (fun rows => rows.2.1.rows) hheld) (by decide +kernel)
  · intro hatomic
    have hok : (((grantInstead ["booking.edit"]).prog ⟨false⟩).runWith
        noFaults oneRole).res = .ok () := by
      decide +kernel
    have hpassed : ∃ s ∈ ((grantInstead ["booking.edit"]).prog ⟨false⟩).passed noFaults
        .idle oneRole, s.links (.role 1) = 0 := by
      decide +kernel
    rcases hpassed with ⟨s, hs, hnone⟩
    refine hatomic.between noFaults Prog.oneFault_noFaults hok s hs (.role 1) ?_
    rw [hnone]
    decide +kernel

end Travelo.Access
