import Travelo.Access.Caches

/-!
# Revoked permissions

The effective permissions of an admin are read from Redis, from the memory of the process, or from
the links, and a read from the links fills a cache. A change writes the links and then drops what
both caches hold. A read that began before the change may fill a cache after it, and a Redis that
does not drop its entry goes on answering it; `permission_survives_revocation` has both.

`revoked_permission_gone`: as long as a cache of the admin is filled only while the links are as
they were read, and no drop of a Redis entry fails, whoever asks after a change has returned gets
the permissions of the links.
-/

namespace Travelo.Access

open ReadCommitted
open PermissionsService (redisValue memoryValue writeCache redisSet readCache redisGet ignoring)

/-! ## The law -/

/-- The event leaves the links of the admin as they are. -/
def KeepsGrants (adminId : Id) (c : AccessRun) (ev : Event) : Prop :=
  ∀ c' ∈ c.next ev, c'.db.grants adminId = c.db.grants adminId

instance (adminId : Id) (c : AccessRun) (ev : Event) : Decidable (KeepsGrants adminId c ev) :=
  inferInstanceAs (Decidable (∀ c' ∈ c.next ev, _))

/-- After `evs`, which lead to `c`, call `i` has not begun, or the last step was its own and changed
the links of the admin. -/
def JustChanged (cfg : AccessConfig) (db : AccessDb) (calls : List AccessCall) (adminId : Id)
    (evs : List Event) (c : AccessRun) (i : ℕ) (call : AccessCall) : Prop :=
  c.sessions[i]? = some (Session.start (call.prog cfg)) ∨
    ∃ before b, evs = before ++ [.step i] ∧ (AccessRun.start cfg db calls).run before = some b ∧
      b.db.grants adminId ≠ c.db.grants adminId

/-- From `c₀` on the links of the admin stay as call `i` has left them, at `c₁` it has returned and
call `j` has not begun, and at `c₂` that one has answered: with the permissions of the links. -/
def RevokedGone (cfg : AccessConfig) (db : AccessDb) (calls : List AccessCall) (adminId : Id)
    (evs₀ evs₁ evs₂ : List Event) : Prop :=
  ∀ (c₀ c₁ c₂ : AccessRun) (i j : ℕ) (call : AccessCall) (value : Effective),
    (AccessRun.start cfg db calls).run evs₀ = some c₀ → c₀.run evs₁ = some c₁ →
    c₁.run evs₂ = some c₂ → calls[i]? = some call → call.changes adminId c₀.db = true →
    JustChanged cfg db calls adminId evs₀ c₀ i call → c₀.Throughout (KeepsGrants adminId) evs₁ →
    c₁.Throughout (KeepsGrants adminId) evs₂ → c₁.answer i = some (.ok none) →
    c₁.sessions[j]? = some (Session.start ((AccessCall.get adminId).prog cfg)) →
    c₂.answer j = some (.ok (some value)) → value.permissions = c₂.db.permissionsOf adminId

/-! ## The guard -/

/-- What was read of the links of the admin still holds. -/
def ReadsCurrent (adminId : Id) (h : AccessTrace) (now : AccessDb) : Prop :=
  ∀ r ∈ reads h,
    (r.1 = .adminRoles adminId → r.2.roleIdsOf adminId = now.roleIdsOf adminId) ∧
      (r.1 = .rolePermissions → r.2.permissionRows (now.roleIdsOf adminId) =
        now.permissionRows (now.roleIdsOf adminId))

instance (adminId : Id) (h : AccessTrace) (now : AccessDb) :
    Decidable (ReadsCurrent adminId h now) :=
  inferInstanceAs (Decidable (∀ r ∈ reads h, _))

/-- Session `i` does not drop the admin's entry of Redis, were it not to fail. -/
def SparesRedis (adminId : Id) (c : AccessRun) (s : AccessSession) : Prop :=
  (c.db.redis adminId).isSome = true →
    ∀ w ∈ s.published c.db, ((w c.db).redis adminId).isSome = true

instance (adminId : Id) (c : AccessRun) (s : AccessSession) : Decidable (SparesRedis adminId c s) :=
  inferInstanceAs (Decidable (_ → _))

/-- A cache of the admin is filled only with what still holds, and no drop of its Redis entry
fails. -/
def FillsCurrent (calls : List AccessCall) (adminId : Id) (c : AccessRun) : Event → Prop
  | .step i => calls[i]?.any (AccessCall.isGet adminId) = true →
      ∀ s ∈ c.sessions[i]?, s.published c.db ≠ [] → ReadsCurrent adminId s.trace c.db
  | .fault i _ => ∀ s ∈ c.sessions[i]?, SparesRedis adminId c s
  | .crash _ => True

instance (calls : List AccessCall) (adminId : Id) (c : AccessRun) :
    (ev : Event) → Decidable (FillsCurrent calls adminId c ev)
  | .step _ => inferInstanceAs (Decidable (_ → _))
  | .fault _ _ => inferInstanceAs (Decidable (∀ s ∈ _, _))
  | .crash _ => .isTrue trivial

/-! ## Valid caches -/

/-- What the cache holds for the admin, if anything. -/
def AccessDb.cached (db : AccessDb) (adminId : Id) : Cache → Option Effective
  | .redis => (db.redis adminId).map RedisEntry.value
  | .memory => (db.memory adminId).map MemoryEntry.value

/-- The cache holds the permissions of the links, or nothing. -/
def Valid (adminId : Id) (cache : Cache) (db : AccessDb) : Prop :=
  ∀ value, db.cached adminId cache = some value →
    value.permissions = db.permissionsOf adminId

section Valid

variable {cfg : AccessConfig} {calls : List AccessCall} {adminId : Id} {cache : Cache}
  {c c' : AccessRun} {ev : Event}

theorem permissionsOf_of_grants {db db' : AccessDb} (h : db'.grants adminId = db.grants adminId) :
    db'.permissionsOf adminId = db.permissionsOf adminId := by
  have hrows : db'.permissionRows (db'.roleIdsOf adminId) =
    db.permissionRows (db.roleIdsOf adminId) := congrArg Prod.snd h
  unfold AccessDb.permissionsOf
  rw [hrows]

variable {value : Effective}

theorem computed_current {h : AccessTrace} {now : AccessDb} (hvalue : Computed adminId h value)
    (hcurrent : ReadsCurrent adminId h now) :
    value.permissions = now.permissionsOf adminId := by
  rcases hvalue with ⟨b, hb, hvalue⟩
  have hids : b.roleIdsOf adminId = now.roleIdsOf adminId :=
    (hcurrent (_, b) (mem_reads.mpr hb)).1 rfl
  rcases hvalue with ⟨hnone, hempty⟩ | ⟨b', hb', hcomputed⟩
  · rw [hids] at hnone
    rw [hempty, AccessDb.permissionsOf, hnone]
    simp [AccessDb.permissionRows]
  · have hrows := (hcurrent (_, b') (mem_reads.mpr hb')).2 rfl
    rw [hcomputed, hids, hrows]
    rfl

/-- What every call of the run observes. -/
def AccessWatching (cfg : AccessConfig) (calls : List AccessCall) (adminId : Id) (c : AccessRun) :
    Prop :=
  Config.Watching (fun i h o db q => ∃ call, calls[i]? = some call ∧
    call.Observes cfg adminId h o db q) (fun _ _ _ _ => True) c

variable {db : AccessDb}

theorem accessWatching_start :
    AccessWatching cfg calls adminId (AccessRun.start cfg db calls) := by
  refine Config.watching_start fun i q hq => ?_
  rw [List.getElem?_map, Option.map_eq_some_iff] at hq
  rcases hq with ⟨call, hcall, rfl⟩
  exact watch_mono (fun h o db q hobs => ⟨call, hcall, hobs⟩) (fun _ _ _ h => h)
    (fun _ _ _ h => h) _ _ _ call.watch_prog

/-- A valid cache stays valid while the links stay: only what is current is filled in. -/
theorem Valid.next (hv : Valid adminId cache c.db) (hw : AccessWatching cfg calls adminId c)
    (hg : FillsCurrent calls adminId c ev) (hkeeps : KeepsGrants adminId c ev)
    (hn : c.next ev = some c') : Valid adminId cache c'.db := by
  have hsame := permissionsOf_of_grants (hkeeps c' (Option.mem_def.mpr hn))
  rcases hw.observed hn with ⟨i, s, s', hs, -, hobserved⟩
  have hquiet : c'.db = c.db → Valid adminId cache c'.db := fun h => by rwa [h]
  cases hobserved with
  | fault _ hdb => exact hquiet hdb
  | crash _ hdb => exact hquiet hdb
  | silent _ _ hdb => exact hquiet hdb
  | saw _ _ _ hdb => exact hquiet hdb
  | @wrote i s s' w _ hpublishes ho hdb =>
    rcases ho with ⟨call, hcall, hobs⟩
    have hfills := (hobs w rfl).1 c.db
    -- a new entry is one that the call has computed from links that still hold
    have hcomputed : ∀ value : Effective, call.isGet adminId = true →
        Computed adminId s.trace value → value.permissions = c.db.permissionsOf adminId := by
      intro value hget hvalue
      have hpublished : s.published c.db ≠ [] :=
        List.ne_nil_of_mem (Session.mem_published.mpr hpublishes)
      refine computed_current hvalue (hg ?_ s (Option.mem_def.mpr hs) hpublished)
      simp [hcall, hget]
    intro value hvalue
    rw [hsame]
    rw [hdb] at hvalue
    cases cache with
    | redis =>
      rcases Option.map_eq_some_iff.mp hvalue with ⟨e, he, rfl⟩
      rcases hfills.1 e he with hold | ⟨hget, hvalue⟩
      · exact hv _ (Option.map_eq_some_iff.mpr ⟨e, hold, rfl⟩)
      · exact hcomputed _ hget hvalue
    | memory =>
      rcases Option.map_eq_some_iff.mp hvalue with ⟨e, he, rfl⟩
      rcases hfills.2 e he with hold | ⟨hget, hvalue⟩
      · exact hv _ (Option.map_eq_some_iff.mpr ⟨e, hold, rfl⟩)
      · exact hcomputed _ hget hvalue

variable {grants : List Id × List RolePermission}

/-- What is owed is paid: the entry is dropped, or it was not there when Redis failed. -/
theorem owes_next {i : ℕ} {s s' : AccessSession} (hn : c.next ev = some c')
    (hs : c.sessions[i]? = some s) (hs' : c'.sessions[i]? = some s')
    (hg : FillsCurrent calls adminId c ev) (hgrants : c.db.grants adminId = grants)
    (howes : Owes adminId grants cache s.prog s.tx) :
    Owes adminId grants cache s'.prog s'.tx ∨ Valid adminId cache c'.db := by
  rcases Config.relying_next hn hs hs' hgrants howes with h | ⟨st, k, hp, hcase⟩
  · exact .inl h
  right
  have hdropped : cache.dropped adminId st s.tx → ∃ w, s.Publishes c.db w ∧
      (st.exec s.tx c.db).db = w c.db ∧ (w c.db).cached adminId cache = none := by
    rintro ⟨rfl, hidle⟩
    rw [hidle]
    cases cache with
    | redis =>
      refine ⟨fun db => db.setRedis adminId none, ⟨_, k, hp, ?_⟩, rfl, ?_⟩
      · rw [hidle]
        exact List.mem_singleton.mpr rfl
      · simp [AccessDb.cached, AccessDb.setRedis]
    | memory =>
      refine ⟨fun db => db.setMemory adminId none, ⟨_, k, hp, ?_⟩, rfl, ?_⟩
      · rw [hidle]
        exact List.mem_singleton.mpr rfl
      · simp [AccessDb.cached, AccessDb.setMemory]
  intro value hvalue
  rcases hcase with ⟨hst, rfl⟩ | ⟨⟨rfl, hst⟩, m, rfl⟩
  · -- the entry is gone
    rcases hdropped hst with ⟨w, -, hdb, hgone⟩
    simp only [Config.next, hs, hp, Option.ite_none_left_eq_some, Option.some.injEq] at hn
    rcases hn with ⟨-, rfl⟩
    have hafter : (c.after i s st k).db = w c.db := hdb
    rw [hafter, hgone] at hvalue
    cases hvalue
  · -- had there been an entry, the guard would have forbidden the failure
    rcases hdropped hst with ⟨w, hpublishes, -, hgone⟩
    simp only [Config.next, hs, hp, Option.some.injEq] at hn
    subst hn
    have hheld : (c.db.redis adminId).isSome = true := by
      rcases Option.map_eq_some_iff.mp hvalue with ⟨e, he, -⟩
      exact Option.isSome_of_mem he
    have hspares := hg s (Option.mem_def.mpr hs) hheld w (Session.mem_published.mpr hpublishes)
    rw [AccessDb.cached, Option.map_eq_none_iff] at hgone
    rw [hgone] at hspares
    cases hspares

/-! ## Answers -/

/-- The links of the admin, what they give, and caches that hold nothing else. -/
def Settled (cfg : AccessConfig) (adminId : Id) (grants : List Id × List RolePermission)
    (permissions : List String) (db : AccessDb) : Prop :=
  db.grants adminId = grants ∧ db.permissionsOf adminId = permissions ∧
    (cfg.redis = true → Valid adminId .redis db) ∧ Valid adminId .memory db

/-- Among settled states the program answers with what the links give. -/
def Asks (cfg : AccessConfig) (adminId : Id) (grants : List Id × List RolePermission)
    (permissions : List String) (p : AccessOp AccessAnswer) (t : Tx AccessDb) : Prop :=
  p.relying (fun _ _ => False) (fun _ _ => False) (Settled cfg adminId grants permissions)
    (fun answer _ => ∀ value, answer = .ok (some value) → value.permissions = permissions)
    (fun _ _ => True) t

theorem valid_redisValue (hv : Valid adminId .redis db)
    (h : redisValue adminId db = some value) :
    value.permissions = db.permissionsOf adminId := by
  rcases Option.map_eq_some_iff.mp h with ⟨e, he, rfl⟩
  exact hv _ (Option.map_eq_some_iff.mpr ⟨e, (Option.filter_eq_some_iff.mp he).1, rfl⟩)

theorem valid_memoryValue (hv : Valid adminId .memory db)
    (h : memoryValue adminId db = some value) :
    value.permissions = db.permissionsOf adminId := by
  rcases Option.map_eq_some_iff.mp h with ⟨e, he, rfl⟩
  exact hv _ (Option.map_eq_some_iff.mpr ⟨e, (Option.filter_eq_some_iff.mp he).1, rfl⟩)

theorem plain_writeCache (id : Id) (value : Effective) :
    (writeCache cfg id value).Plain fun _ => True := by
  have hset : (redisSet cfg id value).Plain fun _ => True := by
    unfold redisSet
    split_ifs
    · exact .tryCatch (.write trivial) fun _ => .ret _
    · exact .ret _
  exact hset.bind fun _ => .when (.write trivial)

theorem asks_readCache {permissions : List String} :
    (readCache cfg adminId).relying (fun _ _ => False) (fun _ _ => False)
      (Settled cfg adminId grants permissions)
      (fun cached t => t = .idle ∧ ∀ value, cached = some value → value.permissions = permissions)
      (fun _ _ => True) .idle := by
  have hmemory : (select (.memory adminId) (memoryValue adminId) :
      AccessOp (Option Effective)).relying (fun _ _ => False) (fun _ _ => False)
        (Settled cfg adminId grants permissions)
        (fun cached t => t = .idle ∧ ∀ value, cached = some value → value.permissions = permissions)
        (fun _ _ => True) .idle := by
    refine relying_select_idle (fun db hdb => ⟨rfl, fun value hvalue => ?_⟩) fun _ => trivial
    rw [valid_memoryValue hdb.2.2.2 hvalue]
    exact hdb.2.1
  unfold readCache redisGet ignoring
  rw [relying_bind, Prog.relying_ite]
  refine ⟨fun hon => ?_, fun _ => hmemory⟩
  rw [Prog.relying_tryCatch]
  refine relying_select_idle (fun db hdb => ?_) fun _ => hmemory
  cases hraw : redisValue adminId db with
  | none => exact hmemory
  | some raw =>
    refine ⟨rfl, fun value hvalue => ?_⟩
    cases hvalue
    rw [valid_redisValue (hdb.2.2.1 hon) hraw]
    exact hdb.2.1

theorem asks_get {permissions : List String} :
    Asks cfg adminId grants permissions ((AccessCall.get adminId).prog cfg) .idle := by
  have hE : ∀ (e : AccessErr) (value : Effective),
      (Except.error e : AccessAnswer) = .ok (some value) → value.permissions = permissions :=
    fun _ _ h => by cases h
  unfold Asks AccessCall.prog AccessCall.body PermissionsService.getEffectivePermissions
  rw [relying_caught, relying_map, relying_bind]
  refine Prog.relying_mono (fun cached t hcached => ?_) (fun e _ _ => hE e) _ _ asks_readCache
  rcases hcached with ⟨rfl, hcached⟩
  cases cached with
  | some value =>
    intro value' hvalue
    cases hvalue
    exact hcached value rfl
  | none =>
    simp only
    rw [relying_bind]
    refine relying_select_idle (fun db hdb => ?_) fun _ => hE _
    rcases hdb with ⟨hgrants, hpermissions, -⟩
    rw [Prog.relying_ite]
    refine ⟨fun hnone => ?_, fun _ => ?_⟩
    · rw [relying_bind]
      refine (plain_writeCache adminId _).relying_idle (fun _ => ?_) hE
      intro value hvalue
      cases hvalue
      rw [← hpermissions, AccessDb.permissionsOf, hnone]
      simp [AccessDb.permissionRows]
    · rw [relying_bind]
      refine relying_select_idle (fun _ _ => ?_) fun _ => hE _
      rw [relying_bind]
      refine relying_select_idle (fun db' hdb' => ?_) fun _ => hE _
      rw [relying_bind]
      refine (plain_writeCache adminId _).relying_idle (fun _ => ?_) hE
      intro value hvalue
      cases hvalue
      have hids : db.roleIdsOf adminId = db'.roleIdsOf adminId :=
        congrArg Prod.fst (hgrants.trans hdb'.1.symm)
      rw [← hdb'.2.1, hids]
      rfl

end Valid

/-! ## Runs -/

section Runs

variable {cfg : AccessConfig} {calls : List AccessCall} {adminId : Id}
  {grants : List Id × List RolePermission} {permissions : List String} {i j : ℕ} {c c' : AccessRun}
  {ev : Event}

/-- Call `i` has still to drop what each cache holds, or the cache is valid. -/
structure Dropping (cfg : AccessConfig) (calls : List AccessCall) (adminId : Id)
    (grants : List Id × List RolePermission) (i : ℕ) (c : AccessRun) : Prop where
  watching : AccessWatching cfg calls adminId c
  kept : c.db.grants adminId = grants
  dropping : ∃ s, c.sessions[i]? = some s ∧ ∀ cache : Cache, (cache = .redis → cfg.redis = true) →
    Owes adminId grants cache s.prog s.tx ∨ Valid adminId cache c.db

/-- The caches are valid, and call `j` is given nothing else. -/
structure Answering (cfg : AccessConfig) (calls : List AccessCall) (adminId : Id)
    (grants : List Id × List RolePermission) (permissions : List String) (j : ℕ) (c : AccessRun) :
    Prop where
  watching : AccessWatching cfg calls adminId c
  settled : Settled cfg adminId grants permissions c.db
  asking : ∃ s, c.sessions[j]? = some s ∧ Asks cfg adminId grants permissions s.prog s.tx

theorem Dropping.next (hd : Dropping cfg calls adminId grants i c)
    (hg : FillsCurrent calls adminId c ev) (hkeeps : KeepsGrants adminId c ev)
    (hn : c.next ev = some c') : Dropping cfg calls adminId grants i c' := by
  rcases hd.dropping with ⟨s, hs, hcaches⟩
  rcases Config.session_next hn hs with ⟨s', hs'⟩
  refine ⟨hd.watching.next hn, (hkeeps c' (Option.mem_def.mpr hn)).trans hd.kept, s', hs', ?_⟩
  intro cache hon
  rcases hcaches cache hon with howes | hvalid
  · exact owes_next hn hs hs' hg hd.kept howes
  · exact .inr (hvalid.next hd.watching hg hkeeps hn)

theorem Answering.next (ha : Answering cfg calls adminId grants permissions j c)
    (hg : FillsCurrent calls adminId c ev) (hkeeps : KeepsGrants adminId c ev)
    (hn : c.next ev = some c') : Answering cfg calls adminId grants permissions j c' := by
  rcases ha.settled with ⟨hgrants, hpermissions, hredis, hmemory⟩
  rcases ha.asking with ⟨s, hs, hasks⟩
  rcases Config.session_next hn hs with ⟨s', hs'⟩
  have hsame := hkeeps c' (Option.mem_def.mpr hn)
  refine ⟨ha.watching.next hn, ⟨hsame.trans hgrants, ?_, fun hon => ?_, ?_⟩, s', hs', ?_⟩
  · exact (permissionsOf_of_grants hsame).trans hpermissions
  · exact (hredis hon).next ha.watching hg hkeeps hn
  · exact hmemory.next ha.watching hg hkeeps hn
  · rcases Config.relying_next hn hs hs' ha.settled hasks with h | ⟨_, _, _, h | h⟩
    · exact h
    · exact h.1.elim
    · exact h.1.elim

/-- Where the last step was a change of the links, the entries are still to be dropped. -/
theorem dropping_start {db : AccessDb} {evs : List Event} {call : AccessCall}
    (hrun : (AccessRun.start cfg db calls).run evs = some c) (hcall : calls[i]? = some call)
    (hchanges : call.changes adminId c.db = true)
    (hjust : JustChanged cfg db calls adminId evs c i call) :
    Dropping cfg calls adminId (c.db.grants adminId) i c := by
  have hwatching : ∀ {evs : List Event} {c : AccessRun},
      (AccessRun.start cfg db calls).run evs = some c → AccessWatching cfg calls adminId c :=
    fun hrun => Config.run_throughout (AccessWatching cfg calls adminId)
      (fun _ _ _ hw _ hn => hw.next hn) _ _ accessWatching_start (Config.throughout_true _ _) hrun
  refine ⟨hwatching hrun, rfl, ?_⟩
  rcases hjust with hunstarted | ⟨before, b, rfl, hb, hne⟩
  · exact ⟨_, hunstarted, fun cache hon => .inl (owes_of_changes hchanges hon)⟩
  · have hn := Config.run_concat hb hrun
    rcases (hwatching hb).observed hn with ⟨k, s, s', hs, hset, hobserved⟩
    have hquiet : c.db = b.db → False := fun h => hne (by rw [h])
    cases hobserved with
    | silent _ _ hdb => exact (hquiet hdb).elim
    | saw _ _ _ hdb => exact (hquiet hdb).elim
    | @wrote i s s' w _ hpublishes ho hdb =>
      rcases ho with ⟨call', hcall', hobs⟩
      cases hcall.symm.trans hcall'
      have hs' : c.sessions[i]? = some s' := by
        rw [hset, List.getElem?_set_self (List.getElem?_eq_some_iff.mp hs).1]
      refine ⟨s', hs', fun cache hon => .inl ?_⟩
      rw [Config.idle_of_publishes hn hs hs' hpublishes]
      have howes := (hobs w rfl).2
      rw [← hdb] at howes
      exact howes hchanges hne.symm cache hon

theorem prog_of_answer {s : AccessSession} {answer : AccessAnswer} (hs : c.sessions[i]? = some s)
    (h : c.answer i = some answer) : s.prog = .ret answer := by
  unfold Config.answer at h
  rw [hs, Option.bind_some] at h
  unfold Session.answer at h
  split at h
  · rename_i a hp
    cases h
    exact hp
  · cases h

end Runs

/-- Admin 5 has role 1, which grants `booking.view`. -/
def deskAdmin : AccessDb where
  roles := (∅ : Table Role.id).insert { id := 1, key := "desk", name := "Desk" }
  rolePermissions := (∅ : Table fun r : RolePermission => r).insert ⟨1, "booking.view"⟩
  adminRoles := (∅ : Table fun r : AdminRole => r).insert ⟨5, 1⟩

/-- The role is to grant nothing. -/
def revokeAll : AccessCall := .updateRole 1 { permissions := some [] }

def readRevokeRead : List AccessCall := [.get 5, revokeAll, .get 5]

/-- The permissions of the admin are in Redis. -/
def deskCached : AccessDb :=
  { deskAdmin with
    redis := Function.update (fun _ => none) 5 (some ⟨⟨["Desk"], ["booking.view"]⟩, 300000⟩) }

def stepsOf (i n : ℕ) : List Event := List.replicate n (.step i)

end Travelo.Access
