import Travelo.PropertyConfig
import Travelo.ReadCommitted.Guarded

/-!
# One default per kind

The demotion finds the rows of its snapshot, so a default that another transaction commits in
between keeps its mark. `one_default_per_kind`: there is one default of a kind while each new one
has seen the defaults that stand when it commits, and it is the one that is returned.
-/

namespace Travelo.PropertyConfig

open ReadCommitted PropertyConfigService

/-! ## Calls -/

/-- A call on the policies of a property, with the clock; a new id is drawn by the database. -/
inductive PolicyCall where
  | create (propertyId : Id) (dto : PolicyInputDto) (id : Id) (now : ℤ)
  | update (propertyId id : Id) (dto : UpdatePolicyDto) (now : ℤ)
  | delete (propertyId id : Id) (now : ℤ)

def PolicyCall.prog : PolicyCall → ConfigOp Unit
  | .create propertyId dto id now => do
    let _ ← createPolicy propertyId dto id now
  | .update propertyId id dto now => do
    let _ ← updatePolicy propertyId id dto now
  | .delete propertyId id now => do
    let _ ← deletePolicy propertyId id now

abbrev PolicyConfig := Config ConfigDb Id ConfigLook ConfigErr Unit

/-- The policy of the call. -/
def PolicyCall.id : PolicyCall → Id
  | .create _ _ id _ => id
  | .update _ id _ _ => id
  | .delete _ id _ => id

/-- The call, after these reads, makes its policy the default of a kind. -/
def PolicyCall.Makes (call : PolicyCall) (h : ConfigTrace) (propertyId : Id) (kind : PolicyKind) :
    Prop :=
  match call with
  | .create propertyId' dto _ _ =>
    dto.isDefault = some true ∧ propertyId' = propertyId ∧ dto.kind = kind
  | .update propertyId' id dto _ =>
    dto.isDefault = some true ∧ propertyId' = propertyId ∧
      ∃ r ∈ reads h, r.1 = .policy id ∧ ∃ before ∈ policyOf propertyId' id r.2, before.kind = kind
  | .delete _ _ _ => False

/-! ## The laws -/

/-- A live policy that is marked as the default of its kind. -/
def PropertyPolicy.Stands (p : PropertyPolicy) : Prop := p.deletedAt = none ∧ p.isDefault = true

/-- At most one live policy of each kind is marked. -/
def OneDefault (db : ConfigDb) : Prop :=
  ∀ p ∈ db.policies, ∀ q ∈ db.policies, p.Stands → q.Stands → p.propertyId = q.propertyId →
    p.kind = q.kind → p.id = q.id

/-- The policy is there, and the one that is returned while it is live and active. -/
def Returned (propertyId : Id) (kind : PolicyKind) (id : Id) (db : ConfigDb) : Prop :=
  (∃ p ∈ db.policies, p.id = id) ∧
    ∀ p ∈ db.policies, p.id = id → p.deletedAt = none → p.isActive = true →
      defaultOf propertyId kind db = some p

/-- A guard of the calls. -/
abbrev PolicyGuard := PolicyCall → (ConfigDb → ConfigDb) → ConfigTrace → ConfigDb → Prop

/-- No default of the kind is committed. -/
def NoDefault (propertyId : Id) (kind : PolicyKind) : PolicyGuard := fun call _ h _ =>
  ¬call.Makes h propertyId kind

/-- The database draws an id that no row has. -/
def PolicyCall.DrawsNew (call : PolicyCall) (db : ConfigDb) : Prop :=
  match call with
  | .create _ _ id _ => db.policies.hasKey id = false
  | _ => True

/-- Session `i` commits its policy as the default of a kind, and later events meet `H`: it is
returned at the end. -/
def DefaultStays (H : Id → PolicyGuard) (calls : List PolicyCall) (db : ConfigDb)
    (evs : List Event) (c : PolicyConfig) : Prop :=
  ∀ (propertyId : Id) (kind : PolicyKind) (before after : List Event) (i : ℕ)
    (c₁ c₂ : PolicyConfig) (call : PolicyCall) (id : Id), call.id = id →
    evs = before ++ .step i :: after →
    (Config.start db (calls.map PolicyCall.prog)).run before = some c₁ →
    c₁.next (.step i) = some c₂ → calls[i]? = some call →
    (∃ s ∈ c₁.sessions[i]?, s.published c₁.db ≠ [] ∧ call.Makes s.trace propertyId kind) →
    call.DrawsNew c₁.db →
    c₂.Throughout (GuardedCalls calls fun call w h now =>
      NoDefault propertyId kind call w h now ∧ H id call w h now) after →
    Returned propertyId kind id c.db

/-! ## What must not happen meanwhile -/

/-- A new default is committed where every default of the kind that stands is one the demotion has
found. -/
def DefaultsSeen : PolicyGuard := fun _ _ h now =>
  ∀ r ∈ reads h, ∀ p ∈ now.policies, r.1 = .ofKind p.propertyId p.kind → p.Stands →
    p.id ∈ kindIds p.propertyId p.kind r.2

/-- The mark of `id` is not taken away by an edit. -/
def KeepsMark (id : Id) : PolicyGuard
  | .update _ id' dto _, _, _, _ => id' = id → dto.isDefault ≠ some false
  | _, _, _, _ => True

/-! ## What a call writes -/

/-- The demotion of the others, if the call makes a default. -/
inductive Demotion (propertyId : Id) (kind : PolicyKind) (h : ConfigTrace) :
    Option Bool → (ConfigDb → ConfigDb) → Prop where
  | left {mark : Option Bool} (hmark : mark ≠ some true) : Demotion propertyId kind h mark id
  | made {b : ConfigDb} (hread : (.ofKind propertyId kind, b) ∈ reads h) :
      Demotion propertyId kind h (some true) (demote propertyId kind (kindIds propertyId kind b))

/-- What a call publishes. -/
inductive PolicyWrite : PolicyCall → ConfigTrace → (ConfigDb → ConfigDb) → Prop where
  | created {propertyId dto id now h f} (hf : Demotion propertyId dto.kind h dto.isDefault f) :
      PolicyWrite (.create propertyId dto id now) h
        (applied (insertPolicy (newPolicy propertyId dto id now)) ∘ f)
  | updated {propertyId id dto now h b before f} (hread : (.policy id, b) ∈ reads h)
      (hbefore : policyOf propertyId id b = some before)
      (hf : Demotion propertyId before.kind h dto.isDefault f) :
      PolicyWrite (.update propertyId id dto now) h
        (setPolicy id (patched dto now) (fun _ => rfl) ∘ f)
  | deleted {propertyId id now h} : PolicyWrite (.delete propertyId id now) h
      (setPolicy id (deleted now) fun _ => rfl)

theorem PolicyCall.wp_prog (call : PolicyCall) :
    call.prog.wp (PolicyWrite call) (fun _ _ _ => True) (fun _ _ _ => True) [] .idle := by
  cases call with
  | create propertyId dto id now =>
    simp only [prog, createPolicy, demoteDefaults, wp_simps, wp_when]
    constructor
    · intro hdefault b _ _ _ _
      have hf : Demotion propertyId dto.kind [.saw (.ofKind propertyId dto.kind) b] dto.isDefault
          (demote propertyId dto.kind (kindIds propertyId dto.kind b)) := by
        rw [hdefault]
        exact .made (mem_reads.mpr List.mem_cons_self)
      exact .created hf
    · intro hnot _ _ _
      exact .created (.left hnot)
  | update propertyId id dto now =>
    simp only [prog, updatePolicy, requirePolicy, demoteDefaults, wp_simps, wp_when]
    intro b before hbefore
    constructor
    · intro hdefault b' _ _
      refine .updated (b := b)
        (mem_reads.mpr (List.mem_cons_of_mem _ List.mem_cons_self)) hbefore ?_
      rw [hdefault]
      exact .made (mem_reads.mpr List.mem_cons_self)
    · intro hnot _
      exact .updated (b := b) (mem_reads.mpr List.mem_cons_self) hbefore (.left hnot)
  | delete propertyId id now =>
    simp only [prog, deletePolicy, requirePolicy, wp_simps]
    exact fun b before _ => .deleted

/-! ## What a write does to the rows -/

/-- No policy is lost, or changes its kind. -/
def RowsKept (db db' : ConfigDb) : Prop :=
  ∀ p ∈ db.policies, ∃ p' ∈ db'.policies,
    p'.id = p.id ∧ p'.propertyId = p.propertyId ∧ p'.kind = p.kind

theorem RowsKept.refl (db : ConfigDb) : RowsKept db db := fun p hp => ⟨p, hp, rfl, rfl, rfl⟩

theorem RowsKept.trans {db db' db'' : ConfigDb} (h : RowsKept db db') (h' : RowsKept db' db'') :
    RowsKept db db'' := by
  intro p hp
  rcases h p hp with ⟨p', hp', hid, hproperty, hkind⟩
  rcases h' p' hp' with ⟨p'', hp'', hid', hproperty', hkind'⟩
  exact ⟨p'', hp'', hid'.trans hid, hproperty'.trans hproperty, hkind'.trans hkind⟩

section Rows

variable {propertyId id : Id} {kind : PolicyKind} {db : ConfigDb}

theorem isOfKind_iff {p : PropertyPolicy} :
    isOfKind propertyId kind p = true ↔ p.propertyId = propertyId ∧ p.kind = kind := by
  simp [isOfKind]

theorem mem_demote {ids : List Id} {p' : PropertyPolicy} :
    p' ∈ (demote propertyId kind ids db).policies ↔ ∃ p ∈ db.policies,
      p' = if p.id ∈ ids ∧ isOfKind propertyId kind p = true then { p with isDefault := false }
        else p := by
  show p' ∈ Table.update db.policies _ (fun p => { p with isDefault := false }) (fun _ => rfl) ↔ _
  simp only [mem_update, Bool.and_eq_true, List.contains_iff_mem]

theorem mem_setPolicy {f : PropertyPolicy → PropertyPolicy} {hf : ∀ p, (f p).id = p.id}
    {p' : PropertyPolicy} : p' ∈ (setPolicy id f hf db).policies ↔
      ∃ p ∈ db.policies, p' = if p.id = id then f p else p := by
  show p' ∈ Table.update db.policies _ f hf ↔ _
  simp only [mem_update, decide_eq_true_eq]

theorem mem_inserted {row p' : PropertyPolicy} :
    p' ∈ (applied (insertPolicy row) db).policies ↔
      p' ∈ db.policies ∨ db.policies.hasKey row.id = false ∧ p' = row := by
  unfold applied insertPolicy
  cases hkey : db.policies.hasKey row.id with
  | true => simp
  | false =>
    simp only [Bool.false_eq_true, if_false, true_and]
    exact mem_insert hkey

end Rows

section Demotions

variable {propertyId : Id} {kind : PolicyKind} {h : ConfigTrace} {mark : Option Bool}
  {f : ConfigDb → ConfigDb} {db : ConfigDb}

theorem Demotion.forward (hf : Demotion propertyId kind h mark f) {p : PropertyPolicy}
    (hp : p ∈ db.policies) : ∃ p' ∈ (f db).policies, p'.id = p.id ∧
      p'.propertyId = p.propertyId ∧ p'.kind = p.kind ∧
        (¬(mark = some true ∧ isOfKind propertyId kind p = true) → p'.isDefault = p.isDefault) := by
  cases hf with
  | left hmark => exact ⟨p, hp, rfl, rfl, rfl, fun _ => rfl⟩
  | made hread =>
    refine ⟨_, mem_demote.mpr ⟨p, hp, rfl⟩, ?_⟩
    split
    · next hmine => exact ⟨rfl, rfl, rfl, fun hnot => absurd ⟨rfl, hmine.2⟩ hnot⟩
    · exact ⟨rfl, rfl, rfl, fun _ => rfl⟩

/-- And a row after it was there before, with the same mark unless it has lost it. -/
theorem Demotion.backward (hf : Demotion propertyId kind h mark f) {p' : PropertyPolicy}
    (hp' : p' ∈ (f db).policies) : ∃ p ∈ db.policies, p'.id = p.id ∧
      p'.propertyId = p.propertyId ∧ p'.kind = p.kind ∧ (p'.Stands → p.Stands) := by
  cases hf with
  | left hmark => exact ⟨p', hp', rfl, rfl, rfl, fun h => h⟩
  | made hread =>
    rcases mem_demote.mp hp' with ⟨p, hp, rfl⟩
    refine ⟨p, hp, ?_⟩
    split
    · exact ⟨rfl, rfl, rfl, fun hstands => absurd hstands.2 (by simp)⟩
    · exact ⟨rfl, rfl, rfl, fun h => h⟩

/-- After the demotion for a new default none of the kind stands that it should have seen. -/
theorem Demotion.none_stands (hf : Demotion propertyId kind h (some true) f)
    (hguard : ∀ r ∈ reads h, ∀ p ∈ db.policies, r.1 = .ofKind p.propertyId p.kind → p.Stands →
      p.id ∈ kindIds p.propertyId p.kind r.2) {p' : PropertyPolicy} (hp' : p' ∈ (f db).policies)
    (hkind : isOfKind propertyId kind p' = true) : ¬p'.Stands := by
  cases hf with
  | left hmark => exact absurd rfl hmark
  | made hread =>
    rcases mem_demote.mp hp' with ⟨p, hp, rfl⟩
    split at hkind
    · next hmine =>
      rw [if_pos hmine]
      exact fun hstands => absurd hstands.2 (by simp)
    · next hnot =>
      rw [if_neg hnot]
      intro hstands
      -- a default that stands has been found
      rcases isOfKind_iff.mp hkind with ⟨rfl, rfl⟩
      exact hnot ⟨hguard _ hread p hp rfl hstands, hkind⟩

end Demotions

section Writes

variable {call : PolicyCall} {h : ConfigTrace} {w : ConfigDb → ConfigDb} {db : ConfigDb}

theorem PolicyWrite.rowsKept (hw : PolicyWrite call h w) : RowsKept db (w db) := by
  intro p hp
  cases hw with
  | created hf =>
    rcases hf.forward hp with ⟨p', hp', hid, hproperty, hkind, -⟩
    exact ⟨p', mem_inserted.mpr (.inl hp'), hid, hproperty, hkind⟩
  | updated hread hbefore hf =>
    rcases hf.forward hp with ⟨p', hp', hid, hproperty, hkind, -⟩
    refine ⟨_, mem_setPolicy.mpr ⟨p', hp', rfl⟩, ?_⟩
    split <;> exact ⟨hid, hproperty, hkind⟩
  | deleted =>
    refine ⟨_, mem_setPolicy.mpr ⟨p, hp, rfl⟩, ?_⟩
    split <;> exact ⟨rfl, rfl, rfl⟩

theorem stored_of_read {b : ConfigDb} {propertyId id : Id} {before p : PropertyPolicy}
    (hbefore : policyOf propertyId id b = some before) (hkept : RowsKept b db)
    (hp : p ∈ db.policies) (hid : p.id = id) :
    p.propertyId = propertyId ∧ p.kind = before.kind := by
  rcases policyOf_eq_some.mp hbefore with ⟨hmem, hbid, hproperty, -⟩
  rcases hkept before hmem with ⟨p₀, hp₀, hid₀, hproperty₀, hkind₀⟩
  obtain rfl : p₀ = p := eq_of_key_eq hp₀ hp (hid₀.trans (hbid.trans hid.symm))
  exact ⟨hproperty₀.trans hproperty, hkind₀⟩

theorem kind_of_makes {b : ConfigDb} {propertyId id propertyId' : Id} {dto : UpdatePolicyDto}
    {now : ℤ} {kind : PolicyKind} {before : PropertyPolicy} (hread : (.policy id, b) ∈ reads h)
    (hbefore : policyOf propertyId id b = some before)
    (hkept : ∀ l b, .saw l b ∈ h → RowsKept b db)
    (hmakes : (PolicyCall.update propertyId id dto now).Makes h propertyId' kind) :
    dto.isDefault = some true ∧ propertyId' = propertyId ∧ kind = before.kind := by
  rcases hmakes with ⟨hdefault, hproperty, ⟨l, b'⟩, hr, -, q, hq, hkind⟩
  rcases policyOf_eq_some.mp hbefore with ⟨hmem, hid, -, -⟩
  rcases hkept _ b (mem_reads.mp hread) before hmem with ⟨p, hp, hpid, -, hpkind⟩
  have hstored := stored_of_read (Option.mem_def.mp hq) (hkept l b' (mem_reads.mp hr)) hp
    (hpid.trans hid)
  exact ⟨hdefault, hproperty.symm, hkind.symm.trans (hstored.2.symm.trans hpkind)⟩

/-- A policy that stands after a write: the default of its kind that the call makes, or one that
stood before while the call makes none of its kind. -/
theorem PolicyWrite.stands (hw : PolicyWrite call h w)
    (hkept : ∀ l b, .saw l b ∈ h → RowsKept b db) (hguard : DefaultsSeen call w h db)
    {p' : PropertyPolicy} (hp' : p' ∈ (w db).policies) (hstands : p'.Stands) :
    call.Makes h p'.propertyId p'.kind ∧ call.id = p'.id ∨
      ¬call.Makes h p'.propertyId p'.kind ∧ ∃ p ∈ db.policies, p.Stands ∧
        p.id = p'.id ∧ p.propertyId = p'.propertyId ∧ p.kind = p'.kind := by
  cases hw with
  | @created propertyId dto id now _ f hf =>
    rcases mem_inserted.mp hp' with hold | ⟨-, rfl⟩
    · right
      refine ⟨?_, ?_⟩
      · rintro ⟨hdefault, hproperty, hkind⟩
        rw [hdefault] at hf
        exact hf.none_stands hguard hold (isOfKind_iff.mpr ⟨hproperty.symm, hkind.symm⟩) hstands
      · rcases hf.backward hold with ⟨p, hp, hid, hproperty, hkind, hstood⟩
        exact ⟨p, hp, hstood hstands, hid.symm, hproperty.symm, hkind.symm⟩
    · left
      refine ⟨⟨?_, rfl, rfl⟩, rfl⟩
      have hmark : dto.isDefault.getD false = true := hstands.2
      cases hdefault : dto.isDefault with
      | none => simp [hdefault] at hmark
      | some b => simpa [hdefault] using hmark
  | @updated propertyId id dto now _ b before f hread hbefore hf =>
    rcases mem_setPolicy.mp hp' with ⟨p₁, hp₁, rfl⟩
    rcases hf.backward hp₁ with ⟨p, hp, hid, hproperty, hkind, hstood⟩
    have hrow : p.id = id → p.propertyId = propertyId ∧ p.kind = before.kind :=
      stored_of_read hbefore (hkept _ b (mem_reads.mp hread)) hp
    by_cases hmine : p₁.id = id
    · rw [if_pos hmine] at hstands ⊢
      rcases hrow (hid.symm.trans hmine) with ⟨hp₂, hk₂⟩
      by_cases hdefault : dto.isDefault = some true
      · left
        exact ⟨⟨hdefault, hp₂.symm.trans hproperty.symm, _, hread, rfl, before,
          Option.mem_def.mpr hbefore, hk₂.symm.trans hkind.symm⟩, hmine.symm⟩
      · -- it keeps the mark that it had
        have hmark : dto.isDefault.getD p₁.isDefault = true := hstands.2
        have hnone : dto.isDefault = none := by
          cases hval : dto.isDefault with
          | none => rfl
          | some b =>
            rw [hval] at hmark hdefault
            exact absurd (congrArg some hmark) hdefault
        rw [hnone] at hmark
        right
        exact ⟨fun hmakes => hdefault hmakes.1, p, hp, hstood ⟨hstands.1, hmark⟩, hid.symm,
          hproperty.symm, hkind.symm⟩
    · rw [if_neg hmine] at hstands ⊢
      right
      refine ⟨?_, p, hp, hstood hstands, hid.symm, hproperty.symm, hkind.symm⟩
      intro hmakes
      rcases kind_of_makes hread hbefore hkept hmakes with ⟨hdefault, hpr, hk⟩
      rw [hdefault] at hf
      exact hf.none_stands hguard hp₁ (isOfKind_iff.mpr ⟨hpr, hk⟩) hstands
  | @deleted propertyId id now _ =>
    rcases mem_setPolicy.mp hp' with ⟨p, hp, rfl⟩
    by_cases hmine : p.id = id
    · rw [if_pos hmine] at hstands
      exact absurd hstands.1 (Option.some_ne_none now)
    · rw [if_neg hmine] at hstands ⊢
      exact .inr ⟨fun h => h, p, hp, hstands, rfl, rfl, rfl⟩

/-! ### One default -/

theorem PolicyWrite.oneDefault (hw : PolicyWrite call h w)
    (hkept : ∀ l b, .saw l b ∈ h → RowsKept b db) (hguard : DefaultsSeen call w h db)
    (hone : OneDefault db) : OneDefault (w db) := by
  intro p' hp' q' hq' hp'stands hq'stands hproperty hkind
  rcases hw.stands hkept hguard hp' hp'stands with
    ⟨hpmakes, hpid⟩ | ⟨hpnone, p, hp, hpstands, hpid, hpp, hpk⟩
  · rcases hw.stands hkept hguard hq' hq'stands with ⟨-, hqid⟩ | ⟨hqnone, -⟩
    · exact hpid.symm.trans hqid
    · rw [← hproperty, ← hkind] at hqnone
      exact absurd hpmakes hqnone
  · rcases hw.stands hkept hguard hq' hq'stands with
      ⟨hqmakes, -⟩ | ⟨-, q, hq, hqstands, hqid, hqp, hqk⟩
    · rw [← hproperty, ← hkind] at hqmakes
      exact absurd hqmakes hpnone
    · have hids : p.id = q.id := hone p hp q hq hpstands hqstands
        (hpp.trans (hproperty.trans hqp.symm)) (hpk.trans (hkind.trans hqk.symm))
      exact hpid.symm.trans (hids.trans hqid)

/-! ### The mark of one policy -/

/-- The policy is marked, as one of the kind. -/
def Marked (propertyId : Id) (kind : PolicyKind) (id : Id) (db : ConfigDb) : Prop :=
  ∃ p ∈ db.policies, p.id = id ∧ p.propertyId = propertyId ∧ p.kind = kind ∧ p.isDefault = true

variable {propertyId id : Id} {kind : PolicyKind}

/-- The mark stays, unless another default of the kind is made or an edit takes it away. -/
theorem PolicyWrite.keepsMark (hw : PolicyWrite call h w)
    (hnone : NoDefault propertyId kind call w h db) (hkeeps : KeepsMark id call w h db)
    (hmarked : Marked propertyId kind id db) : Marked propertyId kind id (w db) := by
  rcases hmarked with ⟨p, hp, hid, hproperty, hkind, hdefault⟩
  cases hw with
  | @created propertyId' dto id' now _ f hf =>
    rcases hf.forward hp with ⟨p', hp', hid', hproperty', hkind', hmark⟩
    refine ⟨p', mem_inserted.mpr (.inl hp'), hid'.trans hid, hproperty'.trans hproperty,
      hkind'.trans hkind, (hmark ?_).trans hdefault⟩
    rintro ⟨htrue, hmine⟩
    rcases isOfKind_iff.mp hmine with ⟨hp₂, hk₂⟩
    exact hnone ⟨htrue, hp₂.symm.trans hproperty, hk₂.symm.trans hkind⟩
  | @updated propertyId' id' dto now _ b before f hread hbefore hf =>
    rcases hf.forward hp with ⟨p', hp', hid₁, hproperty₁, hkind₁, hmark⟩
    have hdefault₁ : p'.isDefault = true := by
      refine (hmark ?_).trans hdefault
      rintro ⟨htrue, hmine⟩
      rcases isOfKind_iff.mp hmine with ⟨hp₂, hk₂⟩
      exact hnone ⟨htrue, hp₂.symm.trans hproperty, _, hread, rfl, before,
        Option.mem_def.mpr hbefore, hk₂.symm.trans hkind⟩
    refine ⟨_, mem_setPolicy.mpr ⟨p', hp', rfl⟩, ?_⟩
    by_cases hmine : p'.id = id'
    · rw [if_pos hmine]
      refine ⟨hid₁.trans hid, hproperty₁.trans hproperty, hkind₁.trans hkind, ?_⟩
      show dto.isDefault.getD p'.isDefault = true
      have hnot : dto.isDefault ≠ some false := hkeeps (hmine.symm.trans (hid₁.trans hid))
      cases hval : dto.isDefault with
      | none => exact hdefault₁
      | some b =>
        cases b with
        | true => rfl
        | false => exact absurd hval hnot
    · rw [if_neg hmine]
      exact ⟨hid₁.trans hid, hproperty₁.trans hproperty, hkind₁.trans hkind, hdefault₁⟩
  | @deleted propertyId' id' now _ =>
    refine ⟨_, mem_setPolicy.mpr ⟨p, hp, rfl⟩, ?_⟩
    split <;> exact ⟨hid, hproperty, hkind, hdefault⟩

theorem PolicyWrite.marks (hw : PolicyWrite call h w) (hkept : ∀ l b, .saw l b ∈ h → RowsKept b db)
    (hnew : call.DrawsNew db) (hmakes : call.Makes h propertyId kind) :
    Marked propertyId kind call.id (w db) := by
  cases hw with
  | @created propertyId' dto id' now _ f hf =>
    rcases hmakes with ⟨hdefault, rfl, rfl⟩
    refine ⟨newPolicy propertyId' dto id' now, mem_inserted.mpr (.inr ⟨?_, rfl⟩), rfl, rfl, rfl, ?_⟩
    · rw [hasKey_eq_false]
      intro p' hp'
      rcases hf.backward hp' with ⟨p, hp, hid, -⟩
      rw [hid]
      exact Table.hasKey_eq_false.mp hnew p hp
    · show dto.isDefault.getD false = true
      rw [hdefault]
      rfl
  | @updated propertyId' id' dto now _ b before f hread hbefore hf =>
    have hkindOf := kind_of_makes hread hbefore hkept hmakes
    rcases policyOf_eq_some.mp hbefore with ⟨hmem, hbid, -, -⟩
    rcases hkept _ b (mem_reads.mp hread) before hmem with ⟨p, hp, hpid, -, -⟩
    have hstored := stored_of_read hbefore (hkept _ b (mem_reads.mp hread)) hp (hpid.trans hbid)
    rcases hf.forward hp with ⟨p', hp', hid₁, hproperty₁, hkind₁, -⟩
    have hmine : p'.id = id' := hid₁.trans (hpid.trans hbid)
    refine ⟨_, mem_setPolicy.mpr ⟨p', hp', rfl⟩, ?_⟩
    rw [if_pos hmine]
    refine ⟨hmine, hproperty₁.trans (hstored.1.trans hkindOf.2.1.symm),
      hkind₁.trans (hstored.2.trans hkindOf.2.2.symm), ?_⟩
    show dto.isDefault.getD p'.isDefault = true
    rw [hkindOf.1]
    rfl
  | deleted => exact hmakes.elim

end Writes

theorem returned_of_marked {propertyId : Id} {kind : PolicyKind} {id : Id} {db : ConfigDb}
    (hone : OneDefault db) (hmarked : Marked propertyId kind id db) :
    Returned propertyId kind id db := by
  rcases hmarked with ⟨p, hp, hid, hproperty, hkind, hdefault⟩
  refine ⟨⟨p, hp, hid⟩, fun q hq hqid hlive hactive => ?_⟩
  obtain rfl : q = p := eq_of_key_eq hq hp (hqid.trans hid.symm)
  refine find?_eq_some_of_unique (mem_policiesOf.mpr ⟨hq, hproperty, hlive⟩)
    (by simp [hkind, hactive, hdefault]) fun r hr htest => ?_
  rcases mem_policiesOf.mp hr with ⟨hr, hrproperty, hrlive⟩
  simp only [and_decide_eq] at htest
  have hids : r.id = q.id := hone r hr q hq ⟨hrlive, htest.2⟩ ⟨hlive, hdefault⟩
    (hrproperty.trans hproperty.symm) (htest.1.1.trans hkind.symm)
  exact eq_of_key_eq hr hq hids

/-! ## Runs -/

/-- Every session meets its obligations, what it has read was kept, and one default stands. -/
structure Kept (calls : List PolicyCall) (c : PolicyConfig) : Prop where
  sound : Config.Sound (fun i h w => ∃ call, calls[i]? = some call ∧ PolicyWrite call h w) c
  seen : Config.Seen (fun b => RowsKept b c.db) c
  oneDefault : OneDefault c.db

section Runs

variable {calls : List PolicyCall} {c c' : PolicyConfig}

theorem kept_start {db : ConfigDb} (hone : OneDefault db) :
    Kept calls (Config.start db (calls.map PolicyCall.prog)) := by
  refine ⟨Config.sound_start fun i p hp => ?_, Config.seen_start, hone⟩
  rw [List.getElem?_map, Option.map_eq_some_iff] at hp
  rcases hp with ⟨call, hcall, rfl⟩
  exact wp_mono (fun _ _ hw => ⟨call, hcall, hw⟩) (fun _ _ _ h => h) (fun _ _ _ h => h) _ _ _
    call.wp_prog

theorem Kept.wrote (hkept : Kept calls c) {i : ℕ}
    {s : Session ConfigDb Id ConfigLook ConfigErr Unit} {call : PolicyCall}
    {w : ConfigDb → ConfigDb} (hs : c.sessions[i]? = some s)
    (hcall : calls[i]? = some call) (hpub : s.Publishes c.db w) : PolicyWrite call s.trace w := by
  rcases hpub with ⟨st, k, hp, hmem⟩
  have hwp := (hkept.sound i s hs).2
  rw [hp] at hwp
  rcases (hwp.1 c.db).1 w hmem with ⟨call', hcall', hw⟩
  cases Option.some.inj (hcall.symm.trans hcall')
  exact hw

theorem Kept.moves (hkept : Kept calls c) {ev : Event} (hn : c.next ev = some c') :
    c'.db = c.db ∨ ∃ i s call w, ev = .step i ∧ c.sessions[i]? = some s ∧ calls[i]? = some call ∧
      s.Publishes c.db w ∧ PolicyWrite call s.trace w ∧ c'.db = w c.db := by
  rcases Config.next_moves hn with ⟨i, s, s', hs, -, ⟨-, hdb, -⟩ | ⟨w, hev, hpub, -, hdb, -⟩⟩
  · exact .inl hdb
  · right
    have hw : ∃ call, calls[i]? = some call ∧ PolicyWrite call s.trace w := by
      rcases hpub with ⟨st, k, hp, hmem⟩
      have hwp := (hkept.sound i s hs).2
      rw [hp] at hwp
      exact (hwp.1 c.db).1 w hmem
    rcases hw with ⟨call, hcall, hw⟩
    exact ⟨i, s, call, w, hev, hs, hcall, hpub, hw, hdb⟩

theorem Kept.next (hkept : Kept calls c) {ev : Event}
    (hguard : GuardedCalls calls DefaultsSeen c ev) (hn : c.next ev = some c') :
    Kept calls c' := by
  have hrows : RowsKept c.db c'.db := by
    rcases hkept.moves hn with hdb | ⟨i, s, call, w, -, -, -, -, hw, hdb⟩
    · rw [hdb]
      exact .refl c.db
    · rw [hdb]
      exact hw.rowsKept
  refine ⟨hkept.sound.next hn, ?_, ?_⟩
  · intro i s hs l b hb
    exact (hkept.seen.next (.refl c.db) hn i s hs l b hb).trans hrows
  · rcases hkept.moves hn with hdb | ⟨i, s, call, w, hev, hs, hcall, hpub, hw, hdb⟩
    · rw [hdb]
      exact hkept.oneDefault
    · rw [hdb]
      exact hw.oneDefault (fun l b hb => hkept.seen i s hs l b hb)
        (hguard i s w hev hs hpub call hcall) hkept.oneDefault

theorem Kept.nextMarked (hkept : Kept calls c) {propertyId id : Id} {kind : PolicyKind}
    {ev : Event} (hguard : GuardedCalls calls (fun call w h now =>
      NoDefault propertyId kind call w h now ∧ KeepsMark id call w h now) c ev)
    (hn : c.next ev = some c') (hmarked : Marked propertyId kind id c.db) :
    Marked propertyId kind id c'.db := by
  rcases hkept.moves hn with hdb | ⟨i, s, call, w, hev, hs, hcall, hpub, hw, hdb⟩
  · rw [hdb]
    exact hmarked
  · rcases hguard i s w hev hs hpub call hcall with ⟨hnone, hkeeps⟩
    rw [hdb]
    exact hw.keepsMark hnone hkeeps hmarked

end Runs

/-- **One default policy per kind**, while each new default has seen those that stand when it
commits; and the one that was committed last is returned, while its mark is not taken away. -/
theorem one_default_per_kind (calls : List PolicyCall) (db : ConfigDb) (evs : List Event)
    (c : PolicyConfig) (hone : OneDefault db)
    (hguarded : (Config.start db (calls.map PolicyCall.prog)).Throughout
      (GuardedCalls calls DefaultsSeen) evs)
    (hrun : (Config.start db (calls.map PolicyCall.prog)).run evs = some c) :
    OneDefault c.db ∧ DefaultStays KeepsMark calls db evs c := by
  have hkept : ∀ evs c c', Kept calls c → c.Throughout (GuardedCalls calls DefaultsSeen) evs →
      c.run evs = some c' → Kept calls c' := fun evs c c' hc hg hr =>
    Config.run_throughout (Kept calls) (fun _ _ _ hc hg hn => hc.next hg hn) evs c hc hg hr
  constructor
  · exact (hkept evs _ c (kept_start hone) hguarded hrun).oneDefault
  · rintro propertyId kind before after i c₁ c₂ call id rfl rfl hrun₁ hnext hcall hmakes hnew hquiet
    rcases Config.throughout_append before _ hguarded with ⟨hguard₁, hrest⟩
    have hc₁ : Kept calls c₁ := hkept before _ c₁ (kept_start hone) hguard₁ hrun₁
    have hguard₂ := hrest c₁ hrun₁
    have hc₂ : Kept calls c₂ := hc₁.next hguard₂.1 hnext
    -- the commit marks the policy
    have hmarked : Marked propertyId kind call.id c₂.db := by
      rcases hmakes with ⟨s, hs, hpublished, hmake⟩
      rcases List.exists_mem_of_ne_nil _ hpublished with ⟨w, hmem⟩
      have hpub := Session.mem_published.mp hmem
      have hw := hc₁.wrote hs hcall hpub
      rw [Config.next_db_of_publishes hs hpub hnext]
      exact hw.marks (fun l b hb => hc₁.seen i s hs l b hb) hnew hmake
    have hrun₂ : c₂.run after = some c := by
      simpa [Config.run_append, hrun₁, Config.run, hnext] using hrun
    have hend : Kept calls c ∧ Marked propertyId kind call.id c.db :=
      Config.run_throughout (fun c => Kept calls c ∧ Marked propertyId kind call.id c.db)
        (fun _ _ _ hc hg hn => ⟨hc.1.next hg.1 hn, hc.1.nextMarked hg.2 hn hc.2⟩) after c₂
        ⟨hc₂, hmarked⟩ ((hguard₂.2 c₂ hnext).and hquiet) hrun₂
    exact returned_of_marked hend.1.oneDefault hend.2

/-! ## Two defaults at once -/

instance (p : PropertyPolicy) : Decidable p.Stands :=
  inferInstanceAs (Decidable (_ ∧ _))

instance (db : ConfigDb) : Decidable (OneDefault db) := by
  unfold OneDefault
  infer_instance

instance (propertyId : Id) (kind : PolicyKind) (id : Id) (db : ConfigDb) :
    Decidable (Returned propertyId kind id db) := by
  unfold Returned
  infer_instance

instance (call : PolicyCall) (h : ConfigTrace) (propertyId : Id) (kind : PolicyKind) :
    Decidable (call.Makes h propertyId kind) := by
  unfold PolicyCall.Makes
  split <;> infer_instance

instance (call : PolicyCall) (db : ConfigDb) : Decidable (call.DrawsNew db) := by
  unfold PolicyCall.DrawsNew
  split <;> infer_instance

instance (call : PolicyCall) (w : ConfigDb → ConfigDb) (h : ConfigTrace) (now : ConfigDb) :
    Decidable (DefaultsSeen call w h now) := by
  unfold DefaultsSeen
  infer_instance

instance (propertyId : Id) (kind : PolicyKind) (call : PolicyCall) (w : ConfigDb → ConfigDb)
    (h : ConfigTrace) (now : ConfigDb) : Decidable (NoDefault propertyId kind call w h now) := by
  unfold NoDefault
  infer_instance

instance (id : Id) (call : PolicyCall) (w : ConfigDb → ConfigDb) (h : ConfigTrace)
    (now : ConfigDb) : Decidable (KeepsMark id call w h now) := by
  unfold KeepsMark
  split <;> infer_instance

def strict : PolicyCall :=
  .create 1 { kind := .CANCELLATION, name := "Strict", isDefault := some true } 7 0

def flexible : PolicyCall :=
  .create 1 { kind := .CANCELLATION, name := "Flexible", isDefault := some true } 8 0

/-- The other default is made and committed before the first commits. -/
def othersFirst : List Event :=
  [.step 0, .step 0, .step 0, .step 0, .step 1, .step 1, .step 1, .step 1, .step 1]

/-- One default after the other. -/
def inSequence : List Event :=
  [.step 0, .step 0, .step 0, .step 0, .step 0, .step 1, .step 1, .step 1, .step 1]

/-- Both are defaults of their kind, and the one that is committed last is not returned. -/
theorem two_defaults :
    (∃ c, (Config.start ({} : ConfigDb) ([strict, flexible].map PolicyCall.prog)).run
      (othersFirst ++ [.step 0]) = some c ∧ ¬OneDefault c.db) ∧
    ¬∀ calls db evs c, OneDefault db →
      (Config.start db (calls.map PolicyCall.prog)).run evs = some c →
        DefaultStays (fun _ _ _ _ _ => True) calls db evs c := by
  refine ⟨⟨_, rfl, by decide +kernel⟩, fun hlaw => ?_⟩
  have hreturned := hlaw [strict, flexible] {} (othersFirst ++ [.step 0]) _ (by decide +kernel) rfl
    1 .CANCELLATION othersFirst [] 0 _ _ _ 7 rfl rfl rfl rfl rfl (by decide +kernel)
    (by decide +kernel) trivial
  revert hreturned
  decide +kernel

/-- One after the other the second is the default, and is returned after the first is deleted. -/
theorem one_default_in_turn :
    ∃ c, (Config.start ({} : ConfigDb)
      ([strict, flexible, .delete 1 7 0].map PolicyCall.prog)).run
        (inSequence ++ .step 1 :: [.step 2, .step 2]) = some c ∧
      OneDefault c.db ∧ Returned 1 .CANCELLATION 8 c.db := by
  have hrows : ((Config.start ({} : ConfigDb)
      ([strict, flexible, .delete 1 7 0].map PolicyCall.prog)).run
        (inSequence ++ .step 1 :: [.step 2, .step 2])).isSome = true := by decide +kernel
  rcases Option.isSome_iff_exists.mp hrows with ⟨c, hrun⟩
  have hdefaults := one_default_per_kind [strict, flexible, .delete 1 7 0] {} _ c
    (by decide +kernel) (by decide +kernel) hrun
  refine ⟨c, hrun, hdefaults.1, ?_⟩
  exact hdefaults.2 1 .CANCELLATION inSequence [.step 2, .step 2] 1 _ _ _ 8 rfl rfl rfl rfl rfl
    (by decide +kernel) (by decide +kernel) (by decide +kernel)

end Travelo.PropertyConfig
