import Travelo.Auth.Tokens
import Travelo.ReadCommitted.Solo

/-!
# Team management

The four team routes of the staff app behind their guards: who the caller is comes from the
token, and the role and property from the caller's row.

`nobody_climbs`: whatever requests come in, each step that changes a row is the step of a member
who is signed in, creates only roles that member may create, changes nobody's role or property,
activates only with `staff.approve`, and leaves the member's own row and other properties alone.
-/

namespace Travelo

open ReadCommitted

/-! ## The routes -/

structure CreateTeamMemberDto where
  role : HotelStaffRole
  email : String
  mobile : String
  activate : Bool := false

def staffAssignableStatusValues : List HotelStaffStatus :=
  [.ACTIVE, .BLOCKED, .SUSPENDED, .DEACTIVATED]

namespace StaffTeamService

/-- The index `hotel_staff_property_email_unique`. -/
def emailTaken (propertyId : Id) (email : String) (db : AuthDb) : Bool :=
  db.hotelStaff.rows.any fun s =>
    s.propertyId = propertyId && s.email = email && s.deletedAt.isNone

variable (me : AuthedStaff)

/-- The row of a new member. -/
def newMember (dto : CreateTeamMemberDto) (status : HotelStaffStatus) (now : ℤ) (db : AuthDb) :
    HotelStaff :=
  { id := freshId (db.hotelStaff.rows.map (·.id)), propertyId := me.propertyId, role := dto.role,
    email := dto.email.toLower, mobile := dto.mobile, status, createdAt := now }

def insertMember (dto : CreateTeamMemberDto) (status : HotelStaffStatus) (now : ℤ) (db : AuthDb) :
    Except GuardErr AuthDb :=
  if emailTaken me.propertyId dto.email.toLower db then .error .uniqueViolation
  else .ok { db with hotelStaff := db.hotelStaff.insert (newMember me dto status now db) }

variable (staffId : Id)

/-- `UPDATE hotel_staff SET … WHERE id = …`. -/
def updateMember (f : HotelStaff → HotelStaff) (hf : ∀ s, (f s).id = s.id) (db : AuthDb) : AuthDb :=
  { db with hotelStaff := db.hotelStaff.update (fun s => s.id = staffId) f hf }

def setMemberStatus (status : HotelStaffStatus) : AuthDb → AuthDb :=
  updateMember staffId (fun s => { s with status }) fun _ => rfl

/-- Those at the property who can approve. -/
def approvers (propertyId : Id) (db : AuthDb) : List Id :=
  (db.hotelStaff.rows.filter fun s => s.propertyId = propertyId && s.role ∈ MANAGEMENT_ROLES &&
    s.status = .ACTIVE && s.deletedAt.isNone).map (·.id)

/-- The target, in the caller's property, or nothing. -/
def requireTeamMember : GuardOp HotelStaff := do
  throwIf (staffId = me.id) .selfModification
  let row ← select (.member staffId) fun db =>
    (db.hotelStaff.find? staffId).filter fun s =>
      s.propertyId = me.propertyId && s.deletedAt.isNone
  orThrow row .staffMemberNotFound

def create (now : ℤ) (dto : CreateTeamMemberDto) : GuardOp Unit := do
  throwIf (dto.role ∉ creatableRolesFor me.role)
    (if me.role ∈ ROLE_NARROWED_ACTORS then .roleNotPermitted else .roleNotAssignable)
  let status := if .staffApprove ∈ me.permissions ∧ dto.activate then .ACTIVE
    else HotelStaffStatus.PENDING_APPROVAL
  writeChecked (fun _ => []) (insertMember me dto status now) fun _ => ()
  -- Whom to tell is read once the row is there.
  when (status = .PENDING_APPROVAL) do
    let _ ← select .approvers (approvers me.propertyId)
    select .property fun _ => ()

def approve : GuardOp Unit := do
  let target ← requireTeamMember me staffId
  throwIf (target.status ≠ .PENDING_APPROVAL ∧ target.status ≠ .APPROVED) .forbidden
  write (fun _ => []) (setMemberStatus staffId .ACTIVE) fun _ => ()
  select .property fun _ => ()

def setStatus (status : HotelStaffStatus) : GuardOp Unit := do
  throwIf (status = .ACTIVE ∧ .staffApprove ∉ me.permissions) .activationRequiresApproval
  let _ ← requireTeamMember me staffId
  write (fun _ => []) (setMemberStatus staffId status) fun _ => ()

def remove (now : ℤ) (staffId : Id) : GuardOp Unit := do
  let _ ← requireTeamMember me staffId
  write (fun _ => [])
    (updateMember staffId (fun s => { s with deletedAt := some now }) fun _ => rfl) fun _ => ()

end StaffTeamService

inductive TeamRoute where
  | create (dto : CreateTeamMemberDto)
  | approve (id : Id)
  | setStatus (id : Id) (status : HotelStaffStatus)
  | remove (id : Id)

namespace TeamRoute

/-- `@RequireStaffPermissions(…)`. -/
def permission : TeamRoute → StaffPermission
  | create _ => .staffCreate
  | approve _ => .staffApprove
  | setStatus _ _ => .staffUpdate
  | remove _ => .staffDelete

/-- `@IsIn(…)` of the body. -/
def valid : TeamRoute → Bool
  | create dto => dto.role ∈ staffCreatableRoleValues
  | setStatus _ status => status ∈ staffAssignableStatusValues
  | _ => true

def handle (me : AuthedStaff) (now : ℤ) : TeamRoute → GuardOp Unit
  | create dto => StaffTeamService.create me now dto
  | approve id => StaffTeamService.approve me id
  | setStatus id status => StaffTeamService.setStatus me id status
  | remove id => StaffTeamService.remove me now id

end TeamRoute

/-- A request to a team route. -/
structure TeamCall where
  req : GuardRequest
  now : ℤ
  route : TeamRoute

/-- The guards, the validation of the body and the handler. -/
def TeamCall.prog (cfg : JwtConfig) (call : TeamCall) : GuardOp Unit := do
  let me ← StaffJwtGuard.canActivate cfg call.now call.req
  throwIf (call.route.permission ∉ me.permissions) .forbidden
  throwIf (call.route.valid = false) .badRequest
  call.route.handle me call.now

/-! ## The law -/

/-- The request comes from this member of staff. -/
structure Admitted (call : TeamCall) (me : AuthedStaff) (db : AuthDb) : Prop where
  token : ∃ t, call.req.authorization = some t ∧ t.claims.sub = some me.id
  row : ∃ s, db.hotelStaff.find? me.id = some s ∧ s.status = .ACTIVE ∧ s.deletedAt = none ∧
    s.role = me.role ∧ s.propertyId = me.propertyId
  permissions : me.permissions = permissionsForRole me.role

/-- What a step of the member `me` may do. -/
structure WithinRank (me : AuthedStaff) (db db' : AuthDb) : Prop where
  created : ∀ row ∈ db'.hotelStaff, db.hotelStaff.hasKey row.id = false →
    row.role ≠ .GENERAL_MANAGER ∧ row.role ≠ .ASSISTANT_GENERAL_MANAGER ∧
      row.role ∈ creatableRolesFor me.role
  activated : ∀ id row', db'.hotelStaff.find? id = some row' → row'.status = .ACTIVE →
    (∀ row, db.hotelStaff.find? id = some row → row.status ≠ .ACTIVE) →
      StaffPermission.staffApprove ∈ permissionsForRole me.role
  kept : ∀ row ∈ db.hotelStaff, ∃ row', db'.hotelStaff.find? row.id = some row' ∧
    row'.role = row.role ∧ row'.propertyId = row.propertyId
  own : db'.hotelStaff.find? me.id = db.hotelStaff.find? me.id
  elsewhere : ∀ row : HotelStaff, row.propertyId ≠ me.propertyId →
    (row ∈ db'.hotelStaff ↔ row ∈ db.hotelStaff)

/-! ## What a request can do -/

/-- The three things that happen to the rows. -/
inductive TeamMove (me : AuthedStaff) (db : AuthDb) : AuthDb → Prop where
  | stay : TeamMove me db db
  | hire (row : HotelStaff) (hfree : db.hotelStaff.hasKey row.id = false)
      (hproperty : row.propertyId = me.propertyId) (hrole : row.role ∈ creatableRolesFor me.role)
      (hactive : row.status = .ACTIVE → .staffApprove ∈ me.permissions) :
      TeamMove me db { db with hotelStaff := db.hotelStaff.insert row }
  | change (target : HotelStaff) (f : HotelStaff → HotelStaff) (hf : ∀ s, (f s).id = s.id)
      (hfind : db.hotelStaff.find? target.id = some target)
      (hproperty : target.propertyId = me.propertyId) (hother : target.id ≠ me.id)
      (hkeep : ∀ s, (f s).role = s.role ∧ (f s).propertyId = s.propertyId)
      (hactive : target.status ≠ .ACTIVE → (f target).status = .ACTIVE →
        .staffApprove ∈ me.permissions) :
      TeamMove me db (StaffTeamService.updateMember target.id f hf db)

section Moves

variable {me : AuthedStaff} {db db' : AuthDb}

theorem TeamMove.withinRank {call : TeamCall} (hme : Admitted call me db)
    (hm : TeamMove me db db') : WithinRank me db db' := by
  rcases hme.row with ⟨own, hown, -⟩
  cases hm with
  | stay =>
    refine ⟨fun row hrow hfree => ?_, fun id row' hrow' hactive hnot => ?_, fun row hrow => ?_, rfl,
      fun _ _ => Iff.rfl⟩
    · exact absurd rfl (Table.hasKey_eq_false.mp hfree row hrow)
    · exact absurd hactive (hnot row' hrow')
    · exact ⟨row, find?_key hrow, rfl, rfl⟩
  | hire row hfree hproperty hrole hactive =>
    have hfind : ∀ id, (db.hotelStaff.insert row).find? id =
        if row.id = id then some row else db.hotelStaff.find? id := find?_insert hfree
    have hold : ∀ s ∈ db.hotelStaff, row.id ≠ s.id := fun s hs heq =>
      Table.hasKey_eq_false.mp hfree s hs heq.symm
    refine ⟨fun s hs hnew => ?_, fun id row' hrow' hstatus hnot => ?_, fun s hs => ?_, ?_,
      fun s hs => ?_⟩
    · rcases mem_or_eq_of_mem_insert hs with hmem | rfl
      · exact absurd rfl (Table.hasKey_eq_false.mp hnew s hmem)
      · have hrank := notMem_creatableRolesFor hrole
        simp only [MANAGEMENT_ROLES, List.mem_cons, List.not_mem_nil, or_false, not_or] at hrank
        exact ⟨hrank.1, hrank.2, hrole⟩
    · rw [hfind] at hrow'
      split at hrow'
      · cases hrow'
        rw [← hme.permissions]
        exact hactive hstatus
      · exact absurd hstatus (hnot row' hrow')
    · refine ⟨s, ?_, rfl, rfl⟩
      rw [hfind, if_neg (hold s hs), find?_key hs]
    · have hne : row.id ≠ me.id := by
        rw [← key_of_find? hown]
        exact hold own (mem_of_find? hown)
      rw [hfind, if_neg hne]
    · constructor
      · intro hmem
        rcases mem_or_eq_of_mem_insert hmem with hmem | rfl
        · exact hmem
        · exact absurd hproperty hs
      · exact mem_insert_of_mem
  | change target f hf hfind hproperty hother hkeep hactive =>
    unfold StaffTeamService.updateMember
    have htarget : ∀ s ∈ db.hotelStaff, s.id = target.id → s = target := by
      intro s hs heq
      have hsame := find?_key hs
      rw [heq, hfind] at hsame
      exact (Option.some.inj hsame).symm
    have hrows : ∀ s', s' ∈ db.hotelStaff.update (fun s => s.id = target.id) f hf ↔
        ∃ s ∈ db.hotelStaff, s' = if decide (s.id = target.id) = true then f s else s :=
      fun _ => mem_update
    refine ⟨fun s hs hnew => ?_, fun id row' hrow' hstatus hnot => ?_, fun s hs => ?_,
      find?_update_ne f hf hother.symm, fun s hs => ?_⟩
    · rcases (hrows s).mp hs with ⟨s₀, hs₀, rfl⟩
      refine absurd ?_ (Table.hasKey_eq_false.mp hnew s₀ hs₀)
      split
      · exact (hf s₀).symm
      · rfl
    · by_cases hid : id = target.id
      · subst hid
        rw [find?_update_self f hf, hfind, Option.map_some, Option.some.injEq] at hrow'
        subst hrow'
        rw [← hme.permissions]
        exact hactive (hnot target hfind) hstatus
      · rw [find?_update_ne f hf hid] at hrow'
        exact absurd hstatus (hnot row' hrow')
    · by_cases hid : s.id = target.id
      · obtain rfl := htarget s hs hid
        refine ⟨f s, ?_, hkeep s⟩
        rw [find?_update_self f hf, hfind, Option.map_some]
      · refine ⟨s, ?_, rfl, rfl⟩
        rw [find?_update_ne f hf hid, find?_key hs]
    · refine (hrows s).trans ?_
      constructor
      · rintro ⟨s₀, hs₀, rfl⟩
        split at hs
        case isTrue hid =>
          obtain rfl := htarget s₀ hs₀ (of_decide_eq_true hid)
          rw [(hkeep s₀).2] at hs
          exact absurd hproperty hs
        case isFalse hid => simpa [hid] using hs₀
      · intro hmem
        refine ⟨s, hmem, ?_⟩
        rw [if_neg]
        intro hid
        obtain rfl := htarget s hmem (of_decide_eq_true hid)
        exact hs hproperty

end Moves

section Routes

variable {cfg : JwtConfig} {call : TeamCall} {me : AuthedStaff} {db : AuthDb}

/-- However the rest of a request ends, it has made one of the moves. -/
abbrev Moved (me : AuthedStaff) (db : AuthDb) {α : Type} (p : GuardOp α) : Prop :=
  p.ends (fun _ _ s => TeamMove me db s) (fun _ _ s => TeamMove me db s) .idle db

theorem ends_requireTeamMember {α : Type} {staffId : Id} {k : HotelStaff → GuardOp α}
    (hk : ∀ target, db.hotelStaff.find? target.id = some target → target.id = staffId →
      target.propertyId = me.propertyId → target.id ≠ me.id → Moved me db (k target)) :
    Moved me db (StaffTeamService.requireTeamMember me staffId >>= k) := by
  simp only [Moved, StaffTeamService.requireTeamMember, ends_simps, TeamMove.stay]
  intro hother target htarget
  rcases Option.filter_eq_some_iff.mp htarget with ⟨hfind, hmine⟩
  simp only [and_decide_eq] at hmine
  have hid : target.id = staffId := key_of_find? hfind
  refine hk target ?_ hid hmine.1 ?_
  · rw [hid, hfind]
  · rw [hid]
    exact hother

theorem moved_create (dto : CreateTeamMemberDto) :
    Moved me db (StaffTeamService.create me call.now dto) := by
  simp only [Moved, StaffTeamService.create, ends_simps, Prog.ends_writeChecked_idle, ends_when,
    TeamMove.stay, not_not]
  intro hrole db' hinsert
  have hmove : TeamMove me db db' := by
    unfold StaffTeamService.insertMember at hinsert
    split at hinsert
    · cases hinsert
    · cases hinsert
      refine .hire _ (hasKey_freshId db.hotelStaff) rfl hrole fun hactive => ?_
      simp only [StaffTeamService.newMember] at hactive
      split at hactive
      case isTrue hmay => exact hmay.1
      case isFalse => cases hactive
  exact ⟨fun _ => ⟨⟨hmove, fun _ => hmove⟩, fun _ => hmove⟩, fun _ => hmove⟩

theorem TeamMove.setStatus {target : HotelStaff} {status : HotelStaffStatus}
    (hfind : db.hotelStaff.find? target.id = some target)
    (hproperty : target.propertyId = me.propertyId) (hother : target.id ≠ me.id)
    (hactive : status = .ACTIVE → .staffApprove ∈ me.permissions) :
    TeamMove me db (StaffTeamService.setMemberStatus target.id status db) :=
  .change target (fun s => { s with status }) (fun _ => rfl) hfind hproperty hother
    (fun _ => ⟨rfl, rfl⟩) fun _ hstatus => hactive hstatus

theorem moved_approve (staffId : Id) (hperm : .staffApprove ∈ me.permissions) :
    Moved me db (StaffTeamService.approve me staffId) := by
  refine ends_requireTeamMember fun target hfind hid hproperty hother => ?_
  simp only [Moved, ends_simps, TeamMove.stay]
  intro _
  have hmove : TeamMove me db (StaffTeamService.setMemberStatus staffId .ACTIVE db) := by
    rw [← hid]
    exact .setStatus hfind hproperty hother fun _ => hperm
  exact ⟨hmove, fun _ => hmove⟩

theorem moved_setStatus (staffId : Id) (status : HotelStaffStatus) :
    Moved me db (StaffTeamService.setStatus me staffId status) := by
  simp only [Moved, StaffTeamService.setStatus, ends_simps, TeamMove.stay]
  intro hmay
  rw [← ends_bind]
  refine ends_requireTeamMember fun target hfind hid hproperty hother => ?_
  simp only [Moved, ends_write_idle, TeamMove.stay, trivially]
  rw [← hid]
  refine .setStatus hfind hproperty hother fun hactive => ?_
  by_contra hnot
  exact hmay ⟨hactive, hnot⟩

theorem moved_remove (now : ℤ) (staffId : Id) :
    Moved me db (StaffTeamService.remove me now staffId) := by
  refine ends_requireTeamMember fun target hfind hid hproperty hother => ?_
  simp only [Moved, ends_write_idle, TeamMove.stay, trivially]
  rw [← hid]
  exact .change target (fun s => { s with deletedAt := some now }) (fun _ => rfl) hfind hproperty
    hother (fun _ => ⟨rfl, rfl⟩) fun hnot hactive => absurd hactive hnot

theorem moved_handle (hperm : call.route.permission ∈ me.permissions) :
    Moved me db (call.route.handle me call.now) := by
  cases hroute : call.route with
  | create dto => exact moved_create dto
  | approve id =>
    rw [hroute] at hperm
    exact moved_approve id hperm
  | setStatus id status => exact moved_setStatus id status
  | remove id => exact moved_remove call.now id

theorem ends_admitted {α : Type} {k : AuthedStaff → GuardOp α} {P : α → Tx AuthDb → AuthDb → Prop}
    {E : GuardErr → Tx AuthDb → AuthDb → Prop} (hstay : ∀ e, E e .idle db)
    (hk : ∀ me, Admitted call me db → (k me).ends P E .idle db) :
    (StaffJwtGuard.canActivate cfg call.now call.req >>= k).ends P E .idle db := by
  simp only [StaffJwtGuard.canActivate, liveSession, ends_simps, hstay]
  intro t ht payload hv staff hstaff hstatus session _
  obtain ⟨rfl, -⟩ := Jwt.verify_eq_some hv
  rcases Option.filter_eq_some_iff.mp hstaff with ⟨hfound, hlive⟩
  rcases Option.bind_eq_some_iff.mp hfound with ⟨sub, hsub, hfind⟩
  obtain rfl : staff.id = sub := key_of_find? hfind
  exact hk _ ⟨⟨t, ht, hsub⟩, ⟨staff, hfind, not_not.mp hstatus, Option.isNone_iff_eq_none.mp hlive,
    rfl, rfl⟩, rfl⟩

end Routes

end Travelo
