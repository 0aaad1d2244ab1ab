import Travelo.Auth

/-!
# What a role may do

The permissions of the staff roles, as far as the team routes ask for them, and who may create
whom. The roles are resolved on the server at each request, never from the token.
-/

namespace Travelo

/-- The keys that the team routes ask for. -/
inductive StaffPermission where
  | staffRead
  | staffCreate
  | staffUpdate
  | staffApprove
  | staffDelete
  deriving DecidableEq

def hotelStaffRoleValues : List HotelStaffRole :=
  [.GENERAL_MANAGER, .ASSISTANT_GENERAL_MANAGER, .HR, .ACCOUNTS, .RECEPTIONIST, .SALES_MANAGER,
    .TRAVEL_DESK, .HOUSEKEEPING_SUPERVISOR, .ROOM_ATTENDANT, .CLEANING_STAFF, .TECHNICIAN,
    .SPA_MANAGER, .SPA_ACCOUNTS, .SPA_STAFF, .RESTAURANT_MANAGER, .CASHIER, .WAITER, .CHEF,
    .CLEANER, .INVENTORY_STORE_MANAGER, .SECURITY_MANAGER, .SECURITY_STAFF, .DRIVER,
    .EVENT_MANAGER]

/-! ## role-permissions.ts -/

def generalManagerPermissions : List StaffPermission :=
  [.staffRead, .staffCreate, .staffUpdate, .staffApprove, .staffDelete]

/-- What the assistant does not share. -/
def AGM_WITHHELD : List StaffPermission := [.staffDelete]

def assistantPermissions : List StaffPermission :=
  generalManagerPermissions.filter fun p => p ∉ AGM_WITHHELD

def permissionsForRole : HotelStaffRole → List StaffPermission
  | .GENERAL_MANAGER => generalManagerPermissions
  | .ASSISTANT_GENERAL_MANAGER => assistantPermissions
  | .HR => [.staffRead, .staffCreate, .staffUpdate]
  | _ => []

def roleHasPermission (role : HotelStaffRole) (permission : StaffPermission) : Bool :=
  permission ∈ permissionsForRole role

/-! ## role-creation.ts -/

def MANAGEMENT_ROLES : List HotelStaffRole := [.GENERAL_MANAGER, .ASSISTANT_GENERAL_MANAGER]

/-- Every role that somebody inside the hotel may create. -/
def staffCreatableRoleValues : List HotelStaffRole :=
  hotelStaffRoleValues.filter fun r => r ∉ MANAGEMENT_ROLES

def SELF_EXCLUDING_ACTORS : List HotelStaffRole := [.HR]

def ROLE_NARROWED_ACTORS : List HotelStaffRole := SELF_EXCLUDING_ACTORS

def creatableRolesFor (actorRole : HotelStaffRole) : List HotelStaffRole :=
  if !roleHasPermission actorRole .staffCreate then []
  else if actorRole ∈ SELF_EXCLUDING_ACTORS then
    staffCreatableRoleValues.filter fun r => r ≠ actorRole
  else staffCreatableRoleValues

theorem notMem_creatableRolesFor {actorRole role : HotelStaffRole}
    (h : role ∈ creatableRolesFor actorRole) : role ∉ MANAGEMENT_ROLES := by
  have hcreatable : role ∈ staffCreatableRoleValues := by
    unfold creatableRolesFor at h
    split_ifs at h
    · cases h
    · exact (List.mem_filter.mp h).1
    · exact h
  exact of_decide_eq_true (List.mem_filter.mp hcreatable).2

end Travelo
