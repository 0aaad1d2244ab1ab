import Mathlib.Data.List.Sort
import Travelo.ReadCommitted.Answers
import Travelo.Reservations.Service

/-!
# The policies of a property

`PropertyConfigService`: the house rules of a hotel, by kind. A policy that is made the default of
its kind demotes the others in its transaction, the rows that the `UPDATE` finds.
-/

namespace Travelo.PropertyConfig

open ReadCommitted

/-! ## State -/

inductive PolicyKind where
  | CANCELLATION
  | NO_SHOW
  | EARLY_CHECKOUT
  | DEPOSIT
  deriving DecidableEq

/-- The place of a kind in the order of the texts. -/
def PolicyKind.rank : PolicyKind → ℕ
  | .CANCELLATION => 0
  | .DEPOSIT => 1
  | .EARLY_CHECKOUT => 2
  | .NO_SHOW => 3

inductive PolicyChargeKind where
  | NONE
  | FIRST_NIGHT
  | PERCENT
  | FIXED
  deriving DecidableEq

structure PropertyPolicy where
  id : Id
  propertyId : Id
  kind : PolicyKind
  name : String
  description : Option String := none
  hoursBefore : Option ℕ := none
  chargeKind : PolicyChargeKind := .NONE
  /-- Basis points for PERCENT; paise for FIXED. -/
  value : ℕ := 0
  isDefault : Bool := false
  isActive : Bool := true
  createdAt : ℤ := 0
  updatedAt : ℤ := 0
  deletedAt : Option ℤ := none
  deriving DecidableEq

structure ConfigDb where
  policies : Table PropertyPolicy.id := ∅

instance : Inhabited ConfigDb := ⟨{}⟩

/-- What a statement reads. -/
inductive ConfigLook where
  | policy (id : Id)
  /-- The rows of a kind that an `UPDATE` finds. -/
  | ofKind (propertyId : Id) (kind : PolicyKind)
  | policies (propertyId : Id)
  deriving DecidableEq

inductive ConfigErr where
  | policyNotFound
  /-- SQLSTATE 23505. -/
  | uniqueViolation
  | internal (message : String)

instance : Faults ConfigErr := ⟨.internal⟩

/-- A method of the service; a row that is written is locked by its id. -/
abbrev ConfigOp := Prog ConfigDb Id ConfigLook ConfigErr

abbrev ConfigTrace := List (Obs ConfigDb ConfigLook)

structure PolicyInputDto where
  kind : PolicyKind
  name : String
  description : Option String := none
  hoursBefore : Option ℕ := none
  chargeKind : Option PolicyChargeKind := none
  value : Option ℕ := none
  isDefault : Option Bool := none
  isActive : Option Bool := none

/-- A field that is absent is left alone; the hours may be cleared. -/
structure UpdatePolicyDto where
  name : Option String := none
  description : Option String := none
  hoursBefore : Option (Option ℕ) := none
  chargeKind : Option PolicyChargeKind := none
  value : Option ℕ := none
  isDefault : Option Bool := none
  isActive : Option Bool := none

namespace PropertyConfigService

/-! ## Reading -/

/-- By kind, then by name. -/
def listedBefore (p q : PropertyPolicy) : Prop :=
  p.kind.rank < q.kind.rank ∨ p.kind.rank = q.kind.rank ∧ p.name ≤ q.name

instance : DecidableRel listedBefore := fun p q =>
  inferInstanceAs (Decidable (_ ∨ _))

variable (propertyId : Id)

/-- The live policies of the property, in order. -/
def policiesOf (db : ConfigDb) : List PropertyPolicy :=
  (db.policies.rows.filter fun p => p.propertyId = propertyId && p.deletedAt.isNone).insertionSort
    listedBefore

theorem mem_policiesOf {propertyId : Id} {db : ConfigDb} {p : PropertyPolicy} :
    p ∈ policiesOf propertyId db ↔
      p ∈ db.policies ∧ p.propertyId = propertyId ∧ p.deletedAt = none := by
  simp [policiesOf, List.mem_insertionSort, mem_rows]

def listPolicies : ConfigOp (List PropertyPolicy) :=
  select (.policies propertyId) (policiesOf propertyId)

variable (kind : PolicyKind)

/-- The first active default of the kind. -/
def defaultOf (db : ConfigDb) : Option PropertyPolicy :=
  (policiesOf propertyId db).find? fun p => p.kind = kind && p.isActive && p.isDefault

/-- The default active policy of one kind, if the hotel set one. -/
def defaultPolicy : ConfigOp (Option PropertyPolicy) := do
  let rows ← listPolicies propertyId
  return rows.find? fun p => p.kind = kind && p.isActive && p.isDefault

variable (id : Id)

/-- The live policy of the property. -/
def policyOf (db : ConfigDb) : Option PropertyPolicy :=
  (db.policies.find? id).filter fun p => p.propertyId = propertyId && p.deletedAt.isNone

theorem policyOf_eq_some {propertyId id : Id} {db : ConfigDb} {p : PropertyPolicy} :
    policyOf propertyId id db = some p ↔
      p ∈ db.policies ∧ p.id = id ∧ p.propertyId = propertyId ∧ p.deletedAt = none := by
  unfold policyOf
  rw [Option.filter_eq_some_iff, find?_eq_some, and_assoc]
  simp

def requirePolicy : ConfigOp PropertyPolicy := do
  let row ← select (.policy id) (policyOf propertyId id)
  orThrow row .policyNotFound

/-! ## Writing -/

def isOfKind (p : PropertyPolicy) : Bool :=
  p.propertyId = propertyId && p.kind = kind

/-- The rows of the kind. -/
def kindIds (db : ConfigDb) : List Id :=
  (db.policies.rows.filter (isOfKind propertyId kind)).map (·.id)

/-- The rows that were found lose the mark, if they still are of the kind. -/
def demote (ids : List Id) (db : ConfigDb) : ConfigDb :=
  let policies := db.policies.update (fun p => ids.contains p.id && isOfKind propertyId kind p)
    fun p => { p with isDefault := false }
  { db with policies }

/-- `UPDATE property_policies SET is_default = false WHERE property_id AND kind`: it finds the rows
of its snapshot, and tests each again once it has the lock. -/
def demoteDefaults : ConfigOp Unit := do
  let ids ← select (.ofKind propertyId kind) (kindIds propertyId kind)
  write (fun _ => ids) (demote propertyId kind ids) fun _ => ()

/-- The row `createPolicy` inserts. -/
def newPolicy (dto : PolicyInputDto) (id : Id) (now : ℤ) : PropertyPolicy where
  id
  propertyId
  kind := dto.kind
  name := dto.name
  description := dto.description
  hoursBefore := dto.hoursBefore
  chargeKind := dto.chargeKind.getD .NONE
  value := dto.value.getD 0
  isDefault := dto.isDefault.getD false
  isActive := dto.isActive.getD true
  createdAt := now
  updatedAt := now

def insertPolicy (row : PropertyPolicy) (db : ConfigDb) : Except ConfigErr ConfigDb :=
  if db.policies.hasKey row.id then .error .uniqueViolation
  else .ok { db with policies := db.policies.insert row }

/-- A new policy, whose id is drawn by the database. -/
def createPolicy (dto : PolicyInputDto) (id : Id) (now : ℤ) :
    ConfigOp PropertyPolicy :=
  transaction do
    -- one default per kind: a new default demotes the old one in the same transaction
    when (dto.isDefault = some true) (demoteDefaults propertyId dto.kind)
    writeChecked (fun _ => [id]) (insertPolicy (newPolicy propertyId dto id now)) fun _ =>
      newPolicy propertyId dto id now

/-- The columns an edit sets. -/
def patched (dto : UpdatePolicyDto) (now : ℤ) (p : PropertyPolicy) : PropertyPolicy :=
  { p with
    name := dto.name.getD p.name
    description := dto.description.or p.description
    hoursBefore := dto.hoursBefore.getD p.hoursBefore
    chargeKind := dto.chargeKind.getD p.chargeKind
    value := dto.value.getD p.value
    isDefault := dto.isDefault.getD p.isDefault
    isActive := dto.isActive.getD p.isActive
    updatedAt := now }

/-- `UPDATE property_policies SET … WHERE id = …`. -/
def setPolicy (f : PropertyPolicy → PropertyPolicy) (hf : ∀ p, (f p).id = p.id) (db : ConfigDb) :
    ConfigDb :=
  { db with policies := db.policies.update (fun p => p.id = id) f hf }

def updatePolicy (dto : UpdatePolicyDto) (now : ℤ) :
    ConfigOp (Option PropertyPolicy) := do
  let before ← requirePolicy propertyId id
  transaction do
    when (dto.isDefault = some true) (demoteDefaults propertyId before.kind)
    write (fun _ => [id]) (setPolicy id (patched dto now) fun _ => rfl) fun db =>
      (db.policies.find? id).map (patched dto now)

def deleted (now : ℤ) (p : PropertyPolicy) : PropertyPolicy := { p with deletedAt := some now }

def deletePolicy (now : ℤ) : ConfigOp Id := do
  let _ ← requirePolicy propertyId id
  write (fun _ => [id]) (setPolicy id (deleted now) fun _ => rfl) fun _ => ()
  return id

end PropertyConfigService

end Travelo.PropertyConfig
