import Mathlib.Logic.Function.Basic
import Travelo.ReadCommitted.Solo
import Travelo.Restaurant.Orders

/-!
# Tables and their orders

The status of a table is a second copy of what its orders say: each call on an order sets it
without a look at the other orders of the table. The floor is the abstract state: the table and
the status of each order, and the status of each table. A call that runs alone takes one step
on the floor or none, whichever of its statements fail.

`floor_follows`: a table has one open order at most. A billed party may stay while the next
orders; as long as nobody settles or cancels while another order of the table is to be settled,
the table is OCCUPIED while one is open and BILLED while all are billed.
-/

namespace Travelo

open ReadCommitted OrdersService
open SameFloor (refl trans)
open TablesService (setTable withStatus withStatus_id requireTable)

/-! ## The floor -/

/-- The table and the status of each order, and the status of each table. -/
@[ext] structure Floor where
  orders : Id → Option (Option Id × RestaurantOrderStatus)
  tables : Id → Option RestaurantTableStatus

/-- Neither PAID nor CANCELLED. -/
def Unsettled (status : RestaurantOrderStatus) : Prop := status = .OPEN ∨ status = .BILLED

instance (status : RestaurantOrderStatus) : Decidable (Unsettled status) :=
  inferInstanceAs (Decidable (_ ∨ _))

namespace Floor

/-- An order gets a status, and its table another. -/
def turn (f : Floor) (id : Id) (table : Option Id) (status : RestaurantOrderStatus)
    (shown : RestaurantTableStatus) : Floor where
  orders := Function.update f.orders id (some (table, status))
  tables t := if table = some t then (f.tables t).map fun _ => shown else f.tables t

/-- What a call does on the floor. -/
inductive Step (f : Floor) : Floor → Prop where
  | stay : Step f f
  | seat {id table} (hnew : f.orders id = none)
      (hone : ∀ t, table = some t → ∀ i, f.orders i ≠ some (some t, .OPEN)) :
      Step f (f.turn id table .OPEN .OCCUPIED)
  | bill {id table} (h : f.orders id = some (table, .OPEN)) :
      Step f (f.turn id table .BILLED .BILLED)
  | leave {id table status status'} (h : f.orders id = some (table, status))
      (hfrom : Unsettled status) (hto : ¬Unsettled status') : Step f (f.turn id table status' .OPEN)

/-- A table has one open order at most. -/
def OneOpen (f : Floor) : Prop :=
  ∀ t i j, f.orders i = some (some t, .OPEN) → f.orders j = some (some t, .OPEN) → i = j

/-- The table is OCCUPIED while one of its orders is open, and BILLED while they are billed. -/
structure Shows (f : Floor) (t : Id) : Prop where
  occupied : ∀ s, f.tables t = some s → ∀ i, f.orders i = some (some t, .OPEN) → s = .OCCUPIED
  billed : ∀ s, f.tables t = some s → (∀ i, f.orders i ≠ some (some t, .OPEN)) →
    ∀ i, f.orders i = some (some t, .BILLED) → s = .BILLED

/-- No order of the table is settled or cancelled while another is to be settled. -/
def LeaveAlone (t : Id) (f f' : Floor) : Prop :=
  ∀ i s s', f.orders i = some (some t, s) → Unsettled s → f'.orders i = some (some t, s') →
    ¬Unsettled s' → ∀ j s'', j ≠ i → f.orders j = some (some t, s'') → ¬Unsettled s''

theorem Step.of_eq {f f' g : Floor} (h : f' = g) (hstep : Step f g) : Step f f' := h ▸ hstep

variable {f f' : Floor} {t id i : Id} {table : Option Id} {status : RestaurantOrderStatus}
  {shown : RestaurantTableStatus}

theorem turn_self : (f.turn id table status shown).orders id = some (table, status) :=
  Function.update_self ..

theorem turn_ne (h : i ≠ id) : (f.turn id table status shown).orders i = f.orders i :=
  Function.update_of_ne h ..

theorem turn_orders {table' : Option Id} {status' : RestaurantOrderStatus}
    (h : (f.turn id table status shown).orders i = some (table', status')) :
    (i = id ∧ table' = table ∧ status' = status) ∨ (i ≠ id ∧ f.orders i = some (table', status')) := by
  by_cases hid : i = id
  · rw [hid, turn_self] at h
    obtain ⟨rfl, rfl⟩ : table = table' ∧ status = status' := by simpa using h
    exact .inl ⟨hid, rfl, rfl⟩
  · rw [turn_ne hid] at h
    exact .inr ⟨hid, h⟩

theorem Step.oneOpen (h : Step f f') (hone : f.OneOpen) : f'.OneOpen := by
  -- an order that is turned to another status takes no place
  have hother : ∀ {id table status shown}, status ≠ .OPEN →
      (f.turn id table status shown).OneOpen := by
    intro id table status shown hopen t i j hi hj
    rcases turn_orders hi with ⟨-, -, heq⟩ | ⟨-, hi⟩
    · exact absurd heq.symm hopen
    · rcases turn_orders hj with ⟨-, -, heq⟩ | ⟨-, hj⟩
      · exact absurd heq.symm hopen
      · exact hone t i j hi hj
  cases h with
  | stay => exact hone
  | @seat id table hnew hfree =>
    intro t i j hi hj
    rcases turn_orders hi with ⟨hid, htable, -⟩ | ⟨-, hi⟩
    · rcases turn_orders hj with ⟨hid', -, -⟩ | ⟨-, hj⟩
      · exact hid.trans hid'.symm
      · exact absurd hj (hfree t htable.symm j)
    · rcases turn_orders hj with ⟨-, htable, -⟩ | ⟨-, hj⟩
      · exact absurd hi (hfree t htable.symm i)
      · exact hone t i j hi hj
  | bill h => exact hother (by decide)
  | leave h hfrom hto => exact hother (fun heq => hto (.inl heq))

theorem Shows.turn_other (hf : f.Shows t) (htable : table ≠ some t)
    (hbefore : ∀ s, f.orders id ≠ some (some t, s)) :
    (f.turn id table status shown).Shows t := by
  have horders : ∀ i s, (f.turn id table status shown).orders i = some (some t, s) ↔
      f.orders i = some (some t, s) := by
    intro i s
    constructor
    · intro h
      rcases turn_orders h with ⟨-, heq, -⟩ | ⟨-, h⟩
      · exact absurd heq.symm htable
      · exact h
    · intro h
      have hne : i ≠ id := by
        rintro rfl
        exact hbefore s h
      rw [turn_ne hne, h]
  have htables : (f.turn id table status shown).tables t = f.tables t := if_neg htable
  constructor
  · intro s hs i hi
    exact hf.occupied s (htables ▸ hs) i ((horders i _).mp hi)
  · intro s hs hno i hi
    refine hf.billed s (htables ▸ hs) (fun j hj => hno j ((horders j _).mpr hj)) i ?_
    exact (horders i _).mp hi

theorem Step.shows (h : Step f f') (hone : f.OneOpen) (hf : f.Shows t)
    (halone : LeaveAlone t f f') : f'.Shows t := by
  have hshown : ∀ {id status shown s}, (f.turn id (some t) status shown).tables t = some s →
      s = shown := by
    intro id status shown s hs
    obtain ⟨-, -, rfl⟩ := Option.map_eq_some_iff.mp ((if_pos rfl).symm.trans hs)
    rfl
  have hplace : ∀ {id table status}, f.orders id = some (table, status) → table ≠ some t →
      ∀ s, f.orders id ≠ some (some t, s) := by
    intro id table status h hne s hs
    rw [h] at hs
    exact hne (congrArg Prod.fst (Option.some.inj hs))
  cases h with
  | stay => exact hf
  | @seat id table hnew hfree =>
    by_cases htable : table = some t
    · subst htable
      constructor
      · intro s hs i _
        exact hshown hs
      · intro s _ hno
        exact absurd turn_self (hno id)
    · exact hf.turn_other htable fun s hs => by simp [hnew] at hs
  | @bill id table h =>
    by_cases htable : table = some t
    · subst htable
      constructor
      · -- the open order of the table was this one
        intro s _ i hi
        rcases turn_orders hi with ⟨-, -, heq⟩ | ⟨hne, hi⟩
        · cases heq
        · exact absurd (hone t i id hi h) hne
      · intro s hs _ i _
        exact hshown hs
    · exact hf.turn_other htable (hplace h htable)
  | @leave id table status status' h hfrom hto =>
    by_cases htable : table = some t
    · subst htable
      -- nobody else is to settle at this table
      have hnobody := halone id status status' h hfrom turn_self hto
      have hgone : ∀ i s, (f.turn id (some t) status' .OPEN).orders i = some (some t, s) →
          ¬Unsettled s := by
        intro i s hi
        rcases turn_orders hi with ⟨-, -, rfl⟩ | ⟨hne, hi⟩
        · exact hto
        · exact hnobody i s hne hi
      exact ⟨fun s _ i hi => absurd (.inl rfl) (hgone i _ hi),
        fun s _ _ i hi => absurd (.inr rfl) (hgone i _ hi)⟩
    · exact hf.turn_other htable (hplace h htable)

end Floor

/-! ## The floor of a state -/

def floorOf (db : HotelDb) : Floor where
  orders id := (db.restaurantOrders.find? id).map fun o => (o.tableId, o.status)
  tables id := (db.restaurantTables.find? id).map (·.status)

section FloorOf

variable {db db' : HotelDb} {id : Id} {o : RestaurantOrder}

theorem floorOf_some (h : db.restaurantOrders.find? id = some o) :
    (floorOf db).orders id = some (o.tableId, o.status) := by
  show (db.restaurantOrders.find? id).map _ = _
  rw [h]
  rfl

theorem SameFloor.floorOf (h : SameFloor db db') : floorOf db' = floorOf db := by
  unfold Travelo.floorOf
  rw [h.book.orders, h.tables]

theorem find?_setTable_self (id : Id) (f : RestaurantTable → RestaurantTable)
    (hf : ∀ t, (f t).id = t.id) (db : HotelDb) :
    (setTable id f hf db).restaurantTables.find? id =
      (db.restaurantTables.find? id).map f :=
  find?_update_self f hf id

theorem find?_setTable_ne {id' : Id} (h : id' ≠ id) (f : RestaurantTable → RestaurantTable)
    (hf : ∀ t, (f t).id = t.id) (db : HotelDb) :
    (setTable id f hf db).restaurantTables.find? id' =
      db.restaurantTables.find? id' :=
  find?_update_ne f hf h

/-- Set the status of a table, if there is one. -/
def tableSet (table : Option Id) (status : RestaurantTableStatus) (now : ℤ) (db : HotelDb) :
    HotelDb :=
  match table with
  | some t => setTable t (withStatus status now)
    (withStatus_id status now) db
  | none => db

theorem floorOf_turn {table : Option Id} {status : RestaurantOrderStatus}
    {shown : RestaurantTableStatus} (now : ℤ) {s : HotelDb}
    (horders : (floorOf s).orders =
      Function.update (floorOf db).orders id (some (table, status)))
    (htables : (floorOf s).tables = (floorOf db).tables) :
    floorOf (tableSet table shown now s) = (floorOf db).turn id table status shown := by
  cases table with
  | none =>
    refine Floor.ext horders (htables.trans ?_)
    funext t
    simp only [Floor.turn, reduceCtorEq, if_false]
  | some t =>
    refine Floor.ext horders ?_
    funext t'
    show ((setTable t (withStatus shown now)
      (withStatus_id shown now) s).restaurantTables.find? t').map _ =
        if some t = some t' then ((floorOf db).tables t').map _ else (floorOf db).tables t'
    rw [← htables]
    by_cases ht : t' = t
    · subst ht
      rw [find?_setTable_self, if_pos rfl, Option.map_map]
      show _ = ((s.restaurantTables.find? t').map _).map _
      rw [Option.map_map]
      rfl
    · rw [find?_setTable_ne ht, if_neg (fun heq => ht (Option.some.inj heq).symm)]
      rfl

theorem floorOf_setOrder (h : db.restaurantOrders.find? id = some o)
    {f : RestaurantOrder → RestaurantOrder} (hf : ∀ o, (f o).id = o.id) :
    (floorOf (setOrder id f hf db)).orders =
      Function.update (floorOf db).orders id (some ((f o).tableId, (f o).status)) := by
  funext i
  by_cases hi : i = id
  · subst hi
    show ((setOrder i f hf db).restaurantOrders.find? i).map _ = _
    rw [find?_setOrder_self, h, Function.update_self]
    rfl
  · show ((setOrder id f hf db).restaurantOrders.find? i).map _ = _
    rw [find?_setOrder_ne hi, Function.update_of_ne hi]
    rfl

end FloorOf

/-! ## One call -/

/-- A step on the floor leads from one state to another. -/
def Stepped (db s : HotelDb) : Prop := Floor.Step (floorOf db) (floorOf s)

/-- A call that runs alone takes a step on the floor. -/
def StepsFrom (db : HotelDb) (p : Op OrderDto) : Prop :=
  p.ends (fun _ _ s => Stepped db s) (fun _ _ s => Stepped db s) .idle db

section Calls

variable (env : RestaurantEnv) (propertyId orderId : Id) (db : HotelDb)

variable {P : RestaurantOrder → Tx HotelDb → HotelDb → Prop}

theorem ends_requireOrder
    (hP : ∀ o, db.restaurantOrders.find? orderId = some o → P o (.active id) db) :
    (requireOrder propertyId orderId).ends P (fun _ _ s => s = db) (.active id) db := by
  simp only [requireOrder, ends_simps]
  exact fun o ho => hP o (orderOf_some ho).1

theorem ends_setTableStatus {P : Unit → Tx HotelDb → HotelDb → Prop}
    {o : RestaurantOrder} {status : RestaurantTableStatus} {now : ℤ} {w : HotelDb → HotelDb}
    (hP : P () (.active (tableSet o.tableId status now ∘ w)) db) :
    (setTableStatus o status now).ends P (fun _ _ s => s = db) (.active w) db := by
  unfold setTableStatus
  rw [ends_forSome]
  refine ⟨fun t ht => ⟨?_, fun _ => rfl⟩, fun hnone => ?_⟩
  · rw [ht] at hP
    exact hP
  · rw [hnone] at hP
    exact hP

theorem bill_steps : StepsFrom db (bill env propertyId orderId) := by
  refine ends_transaction_of Floor.Step.stay ?_
  rw [ends_bind]
  refine ends_requireOrder propertyId orderId db fun o ho => ?_
  simp only [ends_simps, itemsFor, serviceChargeBp, updateOrder]
  intro _ hallowed _
  have hopen : o.status = .OPEN := by
    cases hs : o.status <;>
      simp [hs, assertOrderTransition, canTransitionOrder, ORDER_TRANSITIONS] at hallowed ⊢
  refine ends_setTableStatus db ?_
  refine (refreshed_keeps _ _).ends_rest (Q := Stepped db) refl trans .stay
    fun w' hw' => ?_
  refine .of_eq ((hw' db).floorOf.trans ?_) (.bill (h := (floorOf_some ho).trans (by rw [hopen])))
  exact floorOf_turn env.now (floorOf_setOrder ho (billed_id _ env.now)) rfl

theorem cancel_steps (reason : String) : StepsFrom db (cancel env propertyId orderId reason) := by
  refine ends_transaction_of Floor.Step.stay ?_
  rw [ends_bind]
  refine ends_requireOrder propertyId orderId db fun o ho => ?_
  simp only [ends_simps, itemsFor, updateOrder]
  intro _ hallowed _
  have hopen : o.status = .OPEN := by
    cases hs : o.status <;>
      simp [hs, assertOrderTransition, canTransitionOrder, ORDER_TRANSITIONS] at hallowed ⊢
  refine ends_setTableStatus db ?_
  refine (refreshed_keeps _ _).ends_rest (Q := Stepped db) refl trans .stay
    fun w' hw' => ?_
  have hleft : ¬Unsettled .CANCELLED := by decide
  refine .of_eq ((hw' db).floorOf.trans ?_) (.leave (floorOf_some ho) (.inl hopen) hleft)
  exact floorOf_turn env.now (floorOf_setOrder ho (cancelled_id reason env.now)) rfl

theorem floorOf_touched (now : ℤ) :
    floorOf (setOrder orderId (touched now) (touched_id now) db) = floorOf db := by
  refine Floor.ext ?_ rfl
  funext i
  show ((setOrder orderId (touched now) (touched_id now) db).restaurantOrders.find? i).map _ = _
  by_cases hi : i = orderId
  · subst hi
    rw [find?_setOrder_self, Option.map_map]
    rfl
  · rw [find?_setOrder_ne hi]
    rfl

theorem addItems_steps (items : List AddOrderItemDto) :
    StepsFrom db (addItems env propertyId orderId items) := by
  refine ends_transaction_of Floor.Step.stay ?_
  rw [ends_bind]
  refine ends_requireOrder propertyId orderId db fun o ho => ?_
  rw [ends_bind, ends_throwIf]
  refine ⟨fun _ => rfl, fun _ => ?_⟩
  refine Prog.Keeps.ends_rest (R := fun s s' => floorOf s' = floorOf s) (Q := Stepped db)
    (fun _ => rfl) (fun _ _ _ h h' => h'.trans h) ?_ .stay fun w' hw' => .of_eq (hw' db) .stay
  refine .bind (.select _ _) fun menu => .bind (.all (menuItemFor_keeps menu) _) fun resolved => ?_
  have hline : ∀ e, (addLine env orderId e).Keeps fun s s' => floorOf s' = floorOf s :=
    fun e => .write _ _ fun _ => rfl
  refine .bind (.all hline _) fun _ => ?_
  exact .bind (.write _ _ fun s => floorOf_touched orderId s env.now) fun _ => refreshed_keeps _ _

theorem settle_steps (dto : SettleOrderDto) (settledBy : Option Id) :
    StepsFrom db (settle env propertyId orderId dto settledBy) := by
  refine ends_transaction_of Floor.Step.stay ?_
  rw [ends_bind]
  refine ends_requireOrder propertyId orderId db fun o ho => ?_
  rw [ends_bind, ends_throwIf]
  refine ⟨fun _ => rfl, fun hnot => ?_⟩
  have hbilled : o.status = .BILLED := by simpa using hnot
  -- what follows the writes can be cut short by a statement that fails
  have hwhen : ∀ (c : Prop) [Decidable c], Prog.Keeps (fun _ _ => True) (do
      when c do
        depleteStock propertyId orderId settledBy env.now
        setTableStatus o .OPEN env.now
      refreshed propertyId orderId) := by
    intro c _
    refine .bind (.when _ ?_) fun _ => refreshed_keeps _ _
    refine .bind (depleteStock_keeps (fun _ _ _ => trivial) _ _ _ _) fun _ => ?_
    exact setTableStatus_keeps (fun _ _ => trivial) _ _ _
  refine (paymentOf_keeps propertyId o dto _).ends_then (R := fun s s' => s' = s) (Q := Stepped db)
    (fun _ => rfl) (fun _ _ _ h h' => h'.trans h) (fun p => ?_) .stay fun p w hw => ?_
  · refine .bind (.write _ _ fun _ => trivial) fun _ => .bind (.write _ _ fun _ => trivial) fun _ => ?_
    exact .bind ((postPayment_keeps _ _ _ _ _ _).mono fun _ _ _ => trivial) fun _ => hwhen _
  · obtain rfl : w = fun s => s := funext hw
    rw [ends_bind, ends_write_active]
    refine ⟨?_, fun _ => rfl⟩
    rw [ends_bind, updateOrder, ends_write_active]
    refine ⟨?_, fun _ => rfl⟩
    refine (postPayment_keeps _ _ _ _ _ _).ends_then refl trans
      (fun _ => hwhen _) (Q := Stepped db) .stay fun _ w hw => ?_
    have horders : ∀ status, (settledOrder o dto p (o.paidPaise + p.amount) settledBy env.now
        o).status = status → (floorOf (w db)).orders =
          Function.update (floorOf db).orders orderId (some (o.tableId, status)) := by
      intro status hstatus
      rw [(hw db).floorOf, ← hstatus]
      exact floorOf_setOrder ho
        (settledOrder_id o dto p (o.paidPaise + p.amount) settledBy env.now)
    by_cases hcovers : o.totalPaise ≤ o.paidPaise + p.amount
    · have hpaid := horders .PAID (if_pos hcovers)
      rw [when, if_pos hcovers, ends_bind, ends_bind]
      refine (depleteStock_keeps (R := SameFloor) (fun _ _ _ => ⟨rfl, rfl⟩) _ _ _ _).ends_active
        refl trans w
        (fun _ w' hw' => ?_) (fun _ => ?_) fun _ _ => rfl
      · refine ends_setTableStatus db ?_
        refine (refreshed_keeps _ _).ends_rest (Q := Stepped db) refl trans
          .stay fun w'' hw'' => ?_
        have hleft : ¬Unsettled .PAID := by decide
        refine .of_eq ((hw'' db).floorOf.trans ?_) (.leave (floorOf_some ho) (.inr hbilled) hleft)
        have hfloor : floorOf (w' db) = floorOf (w db) := (hw' db).floorOf
        refine floorOf_turn env.now (hfloor ▸ hpaid) ?_
        rw [hfloor, (hw db).floorOf]
        rfl
      · refine (setTableStatus_keeps (R := fun _ _ => True) (fun _ _ => trivial) _ _ _).ends_aborted
          (fun _ => ?_) fun _ => rfl
        exact (refreshed_keeps (R := fun _ _ => True) _ _).ends_aborted (fun _ => ⟨rfl, .stay⟩)
          fun _ => rfl
    · have hpart := horders .BILLED (if_neg hcovers)
      rw [when, if_neg hcovers]
      refine (refreshed_keeps _ _).ends_rest (Q := Stepped db) refl trans
        .stay fun w' hw' => ?_
      -- a part of a bill leaves it BILLED, and the table too
      refine .of_eq ((hw' db).floorOf.trans (Floor.ext ?_ ?_)) .stay
      · rw [hpart, ← hbilled, ← floorOf_some ho, Function.update_eq_self]
      · rw [(hw db).floorOf]
        rfl

theorem insertOrder_seats {row : RestaurantOrder} {s : HotelDb} (hopen : row.status = .OPEN)
    (hok : insertOrder row db = .ok s) (now : ℤ) :
    Stepped db (tableSet row.tableId .OCCUPIED now s) := by
  unfold insertOrder at hok
  cases htaken : orderTaken row db with
  | true => simp [htaken] at hok
  | false =>
    obtain rfl : _ = s := by simpa [htaken] using hok
    have hfree : ∀ o ∈ db.restaurantOrders, o.id ≠ row.id ∧
        (o.status = .OPEN → row.tableId.isSome → o.tableId ≠ row.tableId) := by
      intro o ho
      have hrow := List.any_eq_false.mp htaken o ho
      simp only [Bool.or_eq_true, and_decide_eq, not_or, not_and] at hrow
      exact ⟨hrow.1.1, fun hs hsome => hrow.2 ⟨⟨hopen, hs⟩, hsome⟩⟩
    have hnew : (floorOf db).orders row.id = none := by
      show (db.restaurantOrders.find? row.id).map _ = none
      cases hfind : db.restaurantOrders.find? row.id with
      | none => rfl
      | some o =>
        obtain ⟨ho, hid⟩ := Table.find?_eq_some.mp hfind
        exact absurd hid (hfree o ho).1
    have hone : ∀ t, row.tableId = some t → ∀ i, (floorOf db).orders i ≠ some (some t, .OPEN) := by
      intro t ht i hi
      obtain ⟨o, hfind, heq⟩ := Option.map_eq_some_iff.mp hi
      obtain ⟨htable, hstatus⟩ := Prod.mk.inj heq
      refine (hfree o (mem_of_find? hfind)).2 hstatus ?_ (htable.trans ht.symm)
      rw [ht]
      rfl
    refine .of_eq (@floorOf_turn db row.id row.tableId .OPEN .OCCUPIED now _ ?_ rfl)
      (.seat hnew hone)
    have hkey : db.restaurantOrders.hasKey row.id = false :=
      Table.hasKey_eq_false.mpr fun o ho => (hfree o ho).1
    funext i
    show ((db.restaurantOrders.insert row).find? i).map _ = _
    rw [find?_insert hkey]
    by_cases hi : row.id = i
    · subst hi
      rw [if_pos rfl, Function.update_self, ← hopen]
      rfl
    · rw [if_neg hi, Function.update_of_ne (Ne.symm hi)]
      rfl

variable {E : Err → Tx HotelDb → HotelDb → Prop}

theorem ends_checkTable {P : Unit → Tx HotelDb → HotelDb → Prop} {w : HotelDb → HotelDb}
    (hE : ∀ e t, E e t db) (hP : P () (.active w) db) (tableId : Option Id) :
    (forSome tableId (checkTable propertyId)).ends P E (.active w) db := by
  rw [ends_forSome]
  refine ⟨fun t _ => ?_, fun _ => hP⟩
  simp only [checkTable, requireTable, ends_simps, hE, hP]

theorem ends_createTx (dto : CreateOrderDto) (waiterStaffId : Option Id) (attempt : ℕ)
    (hE : ∀ e, E e .idle db) (hP : ∀ o s, Stepped db s → P o .idle s) :
    (createTx env propertyId dto waiterStaffId attempt).ends P E .idle db := by
  simp only [createTx, ends_simps, hE]
  refine ends_checkTable propertyId db (fun e _ => hE e) ?_ dto.tableId
  simp only [ends_simps, hE]
  intro s hok
  refine ends_mono (fun _ _ _ h => h) (fun e _ _ h => h ▸ hE e) _ _ _
    (ends_setTableStatus db ?_)
  refine ⟨hP _ _ ?_, fun m => hE (lost m)⟩
  show Stepped db (tableSet _ .OCCUPIED env.now (applied _ db))
  have hinsert := insertOrder_seats db rfl hok env.now
  unfold applied
  rw [show insertOrder _ db = .ok s from hok]
  exact hinsert

theorem create_steps (dto : CreateOrderDto) (waiterStaffId : Option Id) :
    StepsFrom db (create env propertyId dto waiterStaffId) := by
  have hattempts : ∀ left attempt,
      StepsFrom db (createFrom env propertyId dto waiterStaffId left attempt) := by
    intro left
    induction left with
    | zero => exact fun _ => Floor.Step.stay
    | succ left ih =>
      intro attempt
      have hbody : (createTx env propertyId dto waiterStaffId attempt >>= hydrate).ends
          (fun _ _ s => Stepped db s)
          (fun e t s => Stepped db s ∧ (e = .uniqueViolation → t = .idle ∧ s = db)) .idle db := by
        rw [ends_bind]
        refine ends_createTx env propertyId db dto waiterStaffId attempt
          (fun e => ⟨.stay, fun _ => ⟨rfl, rfl⟩⟩) fun o s hs => ?_
        -- reading the order back fails with no error that is retried
        have hread : ∀ m : String, Stepped db s ∧ ((lost m : Err) = .uniqueViolation →
            (Tx.idle : Tx HotelDb) = .idle ∧ s = db) := fun m => ⟨hs, fun h => by cases h⟩
        rw [hydrate, ends_bind, itemsFor, ends_select_idle]
        refine ⟨?_, hread⟩
        rw [ends_bind]
        cases o.tableId with
        | none => exact hs
        | some tableId => exact ⟨hs, hread⟩
      rw [StepsFrom, createFrom, ends_tryCatch]
      refine ends_mono (fun _ _ _ hP => hP) (fun e t s he => ?_) _ _ _ hbody
      rw [ends_ite]
      refine ⟨fun hretry => ?_, fun _ => he.1⟩
      obtain ⟨rfl, rfl⟩ := he.2 hretry.1
      exact ih (attempt + 1)
  exact hattempts NUMBER_ATTEMPTS 0

end Calls

/-- A call on the orders of a restaurant, with the clock and the uuids it is given. -/
inductive FloorCall where
  | create (propertyId : Id) (dto : CreateOrderDto) (waiterStaffId : Option Id) (now : ℤ)
      (uuid : ℕ → Id)
  | addItems (propertyId orderId : Id) (items : List AddOrderItemDto) (now : ℤ) (uuid : ℕ → Id)
  | bill (propertyId orderId : Id) (now : ℤ)
  | settle (propertyId orderId : Id) (dto : SettleOrderDto) (settledBy : Option Id) (now : ℤ)
      (uuid : ℕ → Id)
  | cancel (propertyId orderId : Id) (reason : String) (now : ℤ)

def FloorCall.prog (taxSetting : Option ℚ) : FloorCall → Op Unit
  | .create propertyId dto waiterStaffId now uuid => do
    let _ ← OrdersService.create { now, uuid, taxSetting } propertyId dto waiterStaffId
  | .addItems propertyId orderId items now uuid => do
    let _ ← OrdersService.addItems { now, uuid, taxSetting } propertyId orderId items
  | .bill propertyId orderId now => do
    let _ ← OrdersService.bill { now, taxSetting } propertyId orderId
  | .settle propertyId orderId dto settledBy now uuid => do
    let _ ← OrdersService.settle { now, uuid, taxSetting } propertyId orderId dto settledBy
  | .cancel propertyId orderId reason now => do
    let _ ← OrdersService.cancel { now, taxSetting } propertyId orderId reason

theorem FloorCall.stepped (taxSetting : Option ℚ) (call : FloorCall) (φ : ℕ → Option String)
    (db : HotelDb) : Stepped db ((call.prog taxSetting).runWith φ db).db := by
  have hdrop : ∀ {p : Op OrderDto}, StepsFrom db p →
      Stepped db ((p >>= fun _ => (pure () : Op Unit)).runWith φ db).db := by
    intro p hp
    refine ends_runWith ?_ φ
    rw [ends_bind]
    exact hp
  cases call with
  | create propertyId dto waiterStaffId now uuid => exact hdrop (create_steps _ propertyId db dto _)
  | addItems propertyId orderId items now uuid =>
    exact hdrop (addItems_steps _ propertyId orderId db items)
  | bill propertyId orderId now => exact hdrop (bill_steps _ propertyId orderId db)
  | settle propertyId orderId dto settledBy now uuid =>
    exact hdrop (settle_steps _ propertyId orderId db dto settledBy)
  | cancel propertyId orderId reason now => exact hdrop (cancel_steps _ propertyId orderId db reason)

/-! ## All calls -/

/-- A table has one open order at most. -/
def OneOpenOrder (db : HotelDb) : Prop :=
  ∀ o ∈ db.restaurantOrders, ∀ o' ∈ db.restaurantOrders, o.status = .OPEN → o'.status = .OPEN →
    o.tableId.isSome → o'.tableId = o.tableId → o.id = o'.id

/-- The table is OCCUPIED while one of its orders is open, and BILLED while those to be settled
are billed. -/
structure TableFollows (t : Id) (db : HotelDb) : Prop where
  occupied : ∀ row ∈ db.restaurantTables.find? t, ∀ o ∈ db.restaurantOrders, o.tableId = some t →
    o.status = .OPEN → row.status = .OCCUPIED
  billed : ∀ row ∈ db.restaurantTables.find? t,
    (∀ o ∈ db.restaurantOrders, o.tableId = some t → o.status ≠ .OPEN) →
      ∀ o ∈ db.restaurantOrders, o.tableId = some t → o.status = .BILLED → row.status = .BILLED

/-- No order of the table is paid or cancelled while another of them is to be settled. -/
def SettlesAlone (t : Id) (db db' : HotelDb) : Prop :=
  ∀ o ∈ db.restaurantOrders, ∀ o' ∈ db'.restaurantOrders, o'.id = o.id → o.tableId = some t →
    Unsettled o.status → ¬Unsettled o'.status →
      ∀ r ∈ db.restaurantOrders, r.id ≠ o.id → r.tableId = some t → ¬Unsettled r.status

instance (t : Id) (db db' : HotelDb) : Decidable (SettlesAlone t db db') :=
  inferInstanceAs (Decidable (∀ _ ∈ _, _))

section Rows

variable {db db' : HotelDb} {t i : Id} {table : Option Id} {status : RestaurantOrderStatus}

theorem floorOf_orders : (floorOf db).orders i = some (table, status) ↔
    ∃ o ∈ db.restaurantOrders, o.id = i ∧ o.tableId = table ∧ o.status = status := by
  constructor
  · intro h
    obtain ⟨o, hfind, heq⟩ := Option.map_eq_some_iff.mp h
    obtain ⟨ho, hid⟩ := Table.find?_eq_some.mp hfind
    obtain ⟨htable, hstatus⟩ := Prod.mk.inj heq
    exact ⟨o, ho, hid, htable, hstatus⟩
  · rintro ⟨o, ho, rfl, rfl, rfl⟩
    exact floorOf_some (find?_key ho)

theorem floorOf_tables {shown : RestaurantTableStatus} : (floorOf db).tables t = some shown ↔
    ∃ row ∈ db.restaurantTables.find? t, row.status = shown :=
  Option.map_eq_some_iff

theorem oneOpenOrder_of_floor (h : (floorOf db).OneOpen) : OneOpenOrder db := by
  intro o ho o' ho' hopen hopen' htable hsame
  obtain ⟨t, ht⟩ := Option.isSome_iff_exists.mp htable
  refine h t o.id o'.id (floorOf_orders.mpr ⟨o, ho, rfl, ht, hopen⟩) ?_
  exact floorOf_orders.mpr ⟨o', ho', rfl, hsame.trans ht, hopen'⟩

theorem tableFollows_of_floor (h : (floorOf db).Shows t) : TableFollows t db := by
  constructor
  · intro row hrow o ho htable hopen
    exact h.occupied row.status (floorOf_tables.mpr ⟨row, hrow, rfl⟩) o.id
      (floorOf_orders.mpr ⟨o, ho, rfl, htable, hopen⟩)
  · intro row hrow hno o ho htable hbilled
    refine h.billed row.status (floorOf_tables.mpr ⟨row, hrow, rfl⟩) (fun i hi => ?_) o.id
      (floorOf_orders.mpr ⟨o, ho, rfl, htable, hbilled⟩)
    obtain ⟨r, hr, -, hplace, hopen⟩ := floorOf_orders.mp hi
    exact hno r hr hplace hopen

theorem SettlesAlone.leaveAlone (h : SettlesAlone t db db') :
    Floor.LeaveAlone t (floorOf db) (floorOf db') := by
  intro i s s' hi hunsettled hi' hsettled j s'' hne hj
  obtain ⟨o, ho, hid, htable, rfl⟩ := floorOf_orders.mp hi
  obtain ⟨o', ho', hid', -, rfl⟩ := floorOf_orders.mp hi'
  obtain ⟨r, hr, hrid, hrtable, rfl⟩ := floorOf_orders.mp hj
  exact h o ho o' ho' (hid'.trans hid.symm) htable hunsettled hsettled r hr
    (fun heq => hne (hrid.symm.trans (heq.trans hid))) hrtable

end Rows

/-- Calls one after another, from no orders, whichever of their statements fail: after each of
them a table has one open order at most; and a table none of whose orders is paid or cancelled
while another is to be settled is OCCUPIED while one is open and BILLED while those to be settled
are billed. -/
theorem floor_follows (taxSetting : Option ℚ) (steps : List (FloorCall × (ℕ → Option String)))
    (db : HotelDb) (hnone : db.restaurantOrders.rows = []) :
    EachStep (FloorCall.prog taxSetting) (fun _ _ s => OneOpenOrder s) steps db ∧
      ∀ t, EachStep (FloorCall.prog taxSetting) (fun _ s s' => SettlesAlone t s s') steps db →
        EachStep (FloorCall.prog taxSetting) (fun _ _ s => TableFollows t s) steps db := by
  have hempty : ∀ i x, (floorOf db).orders i ≠ some x := by
    rintro i ⟨table, status⟩ hi
    obtain ⟨o, ho, -⟩ := floorOf_orders.mp hi
    rw [← mem_rows, hnone] at ho
    cases ho
  have hone : (floorOf db).OneOpen := fun t i j hi => absurd hi (hempty i _)
  constructor
  · refine EachStep.mono (I := fun s => (floorOf s).OneOpen) (fun call s φ hs _ => ?_) steps db
      (eachStep_true steps db) hone
    have hnext := (call.stepped taxSetting φ s).oneOpen hs
    exact ⟨oneOpenOrder_of_floor hnext, hnext⟩
  · intro t halone
    have hshows : (floorOf db).Shows t :=
      ⟨fun _ _ i hi => absurd hi (hempty i _), fun _ _ _ i hi => absurd hi (hempty i _)⟩
    refine EachStep.mono (I := fun s => (floorOf s).OneOpen ∧ (floorOf s).Shows t)
      (fun call s φ hs ha => ?_) steps db halone ⟨hone, hshows⟩
    have hstep := call.stepped taxSetting φ s
    have hnext := hstep.shows hs.1 hs.2 (SettlesAlone.leaveAlone ha)
    exact ⟨tableFollows_of_floor hnext, hstep.oneOpen hs.1, hnext⟩

/-! ## A table of two parties -/

/-- A free table, and a dish on the menu. -/
def emptyFloor : HotelDb :=
  { restaurantTables := ⟨[{ id := 1, propertyId := 1, name := "T1" }], by decide⟩
    menuItems := ⟨[{ id := 5, propertyId := 1, name := "Thali", pricePaise := 10000 }],
      by decide⟩ }

/-- A party of two is seated, and its order gets this id. -/
def seated (id : Id) : FloorCall := .create 1 { tableId := some 1, guestCount := 2 } none 0 (id + ·)

/-- It orders one dish. -/
def served (orderId : Id) : FloorCall :=
  .addItems 1 orderId tea 0 (orderId + ·)

/-- It pays by card. -/
def paid (orderId : Id) : FloorCall :=
  .settle 1 orderId { method := .CARD, positive := SettleOrderDto.whole } none 0 id

/-- A party is billed. -/
def upToBill : List (FloorCall × (ℕ → Option String)) :=
  [seated 10, served 10, .bill 1 10 0].map (·, noFaults)

/-- The next is seated before it has paid. -/
def overlapping : List (FloorCall × (ℕ → Option String)) :=
  upToBill ++ [seated 20, paid 10].map (·, noFaults)

/-- The next is seated once it has. -/
def inTurns : List (FloorCall × (ℕ → Option String)) :=
  upToBill ++ [paid 10, seated 20, served 20].map (·, noFaults)

/-- The orders of the restaurant and its tables. -/
def glance (db : HotelDb) :
    List (Id × RestaurantOrderStatus) × List (Id × RestaurantTableStatus) :=
  (db.restaurantOrders.rows.map fun o => (o.id, o.status),
    db.restaurantTables.rows.map fun t => (t.id, t.status))

/-- A table with an order that is to be settled is OCCUPIED. -/
def OccupiedUntilSettled (db : HotelDb) : Prop :=
  ∀ o ∈ db.restaurantOrders, Unsettled o.status → ∀ t ∈ o.tableId,
    ∀ row ∈ db.restaurantTables.find? t, row.status = .OCCUPIED

instance (db : HotelDb) : Decidable (OccupiedUntilSettled db) :=
  inferInstanceAs (Decidable (∀ _ ∈ _, _))

/-- A billed table is BILLED and not OCCUPIED; and it is free once the first of two parties has
paid. -/
theorem table_not_occupied :
    (glance (runAll (FloorCall.prog none) upToBill emptyFloor) =
        ([(10, .BILLED)], [(1, .BILLED)]) ∧
      ¬OccupiedUntilSettled (runAll (FloorCall.prog none) upToBill emptyFloor)) ∧
      glance (runAll (FloorCall.prog none) overlapping emptyFloor) =
        ([(10, .PAID), (20, .OPEN)], [(1, .OPEN)]) ∧
      ¬OccupiedUntilSettled (runAll (FloorCall.prog none) overlapping emptyFloor) := by
  refine ⟨⟨by decide, by decide⟩, by decide, by decide⟩

/-- One party after the other. -/
theorem floor_follows_in_turns :
    EachStep (FloorCall.prog none) (fun _ _ s => OneOpenOrder s) inTurns emptyFloor ∧
      EachStep (FloorCall.prog none) (fun _ _ s => TableFollows 1 s) inTurns emptyFloor :=
  have h := floor_follows none inTurns emptyFloor rfl
  ⟨h.1, h.2 1 (by decide)⟩

end Travelo
