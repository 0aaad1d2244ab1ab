import Travelo.Cash
import Travelo.ReadCommitted.Guarded
import Travelo.ReadCommitted.Wp

/-!
# Cash shifts

A shift is looked up in one statement and used in another: `openShift` inserts after it has
found none, `record` attaches its entry to the shift it has found, and `closeShift` stores
the sum it has taken. `shifts_add_up`: when what each of them has found still holds as it
writes, a member of staff has one open shift at most and every closed shift adds up.
-/

namespace Travelo

open ReadCommitted CashService

/-- A call of the cash tracker, with the uuid of a new shift and the clock. -/
inductive CashCall where
  | openShift (propertyId staffId : Id) (openingCashPaise : ℤ) (note : Option String) (id : Id)
      (now : ℤ)
  | record (e : CashMovement)
  | closeShift (propertyId staffId : Id) (declaredCashPaise : ℤ) (note : Option String) (now : ℤ)

def CashCall.prog : CashCall → Op Unit
  | .openShift propertyId staffId openingCashPaise note id now => do
    let _ ← CashService.openShift propertyId staffId openingCashPaise note id now
  | .record e => do let _ ← CashService.record e
  | .closeShift propertyId staffId declaredCashPaise note now => do
    let _ ← CashService.closeShift propertyId staffId declaredCashPaise note now

/-! ## Shifts that add up -/

/-- The entries attached to a shift. -/
def entriesOf (shiftId : Id) (db : HotelDb) : List CashEntry :=
  db.cashEntries.filter fun e => e.shiftId = some shiftId

/-- One open shift for each member of staff, and what closed shifts expect is their float and
the signed sum of their entries. -/
@[mk_iff] structure ShiftsAddUp (db : HotelDb) : Prop where
  one_open : ∀ s ∈ db.staffShifts, ∀ t ∈ db.staffShifts, s.closedAt = none → t.closedAt = none →
    s.propertyId = t.propertyId → s.staffId = t.staffId → s.id = t.id
  adds_up : ∀ s ∈ db.staffShifts, s.closedAt ≠ none → s.expectedCashPaise =
    some (s.openingCashPaise +
      ((entriesOf s.id db).map fun e => signed e.kind e.amountPaise).sum)

instance (db : HotelDb) : Decidable (ShiftsAddUp db) :=
  decidable_of_iff _ (shiftsAddUp_iff ..).symm

/-- What a call has found still holds as it writes: the staff member has no open shift, the
shift of the entry is open, the entries of the shift are those that were summed. -/
def StillHolds : CashCall → (HotelDb → HotelDb) → Trace → HotelDb → Prop
  | .openShift propertyId staffId _ _ _ _, _, _, now => openShiftOf propertyId staffId now = none
  | .record e, _, [.saw _ b], now =>
    ∀ s ∈ e.recordedBy.bind fun staffId => openShiftOf e.propertyId staffId b,
      ∀ t ∈ now.staffShifts.find? s.id, t.closedAt = none
  | .closeShift propertyId staffId _ _ _, _, [.saw _ b₂, .saw _ b₁], now =>
    ∀ s ∈ openShiftOf propertyId staffId b₁, entriesOf s.id now = entriesOf s.id b₂
  | _, _, _, _ => True

instance : ∀ call w h now, Decidable (StillHolds call w h now) := by
  intro call w h now
  unfold StillHolds
  split
  · exact decidable_of_iff _ Option.isNone_iff_eq_none
  · infer_instance
  · infer_instance
  · infer_instance

/-- Shifts stay, with their floats. -/
def FloatsKept (db db' : HotelDb) : Prop :=
  ∀ s ∈ db.staffShifts, ∃ s' ∈ db'.staffShifts, s'.id = s.id ∧
    s'.openingCashPaise = s.openingCashPaise

section Shifts

variable {db : HotelDb} {propertyId staffId shiftId : Id} {s : StaffShift}

theorem shiftSum_signed : shiftSum shiftId db =
    ((entriesOf shiftId db).map fun e => signed e.kind e.amountPaise).sum := by
  unfold shiftSum entriesOf
  congr 2
  funext e
  cases e.kind <;> rfl

theorem openShiftOf_some (h : openShiftOf propertyId staffId db = some s) :
    s ∈ db.staffShifts ∧ s.propertyId = propertyId ∧ s.staffId = staffId ∧ s.closedAt = none := by
  have hp := List.find?_some h
  simp only [and_decide_eq, Option.isNone_iff_eq_none] at hp
  exact ⟨List.mem_of_find?_eq_some h, hp.1.1, hp.1.2, hp.2⟩

theorem openShiftOf_none (h : openShiftOf propertyId staffId db = none) (hs : s ∈ db.staffShifts)
    (hp : s.propertyId = propertyId) (hst : s.staffId = staffId) : s.closedAt ≠ none := by
  intro hopen
  have hno := List.find?_eq_none.mp h s hs
  simp [hp, hst, hopen] at hno

theorem mem_setShift {f : StaffShift → StaffShift} {hf : ∀ s, (f s).id = s.id} :
    s ∈ (setShift shiftId f hf db).staffShifts ↔
      ∃ r ∈ db.staffShifts, s = if r.id = shiftId then f r else r := by
  show s ∈ db.staffShifts.update (fun s => s.id = shiftId) f hf ↔ _
  rw [mem_update]
  simp

theorem floatsKept_refl (db : HotelDb) : FloatsKept db db := fun s hs => ⟨s, hs, rfl, rfl⟩

theorem floatsKept_trans (db db' db'' : HotelDb) (h : FloatsKept db db')
    (h' : FloatsKept db' db'') : FloatsKept db db'' := by
  intro s hs
  obtain ⟨s', hs', hid, hfloat⟩ := h s hs
  obtain ⟨s'', hs'', hid', hfloat'⟩ := h' s' hs'
  exact ⟨s'', hs'', hid'.trans hid, hfloat'.trans hfloat⟩

end Shifts

/-! ## The three writes -/

section Writes

variable {db : HotelDb} {row shift : StaffShift}

theorem shiftsAddUp_insert (h : ShiftsAddUp db) (hopen : row.closedAt = none)
    (hnone : openShiftOf row.propertyId row.staffId db = none) :
    ShiftsAddUp { db with staffShifts := db.staffShifts.insert row } := by
  constructor
  · intro s hs t ht hso hto hprop hstaff
    rcases mem_or_eq_of_mem_insert hs with hold | heq
    · rcases mem_or_eq_of_mem_insert ht with hold' | heq'
      · exact h.one_open s hold t hold' hso hto hprop hstaff
      · subst heq'
        exact absurd hso (openShiftOf_none hnone hold hprop hstaff)
    · subst heq
      rcases mem_or_eq_of_mem_insert ht with hold' | heq'
      · exact absurd hto (openShiftOf_none hnone hold' hprop.symm hstaff.symm)
      · rw [heq']
  · intro s hs hclosed
    rcases mem_or_eq_of_mem_insert hs with hold | heq
    · exact h.adds_up s hold hclosed
    · exact absurd (heq ▸ hopen) hclosed

theorem shiftsAddUp_record (h : ShiftsAddUp db) (entry : CashEntry)
    (hopen : ∀ s ∈ db.staffShifts, entry.shiftId = some s.id → s.closedAt = none) :
    ShiftsAddUp { db with cashEntries := db.cashEntries ++ [entry] } := by
  refine ⟨h.one_open, fun s hs hclosed => ?_⟩
  have hother : entry.shiftId ≠ some s.id := fun heq => hclosed (hopen s hs heq)
  have hsame : entriesOf s.id { db with cashEntries := db.cashEntries ++ [entry] } =
      entriesOf s.id db := by
    simp [entriesOf, List.filter_append, hother]
  rw [hsame]
  exact h.adds_up s hs hclosed

theorem shiftsAddUp_close (h : ShiftsAddUp db) (declared : ℤ) (note : Option String) (now : ℤ)
    {expected : ℤ} (hexpected : ∀ s ∈ db.staffShifts, s.id = shift.id → expected =
      s.openingCashPaise + ((entriesOf s.id db).map fun e => signed e.kind e.amountPaise).sum) :
    ShiftsAddUp (setShift shift.id (closed declared expected note now) (fun _ => rfl) db) := by
  have hrow : ∀ s, s ∈ (setShift shift.id (closed declared expected note now) (fun _ => rfl)
      db).staffShifts → s ∈ db.staffShifts ∨
        ∃ r ∈ db.staffShifts, r.id = shift.id ∧ s = closed declared expected note now r := by
    intro s hs
    obtain ⟨r, hr, rfl⟩ := mem_setShift.mp hs
    by_cases hid : r.id = shift.id
    · exact .inr ⟨r, hr, hid, by rw [if_pos hid]⟩
    · rw [if_neg hid]
      exact .inl hr
  constructor
  · -- closing leaves no more shifts open
    intro s hs t ht hso hto hprop hstaff
    rcases hrow s hs with hs | ⟨r, -, -, rfl⟩
    · rcases hrow t ht with ht | ⟨r, -, -, rfl⟩
      · exact h.one_open s hs t ht hso hto hprop hstaff
      · simp [closed] at hto
    · simp [closed] at hso
  · intro s hs hclosed
    rcases hrow s hs with hs | ⟨r, hr, hid, rfl⟩
    · exact h.adds_up s hs hclosed
    · exact congrArg some (hexpected r hr hid)

theorem floatsKept_insert : FloatsKept db { db with staffShifts := db.staffShifts.insert row } :=
  fun s hs => ⟨s, mem_insert_of_mem hs, rfl, rfl⟩

theorem floatsKept_close (declared expected : ℤ) (note : Option String) (now : ℤ) :
    FloatsKept db (setShift shift.id (closed declared expected note now) (fun _ => rfl) db) := by
  intro s hs
  by_cases hid : s.id = shift.id
  · exact ⟨_, mem_setShift.mpr ⟨s, hs, (if_pos hid).symm⟩, rfl, rfl⟩
  · exact ⟨_, mem_setShift.mpr ⟨s, hs, (if_neg hid).symm⟩, rfl, rfl⟩

end Writes

/-! ## One call -/

/-- What a call publishes, and what it has read before. -/
inductive CashWrite : CashCall → Trace → (HotelDb → HotelDb) → Prop where
  | opened {propertyId staffId openingCashPaise note id now h} :
      CashWrite (.openShift propertyId staffId openingCashPaise note id now) h fun db =>
      { db with staffShifts := db.staffShifts.insert
                  (newShift propertyId staffId openingCashPaise note id now) }
  | loose {e h} : CashWrite (.record e) h fun db =>
      { db with cashEntries := db.cashEntries ++ [newEntry e none] }
  | attached {e staffId l b} (hby : e.recordedBy = some staffId) :
    CashWrite (.record e) [.saw l b] fun db => { db with cashEntries := db.cashEntries ++
      [newEntry e ((openShiftOf e.propertyId staffId b).map (·.id))] }
  | closed {propertyId staffId declared note now shift note' l₁ l₂ b₁ b₂}
      (hfound : openShiftOf propertyId staffId b₁ = some shift) :
    CashWrite (.closeShift propertyId staffId declared note now) [.saw l₂ b₂, .saw l₁ b₁]
      (setShift shift.id (closed declared (shift.openingCashPaise + shiftSum shift.id b₂) note'
        now) fun _ => rfl)

theorem CashCall.wp_prog (call : CashCall) :
    call.prog.wp (CashWrite call) (fun _ _ _ => True) (fun _ _ _ => True) [] .idle := by
  cases call with
  | openShift propertyId staffId openingCashPaise note id now =>
    simp only [prog, CashService.openShift, openShiftFor, wp_simps]
    exact fun b _ => .opened
  | record e =>
    simp only [prog, CashService.record, wp_simps]
    intro _
    cases hby : e.recordedBy with
    | none =>
      simp only [shiftOf, wp_simps, Option.map_none]
      exact .loose
    | some staffId =>
      simp only [shiftOf, openShiftFor, wp_simps]
      exact fun b => .attached hby
  | closeShift propertyId staffId declared note now =>
    simp only [prog, CashService.closeShift, openShiftFor, wp_simps]
    exact fun b₁ shift hfound b₂ => .closed hfound

theorem CashWrite.keeps {call : CashCall} {h : Trace} {w : HotelDb → HotelDb} {now : HotelDb}
    (hw : CashWrite call h w) (hseen : ∀ l b, .saw l b ∈ h → ShiftsAddUp b ∧ FloatsKept b now)
    (hg : StillHolds call w h now) (hnow : ShiftsAddUp now) :
    ShiftsAddUp (w now) ∧ FloatsKept now (w now) := by
  cases hw with
  | opened => exact ⟨shiftsAddUp_insert hnow rfl hg, floatsKept_insert⟩
  | loose => exact ⟨shiftsAddUp_record hnow _ (fun s _ heq => by cases heq), floatsKept_refl now⟩
  | @attached e staffId l b hby =>
    refine ⟨shiftsAddUp_record hnow _ fun s hs heq => ?_, floatsKept_refl now⟩
    obtain ⟨shift, hfound, hid⟩ := Option.map_eq_some_iff.mp heq
    have hopen := hg shift (by simp [hby, hfound]) s
    rw [hid] at hopen
    exact hopen (find?_key hs)
  | @closed propertyId staffId declared note time shift note' l₁ l₂ b₁ b₂ hfound =>
    refine ⟨shiftsAddUp_close hnow declared note' time fun s hs hid => ?_, floatsKept_close _ _ _ _⟩
    -- the float is the one that was read, and the entries are the ones that were summed
    obtain ⟨s', hs', hid', hfloat⟩ :=
      (hseen l₁ b₁ (by simp)).2 shift (openShiftOf_some hfound).1
    obtain rfl : s' = s := eq_of_key_eq hs' hs (hid'.trans hid.symm)
    have hentries := hg shift hfound
    rw [hfloat, shiftSum_signed, ← hentries, hid]

/-! ## All calls -/

/-- In every interleaving in which what each call has found still holds as it writes, each
member of staff has one open shift at most and every closed shift adds up. -/
theorem shifts_add_up (calls : List CashCall) (db : HotelDb) (hdb : ShiftsAddUp db)
    (evs : List Event) (c : Config HotelDb RowKey Look Err Unit)
    (hrun : (Config.start db (calls.map CashCall.prog)).run evs = some c)
    (hholds : (Config.start db (calls.map CashCall.prog)).Throughout
      (GuardedCalls calls StillHolds) evs) : ShiftsAddUp c.db :=
  Config.calls_invariant (fun call => call.wp_prog) floatsKept_refl floatsKept_trans
    (fun _ _ _ _ hw hseen hg hnow => hw.keeps hseen hg hnow) hdb evs hholds hrun

/-! ## An entry after the sum -/

/-- The shift of member of staff 7, opened with ₹50. -/
def morningShift : HotelDb :=
  { staffShifts := ⟨[{ id := 1, propertyId := 1, staffId := 7, openingCashPaise := 5000 }],
      by decide⟩ }

/-- ₹20 is taken in while the shift is closed with ₹50 in the drawer. -/
def takingAndClosing : List CashCall :=
  [.record { propertyId := 1, kind := .CASH_IN, amountPaise := 2000, recordedBy := some 7 },
    .closeShift 1 7 5000 none 0]

/-- The entry has found the shift, and is inserted once the shift is closed. -/
def enteredLate : List Event := [.step 0, .step 1, .step 1, .step 1, .step 0]

/-- The shift is summed after the entry is in. -/
def enteredInTime : List Event := [.step 0, .step 1, .step 0, .step 1, .step 1]

/-- Two calls open a shift for one member of staff. -/
def openingTwice : List CashCall := [.openShift 1 7 5000 none 1 0, .openShift 1 7 5000 none 2 0]

/-- Both have found no shift. -/
def openedTogether : List Event := [.step 0, .step 1, .step 0, .step 1]

/-- The closed shift expects ₹50 and has an entry of ₹20; two shifts of one member of staff
are open. -/
theorem shift_does_not_add_up :
    (ShiftsAddUp morningShift ∧
      ∃ c, (Config.start morningShift (takingAndClosing.map CashCall.prog)).run enteredLate =
          some c ∧
        c.db.staffShifts.rows.map (·.expectedCashPaise) = [some 5000] ∧
        (entriesOf 1 c.db).map (·.amountPaise) = [2000] ∧ ¬ShiftsAddUp c.db) ∧
      ShiftsAddUp {} ∧
      ∃ c, (Config.start ({} : HotelDb) (openingTwice.map CashCall.prog)).run openedTogether =
          some c ∧
        c.db.staffShifts.rows.map (·.closedAt) = [none, none] ∧ ¬ShiftsAddUp c.db :=
  ⟨⟨by decide, _, rfl, by decide, by decide, by decide⟩, by decide, _, rfl, by decide, by decide⟩

/-- Entered in time, the shift expects ₹70. -/
theorem shift_adds_up :
    ∃ c, (Config.start morningShift (takingAndClosing.map CashCall.prog)).run enteredInTime =
        some c ∧
      c.db.staffShifts.rows.map (·.expectedCashPaise) = [some 7000] ∧ ShiftsAddUp c.db :=
  ⟨_, rfl, by decide,
    shifts_add_up takingAndClosing morningShift (by decide) enteredInTime _ rfl (by decide)⟩

end Travelo
