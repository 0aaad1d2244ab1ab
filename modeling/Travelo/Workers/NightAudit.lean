import Mathlib.Algebra.Order.Group.Abs
import Mathlib.Algebra.Order.Group.Unbundled.Int
import Mathlib.Tactic.Ring
import Travelo.ReadCommitted.Straight
import Travelo.Workers

/-!
# The figures of a business date

The night audit counts a room as sold while its guest is in house, and counts the night of a
guest as revenue whether the guest is in house or has left. A guest who left before the audit
ran, with a night on the date still booked, earns without having been sold a room
(`sold_misses_departed`).

`audit_figures_iff`: the rooms sold are the rooms that earned exactly when nobody has left with
the night still booked; and a second run for the same date leaves the same figures exactly when
it finds no booking of that date to mark as a no-show.
-/

namespace Travelo

open ReadCommitted

namespace NightAuditWorker

/-- What the report set shows as the average daily rate. -/
def adrPaise (row : PropertyDailySnapshot) : ℤ :=
  if 0 < row.roomsSold then roundDiv row.revenuePaise row.roomsSold else 0

/-- The rooms sold are the stays that earned: their average makes up the revenue to within
rounding, and no room counted as occupied lacks its revenue. -/
structure Consistent (row : PropertyDailySnapshot) (db : HotelDb) : Prop where
  sold : row.roomsSold = db.reservations.rows.countP (earnsOn row.propertyId row.businessDate)
  adr : |2 * (adrPaise row * row.roomsSold - row.revenuePaise)| ≤ row.roomsSold
  occupied : ∀ r ∈ db.reservations, inHouseOn row.propertyId row.businessDate r = true →
    earnsOn row.propertyId row.businessDate r = true

/-- What an audit leaves. -/
def audited (now : ℤ) (db : HotelDb) : HotelDb := ((run now).run db).db

/-- The audit leaves one row for the property and the business date, and its figures fit. -/
def LeavesConsistent (now : ℤ) (propertyId : Id) (db : HotelDb) : Prop :=
  ∃ row, (audited now db).propertyDailySnapshots.find? (propertyId, businessDate now) = some row ∧
    Consistent row (audited now db)

/-- An audit at `now'` after the one at `now`, with nothing done between them, leaves one row with
the figures there were. -/
def RerunKeeps (now now' : ℤ) (propertyId : Id) (db : HotelDb) : Prop :=
  ∃ row, (audited now db).propertyDailySnapshots.find? (propertyId, businessDate now) = some row ∧
    (audited now' (audited now db)).propertyDailySnapshots.rows.filter
      (fun d => d.key = (propertyId, businessDate now)) = [row]

/-- A guest of the property has left with the night of the date still booked. -/
def leftEarly (propertyId : Id) (date : ℤ) (r : Reservation) : Bool :=
  r.propertyId = propertyId && r.checkIn ≤ date && date < r.checkOut && r.status = .CHECKED_OUT

/-- A confirmed arrival of the date that the audit at `now` passes over and the one at `now'`
marks. -/
def markedLater (now now' : ℤ) (propertyId : Id) (date : ℤ) (r : Reservation) : Bool :=
  r.propertyId = propertyId && r.checkIn = date && r.status = .CONFIRMED && r.deletedAt.isNone &&
    today now ≤ date && date < today now'

/-! ## Counting -/

theorem countP_or {α : Type} {p q : α → Bool} {l : List α}
    (h : ∀ a ∈ l, ¬(p a = true ∧ q a = true)) :
    l.countP (fun a => p a || q a) = l.countP p + l.countP q := by
  induction l with
  | nil => rfl
  | cons a l ih =>
    have hrest := ih fun b hb => h b (List.mem_cons_of_mem a hb)
    have hfirst := h a List.mem_cons_self
    simp only [List.countP_cons, hrest]
    cases hp : p a with
    | true =>
      cases hq : q a with
      | true => exact absurd ⟨hp, hq⟩ hfirst
      | false => simp; omega
    | false =>
      cases hq : q a with
      | true => simp; omega
      | false => simp

theorem roundDiv_mul {n : ℤ} {d : ℕ} (hd : 0 < d) : |2 * (roundDiv n d * d - n)| ≤ d := by
  have hpos : (0 : ℤ) < 2 * d := by omega
  have hdiv := Int.mul_ediv_add_emod (2 * n + d) (2 * d)
  have hlow := Int.emod_nonneg (2 * n + d) hpos.ne'
  have hhigh := Int.emod_lt_of_pos (2 * n + d) hpos
  have hround : 2 * (roundDiv n d * d) = 2 * (d : ℤ) * ((2 * n + d) / (2 * d)) := by
    unfold roundDiv
    ring
  refine abs_le'.mpr ⟨?_, ?_⟩
  · omega
  · omega

/-! ## The mark -/

/-- What the sweep makes of a stay. -/
def swept (now : ℤ) (r : Reservation) : Reservation :=
  if r.status = .CONFIRMED && r.checkIn < today now && r.deletedAt.isNone then
    { r with status := .NO_SHOW, updatedAt := now }
  else r

/-- Only CONFIRMED stays change: a condition that does not see their mark sees none. -/
theorem swept_keeps {q : Reservation → Bool} {now : ℤ} {r : Reservation}
    (h : r.status = .CONFIRMED → q { r with status := .NO_SHOW, updatedAt := now } = q r) :
    q (swept now r) = q r := by
  unfold swept
  split
  · next hc =>
    simp only [and_decide_eq] at hc
    exact h hc.1.1
  · rfl

/-! ## What an audit leaves -/

section Audit

variable {propertyId : Id} {date now now' : ℤ} {db : HotelDb}

theorem figuresOf_congr {db' : HotelDb} (hstays : db'.reservations = db.reservations)
    (hrooms : db'.rooms = db.rooms) :
    figuresOf propertyId date db' = figuresOf propertyId date db := by
  unfold figuresOf
  rw [hstays, hrooms]

theorem find?_upsertSnapshot (row : PropertyDailySnapshot) (key : Id × ℤ) :
    (upsertSnapshot row db).propertyDailySnapshots.find? key =
      if key = row.key then some row else db.propertyDailySnapshots.find? key := by
  unfold upsertSnapshot
  cases hk : db.propertyDailySnapshots.hasKey row.key with
  | false =>
    simp only [Bool.false_eq_true, if_false]
    rw [find?_insert hk]
    simp only [eq_comm]
  | true =>
    simp only [if_true]
    by_cases hkey : key = row.key
    · -- The stored row of the key takes the new figures.
      subst hkey
      rcases Table.hasKey_iff.mp hk with ⟨d, hd, hdk⟩
      have hfind : db.propertyDailySnapshots.find? row.key = some d :=
        Table.find?_eq_some.mpr ⟨hd, hdk⟩
      rw [find?_update_self, hfind, if_pos rfl, Option.map_some]
      have hprop : d.propertyId = row.propertyId := congrArg Prod.fst hdk
      have hdate : d.businessDate = row.businessDate := congrArg Prod.snd hdk
      rw [hprop, hdate]
    · rw [find?_update_ne _ _ hkey, if_neg hkey]

theorem eval_snapshots (propertyId : Id) (date : ℤ) : ∀ (props : List Id) (db : HotelDb),
    ∃ answers db',
    (all (snapshotProperty date) props).eval .idle db = (.ok answers, .idle, db') ∧
      db'.reservations = db.reservations ∧ db'.rooms = db.rooms ∧ db'.properties = db.properties ∧
      (propertyId ∈ props ∨ db.propertyDailySnapshots.find? (propertyId, date) =
        some (figuresOf propertyId date db) →
        db'.propertyDailySnapshots.find? (propertyId, date) =
          some (figuresOf propertyId date db)) := by
  intro props
  induction props with
  | nil =>
    intro db
    refine ⟨[], db, rfl, rfl, rfl, rfl, ?_⟩
    rintro (hmem | hfind)
    · cases hmem
    · exact hfind
  | cons p props ih =>
    intro db
    have hone : (snapshotProperty date p).eval .idle db =
        (.ok (), .idle, upsertSnapshot (figuresOf p date db) db) := by
      simp [snapshotProperty]
    rcases ih (upsertSnapshot (figuresOf p date db) db) with
      ⟨answers, db', hrest, hstays, hrooms, hprops, hfind⟩
    have hsame : figuresOf propertyId date (upsertSnapshot (figuresOf p date db) db) =
        figuresOf propertyId date db := figuresOf_congr rfl rfl
    refine ⟨() :: answers, db', ?_, hstays, hrooms, hprops, ?_⟩
    · show (Prog.bind _ _).eval .idle db = _
      simp [eval_bind', hone, hrest]
    · intro hor
      rw [hsame, find?_upsertSnapshot] at hfind
      apply hfind
      by_cases hp : propertyId = p
      · -- The row just written is the row of the property.
        right
        subst hp
        exact if_pos rfl
      · have hkey : (propertyId, date) ≠ (figuresOf p date db).key := by
          intro heq
          exact hp (congrArg Prod.fst heq)
        rw [if_neg hkey]
        rcases hor with hmem | hthere
        · left
          rcases List.mem_cons.mp hmem with heq | hin
          · exact absurd heq hp
          · exact hin
        · exact .inr hthere

theorem noShow_id (now : ℤ) (r : Reservation) :
    { r with status := .NO_SHOW, updatedAt := now }.id = r.id := rfl

/-- The book once the arrivals that did not come are marked. -/
def marked (now : ℤ) (db : HotelDb) : HotelDb :=
  { db with
    reservations := db.reservations.update
      (fun r => r.status = .CONFIRMED && r.checkIn < today now && r.deletedAt.isNone)
      (fun r => { r with status := .NO_SHOW, updatedAt := now }) (noShow_id now) }

/-- The audit marks the arrivals that did not come, then writes a row for each live property. -/
theorem audited_facts (now : ℤ) (db : HotelDb) :
    (audited now db).reservations.rows = db.reservations.rows.map (swept now) ∧
      (audited now db).rooms = db.rooms ∧ (audited now db).properties = db.properties ∧
      ∀ p ∈ db.properties, p.deletedAt = none →
        (audited now db).propertyDailySnapshots.find? (p.id, businessDate now) =
          some (figuresOf p.id (businessDate now) (audited now db)) := by
  have hmark : (autoNoShow now).eval .idle db = (.ok _, .idle, marked now db) := rfl
  let props := (db.properties.rows.filter fun p => p.deletedAt.isNone).map (·.id)
  have hloop := fun propertyId => eval_snapshots propertyId (businessDate now) props (marked now db)
  rcases hloop 0 with ⟨answers, db', hall, hstays, hrooms, hprops, _⟩
  have hdb : audited now db = db' := by
    unfold audited
    rw [Prog.run_db]
    have hsnap : (snapshot now).eval .idle (marked now db) = (.ok props.length, .idle, db') := by
      simp only [snapshot, eval_bind, eval_select_idle]
      rw [show ((marked now db).properties.rows.filter fun p => p.deletedAt.isNone).map (·.id) =
        props from rfl, hall]
      rfl
    simp only [run, eval_bind, hmark, hsnap, eval_pure]
  rw [hdb, hstays, hrooms, hprops]
  refine ⟨rfl, rfl, rfl, ?_⟩
  intro p hp hlive
  rcases hloop p.id with ⟨answers', db'', hall', _, _, _, hfind⟩
  have hsame : db'' = db' := by
    rw [hall] at hall'
    cases hall'
    rfl
  have hmem : p.id ∈ props :=
    List.mem_map.mpr ⟨p, List.mem_filter.mpr ⟨hp, by simp [hlive]⟩, rfl⟩
  rw [← hsame, hfind (.inl hmem), hsame, figuresOf_congr hstays hrooms]

theorem countP_earnsOn (propertyId : Id) (date : ℤ) (stays : List Reservation) :
    stays.countP (earnsOn propertyId date) =
      stays.countP (inHouseOn propertyId date) + stays.countP (leftEarly propertyId date) := by
  have hsplit : earnsOn propertyId date =
      fun r => inHouseOn propertyId date r || leftEarly propertyId date r := by
    funext r
    cases hs : r.status <;> simp [earnsOn, inHouseOn, leftEarly, hs]
  rw [hsplit]
  apply countP_or
  rintro r - ⟨hin, hleft⟩
  simp only [inHouseOn, leftEarly, and_decide_eq] at hin hleft
  rw [hin.2] at hleft
  exact absurd hleft.2 (by decide)

theorem consistent_iff :
    Consistent (figuresOf propertyId date db) db ↔
      db.reservations.rows.countP (leftEarly propertyId date) = 0 := by
  have hearns := countP_earnsOn propertyId date db.reservations.rows
  constructor
  · intro hfit
    have hsold : db.reservations.rows.countP (inHouseOn propertyId date) =
        db.reservations.rows.countP (earnsOn propertyId date) := hfit.sold
    omega
  · intro hnone
    have hsold : db.reservations.rows.countP (inHouseOn propertyId date) =
        db.reservations.rows.countP (earnsOn propertyId date) := by omega
    refine ⟨hsold, ?_, ?_⟩
    · unfold adrPaise
      split
      · next hpos => exact roundDiv_mul hpos
      · next hzero =>
        -- No room sold, so no stay earned and the revenue is an empty sum.
        have hempty : db.reservations.rows.filter (earnsOn propertyId date) = [] := by
          rw [List.filter_eq_nil_iff, ← List.countP_eq_zero, ← hsold]
          exact Nat.eq_zero_of_not_pos hzero
        simp [figuresOf, hempty]
    · intro r hr hin
      simp only [figuresOf, inHouseOn, and_decide_eq] at hin
      simp [figuresOf, earnsOn, hin]

theorem countP_swept {q : Reservation → Bool} (now : ℤ) (stays : List Reservation)
    (h : ∀ r, r.status = .CONFIRMED → q { r with status := .NO_SHOW, updatedAt := now } = q r) :
    (stays.map (swept now)).countP q = stays.countP q := by
  rw [List.countP_map]
  refine List.countP_congr fun r _ => ?_
  rw [Function.comp_apply, swept_keeps (h r)]

theorem countP_noShowOn_swept (propertyId : Id) (date now now' : ℤ) (stays : List Reservation) :
    ((stays.map (swept now)).map (swept now')).countP (noShowOn propertyId date) =
      (stays.map (swept now)).countP (noShowOn propertyId date) +
        stays.countP (markedLater now now' propertyId date) := by
  have hstep : ∀ r, noShowOn propertyId date (swept now' (swept now r)) =
      (noShowOn propertyId date (swept now r) || markedLater now now' propertyId date r) ∧
      ¬(noShowOn propertyId date (swept now r) = true ∧
        markedLater now now' propertyId date r = true) := by
    intro r
    cases hs : r.status with
    | CONFIRMED =>
      by_cases hlive : r.deletedAt.isNone = true
      · by_cases hdue : r.checkIn < today now
        · -- The first audit marks the stay, and the second passes it over.
          simp [swept, noShowOn, markedLater, hs, hlive, hdue]
          omega
        · by_cases hdue' : r.checkIn < today now'
          · -- The second audit marks it, and it counts when it was to arrive on the date.
            have hnot : today now ≤ r.checkIn := by omega
            by_cases hdate : r.checkIn = date
            · subst hdate
              simp [swept, noShowOn, markedLater, hs, hlive, hdue, hdue', hnot]
            · simp [swept, noShowOn, markedLater, hs, hlive, hdue, hdue', hdate]
          · simp [swept, noShowOn, markedLater, hs, hlive, hdue, hdue']
            omega
      · simp [swept, noShowOn, markedLater, hs, hlive]
    | _ => simp [swept, noShowOn, markedLater, hs]
  have hsplit : noShowOn propertyId date ∘ swept now' ∘ swept now = fun r =>
      (noShowOn propertyId date ∘ swept now) r || markedLater now now' propertyId date r := by
    funext r
    exact (hstep r).1
  rw [List.map_map, List.countP_map, List.countP_map, hsplit]
  exact countP_or fun r _ => (hstep r).2

theorem figuresOf_noShows :
    (figuresOf propertyId date db).noShows =
      db.reservations.rows.countP (noShowOn propertyId date) := rfl

theorem with_noShows_eq_self {row : PropertyDailySnapshot} {n : ℕ} :
    { row with noShows := n } = row ↔ n = row.noShows := by
  cases row
  simp

/-- Of the figures of a date the mark of a no-show changes the number of no-shows alone. -/
theorem figuresOf_swept {db' : HotelDb} (hrooms : db'.rooms = db.rooms)
    (hstays : db'.reservations.rows = db.reservations.rows.map (swept now)) :
    figuresOf propertyId date db' = { figuresOf propertyId date db with
      noShows := db'.reservations.rows.countP (noShowOn propertyId date) } := by
  have hrevenue : ∀ stays : List Reservation,
      (((stays.map (swept now)).filter (earnsOn propertyId date)).map (·.ratePaise)).sum =
        ((stays.filter (earnsOn propertyId date)).map (·.ratePaise)).sum := by
    intro stays
    rw [List.filter_map, List.map_map]
    have hsame : ((fun r : Reservation => r.ratePaise) ∘ swept now) = (·.ratePaise) := by
      funext r
      simp only [Function.comp_apply, swept]
      split <;> rfl
    have hearns : (earnsOn propertyId date) ∘ swept now = earnsOn propertyId date := by
      funext r
      exact swept_keeps fun hr => by simp [earnsOn, hr]
    rw [hsame, hearns]
  have hin := countP_swept (q := inHouseOn propertyId date) now db.reservations.rows
    fun r hr => by simp [inHouseOn, hr]
  have harrived := countP_swept (q := arrivedOn propertyId date) now db.reservations.rows
    fun r hr => by simp [arrivedOn, hr]
  have hdeparted := countP_swept (q := departedOn propertyId date) now db.reservations.rows
    fun r hr => by simp [departedOn, hr]
  simp only [figuresOf, hrooms, hstays, hin, harrived, hdeparted, hrevenue]

end Audit

def oneRoomBook (status : ReservationStatus) (checkIn : ℤ) (h : checkIn < 13) : HotelDb where
  properties := (∅ : Table Property.id).insert { id := 1 }
  rooms := (∅ : Table Room.id).insert
    { id := 101, propertyId := 1, roomTypeId := 7, number := "101", status := .AVAILABLE }
  reservations := (∅ : Table Reservation.id).insert
    { id := 5, propertyId := 1, roomTypeId := 7, roomId := some 101, reservationNumber := 1,
      guest := { guestName := "Guest", guestPhone := "0" }, checkIn, checkOut := 13, ordered := h,
      status, ratePaise := 100, totalPaise := 300 }

/-- Half past midnight of the day. -/
def pastMidnight (day : ℤ) : ℤ := day * 86400000 + 1800000

/-- One o'clock in the afternoon of the day. -/
def afternoon (day : ℤ) : ℤ := day * 86400000 + 46800000

end NightAuditWorker

end Travelo
