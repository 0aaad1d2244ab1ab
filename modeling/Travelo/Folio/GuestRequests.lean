import Travelo.BookingEngine
import Travelo.Export
import Travelo.Folio.Balance
import Travelo.Folio.Lines

/-!
# Add-ons a guest asks for

`GuestJourneyService.requestServices`. Every pick is posted on its own, under a source id made of two
uuids and the clock. The column of source ids is a uuid, and PostgreSQL reads a text as one in every
statement that carries it, so the first pick of an add-on on sale ends the request.
-/

namespace Travelo

open ReadCommitted

/-! ## Texts of uuids -/

def hexDigit (c : Char) : Option ℕ := "0123456789abcdef".toList.idxOf? c.toLower

/-- The number in two digits a byte; a hyphen may follow every second byte but the last. -/
def uuidBytes : ℕ → ℕ → List Char → Option (ℕ × List Char)
  | 0, v, s => some (v, s)
  | n + 1, v, hi :: lo :: s =>
    match hexDigit hi, hexDigit lo with
    | some h, some l =>
      uuidBytes n (256 * v + 16 * h + l)
        (if n % 2 = 0 ∧ 0 < n ∧ s.head? = some '-' then s.tail else s)
    | _, _ => none
  | _, _, _ => none

/-- PostgreSQL's input of a uuid. -/
def uuidIn (s : String) : Option Id :=
  match s.toList with
  | '{' :: s => (uuidBytes 16 0 s).bind fun (v, rest) => if rest = ['}'] then some v else none
  | s => (uuidBytes 16 0 s).bind fun (v, rest) => if rest = [] then some v else none

example : uuidIn (Export.uuidText 1000) = some 1000 := by decide +kernel

theorem colon_mem_of_uuidBytes {n v w : ℕ} {s rest : List Char}
    (h : uuidBytes n v s = some (w, rest)) (hs : ':' ∈ s) : ':' ∈ rest := by
  induction n generalizing v s with
  | zero =>
    cases h
    exact hs
  | succ n ih =>
    match s, h with
    | hi :: lo :: s, h =>
      unfold uuidBytes at h
      split at h
      next x l hx hl =>
        have hcolon : hexDigit ':' = none := by decide
        refine ih h ?_
        have hmem : ':' ∈ s := by
          rcases List.mem_cons.mp hs with rfl | hs
          · rw [hcolon] at hx
            cases hx
          · rcases List.mem_cons.mp hs with rfl | hs
            · rw [hcolon] at hl
              cases hl
            · exact hs
        split
        next hhyphen =>
          obtain ⟨t, rfl⟩ := List.head?_eq_some_iff.mp hhyphen.2.2
          exact (List.mem_cons.mp hmem).resolve_left (by decide)
        · exact hmem
      · cases h

theorem uuidIn_colon {s : String} (h : ':' ∈ s.toList) : uuidIn s = none := by
  have hnone {s : List Char} {end' : List Char} (hs : ':' ∈ s) (hend : ':' ∉ end') :
      ((uuidBytes 16 0 s).bind fun (v, rest) => if rest = end' then some v else none) = none := by
    refine Option.bind_eq_none_iff.mpr fun (v, rest) hread => if_neg fun hrest => hend ?_
    exact hrest ▸ colon_mem_of_uuidBytes hread hs
  unfold uuidIn
  split
  next s heq =>
    rw [heq] at h
    exact hnone ((List.mem_cons.mp h).resolve_left (by decide)) (by decide)
  · exact hnone h (by decide)

/-! ## The request -/

namespace GuestJourneyService

structure Pick where
  id : Id
  quantity : Option ℤ := none

structure Requested where
  posted : ℕ
  totalPaise : ℤ
  balancePaise : ℤ

/-- The clock and the ids that the database draws, for each pick. -/
structure Readings where
  now : ℤ
  clock : ℕ → ℤ
  lineId : ℕ → Id

variable (token : String) (now : ℤ) (db : HotelDb)

def liveLink : Option GuestLink :=
  db.guestLinks.rows.find? fun l => l.tokenHash = token && now < l.expiresAt

def liveStay (link : GuestLink) (db : HotelDb) : Option Reservation :=
  (db.reservations.find? link.reservationId).filter fun r => r.deletedAt.isNone

/-- The stay of a live link. -/
def resolve : Op Reservation := do
  let found ← select (.link token) (liveLink token now)
  let link ← orThrow found .linkNotFound
  let stay ← select (.reservation link.reservationId) (liveStay link)
  let r ← orThrow stay .linkNotFound
  when link.openedAt.isNone <| write (fun _ => [.guestLink link.id])
    (fun db => { db with
      guestLinks := db.guestLinks.update (fun l => l.id = link.id)
        fun l => { l with openedAt := some now } })
    fun _ => ()
  return r

/-- The add-on a pick names, if it is on sale. -/
def offered (addons : List AddonService) (pick : Pick) : Option AddonService :=
  addons.find? fun x => x.id = pick.id && x.isActive && x.sellOnline

variable (r : Reservation)

def nightsOf : ℤ := max 1 (nightsBetween r.checkIn r.checkOut)

def guestsOf : ℤ := max 1 (r.guest.adults + r.guest.children)

def unitsOf : AddonUnit → ℤ
  | .PER_NIGHT => nightsOf r
  | .PER_GUEST => guestsOf r
  | .PER_GUEST_NIGHT => nightsOf r * guestsOf r
  | .PER_STAY => 1

def quantityOf (pick : Pick) : ℤ := max 1 (min 50 (pick.quantity.getD 1))

def sourceId (a : AddonService) (clock : ℤ) : String :=
  Export.uuidText r.id ++ ":" ++ Export.uuidText a.id ++ ":" ++ toString clock

/-- `postCharge` with a source id that is a text. -/
def postSourced (input : PostChargeInput) (sourceId : String) (id : Id) (now : ℤ) :
    Op (Option FolioLineItem) :=
  match uuidIn sourceId with
  | none => throw (.internal "invalid input syntax for type uuid")
  | some source => FolioService.postCharge { input with sourceId := some source } id now

/-- Post the picks from the `k`-th on and count them. -/
def postPicks (r : Reservation) (addons : List AddonService) (at' : Readings) :
    ℕ → List Pick → Op ℕ
  | _, [] => return 0
  | k, pick :: picks =>
    match offered addons pick with
    | none => postPicks r addons at' (k + 1) picks
    | some a => do
      let qty := quantityOf pick
      let _ ← postSourced
        { reservationId := r.id
          propertyId := r.propertyId
          kind := .MISC
          description := a.name ++ " (requested by guest)"
          amountPaise := a.pricePaise * unitsOf r a.unit * qty
          quantity := some qty
          taxCategory := some a.taxCategory
          hsnCode := a.hsnCode
          sourceType := some "GUEST_ADDON" }
        (sourceId r a (at'.clock k)) (at'.lineId k) (at'.clock k)
      let posted ← postPicks r addons at' (k + 1) picks
      return posted + 1

def requestServices (picks : List Pick) (at' : Readings) : Op Requested := do
  let r ← resolve token at'.now
  let addons ← PropertyConfigService.listAddons r.propertyId
  let posted ← postPicks r addons at' 0 picks
  let s ← FolioService.summary r.id
  return { posted, totalPaise := s.chargesPaise, balancePaise := s.balancePaise }

/-! ## What is charged -/

/-- The picks that name an add-on on sale, with it. -/
def named (addons : List AddonService) (picks : List Pick) : List (Pick × AddonService) :=
  picks.filterMap fun pick => (offered addons pick).map (pick, ·)

/-- A line for a pick: price × units × the quantity asked for, on the stay's folio. -/
def IsCharge (request : Pick × AddonService) (line : FolioLineItem) : Prop :=
  line.reservationId = r.id ∧ line.amountPaise =
    request.2.pricePaise * unitsOf r request.2.unit * request.1.quantity.getD 1

/-- What a stay's folio is made of, other stays' included. -/
def SameFolio (db' : HotelDb) : Prop :=
  db'.folioLineItems = db.folioLineItems ∧ db'.folioPayments = db.folioPayments ∧
    db'.reservations = db.reservations

/-- The folio's charges before tax. -/
def pretax (db : HotelDb) : ℤ :=
  Folio.roomCharge r.id db + Folio.ancillary r.id db

theorem eval_postPicks (addons : List AddonService) (at' : Readings) (picks : List Pick) (k : ℕ)
    (db : HotelDb) :
    (named addons picks = [] ∧
      (postPicks r addons at' k picks).eval .idle db = (.ok 0, .idle, db)) ∨
    ∃ e, (postPicks r addons at' k picks).eval .idle db = (.error e, .idle, db) := by
  induction picks generalizing k with
  | nil => exact .inl ⟨rfl, rfl⟩
  | cons pick picks ih =>
    unfold postPicks
    cases ho : offered addons pick with
    | none =>
      rcases ih (k + 1) with ⟨hnone, heval⟩ | herr
      · left
        refine ⟨?_, heval⟩
        rw [named, List.filterMap_cons, ho]
        exact hnone
      · exact .inr herr
    | some a =>
      -- the first statement of the posting carries the source id
      right
      have hcolon : uuidIn (sourceId r a (at'.clock k)) = none := by
        refine uuidIn_colon ?_
        simp [sourceId]
      simp only [postSourced, hcolon, eval_bind, Prog.eval_throw]
      exact ⟨_, rfl⟩

theorem eval_resolve :
    (∃ e, (resolve token now).eval .idle db = (.error e, .idle, db)) ∨
    ∃ r db', (liveLink token now db).bind (liveStay · db) = some r ∧
      (resolve token now).eval .idle db = (.ok r, .idle, db') ∧ SameFolio db db' ∧
      db'.addonServices = db.addonServices := by
  simp only [resolve, eval_simps]
  cases hlink : liveLink token now db with
  | none => exact .inl ⟨_, rfl⟩
  | some link =>
    cases hstay : liveStay link db with
    | none =>
      left
      simp only [Option.elim_some, eval_select_idle, hstay]
      exact ⟨_, rfl⟩
    | some r =>
      right
      simp only [Option.elim_some, eval_select_idle, hstay, eval_when]
      by_cases hopen : link.openedAt.isNone
      · rw [if_pos hopen]
        exact ⟨r, _, hstay, rfl, ⟨rfl, rfl, rfl⟩, rfl⟩
      · rw [if_neg hopen]
        exact ⟨r, _, hstay, rfl, ⟨rfl, rfl, rfl⟩, rfl⟩

/-- A request fails and leaves the folio as it was, or it posts one charge for each pick of an
add-on on sale, counts them, and raises the charges before tax by their sum. -/
theorem requestServices_charges (token : String) (picks : List Pick) (at' : Readings)
    (db : HotelDb) :
    (∃ e t db', (requestServices token picks at').eval .idle db = (.error e, t, db') ∧
      SameFolio db db') ∨
    ∃ r res t db' lines, (requestServices token picks at').eval .idle db = (.ok res, t, db') ∧
      (liveLink token at'.now db).bind (liveStay · db) = some r ∧
      List.Forall₂ (IsCharge r) (named (db.addonServices.rows.filter fun a =>
        a.propertyId = r.propertyId && a.deletedAt.isNone) picks) lines ∧
      db'.folioLineItems.rows = db.folioLineItems.rows ++ lines ∧
      res.posted = lines.length ∧
      pretax r db' = pretax r db + (lines.map (·.amountPaise)).sum := by
  simp only [requestServices, eval_bind]
  rcases eval_resolve token at'.now db with ⟨e, he⟩ | ⟨r, db', hr, hresolve, hsame, haddons⟩
  · left
    rw [he]
    exact ⟨e, _, db, rfl, rfl, rfl, rfl⟩
  · simp only [hresolve, PropertyConfigService.listAddons, eval_select_idle]
    rcases eval_postPicks r (db'.addonServices.rows.filter fun a =>
      a.propertyId = r.propertyId && a.deletedAt.isNone) at' picks 0 db' with
      ⟨hnone, heval⟩ | ⟨e, he⟩
    · right
      obtain ⟨s, hs, -⟩ := FolioService.eval_summary db' r.id
      rw [haddons] at hnone
      simp only [heval, hs, eval_pure, hr]
      refine ⟨r, _, _, db', [], rfl, rfl, ?_, ?_, rfl, ?_⟩
      · rw [hnone]
        exact .nil
      · rw [hsame.1, List.append_nil]
      · unfold pretax Folio.roomCharge Folio.ancillary Folio.stay Folio.liveLines
        rw [hsame.1, hsame.2.2]
        simp
    · left
      simp only [he]
      exact ⟨e, _, db', rfl, hsame⟩

end GuestJourneyService

end Travelo
