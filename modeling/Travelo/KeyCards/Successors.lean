import Travelo.KeyCards.Numbers
import Travelo.ReadCommitted.Recorded

/-!
# Cards and their successors

A card is killed by an update that does not look at its status, and a replacement kills one card
and cuts another in two statements. `cards_exact`: the numbers are exact whatever happens; a status
is final while a kill finds its card active or as it leaves it; a replacement is exact while it
kills a card that is active, and harmless when it fails while it does not fail after the kill.
-/

namespace Travelo.KeyCards

open ReadCommitted KeyCardsService
open CardCall (prog)

/-! ## The laws -/

/-- How many active cards the property has. -/
def activeCards (propertyId : Id) (db : KeyDb) : ℕ :=
  db.keyCards.rows.countP fun k => k.propertyId = propertyId && k.status = .ACTIVE

/-- How many cards there are. -/
def allCards (db : KeyDb) : ℕ := db.keyCards.rows.length

/-- The card is active. -/
def ActiveCard (id : Id) (db : KeyDb) : Prop := ∃ k ∈ db.keyCards, k.id = id ∧ k.status = .ACTIVE

/-- A card that is lost or deactivated stays so. -/
def StatusFinal (db db' : KeyDb) : Prop :=
  ∀ k ∈ db.keyCards, k.status ≠ .ACTIVE → ∃ k' ∈ db'.keyCards, k'.id = k.id ∧ k'.status = k.status

abbrev CardConfig := Config KeyDb Id KeyLook KeyErr KeyCardDto

/-- `P` holds after every schedule of calls, some of which may fail, whose events satisfy `Q`. -/
def Always (Q : List CardCall → CardConfig → Event → Prop)
    (P : List CardCall → CardConfig → List (Change KeyDb) → Prop) : Prop :=
  ∀ (offset : ℤ → ℤ) (calls : List CardCall) (db : KeyDb) (evs : List Event) (c : CardConfig),
    (∀ p, Numbered p db) →
    (Config.start db (calls.map (prog offset))).Throughout (Q calls) evs →
    (Config.start db (calls.map (prog offset))).run evs = some c →
      P calls c ((Config.start db (calls.map (prog offset))).history evs)

/-- Nothing revives a card, or changes why it died. -/
def Final (_ : List CardCall) (_ : CardConfig) (hist : List (Change KeyDb)) : Prop :=
  ∀ d ∈ hist, StatusFinal d.before d.after

/-- A replacement that succeeds leaves as many active cards as before. -/
def Even (calls : List CardCall) (c : CardConfig) (hist : List (Change KeyDb)) : Prop :=
  ∀ (i : ℕ) p id now s a, calls[i]? = some (.replace p id now) → c.sessions[i]? = some s →
    s.prog = .ret a → ∀ q, net (fun db => activeCards q db) i hist = 0

/-- A card has one successor at most. -/
def OneSuccessor (calls : List CardCall) (_ : CardConfig) (hist : List (Change KeyDb)) : Prop :=
  (∀ (i : ℕ) p id now, calls[i]? = some (.replace p id now) →
    net (fun db => allCards db) i hist ≤ 1) ∧
  ∀ (i j : ℕ) p p' id now now', calls[i]? = some (.replace p id now) →
    calls[j]? = some (.replace p' id now') → 0 < net (fun db => allCards db) i hist →
      0 < net (fun db => allCards db) j hist → i = j

/-- A replacement that fails leaves its card active. -/
def Harmless (calls : List CardCall) (c : CardConfig) (hist : List (Change KeyDb)) : Prop :=
  ∀ (i : ℕ) p id now s e, calls[i]? = some (.replace p id now) → c.sessions[i]? = some s →
    s.prog = .throw e → ∀ d ∈ hist, d.session = i → ActiveCard id d.before → ActiveCard id d.after

/-! ## What must not happen meanwhile -/

/-- A kill finds its card active, or as it leaves it. -/
def KillsLiving (call : CardCall) (_ : KeyDb → KeyDb) (h : KeyTrace) (now : KeyDb) : Prop :=
  match call with
  | .issue .. => True
  | .deactivate p id lost _ => ∀ k ∈ now.keyCards, k.id = id → k.propertyId = p →
      k.status = .ACTIVE ∨ k.status = statusOf lost
  | .replace p id _ => writes h = 0 → ∀ k ∈ now.keyCards, k.id = id → k.propertyId = p →
      k.status = .ACTIVE ∨ k.status = .DEACTIVATED

/-- The kill of a replacement finds its card active. -/
def ReplacesActive (call : CardCall) (_ : KeyDb → KeyDb) (h : KeyTrace) (now : KeyDb) : Prop :=
  match call with
  | .replace p id _ => writes h = 0 →
      ∃ k ∈ now.keyCards, k.id = id ∧ k.propertyId = p ∧ k.status = .ACTIVE
  | _ => True

/-- Less than five cards of the property are cut between the replacement's count and its own. -/
def FewMeanwhile (call : CardCall) (h : KeyTrace) (now : KeyDb) : Prop :=
  match call with
  | .replace p _ _ => writes h = 1 →
      ∀ r ∈ reads h, r.1 = .count p → cardCount p now < cardCount p r.2 + 5
  | _ => True

/-- It has killed its card. -/
def HasKilled (call : CardCall) (h : KeyTrace) : Prop :=
  match call with
  | .replace .. => writes h ≠ 0
  | _ => False

/-- No replacement fails once its card is dead: by itself, or because others take its numbers. -/
def CarriedThrough (calls : List CardCall) (c : CardConfig) : Event → Prop
  | .step i => ∀ call ∈ calls[i]?, ∀ s ∈ c.sessions[i]?, FewMeanwhile call s.trace c.db
  | .fault i _ => ∀ call ∈ calls[i]?, ∀ s ∈ c.sessions[i]?, ¬HasKilled call s.trace
  | .crash i => ∀ call ∈ calls[i]?, ∀ s ∈ c.sessions[i]?, ¬HasKilled call s.trace

/-! ## Where a replacement is -/

/-- A replacement has written nothing before it retires its card, and both its writes once the new
card is cut. -/
inductive Fits : CardCall → Place → KeyTrace → Prop where
  | failed {call e h} : Fits call (.failed e) h
  | readReservation {p rid staff now h} :
    Fits (.issue p rid staff now) (.readReservation p rid staff now) h
  | countIssued {p rid staff now o h} : Fits (.issue p rid staff now) (.countCards o) h
  | cutIssued {p rid staff now o count tries bump h} :
    Fits (.issue p rid staff now) (.cut o count tries bump) h
  | roomIssued {p rid staff now roomId card name t h} :
    Fits (.issue p rid staff now) (.readRoom roomId card name t) h
  | issued {p rid staff now a h} : Fits (.issue p rid staff now) (.answered a) h
  | findCard {p id lost now h} : Fits (.deactivate p id lost now) (.findCard p id lost now) h
  | kill {p id lost now h} : Fits (.deactivate p id lost now) (.kill p id lost now) h
  | readStay {p id lost now card t h} : Fits (.deactivate p id lost now) (.readStay card t) h
  | roomDead {p id lost now roomId card name t h} :
    Fits (.deactivate p id lost now) (.readRoom roomId card name t) h
  | killed {p id lost now a h} : Fits (.deactivate p id lost now) (.answered a) h
  | findOld {p id now h} (hw : writes h = 0) : Fits (.replace p id now) (.findOld p id now) h
  | readOldStay {p id old now h} (hw : writes h = 0) :
    Fits (.replace p id now) (.readOldStay p id old now) h
  | retire {p id old r now h} (hw : writes h = 0) :
    Fits (.replace p id now) (.retire p id old r now) h
  | count {p id now h} {o : Order} (hw : writes h = 1) (hp : o.propertyId = p) :
    Fits (.replace p id now) (.countCards o) h
  | cut {p id now tries bump h b} {o : Order} (hw : writes h = 1) (hp : o.propertyId = p)
    (hb : .saw (.count p) b ∈ h) : Fits (.replace p id now) (.cut o (cardCount p b) tries bump) h
  | room {p id now roomId card name t h} (hw : writes h = 2) :
    Fits (.replace p id now) (.readRoom roomId card name t) h
  | replaced {p id now a h} (hw : writes h = 2) : Fits (.replace p id now) (.answered a) h

section Fits

variable {offset : ℤ → ℤ} {c c' : CardConfig} {ev : Event} {i : ℕ} {φ φ' : Place} {h : KeyTrace}
  {s s' : Session KeyDb Id KeyLook KeyErr KeyCardDto} {call : CardCall}

theorem fits_orFailed {α : Type} {e : KeyErr} {next : α → Place} {found : Option α}
    (hnext : ∀ a, Fits call (next a) h) : Fits call (Place.orFailed e next found) h := by
  cases found with
  | none => exact .failed
  | some a => exact hnext a

theorem fits_ifActive {next : KeyCard → Place} {card : KeyCard} (hnext : Fits call (next card) h) :
    Fits call (Place.ifActive next card) h := by
  unfold Place.ifActive
  split
  · exact .failed
  · exact hnext

theorem fits_roomFor {card : KeyCard} {name : Option String} {now : ℤ} {roomId : Option Id}
    (hroom : ∀ roomId, Fits call (.readRoom roomId card name now) h)
    (hanswer : ∀ a, Fits call (.answered a) h) :
    Fits call (Place.roomFor card name now roomId) h := by
  cases roomId with
  | none => exact hanswer _
  | some roomId => exact hroom roomId

theorem fits_start (call : CardCall) : Fits call call.start [] := by
  cases call with
  | issue p rid staff now => exact .readReservation
  | deactivate p id lost now => exact .findCard
  | replace p id now => exact .findOld rfl

theorem Fits.next (hfits : Fits call φ s.trace)
    (hmove : (staging offset).Moves c c' ev i φ φ' s s') : Fits call φ' s'.trace := by
  generalize hh : s.trace = h at hfits
  cases hmove with
  | read hstage hdb htrace =>
    rw [htrace, hh]
    cases hfits <;> simp only [staging, Place.stage, Stage.read.injEq, reduceCtorEq] at hstage <;>
      rcases hstage with ⟨rfl, rfl, rfl⟩
    case readReservation =>
      refine fits_orFailed fun r => ?_
      split
      · exact .failed
      · exact .countIssued
    case countIssued => exact .cutIssued
    case roomIssued => exact .issued
    case findCard => exact fits_orFailed fun card => fits_ifActive .kill
    case readStay => exact fits_roomFor (fun _ => .roomDead) fun _ => .killed
    case roomDead => exact .killed
    case findOld hw => exact fits_orFailed fun card => fits_ifActive (.readOldStay hw)
    case readOldStay hw => exact fits_orFailed fun r => .retire hw
    case count hp hw =>
      subst hp
      exact .cut hw rfl List.mem_cons_self
    case room hw => exact .replaced hw
  | wrote hstage hok hpublishes htrace =>
    rw [htrace, hh]
    cases hfits <;> simp only [staging, Place.stage, Stage.write.injEq, reduceCtorEq] at hstage <;>
      rcases hstage with ⟨-, rfl, rfl⟩
    case cutIssued => exact fits_roomFor (fun _ => .roomIssued) fun _ => .issued
    case kill => exact fits_orFailed fun card => .readStay
    case retire hw => exact .count (by rw [writes_wrote, hw]) rfl
    case cut hp hw hb =>
      have htwo : ∀ w, writes (.wrote w :: h) = 2 := fun w => by rw [writes_wrote, hw]
      exact fits_roomFor (fun _ => .room (htwo _)) fun _ => .replaced (htwo _)
  | refused hstage herror hdb htrace =>
    rw [htrace, hh]
    cases hfits <;> simp only [staging, Place.stage, Stage.write.injEq, reduceCtorEq] at hstage <;>
      rcases hstage with ⟨rfl, -, rfl⟩
    case kill => cases herror
    case retire => cases herror
    case cutIssued o count tries bump =>
      have htaken := (insertRow_eq_error.mp herror).2
      rw [htaken]
      cases tries with
      | zero => exact .failed
      | succ tries => exact .cutIssued
    case cut tries bump b o hp hw hb =>
      have htaken := (insertRow_eq_error.mp herror).2
      rw [htaken]
      cases tries with
      | zero => exact .failed
      | succ tries => exact .cut hw hp hb
  | unread hstage hdb htrace =>
    rw [failed_of_fault.1 _ _ _ hstage]
    exact .failed
  | unwritten hstage hdb htrace =>
    rw [failed_of_fault.2 _ _ _ hstage]
    exact .failed
  | died hdb htrace => exact .failed

end Fits

/-! ## What a write does to the cards -/

/-- What a call writes as its `n`-th write. -/
inductive CardWrite (offset : ℤ → ℤ) (call : CardCall) (n : ℕ) (db : KeyDb) : KeyDb → Prop where
  | deactivate {p id lost now} (hcall : call = .deactivate p id lost now) :
    CardWrite offset call n db (kill p id (statusOf lost) now db)
  | retire {p id now t} (hcall : call = .replace p id now) (hn : n = 0) :
    CardWrite offset call n db (kill p id .DEACTIVATED t db)
  | cut (o : Order) (m : ℕ)
    (hreplace : ∀ p id now, call = .replace p id now → n = 1 ∧ o.propertyId = p) :
    CardWrite offset call n db { db with keyCards := db.keyCards.insert (o.card offset m db) }

section Cards

variable {offset : ℤ → ℤ} {p q id : Id} {status : KeyCardStatus} {now : ℤ} {db db' : KeyDb}
  {call : CardCall} {n : ℕ}

theorem Fits.wrote {c c' : CardConfig} {ev : Event} {i : ℕ} {φ φ' : Place}
    {s s' : Session KeyDb Id KeyLook KeyErr KeyCardDto} (hfits : Fits call φ s.trace)
    (hmove : (staging offset).Moves c c' ev i φ φ' s s') :
    (c'.db = c.db ∧ writes s'.trace = writes s.trace) ∨
      ∃ w, ev = .step i ∧ s.Publishes c.db w ∧ writes s'.trace = writes s.trace + 1 ∧
        CardWrite offset call (writes s.trace) c.db c'.db := by
  cases hmove with
  | read hstage hdb htrace => exact .inl ⟨hdb, by rw [htrace, writes_saw]⟩
  | wrote hstage hok hpublishes htrace =>
    refine .inr ⟨_, rfl, hpublishes, by rw [htrace, writes_wrote], ?_⟩
    generalize s.trace = h at hfits
    cases hfits <;> simp only [staging, Place.stage, Stage.write.injEq, reduceCtorEq] at hstage <;>
      rcases hstage with ⟨rfl, -, -⟩
    case cutIssued o count tries bump =>
      rw [(insertRow_eq_ok.mp hok).2]
      exact .cut o _ fun _ _ _ hcall => by cases hcall
    case kill =>
      rw [← Except.ok.inj hok]
      exact .deactivate rfl
    case retire hw =>
      rw [← Except.ok.inj hok]
      exact .retire rfl hw
    case cut tries bump b o hp hw hb =>
      rw [(insertRow_eq_ok.mp hok).2]
      refine .cut o _ fun p id now hcall => ?_
      cases hcall
      exact ⟨hw, hp⟩
  | refused hstage herror hdb htrace => exact .inl ⟨hdb, by rw [htrace]⟩
  | unread hstage hdb htrace => exact .inl ⟨hdb, by rw [htrace]⟩
  | unwritten hstage hdb htrace => exact .inl ⟨hdb, by rw [htrace]⟩
  | died hdb htrace => exact .inl ⟨hdb, by rw [htrace]⟩

theorem mem_kill {k' : KeyCard} : k' ∈ (kill p id status now db).keyCards ↔
    ∃ k ∈ db.keyCards, k' = if k.id = id && k.propertyId = p then dead status now k else k := by
  show k' ∈ Table.update db.keyCards _ (dead status now) (fun _ => rfl) ↔ _
  exact mem_update

theorem mem_cut {o : Order} {m : ℕ} {k : KeyCard} (hk : k ∈ db.keyCards) :
    k ∈ db.keyCards.insert (o.card offset m db) := mem_insert_of_mem hk

theorem statusOf_ne_active (lost : Bool) : statusOf lost ≠ .ACTIVE := by
  cases lost <;> rintro ⟨⟩

theorem statusFinal_refl (db : KeyDb) : StatusFinal db db := fun k hk _ => ⟨k, hk, rfl, rfl⟩

theorem statusFinal_kill (h : ∀ k ∈ db.keyCards, k.id = id → k.propertyId = p →
    k.status = .ACTIVE ∨ k.status = status) : StatusFinal db (kill p id status now db) := by
  intro k hk hdead
  refine ⟨_, mem_kill.mpr ⟨k, hk, rfl⟩, ?_⟩
  by_cases hsel : (k.id = id && k.propertyId = p) = true
  · rw [if_pos hsel]
    rw [Bool.and_eq_true, decide_eq_true_iff, decide_eq_true_iff] at hsel
    rcases h k hk hsel.1 hsel.2 with hactive | hsame
    · exact absurd hactive hdead
    · exact ⟨rfl, hsame.symm⟩
  · rw [if_neg hsel]
    exact ⟨rfl, rfl⟩

/-- The card is not active, and never will be. -/
def DeadCard (id : Id) (db : KeyDb) : Prop := ∃ k ∈ db.keyCards, k.id = id ∧ k.status ≠ .ACTIVE

theorem DeadCard.not_active (h : DeadCard id db) : ¬ActiveCard id db := by
  rcases h with ⟨k, hk, hid, hdead⟩
  rintro ⟨k', hk', hid', hactive⟩
  have heq : k = k' := eq_of_key_eq hk hk' (hid.trans hid'.symm)
  exact hdead (heq ▸ hactive)

theorem deadCard_kill (hstatus : status ≠ .ACTIVE) (h : DeadCard id db) {id' : Id} :
    DeadCard id (kill p id' status now db) := by
  rcases h with ⟨k, hk, hid, hdead⟩
  refine ⟨_, mem_kill.mpr ⟨k, hk, rfl⟩, ?_⟩
  split
  · exact ⟨hid, hstatus⟩
  · exact ⟨hid, hdead⟩

theorem CardWrite.dead (hw : CardWrite offset call n db db') (h : DeadCard id db) :
    DeadCard id db' := by
  cases hw with
  | deactivate hcall => exact deadCard_kill (statusOf_ne_active _) h
  | retire hcall hn => exact deadCard_kill (by rintro ⟨⟩) h
  | cut o m hreplace =>
    rcases h with ⟨k, hk, hid, hdead⟩
    exact ⟨k, mem_cut hk, hid, hdead⟩

theorem deadCard_of_kill (hstatus : status ≠ .ACTIVE)
    (h : ∃ k ∈ db.keyCards, k.id = id ∧ k.propertyId = p) :
    DeadCard id (kill p id status now db) := by
  rcases h with ⟨k, hk, hid, hp⟩
  refine ⟨_, mem_kill.mpr ⟨k, hk, rfl⟩, ?_⟩
  rw [if_pos (by simp [hid, hp])]
  exact ⟨hid, hstatus⟩

theorem activeCards_kill (hstatus : status ≠ .ACTIVE)
    (h : ∃ k ∈ db.keyCards, k.id = id ∧ k.propertyId = p ∧ k.status = .ACTIVE) :
    activeCards q (kill p id status now db) + (if q = p then 1 else 0) = activeCards q db := by
  rcases h with ⟨k, hk, hid, hp, hactive⟩
  have honly : ∀ b ∈ db.keyCards, (b.id = id && b.propertyId = p) = true → b = k := by
    intro b hb hsel
    rw [Bool.and_eq_true, decide_eq_true_iff] at hsel
    exact eq_of_key_eq hb hk (hsel.1.trans hid.symm)
  have hcount := @Table.countP_update _ _ KeyCard.id db.keyCards k (dead status now) (fun _ => rfl)
    _ (fun k => k.propertyId = q && k.status = .ACTIVE) hk (by simp [hid, hp]) honly
  have hdead : (decide ((dead status now k).propertyId = q) &&
      decide ((dead status now k).status = .ACTIVE)) = false := by
    have hne : decide ((dead status now k).status = .ACTIVE) = false := decide_eq_false hstatus
    rw [hne, Bool.and_false]
  have hbefore : (decide (k.propertyId = q) && decide (k.status = .ACTIVE)) = decide (q = p) := by
    rw [hactive, decide_eq_true rfl, Bool.and_true, hp]
    exact decide_eq_decide.mpr eq_comm
  simp only [hdead, hbefore, Bool.false_eq_true, if_false, decide_eq_true_eq, Nat.add_zero]
    at hcount
  exact hcount

theorem allCards_kill : allCards (kill p id status now db) = allCards db := List.length_map _

theorem activeCards_cut (o : Order) (m : ℕ) :
    activeCards q { db with keyCards := db.keyCards.insert (o.card offset m db) } =
      activeCards q db + if o.propertyId = q then 1 else 0 := by
  unfold activeCards
  rw [rows_cut, List.countP_append, List.countP_singleton]
  congr 1
  have hnew : (decide ((o.card offset m db).propertyId = q) &&
      decide ((o.card offset m db).status = .ACTIVE)) = decide (o.propertyId = q) := by
    have hactive : decide ((o.card offset m db).status = .ACTIVE) = true := rfl
    rw [hactive, Bool.and_true]
    rfl
  simp only [hnew, decide_eq_true_eq]

theorem allCards_cut (o : Order) (m : ℕ) :
    allCards { db with keyCards := db.keyCards.insert (o.card offset m db) } = allCards db + 1 := by
  unfold allCards
  rw [rows_cut, List.length_append, List.length_singleton]

end Cards

/-! ## Every order of steps -/

/-- Each call is where it can be. -/
structure Placed (calls : List CardCall) (c : CardConfig) (φs : List Place) : Prop where
  length : φs.length = calls.length
  fits : Staging.EachSession (fun _ call φ s => Fits call φ s.trace) calls c φs

section Steps

variable {offset : ℤ → ℤ} {calls : List CardCall} {c c' : CardConfig} {ev : Event} {i : ℕ}
  {φ φ' : Place} {φs : List Place} {s s' : Session KeyDb Id KeyLook KeyErr KeyCardDto}
  {hist : List (Change KeyDb)} {db : KeyDb}

theorem placed_start (offset : ℤ → ℤ) (calls : List CardCall) (db : KeyDb) :
    Placed calls (.start db ((calls.map CardCall.start).map (staging offset).prog))
      (calls.map CardCall.start) :=
  ⟨List.length_map _, Staging.eachSession_start fun _ call _ => fits_start call⟩

theorem Placed.call (h : Placed calls c φs) (hφ : φs[i]? = some φ) :
    ∃ call, calls[i]? = some call := by
  have hlt : i < calls.length := h.length ▸ (List.getElem?_eq_some_iff.mp hφ).1
  exact ⟨_, List.getElem?_eq_getElem hlt⟩

theorem Placed.next (h : Placed calls c φs) (hφ : φs[i]? = some φ) (hs : c.sessions[i]? = some s)
    (hset : c'.sessions = c.sessions.set i s')
    (hmove : (staging offset).Moves c c' ev i φ φ' s s') : Placed calls c' (φs.set i φ') := by
  constructor
  · rw [List.length_set, h.length]
  · exact h.fits.set hφ hs hset (fun _ _ hfits => hfits.next hmove) fun _ _ _ _ _ _ hfits => hfits

/-! ### A status is final -/

theorem CardWrite.final {call : CardCall} {h : KeyTrace} {w : KeyDb → KeyDb} {db' : KeyDb}
    (hw : CardWrite offset call (writes h) db db') (hguard : KillsLiving call w h db) :
    StatusFinal db db' := by
  cases hw with
  | deactivate hcall =>
    subst hcall
    exact statusFinal_kill hguard
  | retire hcall hn =>
    subst hcall
    exact statusFinal_kill (hguard hn)
  | cut o m hreplace => exact fun k hk _ => ⟨k, mem_cut hk, rfl, rfl⟩

/-- Every status is final while each kill finds its card active, or as it leaves it. -/
theorem status_final : Always (fun calls => GuardedCalls calls KillsLiving) Final := by
  intro offset calls db evs c hdb hguard hrun
  rw [progs_start] at hguard hrun ⊢
  have hend := (staging offset).run_recorded
    (fun c hist φs => Placed calls c φs ∧ ∀ d ∈ hist, StatusFinal d.before d.after) ?_
    ⟨placed_start offset calls db, fun d hd => by cases hd⟩ hguard hrun
  · rcases hend with ⟨φs, -, -, hfinal⟩
    exact hfinal
  · rintro c c' hist φs ev i φ φ' s s' - ⟨hplaced, hfinal⟩ hguard hφ hs hset hmove
    refine ⟨hplaced.next hφ hs hset hmove, fun d hd => ?_⟩
    rcases List.mem_append.mp hd with hold | hnew
    · exact hfinal d hold
    · rw [List.mem_singleton.mp hnew]
      rcases hplaced.call hφ with ⟨call, hcall⟩
      rcases (hplaced.fits i call φ s hcall hφ hs).wrote hmove with ⟨hdb, -⟩ | ⟨w, hev, hpub, -, hw⟩
      · rw [hdb]
        exact statusFinal_refl c.db
      · exact hw.final (hguard i s w hev hs hpub call hcall)

/-! ### A replacement is even, and the only one -/

/-- Call `i` has killed the card to replace it. -/
def Killed (calls : List CardCall) (c : CardConfig) (id : Id) (i : ℕ) : Prop :=
  ∃ p now s, calls[i]? = some (.replace p id now) ∧ c.sessions[i]? = some s ∧ writes s.trace ≠ 0

theorem killed_next (hs : c.sessions[i]? = some s) (hset : c'.sessions = c.sessions.set i s')
    {id : Id} {j : ℕ} (hk : Killed calls c' id j) :
    Killed calls c id j ∨ j = i ∧ writes s.trace = 0 ∧ writes s'.trace ≠ 0 ∧
      ∃ p now, calls[i]? = some (.replace p id now) := by
  rcases hk with ⟨p, now, t, hcall, ht, hw⟩
  rw [hset] at ht
  by_cases hj : i = j
  · subst hj
    rw [List.getElem?_set_self (List.getElem?_eq_some_iff.mp hs).1] at ht
    cases ht
    by_cases hzero : writes s.trace = 0
    · exact .inr ⟨rfl, hzero, hw, p, now, hcall⟩
    · exact .inl ⟨p, now, s, hcall, hs, hzero⟩
  · rw [List.getElem?_set_ne hj] at ht
    exact .inl ⟨p, now, t, hcall, ht, hw⟩

/-- How a replacement's own changes stand after so many of its writes. -/
structure Account (i : ℕ) (p : Id) (n : ℕ) (hist : List (Change KeyDb)) : Prop where
  active : ∀ q, net (fun db => activeCards q db) i hist = if n = 1 ∧ q = p then -1 else 0
  all : net (fun db => allCards db) i hist = if n = 2 then 1 else 0

theorem Account.other {p : Id} {n j : ℕ} {db' : KeyDb} (h : Account j p n hist) (hj : i ≠ j) :
    Account j p n (hist ++ [⟨i, db, db'⟩]) :=
  ⟨fun q => (net_concat_ne hj).trans (h.active q), (net_concat_ne hj).trans h.all⟩

theorem Account.stay {p : Id} {n : ℕ} (h : Account i p n hist) :
    Account i p n (hist ++ [⟨i, db, db⟩]) :=
  ⟨fun q => (net_concat_same rfl).trans (h.active q), (net_concat_same rfl).trans h.all⟩

theorem Account.write {p id : Id} {now : ℤ} {n : ℕ} {db' : KeyDb} (h : Account i p n hist)
    (hw : CardWrite offset (.replace p id now) n db db')
    (hactive : n = 0 → ∃ k ∈ db.keyCards, k.id = id ∧ k.propertyId = p ∧ k.status = .ACTIVE) :
    Account i p (n + 1) (hist ++ [⟨i, db, db'⟩]) := by
  cases hw with
  | deactivate hcall => cases hcall
  | @retire _ _ _ t hcall hn =>
    cases hcall
    subst hn
    constructor
    · intro q
      have hnet := h.active q
      have hstatus : KeyCardStatus.DEACTIVATED ≠ .ACTIVE := by rintro ⟨⟩
      have hkill : activeCards q (kill p id .DEACTIVATED t db) + (if q = p then 1 else 0) =
          activeCards q db := activeCards_kill hstatus (hactive rfl)
      rw [net_concat_self, hnet]
      by_cases hq : q = p
      · rw [if_pos hq] at hkill
        rw [if_neg (by omega), if_pos ⟨rfl, hq⟩]
        omega
      · rw [if_neg hq] at hkill
        rw [if_neg (by omega), if_neg fun h => hq h.2]
        omega
    · rw [net_concat_self, h.all, allCards_kill]
      simp
  | cut o m hreplace =>
    rcases hreplace p id now rfl with ⟨rfl, hp⟩
    constructor
    · intro q
      rw [net_concat_self, h.active q, activeCards_cut, hp]
      by_cases hq : q = p
      · subst hq
        simp
      · simp [hq, Ne.symm hq]
    · rw [net_concat_self, h.all, allCards_cut]
      simp

/-- The replacements are even so far, and no two have killed one card. -/
structure Balanced (calls : List CardCall) (c : CardConfig) (hist : List (Change KeyDb))
    (φs : List Place) : Prop where
  placed : Placed calls c φs
  account : Staging.EachSession (fun i call _ s => ∀ p id now, call = .replace p id now →
    Account i p (writes s.trace) hist) calls c φs
  dead : ∀ id i, Killed calls c id i → DeadCard id c.db
  once : ∀ id i j, Killed calls c id i → Killed calls c id j → i = j

theorem Balanced.next (h : Balanced calls c hist φs)
    (hguard : GuardedCalls calls ReplacesActive c ev) (hφ : φs[i]? = some φ)
    (hs : c.sessions[i]? = some s) (hset : c'.sessions = c.sessions.set i s')
    (hmove : (staging offset).Moves c c' ev i φ φ' s s') :
    Balanced calls c' (hist ++ [⟨i, c.db, c'.db⟩]) (φs.set i φ') := by
  rcases h.placed.call hφ with ⟨call, hcall⟩
  have hwrote := (h.placed.fits i call φ s hcall hφ hs).wrote hmove
  -- who kills now kills a card that is active
  have hkill : ∀ id, writes s.trace = 0 → writes s'.trace ≠ 0 →
      (∃ p now, calls[i]? = some (.replace p id now)) →
        ActiveCard id c.db ∧ DeadCard id c'.db := by
    rintro id hzero hne ⟨p, now, hreplace⟩
    cases hcall.symm.trans hreplace
    rcases hwrote with ⟨-, hsame⟩ | ⟨w, hev, hpub, -, hw⟩
    · exact absurd (hsame.trans hzero) hne
    · have hactive := hguard i s w hev hs hpub _ hcall hzero
      rcases hactive with ⟨k, hk, hid, hp, hstatus⟩
      refine ⟨⟨k, hk, hid, hstatus⟩, ?_⟩
      generalize c'.db = db' at hw
      cases hw with
      | deactivate heq => cases heq
      | retire heq hn =>
        cases heq
        exact deadCard_of_kill (by rintro ⟨⟩) ⟨k, hk, hid, hp⟩
      | cut o m heq =>
        have hone := (heq p id now rfl).1
        omega
  have hdead : ∀ id j, Killed calls c id j → DeadCard id c'.db := by
    intro id j hj
    rcases hwrote with ⟨hdb, -⟩ | ⟨w, -, -, -, hw⟩
    · rw [hdb]
      exact h.dead id j hj
    · exact hw.dead (h.dead id j hj)
  refine ⟨h.placed.next hφ hs hset hmove, ?_, ?_, ?_⟩
  · refine h.account.set hφ hs hset (fun call' hcall' haccount p id now hreplace => ?_)
      fun j call' ψ t hj _ haccount p id now hreplace =>
        (haccount p id now hreplace).other (Ne.symm hj)
    cases hcall.symm.trans hcall'
    have hnow := haccount p id now hreplace
    rcases hwrote with ⟨hdb, hsame⟩ | ⟨w, hev, hpub, hnext, hw⟩
    · rw [hdb, hsame]
      exact hnow.stay
    · rw [hnext]
      subst hreplace
      exact hnow.write hw (hguard i s w hev hs hpub _ hcall)
  · intro id j hj
    rcases killed_next hs hset hj with hold | ⟨-, hzero, hne, hreplace⟩
    · exact hdead id j hold
    · exact (hkill id hzero hne hreplace).2
  · intro id j k hj hk
    rcases killed_next hs hset hj with hj' | ⟨rfl, hzero, hne, hreplace⟩
    · rcases killed_next hs hset hk with hk' | ⟨rfl, hzero, hne, hreplace⟩
      · exact h.once id j k hj' hk'
      · exact absurd (hkill id hzero hne hreplace).1 (h.dead id j hj').not_active
    · rcases killed_next hs hset hk with hk' | ⟨rfl, -, -, -⟩
      · exact absurd (hkill id hzero hne hreplace).1 (h.dead id k hk').not_active
      · rfl

theorem balanced_start (offset : ℤ → ℤ) (calls : List CardCall) (db : KeyDb) :
    Balanced calls (.start db ((calls.map CardCall.start).map (staging offset).prog)) []
      (calls.map CardCall.start) := by
  have hnone : ∀ id i, ¬Killed calls
      (.start db ((calls.map CardCall.start).map (staging offset).prog)) id i := by
    rintro id i ⟨p, now, s, -, hs, hw⟩
    simp only [Config.start, List.getElem?_map, Option.map_eq_some_iff] at hs
    rcases hs with ⟨q, -, rfl⟩
    exact hw rfl
  refine ⟨placed_start offset calls db, ?_, fun id i h => absurd h (hnone id i),
    fun id i j h => absurd h (hnone id i)⟩
  refine Staging.eachSession_start fun i call _ p id now _ => ⟨fun q => ?_, ?_⟩
  · exact (if_neg (by rintro ⟨h, -⟩; cases h)).symm
  · exact (if_neg (by rintro ⟨⟩)).symm

/-- Replacements are even, and a card has one successor, while each kills a card that is active. -/
theorem replacements_exact : Always (fun calls => GuardedCalls calls ReplacesActive)
    fun calls c hist => Even calls c hist ∧ OneSuccessor calls c hist := by
  intro offset calls db evs c hdb hguard hrun
  rw [progs_start] at hguard hrun ⊢
  rcases (staging offset).run_recorded (Balanced calls)
    (fun _ _ _ _ _ _ _ _ _ _ _ h hguard hφ hs hset hmove => h.next hguard hφ hs hset hmove)
    (balanced_start offset calls db) hguard hrun with ⟨φs, ht, h⟩
  have haccount : ∀ (i : ℕ) p id now, calls[i]? = some (.replace p id now) → ∃ s,
      c.sessions[i]? = some s ∧ Account i p (writes s.trace) ((Config.start db
        ((calls.map CardCall.start).map (staging offset).prog)).history evs) := by
    intro i p id now hcall
    have hlt : i < φs.length := h.placed.length ▸ (List.getElem?_eq_some_iff.mp hcall).1
    have hφ := List.getElem?_eq_getElem hlt
    rcases ht.session hφ with ⟨s, hs, -, -⟩
    exact ⟨s, hs, h.account i _ _ s hcall hφ hs p id now rfl⟩
  refine ⟨?_, ?_, ?_⟩
  · intro i p id now s a hcall hs hret q
    rcases haccount i p id now hcall with ⟨s', hs', hnow⟩
    cases hs.symm.trans hs'
    rcases ht.place hs with ⟨φ, hφ, hprog, -⟩
    have hanswered := Place.eq_answered offset (hprog.symm.trans hret)
    subst hanswered
    -- an answer comes after both writes
    have hfits : Fits (.replace p id now) (.answered a) s.trace :=
      h.placed.fits i _ _ s hcall hφ hs
    generalize s.trace = t at hfits hnow
    cases hfits with
    | replaced hw =>
      rw [hnow.active q, hw]
      exact if_neg (by omega)
  · intro i p id now hcall
    rcases haccount i p id now hcall with ⟨s, -, hnow⟩
    rw [hnow.all]
    split <;> omega
  · intro i j p p' id now now' hi hj hcut hcut'
    rcases haccount i p id now hi with ⟨s, hs, hnow⟩
    rcases haccount j p' id now' hj with ⟨t, ht', hnow'⟩
    rw [hnow.all] at hcut
    rw [hnow'.all] at hcut'
    have hw : writes s.trace ≠ 0 := by
      intro hzero
      rw [hzero] at hcut
      simp at hcut
    have hw' : writes t.trace ≠ 0 := by
      intro hzero
      rw [hzero] at hcut'
      simp at hcut'
    exact h.once id i j ⟨p, now, s, hi, hs, hw⟩ ⟨p', now', t, hj, ht', hw'⟩

/-! ### A replacement that fails -/

/-- Numbers are in order, who has written nothing has changed nothing, and who has killed a card
has not failed. -/
structure Carried (calls : List CardCall) (c : CardConfig) (hist : List (Change KeyDb))
    (φs : List Place) : Prop where
  placed : Placed calls c φs
  order : InOrder c.db φs
  idle : Staging.EachSession (fun i _ _ s => writes s.trace = 0 →
    ∀ d ∈ hist, d.session = i → d.after = d.before) calls c φs
  through : Staging.EachSession (fun _ call φ s => HasKilled call s.trace →
    ∀ e, φ ≠ .failed e) calls c φs

theorem roomFor_ne_failed {card : KeyCard} {name : Option String} {now : ℤ} {roomId : Option Id}
    (e : KeyErr) : Place.roomFor card name now roomId ≠ .failed e := by
  cases roomId <;> rintro ⟨⟩

theorem not_failed {call : CardCall} (hfits : Fits call φ s.trace) (horder : InOrder c.db φs)
    (hmem : φ ∈ φs) (hguard : CarriedThrough calls c ev) (hcall : calls[i]? = some call)
    (hs : c.sessions[i]? = some s)
    (hmove : (staging offset).Moves c c' ev i φ φ' s s') (hkilled : HasKilled call s'.trace) :
    ∀ e, φ' ≠ .failed e := by
  cases hmove with
  | read hstage hdb htrace =>
    rw [htrace] at hkilled
    generalize s.trace = h at hfits hkilled
    cases hfits <;> simp only [staging, Place.stage, Stage.read.injEq, reduceCtorEq] at hstage <;>
      rcases hstage with ⟨rfl, rfl, rfl⟩
    case readReservation => cases hkilled
    case countIssued => cases hkilled
    case roomIssued => cases hkilled
    case findCard => cases hkilled
    case readStay => cases hkilled
    case roomDead => cases hkilled
    case findOld hw => exact absurd hw hkilled
    case readOldStay hw => exact absurd hw hkilled
    case count => rintro e ⟨⟩
    case room => rintro e ⟨⟩
  | wrote hstage hok hpublishes htrace =>
    generalize s.trace = h at hfits
    cases hfits <;> simp only [staging, Place.stage, Stage.write.injEq, reduceCtorEq] at hstage <;>
      rcases hstage with ⟨-, rfl, rfl⟩
    case cutIssued => exact roomFor_ne_failed
    case kill => cases hkilled
    case retire => rintro e ⟨⟩
    case cut => exact roomFor_ne_failed
  | refused hstage herror hdb htrace =>
    have hfew := hguard call hcall s hs
    rw [htrace] at hkilled
    generalize s.trace = h at hfits hkilled hfew
    cases hfits <;> simp only [staging, Place.stage, Stage.write.injEq, reduceCtorEq] at hstage <;>
      rcases hstage with ⟨rfl, -, rfl⟩
    case cutIssued => cases hkilled
    case kill => cases hkilled
    case retire => cases herror
    case cut p id now tries bump b o hp hw hb =>
      -- the last try finds a free number: five cards would have to have been cut meanwhile
      rcases insertRow_eq_error.mp herror with ⟨hany, rfl⟩
      have hnumber : cardCount p b + 1 + bump = cardCount p b + bump + 1 := by omega
      rw [hnumber] at hany
      have hlt := (horder.numbered o.propertyId).taken_iff.mp hany
      have hsum := (horder.passed _ hmem).2
      have hfive := hfew hw _ (mem_reads.mpr hb) rfl
      rw [hp] at hlt
      cases tries with
      | zero =>
        dsimp only at hfive
        omega
      | succ tries => rintro e ⟨⟩
  | unread hstage hdb htrace =>
    rw [htrace] at hkilled
    exact absurd hkilled (hguard call hcall s hs)
  | unwritten hstage hdb htrace =>
    rw [htrace] at hkilled
    exact absurd hkilled (hguard call hcall s hs)
  | died hdb htrace =>
    rw [htrace] at hkilled
    exact absurd hkilled (hguard call hcall s hs)

theorem Carried.next (h : Carried calls c hist φs) (hguard : CarriedThrough calls c ev)
    (hφ : φs[i]? = some φ) (hs : c.sessions[i]? = some s)
    (hset : c'.sessions = c.sessions.set i s')
    (hmove : (staging offset).Moves c c' ev i φ φ' s s') :
    Carried calls c' (hist ++ [⟨i, c.db, c'.db⟩]) (φs.set i φ') := by
  refine ⟨h.placed.next hφ hs hset hmove, h.order.next hφ hmove, ?_, ?_⟩
  · refine h.idle.set hφ hs hset (fun call hcall hidle hzero d hd hsession => ?_)
      fun j call ψ t hj _ hidle hzero d hd hsession => ?_
    · have hwrote := (h.placed.fits i call φ s hcall hφ hs).wrote hmove
      rcases hwrote with ⟨hdb, hsame⟩ | ⟨-, -, -, hnext, -⟩
      · rcases List.mem_append.mp hd with hold | hnew
        · exact hidle (hsame.symm.trans hzero) d hold hsession
        · rw [List.mem_singleton.mp hnew]
          exact hdb
      · omega
    · rcases List.mem_append.mp hd with hold | hnew
      · exact hidle hzero d hold hsession
      · rw [List.mem_singleton.mp hnew] at hsession
        exact absurd hsession.symm hj
  · refine h.through.set hφ hs hset (fun call hcall _ hkilled => ?_) fun _ _ _ _ _ _ hold => hold
    exact not_failed (h.placed.fits i call φ s hcall hφ hs) h.order (List.mem_of_getElem? hφ) hguard
      hcall hs hmove hkilled

theorem carried_start (hdb : ∀ p, Numbered p db) (offset : ℤ → ℤ) (calls : List CardCall) :
    Carried calls (.start db ((calls.map CardCall.start).map (staging offset).prog)) []
      (calls.map CardCall.start) := by
  refine ⟨placed_start offset calls db, inOrder_start hdb calls, ?_, ?_⟩
  · exact Staging.eachSession_start fun i call _ _ d hd => by cases hd
  · refine Staging.eachSession_start fun i call _ hkilled => ?_
    cases call with
    | replace p id now => exact absurd rfl hkilled
    | _ => cases hkilled

theorem failures_harmless : Always CarriedThrough Harmless := by
  intro offset calls db evs c hdb hguard hrun
  rw [progs_start] at hguard hrun ⊢
  rcases (staging offset).run_recorded (Carried calls)
    (fun _ _ _ _ _ _ _ _ _ _ _ h hguard hφ hs hset hmove => h.next hguard hφ hs hset hmove)
    (carried_start hdb offset calls) hguard hrun with ⟨φs, ht, h⟩
  intro i p id now s e hcall hs hthrow d hd hsession hactive
  rcases ht.place hs with ⟨φ, hφ, hprog, -⟩
  have hfailed := Place.eq_failed offset (hprog.symm.trans hthrow)
  have hzero : writes s.trace = 0 := by
    by_contra hw
    exact h.through i _ φ s hcall hφ hs hw e hfailed
  rw [h.idle i _ φ s hcall hφ hs hzero d hd hsession]
  exact hactive

end Steps

/-- **Numbers are exact whatever happens; statuses, replacements and failures are** while a kill
finds its card active and a replacement is carried through. -/
theorem cards_exact (offset : ℤ → ℤ) (calls : List CardCall) (db : KeyDb) (evs : List Event)
    (c : CardConfig) (hdb : ∀ p, Numbered p db)
    (hrun : (Config.start db (calls.map (prog offset))).run evs = some c) :
    let start := Config.start db (calls.map (prog offset))
    (∀ p, Numbered p c.db) ∧
    (∀ call, calls = [call] → ∀ s ∈ c.sessions, s.prog ≠ .throw .numberExhausted) ∧
    (start.Throughout (GuardedCalls calls KillsLiving) evs → Final calls c (start.history evs)) ∧
    (start.Throughout (GuardedCalls calls ReplacesActive) evs →
      Even calls c (start.history evs) ∧ OneSuccessor calls c (start.history evs)) ∧
    (start.Throughout (CarriedThrough calls) evs → Harmless calls c (start.history evs)) := by
  refine ⟨exact_numbers offset calls db evs c hdb hrun, ?_, ?_, ?_, ?_⟩
  · rintro call rfl
    exact never_exhausted offset call db evs c hdb hrun
  · intro hguarded
    exact status_final offset calls db evs c hdb hguarded hrun
  · intro hguarded
    exact replacements_exact offset calls db evs c hdb hguarded hrun
  · intro hcarried
    exact failures_harmless offset calls db evs c hdb hcarried hrun

/-! ## Two desks and a lost card -/

instance (propertyId : Id) (db : KeyDb) : Decidable (Numbered propertyId db) :=
  inferInstanceAs (Decidable (List.Perm _ _))

instance (id : Id) (db : KeyDb) : Decidable (ActiveCard id db) :=
  inferInstanceAs (Decidable (∃ _ ∈ _, _))

instance (db db' : KeyDb) : Decidable (StatusFinal db db') :=
  inferInstanceAs (Decidable (∀ _ ∈ _, _))

instance : ∀ call w h now, Decidable (KillsLiving call w h now) := by
  intro call w h now
  unfold KillsLiving
  split <;> infer_instance

instance : ∀ call w h now, Decidable (ReplacesActive call w h now) := by
  intro call w h now
  unfold ReplacesActive
  split <;> infer_instance

instance (call : CardCall) (h : KeyTrace) (now : KeyDb) : Decidable (FewMeanwhile call h now) := by
  unfold FewMeanwhile
  split <;> infer_instance

instance (call : CardCall) (h : KeyTrace) : Decidable (HasKilled call h) := by
  unfold HasKilled
  split <;> infer_instance

instance (calls : List CardCall) (c : CardConfig) (ev : Event) :
    Decidable (CarriedThrough calls c ev) := by
  apply Event.casesOn (motive := fun ev => Decidable (CarriedThrough calls c ev)) ev
  all_goals intros; unfold CarriedThrough; infer_instance

/-- A guest in house. -/
def inRoom : Reservation :=
  { id := 1
    propertyId := 1
    roomTypeId := 1
    roomId := none
    reservationNumber := 1
    guest := { guestName := "Asha", guestPhone := "98765" }
    checkIn := 10
    checkOut := 12
    ordered := by decide
    status := .CHECKED_IN
    ratePaise := 1000
    totalPaise := 2000 }

/-- The guest's card. -/
def guestCard : KeyCard :=
  { id := 1
    propertyId := 1
    reservationId := 1
    cardNumber := "KC-0001"
    expiresAt := elevenOn (fun _ => 0) 12 }

def oneCard : KeyDb :=
  { hotel := { reservations := ⟨[inRoom], by decide⟩ }
    keyCards := ⟨[guestCard], by decide⟩ }

theorem numbered_oneCard : ∀ p, Numbered p oneCard := by
  intro p
  by_cases hp : p = 1
  · subst hp
    decide +kernel
  · have hnone : cardsOf p oneCard = [] := by
      have hne : ¬1 = p := fun h => hp h.symm
      simp [cardsOf, oneCard, guestCard, hne]
    unfold Numbered numbersOf cardCount
    rw [hnone]
    exact List.Perm.nil

/-- Two desks replace one card. -/
def twoReplacements : List CardCall := [.replace 1 1 0, .replace 1 1 0]

/-- Both find it active before either has killed it. -/
def bothFindIt : List Event :=
  [.step 0, .step 0, .step 1, .step 1, .step 0, .step 0, .step 0, .step 1, .step 1, .step 1]

/-- One desk reports a card lost that another replaces. -/
def lostAndReplaced : List CardCall := [.deactivate 1 1 true 0, .replace 1 1 0]

/-- It is reported between the look of the replacement and its kill. -/
def reportedBetween : List Event := [.step 0, .step 1, .step 1, .step 0, .step 1]

/-- A card is replaced, then the new one reported lost. -/
def replacedThenLost : List CardCall := [.replace 1 1 0, .deactivate 1 2 true 0]

/-- One after the other. -/
def oneThenOther : List Event :=
  [.step 0, .step 0, .step 0, .step 0, .step 0, .step 1, .step 1]

/-- The replacement fails between its kill and its count. -/
def failsBetween : List Event := [.step 0, .step 0, .step 0, .fault 0 "deadlock"]

/-- A lost card becomes a deactivated one; one card has two successors, and a replacement that
succeeds leaves one active card more; a replacement that fails leaves none. -/
theorem cards_inexact : ¬Always (fun _ _ _ => True) Final ∧ ¬Always (fun _ _ _ => True) Even ∧
    ¬Always (fun _ _ _ => True) OneSuccessor ∧ ¬Always (fun _ _ _ => True) Harmless := by
  refine ⟨?_, ?_, ?_, ?_⟩
  · intro hlaw
    have hend := hlaw (fun _ => 0) lostAndReplaced oneCard reportedBetween _ numbered_oneCard
      (Config.throughout_true _ _) rfl
    have hfinal : ∀ d ∈ (Config.start oneCard (lostAndReplaced.map
        (prog fun _ => 0))).history reportedBetween, StatusFinal d.before d.after := hend
    exact absurd hfinal (by decide +kernel)
  · intro hlaw
    have hend := hlaw (fun _ => 0) twoReplacements oneCard bothFindIt _ numbered_oneCard
      (Config.throughout_true _ _) rfl 1 1 1 0 _ _ rfl rfl rfl 1
    exact absurd hend (by decide +kernel)
  · intro hlaw
    have hend := (hlaw (fun _ => 0) twoReplacements oneCard bothFindIt _ numbered_oneCard
      (Config.throughout_true _ _) rfl).2 0 1 1 1 1 0 0 rfl rfl
    exact absurd (hend (by decide +kernel) (by decide +kernel)) (by decide)
  · intro hlaw
    have hend := hlaw (fun _ => 0) [.replace 1 1 0] oneCard failsBetween _ numbered_oneCard
      (Config.throughout_true _ _) rfl 0 1 1 0 _ _ rfl rfl rfl
    have hharmless : ∀ d ∈ (Config.start oneCard ([CardCall.replace 1 1 0].map
        (prog fun _ => 0))).history failsBetween, d.session = 0 →
          ActiveCard 1 d.before → ActiveCard 1 d.after := hend
    exact absurd hharmless (by decide +kernel)

/-- One after the other, the replacement is even, the loss is final, and the numbers go on. -/
theorem cards_exact_in_turn : ∃ c, (Config.start oneCard (replacedThenLost.map
    (prog fun _ => 0))).run oneThenOther = some c ∧
    Numbered 1 c.db ∧
    Final replacedThenLost c ((Config.start oneCard (replacedThenLost.map
      (prog fun _ => 0))).history oneThenOther) ∧
    Even replacedThenLost c ((Config.start oneCard (replacedThenLost.map
      (prog fun _ => 0))).history oneThenOther) ∧
    Harmless replacedThenLost c ((Config.start oneCard (replacedThenLost.map
      (prog fun _ => 0))).history oneThenOther) ∧
    c.db.keyCards.rows.map (fun k => (k.cardNumber, k.status)) =
      [("KC-0001", .DEACTIVATED), ("KC-0002", .LOST)] := by
  have hcards : ((Config.start oneCard (replacedThenLost.map (prog fun _ => 0))).run
      oneThenOther).map (fun c => c.db.keyCards.rows.map fun k => (k.cardNumber, k.status)) =
        some [("KC-0001", .DEACTIVATED), ("KC-0002", .LOST)] := by decide +kernel
  rcases Option.map_eq_some_iff.mp hcards with ⟨c, hrun, hrows⟩
  rcases cards_exact _ replacedThenLost oneCard oneThenOther c numbered_oneCard hrun with
    ⟨hnumbered, -, hfinal, heven, hharmless⟩
  exact ⟨c, hrun, hnumbered 1, hfinal (by decide +kernel), (heven (by decide +kernel)).1,
    hharmless (by decide +kernel), hrows⟩

end Travelo.KeyCards
