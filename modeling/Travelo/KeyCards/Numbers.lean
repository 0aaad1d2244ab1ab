import Travelo.KeyCards.Places

/-!
# The numbers of the cards

A call counts the cards of the property and tries the next number. `Place.Passed` says that each
number it was refused is taken, so the number it gets is the first that is free, whatever other
calls do meanwhile.
-/

namespace Travelo.KeyCards

open ReadCommitted KeyCardsService
open Place (orFailed ifActive roomFor stage)

/-- The numbers from one to `n`. -/
def numbersUpTo (n : ℕ) : List String := (List.range n).map fun i => cardNumber (i + 1)

def numbersOf (propertyId : Id) (db : KeyDb) : List String :=
  (cardsOf propertyId db).map (·.cardNumber)

/-- The cards of the property carry the numbers from one on, without gap or repetition. -/
def Numbered (propertyId : Id) (db : KeyDb) : Prop :=
  (numbersOf propertyId db).Perm (numbersUpTo (cardCount propertyId db))

/-! ## Writes -/

section Writes

variable {offset : ℤ → ℤ} {propertyId p id : Id} {status : KeyCardStatus} {now : ℤ} {db db' : KeyDb}
  {card : KeyCard}

theorem mem_numbersUpTo {m n : ℕ} : cardNumber (m + 1) ∈ numbersUpTo n ↔ m < n := by
  unfold numbersUpTo
  rw [List.mem_map]
  constructor
  · rintro ⟨i, hi, heq⟩
    have him : i + 1 = m + 1 := cardNumber_inj heq
    have hlt := List.mem_range.mp hi
    omega
  · intro hlt
    exact ⟨m, List.mem_range.mpr hlt, rfl⟩

theorem numbersUpTo_succ (n : ℕ) : numbersUpTo (n + 1) = numbersUpTo n ++ [cardNumber (n + 1)] := by
  simp [numbersUpTo, List.range_succ]

theorem Numbered.taken_iff (h : Numbered p db) {n : ℕ} :
    ((cardsOf p db).any fun k => k.cardNumber = cardNumber (n + 1)) = true ↔
      n < cardCount p db := by
  rw [← mem_numbersUpTo, ← h.mem_iff]
  simp [numbersOf]

theorem cardsOf_kill : cardsOf p (kill propertyId id status now db) =
    (cardsOf p db).map fun k =>
      if k.id = id && k.propertyId = propertyId then dead status now k else k := by
  unfold cardsOf kill
  show List.filter _ (List.map _ _) = _
  rw [List.filter_map]
  congr 1
  refine List.filter_congr fun k _ => ?_
  simp only [Function.comp_apply]
  split <;> rfl

theorem cardCount_kill : cardCount p (kill propertyId id status now db) = cardCount p db := by
  unfold cardCount
  rw [cardsOf_kill, List.length_map]

theorem numbersOf_kill : numbersOf p (kill propertyId id status now db) = numbersOf p db := by
  unfold numbersOf
  rw [cardsOf_kill, List.map_map]
  refine List.map_congr_left fun k _ => ?_
  simp only [Function.comp_apply]
  split <;> rfl

theorem Numbered.kill (h : Numbered p db) : Numbered p (kill propertyId id status now db) := by
  unfold Numbered
  rw [numbersOf_kill, cardCount_kill]
  exact h

theorem insertRow_eq_ok : insertRow card db = .ok db' ↔
    ((cardsOf card.propertyId db).any fun k => k.cardNumber = card.cardNumber) = false ∧
      db' = { db with keyCards := db.keyCards.insert card } := by
  unfold insertRow
  cases (cardsOf card.propertyId db).any fun k => k.cardNumber = card.cardNumber
  · simp [eq_comm]
  · simp

theorem insertRow_eq_error {e : KeyErr} : insertRow card db = .error e ↔
    ((cardsOf card.propertyId db).any fun k => k.cardNumber = card.cardNumber) = true ∧
      e = .uniqueViolation := by
  unfold insertRow
  cases (cardsOf card.propertyId db).any fun k => k.cardNumber = card.cardNumber
  · simp
  · simp [eq_comm]

theorem rows_cut (o : Order) (n : ℕ) :
    (db.keyCards.insert (o.card offset n db)).rows =
      db.keyCards.rows ++ [o.card offset n db] :=
  rows_insert (hasKey_freshId _)

theorem cardsOf_cut (o : Order) (n : ℕ) :
    cardsOf p { db with keyCards := db.keyCards.insert (o.card offset n db) } =
      cardsOf p db ++ if o.propertyId = p then [o.card offset n db] else [] := by
  show List.filter _ (Table.rows _) = _
  rw [rows_cut, List.filter_append]
  congr 1
  by_cases hp : o.propertyId = p
  · rw [if_pos hp]
    exact List.filter_cons_of_pos (decide_eq_true hp)
  · rw [if_neg hp]
    exact List.filter_cons_of_neg (by rwa [decide_eq_true_iff])

theorem cardCount_cut (o : Order) (n : ℕ) :
    cardCount p { db with keyCards := db.keyCards.insert (o.card offset n db) } =
      cardCount p db + if o.propertyId = p then 1 else 0 := by
  unfold cardCount
  rw [cardsOf_cut, List.length_append]
  split <;> rfl

theorem Numbered.cut {o : Order} {n : ℕ} (h : Numbered p db)
    (hfirst : o.propertyId = p → n = cardCount p db + 1) :
    Numbered p { db with keyCards := db.keyCards.insert (o.card offset n db) } := by
  unfold Numbered numbersOf
  rw [cardsOf_cut, cardCount_cut]
  by_cases hp : o.propertyId = p
  · rw [if_pos hp, if_pos hp, List.map_append, numbersUpTo_succ, ← hfirst hp]
    exact h.append_right _
  · rw [if_neg hp, if_neg hp, List.append_nil]
    exact h

end Writes

/-! ## Every order of steps -/

/-- The numbers a call has been refused are taken, and those it may yet try are few. -/
def Place.Passed (db : KeyDb) : Place → Prop
  | .cut o count tries bump => count + bump ≤ cardCount o.propertyId db ∧ bump + tries = 4
  | _ => True

section Places

variable {offset : ℤ → ℤ} {db db' : KeyDb}

theorem Place.Passed.mono {φ : Place} (h : φ.Passed db)
    (hcount : ∀ p, cardCount p db ≤ cardCount p db') : φ.Passed db' := by
  cases φ with
  | cut o count tries bump => exact ⟨Nat.le_trans h.1 (hcount _), h.2⟩
  | _ => trivial

theorem passed_orFailed {α : Type} {e : KeyErr} {next : α → Place} {found : Option α}
    (h : ∀ a, (next a).Passed db) : (orFailed e next found).Passed db := by
  cases found with
  | none => trivial
  | some a => exact h a

theorem passed_ifActive {next : KeyCard → Place} {card : KeyCard}
    (h : (next card).Passed db) : (ifActive next card).Passed db := by
  unfold ifActive
  split
  · trivial
  · exact h

theorem passed_roomFor {card : KeyCard} {guestName : Option String} {now : ℤ}
    {roomId : Option Id} : (roomFor card guestName now roomId).Passed db := by
  cases roomId <;> trivial

theorem passed_read {φ : Place} {l : KeyLook} {next : KeyDb → Place} {failed : KeyErr → Place}
    (hstage : φ.stage offset = .read l next failed) : (next db).Passed db := by
  cases φ <;> simp only [stage, Stage.read.injEq, reduceCtorEq] at hstage <;>
    rcases hstage with ⟨-, rfl, -⟩
  case readReservation =>
    refine passed_orFailed fun r => ?_
    split <;> trivial
  case countCards => exact ⟨Nat.le_refl _, rfl⟩
  case readRoom => trivial
  case findCard => exact passed_orFailed fun card => passed_ifActive trivial
  case readStay => exact passed_roomFor
  case findOld => exact passed_orFailed fun card => passed_ifActive trivial
  case readOldStay => exact passed_orFailed fun r => trivial

theorem failed_of_fault {φ : Place} {m : String} :
    (∀ l next failed, φ.stage offset = .read l next failed →
      failed (lost m) = .failed (lost m)) ∧
    ∀ f next failed, φ.stage offset = .write f next failed →
      failed (lost m) = .failed (lost m) := by
  constructor
  · intro l next failed hstage
    cases φ <;> simp only [stage, Stage.read.injEq, reduceCtorEq] at hstage <;>
      rcases hstage with ⟨-, -, rfl⟩ <;> rfl
  · intro f next failed hstage
    cases φ <;> simp only [stage, Stage.write.injEq, reduceCtorEq] at hstage <;>
      rcases hstage with ⟨-, -, rfl⟩ <;> rfl

end Places

/-- Every property has its numbers, and no call is ahead of them. -/
structure InOrder (db : KeyDb) (φs : List Place) : Prop where
  numbered : ∀ p, Numbered p db
  passed : ∀ φ ∈ φs, φ.Passed db

section Steps

variable {offset : ℤ → ℤ} {c c' : Config KeyDb Id KeyLook KeyErr KeyCardDto} {ev : Event} {i : ℕ}
  {φ φ' : Place} {φs : List Place} {s s' : Session KeyDb Id KeyLook KeyErr KeyCardDto}

theorem InOrder.first_free {db db' : KeyDb} {o : Order} {count tries bump : ℕ}
    (h : InOrder db φs) (hφ : Place.cut o count tries bump ∈ φs)
    (hok : insertRow (o.card offset (count + 1 + bump) db) db = .ok db') :
    count + bump = cardCount o.propertyId db := by
  have hfree := (insertRow_eq_ok.mp hok).1
  have htaken := (h.numbered o.propertyId).taken_iff (n := count + bump)
  have hnumber : count + 1 + bump = count + bump + 1 := by omega
  rw [hnumber] at hfree
  have hle := (h.passed _ hφ).1
  have hnot : ¬count + bump < cardCount o.propertyId db := by
    intro hlt
    have hany := htaken.mpr hlt
    exact absurd (hfree.symm.trans hany) (by simp)
  omega

theorem InOrder.set {db db' : KeyDb} (h : InOrder db φs) (hnumbered : ∀ p, Numbered p db')
    (hcount : ∀ p, cardCount p db ≤ cardCount p db') (hφ' : φ'.Passed db') :
    InOrder db' (φs.set i φ') := by
  refine ⟨hnumbered, fun ψ hψ => ?_⟩
  rcases List.mem_or_eq_of_mem_set hψ with hmem | rfl
  · exact (h.passed ψ hmem).mono hcount
  · exact hφ'

theorem InOrder.stay {db : KeyDb} (h : InOrder db φs) (hφ' : φ'.Passed db) :
    InOrder db (φs.set i φ') := h.set h.numbered (fun _ => Nat.le_refl _) hφ'

theorem InOrder.next (h : InOrder c.db φs) (hφ : φs[i]? = some φ)
    (hmove : (staging offset).Moves c c' ev i φ φ' s s') : InOrder c'.db (φs.set i φ') := by
  have hmem := List.mem_of_getElem? hφ
  cases hmove with
  | read hstage hdb htrace =>
    rw [hdb]
    exact h.stay (passed_read hstage)
  | @wrote _ _ _ _ f next failed hstage hok hpublishes htrace =>
    cases φ <;> simp only [staging, stage, Stage.write.injEq, reduceCtorEq] at hstage <;>
      rcases hstage with ⟨rfl, rfl, -⟩
    case cut o count tries bump =>
      have hfirst := h.first_free hmem hok
      rw [(insertRow_eq_ok.mp hok).2]
      refine h.set (fun p => (h.numbered p).cut fun hp => ?_) (fun p => ?_) passed_roomFor
      · rw [← hp]
        omega
      · rw [cardCount_cut]
        exact Nat.le_add_right _ _
    case kill propertyId id lost now =>
      rw [← Except.ok.inj hok]
      exact h.set (fun p => (h.numbered p).kill) (fun p => Nat.le_of_eq cardCount_kill.symm)
        (passed_orFailed fun card => trivial)
    case retire propertyId id old r now =>
      rw [← Except.ok.inj hok]
      exact h.set (fun p => (h.numbered p).kill) (fun p => Nat.le_of_eq cardCount_kill.symm) trivial
  | @refused _ _ _ _ f next failed e hstage herror hdb htrace =>
    rw [hdb]
    refine h.stay ?_
    cases φ <;> simp only [staging, stage, Stage.write.injEq, reduceCtorEq] at hstage <;>
      rcases hstage with ⟨rfl, -, rfl⟩
    case cut o count tries bump =>
      -- the number is taken, so the count has reached it
      rcases insertRow_eq_error.mp herror with ⟨hany, rfl⟩
      have hnumber : count + 1 + bump = count + bump + 1 := by omega
      rw [hnumber] at hany
      have hlt := (h.numbered o.propertyId).taken_iff.mp hany
      have hsum := (h.passed _ hmem).2
      cases tries with
      | zero => trivial
      | succ tries => exact ⟨by omega, by omega⟩
    case kill => cases herror
    case retire => cases herror
  | unread hstage hdb htrace =>
    rw [hdb, failed_of_fault.1 _ _ _ hstage]
    exact h.stay trivial
  | unwritten hstage hdb htrace =>
    rw [hdb, failed_of_fault.2 _ _ _ hstage]
    exact h.stay trivial
  | died hdb htrace =>
    rw [hdb]
    exact h.stay trivial

end Steps

theorem progs_start (offset : ℤ → ℤ) (calls : List CardCall) :
    calls.map (CardCall.prog offset) = (calls.map CardCall.start).map (staging offset).prog := by
  rw [List.map_map]
  exact List.map_congr_left fun call _ => (call.prog_start offset).symm

theorem inOrder_start {db : KeyDb} (hdb : ∀ p, Numbered p db) (calls : List CardCall) :
    InOrder db (calls.map CardCall.start) := by
  refine ⟨hdb, fun φ hφ => ?_⟩
  rcases List.mem_map.mp hφ with ⟨call, -, rfl⟩
  cases call <;> trivial

/-! ## A call on its own -/

/-- The next number to try is the one after the last. -/
def Place.Unhindered (db : KeyDb) : Place → Prop
  | .cut o count _ bump => count + bump = cardCount o.propertyId db
  | .failed e => e ≠ .numberExhausted
  | _ => True

section Alone

variable {offset : ℤ → ℤ} {c c' : Config KeyDb Id KeyLook KeyErr KeyCardDto} {ev : Event} {i : ℕ}
  {φ φ' : Place} {s s' : Session KeyDb Id KeyLook KeyErr KeyCardDto} {db : KeyDb}

theorem unhindered_orFailed {α : Type} {e : KeyErr} {next : α → Place} {found : Option α}
    (he : e ≠ .numberExhausted) (h : ∀ a, (next a).Unhindered db) :
    (orFailed e next found).Unhindered db := by
  cases found with
  | none => exact he
  | some a => exact h a

theorem unhindered_ifActive {next : KeyCard → Place} {card : KeyCard}
    (h : (next card).Unhindered db) : (ifActive next card).Unhindered db := by
  unfold ifActive
  split
  · rintro ⟨⟩
  · exact h

theorem unhindered_roomFor {card : KeyCard} {guestName : Option String} {now : ℤ}
    {roomId : Option Id} : (roomFor card guestName now roomId).Unhindered db := by
  cases roomId <;> trivial

theorem unhindered_read {l : KeyLook} {next : KeyDb → Place} {failed : KeyErr → Place}
    (hstage : φ.stage offset = .read l next failed) : (next db).Unhindered db := by
  cases φ <;> simp only [stage, Stage.read.injEq, reduceCtorEq] at hstage <;>
    rcases hstage with ⟨-, rfl, -⟩
  case readReservation =>
    refine unhindered_orFailed (by rintro ⟨⟩) fun r => ?_
    split
    · rintro ⟨⟩
    · trivial
  case countCards => rfl
  case readRoom => trivial
  case findCard =>
    exact unhindered_orFailed (by rintro ⟨⟩) fun card => unhindered_ifActive trivial
  case readStay => exact unhindered_roomFor
  case findOld =>
    exact unhindered_orFailed (by rintro ⟨⟩) fun card => unhindered_ifActive trivial
  case readOldStay => exact unhindered_orFailed (by rintro ⟨⟩) fun r => trivial

theorem Place.Unhindered.next (h : φ.Unhindered c.db) (hnumbered : ∀ p, Numbered p c.db)
    (hmove : (staging offset).Moves c c' ev i φ φ' s s') : φ'.Unhindered c'.db := by
  cases hmove with
  | read hstage hdb htrace =>
    rw [hdb]
    exact unhindered_read hstage
  | @wrote _ _ _ _ f next failed hstage hok hpublishes htrace =>
    cases φ <;> simp only [staging, stage, Stage.write.injEq, reduceCtorEq] at hstage <;>
      rcases hstage with ⟨rfl, rfl, -⟩
    case cut => exact unhindered_roomFor
    case kill => exact unhindered_orFailed (by rintro ⟨⟩) fun card => trivial
    case retire => trivial
  | @refused _ _ _ _ f next failed e hstage herror hdb htrace =>
    cases φ <;> simp only [staging, stage, Stage.write.injEq, reduceCtorEq] at hstage <;>
      rcases hstage with ⟨rfl, -, rfl⟩
    case cut o count tries bump =>
      -- nobody else has taken the number
      have hany := (insertRow_eq_error.mp herror).1
      have hnumber : count + 1 + bump = count + bump + 1 := by omega
      rw [hnumber] at hany
      have hlt := (hnumbered o.propertyId).taken_iff.mp hany
      have hnext : count + bump = cardCount o.propertyId c.db := h
      omega
    case kill => cases herror
    case retire => cases herror
  | unread hstage hdb htrace =>
    rw [failed_of_fault.1 _ _ _ hstage]
    rintro ⟨⟩
  | unwritten hstage hdb htrace =>
    rw [failed_of_fault.2 _ _ _ hstage]
    rintro ⟨⟩
  | died hdb htrace => rintro ⟨⟩

end Alone

/-! ## The laws -/

/-- However the calls interleave, and whichever of them fail, the numbers are exact. -/
def ExactNumbers : Prop :=
  ∀ (offset : ℤ → ℤ) (calls : List CardCall) (db : KeyDb) (evs : List Event)
    (c : Config KeyDb Id KeyLook KeyErr KeyCardDto), (∀ p, Numbered p db) →
    (Config.start db (calls.map (CardCall.prog offset))).run evs = some c → ∀ p, Numbered p c.db

/-- A call on its own is never refused a number. -/
def NeverExhausted : Prop :=
  ∀ (offset : ℤ → ℤ) (call : CardCall) (db : KeyDb) (evs : List Event)
    (c : Config KeyDb Id KeyLook KeyErr KeyCardDto), (∀ p, Numbered p db) →
    (Config.start db [call.prog offset]).run evs = some c →
      ∀ s ∈ c.sessions, s.prog ≠ .throw .numberExhausted

theorem exact_numbers : ExactNumbers := by
  intro offset calls db evs c hdb hrun
  rw [progs_start] at hrun
  rcases (staging offset).run_throughout (Q := fun _ _ => True) (fun c φs => InOrder c.db φs)
    (fun _ _ _ _ _ _ _ _ _ _ h _ hφ _ _ hmove => h.next hφ hmove) (inOrder_start hdb calls)
    (Config.throughout_true evs _) hrun with ⟨φs, -, h⟩
  exact h.numbered

theorem never_exhausted : NeverExhausted := by
  intro offset call db evs c hdb hrun
  have hprogs := progs_start offset [call]
  simp only [List.map_cons, List.map_nil] at hprogs
  rw [hprogs] at hrun
  have hstart : InOrder db [call.start] ∧ ∀ φ ∈ [call.start], φ.Unhindered db := by
    refine ⟨inOrder_start hdb [call], fun φ hφ => ?_⟩
    rw [List.mem_singleton.mp hφ]
    cases call <;> trivial
  have hend := (staging offset).run_throughout (Q := fun _ _ => True)
    (fun c φs => (InOrder c.db φs ∧ ∀ φ ∈ φs, φ.Unhindered c.db) ∧ φs.length = 1) ?_
    ⟨hstart, rfl⟩ (Config.throughout_true evs _) hrun
  · rcases hend with ⟨φs, ht, ⟨-, hfree⟩, -⟩
    intro s hs hexhausted
    rcases List.mem_iff_getElem?.mp hs with ⟨i, hi⟩
    rcases ht.place hi with ⟨φ, hφ, hprog, -⟩
    have hplace := hfree φ (List.mem_of_getElem? hφ)
    rw [hexhausted] at hprog
    rw [Place.eq_failed offset hprog.symm] at hplace
    exact hplace rfl
  · rintro c c' φs ev i φ φ' s s' - ⟨⟨h, hfree⟩, hlength⟩ - hφ - - hmove
    refine ⟨⟨h.next hφ hmove, fun ψ hψ => ?_⟩, by rw [List.length_set, hlength]⟩
    have hnext := (hfree φ (List.mem_of_getElem? hφ)).next h.numbered hmove
    -- there is no other session
    rcases List.length_eq_one_iff.mp hlength with ⟨only, rfl⟩
    have hzero : i = 0 := by
      have hlt := (List.getElem?_eq_some_iff.mp hφ).1
      rw [List.length_singleton] at hlt
      omega
    rw [hzero, List.set_cons_zero, List.mem_singleton] at hψ
    rw [hψ]
    exact hnext

end Travelo.KeyCards
