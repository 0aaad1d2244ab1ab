import Travelo.Totals

/-!
# When totals are exact

A total that is cast gives the exact sum or fails, so each screen is exact exactly when every sum it
casts, and every amount it negates, is in the range of an `integer` (`totals_exact_iff`). Statements
add up without a cast, over the entries of an account in any property.
-/

namespace Travelo.Totals

open ReadCommitted Claims
open CashService (balanceOf shiftSum closed openShiftOf)

/-! ## Signed sums -/

section Signed

variable {α : Type} (adds : α → Bool) (amount : α → ℤ) (rows : List α)

/-- The exact sum. -/
def signedSum : ℤ := (rows.map fun e => if adds e then amount e else -amount e).sum

/-- Nothing leaves the range of an `integer` on the way. -/
structure SumFits : Prop where
  negations : ∀ e ∈ rows, adds e = false → Fits 32 (-amount e)
  total : Fits 32 (signedSum adds amount rows)

theorem only_toInt (n : ℤ) : Only (toInt n) n := only_narrow 32 TotalsErr.integerOutOfRange n

theorem toInt_ok_iff {n : ℤ} : toInt n = .ok n ↔ Fits 32 n := narrow_ok_iff

theorem only_signed (e : α) : Only (if adds e then .ok (amount e) else toInt (-amount e))
    (if adds e then amount e else -amount e) := by
  split
  · exact only_ok _
  · exact only_toInt _

theorem only_signedSumInt : Only (signedSumInt adds amount rows) (signedSum adds amount rows) :=
  (only_mapM fun e _ => only_signed adds amount e).bind (only_toInt _)

theorem signedSumInt_ok_iff : signedSumInt adds amount rows = .ok (signedSum adds amount rows) ↔
    SumFits adds amount rows := by
  have honly : ∀ e ∈ rows, Only (if adds e then .ok (amount e) else toInt (-amount e))
      (if adds e then amount e else -amount e) := fun e _ => only_signed adds amount e
  rw [signedSumInt, (only_mapM honly).bind_ok_iff, mapM_ok_iff honly]
  constructor
  · rintro ⟨hneg, htotal⟩
    refine ⟨fun e he hout => ?_, toInt_ok_iff.mp htotal⟩
    have hstep := hneg e he
    rw [hout] at hstep
    exact toInt_ok_iff.mp hstep
  · intro h
    refine ⟨fun e he => ?_, toInt_ok_iff.mpr h.total⟩
    cases hout : adds e with
    | true => rfl
    | false => exact toInt_ok_iff.mpr (h.negations e he hout)

end Signed

/-! ## Cash -/

theorem signed_cash (e : CashEntry) : (if addsCash e then e.amountPaise else -e.amountPaise) =
    match e.kind with
    | .FOLIO_CASH | .POS_CASH | .CASH_IN | .TOP_UP => e.amountPaise
    | _ => -e.amountPaise := by
  unfold addsCash
  cases e.kind <;> rfl

variable (propertyId : Id) (db : HotelDb)

theorem signedSum_drawer :
    signedSum addsCash (·.amountPaise) (drawer propertyId db) =
      balanceOf propertyId db := by
  simp only [signedSum, signed_cash]
  rfl

theorem signedSum_shift (shiftId : Id) (db : HotelDb) :
    signedSum addsCash (·.amountPaise) (shiftEntries shiftId db) =
      shiftSum shiftId db := by
  simp only [signedSum, signed_cash]
  rfl

theorem balancePaise_iff :
    balancePaise propertyId db = .ok (balanceOf propertyId db) ↔
      SumFits addsCash (·.amountPaise) (drawer propertyId db) := by
  rw [← signedSum_drawer]
  exact signedSumInt_ok_iff _ _ _

/-- What the drawer should hold. -/
def expectedCash (shift : StaffShift) (db : HotelDb) : ℤ :=
  shift.openingCashPaise + shiftSum shift.id db

/-- The close with the exact sum. -/
def exactClose (shift : StaffShift) (declaredCashPaise : ℤ) (note : Option String) (now : ℤ)
    (db : HotelDb) : StaffShift × ℤ :=
  (closed declaredCashPaise (expectedCash shift db) (note.or shift.note) now shift,
    declaredCashPaise - expectedCash shift db)

/-- The sum of the shift and the two columns are in range. -/
structure CloseFits (shift : StaffShift) (declaredCashPaise : ℤ) (db : HotelDb) : Prop where
  sum : SumFits addsCash (·.amountPaise) (shiftEntries shift.id db)
  declared : Fits 32 declaredCashPaise
  expected : Fits 32 (expectedCash shift db)

theorem closeShift_iff {propertyId staffId : Id} {shift : StaffShift} {db : HotelDb}
    (h : openShiftOf propertyId staffId db = some shift) (declaredCashPaise : ℤ)
    (note : Option String) (now : ℤ) :
    closeShift propertyId staffId declaredCashPaise note now db =
        .ok (exactClose shift declaredCashPaise note now db) ↔
      CloseFits shift declaredCashPaise db := by
  simp only [closeShift, h]
  rw [(only_signedSumInt _ _ _).bind_ok_iff, signedSumInt_ok_iff,
    (only_toInt _).bind_ok_iff, toInt_ok_iff, (only_toInt _).bind_ok_iff, toInt_ok_iff,
    signedSum_shift]
  constructor
  · rintro ⟨hsum, hdeclared, hexpected, -⟩
    exact ⟨hsum, hdeclared, hexpected⟩
  · intro hfits
    exact ⟨hfits.sum, hfits.declared, hfits.expected, rfl⟩

/-! ## Direct billing -/

/-- Every account with its exact balance in the property. -/
def accountBalances : List (CorporateAccount × ℤ) :=
  (liveAccounts propertyId db).map fun a =>
    (a, signedSum isCharge (·.amountPaise) (billedTo propertyId a.id db))

/-- The sum of every group fits. One that does not, of a deleted account even, fails the list. -/
def LedgerFits : Prop :=
  ∀ accountId ∈ billedAccounts propertyId db,
    SumFits isCharge (·.amountPaise) (billedTo propertyId accountId db)

/-- The sums by account. -/
def exactSums : List (Id × ℤ) :=
  (billedAccounts propertyId db).map fun accountId =>
    (accountId, signedSum isCharge (·.amountPaise) (billedTo propertyId accountId db))

theorem lookup_map_self {f : Id → ℤ} {k : Id} : ∀ {ks : List Id}, k ∈ ks →
    (ks.map fun k => (k, f k)).lookup k = some (f k)
  | [], h => by cases h
  | k' :: ks, h => by
    by_cases heq : k = k'
    · subst heq
      simp
    · have hrest : k ∈ ks := (List.mem_cons.mp h).resolve_left heq
      simp [List.lookup_cons, beq_false_of_ne heq, lookup_map_self hrest]

theorem lookup_map_none {f : Id → ℤ} {k : Id} : ∀ {ks : List Id}, k ∉ ks →
    (ks.map fun k => (k, f k)).lookup k = none
  | [], _ => rfl
  | k' :: ks, h => by
    rw [List.mem_cons, not_or] at h
    simp [List.lookup_cons, beq_false_of_ne h.1, lookup_map_none h.2]

variable (accountId : Id)

theorem lookup_exactSums (db : HotelDb) :
    ((exactSums propertyId db).lookup accountId).getD 0 =
      signedSum isCharge (·.amountPaise) (billedTo propertyId accountId db) := by
  unfold exactSums
  by_cases h : accountId ∈ billedAccounts propertyId db
  · rw [lookup_map_self h]
    rfl
  · rw [lookup_map_none h]
    have hnone : billedTo propertyId accountId db = [] := by
      refine List.filter_eq_nil_iff.mpr fun e he hid => h ?_
      rw [billedAccounts, List.mem_dedup, List.mem_map]
      exact ⟨e, he, by simpa using hid⟩
    rw [hnone]
    rfl

theorem only_group : Only (do
    let balance ← signedSumInt isCharge (·.amountPaise) (billedTo propertyId accountId db)
    return (accountId, balance))
    (accountId, signedSum isCharge (·.amountPaise) (billedTo propertyId accountId db)) :=
  (only_signedSumInt _ _ _).bind (only_ok _)

theorem accountBalances_eq :
    (liveAccounts propertyId db).map (fun a =>
      (a, ((exactSums propertyId db).lookup a.id).getD 0)) = accountBalances propertyId db :=
  List.map_congr_left fun a _ => congrArg (Prod.mk a) (lookup_exactSums propertyId a.id db)

theorem only_listWithBalances :
    Only (listWithBalances propertyId db) (accountBalances propertyId db) := by
  refine (only_mapM fun accountId _ => only_group propertyId db accountId).bind ?_
  rw [← accountBalances_eq]
  exact only_ok _

theorem listWithBalances_iff :
    listWithBalances propertyId db = .ok (accountBalances propertyId db) ↔
      LedgerFits propertyId db := by
  have honly : ∀ accountId ∈ billedAccounts propertyId db, Only _ _ :=
    fun accountId _ => only_group propertyId db accountId
  simp only [listWithBalances]
  rw [(only_mapM honly).bind_ok_iff, mapM_ok_iff honly]
  constructor
  · rintro ⟨hall, -⟩ accountId hid
    have hone := hall accountId hid
    rw [(only_signedSumInt _ _ _).bind_ok_iff] at hone
    exact (signedSumInt_ok_iff _ _ _).mp hone.1
  · intro h
    refine ⟨fun accountId hid => ?_, ?_⟩
    · rw [(only_signedSumInt _ _ _).bind_ok_iff]
      exact ⟨(signedSumInt_ok_iff _ _ _).mpr (h accountId hid), rfl⟩
    · rw [← accountBalances_eq]
      rfl

theorem runningLines_last (es : List CorporateLedgerEntry) (running : ℤ) :
    ((runningLines running es).getLast?.map (·.2)).getD running =
      running + signedSum isCharge (·.amountPaise) es := by
  induction es generalizing running with
  | nil =>
    show running = running + 0
    omega
  | cons e es ih =>
    have hrest := ih (running + (if isCharge e then e.amountPaise else -e.amountPaise))
    have hsum : signedSum isCharge (·.amountPaise) (e :: es) =
        (if isCharge e then e.amountPaise else -e.amountPaise) +
          signedSum isCharge (·.amountPaise) es := List.sum_cons
    rw [hsum, ← add_assoc, ← hrest, runningLines, List.getLast?_cons]
    cases (runningLines (running + (if isCharge e then e.amountPaise else -e.amountPaise))
      es).getLast? <;> rfl

/-- The entries of an account that were made under another property. -/
def billedElsewhere (db : HotelDb) : List CorporateLedgerEntry :=
  db.corporateLedger.filter fun e => e.accountId = accountId && e.propertyId ≠ propertyId

theorem sum_account (db : HotelDb) :
    signedSum isCharge (·.amountPaise)
        (db.corporateLedger.filter fun e => e.accountId = accountId) =
      signedSum isCharge (·.amountPaise) (billedTo propertyId accountId db) +
        signedSum isCharge (·.amountPaise) (billedElsewhere propertyId accountId db) := by
  unfold billedTo ledgerOf billedElsewhere
  induction db.corporateLedger with
  | nil => rfl
  | cons e es ih =>
    unfold signedSum at ih ⊢
    by_cases hid : e.accountId = accountId <;> by_cases hp : e.propertyId = propertyId <;>
      simp [hid, hp] <;> simp at ih <;> omega

/-- The list and the statements show the same balance of every account. -/
def Agrees : Prop :=
  ∃ items, listWithBalances propertyId db = .ok items ∧
    ∀ item ∈ items, ∃ st, statement propertyId item.1.id db = .ok st ∧ st.balancePaise = item.2

theorem statement_balance {propertyId : Id} {db : HotelDb} {a : CorporateAccount}
    (ha : a ∈ liveAccounts propertyId db) :
    ∃ st, statement propertyId a.id db = .ok st ∧
      st.balancePaise = signedSum isCharge (·.amountPaise)
        (db.corporateLedger.filter fun e => e.accountId = a.id) := by
  rcases List.mem_filter.mp ha with ⟨hmem, hlive⟩
  have hfind : db.corporateAccounts.find? a.id = some a := Table.find?_eq_some.mpr ⟨hmem, rfl⟩
  have haccount : DirectBillingService.accountOf propertyId a.id db = some a := by
    simpa [DirectBillingService.accountOf, hfind] using hlive
  simp only [statement, haccount]
  refine ⟨_, rfl, ?_⟩
  show ((runningLines 0 _).getLast?.map (·.2)).getD 0 = _
  rw [runningLines_last]
  omega

/-- **The list and the statements agree exactly when the list is exact and nothing is left of the
accounts' entries in other properties.** -/
theorem agrees_iff :
    Agrees propertyId db ↔ LedgerFits propertyId db ∧ ∀ a ∈ liveAccounts propertyId db,
      signedSum isCharge (·.amountPaise) (billedElsewhere propertyId a.id db) = 0 := by
  constructor
  · rintro ⟨items, hitems, hall⟩
    obtain rfl := only_listWithBalances propertyId db items hitems
    refine ⟨(listWithBalances_iff propertyId db).mp hitems, fun a ha => ?_⟩
    rcases hall _ (List.mem_map_of_mem ha) with ⟨st, hst, hbalance⟩
    rcases statement_balance ha with ⟨st', hst', hexact⟩
    obtain rfl : st = st' := Except.ok.inj (hst.symm.trans hst')
    have hsplit := sum_account propertyId a.id db
    simp only at hbalance
    omega
  · rintro ⟨hfits, hzero⟩
    refine ⟨_, (listWithBalances_iff propertyId db).mpr hfits, fun item hitem => ?_⟩
    rcases List.mem_map.mp hitem with ⟨a, ha, rfl⟩
    rcases statement_balance ha with ⟨st, hst, hexact⟩
    refine ⟨st, hst, ?_⟩
    have hsplit := sum_account propertyId a.id db
    have hnone := hzero a ha
    simp only
    omega

/-! ## Snapshots -/

/-- The three sums fit. -/
structure SnapshotsFit (rows : List PropertyDailySnapshot) : Prop where
  revenue : Fits 32 (SnapshotSums.of rows).revenue
  sold : Fits 32 (SnapshotSums.of rows).sold
  available : Fits 32 (SnapshotSums.of rows).available

theorem only_snapshotSums (rows : List PropertyDailySnapshot) :
    Only (snapshotSums rows) (.of rows) :=
  (only_toInt _).bind ((only_toInt _).bind ((only_toInt _).bind (only_ok _)))

theorem snapshotSums_iff (rows : List PropertyDailySnapshot) :
    snapshotSums rows = .ok (.of rows) ↔ SnapshotsFit rows := by
  unfold snapshotSums sumInt
  rw [(only_toInt _).bind_ok_iff, toInt_ok_iff, (only_toInt _).bind_ok_iff, toInt_ok_iff,
    (only_toInt _).bind_ok_iff, toInt_ok_iff]
  constructor
  · rintro ⟨hrevenue, hsold, havailable, -⟩
    exact ⟨hrevenue, hsold, havailable⟩
  · intro h
    exact ⟨h.revenue, h.sold, h.available, rfl⟩

theorem monthToDate_iff (day : ℤ) (db : HotelDb) :
    monthToDate propertyId day db = .ok (.of day (.of (closedDays propertyId day db))
        (closedDays propertyId day db).length) ↔
      SnapshotsFit (closedDays propertyId day db) ∧
        Fits 32 (closedDays propertyId day db).length := by
  simp only [monthToDate]
  rw [(only_snapshotSums _).bind_ok_iff, snapshotSums_iff, (only_toInt _).bind_ok_iff,
    toInt_ok_iff]
  constructor
  · rintro ⟨hsums, hdays, -⟩
    exact ⟨hsums, hdays⟩
  · rintro ⟨hsums, hdays⟩
    exact ⟨hsums, hdays, rfl⟩

/-! ## The portfolio -/

def SourceShare.of (source : ReservationSource) (stays : List Reservation) : SourceShare where
  source
  roomsSold := stays.length
  revenuePaise := (stays.map (·.totalPaise)).sum

/-- The page with exact sums. -/
def exactPortfolio (ownerId : Id) (months today : ℤ) (db : PortfolioDb) : PortfolioPerformance :=
  let props := ownedBy ownerId db
  let ids := props.map (·.id)
  let since := sinceDay today months
  let days := shownDays ids since db
  let stays := mixedStays ids since db
  if props.isEmpty then
    { months, since := none, properties := [], top := none, low := none, sources := [] }
  else
    .of months since props ((monthGroups days).map fun g => (g, .of (monthGroup days g)))
      ((sourceGroups stays).map fun source => .of source (sourceGroup stays source))

/-- The sums of every month of every property fit, and those of every source. -/
structure PortfolioFits (ids : List Id) (since : ℤ) (db : PortfolioDb) : Prop where
  months : ∀ g ∈ monthGroups (shownDays ids since db),
    SnapshotsFit (monthGroup (shownDays ids since db) g)
  rooms : ∀ source ∈ sourceGroups (mixedStays ids since db),
    Fits 32 (sourceGroup (mixedStays ids since db) source).length
  revenue : ∀ source ∈ sourceGroups (mixedStays ids since db),
    Fits 32 ((sourceGroup (mixedStays ids since db) source).map (·.totalPaise)).sum

theorem only_month (days : List PropertyDailySnapshot) (g : Id × ℤ) : Only (do
    let sums ← snapshotSums (monthGroup days g)
    return (g, sums)) (g, .of (monthGroup days g)) :=
  (only_snapshotSums _).bind (only_ok _)

theorem only_source (stays : List Reservation) (source : ReservationSource) : Only (do
    let rooms ← toInt (sourceGroup stays source).length
    let revenue ← sumInt ((sourceGroup stays source).map (·.totalPaise))
    return ({ source, roomsSold := rooms, revenuePaise := revenue } : SourceShare))
    (.of source (sourceGroup stays source)) :=
  (only_toInt _).bind ((only_toInt _).bind (only_ok _))

theorem portfolioPerformance_iff (ownerId : Id) (months today : ℤ) (db : PortfolioDb) :
    portfolioPerformance ownerId months today db = .ok (exactPortfolio ownerId months today db) ↔
      (ownedBy ownerId db ≠ [] →
        PortfolioFits ((ownedBy ownerId db).map (·.id)) (sinceDay today months) db) := by
  unfold portfolioPerformance exactPortfolio
  by_cases hnone : (ownedBy ownerId db).isEmpty = true
  · rw [if_pos hnone, if_pos hnone]
    have hempty := List.isEmpty_iff.mp hnone
    exact ⟨fun _ hsome => absurd hempty hsome, fun _ => rfl⟩
  · rw [if_neg hnone, if_neg hnone]
    have hsome : ownedBy ownerId db ≠ [] := fun h => hnone (List.isEmpty_iff.mpr h)
    rw [imp_iff_right hsome]
    let days := shownDays ((ownedBy ownerId db).map (·.id)) (sinceDay today months) db
    let stays := mixedStays ((ownedBy ownerId db).map (·.id)) (sinceDay today months) db
    have hmonths := fun g (_ : g ∈ monthGroups days) => only_month days g
    have hsources := fun source (_ : source ∈ sourceGroups stays) => only_source stays source
    dsimp only
    rw [(only_mapM hmonths).bind_ok_iff, mapM_ok_iff hmonths, (only_mapM hsources).bind_ok_iff,
      mapM_ok_iff hsources]
    constructor
    · rintro ⟨hrows, hshares, -⟩
      refine ⟨fun g hg => ?_, fun source hsource => ?_, fun source hsource => ?_⟩
      · have hrow := hrows g hg
        rw [(only_snapshotSums _).bind_ok_iff] at hrow
        exact (snapshotSums_iff _).mp hrow.1
      · have hshare := hshares source hsource
        rw [(only_toInt _).bind_ok_iff] at hshare
        exact toInt_ok_iff.mp hshare.1
      · have hshare := hshares source hsource
        rw [(only_toInt _).bind_ok_iff, sumInt, (only_toInt _).bind_ok_iff] at hshare
        exact toInt_ok_iff.mp hshare.2.1
    · intro h
      refine ⟨fun g hg => ?_, fun source hsource => ?_, rfl⟩
      · rw [(only_snapshotSums _).bind_ok_iff]
        exact ⟨(snapshotSums_iff _).mpr (h.months g hg), rfl⟩
      · rw [(only_toInt _).bind_ok_iff, sumInt, (only_toInt _).bind_ok_iff]
        exact ⟨toInt_ok_iff.mpr (h.rooms source hsource),
          toInt_ok_iff.mpr (h.revenue source hsource), rfl⟩

/-! ## Every screen -/

/-- **Each total is exact exactly when every sum it casts, and every amount it negates, fits**; the
close also writes two columns, and the list and the statements agree when the list is exact and
nothing is left of the accounts' entries in other properties. -/
theorem totals_exact_iff (db : PortfolioDb) (propertyId staffId ownerId : Id)
    (declaredCashPaise : ℤ) (note : Option String) (now day today months : ℤ) :
    (balancePaise propertyId db.hotel = .ok (balanceOf propertyId db.hotel) ↔
      SumFits addsCash (·.amountPaise) (drawer propertyId db.hotel)) ∧
    (∀ shift ∈ openShiftOf propertyId staffId db.hotel,
      (closeShift propertyId staffId declaredCashPaise note now db.hotel =
          .ok (exactClose shift declaredCashPaise note now db.hotel) ↔
        CloseFits shift declaredCashPaise db.hotel)) ∧
    (listWithBalances propertyId db.hotel = .ok (accountBalances propertyId db.hotel) ↔
      LedgerFits propertyId db.hotel) ∧
    (Agrees propertyId db.hotel ↔
      LedgerFits propertyId db.hotel ∧ ∀ a ∈ liveAccounts propertyId db.hotel,
        signedSum isCharge (·.amountPaise) (billedElsewhere propertyId a.id db.hotel) = 0) ∧
    (monthToDate propertyId day db.hotel =
        .ok (.of day (.of (closedDays propertyId day db.hotel))
          (closedDays propertyId day db.hotel).length) ↔
      SnapshotsFit (closedDays propertyId day db.hotel) ∧
        Fits 32 (closedDays propertyId day db.hotel).length) ∧
    (portfolioPerformance ownerId months today db =
        .ok (exactPortfolio ownerId months today db) ↔
      (ownedBy ownerId db ≠ [] →
        PortfolioFits ((ownedBy ownerId db).map (·.id)) (sinceDay today months) db)) :=
  ⟨balancePaise_iff propertyId db.hotel,
    fun _ h => closeShift_iff h declaredCashPaise note now,
    listWithBalances_iff propertyId db.hotel,
    agrees_iff propertyId db.hotel,
    monthToDate_iff propertyId day db.hotel,
    portfolioPerformance_iff ownerId months today db⟩

/-- Every stored amount fits its column. -/
structure AmountsFit (db : PortfolioDb) : Prop where
  cash : ∀ e ∈ db.hotel.cashEntries, Fits 32 e.amountPaise
  floats : ∀ s ∈ db.hotel.staffShifts, Fits 32 s.openingCashPaise
  ledger : ∀ e ∈ db.hotel.corporateLedger, Fits 32 e.amountPaise
  snapshots : ∀ d ∈ db.hotel.propertyDailySnapshots,
    Fits 32 d.revenuePaise ∧ Fits 32 d.roomsSold ∧ Fits 32 d.roomsAvailable
  stays : ∀ r ∈ db.hotel.reservations, Fits 32 r.totalPaise

/-- Totals are exact at any scale, and the list agrees with the statements. -/
def TotalsLaw : Prop :=
  ∀ (db : PortfolioDb) (propertyId staffId ownerId : Id) (declaredCashPaise : ℤ)
    (note : Option String) (now day today months : ℤ), AmountsFit db → Fits 32 declaredCashPaise →
    balancePaise propertyId db.hotel = .ok (balanceOf propertyId db.hotel) ∧
    (∀ shift ∈ openShiftOf propertyId staffId db.hotel,
      closeShift propertyId staffId declaredCashPaise note now db.hotel =
        .ok (exactClose shift declaredCashPaise note now db.hotel)) ∧
    listWithBalances propertyId db.hotel = .ok (accountBalances propertyId db.hotel) ∧
    Agrees propertyId db.hotel ∧
    monthToDate propertyId day db.hotel =
      .ok (.of day (.of (closedDays propertyId day db.hotel))
        (closedDays propertyId day db.hotel).length) ∧
    portfolioPerformance ownerId months today db =
      .ok (exactPortfolio ownerId months today db)

/-- Half the range of an `integer`: a little over a crore of rupees. -/
def topUp : CashEntry :=
  { propertyId := 1, shiftId := none, kind := .TOP_UP, amountPaise := 1073741824 }

/-- Two such top-ups are too much for the tile. -/
theorem tile_fails : ¬TotalsLaw := by
  intro hlaw
  have hfit : AmountsFit { hotel := { cashEntries := [topUp, topUp] } } := by
    refine ⟨?_, ?_, ?_, ?_, ?_⟩
    · decide
    · intro s hs
      exact absurd hs (notMem_empty s)
    · intro e he
      cases he
    · intro d hd
      exact absurd hd (notMem_empty d)
    · intro r hr
      exact absurd hr (notMem_empty r)
  have hexact := (hlaw _ 1 1 1 0 none 0 0 0 6 hfit (by decide)).1
  revert hexact
  decide

end Travelo.Totals
