import Travelo.Rates.Cells
import Travelo.Rates.Writes

/-!
# What a bulk edit comes to

A bulk edit that is accepted works cell by cell, each from the row that was there when it began
(`updateCell_eval`). What it leaves in a cell is `bulk_row`, what it logs `bulk_log`.
-/

namespace Travelo

open ReadCommitted

/-- The cell an entry of the log is about. -/
def RateChange.key (e : RateChange) : Id × Option Id × ℤ := (e.roomTypeId, e.ratePlanId, e.date)

namespace RatesService

/-- The prices a relative change of the request starts from. -/
def resolvedOf (propertyId : Id) (input : BulkUpdateInput) (db : HotelDb) :
    Except Err (List (Id × NightPrice)) :=
  match input.dates.head?, input.dates.getLast? with
  | some first, some last =>
    ((resolvedPrices propertyId input first (addDays last 1)).eval .idle db).1
  | _, _ => .ok []

/-- The resolved price of a cell. -/
def priceOf (resolved : List (Id × NightPrice)) (cell : Id × ℤ) : ℤ :=
  ((resolved.reverse.find? fun n => n.1 = cell.1 && n.2.date = cell.2).map
    (·.2.pricePaise)).getD 0

/-- The request passes the checks of `bulkUpdate`, and the prices it starts from are found. -/
structure AcceptedEdit (propertyId : Id) (input : BulkUpdateInput)
    (resolved : List (Id × NightPrice)) (db : HotelDb) : Prop where
  types : input.roomTypeIds ≠ []
  ranges : input.ranges ≠ []
  windows : assertRanges input.ranges = .ok ()
  owned : (db.roomTypes.rows.countP fun t =>
    t.propertyId = propertyId && input.roomTypeIds.contains t.id && t.deletedAt.isNone) =
      input.roomTypeIds.dedup.length
  priced : resolvedOf propertyId input db = .ok resolved

section Defs

variable (propertyId : Id) (input : BulkUpdateInput) (resolved : List (Id × NightPrice))
  (cell : Id × ℤ) (db : HotelDb)

/-- The row of a cell. -/
def cellDay : Option RateInventoryDay := planDay propertyId cell.1 input.ratePlanId cell.2 db

/-- What the request asks of a field of a cell. -/
def requestedOf (field : RateChangeField) : List RateValue :=
  requestedValues input.set (priceOf resolved cell) (cellDay propertyId input cell db) field

/-- The wants of the request that make a change in a cell. -/
def cellChanges : List RateWant :=
  changesTo input.set (priceOf resolved cell) (cellDay propertyId input cell db)

/-- The call ends without an error. -/
def Succeeds (batchId : Id) (now : ℤ) : Prop :=
  ∃ res, ((bulkUpdate propertyId input batchId now).run db).res = .ok res

end Defs

section Cells

variable {propertyId : Id} {input : BulkUpdateInput} {resolved : List (Id × NightPrice)}
  {batchId : Id} {now : ℤ} {existing : List RateInventoryDay} {cell : Id × ℤ} {db : HotelDb}

theorem keyOf_inj {c d : Id × ℤ} (h : input.keyOf c = input.keyOf d) : c = d := by
  simp only [BulkUpdateInput.keyOf, Prod.mk.injEq] at h
  exact Prod.ext h.1 h.2.2

/-- The rows that were read are those of the cells. -/
def Found (propertyId : Id) (input : BulkUpdateInput) (existing : List RateInventoryDay)
    (db : HotelDb) (cell : Id × ℤ) : Prop :=
  existing.find? (fun r => r.roomTypeId = cell.1 && r.date = cell.2) =
    cellDay propertyId input cell db

theorem updateCell_eval (hfound : Found propertyId input existing db cell) (s : HotelDb) :
    (updateCell propertyId input batchId now existing resolved cell).eval .idle s =
      let changes := cellChanges propertyId input resolved cell db
      if changes = [] then (.ok false, .idle, s)
      else
        match writeDay propertyId input now cell (cellDay propertyId input cell db)
          (nextOf changes) s with
        | .ok s' => (.ok true, .idle, { s' with
            rateChangeLog :=
              s'.rateChangeLog ++ changesOf propertyId input batchId cell changes })
        | .error e => (.error e, .idle, s) := by
  have hchanges : changesTo input.set (((resolved.reverse.find? fun n =>
      n.1 = cell.1 && n.2.date = cell.2).map (·.2.pricePaise)).getD 0)
      (existing.find? fun r => r.roomTypeId = cell.1 && r.date = cell.2) =
        cellChanges propertyId input resolved cell db := by
    rw [hfound]
    rfl
  unfold updateCell
  simp only [hchanges, eval_ite, eval_pure, List.isEmpty_iff]
  split_ifs with hempty
  · rfl
  · rw [hfound, eval_bind, Prog.eval_writeChecked_idle]
    cases writeDay propertyId input now cell (cellDay propertyId input cell db)
      (nextOf (cellChanges propertyId input resolved cell db)) s with
    | ok s' => rfl
    | error e => rfl

theorem apply_apply (next : RateDayPatch) (tag updatedBy : Option Id) (d : RateInventoryDay) :
    next.apply tag updatedBy now (next.apply tag updatedBy now d) =
      next.apply tag updatedBy now d := by
  have hgetD : ∀ {α : Type} (o : Option α) (a : α), o.getD (o.getD a) = o.getD a := by
    rintro α (_ | _) a <;> rfl
  have htag : ∀ (c : Bool) (t r : Option Id),
      (if c = true then t else if c = true then t else r) = if c = true then t else r := by
    intro c t r
    split_ifs <;> rfl
  simp only [RateDayPatch.apply, hgetD, htag]

theorem updateCell_cases (hfound : Found propertyId input existing db cell) {s s' : HotelDb}
    {b : Bool} {t : Tx HotelDb}
    (heval : (updateCell propertyId input batchId now existing resolved cell).eval .idle s =
      (.ok b, t, s')) :
    t = .idle ∧ s'.rateChangeLog = s.rateChangeLog ++
        changesOf propertyId input batchId cell (cellChanges propertyId input resolved cell db) ∧
      (cellChanges propertyId input resolved cell db = [] → s' = s) ∧
      (cellChanges propertyId input resolved cell db ≠ [] → ∃ s₁,
        writeDay propertyId input now cell (cellDay propertyId input cell db)
          (nextOf (cellChanges propertyId input resolved cell db)) s = .ok s₁ ∧
        s'.rateInventoryDays = s₁.rateInventoryDays) := by
  rw [updateCell_eval hfound] at heval
  by_cases hempty : cellChanges propertyId input resolved cell db = []
  · simp only [hempty, if_true] at heval
    cases heval
    refine ⟨rfl, ?_, fun _ => rfl, fun h => absurd hempty h⟩
    rw [hempty]
    exact (List.append_nil _).symm
  · simp only [hempty, if_false] at heval
    split at heval
    · next s₁ hwrite =>
      cases heval
      refine ⟨rfl, ?_, fun h => absurd h hempty, fun _ => ⟨s₁, hwrite, rfl⟩⟩
      rw [(writeDay_ok hwrite).2.1]
    · cases heval

/-! ## The edits one after the other -/

variable {l : List (Id × ℤ)} {s s' : HotelDb} {as : List Bool} {t : Tx HotelDb}

theorem bulk_log (hfound : ∀ cell ∈ l, Found propertyId input existing db cell)
    (heval : (all (updateCell propertyId input batchId now existing resolved) l).eval .idle s =
      (.ok as, t, s')) :
    s'.rateChangeLog = s.rateChangeLog ++ l.flatMap fun cell =>
      changesOf propertyId input batchId cell (cellChanges propertyId input resolved cell db) := by
  induction l generalizing s as with
  | nil =>
    cases heval
    exact (List.append_nil _).symm
  | cons c l ih =>
    obtain ⟨b, as', t₁, s₁, -, hhead, hrest⟩ := Prog.eval_all_cons_ok heval
    obtain ⟨rfl, hlog, -, -⟩ := updateCell_cases (hfound c List.mem_cons_self) hhead
    rw [ih (fun cell hcell => hfound cell (List.mem_cons_of_mem c hcell)) hrest, hlog,
      List.flatMap_cons, List.append_assoc]

theorem bulk_row_same (hfound : ∀ cell ∈ l, Found propertyId input existing db cell)
    (hnone : cellChanges propertyId input resolved cell db = [])
    (heval : (all (updateCell propertyId input batchId now existing resolved) l).eval .idle s =
      (.ok as, t, s')) : SameRow (input.keyOf cell) s s' := by
  refine (Prog.eval_all_keeps (P := SameRow (input.keyOf cell) s) ?_ (SameRow.refl s) heval).2
  intro c hc s₁ b t s₂ hs hstep
  obtain ⟨rfl, -, hsame, -⟩ := updateCell_cases (hfound c hc) hstep
  refine ⟨rfl, ?_⟩
  by_cases hne : c = cell
  · subst hne
    rw [hsame hnone]
    exact hs
  · exact hs.trans _ _ _ (updateCell_other hne hstep)

/-- The row of a cell in which something changes. -/
def rowAfter (propertyId : Id) (input : BulkUpdateInput) (now : ℤ)
    (resolved : List (Id × NightPrice)) (cell : Id × ℤ) (db : HotelDb) : RateInventoryDay :=
  (nextOf (cellChanges propertyId input resolved cell db)).apply input.tag input.actorStaffId now
    ((cellDay propertyId input cell db).getD (emptyDay propertyId input cell))

theorem find?_of_cellDay {row : RateInventoryDay} (h : cellDay propertyId input cell db = some row) :
    db.rateInventoryDays.find? (input.keyOf cell) = some row := by
  rw [cellDay, planDay_eq] at h
  exact (Option.filter_eq_some_iff.mp h).1

theorem writeDay_flags {before : Option RateInventoryDay} {next : RateDayPatch}
    (h : writeDay propertyId input now cell before next s = .ok s') :
    next.violatesNotNull = false := by
  by_contra hviolates
  rw [Bool.not_eq_false] at hviolates
  rw [writeDay, if_pos hviolates] at h
  cases h

/-- What the edit of a cell in which something changes leaves, when the cell has the row it had
at first or the row it is given. -/
theorem updateCell_row (hfound : Found propertyId input existing db cell)
    (hsome : cellChanges propertyId input resolved cell db ≠ [])
    (hrow : SameRow (input.keyOf cell) db s ∨ s.rateInventoryDays.find? (input.keyOf cell) =
      some (rowAfter propertyId input now resolved cell db)) {b : Bool}
    (heval : (updateCell propertyId input batchId now existing resolved cell).eval .idle s =
      (.ok b, t, s')) :
    t = .idle ∧
      (nextOf (cellChanges propertyId input resolved cell db)).violatesNotNull = false ∧
      (cellDay propertyId input cell db = none →
        s.rateInventoryDays.find? (input.keyOf cell) = none) ∧
      s'.rateInventoryDays.find? (input.keyOf cell) =
        some (rowAfter propertyId input now resolved cell db) := by
  obtain ⟨rfl, -, -, hwrites⟩ := updateCell_cases hfound heval
  obtain ⟨s₁, hwrite, hdays⟩ := hwrites hsome
  rw [hdays]
  refine ⟨rfl, writeDay_flags hwrite, ?_⟩
  cases hbefore : cellDay propertyId input cell db with
  | none =>
    rw [hbefore] at hwrite
    obtain ⟨-, -, -, hcell⟩ := writeDay_ok hwrite
    refine ⟨fun _ => hcell.1, ?_⟩
    rw [hcell.2, rowAfter, hbefore]
    rfl
  | some row =>
    rw [hbefore] at hwrite
    obtain ⟨-, -, -, hcell⟩ := writeDay_ok hwrite
    refine ⟨fun h => (nomatch h), ?_⟩
    rcases hrow with hsame | hgiven
    · rw [hcell, show s.rateInventoryDays.find? (input.keyOf cell) = _ from hsame,
        find?_of_cellDay hbefore, rowAfter, hbefore]
      rfl
    · -- the cell is named again, and the patch is made once more
      rw [hcell, hgiven, Option.map_some, rowAfter, apply_apply]

theorem bulk_row (hfound : ∀ cell ∈ l, Found propertyId input existing db cell) (hmem : cell ∈ l)
    (hsome : cellChanges propertyId input resolved cell db ≠ [])
    (heval : (all (updateCell propertyId input batchId now existing resolved) l).eval .idle
      db = (.ok as, t, s')) :
    (nextOf (cellChanges propertyId input resolved cell db)).violatesNotNull = false ∧
      (cellDay propertyId input cell db = none →
        db.rateInventoryDays.find? (input.keyOf cell) = none) ∧
      s'.rateInventoryDays.find? (input.keyOf cell) =
        some (rowAfter propertyId input now resolved cell db) := by
  let Q (s : HotelDb) : Prop :=
    (nextOf (cellChanges propertyId input resolved cell db)).violatesNotNull = false ∧
      (cellDay propertyId input cell db = none →
        db.rateInventoryDays.find? (input.keyOf cell) = none) ∧
      s.rateInventoryDays.find? (input.keyOf cell) =
        some (rowAfter propertyId input now resolved cell db)
  let P (s : HotelDb) : Prop := SameRow (input.keyOf cell) db s ∨ Q s
  have hself : ∀ s b t s', P s →
      (updateCell propertyId input batchId now existing resolved cell).eval .idle s =
        (.ok b, t, s') → t = .idle ∧ Q s' := by
    intro s b t s' hs hstep
    obtain ⟨ht, hflags, hfree, hrow⟩ :=
      updateCell_row (hfound cell hmem) hsome (hs.imp_right fun h => h.2.2) hstep
    refine ⟨ht, hflags, fun hnone => ?_, hrow⟩
    rcases hs with hsame | hgiven
    · exact Eq.trans (Eq.symm hsame) (hfree hnone)
    · exact hgiven.2.1 hnone
  have hother : ∀ c ∈ l, c ≠ cell → ∀ s b t s',
      (updateCell propertyId input batchId now existing resolved c).eval .idle s =
        (.ok b, t, s') → t = .idle ∧ SameRow (input.keyOf cell) s s' :=
    fun c hc hne s b t s' hstep =>
      ⟨(updateCell_cases (hfound c hc) hstep).1, updateCell_other hne hstep⟩
  refine Prog.eval_all_brings (P := P) (Q := Q) hmem ?_ ?_ ?_ (.inl (SameRow.refl db)) heval
  · intro c hc s b t s' hs hstep
    by_cases hne : c = cell
    · subst hne
      exact (hself s b t s' hs hstep).imp_right .inr
    · obtain ⟨ht, hsame⟩ := hother c hc hne s b t s' hstep
      refine ⟨ht, hs.imp (fun h => h.trans _ _ _ hsame) fun h => ?_⟩
      exact ⟨h.1, h.2.1, Eq.trans hsame h.2.2⟩
  · intro c hc s b t s' hs hstep
    by_cases hne : c = cell
    · subst hne
      exact hself s b t s' (.inr hs) hstep
    · obtain ⟨ht, hsame⟩ := hother c hc hne s b t s' hstep
      exact ⟨ht, hs.1, hs.2.1, Eq.trans hsame hs.2.2⟩
  · exact fun s b t s' hs hstep => (hself s b t s' hs hstep).2

/-- Edits succeed that give no flag `null` and find each new row's place free, once. -/
theorem bulk_succeeds (hfound : ∀ cell ∈ l, Found propertyId input existing db cell)
    (hfine : ∀ cell ∈ l, cellChanges propertyId input resolved cell db = [] ∨
      (nextOf (cellChanges propertyId input resolved cell db)).violatesNotNull = false ∧
        (cellDay propertyId input cell db = none →
          l.count cell = 1 ∧ s.rateInventoryDays.find? (input.keyOf cell) = none)) :
    ∃ as s', (all (updateCell propertyId input batchId now existing resolved) l).eval .idle
      s = (.ok as, .idle, s') := by
  induction l generalizing s with
  | nil => exact ⟨[], s, rfl⟩
  | cons c l ih =>
    obtain ⟨b, s₁, hhead⟩ : ∃ b s₁,
        (updateCell propertyId input batchId now existing resolved c).eval .idle s =
          (.ok b, .idle, s₁) := by
      rw [updateCell_eval (hfound c List.mem_cons_self)]
      rcases hfine c List.mem_cons_self with hnone | ⟨hflags, hfree⟩
      · exact ⟨_, _, if_pos hnone⟩
      · simp only
        split_ifs with hnone
        · exact ⟨_, _, rfl⟩
        · cases hbefore : cellDay propertyId input c db with
          | some row => simp [writeDay, hflags]
          | none =>
            have hkey : s.rateInventoryDays.hasKey (input.keyOf c) = false := by
              rw [hasKey_eq_false]
              intro d hd heq
              have hno := List.find?_eq_none.mp (hfree hbefore).2 d hd
              simp [heq] at hno
            simp [writeDay, hflags, hkey]
    obtain ⟨as, s₂, hrest⟩ := ih (s := s₁)
      (fun cell hcell => hfound cell (List.mem_cons_of_mem c hcell)) fun d hd => by
        refine (hfine d (List.mem_cons_of_mem c hd)).imp_right fun hlater =>
          ⟨hlater.1, fun hnone => ?_⟩
        obtain ⟨honce, hplace⟩ := hlater.2 hnone
        -- a cell that is still to come once has not been there before
        have hne : c ≠ d := by
          rintro rfl
          have hpos := List.count_pos_iff.mpr hd
          rw [List.count_cons_self] at honce
          omega
        rw [List.count_cons_of_ne hne] at honce
        exact ⟨honce, Eq.trans (updateCell_other hne hhead) hplace⟩
    refine ⟨b :: as, s₂, ?_⟩
    rw [all, eval_bind', hhead]
    show ((all _ l).bind _).eval .idle s₁ = _
    rw [eval_bind', hrest]
    rfl

theorem bulkUpdate_eval (h : AcceptedEdit propertyId input resolved db) (batchId : Id) (now : ℤ) :
    ∃ existing, (∀ cell ∈ input.cells, Found propertyId input existing db cell) ∧ ∀ db',
      (∃ res, (bulkUpdate propertyId input batchId now).eval .idle db = (.ok res, .idle, db')) ↔
        ∃ as t, (all (updateCell propertyId input batchId now existing resolved)
          input.cells).eval .idle db = (.ok as, t, db') := by
  have hpriced := h.priced
  have hbulk : (bulkUpdate propertyId input batchId now).eval .idle db =
      (match input.dates.head?, input.dates.getLast? with
      | some first, some last => do
        let changed ← transaction
          (updateCells propertyId input batchId now first (addDays last 1))
        return ⟨some batchId, input.cells.length, changed.countP id⟩
      | _, _ => return ⟨none, 0, 0⟩ : Op BulkUpdateResult).eval .idle db := by
    unfold bulkUpdate
    simp only [eval_simps, h.types, h.ranges, h.windows, h.owned, if_false, ne_eq,
      not_true_eq_false]
    all_goals rfl
  rw [hbulk]
  unfold resolvedOf at hpriced
  rcases hdates : input.dates with _ | ⟨first, rest⟩
  · -- no date is left: nothing is edited
    have hcells : input.cells = [] := by
      simp [BulkUpdateInput.cells, hdates]
    refine ⟨[], fun cell hcell => ?_, fun db' => ?_⟩
    · rw [hcells] at hcell
      cases hcell
    · rw [hcells]
      constructor
      · rintro ⟨res, hres⟩
        cases hres
        exact ⟨[], .idle, rfl⟩
      · rintro ⟨as, t, has⟩
        cases has
        exact ⟨_, rfl⟩
  · obtain ⟨last, hlast⟩ : ∃ last, input.dates.getLast? = some last :=
      ⟨_, List.getLast?_eq_some_getLast (by rw [hdates]; exact List.cons_ne_nil _ _)⟩
    have hfirst : input.dates.head? = some first := by rw [hdates]; rfl
    rw [← hdates]
    rw [hfirst, hlast] at hpriced ⊢
    rcases hread : (resolvedPrices propertyId input first (addDays last 1)).eval .idle db
      with ⟨res, t, db₁⟩
    obtain ⟨rfl, rfl⟩ := resolvedPrices_idle hread
    obtain rfl : res = .ok resolved := by
      simpa only [hread] using hpriced
    refine ⟨dayRows propertyId input.roomTypeIds first (addDays last 1) input.ratePlanId db,
      fun cell hcell => ?_, fun db' => ?_⟩
    · obtain ⟨typeId, htype, hin⟩ := List.mem_flatMap.mp hcell
      obtain ⟨date, hdate, rfl⟩ := List.mem_map.mp hin
      exact dayRows_find?_plan htype (dates_window hfirst hlast hdate)
    · have hcells : (updateCells propertyId input batchId now first (addDays last 1)).eval .idle
          db = (all (updateCell propertyId input batchId now
            (dayRows propertyId input.roomTypeIds first (addDays last 1) input.ratePlanId db)
              resolved) input.cells).eval .idle db := by
        rw [updateCells, eval_bind, eval_select_idle]
        simp only [eval_bind, hread]
      simp only [eval_bind, updateCells_body.eval_transaction, hcells]
      rcases (all (updateCell propertyId input batchId now
        (dayRows propertyId input.roomTypeIds first (addDays last 1) input.ratePlanId db)
          resolved) input.cells).eval .idle db with ⟨e | as, t, db₂⟩
      · simp
      · simp

theorem succeeds_iff {db' : HotelDb} :
    (Succeeds propertyId input db batchId now ∧
        ((bulkUpdate propertyId input batchId now).run db).db = db') ↔
      ∃ res, (bulkUpdate propertyId input batchId now).eval .idle db = (.ok res, .idle, db') := by
  have hidle : ((bulkUpdate propertyId input batchId now).eval .idle db).2.1 = .idle :=
    (bulkUpdate_ratesOnly db).1
  simp only [Succeeds, Prog.run_res, Prog.run_db]
  rcases heval : (bulkUpdate propertyId input batchId now).eval .idle db with ⟨res, t, s⟩
  rw [heval] at hidle
  obtain rfl : t = .idle := hidle
  constructor
  · rintro ⟨⟨out, rfl⟩, rfl⟩
    exact ⟨out, rfl⟩
  · rintro ⟨out, hout⟩
    cases hout
    exact ⟨⟨out, rfl⟩, rfl⟩

/-! ## Counting -/

theorem count_cells (hcell : cell ∈ input.cells) :
    input.cells.count cell = input.roomTypeIds.count cell.1 := by
  obtain ⟨typeId, -, hin⟩ := List.mem_flatMap.mp hcell
  obtain ⟨date, hdate, rfl⟩ := List.mem_map.mp hin
  have hnodup : input.dates.Nodup :=
    (List.perm_insertionSort _ _).nodup_iff.mpr (List.nodup_dedup _)
  have hrow : ∀ id : Id, (input.dates.map fun d => (id, d)).count (typeId, date) =
      if id = typeId then 1 else 0 := by
    intro id
    split_ifs with hid
    · subst hid
      have hpairs : (input.dates.map fun d => (id, d)).Nodup :=
        hnodup.map fun a b hab => (Prod.mk.inj hab).2
      exact List.count_eq_one_of_mem hpairs (List.mem_map_of_mem hdate)
    · refine List.count_eq_zero.mpr fun hmem => ?_
      obtain ⟨d, -, hd⟩ := List.mem_map.mp hmem
      exact hid (Prod.mk.inj hd).1
  unfold BulkUpdateInput.cells
  induction input.roomTypeIds with
  | nil => rfl
  | cons id ids ih =>
    rw [List.flatMap_cons, List.count_append, hrow, ih, List.count_cons]
    simp only [beq_iff_eq]
    omega

theorem countP_entries (changes : Id × ℤ → List RateWant) (l : List (Id × ℤ)) (cell : Id × ℤ)
    (field : RateChangeField) :
    ((l.flatMap fun c => changesOf propertyId input batchId c (changes c)).countP fun e =>
        e.key = input.keyOf cell ∧ e.field = field) =
      l.count cell * (changes cell).countP fun w => w.field = field := by
  have hone : ∀ c, ((changesOf propertyId input batchId c (changes c)).countP fun e =>
      e.key = input.keyOf cell ∧ e.field = field) =
        if c = cell then (changes cell).countP (fun w => w.field = field) else 0 := by
    intro c
    rw [changesOf, List.countP_map]
    split_ifs with hc
    · subst hc
      refine List.countP_congr fun w _ => ?_
      simp [RateChange.key, BulkUpdateInput.keyOf]
    · refine List.countP_eq_zero.mpr fun w _ => ?_
      have hkey : input.keyOf c ≠ input.keyOf cell := fun h => hc (keyOf_inj h)
      simp [RateChange.key, hkey, show (c.1, input.ratePlanId, c.2) = input.keyOf c from rfl]
  induction l with
  | nil => simp
  | cons c l ih =>
    rw [List.flatMap_cons, List.countP_append, hone, ih, List.count_cons]
    by_cases hc : c = cell
    · simp only [hc, if_true, beq_self_eq_true, Nat.add_one_mul]
      omega
    · simp only [hc, if_false, beq_iff_eq, Nat.add_zero, Nat.zero_add]

theorem mem_entries {changes : Id × ℤ → List RateWant} {e : RateChange} :
    (e ∈ l.flatMap fun c => changesOf propertyId input batchId c (changes c)) →
      ∃ c ∈ l, ∃ w ∈ changes c, e.key = input.keyOf c ∧ e.field = w.field ∧
        e.before = w.before ∧ e.after = w.after := by
  intro he
  obtain ⟨c, hc, hin⟩ := List.mem_flatMap.mp he
  obtain ⟨w, hw, rfl⟩ := List.mem_map.mp hin
  exact ⟨c, hc, w, hw, rfl, rfl, rfl, rfl⟩

end Cells

end RatesService

end Travelo
