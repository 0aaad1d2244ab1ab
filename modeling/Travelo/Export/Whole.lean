import Travelo.Claims.Paging
import Travelo.Export

/-!
# What an export holds

Every page is a query of its own, so the table can change between two of them, and rows that were
created in the same instant may come in another order each time. `export_whole_iff` says when every
row that matched throughout is written exactly once, whatever the database does with ties.
-/

namespace Travelo.Export

open ReadCommitted Claims Claims.Paging ExportService

/-! ## The order of the lists -/

/-- `ORDER BY created_at DESC`: `a` may come before `b`. -/
def createdFirst (a b : Row) : Prop := b.createdAt ≤ a.createdAt

instance : DecidableRel createdFirst :=
  fun _ _ => inferInstanceAs (Decidable (_ ≤ _))

instance : Std.Total createdFirst := ⟨fun a b => le_total b.createdAt a.createdAt⟩

instance : IsTrans Row createdFirst := ⟨fun _ _ _ hab hbc => le_trans hbc hab⟩

/-- The rows of the table that a list is of. -/
def matching (entity : ExportEntity) (q : Query) (t : Rows) : List Row :=
  t.rows.filter (conditions entity q)

/-- The table as it changes, and the moment of each page query. -/
structure Course where
  tables : ℕ → Rows
  moment : ℕ → ℕ
  inOrder : Monotone moment

variable (c : Course) (entity : ExportEntity) (q : Query)

/-- The rows that match when query `n` is made. -/
def Course.read (n : ℕ) : List Row := matching entity q (c.tables (c.moment n))

/-- What the database may answer: each time any order by creation time. -/
def Course.Answers (rowsAt : ℕ → List Row) : Prop :=
  ∀ n, Arranged createdFirst (c.read entity q n) (rowsAt n)

/-- Query `k` is made. -/
def Course.Asks (k : ℕ) : Prop :=
  Asked PAGE_SIZE MAX_ROWS (fun n => (c.read entity q n).length) k

/-- The row matched from the first query to the last. -/
def Course.Throughout (id : Id) : Prop :=
  ∀ k, c.Asks entity q k → ∀ i, c.moment 0 ≤ i → i ≤ c.moment k →
    ∃ row ∈ matching entity q (c.tables i), row.id = id

/-- The export is the whole list, once. -/
structure Whole (rowsAt : ℕ → List Row) : Prop where
  lines : rows entity rowsAt = headerLine entity :: (exported rowsAt).map (recordLine entity)
  once : ∀ id, c.Throughout entity q id → (exported rowsAt).countP (fun row => row.id = id) = 1
  /-- Nothing else is written while the table stays as it is. -/
  quiet : ∀ t, (∀ i, c.tables i = t) → (exported rowsAt).Perm (matching entity q t)

/-- The row is on page `j` whichever way ties fall. -/
def Course.Inside (j : ℕ) (row : Row) : Prop :=
  PAGE_SIZE * j ≤ strictlyBefore createdFirst (c.read entity q j) row ∧
    notAfter createdFirst (c.read entity q j) row ≤ PAGE_SIZE * (j + 1)

/-- The row is not on page `i` whichever way ties fall. -/
def Course.Outside (i : ℕ) (row : Row) : Prop :=
  notAfter createdFirst (c.read entity q i) row ≤ PAGE_SIZE * i ∨
    PAGE_SIZE * (i + 1) ≤ strictlyBefore createdFirst (c.read entity q i) row

/-- Every row that matched throughout is inside one page and outside the others: neither a tie nor a
row that came or went takes it over a seam. -/
def Course.Settled : Prop :=
  ∀ id, c.Throughout entity q id → ∃ j, c.Asks entity q j ∧
    (∀ row ∈ c.read entity q j, row.id = id → c.Inside entity q j row) ∧
    ∀ i ≠ j, c.Asks entity q i → ∀ row ∈ c.read entity q i, row.id = id → c.Outside entity q i row

/-! ## The pages -/

section Loop

variable {rowsAt : ℕ → List Row} {k : ℕ}

theorem length_list (l : List Row) (k : ℕ) :
    (list (some PAGE_SIZE) (some (PAGE_SIZE * k)) l).length =
      min PAGE_SIZE (l.length - PAGE_SIZE * k) :=
  length_page l k

theorem pagesFrom_full (hfull : PAGE_SIZE * (k + 1) ≤ (rowsAt k).length)
    (hcap : PAGE_SIZE * (k + 1) < MAX_ROWS) :
    pagesFrom rowsAt k (PAGE_SIZE * k) =
      page PAGE_SIZE (rowsAt k) k ++ pagesFrom rowsAt (k + 1) (PAGE_SIZE * (k + 1)) := by
  rw [Nat.mul_succ] at hfull hcap
  have hlen : (list (some PAGE_SIZE) (some (PAGE_SIZE * k)) (rowsAt k)).length = PAGE_SIZE := by
    rw [length_list]
    omega
  rw [pagesFrom, if_neg (by omega), hlen, Nat.mul_succ]
  rfl

theorem pagesFrom_last
    (h : PAGE_SIZE * (k + 1) ≤ (rowsAt k).length → ¬PAGE_SIZE * (k + 1) < MAX_ROWS) :
    pagesFrom rowsAt k (PAGE_SIZE * k) = page PAGE_SIZE (rowsAt k) k := by
  have hsize : 0 < PAGE_SIZE := by decide
  rw [Nat.mul_succ] at h
  rw [pagesFrom, if_pos]
  · rfl
  · rw [length_list]
    omega

theorem exported_eq (rowsAt : ℕ → List Row) :
    ∃ n, (∀ k, Asked PAGE_SIZE MAX_ROWS (fun n => (rowsAt n).length) k ↔ k ≤ n) ∧
      exported rowsAt = (List.range (n + 1)).flatMap fun k => page PAGE_SIZE (rowsAt k) k := by
  have hsize : 0 < PAGE_SIZE := by decide
  rcases exists_last hsize MAX_ROWS fun n => (rowsAt n).length with ⟨n, hn⟩
  refine ⟨n, hn, ?_⟩
  have hbefore : ∀ k ≤ n, exported rowsAt =
      ((List.range k).flatMap fun k => page PAGE_SIZE (rowsAt k) k) ++
        pagesFrom rowsAt k (PAGE_SIZE * k) := by
    intro k
    induction k with
    | zero =>
      intro _
      rfl
    | succ k ih =>
      intro hk
      rcases (asked_succ.mp ((hn (k + 1)).mpr hk)).2 with ⟨hfull, hcap⟩
      rw [ih (by omega), pagesFrom_full hfull hcap, List.range_succ, List.flatMap_append,
        List.append_assoc]
      simp
  have hlast := mt (hn (n + 1)).mp (by omega)
  rw [asked_succ, not_and, not_and] at hlast
  rw [hbefore n le_rfl, pagesFrom_last (hlast ((hn n).mpr le_rfl)), List.range_succ,
    List.flatMap_append]
  simp

end Loop

/-! ## Exactly once -/

theorem nodup_matching (t : Rows) : ((matching entity q t).map (·.id)).Nodup :=
  t.nodup.sublist (List.filter_sublist.map _)

variable {c entity q} {rowsAt : ℕ → List Row}

theorem Course.Answers.length (h : c.Answers entity q rowsAt) :
    (fun n => (rowsAt n).length) = fun n => (c.read entity q n).length :=
  funext fun n => (h n).1.length_eq

theorem countP_id {t : Rows} {l : List Row} {row : Row} (hl : Arranged createdFirst
    (matching entity q t) l) (hrow : row ∈ matching entity q t) (k : ℕ) :
    (page PAGE_SIZE l k).countP (fun other => other.id = row.id) =
      if row ∈ page PAGE_SIZE l k then 1 else 0 := by
  have hids := nodup_matching entity q t
  refine countP_page (by simp) (fun other hother hid => ?_)
    (hl.1.nodup_iff.mpr (.of_map _ hids)) k
  exact List.inj_on_of_nodup_map hids (hl.mem.mp hother) hrow (by simpa using hid)

/-- **A row that matched throughout is written once in every export exactly when it is inside one
page and outside the others.** -/
theorem once_iff_settled {id : Id} (hid : c.Throughout entity q id) :
    (∀ rowsAt, c.Answers entity q rowsAt →
        (exported rowsAt).countP (fun row => row.id = id) = 1) ↔
      ∃ j, c.Asks entity q j ∧
        (∀ row ∈ c.read entity q j, row.id = id → c.Inside entity q j row) ∧
        ∀ i ≠ j, c.Asks entity q i → ∀ row ∈ c.read entity q i, row.id = id →
          c.Outside entity q i row := by
  have hsize : 0 < PAGE_SIZE := by decide
  rcases exists_last hsize MAX_ROWS fun n => (c.read entity q n).length with ⟨n, hn⟩
  have hcount : ∀ rowsAt, c.Answers entity q rowsAt →
      (exported rowsAt).countP (fun row => row.id = id) =
        ∑ k ∈ Finset.range (n + 1),
          (page PAGE_SIZE (rowsAt k) k).countP fun row => row.id = id := by
    intro rowsAt h
    rcases exported_eq rowsAt with ⟨m, hm, heq⟩
    rw [h.length] at hm
    have hmn : m = n := by
      have hle := (hn m).mp ((hm m).mpr le_rfl)
      have hge := (hm n).mp ((hn n).mpr le_rfl)
      omega
    rw [heq, List.countP_flatMap, hmn]
    rfl
  -- The row as each of the queries finds it.
  have hfound : ∀ k, c.Asks entity q k → ∃ row ∈ c.read entity q k, row.id = id :=
    fun k hk => hid k hk _ (c.inOrder (Nat.zero_le k)) le_rfl
  have honly : ∀ {k} {row other : Row}, row ∈ c.read entity q k → other ∈ c.read entity q k →
      row.id = id → other.id = id → other = row := by
    intro k row other hrow hother hrid hoid
    exact List.inj_on_of_nodup_map (nodup_matching entity q _) hother hrow (hoid.trans hrid.symm)
  have hinside : ∀ {k} {row : Row}, row ∈ c.read entity q k → row.id = id →
      ((∀ l, Arranged createdFirst (c.read entity q k) l →
          (page PAGE_SIZE l k).countP (fun row => row.id = id) = 1) ↔
        c.Inside entity q k row) := by
    intro k row hrow hrid
    subst hrid
    rw [Course.Inside, ← forall_mem_page_iff hrow (.of_map _ (nodup_matching entity q _))]
    refine forall_congr' fun l => imp_congr_right fun hl => ?_
    rw [countP_id hl hrow]
    simp
  have houtside : ∀ {k} {row : Row}, row ∈ c.read entity q k → row.id = id →
      ((∀ l, Arranged createdFirst (c.read entity q k) l →
          (page PAGE_SIZE l k).countP (fun row => row.id = id) = 0) ↔
        c.Outside entity q k row) := by
    intro k row hrow hrid
    subst hrid
    rw [Course.Outside, ← forall_notMem_page_iff hsize hrow]
    refine forall_congr' fun l => imp_congr_right fun hl => ?_
    rw [countP_id hl hrow]
    simp
  have honce := once_iff (n + 1) (fun k => Arranged createdFirst (c.read entity q k))
    (fun k l => (page PAGE_SIZE l k).countP fun row => row.id = id)
    fun k => ⟨_, arranged_insertionSort _⟩
  have hsum : (∀ rowsAt, c.Answers entity q rowsAt →
        (exported rowsAt).countP (fun row => row.id = id) = 1) ↔
      ∀ rowsAt : ℕ → List Row, (∀ k, Arranged createdFirst (c.read entity q k) (rowsAt k)) →
        ∑ k ∈ Finset.range (n + 1),
          ((page PAGE_SIZE (rowsAt k) k).countP fun row => row.id = id) = 1 :=
    forall_congr' fun rowsAt => forall_congr' fun h => by rw [hcount rowsAt h]
  rw [hsum, honce]
  constructor
  · rintro ⟨j, hj, hin, hout⟩
    refine ⟨j, (hn j).mpr (by omega), fun row hrow hrid => (hinside hrow hrid).mp hin, ?_⟩
    intro i hij hi row hrow hrid
    exact (houtside hrow hrid).mp (hout i (Nat.lt_succ_of_le ((hn i).mp hi)) hij)
  · rintro ⟨j, hj, hin, hout⟩
    refine ⟨j, Nat.lt_succ_of_le ((hn j).mp hj), ?_, ?_⟩
    · rcases hfound j hj with ⟨row, hrow, hrid⟩
      exact (hinside hrow hrid).mpr (hin row hrow hrid)
    · intro i hi hij
      have hasks : c.Asks entity q i := (hn i).mpr (by omega)
      rcases hfound i hasks with ⟨row, hrow, hrid⟩
      exact (houtside hrow hrid).mpr (hout i hij hasks row hrow hrid)

theorem mem_exported (h : c.Answers entity q rowsAt) {row : Row} (hrow : row ∈ exported rowsAt) :
    ∃ n, row ∈ c.read entity q n := by
  rcases exported_eq rowsAt with ⟨n, -, heq⟩
  rw [heq, List.mem_flatMap] at hrow
  rcases hrow with ⟨k, -, hpage⟩
  exact ⟨k, (h k).mem.mp ((page_sublist _ _).subset hpage)⟩

theorem perm_of_once (h : c.Answers entity q rowsAt)
    (honce : ∀ id, c.Throughout entity q id →
      (exported rowsAt).countP (fun row => row.id = id) = 1)
    {t : Rows} (ht : ∀ i, c.tables i = t) : (exported rowsAt).Perm (matching entity q t) := by
  have hread : ∀ n, c.read entity q n = matching entity q t := fun n => by
    rw [Course.read, ht]
  have hids := nodup_matching entity q t
  have hmem : ∀ row ∈ exported rowsAt, row ∈ matching entity q t := by
    intro row hrow
    rcases mem_exported h hrow with ⟨n, hn⟩
    rwa [hread] at hn
  rw [List.perm_iff_count]
  intro row
  by_cases hrow : row ∈ matching entity q t
  · have hthrough : c.Throughout entity q row.id := by
      intro k _ i _ _
      rw [ht]
      exact ⟨row, hrow, rfl⟩
    have hsame : (exported rowsAt).count row =
        (exported rowsAt).countP fun other => other.id = row.id := by
      refine List.countP_congr fun other hother => ?_
      constructor
      · intro heq
        simp_all
      · intro hid
        have heq := List.inj_on_of_nodup_map hids (hmem other hother) hrow (by simpa using hid)
        simp [heq]
    rw [hsame, honce _ hthrough, List.count_eq_one_of_mem (.of_map _ hids) hrow]
  · rw [List.count_eq_zero.mpr hrow, List.count_eq_zero.mpr fun hin => hrow (hmem row hin)]

/-- **An export is the whole list, once, whatever order ties come in, exactly when every row that
matched throughout is inside one page and outside the others.** -/
theorem export_whole_iff (c : Course) (entity : ExportEntity) (q : Query) :
    (∀ rowsAt, c.Answers entity q rowsAt → Whole c entity q rowsAt) ↔ c.Settled entity q := by
  constructor
  · intro h id hid
    exact (once_iff_settled hid).mp fun rowsAt hans => (h rowsAt hans).once id hid
  · intro h rowsAt hans
    have honce : ∀ id, c.Throughout entity q id →
        (exported rowsAt).countP (fun row => row.id = id) = 1 :=
      fun id hid => (once_iff_settled hid).mpr (h id hid) rowsAt hans
    exact ⟨rfl, honce, fun t ht => perm_of_once hans honce ht⟩

/-- Every export of a table with no more rows than the ceiling is the whole list, once. -/
def ExportLaw : Prop :=
  ∀ (c : Course) (entity : ExportEntity) (q : Query) (rowsAt : ℕ → List Row),
    (∀ i, (matching entity q (c.tables i)).length ≤ MAX_ROWS) → c.Answers entity q rowsAt →
      Whole c entity q rowsAt

/-- Two hundred and one entries of one transaction. -/
def batch : List Row := (List.range 201).map fun i => { id := i, createdAt := 0 }

def batchTable : Rows := ⟨batch, by simp [batch, Function.comp_def, List.nodup_range]⟩

/-- The table at rest; the second page is asked for in the other order. -/
def atRest : Course := ⟨fun _ => batchTable, id, monotone_id⟩

def eitherWay (n : ℕ) : List Row := if n = 0 then batch else batch.reverse

/-- The first entry is on both pages and the last one on none. -/
theorem entry_missing : ¬ExportLaw := by
  intro hlaw
  have hmatching : matching .auditLogs [] batchTable = batch := by decide +kernel
  have htie : ∀ l : List Row, l.Perm batch → Arranged createdFirst batch l := by
    intro l hl
    have hzero : ∀ row ∈ batch, row.createdAt = 0 := by simp [batch]
    refine ⟨hl, List.pairwise_of_forall_mem_list fun a ha b hb => ?_⟩
    rw [createdFirst, hzero a (hl.subset ha), hzero b (hl.subset hb)]
  have hans : atRest.Answers .auditLogs [] eitherWay := by
    intro n
    show Arranged createdFirst (matching .auditLogs [] batchTable) (eitherWay n)
    rw [hmatching]
    refine htie _ ?_
    unfold eitherWay
    split
    · exact .refl _
    · exact List.reverse_perm batch
  have hsize : ∀ i, (matching .auditLogs [] (atRest.tables i)).length ≤ MAX_ROWS := by
    intro i
    show (matching .auditLogs [] batchTable).length ≤ MAX_ROWS
    rw [hmatching]
    decide +kernel
  have hperm := (hlaw atRest .auditLogs [] eitherWay hsize hans).quiet batchTable fun _ => rfl
  have hlast : { id := 200, createdAt := 0 } ∈ exported eitherWay := by
    rw [hperm.mem_iff, hmatching]
    decide +kernel
  have hlost : { id := 200, createdAt := 0 } ∉ exported eitherWay := by
    have hfirst : pagesFrom eitherWay 0 0 = page PAGE_SIZE batch 0 ++ pagesFrom eitherWay 1 200 :=
      pagesFrom_full (by decide +kernel) (by decide)
    have hsecond : pagesFrom eitherWay 1 200 = page PAGE_SIZE batch.reverse 1 :=
      pagesFrom_last (by decide +kernel)
    rw [exported, hfirst, hsecond]
    decide +kernel
  exact hlost hlast

end Travelo.Export
