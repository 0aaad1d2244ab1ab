import Mathlib.Data.List.Forall2
import Travelo.Reservations.CustomReport

/-!
# What the report builder sends

`CustomReportDto.statement` is the statement a query asks for, each name replaced by what its
entity lists under it; the texts of the caller are literals. The builder sends that statement,
and refuses what cannot be built (`OwnSql`), unless a name is one that every object inherits,
no measure is asked of the night audit, or a text holds what cannot be written.
-/

namespace Travelo

open Claims.SqlText

namespace CustomReports

/-! ## The statement a query asks for -/

inductive Conjunct where
  | compares (col op value : String)
  | isNull (col : String)
  | isIn (col : String) (values : List String)

structure Statement where
  group : Option String
  measures : List (String × String)
  table : String
  conjuncts : List Conjunct

def sql (text : String) : Piece := .sql text.toList

/-- The values between the brackets, and the bracket that ends them. -/
def valuePieces : List String → List Piece
  | [] => [sql ")"]
  | [value] => [.literal value.toList, sql ")"]
  | value :: values => .literal value.toList :: sql "," :: valuePieces values

def Conjunct.pieces : Conjunct → List Piece
  | .compares col op value => [sql (col ++ op), .literal value.toList]
  | .isNull col => [sql (col ++ " is null")]
  | .isIn col values => sql (col ++ " in (") :: valuePieces values

/-- The where clause: the conjuncts, joined by `and`. -/
def wherePieces : List Conjunct → List Piece
  | [] => []
  | [c] => c.pieces
  | c :: cs => c.pieces ++ sql " and " :: wherePieces cs

def headSql (group : Option String) (measures : List (String × String)) (table : String) :
    String :=
  "select " ++ selectList group measures ++ " from " ++ table ++ " where "

def tailSql (group : Option String) (measures : List (String × String)) : String :=
  groupSql group ++ orderSql group measures ++ " limit 500"

def Statement.pieces (st : Statement) : List Piece :=
  sql (headSql st.group st.measures st.table) :: (wherePieces st.conjuncts ++
    [sql (tailSql st.group st.measures)])

/-- The property and the dates; the entity's own columns, the caller's texts. -/
def windowConjuncts (spec : EntitySpec) (propertyId : String) (q : CustomReportDto) :
    List Conjunct :=
  [.compares spec.propertyCol " = " propertyId, .compares spec.dateCol " >= " q.since,
    .compares spec.dateCol " <= " q.till] ++ (spec.softDelete.map Conjunct.isNull).toList

/-- What an optional name stands for. -/
def listedGroup (spec : EntitySpec) : Option String → Option (Option String)
  | none => some none
  | some name => (listed spec.dimensions name).map some

/-- The statement made of what the entity lists, if it lists all that is named. -/
def CustomReportDto.statement (propertyId : String) (q : CustomReportDto) : Option Statement := do
  let spec := CUSTOM_REPORT_ENTITIES q.entity
  let group ← listedGroup spec q.groupBy
  let measures ← q.measureNames.mapM fun name =>
    (listed spec.measures name).map fun expr => (name, expr)
  let filters ← q.filters.mapM fun f =>
    (listed spec.dimensions f.field).map fun col =>
      Conjunct.isIn col (f.values.map FilterValue.text)
  return {
    group
    measures
    table := spec.table
    conjuncts := windowConjuncts spec propertyId q ++ filters }

/-- The query names a dimension or a measure that the entity does not list. -/
def NamesUnlisted (q : CustomReportDto) : Prop :=
  let spec := CUSTOM_REPORT_ENTITIES q.entity
  (∃ name, q.groupBy = some name ∧ listed spec.dimensions name = none) ∨
    (∃ name ∈ q.measures, listed spec.measures name = none) ∨
      ∃ f ∈ q.filters, listed spec.dimensions f.field = none

/-- The builder refuses the queries that name what is not listed and no others, and what it
sends reads as the statement the query asks for: the entity's own SQL, and each text of the
caller a literal. -/
def OwnSql (propertyId : String) (q : CustomReportDto) : Prop :=
  ((∃ e, customReport propertyId q = .error e) ↔ NamesUnlisted q) ∧
    ∀ report, customReport propertyId q = .ok report →
      ∃ st ts, q.statement propertyId = some st ∧ tokensOf st.pieces = some ts ∧
        lex report.query.toList = some ts

/-! ## What is refused -/

/-- A name that is neither listed nor inherited. -/
def NamesUnknown (q : CustomReportDto) : Prop :=
  let spec := CUSTOM_REPORT_ENTITIES q.entity
  (∃ name, q.groupBy = some name ∧ property spec.dimensions name = none) ∨
    (∃ name ∈ q.measures, property spec.measures name = none) ∨
      ∃ f ∈ q.filters, property spec.dimensions f.field = none

/-- The night audit has no `count`, the measure taken when none is asked for. -/
def CountMissing (q : CustomReportDto) : Prop := q.measures = [] ∧ q.entity = .nightAudit

section Except

variable {α β ε : Type} {f : α → Except ε β}

theorem mapM_error_iff {l : List α} :
    (∃ e, l.mapM f = .error e) ↔ ∃ a ∈ l, ∃ e, f a = .error e := by
  induction l with
  | nil => simp [pure, Except.pure]
  | cons a l ih =>
    rw [List.mapM_cons]
    cases hf : f a with
    | error e => simp [bind, Except.bind, hf]
    | ok b =>
      cases hl : l.mapM f with
      | error e =>
        have hsome := ih.mp ⟨e, hl⟩
        rcases hsome with ⟨a', ha', e', he'⟩
        simp only [bind, Except.bind]
        exact iff_of_true ⟨e, rfl⟩ ⟨a', List.mem_cons_of_mem a ha', e', he'⟩
      | ok bs =>
        have hnone : ¬∃ a ∈ l, ∃ e, f a = .error e := by
          rw [← ih, hl]
          simp
        simp only [bind, Except.bind, pure, Except.pure, reduceCtorEq, exists_false,
          List.mem_cons, false_iff]
        rintro ⟨a', hmem, e, he⟩
        rcases hmem with rfl | hmem
        · rw [hf] at he
          cases he
        · exact hnone ⟨a', hmem, e, he⟩

theorem forall₂_of_mapM {γ : Type} {g : α → Option γ} {l : List α} {cs : List γ}
    (h : l.mapM g = some cs) : List.Forall₂ (fun a c => g a = some c) l cs := by
  induction l generalizing cs with
  | nil =>
    have hcs : cs = [] := by simpa using h.symm
    rw [hcs]
    exact .nil
  | cons a l ih =>
    rw [List.mapM_cons] at h
    cases hg : g a with
    | none => simp [hg] at h
    | some c =>
      cases hl : l.mapM g with
      | none => simp [hg, hl] at h
      | some cs' =>
        have hcs : cs = c :: cs' := by simpa [hg, hl] using h.symm
        rw [hcs]
        exact .cons hg (ih hl)

theorem exists_of_forall₂ {γ : Type} {R : α → γ → Prop} {l : List α} {cs : List γ}
    (h : List.Forall₂ R l cs) : ∀ a ∈ l, ∃ c ∈ cs, R a c := by
  induction h with
  | nil => simp
  | cons hR _ ih =>
    intro a' ha'
    rcases List.mem_cons.mp ha' with rfl | ha'
    · exact ⟨_, List.mem_cons_self, hR⟩
    · rcases ih a' ha' with ⟨c, hc, hac⟩
      exact ⟨c, List.mem_cons_of_mem _ hc, hac⟩

theorem exists_of_mapM {γ : Type} {g : α → Option γ} {l : List α} {cs : List γ}
    (h : l.mapM g = some cs) : ∀ c ∈ cs, ∃ a ∈ l, g a = some c :=
  exists_of_forall₂ (forall₂_of_mapM h).flip

theorem mapM_related {γ : Type} {R : γ → β → Prop} {g : α → Option γ} {l : List α} {cs : List γ}
    (hfg : ∀ a ∈ l, ∀ c, g a = some c → ∃ b, f a = .ok b ∧ R c b) (h : l.mapM g = some cs) :
    ∃ bs, l.mapM f = .ok bs ∧ List.Forall₂ R cs bs := by
  have hrel := forall₂_of_mapM h
  clear h
  induction hrel with
  | nil => exact ⟨[], rfl, .nil⟩
  | @cons a c l cs hg hrest ih =>
    have htail := ih fun a' ha' => hfg a' (List.mem_cons_of_mem a ha')
    have hhead := hfg a List.mem_cons_self c hg
    rcases htail with ⟨bs, hbs, hrel⟩
    rcases hhead with ⟨b, hb, hR⟩
    rw [List.mapM_cons, hb, hbs]
    exact ⟨b :: bs, rfl, .cons hR hrel⟩

end Except

variable {propertyId : String} {q : CustomReportDto}

theorem property_eq_none {entries : List (String × String)} {name : String} :
    property entries name = none ↔ listed entries name = none ∧ inherited name = none := by
  unfold property
  cases listed entries name <;> simp

theorem property_of_listed {entries : List (String × String)} {name col : String}
    (h : listed entries name = some col) : property entries name = some col := by
  simp [property, h]

/-- The measure taken when none is asked for is missing from the night audit alone. -/
theorem exists_measureNames {p : String → Prop} : (∃ name ∈ q.measureNames, p name) ↔
    (q.measures = [] ∧ p "count") ∨ ∃ name ∈ q.measures, p name := by
  unfold CustomReportDto.measureNames
  cases hm : q.measures with
  | nil => simp
  | cons m ms => simp

theorem count_unlisted (entity : Entity) :
    listed (CUSTOM_REPORT_ENTITIES entity).measures "count" = none ↔ entity = .nightAudit := by
  cases entity <;> decide

theorem count_listed (entity : Entity) :
    property (CUSTOM_REPORT_ENTITIES entity).measures "count" = none ↔ entity = .nightAudit := by
  have hinherited : inherited "count" = none := by decide
  rw [property_eq_none, count_unlisted]
  exact ⟨fun h => h.1, fun h => ⟨h, hinherited⟩⟩

section Refused

variable (spec : EntitySpec)

theorem groupColumn_error_iff : (∃ e, groupColumn spec q = .error e) ↔
    ∃ name, q.groupBy = some name ∧ property spec.dimensions name = none := by
  unfold groupColumn
  cases hg : q.groupBy with
  | none => simp
  | some name => cases hp : property spec.dimensions name <;> simp [hp]

theorem measureOf_error_iff {entity : Entity} {name : String} :
    (∃ e, measureOf spec entity name = .error e) ↔ property spec.measures name = none := by
  unfold measureOf
  cases hp : property spec.measures name <;> simp

theorem filterCondition_error_iff {entity : Entity} {f : ReportFilter} :
    (∃ e, filterCondition spec entity f = .error e) ↔
      property spec.dimensions f.field = none := by
  unfold filterCondition
  cases hp : property spec.dimensions f.field <;> simp

end Refused

theorem customReport_error_iff : (∃ e, customReport propertyId q = .error e) ↔
    (∃ e, groupColumn (CUSTOM_REPORT_ENTITIES q.entity) q = .error e) ∨
    (∃ e, q.measureNames.mapM (measureOf (CUSTOM_REPORT_ENTITIES q.entity) q.entity) =
      .error e) ∨
    ∃ e, q.filters.mapM (filterCondition (CUSTOM_REPORT_ENTITIES q.entity) q.entity) =
      .error e := by
  unfold customReport
  generalize CUSTOM_REPORT_ENTITIES q.entity = spec
  simp only [bind, Except.bind]
  cases groupColumn spec q with
  | error e => simp
  | ok g =>
    cases q.measureNames.mapM (measureOf spec q.entity) with
    | error e => simp
    | ok ms =>
      cases q.filters.mapM (filterCondition spec q.entity) with
      | error e => simp
      | ok fs => simp [pure, Except.pure]

theorem refused_iff : (∃ e, customReport propertyId q = .error e) ↔
    NamesUnknown q ∨ CountMissing q := by
  have hcount := count_listed q.entity
  rw [customReport_error_iff, mapM_error_iff, mapM_error_iff]
  unfold NamesUnknown CountMissing
  rw [← hcount]
  generalize CUSTOM_REPORT_ENTITIES q.entity = spec
  simp only [groupColumn_error_iff, measureOf_error_iff, filterCondition_error_iff,
    exists_measureNames]
  constructor
  · rintro (hgroup | (hmissing | hmeasure) | hfilter)
    · exact .inl (.inl hgroup)
    · exact .inr hmissing
    · exact .inl (.inr (.inl hmeasure))
    · exact .inl (.inr (.inr hfilter))
  · rintro ((hgroup | hmeasure | hfilter) | hmissing)
    · exact .inl hgroup
    · exact .inr (.inl (.inr hmeasure))
    · exact .inr (.inr hfilter)
    · exact .inr (.inl (.inl hmissing))

/-! ## What is sent -/

theorem mapM_none_iff {α β : Type} {f : α → Option β} {l : List α} :
    l.mapM f = none ↔ ∃ a ∈ l, f a = none := by
  induction l with
  | nil => simp
  | cons a l ih =>
    rw [List.mapM_cons]
    cases hf : f a with
    | none => simp [hf]
    | some b => cases hl : l.mapM f <;> simp_all

theorem listedGroup_none_iff {spec : EntitySpec} {groupBy : Option String} :
    listedGroup spec groupBy = none ↔
      ∃ name, groupBy = some name ∧ listed spec.dimensions name = none := by
  cases groupBy with
  | none => simp [listedGroup]
  | some name => simp [listedGroup]

theorem statement_none_iff : q.statement propertyId = none ↔
    NamesUnlisted q ∨ CountMissing q := by
  have hcount := count_unlisted q.entity
  unfold NamesUnlisted CountMissing CustomReportDto.statement
  rw [← hcount]
  generalize CUSTOM_REPORT_ENTITIES q.entity = spec
  have hall : ∀ {γ δ η ζ : Type} (x : Option γ) (y : Option δ) (z : Option η)
      (f : γ → δ → η → ζ),
      (do let a ← x; let b ← y; let c ← z; return f a b c) = none ↔
        x = none ∨ y = none ∨ z = none := by
    intro γ δ η ζ x y z f
    cases x <;> cases y <;> cases z <;> simp
  rw [hall, listedGroup_none_iff, mapM_none_iff, mapM_none_iff]
  simp only [Option.map_eq_none_iff, exists_measureNames]
  constructor
  · rintro (hgroup | (hmissing | hmeasure) | hfilter)
    · exact .inl (.inl hgroup)
    · exact .inr hmissing
    · exact .inl (.inr (.inl hmeasure))
    · exact .inl (.inr (.inr hfilter))
  · rintro ((hgroup | hmeasure | hfilter) | hmissing)
    · exact .inl hgroup
    · exact .inr (.inl (.inr hmeasure))
    · exact .inr (.inr hfilter)
    · exact .inr (.inl (.inl hmissing))

/-- The text is what the conjunct is printed as. -/
def Prints (c : Conjunct) (text : String) : Prop := text.toList = charsOf c.pieces

theorem toList_join_cons (sep a : String) (l : List String) : (join sep (a :: l)).toList =
    a.toList ++ l.flatMap fun b => sep.toList ++ b.toList := by
  induction l generalizing a with
  | nil => simp [join]
  | cons b l ih => simp [join, String.toList_append, ih]

@[simp] theorem charsOf_append (ps qs : List Piece) :
    charsOf (ps ++ qs) = charsOf ps ++ charsOf qs := by
  simp [charsOf]

@[simp] theorem charsOf_cons (p : Piece) (ps : List Piece) :
    charsOf (p :: ps) = p.chars ++ charsOf ps := rfl

@[simp] theorem charsOf_nil : charsOf [] = [] := rfl

@[simp] theorem chars_sql (text : String) : (sql text).chars = text.toList := rfl

@[simp] theorem chars_literal (text : List Char) : (Piece.literal text).chars = quoted text := rfl

theorem charsOf_valuePieces (values : List String) :
    charsOf (valuePieces values) = (join "," (values.map quotedText)).toList ++ [')'] := by
  induction values with
  | nil => simp [valuePieces, join]
  | cons v values ih =>
    cases values with
    | nil => simp [valuePieces, join, quotedText]
    | cons w values =>
      simp only [valuePieces, List.map_cons, join, charsOf_cons, ih, chars_literal, chars_sql]
      simp [String.toList_append, quotedText]

theorem charsOf_wherePieces {cs : List Conjunct} {texts : List String}
    (h : List.Forall₂ Prints cs texts) :
    charsOf (wherePieces cs) = (join " and " texts).toList := by
  induction h with
  | nil => simp [wherePieces, join]
  | @cons c text cs texts hc htail ih =>
    have hprint : text.toList = charsOf c.pieces := hc
    cases htail with
    | nil => simp [wherePieces, join, hprint]
    | cons h' htail' =>
      simp only [wherePieces, join, charsOf_append, charsOf_cons, ih, chars_sql,
        String.toList_append, hprint, List.append_assoc]

theorem quote_notMem_iso {s : String} (h : isIsoDate s = true) :
    quote ∉ s.toList ∧ nul ∉ s.toList := by
  unfold isIsoDate at h
  split at h
  · next y1 y2 y3 y4 d1 m1 m2 d2 a1 a2 heq =>
    have hq : Char.isDigit quote = false := by decide
    have hn : Char.isDigit nul = false := by decide
    have hqd : quote ≠ '-' := by decide
    have hnd : nul ≠ '-' := by decide
    rw [heq]
    simp only [Bool.and_eq_true, List.all_eq_true, beq_iff_eq] at h
    rcases h with ⟨⟨hdigits, rfl⟩, rfl⟩
    constructor
    · intro hmem
      have hcase : quote = '-' ∨ quote ∈ [y1, y2, y3, y4, m1, m2, a1, a2] := by
        simp only [List.mem_cons] at hmem ⊢
        tauto
      rcases hcase with hdash | hdigit
      · exact hqd hdash
      · rw [hdigits _ hdigit] at hq
        cases hq
    · intro hmem
      have hcase : nul = '-' ∨ nul ∈ [y1, y2, y3, y4, m1, m2, a1, a2] := by
        simp only [List.mem_cons] at hmem ⊢
        tauto
      rcases hcase with hdash | hdigit
      · exact hnd hdash
      · rw [hdigits _ hdigit] at hn
        cases hn
  · cases h

theorem quote_notMem_withoutQuotes (s : String) : quote ∉ (withoutQuotes s).toList := by
  simp [withoutQuotes]

theorem prints_compares {col op value : String} (h : quote ∉ value.toList) :
    Prints (.compares col op value) (col ++ (op ++ "'") ++ value ++ "'") := by
  have hescape := escape_of_quote_notMem h
  simp [Prints, Conjunct.pieces, String.toList_append, quoted, hescape, quote]

theorem window_prints (spec : EntitySpec) (propertyId : String) (q : CustomReportDto) :
    List.Forall₂ Prints (windowConjuncts spec (withoutQuotes propertyId) q)
      (window spec propertyId q) := by
  have hsince := (quote_notMem_iso q.since_iso).1
  have htill := (quote_notMem_iso q.till_iso).1
  have hdelete : List.Forall₂ Prints (spec.softDelete.map Conjunct.isNull).toList
      (spec.softDelete.map fun col => col ++ " is null").toList := by
    cases spec.softDelete with
    | none => exact .nil
    | some col => exact .cons (by simp [Prints, Conjunct.pieces]) .nil
  exact .cons (prints_compares (quote_notMem_withoutQuotes propertyId))
    (.cons (prints_compares hsince) (.cons (prints_compares htill) hdelete))

/-- Where all names are listed, the text that is sent is printed from the statement for the
property with its quotes left out. -/
theorem sent_of_statement {st : Statement} (h : q.statement (withoutQuotes propertyId) = some st) :
    ∃ report, customReport propertyId q = .ok report ∧
      report.query.toList = charsOf st.pieces := by
  unfold CustomReportDto.statement at h
  unfold customReport
  generalize CUSTOM_REPORT_ENTITIES q.entity = spec at h ⊢
  cases hg : listedGroup spec q.groupBy with
  | none => simp [hg] at h
  | some group =>
    cases hm : q.measureNames.mapM fun name =>
        (listed spec.measures name).map fun expr => (name, expr) with
    | none => simp [hg, hm] at h
    | some measures =>
      cases hf : q.filters.mapM fun f => (listed spec.dimensions f.field).map fun col =>
          Conjunct.isIn col (f.values.map FilterValue.text) with
      | none => simp [hg, hm, hf] at h
      | some filters =>
        have hgroup : groupColumn spec q = .ok group := by
          unfold groupColumn
          unfold listedGroup at hg
          cases hname : q.groupBy with
          | none =>
            rw [hname] at hg
            have heq : group = none := (Option.some.inj hg).symm
            rw [heq]
          | some name =>
            rw [hname] at hg
            simp only [Option.map_eq_some_iff] at hg
            rcases hg with ⟨col, hcol, rfl⟩
            simp [property_of_listed hcol]
        have hmeasures := @mapM_related _ _ _ (measureOf spec q.entity) _ Eq _ _ _
          (fun name _ m hname => by
            simp only [Option.map_eq_some_iff] at hname
            rcases hname with ⟨expr, hexpr, rfl⟩
            exact ⟨_, by simp [measureOf, property_of_listed hexpr], rfl⟩) hm
        have hfilters := @mapM_related _ _ _ (filterCondition spec q.entity) _ Prints _ _ _
          (fun f _ c hname => by
            simp only [Option.map_eq_some_iff] at hname
            rcases hname with ⟨col, hcol, rfl⟩
            refine ⟨_, by simp [filterCondition, property_of_listed hcol]; rfl, ?_⟩
            simp [Prints, Conjunct.pieces, charsOf_valuePieces, String.toList_append,
              Function.comp_def]) hf
        rcases hmeasures with ⟨measures', hmeasures, hsame⟩
        rcases hfilters with ⟨texts, hfilters, hprints⟩
        rw [List.forall₂_eq_eq_eq] at hsame
        subst hsame
        have hst : st = { group, measures, table := spec.table, conjuncts :=
            windowConjuncts spec (withoutQuotes propertyId) q ++ filters } := by
          simpa [hg, hm, hf] using h.symm
        have hwhere := charsOf_wherePieces
          (List.rel_append (window_prints spec propertyId q) hprints)
        dsimp only
        rw [hgroup, hmeasures, hfilters]
        refine ⟨_, rfl, ?_⟩
        rw [hst]
        simp only [Statement.pieces, charsOf_cons, charsOf_append, hwhere, charsOf_nil,
          List.append_nil, chars_sql, headSql, tailSql, String.toList_append, List.append_assoc]

end CustomReports

end Travelo
