import Travelo.Reservations.ReportStatement

/-!
# How the report builder's text reads

The pieces of a statement fit one after another, so the text that is sent reads as they do
(`fits_statement`); from its tokens one can tell the property it asks for
(`property_of_tokens`).
-/

namespace Travelo

open Claims.SqlText

namespace CustomReports

variable {propertyId : String} {q : CustomReportDto}

/-- A conjunct made of what an entity lists, with texts that can be written. -/
def Conjunct.Good : Conjunct → Prop
  | .compares col op value => standsTo (col ++ op).toList ' ' = true ∧ nul ∉ value.toList
  | .isNull col => stands (col ++ " is null").toList = true
  | .isIn col values =>
    standsTo (col ++ " in (").toList '(' = true ∧ ∀ value ∈ values, nul ∉ value.toList

variable {text : String} {prev : Char}

theorem fits_of_stands (h : stands text.toList = true) :
    Fits prev [sql text] := by
  have hlast := exists_of_stands h
  rcases hlast with ⟨last, hlast⟩
  exact ⟨last, hlast, trivial⟩

variable {ps : List Piece}

theorem fits_valuePieces {values : List String} (hvalues : ∀ v ∈ values, nul ∉ v.toList)
    (hrest : Fits ' ' (sql text :: ps)) (hprev : opens prev = true) :
    Fits prev (valuePieces values ++ sql text :: ps) := by
  have hclose : standsTo (")" : String).toList ')' = true := by decide
  have hcomma : standsTo ("," : String).toList ',' = true := by decide
  induction values generalizing prev with
  | nil => exact ⟨')', hclose, hrest⟩
  | cons v values ih =>
    have hv := hvalues v List.mem_cons_self
    have htail := fun w hw => hvalues w (List.mem_cons_of_mem v hw)
    cases values with
    | nil => exact ⟨hprev, hv, ⟨_, _, rfl⟩, ')', hclose, hrest⟩
    | cons w values =>
      exact ⟨hprev, hv, ⟨_, _, rfl⟩, ',', hcomma, ih htail (by decide)⟩

variable {c : Conjunct}

theorem fits_conjunct (hc : c.Good) (hrest : Fits ' ' (sql text :: ps)) :
    Fits prev (c.pieces ++ sql text :: ps) := by
  cases c with
  | compares col op value =>
    exact ⟨' ', hc.1, by decide, hc.2, ⟨_, _, rfl⟩, hrest⟩
  | isNull col =>
    have hlast := exists_of_stands hc
    rcases hlast with ⟨last, hlast⟩
    exact ⟨last, hlast, hrest⟩
  | isIn col values => exact ⟨'(', hc.1, fits_valuePieces hc.2 hrest (by decide)⟩

theorem fits_wherePieces {cs : List Conjunct} (hgood : ∀ c ∈ cs, c.Good)
    (hrest : Fits ' ' (sql text :: ps)) :
    Fits prev (wherePieces cs ++ sql text :: ps) := by
  have hand : standsTo (" and " : String).toList ' ' = true := by decide
  induction cs generalizing prev with
  | nil => exact hrest
  | cons c cs ih =>
    have hc := hgood c List.mem_cons_self
    have htail := fun d hd => hgood d (List.mem_cons_of_mem c hd)
    cases cs with
    | nil => exact fits_conjunct hc hrest
    | cons d cs =>
      have hmore : Fits ' ' (wherePieces (d :: cs) ++ sql text :: ps) := ih htail
      show Fits prev ((c.pieces ++ sql " and " :: wherePieces (d :: cs)) ++ sql text :: ps)
      rw [List.append_assoc]
      exact fits_conjunct hc ⟨' ', hand, hmore⟩

/-! ### The entity's own texts -/

theorem toList_text {s : String} {l : List Char} (hs : s = String.ofList l) : s.toList = l := by
  rw [hs, String.toList_ofList]

theorem dimension_stands (entity : Entity) : ∀ d ∈ (CUSTOM_REPORT_ENTITIES entity).dimensions,
    standsTo (d.2 ++ " in (").toList '(' = true ∧
      standsTo ("select " ++ d.2 ++ " as \"group\"").toList nameQuote = true ∧
        stands (" group by " ++ d.2).toList = true := by
  have hone : ∀ {d : String × String} {l : List Char}, d.2 = String.ofList l →
      (standsTo (l ++ [' ', 'i', 'n', ' ', '(']) '(' = true ∧
        standsTo (['s', 'e', 'l', 'e', 'c', 't', ' '] ++ l ++
          [' ', 'a', 's', ' ', '"', 'g', 'r', 'o', 'u', 'p', '"']) nameQuote = true ∧
          stands ([' ', 'g', 'r', 'o', 'u', 'p', ' ', 'b', 'y', ' '] ++ l) = true) →
      standsTo (d.2 ++ " in (").toList '(' = true ∧
        standsTo ("select " ++ d.2 ++ " as \"group\"").toList nameQuote = true ∧
          stands (" group by " ++ d.2).toList = true := by
    intro d l hd h
    simp only [String.toList_append, toList_text hd, String.reduceToList]
    exact h
  cases entity <;> simp only [CUSTOM_REPORT_ENTITIES]
  all_goals
    repeat refine List.forall_mem_cons.mpr ⟨hone rfl (by decide +kernel), ?_⟩
    exact List.forall_mem_nil _

theorem measure_stands (entity : Entity) : ∀ m ∈ (CUSTOM_REPORT_ENTITIES entity).measures,
    standsTo (", " ++ (m.2 ++ " as \"" ++ m.1 ++ "\"")).toList nameQuote = true ∧
      stands (" order by \"" ++ m.1 ++ "\" desc nulls last").toList = true := by
  have hone : ∀ {m : String × String} {l k : List Char}, m.2 = String.ofList l →
      m.1 = String.ofList k →
      (standsTo ([',', ' '] ++ (l ++ [' ', 'a', 's', ' ', '"'] ++ k ++ ['"'])) nameQuote = true ∧
        stands ([' ', 'o', 'r', 'd', 'e', 'r', ' ', 'b', 'y', ' ', '"'] ++ k ++
          ['"', ' ', 'd', 'e', 's', 'c', ' ', 'n', 'u', 'l', 'l', 's', ' ', 'l', 'a', 's', 't']) =
            true) →
      standsTo (", " ++ (m.2 ++ " as \"" ++ m.1 ++ "\"")).toList nameQuote = true ∧
        stands (" order by \"" ++ m.1 ++ "\" desc nulls last").toList = true := by
    intro m l k hl hk h
    simp only [String.toList_append, toList_text hl, toList_text hk, String.reduceToList]
    exact h
  cases entity <;> simp only [CUSTOM_REPORT_ENTITIES, String.reduceAppend]
  all_goals
    repeat refine List.forall_mem_cons.mpr ⟨hone rfl rfl (by decide +kernel), ?_⟩
    exact List.forall_mem_nil _

theorem entity_stands (entity : Entity) :
    let spec := CUSTOM_REPORT_ENTITIES entity
    standsTo (" from " ++ spec.table ++ " where ").toList ' ' = true ∧
      standsTo (spec.propertyCol ++ " = ").toList ' ' = true ∧
        standsTo (spec.dateCol ++ " >= ").toList ' ' = true ∧
          standsTo (spec.dateCol ++ " <= ").toList ' ' = true ∧
            ∀ col ∈ spec.softDelete, stands (col ++ " is null").toList = true := by
  cases entity <;>
    simp only [CUSTOM_REPORT_ENTITIES, Option.mem_def, Option.some.injEq, forall_eq',
      reduceCtorEq, false_imp_iff, implies_true, and_true, String.toList_append,
      String.reduceToList] <;>
    and_intros <;> decide +kernel

theorem mem_of_listed {entries : List (String × String)} {name col : String}
    (h : listed entries name = some col) : (name, col) ∈ entries := by
  simp only [listed, Option.map_eq_some_iff] at h
  rcases h with ⟨e, hfind, rfl⟩
  have hname : e.1 = name := by simpa using List.find?_some hfind
  rw [← hname]
  exact List.mem_of_find?_eq_some hfind

theorem standsTo_flatMap {α : Type} {f : α → List Char} {l : List α} {u : List Char} {last : Char}
    (hu : standsTo u last = true) (hl : ∀ a ∈ l, standsTo (f a) last = true) :
    standsTo (u ++ l.flatMap f) last = true := by
  induction l generalizing u with
  | nil => simpa using hu
  | cons a l ih =>
    have ha := hl a List.mem_cons_self
    rw [List.flatMap_cons, ← List.append_assoc]
    exact ih (standsTo_append hu ha) fun b hb => hl b (List.mem_cons_of_mem a hb)

variable {st : Statement}

/-- What a statement of listed parts is made of. -/
structure Parts (entity : Entity) (st : Statement) : Prop where
  group : ∀ col, st.group = some col →
    ∃ name, (name, col) ∈ (CUSTOM_REPORT_ENTITIES entity).dimensions
  measures : ∀ m ∈ st.measures, m ∈ (CUSTOM_REPORT_ENTITIES entity).measures
  table : st.table = (CUSTOM_REPORT_ENTITIES entity).table

theorem Parts.head_stands {entity : Entity} (h : Parts entity st) :
    standsTo (headSql st.group st.measures st.table).toList ' ' = true := by
  have hitems : ∀ m ∈ st.measures,
      standsTo (", " ++ (m.2 ++ " as \"" ++ m.1 ++ "\"")).toList nameQuote = true :=
    fun m hm => (measure_stands entity m (h.measures m hm)).1
  have hgroup : standsTo ("select " ++ st.group.getD "null" ++ " as \"group\"").toList
      nameQuote = true := by
    cases hg : st.group with
    | none => decide
    | some col =>
      have hname := h.group col hg
      rcases hname with ⟨name, hmem⟩
      exact (dimension_stands entity _ hmem).2.1
  have htable := (entity_stands entity).1
  rw [← h.table] at htable
  have hall := standsTo_append (standsTo_flatMap hgroup hitems) htable
  convert hall using 1
  simp only [headSql, selectList, String.toList_append, toList_join_cons, List.flatMap_map,
    List.append_assoc]

theorem Parts.tail_stands {entity : Entity} (h : Parts entity st) :
    stands (tailSql st.group st.measures).toList = true := by
  have hlimit : stands (" limit 500" : String).toList = true := by decide
  cases hg : st.group with
  | none => simpa [tailSql, groupSql, orderSql] using hlimit
  | some col =>
    rcases h.group col hg with ⟨name, hmem⟩
    have hby := (dimension_stands entity _ hmem).2.2
    cases hm : st.measures with
    | nil =>
      have hall := stands_append hby hlimit
      simpa [tailSql, groupSql, orderSql, String.toList_append] using hall
    | cons m ms =>
      have horder := (measure_stands entity m (h.measures m (by simp [hm]))).2
      have hall := stands_append (stands_append hby horder) hlimit
      simpa [tailSql, groupSql, orderSql, String.toList_append] using hall

/-- The texts a query hands over hold no NUL. -/
def Writable (q : CustomReportDto) : Prop :=
  ∀ f ∈ q.filters, ∀ v ∈ f.values, nul ∉ v.text.toList

theorem parts_of_statement (h : q.statement propertyId = some st) : Parts q.entity st ∧
    (nul ∉ propertyId.toList → Writable q → ∀ c ∈ st.conjuncts, c.Good) := by
  have hspec := entity_stands q.entity
  have hdims := dimension_stands q.entity
  unfold CustomReportDto.statement at h
  cases hg : listedGroup (CUSTOM_REPORT_ENTITIES q.entity) q.groupBy with
  | none => simp [hg] at h
  | some group =>
    cases hm : q.measureNames.mapM fun name =>
        (listed (CUSTOM_REPORT_ENTITIES q.entity).measures name).map fun expr => (name, expr) with
    | none => simp [hg, hm] at h
    | some measures =>
      cases hf : q.filters.mapM fun f =>
          (listed (CUSTOM_REPORT_ENTITIES q.entity).dimensions f.field).map fun col =>
            Conjunct.isIn col (f.values.map FilterValue.text) with
      | none => simp [hg, hm, hf] at h
      | some filters =>
        have hst : st = { group, measures, table := (CUSTOM_REPORT_ENTITIES q.entity).table
                          conjuncts := windowConjuncts (CUSTOM_REPORT_ENTITIES q.entity)
                            propertyId q ++ filters } := by
          simpa [hg, hm, hf] using h.symm
        subst hst
        refine ⟨⟨?_, ?_, rfl⟩, ?_⟩
        · intro col hcol
          have hcol' : group = some col := hcol
          subst hcol'
          cases hname : q.groupBy with
          | none => simp [listedGroup, hname] at hg
          | some name =>
            simp only [listedGroup, hname, Option.map_eq_some_iff, Option.some.injEq] at hg
            rcases hg with ⟨col', hlisted, rfl⟩
            exact ⟨name, mem_of_listed hlisted⟩
        · intro m hmem
          rcases exists_of_mapM hm m hmem with ⟨name, -, hname⟩
          simp only [Option.map_eq_some_iff] at hname
          rcases hname with ⟨expr, hexpr, rfl⟩
          exact mem_of_listed hexpr
        · intro hprop hwritable c hc
          rcases List.mem_append.mp hc with hwindow | hfilter
          · simp only [windowConjuncts, List.cons_append, List.nil_append, List.mem_cons,
              Option.mem_toList, Option.map_eq_some_iff] at hwindow
            rcases hwindow with rfl | rfl | rfl | ⟨col, hcol, rfl⟩
            · exact ⟨hspec.2.1, hprop⟩
            · exact ⟨hspec.2.2.1, (quote_notMem_iso q.since_iso).2⟩
            · exact ⟨hspec.2.2.2.1, (quote_notMem_iso q.till_iso).2⟩
            · exact hspec.2.2.2.2 col hcol
          · rcases exists_of_mapM hf c hfilter with ⟨f, hmem, hname⟩
            simp only [Option.map_eq_some_iff] at hname
            rcases hname with ⟨col, hcol, rfl⟩
            refine ⟨(hdims _ (mem_of_listed hcol)).1, fun value hvalue => ?_⟩
            rcases List.mem_map.mp hvalue with ⟨v, hv, rfl⟩
            exact hwritable f hmem v hv

theorem fits_statement (h : q.statement propertyId = some st) (hprop : nul ∉ propertyId.toList)
    (hwritable : Writable q) : Fits ' ' st.pieces := by
  have hparts := parts_of_statement h
  rcases hparts with ⟨hparts, hgood⟩
  exact ⟨' ', hparts.head_stands,
    fits_wherePieces (hgood hprop hwritable) (fits_of_stands hparts.tail_stands)⟩

/-! ## The property in the statement -/

theorem statement_forms (q : CustomReportDto) : (∀ p, q.statement p = none) ∨
    ∃ group measures filters,
      (∀ p, q.statement p = some
        { group, measures, table := (CUSTOM_REPORT_ENTITIES q.entity).table
          conjuncts := windowConjuncts (CUSTOM_REPORT_ENTITIES q.entity) p q ++ filters }) ∧
      ∀ f ∈ q.filters, ∃ col, Conjunct.isIn col (f.values.map FilterValue.text) ∈ filters := by
  unfold CustomReportDto.statement
  generalize CUSTOM_REPORT_ENTITIES q.entity = spec
  cases hg : listedGroup spec q.groupBy with
  | none => exact .inl fun p => by simp [hg]
  | some group =>
    cases hm : q.measureNames.mapM fun name =>
        (listed spec.measures name).map fun expr => (name, expr) with
    | none => exact .inl fun p => by simp [hg, hm]
    | some measures =>
      cases hf : q.filters.mapM fun f => (listed spec.dimensions f.field).map fun col =>
          Conjunct.isIn col (f.values.map FilterValue.text) with
      | none => exact .inl fun p => by simp [hg, hm, hf]
      | some filters =>
        refine .inr ⟨group, measures, filters, fun p => by simp [hg, hm, hf], fun f hmem => ?_⟩
        rcases exists_of_forall₂ (forall₂_of_mapM hf) f hmem with ⟨c, hc, hfc⟩
        simp only [Option.map_eq_some_iff] at hfc
        rcases hfc with ⟨col, -, rfl⟩
        exact ⟨col, hc⟩

theorem mem_charsOf_wherePieces {x : Char} {cs : List Conjunct} (hc : c ∈ cs)
    (hx : x ∈ charsOf c.pieces) : x ∈ charsOf (wherePieces cs) := by
  induction cs with
  | nil => cases hc
  | cons d cs ih =>
    cases cs with
    | nil =>
      rcases List.mem_cons.mp hc with rfl | hc
      · exact hx
      · cases hc
    | cons e cs =>
      simp only [wherePieces, charsOf_append, charsOf_cons, List.mem_append]
      rcases List.mem_cons.mp hc with rfl | hc
      · exact .inl hx
      · exact .inr (.inr (ih hc))

theorem mem_charsOf_valuePieces {x : Char} {v : String} {values : List String}
    (hv : v ∈ values) (hx : x ∈ v.toList) : x ∈ charsOf (valuePieces values) := by
  have hquoted : x ∈ quoted v.toList := by simp [quoted, mem_escape, hx]
  induction values with
  | nil => cases hv
  | cons w values ih =>
    cases values with
    | nil =>
      rcases List.mem_cons.mp hv with rfl | hv
      · simp [valuePieces, hquoted]
      · cases hv
    | cons u values =>
      simp only [valuePieces, charsOf_cons, chars_literal, chars_sql, List.mem_append]
      rcases List.mem_cons.mp hv with rfl | hv
      · exact .inl hquoted
      · exact .inr (.inr (ih hv))

theorem mem_pieces_of_conjunct {x : Char} (hc : c ∈ st.conjuncts) (hx : x ∈ charsOf c.pieces) :
    x ∈ charsOf st.pieces := by
  simp only [Statement.pieces, charsOf_cons, charsOf_append, List.mem_append]
  exact .inr (.inl (mem_charsOf_wherePieces hc hx))

variable {ts : List Token}

theorem no_nul (h : q.statement propertyId = some st) (hread : lex (charsOf st.pieces) = some ts) :
    nul ∉ propertyId.toList ∧ Writable q := by
  have hnone : nul ∉ charsOf st.pieces := by
    intro hmem
    rw [lex_of_nul hmem] at hread
    cases hread
  rcases statement_forms q with hnever | ⟨group, measures, filters, hst, hfilters⟩
  · rw [hnever] at h
    cases h
  · rw [hst] at h
    have heq := (Option.some.inj h).symm
    subst heq
    constructor
    · intro hmem
      refine hnone (mem_pieces_of_conjunct (List.mem_append_left _ List.mem_cons_self) ?_)
      simp [Conjunct.pieces, quoted, mem_escape, hmem]
    · intro f hf v hv hmem
      rcases hfilters f hf with ⟨col, hcol⟩
      refine hnone (mem_pieces_of_conjunct (List.mem_append_right _ hcol) ?_)
      have hvalue := mem_charsOf_valuePieces (List.mem_map_of_mem hv) hmem
      simp [Conjunct.pieces, hvalue]

theorem literal_inj {a b : Piece} {p p' : List Char} {rest : List Piece}
    (h : tokensOf (a :: b :: .literal p :: rest) = some ts)
    (h' : tokensOf (a :: b :: .literal p' :: rest) = some ts) : p = p' := by
  have hone : ∀ text, (Piece.literal text).tokens = some [.literal text] := fun _ => rfl
  simp only [tokensOf, hone] at h h'
  cases ha : a.tokens with
  | none => simp [ha] at h
  | some ta =>
    cases hb : b.tokens with
    | none => simp [ha, hb] at h
    | some tb =>
      cases hr : tokensOf rest with
      | none => simp [ha, hr] at h
      | some tr =>
        have h1 : ta ++ (tb ++ ([.literal p] ++ tr)) = ts := by
          simpa [ha, hb, hr] using h
        have h2 : ta ++ (tb ++ ([.literal p'] ++ tr)) = ts := by
          simpa [ha, hb, hr] using h'
        have heq := h1.trans h2.symm
        simpa using heq

theorem property_of_tokens {p p' : String} {st' : Statement} (h : q.statement p = some st)
    (h' : q.statement p' = some st') (hts : tokensOf st.pieces = some ts)
    (hts' : tokensOf st'.pieces = some ts) : p = p' := by
  rcases statement_forms q with hnever | ⟨group, measures, filters, hst, -⟩
  · rw [hnever] at h
    cases h
  · rw [hst] at h h'
    have heq := (Option.some.inj h).symm
    have heq' := (Option.some.inj h').symm
    subst heq heq'
    have hchars := literal_inj hts hts'
    exact String.toList_inj.mp hchars

theorem withoutQuotes_eq_iff : withoutQuotes propertyId = propertyId ↔
    quote ∉ propertyId.toList := by
  constructor
  · intro heq
    rw [← heq]
    exact quote_notMem_withoutQuotes propertyId
  · intro hnone
    have hall : propertyId.toList.filter (fun c => c ≠ quote) = propertyId.toList := by
      apply List.filter_eq_self.mpr
      intro c hc
      have hne : c ≠ quote := by
        rintro rfl
        exact hnone hc
      simp [hne]
    rw [withoutQuotes, hall, String.ofList_toList]

theorem nul_withoutQuotes : nul ∈ (withoutQuotes propertyId).toList ↔ nul ∈ propertyId.toList := by
  have hne : nul ≠ quote := by decide
  simp [withoutQuotes, hne]

/-- **The builder keeps to its own SQL** exactly when a name that is not listed is also not
inherited (or the night audit is asked for no measure), and what names only what is listed
asks the night audit for a measure and hands over texts that can be written, the property's
without a quote. -/
theorem ownSql_iff (propertyId : String) (q : CustomReportDto) : OwnSql propertyId q ↔
    (NamesUnlisted q → NamesUnknown q ∨ CountMissing q) ∧
      (¬NamesUnlisted q → ¬CountMissing q ∧ quote ∉ propertyId.toList ∧
        nul ∉ propertyId.toList ∧ Writable q) := by
  constructor
  · rintro ⟨hrefused, hsent⟩
    refine ⟨fun hunlisted => refused_iff.mp (hrefused.mpr hunlisted), fun hlisted => ?_⟩
    have hcount : ¬CountMissing q := fun hmissing =>
      hlisted (hrefused.mp (refused_iff.mpr (.inr hmissing)))
    have hsome : q.statement (withoutQuotes propertyId) ≠ none := by
      rw [Ne, statement_none_iff]
      rintro (hunlisted | hmissing)
      · exact hlisted hunlisted
      · exact hcount hmissing
    rcases Option.ne_none_iff_exists'.mp hsome with ⟨st', hst'⟩
    rcases sent_of_statement hst' with ⟨report, hreport, hquery⟩
    rcases hsent report hreport with ⟨st, ts, hst, hts, hlex⟩
    rw [hquery] at hlex
    have hclean := no_nul hst' hlex
    have hprop := hclean.1
    -- both statements read alike, so they ask for one property
    have hread := lexFrom_charsOf (fits_statement hst' hprop hclean.2)
    have hts' : tokensOf st'.pieces = some ts := by
      rw [← hread]
      exact hlex
    have heq := property_of_tokens hst' hst hts' hts
    exact ⟨hcount, withoutQuotes_eq_iff.mp heq, fun hmem => hprop (nul_withoutQuotes.mpr hmem),
      hclean.2⟩
  · rintro ⟨hunlisted, hlisted⟩
    by_cases hn : NamesUnlisted q
    · have href : ∃ e, customReport propertyId q = .error e := refused_iff.mpr (hunlisted hn)
      refine ⟨⟨fun _ => hn, fun _ => href⟩, fun report hok => ?_⟩
      rcases href with ⟨e, he⟩
      rw [he] at hok
      cases hok
    · rcases hlisted hn with ⟨hcount, hquote, hnul, hwritable⟩
      have hsame := withoutQuotes_eq_iff.mpr hquote
      have hsome : q.statement propertyId ≠ none := by
        rw [Ne, statement_none_iff]
        rintro (hunl | hmissing)
        · exact hn hunl
        · exact hcount hmissing
      rcases Option.ne_none_iff_exists'.mp hsome with ⟨st, hst⟩
      have hst' := hst
      rw [← hsame] at hst'
      rcases sent_of_statement hst' with ⟨report, hreport, hquery⟩
      have hfits := fits_statement hst hnul hwritable
      rcases tokensOf_of_fits hfits with ⟨ts, hts⟩
      constructor
      · refine ⟨fun href => ?_, fun hunl => absurd hunl hn⟩
        rcases href with ⟨e, he⟩
        rw [hreport] at he
        cases he
      · intro report' hok
        rw [hreport] at hok
        have heq := Except.ok.inj hok
        subst heq
        refine ⟨st, ts, hst, hts, ?_⟩
        rw [hquery, ← hts]
        exact lexFrom_charsOf hfits

/-! ## A name every object has -/

/-- A report grouped by a name that no entity lists. -/
def byConstructor : CustomReportDto where
  entity := .expenses
  since := "2026-09-01"
  till := "2026-09-30"
  groupBy := some "constructor"
  since_iso := by decide +kernel
  till_iso := by decide +kernel
  groupBy_length := by decide +kernel

/-- Grouped by `constructor` the report is sent, with the text of a function for a column. -/
theorem constructor_is_sent : ¬OwnSql "1" byConstructor := by
  rintro ⟨hrefused, -⟩
  have hunlisted : NamesUnlisted byConstructor :=
    .inl ⟨"constructor", rfl, by decide +kernel⟩
  rcases hrefused.mpr hunlisted with ⟨e, he⟩
  have hsent : (customReport "1" byConstructor).isOk = true := by decide +kernel
  rw [he] at hsent
  cases hsent

end CustomReports

end Travelo
