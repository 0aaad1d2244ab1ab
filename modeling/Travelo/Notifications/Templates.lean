import Travelo.Schema
import Mathlib.Data.List.TakeWhile

/-!
# Message templates

`template-renderer.ts`. `String.replace` with the global pattern `PLACEHOLDER` replaces the leftmost
matches, from left to right, and never looks at what it has put in. A value is looked up with
`vars[name]`, which reaches the properties that every object inherits.
-/

namespace Travelo.Templates

abbrev Text := List Char

/-- A value of a variable; one that is neither missing nor a string is known by its text. -/
inductive Value where
  | undefined
  | null
  | string (s : Text)
  | other (text : Text)

/-- The own properties of an object. -/
abbrev TemplateVars := List (Text × Value)

variable (c : Char)

/-- `[a-zA-Z0-9_.]`. -/
def isNameChar : Bool := c.isAlphanum || c = '_' || c = '.'

/-- The name of the placeholder that `s` begins with, and what comes after it. No character of a
name is a space or a brace, so each part of the pattern takes all it can. -/
def matchAt : Text → Option (Text × Text)
  | '{' :: '{' :: s =>
    let s := s.dropWhile isJsSpace
    let name := s.takeWhile isNameChar
    match (s.dropWhile isNameChar).dropWhile isJsSpace with
    | '}' :: '}' :: rest => if name = [] then none else some (name, rest)
    | _ => none
  | _ => none

/-- The properties of `Object.prototype`, in the texts that `String` gives them. -/
def inherited (name : Text) : Option Value :=
  let called (f : String) : Value := .other ("function " ++ f ++ "() \x7b [native code] \x7d").toList
  if name = "constructor".toList then some (called "Object")
  else if name = "__proto__".toList then some (.other "[object Object]".toList)
  else if String.ofList name ∈ ["hasOwnProperty", "isPrototypeOf", "propertyIsEnumerable",
      "toLocaleString", "toString", "valueOf", "__defineGetter__", "__defineSetter__",
      "__lookupGetter__", "__lookupSetter__"] then some (called (String.ofList name))
  else none

/-- `vars[name]`. -/
def lookup (vars : TemplateVars) (name : Text) : Value :=
  ((vars.lookup name).or (inherited name)).getD .undefined

def replace (by' : String) (s : Text) : Text :=
  s.flatMap fun d => if d = c then by'.toList else [d]

def escapeHtml (value : Text) : Text :=
  replace '\'' "&#39;" (replace '"' "&quot;" (replace '>' "&gt;" (replace '<' "&lt;"
    (replace '&' "&amp;" value))))

/-- The text of a value, unless it is missing. -/
def Value.given : Value → Option Text
  | .undefined | .null | .string [] => none
  | .string s | .other s => some s

/-- What `replace` finds in a text: characters between the matches, and matches with the name they
captured. -/
inductive Piece where
  | text (c : Char)
  | hole (whole name : Text)

def pieces : ℕ → Text → List Piece
  | 0, _ | _, [] => []
  | fuel + 1, c :: s =>
    match matchAt (c :: s) with
    | none => .text c :: pieces fuel s
    | some (name, rest) =>
      .hole ((c :: s).take ((c :: s).length - rest.length)) name :: pieces fuel rest

variable (vars : TemplateVars) (escape : Bool)

def substituted : Piece → Text
  | .text c => [c]
  | .hole whole name =>
    match (lookup vars name).given with
    | none => whole
    | some value => if escape then escapeHtml value else value

def noteMissing (missing : List Text) : Piece → List Text
  | .text _ => missing
  | .hole _ name =>
    if (lookup vars name).given = none ∧ name ∉ missing then missing ++ [name] else missing

structure RenderResult where
  text : Text
  /-- The placeholders that no variable satisfied. -/
  missing : List Text

def renderTemplate (template : Text) (vars : TemplateVars) (escape : Bool) : RenderResult :=
  let found := pieces template.length template
  { text := found.flatMap (substituted vars escape)
    missing := found.foldl (noteMissing vars) [] }

/-! ## What is a placeholder -/

/-- `whole` is a placeholder for `name`. -/
structure IsHole (whole name : Text) : Prop where
  nonempty : name ≠ []
  chars : ∀ c ∈ name, isNameChar c
  whole : ∃ a b, (∀ c ∈ a, isJsSpace c) ∧ (∀ c ∈ b, isJsSpace c) ∧
    whole = '{' :: '{' :: (a ++ (name ++ (b ++ ['}', '}'])))

/-- The placeholders of a text and the characters around them: a character is one of the text when
no placeholder begins there. -/
inductive Spans : Text → List Piece → Prop
  | done : Spans [] []
  | text {c s ps} : (∀ whole name, IsHole whole name → ¬ whole <+: c :: s) → Spans s ps →
      Spans (c :: s) (.text c :: ps)
  | hole {whole name s ps} : IsHole whole name → Spans s ps →
      Spans (whole ++ s) (.hole whole name :: ps)

theorem not_space_of_name {c : Char} (h : isNameChar c) : isJsSpace c = false := by
  delta isNameChar Char.isAlphanum Char.isAlpha Char.isUpper Char.isLower Char.isDigit at h
  simp only [Bool.or_eq_true, decide_eq_true_eq, Bool.and_eq_true, ge_iff_le,
    UInt32.le_iff_toNat_le] at h
  change ((((65 ≤ c.toNat ∧ c.toNat ≤ 90) ∨ (97 ≤ c.toNat ∧ c.toNat ≤ 122)) ∨
    (48 ≤ c.toNat ∧ c.toNat ≤ 57)) ∨ c = '_') ∨ c = '.' at h
  rcases h with (h | rfl) | rfl
  · rw [Bool.eq_false_iff]
    intro hs
    simp only [isJsSpace, Bool.or_eq_true, Bool.and_eq_true, decide_eq_true_eq, List.mem_cons,
      List.not_mem_nil, or_false] at hs
    omega
  · decide
  · decide

theorem span_append (p : Char → Bool) {l m : Text} (hl : ∀ c ∈ l, p c)
    (hm : ∀ c, m.head? = some c → p c = false) :
    (l ++ m).takeWhile p = l ∧ (l ++ m).dropWhile p = m := by
  have hm' : m.takeWhile p = [] ∧ m.dropWhile p = m := by
    cases m with
    | nil => exact ⟨rfl, rfl⟩
    | cons c m => simp [hm c rfl]
  rw [List.takeWhile_append_of_pos hl, List.dropWhile_append_of_pos hl, hm'.1, hm'.2,
    List.append_nil]
  exact ⟨rfl, rfl⟩

theorem matchAt_hole {whole name : Text} (h : IsHole whole name) (rest : Text) :
    matchAt (whole ++ rest) = some (name, rest) := by
  obtain ⟨a, b, ha, hb, rfl⟩ := h.whole
  have hbraces : ∀ c, (('}' :: '}' :: rest).head? = some c) → isJsSpace c = false := by
    intro c hc
    cases hc
    decide
  have hname : ∀ c, ((name ++ (b ++ '}' :: '}' :: rest)).head? = some c) →
      isJsSpace c = false := by
    intro c hc
    obtain ⟨d, name', rfl⟩ := List.exists_cons_of_ne_nil h.nonempty
    cases hc
    exact not_space_of_name (h.chars _ List.mem_cons_self)
  have hafter : ∀ c, ((b ++ '}' :: '}' :: rest).head? = some c) → isNameChar c = false := by
    intro c hc
    cases b with
    | nil =>
      cases hc
      decide
    | cons d b =>
      cases hc
      by_contra hn
      have := not_space_of_name (by simpa using hn)
      exact absurd (hb _ List.mem_cons_self) (by rw [this]; decide)
  have h1 := span_append isJsSpace ha hname
  have h2 := span_append isNameChar h.chars hafter
  have h3 := span_append isJsSpace hb hbraces
  simp only [List.cons_append, List.append_assoc, List.nil_append, matchAt, h1.2, h2.1, h2.2, h3.2,
    if_neg h.nonempty]

theorem matchAt_eq_some {s name rest : Text} :
    matchAt s = some (name, rest) ↔ ∃ whole, IsHole whole name ∧ s = whole ++ rest := by
  constructor
  · intro h
    unfold matchAt at h
    split at h
    next s =>
      dsimp only at h
      split at h
      next rest' hrest =>
        split at h
        · cases h
        next hname =>
          simp only [Option.some.injEq, Prod.mk.injEq] at h
          obtain ⟨rfl, rfl⟩ := h
          refine ⟨_, ⟨hname, fun c hc => List.mem_takeWhile_imp hc, s.takeWhile isJsSpace,
            ((s.dropWhile isJsSpace).dropWhile isNameChar).takeWhile isJsSpace,
            fun c hc => List.mem_takeWhile_imp hc, fun c hc => List.mem_takeWhile_imp hc, rfl⟩, ?_⟩
          simp only [List.cons_append, List.append_assoc, List.nil_append, ← hrest,
            List.takeWhile_append_dropWhile]
      · cases h
    · cases h
  · rintro ⟨whole, hhole, rfl⟩
    exact matchAt_hole hhole rest

theorem spans_pieces {fuel : ℕ} {s : Text} (h : s.length ≤ fuel) : Spans s (pieces fuel s) := by
  induction fuel generalizing s with
  | zero =>
    obtain rfl := List.eq_nil_of_length_eq_zero (Nat.le_zero.mp h)
    exact .done
  | succ fuel ih =>
    cases s with
    | nil => exact .done
    | cons c s =>
      have hs : s.length ≤ fuel := Nat.le_of_succ_le_succ h
      rw [pieces]
      cases hm : matchAt (c :: s) with
      | none =>
        refine .text (fun whole name hhole hpre => ?_) (ih hs)
        obtain ⟨rest, hrest⟩ := hpre
        rw [matchAt_eq_some.mpr ⟨whole, hhole, hrest.symm⟩] at hm
        cases hm
      | some found =>
        obtain ⟨name, rest⟩ := found
        obtain ⟨whole, hhole, hwhole⟩ := matchAt_eq_some.mp hm
        have hlen := congrArg List.length hwhole
        rw [List.length_append, List.length_cons] at hlen
        have hpos : 0 < whole.length := by
          obtain ⟨a, b, -, -, rfl⟩ := hhole.whole
          exact Nat.succ_pos _
        dsimp only
        rw [hwhole, List.length_append, Nat.add_sub_cancel, List.take_left']
        · exact .hole hhole (ih (by omega))
        · rfl

theorem Spans.unique {s : Text} {ps qs : List Piece} (hp : Spans s ps) (hq : Spans s qs) :
    ps = qs := by
  induction hp generalizing qs with
  | done =>
    generalize hs : ([] : Text) = s at hq
    cases hq with
    | done => rfl
    | text => cases hs
    | hole hhole =>
      obtain ⟨a, b, -, -, rfl⟩ := hhole.whole
      cases hs
  | @text c s ps hno _ ih =>
    generalize hs : c :: s = t at hq
    cases hq with
    | done => cases hs
    | text _ hq =>
      cases hs
      rw [ih hq]
    | hole hhole =>
      rw [hs] at hno
      exact absurd (List.prefix_append _ _) (hno _ _ hhole)
  | @hole whole name s ps hhole _ ih =>
    have hm := matchAt_hole hhole s
    generalize hs : whole ++ s = t at hq
    cases hq with
    | done => rw [hs] at hm; cases hm
    | text hno => exact absurd ⟨s, hs⟩ (hno _ _ hhole)
    | hole hhole' hq =>
      rw [hs, matchAt_hole hhole'] at hm
      cases hm
      rw [ih hq, List.append_cancel_right hs]

/-! ## Rendering -/

/-- What HTML writes for a character. -/
def entity : Text :=
  if c = '&' then "&amp;".toList else if c = '<' then "&lt;".toList
  else if c = '>' then "&gt;".toList else if c = '"' then "&quot;".toList
  else if c = '\'' then "&#39;".toList else [c]

theorem escapeHtml_eq (s : Text) : escapeHtml s = s.flatMap entity := by
  simp only [escapeHtml, replace, List.flatMap_assoc]
  congr 1
  funext c
  unfold entity
  split
  next h => subst h; decide
  split
  next h => subst h; decide
  split
  next h => subst h; decide
  split
  next h => subst h; decide
  split
  next h => subst h; decide
  next h2 h3 h4 h5 => simp [h2, h3, h4, h5]

/-- A text made of entities and of characters that need none. -/
def Escaped (out : Text) : Prop := ∃ parts : List Text, out = parts.flatten ∧
  ∀ p ∈ parts, p ∈ ["&amp;".toList, "&lt;".toList, "&gt;".toList, "&quot;".toList, "&#39;".toList] ∨
    ∃ c, p = [c] ∧ c ∉ ['&', '<', '>', '"', '\'']

theorem escaped_escapeHtml (s : Text) : Escaped (escapeHtml s) := by
  refine ⟨s.map entity, by rw [escapeHtml_eq, List.flatMap_def], ?_⟩
  rw [List.forall_mem_map]
  intro c _
  by_cases hc : c ∈ ['&', '<', '>', '"', '\'']
  · left
    simp only [List.mem_cons, List.not_mem_nil, or_false] at hc
    rcases hc with rfl | rfl | rfl | rfl | rfl <;> decide
  · right
    refine ⟨c, ?_, hc⟩
    simp only [List.mem_cons, List.not_mem_nil, or_false, not_or] at hc
    simp [entity, hc]

/-- What a piece of a template becomes: characters stay, a placeholder of a variable that has a
value becomes the value, and any other placeholder stays, unless its name is one that every object
inherits. -/
def Rendered : Piece → Text → Prop
  | .text c, out => out = [c]
  | .hole whole name, out =>
    (∀ value s, vars.lookup name = some value → value.given = some s →
      out = if escape then escapeHtml s else s) ∧
    (∀ value, vars.lookup name = some value → value.given = none → out = whole) ∧
    (vars.lookup name = none → inherited name = none → out = whole) ∧
    (escape → out = whole ∨ Escaped out)

theorem rendered_substituted (p : Piece) :
    Rendered vars escape p (substituted vars escape p) := by
  cases p with
  | text c => rfl
  | hole whole name =>
    rw [substituted]
    refine ⟨fun value s hv hs => ?_, fun value hv hs => ?_, fun hv hi => ?_, fun he => ?_⟩
    · simp [lookup, hv, hs]
    · simp [lookup, hv, hs]
    · simp [lookup, hv, hi, Value.given]
    · rw [he]
      cases (lookup vars name).given with
      | none => exact .inl rfl
      | some s => exact .inr (escaped_escapeHtml s)

/-- A template is rendered piece by piece, in one pass over its only decomposition. -/
theorem renderTemplate_pieces (template : Text) (vars : TemplateVars) (escape : Bool) :
    ∃ ps outs, Spans template ps ∧ (∀ qs, Spans template qs → qs = ps) ∧
      List.Forall₂ (Rendered vars escape) ps outs ∧
      (renderTemplate template vars escape).text = outs.flatten := by
  have hspans := spans_pieces (Nat.le_refl template.length)
  refine ⟨_, (pieces template.length template).map (substituted vars escape), hspans,
    fun qs hq => hq.unique hspans, ?_, ?_⟩
  · rw [List.forall₂_map_right_iff]
    exact List.forall₂_same.mpr fun p _ => rendered_substituted vars escape p
  · rw [renderTemplate, List.flatMap_def]

/-- A placeholder of an inherited name is filled in, and one of an empty variable stays. -/
theorem renderTemplate_inherited :
    (renderTemplate (['{', '{'] ++ "valueOf".toList ++ ['}', '}']) [] true).text =
      "function valueOf() \x7b [native code] \x7d".toList ∧
    (renderTemplate ['{', '{', 'a', '}', '}'] [(['a'], .string [])] true).text =
      ['{', '{', 'a', '}', '}'] := by
  decide +kernel

end Travelo.Templates
