import Mathlib.Data.List.Basic

/-!
# The lexical reading of an SQL text

What a statement is made of before it is parsed: string literals, quoted names, and code.
The reader follows PostgreSQL with `standard_conforming_strings` on, where a quote inside a
literal is written twice and nothing else is special. Everything outside that fragment (a
comment, a dollar quote, a quote that touches a name, a NUL) is not read at all, so a text
that is read has none of it.

The two rules used by a text that is put together: reading goes piece by piece
(`scan_append`), and an escaped text between quotes reads as that text
(`scan_literal`).
-/

namespace Claims.SqlText

inductive Token where
  | code (c : Char)
  | literal (text : List Char)
  | name (text : List Char)

/-- Where the reader is: in code after `prev`, in a literal, after a quote in a literal, in a
quoted name. -/
inductive Mode where
  | code (prev : Char)
  | literal (text : List Char)
  | closing (text : List Char)
  | name (text : List Char)
  deriving DecidableEq

def quote : Char := '\x27'

def nameQuote : Char := '\x22'

def nul : Char := '\x00'

/-- A quote may follow `c` and start a literal. -/
def opens (c : Char) : Bool :=
  !(c.isAlphanum || c = '_' || c = '&' || 127 < c.toNat || c = quote || c = nameQuote)

/-- What is not read in code after `prev`. -/
def refuses (prev c : Char) : Bool :=
  c = nul || c = '$' || ((c = quote || c = nameQuote) && !opens prev) ||
    (prev = '-' && c = '-') || (prev = '/' && c = '*')

def codeStep (prev c : Char) : Option (Mode × List Token) :=
  if refuses prev c then none
  else if c = quote then some (.literal [], [])
  else if c = nameQuote then some (.name [], [])
  else some (.code c, [.code c])

def step : Mode → Char → Option (Mode × List Token)
  | .code prev, c => codeStep prev c
  | .literal text, c =>
    if c = nul then none
    else if c = quote then some (.closing text, [])
    else some (.literal (text ++ [c]), [])
  | .closing text, c =>
    if c = quote then some (.literal (text ++ [c]), [])
    else (codeStep quote c).map fun r => (r.1, .literal text :: r.2)
  | .name text, c =>
    if c = nul then none
    else if c = nameQuote then some (.code nameQuote, [.name text])
    else some (.name (text ++ [c]), [])

/-- The tokens of a text and where it leaves the reader. -/
def scan : Mode → List Char → Option (Mode × List Token)
  | m, [] => some (m, [])
  | m, c :: cs => (step m c).bind fun r => (scan r.1 cs).map fun r' => (r'.1, r.2 ++ r'.2)

/-- What is still to be said at the end of a text. -/
def finish : Mode → Option (List Token)
  | .code _ => some []
  | .closing text => some [.literal text]
  | .literal _ => none
  | .name _ => none

/-- The tokens of a text read to its end. -/
def lexFrom (m : Mode) (s : List Char) : Option (List Token) :=
  (scan m s).bind fun r => (finish r.1).map (r.2 ++ ·)

def lex (s : List Char) : Option (List Token) := lexFrom (.code ' ') s

/-- `'…'`, each quote of the text written twice. -/
def escape (text : List Char) : List Char :=
  text.flatMap fun c => if c = quote then [quote, quote] else [c]

def quoted (text : List Char) : List Char := quote :: (escape text ++ [quote])

/-! ## Reading piece by piece -/

theorem scan_append (m : Mode) (u v : List Char) :
    scan m (u ++ v) = (scan m u).bind fun r => (scan r.1 v).map fun r' => (r'.1, r.2 ++ r'.2) := by
  induction u generalizing m with
  | nil => simp [scan]
  | cons c u ih =>
    simp only [List.cons_append, scan]
    cases hstep : step m c with
    | none => rfl
    | some r =>
      simp only [Option.bind_some, ih]
      cases hu : scan r.1 u with
      | none => rfl
      | some r' =>
        simp only [Option.bind_some, Option.map_some, Option.map_map]
        congr 1
        funext r''
        simp

theorem lexFrom_append {m m' : Mode} {u : List Char} {ts : List Token}
    (h : scan m u = some (m', ts)) (v : List Char) :
    lexFrom m (u ++ v) = (lexFrom m' v).map (ts ++ ·) := by
  unfold lexFrom
  rw [scan_append, h]
  simp only [Option.bind_some]
  cases hv : scan m' v with
  | none => rfl
  | some r =>
    simp only [Option.map_some, Option.bind_some]
    cases hf : finish r.1 <;> simp

variable {s : List Char}

theorem scan_of_nul (h : nul ∈ s) (m : Mode) : scan m s = none := by
  induction s generalizing m with
  | nil => cases h
  | cons c s ih =>
    simp only [scan]
    rcases List.mem_cons.mp h with hc | hs
    · have hstep : step m c = none := by
        subst hc
        cases m <;> simp [step, codeStep, refuses, nul, quote]
      rw [hstep]
      rfl
    · cases hstep : step m c with
      | none => rfl
      | some r => simp [ih hs]

theorem lex_of_nul (h : nul ∈ s) : lex s = none := by
  rw [lex, lexFrom, scan_of_nul h]
  rfl

variable {text : List Char} {c : Char}

theorem mem_escape : c ∈ escape text ↔ c ∈ text := by
  simp only [escape, List.mem_flatMap]
  constructor
  · rintro ⟨d, hd, hc⟩
    split at hc
    · next hq =>
      have hcq : c = quote := by simpa using hc
      rw [hcq, ← hq]
      exact hd
    · have hcd : c = d := by simpa using hc
      rw [hcd]
      exact hd
  · intro hc
    refine ⟨c, hc, ?_⟩
    split
    · next hq => simp [hq]
    · simp

theorem escape_of_quote_notMem (h : quote ∉ text) : escape text = text := by
  induction text with
  | nil => rfl
  | cons c text ih =>
    have hc : c ≠ quote := by
      rintro rfl
      exact h List.mem_cons_self
    have htail := ih (fun hm => h (List.mem_cons_of_mem c hm))
    simp only [escape] at htail
    simp [escape, hc, htail]

theorem scan_escape (h : nul ∉ text) (read : List Char) :
    scan (.literal read) (escape text) = some (.literal (read ++ text), []) := by
  induction text generalizing read with
  | nil => simp [escape, scan]
  | cons c text ih =>
    have hc : c ≠ nul := by
      rintro rfl
      exact h List.mem_cons_self
    have htail := ih (fun hm => h (List.mem_cons_of_mem c hm)) (read ++ [c])
    simp only [escape] at htail
    by_cases hq : c = quote
    · have hqn : quote ≠ nul := by decide
      subst hq
      simp [escape, scan, step, hqn, htail]
    · simp [escape, scan, step, hc, hq, htail]

theorem scan_literal (h : nul ∉ text) {prev : Char} (hprev : opens prev = true) :
    scan (.code prev) (quoted text) = some (.closing text, []) := by
  have hopen : codeStep prev quote = some (.literal [], []) := by
    have hq : refuses prev quote = false := by
      simp [refuses, hprev, quote, nul]
    simp [codeStep, hq]
  have hqn : quote ≠ nul := by decide
  simp [quoted, scan, step, hopen, scan_append, scan_escape h, hqn]

/-! ## Pieces -/

/-- A character the reader takes alike wherever it is in code. -/
def neutral (c : Char) : Bool :=
  c ≠ nul && c ≠ '$' && c ≠ quote && c ≠ nameQuote && c ≠ '-' && c ≠ '*'

theorem codeStep_neutral (h : neutral c = true) (prev : Char) :
    codeStep prev c = some (.code c, [.code c]) := by
  simp only [neutral, Bool.and_eq_true, decide_eq_true_eq, ne_eq] at h
  simp [codeStep, refuses, h]

theorem scan_neutral (h : neutral c = true) (prev prev' : Char) (s : List Char) :
    scan (.code prev) (c :: s) = scan (.code prev') (c :: s) := by
  simp [scan, step, codeStep_neutral h]

theorem lexFrom_closing (h : neutral c = true) (text s : List Char) :
    lexFrom (.closing text) (c :: s) = (lex (c :: s)).map (.literal text :: ·) := by
  have hq : c ≠ quote := by
    rintro rfl
    exact absurd h (by decide)
  simp only [lex, lexFrom, scan, step, codeStep_neutral h, hq, if_false, Option.map_some,
    Option.bind_some]
  cases hs : scan (.code c) s with
  | none => rfl
  | some r =>
    simp only [Option.map_some, Option.bind_some]
    cases hf : finish r.1 <;> simp

/-- A text of code that stands by itself: it starts neutral and ends in code, after `last`. -/
def standsTo (s : List Char) (last : Char) : Bool :=
  (s.head?.map neutral).getD false &&
    ((scan (.code ' ') s).map fun r => decide (r.1 = .code last)).getD false

theorem standsTo_iff {last : Char} : standsTo s last = true ↔
    (∃ c t, s = c :: t ∧ neutral c = true) ∧ ∃ ts, scan (.code ' ') s = some (.code last, ts) := by
  unfold standsTo
  cases s with
  | nil => simp
  | cons c t =>
    cases hscan : scan (.code ' ') (c :: t) with
    | none => simp
    | some r =>
      rcases r with ⟨m, ts⟩
      simp

/-- A text of code stands by itself, whatever it ends with. -/
def stands (s : List Char) : Bool :=
  match scan (.code ' ') s with
  | some (.code last, _) => standsTo s last
  | _ => false

theorem exists_of_stands (h : stands s = true) :
    ∃ last, standsTo s last = true := by
  unfold stands at h
  split at h
  · next last _ _ => exact ⟨last, h⟩
  · cases h

theorem standsTo_append {u v : List Char} {c last : Char} (hu : standsTo u c = true)
    (hv : standsTo v last = true) : standsTo (u ++ v) last = true := by
  rw [standsTo_iff] at hu hv ⊢
  rcases hu with ⟨⟨a, u', rfl, ha⟩, ts, hscan⟩
  rcases hv with ⟨⟨b, v', rfl, hb⟩, ts', hscan'⟩
  refine ⟨⟨a, u' ++ b :: v', rfl, ha⟩, ts ++ ts', ?_⟩
  rw [scan_append, hscan]
  simp only [Option.bind_some]
  rw [scan_neutral hb c ' ', hscan']
  rfl

theorem stands_of_standsTo {last : Char} (h : standsTo s last = true) :
    stands s = true := by
  rcases standsTo_iff.mp h with ⟨-, ts, hscan⟩
  unfold stands
  rw [hscan]
  exact h

theorem stands_append {u v : List Char} (hu : stands u = true) (hv : stands v = true) :
    stands (u ++ v) = true := by
  rcases exists_of_stands hu with ⟨c, hu⟩
  rcases exists_of_stands hv with ⟨last, hv⟩
  exact stands_of_standsTo (standsTo_append hu hv)

inductive Piece where
  | sql (text : List Char)
  | literal (text : List Char)

def Piece.chars : Piece → List Char
  | .sql text => text
  | .literal text => quoted text

/-- A text of code read by itself; a literal is its text. -/
def Piece.tokens : Piece → Option (List Token)
  | .sql text => lex text
  | .literal text => some [.literal text]

def charsOf (ps : List Piece) : List Char := ps.flatMap Piece.chars

/-- The pieces read one by one. -/
def tokensOf : List Piece → Option (List Token)
  | [] => some []
  | p :: ps => p.tokens.bind fun ts => (tokensOf ps).map (ts ++ ·)

/-- The pieces can be put one after another, after `prev`: code stands by itself, a literal
comes where one may open and is followed by code. -/
def Fits : Char → List Piece → Prop
  | _, [] => True
  | _, .sql text :: ps => ∃ last, standsTo text last = true ∧ Fits last ps
  | prev, .literal text :: ps => opens prev = true ∧ nul ∉ text ∧
      (∃ code rest, ps = .sql code :: rest) ∧ Fits quote ps

theorem lexFrom_charsOf {ps : List Piece} : ∀ {prev : Char}, Fits prev ps →
    lexFrom (.code prev) (charsOf ps) = tokensOf ps := by
  induction ps with
  | nil =>
    intro prev _
    rfl
  | cons p ps ih =>
    intro prev hfits
    cases p with
    | sql text =>
      rcases hfits with ⟨last, hstands, hrest⟩
      rcases standsTo_iff.mp hstands with ⟨⟨c, t, rfl, hc⟩, ts, hscan⟩
      have hread : lex (c :: t) = some ts := by
        simp [lex, lexFrom, hscan, finish]
      show lexFrom (.code prev) ((c :: t) ++ charsOf ps) = _
      rw [lexFrom_append (by rw [scan_neutral hc prev ' ', hscan]), ih hrest]
      simp [tokensOf, Piece.tokens, hread]
    | literal text =>
      rcases hfits with ⟨hopens, hnul, ⟨code, rest, rfl⟩, hrest⟩
      have hcode := ih hrest
      rcases hrest with ⟨last, hstands, -⟩
      rcases standsTo_iff.mp hstands with ⟨⟨c, t, rfl, hc⟩, -⟩
      show lexFrom (.code prev) (quoted text ++ ((c :: t) ++ charsOf rest)) = _
      rw [lexFrom_append (scan_literal hnul hopens)]
      -- the code that follows ends the literal
      rw [List.cons_append, lexFrom_closing hc]
      have hsame : lex (c :: (t ++ charsOf rest)) = tokensOf (.sql (c :: t) :: rest) := by
        rw [← hcode]
        show lexFrom _ _ = lexFrom _ (c :: (t ++ charsOf rest))
        simp only [lexFrom, scan_neutral hc ' ' quote]
      rw [hsame]
      simp [tokensOf, Piece.tokens]

theorem tokensOf_of_fits {ps : List Piece} : ∀ {prev : Char}, Fits prev ps →
    ∃ ts, tokensOf ps = some ts := by
  induction ps with
  | nil =>
    intro prev _
    exact ⟨[], rfl⟩
  | cons p ps ih =>
    intro prev hfits
    cases p with
    | sql text =>
      rcases hfits with ⟨last, hstands, hrest⟩
      rcases standsTo_iff.mp hstands with ⟨-, ts, hscan⟩
      rcases ih hrest with ⟨ts', htail⟩
      have hread : lex text = some ts := by
        simp [lex, lexFrom, hscan, finish]
      exact ⟨ts ++ ts', by simp [tokensOf, Piece.tokens, hread, htail]⟩
    | literal text =>
      rcases hfits with ⟨-, -, -, hrest⟩
      rcases ih hrest with ⟨ts', htail⟩
      exact ⟨.literal text :: ts', by simp [tokensOf, Piece.tokens, htail]⟩

end Claims.SqlText
