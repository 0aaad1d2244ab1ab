import Mathlib.Data.List.Basic

/-!
# CSV documents

`to-csv.ts` against a reader of RFC 4180: records end with CRLF, fields are separated by commas, and a
field in quotes may hold commas, CR, LF and doubled quotes. Texts are lists of characters.
-/

namespace Travelo.Csv

abbrev Text := List Char

/-- A value to export; numbers, dates and objects are known by their texts. -/
inductive Value where
  | null
  | undefined
  /-- The text of `toISOString`, none when the time is NaN. -/
  | date (iso : Option Text)
  | object (json : Text)
  | boolean (b : Bool)
  | number (text : Text)
  | string (s : Text)

/-- `NEEDS_QUOTING`. -/
def special (c : Char) : Bool := c ∈ ['"', ',', '\r', '\n']

/-- With one of these in front a spreadsheet takes a cell for a formula. -/
def formula (c : Char) : Bool := c ∈ ['=', '+', '-', '@', '\t', '\r']

/-- The text of a value; only a string is guarded. -/
def textOf : Value → Text
  | .null | .undefined => []
  | .date iso => iso.getD []
  | .object json => json
  | .boolean b => (toString b).toList
  | .number text => text
  | .string s => if s.head?.any formula then '\'' :: s else s

def doubled (text : Text) : Text := text.flatMap fun c => if c = '"' then ['"', '"'] else [c]

def quoted (text : Text) : Text :=
  if text.any special then '"' :: (doubled text ++ ['"']) else text

def toCsvValue (value : Value) : Text := quoted (textOf value)

def toCsvRow (values : List Value) : Text := [','].intercalate (values.map toCsvValue)

def toCsvDocument (headers : List Text) (rows : List (List Value)) : Text :=
  ['\r', '\n'].intercalate (toCsvRow (headers.map .string) :: rows.map toCsvRow) ++ ['\r', '\n']

/-! ## The reader -/

/-- Where the reader is. -/
inductive Place where
  /-- At the first character of a field. -/
  | field
  /-- After a line break: the document may end here. -/
  | line
  | plain
  | escaped
  /-- After a quote in an escaped field: its end, or the first of two. -/
  | quote
  | cr

/-- Put a text in front of the first field. -/
def prepend (text : Text) : List (List Text) → List (List Text)
  | (f :: r) :: rs => ((text ++ f) :: r) :: rs
  | rs => rs

/-- The first field ends, and the record goes on. -/
def addField : List (List Text) → List (List Text)
  | r :: rs => ([] :: r) :: rs
  | [] => []

/-- The records of what is left, the field that is being read first. -/
def read : Place → Text → Option (List (List Text))
  | .line, [] => some []
  | .escaped, [] | .cr, [] => none
  | _, [] => some [[[]]]
  | .escaped, c :: s => if c = '"' then read .quote s else (read .escaped s).map (prepend [c])
  | .cr, c :: s => if c = '\n' then (read .line s).map ([[]] :: ·) else none
  | place, c :: s =>
    if c = ',' then (read .field s).map addField
    else if c = '\r' then read .cr s
    else
      match place with
      | .quote => if c = '"' then (read .escaped s).map (prepend [c]) else none
      | .plain => if special c then none else (read .plain s).map (prepend [c])
      | _ =>
        if c = '"' then read .escaped s
        else if c = '\n' then none
        else (read .plain s).map (prepend [c])

def parse (document : Text) : Option (List (List Text)) := read .field document

@[simp] theorem prepend_nil : prepend [] = id := by
  funext rs
  rcases rs with - | ⟨- | ⟨f, r⟩, rs⟩ <;> rfl

theorem prepend_append (t u : Text) (rs : List (List Text)) :
    prepend t (prepend u rs) = prepend (t ++ u) rs := by
  rcases rs with - | ⟨- | ⟨f, r⟩, rs⟩ <;> simp [prepend]

/-- What ends a field. -/
inductive Ends : Text → Prop
  | comma (s : Text) : Ends (',' :: s)
  | line (s : Text) : Ends ('\r' :: '\n' :: s)

theorem Ends.same {s : Text} (h : Ends s) :
    read .quote s = read .plain s ∧ read .field s = read .plain s := by
  cases h <;> exact ⟨rfl, rfl⟩

theorem read_plain {t : Text} (ht : ∀ c ∈ t, special c = false) (s : Text) :
    read .plain (t ++ s) = (read .plain s).map (prepend t) := by
  induction t with
  | nil => simp
  | cons c t ih =>
    rw [List.forall_mem_cons] at ht
    have hc : c ≠ ',' ∧ c ≠ '\r' := by
      have := ht.1
      simp only [special, List.mem_cons, List.not_mem_nil, or_false, decide_eq_false_iff_not,
        not_or] at this
      exact ⟨this.2.1, this.2.2.1⟩
    rw [List.cons_append, read.eq_def]
    simp only [if_neg hc.1, if_neg hc.2, ht.1, Bool.false_eq_true, if_false, ih ht.2,
      Option.map_map]
    congr 1
    exact funext (prepend_append [c] t)

theorem read_escaped (t s : Text) :
    read .escaped (doubled t ++ '"' :: s) = (read .quote s).map (prepend t) := by
  induction t with
  | nil => simp [doubled, read]
  | cons c t ih =>
    have hc : read .escaped (doubled (c :: t) ++ '"' :: s) =
        (read .escaped (doubled t ++ '"' :: s)).map (prepend [c]) := by
      by_cases hq : c = '"'
      · rw [hq]
        rfl
      · simp [doubled, hq, read]
    rw [hc, ih, Option.map_map]
    congr 1
    exact funext (prepend_append [c] t)

theorem read_quoted (t : Text) {s : Text} (hs : Ends s) :
    read .field (quoted t ++ s) = (read .plain s).map (prepend t) := by
  unfold quoted
  split
  · rw [List.cons_append, List.append_assoc]
    exact (read_escaped t s).trans (by rw [hs.same.1])
  next h =>
    have ht : ∀ c ∈ t, special c = false := by simpa using h
    rw [← read_plain ht]
    -- outside quotes the first character is read as any other
    cases t with
    | nil => exact hs.same.2
    | cons c t =>
      have hc := ht c List.mem_cons_self
      simp only [special, List.mem_cons, List.not_mem_nil, or_false, decide_eq_false_iff_not,
        not_or] at hc
      rw [List.cons_append, read.eq_def, read.eq_def .plain]
      simp [hc, special]

/-- What a reader makes of a row: one with no cell is an empty line, which is one empty field. -/
def cells (values : List Value) : List Text :=
  if values = [] then [[]] else values.map textOf

theorem read_row (values : List Value) (s : Text) :
    read .field (toCsvRow values ++ '\r' :: '\n' :: s) =
      (read .line s).map (cells values :: ·) := by
  cases values with
  | nil => simp [toCsvRow, read, cells]
  | cons v values =>
    rw [cells, if_neg (List.cons_ne_nil _ _)]
    induction values generalizing v with
    | nil =>
      rw [show toCsvRow [v] = quoted (textOf v) by simp [toCsvRow, toCsvValue]]
      refine (read_quoted (textOf v) (.line s)).trans ?_
      simp [read, Option.map_map, Function.comp_def, prepend]
    | cons w values ih =>
      have hrow : toCsvRow (v :: w :: values) ++ '\r' :: '\n' :: s =
          toCsvValue v ++ ',' :: (toCsvRow (w :: values) ++ '\r' :: '\n' :: s) := by
        simp [toCsvRow]
      rw [hrow]
      refine (read_quoted (textOf v) (.comma _)).trans ?_
      simp [read, ih, Option.map_map, Function.comp_def, prepend, addField]

theorem read_rows (rows : List (List Value)) :
    read .line (rows.flatMap fun r => toCsvRow r ++ ['\r', '\n']) = some (rows.map cells) := by
  induction rows with
  | nil => rfl
  | cons r rows ih =>
    have hline (c : Char) (s : Text) : read .line (c :: s) = read .field (c :: s) := by
      rw [read.eq_def, read.eq_def .field]
    have hrow := read_row r (rows.flatMap fun r => toCsvRow r ++ ['\r', '\n'])
    rw [ih] at hrow
    rw [List.flatMap_cons, List.append_assoc]
    refine Eq.trans ?_ hrow
    cases toCsvRow r <;> exact hline _ _

theorem toCsvDocument_eq (headers : List Text) (rows : List (List Value)) :
    toCsvDocument headers rows =
      (headers.map .string :: rows).flatMap fun r => toCsvRow r ++ ['\r', '\n'] := by
  have hjoin (l : List Text) (r : Text) : ['\r', '\n'].intercalate (r :: l) ++ ['\r', '\n'] =
      (r :: l).flatMap (· ++ ['\r', '\n']) := by
    induction l generalizing r with
    | nil => simp
    | cons r' l ih => simpa using ih r'
  rw [toCsvDocument, hjoin, ← List.map_cons, List.flatMap_map]

/-- A document reads back as its headers and rows, guards included and a row with no cell as one
empty field, and no cell from a string begins as a formula. -/
theorem parse_toCsvDocument (headers : List Text) (rows : List (List Value)) :
    parse (toCsvDocument headers rows) = some ((headers.map .string :: rows).map cells) ∧
      ∀ s, (textOf (.string s)).head?.any formula = false := by
  constructor
  · have hrow := read_row (headers.map .string)
      (rows.flatMap fun r => toCsvRow r ++ ['\r', '\n'])
    rw [read_rows] at hrow
    rw [parse, toCsvDocument_eq, List.flatMap_cons, List.append_assoc]
    exact hrow
  · intro s
    rw [textOf]
    split
    · rfl
    next h => simpa using h

/-- A row with no cell reads back with one, and a header that is guarded as its guarded text. -/
theorem parse_empty_row :
    parse (toCsvDocument [['=', 'a']] [[]]) = some [[['\'', '=', 'a']], [[]]] := by
  decide +kernel

end Travelo.Csv
