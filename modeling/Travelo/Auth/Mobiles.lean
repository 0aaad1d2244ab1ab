import Mathlib.Data.Nat.Notation

/-!
# Canonical mobile numbers

`mobile.util.ts`: a number is reduced to its digits, an Indian country code is dropped from more than
ten digits, then the trunk zeros. Each happens once and in this order, so a country code that stands
behind a trunk zero, or behind another one, stays.
-/

namespace Travelo.Mobile

/-- `raw.replace(/\D+/g, '')`. -/
def digitsOf (raw : String) : List Char := raw.toList.filter Char.isDigit

def countryCode : List Char := ['9', '1']

def dropCode (digits : List Char) : List Char :=
  if 10 < digits.length ∧ countryCode <+: digits then digits.drop 2 else digits

def dropZeros (digits : List Char) : List Char := digits.dropWhile (· = '0')

def normalizeMobile : Option String → Option String
  | none => none
  | some raw =>
    if digitsOf raw = [] then none
    else
      let digits := dropZeros (dropCode (digitsOf raw))
      if digits.length < 10 ∨ 15 < digits.length then none else some (String.ofList digits)

def mobileMatches (a b : Option String) : Prop :=
  normalizeMobile a ≠ none ∧ normalizeMobile b ≠ none ∧ normalizeMobile a = normalizeMobile b

/-- A ten-digit number that does not start with 0. -/
structure Subscriber (d : String) : Prop where
  digits : ∀ c ∈ d.toList, c.isDigit
  length : d.length = 10
  head : d.toList.head? ≠ some '0'

/-- What may stand in front of a number. -/
def fronts : List String := ["", "0", "91", "+91", "091", "0091"]

/-- A front that has the country code behind trunk zeros. -/
def late (front : String) : Prop := front = "091" ∨ front = "0091"
  deriving Decidable

/-- `s` is `d` behind a front, with other characters than digits anywhere. -/
structure Writes (front d s : String) : Prop where
  known : front ∈ fronts
  number : Subscriber d
  digits : digitsOf s = digitsOf front ++ d.toList

/-- A country code with more than eight digits after it stands behind a country code or trunk
zeros. -/
def CodeBehind (s : String) : Prop :=
  ∃ front k rest, digitsOf s = front ++ List.replicate k '0' ++ (countryCode ++ rest) ∧
    8 < rest.length ∧ (front = countryCode ∨ front = [] ∧ 0 < k)

theorem mem_digitsOf {s : String} {c : Char} (h : c ∈ digitsOf s) : c.isDigit :=
  (List.mem_filter.mp h).2

theorem dropCode_suffix (l : List Char) : dropCode l <:+ l := by
  unfold dropCode
  split
  · exact List.drop_suffix 2 l
  · exact List.suffix_refl l

theorem head_dropZeros (l : List Char) : (dropZeros l).head? ≠ some '0' := by
  intro h
  have := List.head?_dropWhile_not (· = '0') l
  simp only [dropZeros] at h
  simp [h] at this

theorem dropZeros_eq_self {l : List Char} (h : l.head? ≠ some '0') : dropZeros l = l := by
  cases l with
  | nil => rfl
  | cons c l =>
    have hc : c ≠ '0' := fun hc => h (by rw [hc]; rfl)
    simp [dropZeros, hc]

theorem dropZeros_replicate (k : ℕ) {l : List Char} (h : l.head? ≠ some '0') :
    dropZeros (List.replicate k '0' ++ l) = l := by
  induction k with
  | zero => exact dropZeros_eq_self h
  | succ k ih => rw [List.replicate_succ, List.cons_append, dropZeros,
      List.dropWhile_cons_of_pos (by decide), ← dropZeros, ih]

theorem replicate_dropZeros (l : List Char) : ∃ k, l = List.replicate k '0' ++ dropZeros l := by
  induction l with
  | nil => exact ⟨0, rfl⟩
  | cons c l ih =>
    by_cases hc : c = '0'
    · obtain ⟨k, hk⟩ := ih
      refine ⟨k + 1, ?_⟩
      rw [dropZeros, List.dropWhile_cons_of_pos (by simpa using hc), ← dropZeros,
        List.replicate_succ, List.cons_append, ← hk, hc]
    · exact ⟨0, by simp [dropZeros, hc]⟩

theorem dropCode_code {l : List Char} (h : 8 < l.length) : dropCode (countryCode ++ l) = l := by
  have hlen : 10 < (countryCode ++ l).length := by
    rw [List.length_append, show countryCode.length = 2 from rfl]
    omega
  rw [dropCode, if_pos ⟨hlen, List.prefix_append _ _⟩]
  rfl

theorem dropCode_of_head {l : List Char} (h : l.head? ≠ some '9') : dropCode l = l := by
  refine if_neg fun hc => h ?_
  obtain ⟨t, ht⟩ := hc.2
  rw [← ht]
  rfl

theorem normalizeMobile_eq_some {s n : String} : normalizeMobile (some s) = some n ↔
    n.toList = dropZeros (dropCode (digitsOf s)) ∧ 10 ≤ n.length ∧ n.length ≤ 15 := by
  have hofList (l : List Char) : String.ofList l = n ↔ n.toList = l :=
    ⟨fun h => by rw [← h, String.toList_ofList], fun h => by rw [← h, String.ofList_toList]⟩
  rw [normalizeMobile, ← String.length_toList]
  by_cases hnil : digitsOf s = []
  · rw [if_pos hnil, hnil]
    constructor
    · intro h
      cases h
    · rintro ⟨h, hlen, -⟩
      rw [h] at hlen
      exact absurd hlen (by decide)
  · rw [if_neg hnil]
    constructor
    · intro h
      dsimp only at h
      split at h
      · cases h
      next hlen =>
        have hl := (hofList _).mp (Option.some.inj h)
        rw [hl]
        exact ⟨rfl, by omega, by omega⟩
    · rintro ⟨h, hlen⟩
      rw [h] at hlen
      rw [if_neg (by omega), (hofList _).mpr h]

/-- Trunk zeros and one country code aside, a country code that is left in front of more than eight
digits is one that stood behind. -/
theorem codeBehind_iff {s : String} : CodeBehind s ↔
    10 < (dropZeros (dropCode (digitsOf s))).length ∧
      countryCode <+: dropZeros (dropCode (digitsOf s)) := by
  have hhead (rest : List Char) : (countryCode ++ rest).head? ≠ some '0' := by
    simp [countryCode]
  constructor
  · rintro ⟨front, k, rest, hs, hrest, hfront⟩
    have hdrop : dropZeros (dropCode (digitsOf s)) = countryCode ++ rest := by
      rw [hs, List.append_assoc]
      rcases hfront with rfl | ⟨rfl, hk⟩
      · rw [dropCode_code (by simp; omega), dropZeros_replicate k (hhead rest)]
      · obtain ⟨k, rfl⟩ := Nat.exists_eq_add_of_lt hk
        rw [dropCode_of_head (by simp [List.replicate_succ]), List.nil_append,
          dropZeros_replicate _ (hhead rest)]
    rw [hdrop, List.length_append, show countryCode.length = 2 from rfl]
    exact ⟨by omega, List.prefix_append _ _⟩
  · rintro ⟨hlen, rest, hrest⟩
    obtain ⟨k, hk⟩ := replicate_dropZeros (dropCode (digitsOf s))
    rw [← hrest] at hk hlen
    have h8 : 8 < rest.length := by
      rw [List.length_append, show countryCode.length = 2 from rfl] at hlen
      omega
    by_cases hcode : 10 < (digitsOf s).length ∧ countryCode <+: digitsOf s
    · -- the code that was dropped stands in front
      refine ⟨countryCode, k, rest, ?_, h8, .inl rfl⟩
      obtain ⟨t, ht⟩ := hcode.2
      rw [dropCode, if_pos hcode] at hk
      rw [List.append_assoc, ← hk, ← ht]
      rfl
    · rw [dropCode, if_neg hcode] at hk
      refine ⟨[], k, rest, hk, h8, .inr ⟨rfl, Nat.pos_of_ne_zero fun h => hcode ?_⟩⟩
      rw [hk, h]
      exact ⟨hlen, List.prefix_append _ _⟩

theorem normalizeMobile_again {s n : String} (h : normalizeMobile (some s) = some n) :
    normalizeMobile (some n) = some n ↔ ¬ CodeBehind s := by
  obtain ⟨hn, hlo, hhi⟩ := normalizeMobile_eq_some.mp h
  have hdigits : digitsOf n = n.toList := by
    rw [digitsOf, List.filter_eq_self]
    intro c hc
    rw [hn] at hc
    exact mem_digitsOf ((dropCode_suffix _).mem (List.dropWhile_suffix _ |>.mem hc))
  have hhead : n.toList.head? ≠ some '0' := by
    rw [hn]
    exact head_dropZeros _
  rw [normalizeMobile_eq_some, codeBehind_iff, ← hn, hdigits]
  constructor
  · rintro ⟨hsame, -⟩ hcode
    have hshort : (dropZeros (n.toList.drop 2)).length ≤ n.toList.length - 2 := by
      rw [← List.length_drop]
      exact (List.dropWhile_suffix _).length_le
    rw [dropCode, if_pos hcode] at hsame
    rw [← hsame] at hshort
    have := hcode.1
    omega
  · intro hcode
    rw [dropCode, if_neg hcode, dropZeros_eq_self hhead]
    exact ⟨rfl, hlo, hhi⟩

theorem normalizeMobile_writing {front d s : String} (h : Writes front d s) :
    (late front → normalizeMobile (some s) = some ("91" ++ d)) ∧
      (¬ late front → normalizeMobile (some s) = some d) := by
  have hlen : d.toList.length = 10 := by rw [String.length_toList, h.number.length]
  have hcode : (countryCode ++ d.toList).head? ≠ some '0' := by simp [countryCode]
  have h9 (l : List Char) : dropCode ('0' :: l) = '0' :: l := dropCode_of_head (by simp)
  have hshort : dropCode d.toList = d.toList := if_neg fun h => by omega
  have hd : dropZeros d.toList = d.toList := dropZeros_eq_self h.number.head
  have hone : dropZeros ('0' :: d.toList) = d.toList := dropZeros_replicate 1 h.number.head
  have hbehind (k : ℕ) := dropZeros_replicate k hcode
  simp only [normalizeMobile_eq_some, h.digits, String.toList_append, String.length_append,
    h.number.length]
  have hfront := h.known
  simp only [fronts, List.mem_cons, List.not_mem_nil, or_false] at hfront
  rcases hfront with rfl | rfl | rfl | rfl | rfl | rfl
  · rw [show digitsOf "" ++ d.toList = d.toList from rfl, hshort, hd]
    exact ⟨fun h => absurd h (by decide), fun _ => ⟨rfl, by omega, by omega⟩⟩
  · rw [show digitsOf "0" ++ d.toList = '0' :: d.toList from rfl, h9, hone]
    exact ⟨fun h => absurd h (by decide), fun _ => ⟨rfl, by omega, by omega⟩⟩
  · rw [show digitsOf "91" = countryCode from rfl, dropCode_code (by omega), hd]
    exact ⟨fun h => absurd h (by decide), fun _ => ⟨rfl, by omega, by omega⟩⟩
  · rw [show digitsOf "+91" = countryCode from rfl, dropCode_code (by omega), hd]
    exact ⟨fun h => absurd h (by decide), fun _ => ⟨rfl, by omega, by omega⟩⟩
  · rw [show digitsOf "091" ++ d.toList = '0' :: (countryCode ++ d.toList) from rfl, h9]
    exact ⟨fun _ => ⟨(hbehind 1).symm, by decide, by decide⟩, fun h => absurd (.inl rfl) h⟩
  · rw [show digitsOf "0091" ++ d.toList = '0' :: '0' :: (countryCode ++ d.toList) from rfl, h9]
    exact ⟨fun _ => ⟨(hbehind 2).symm, by decide, by decide⟩, fun h => absurd (.inr rfl) h⟩

/-- Two writings of one number match when both or neither have the country code behind trunk
zeros. -/
theorem mobileMatches_writings {front other d s t : String} (hs : Writes front d s)
    (ht : Writes other d t) : mobileMatches (some s) (some t) ↔ (late front ↔ late other) := by
  have hne : "91" ++ d ≠ d := fun h => by
    have := congrArg String.length h
    rw [String.length_append, show "91".length = 2 from rfl] at this
    omega
  have hs' := normalizeMobile_writing hs
  have ht' := normalizeMobile_writing ht
  by_cases hf : late front <;> by_cases ho : late other
  · simp [mobileMatches, hs'.1 hf, ht'.1 ho, hf, ho]
  · simp [mobileMatches, hs'.1 hf, ht'.2 ho, hf, ho, hne]
  · simp [mobileMatches, hs'.2 hf, ht'.1 ho, hf, ho, hne.symm]
  · simp [mobileMatches, hs'.2 hf, ht'.2 ho, hf, ho]

/-- Normal forms are stable, writings are reduced to their number and match, each exactly where no
country code stands behind trunk zeros or another one; matching is symmetric and transitive. -/
theorem normalizeMobile_canonical_iff (a b c : Option String) (front other d n s t : String) :
    (normalizeMobile (some s) = some n → (normalizeMobile (some n) = some n ↔ ¬ CodeBehind s)) ∧
      (Writes front d s → (normalizeMobile (some s) = some d ↔ ¬ late front)) ∧
      (mobileMatches a b → mobileMatches b a) ∧
      (mobileMatches a b → mobileMatches b c → mobileMatches a c) ∧
      (Writes front d s → Writes other d t →
        (mobileMatches (some s) (some t) ↔ (late front ↔ late other))) := by
  refine ⟨normalizeMobile_again, fun h => ?_, ?_, ?_, mobileMatches_writings⟩
  · obtain ⟨hlate, hnot⟩ := normalizeMobile_writing h
    refine ⟨fun hd hl => ?_, hnot⟩
    have hlen := congrArg String.length (Option.some.inj ((hlate hl).symm.trans hd))
    rw [String.length_append, show "91".length = 2 from rfl] at hlen
    omega
  · rintro ⟨ha, hb, hab⟩
    exact ⟨hb, ha, hab.symm⟩
  · rintro ⟨ha, hb, hab⟩ ⟨-, hc, hbc⟩
    exact ⟨ha, hc, hab.trans hbc⟩

theorem writes_zero_code : Writes "091" "9895077492" "0 91-98950 77492" ∧
    Writes "" "9895077492" "9895077492" := by
  have hd : Subscriber "9895077492" :=
    ⟨List.all_eq_true.mp (by decide +kernel), by decide +kernel, by decide +kernel⟩
  exact ⟨⟨by decide +kernel, hd, by decide +kernel⟩, ⟨by decide +kernel, hd, by decide +kernel⟩⟩

theorem normalizeMobile_canonical_iff_zero_code :
    ¬ mobileMatches (some "0 91-98950 77492") (some "9895077492") :=
  fun h => absurd (((normalizeMobile_canonical_iff none none none "091" "" "9895077492" ""
    "0 91-98950 77492" "9895077492").2.2.2.2 writes_zero_code.1 writes_zero_code.2).mp h)
    (by decide +kernel)

/-- A number behind `091` keeps its country code and does not match itself, and a normal form with a
second country code is not stable. -/
theorem normalizeMobile_not_canonical :
    Writes "091" "9895077492" "0919895077492" ∧
      normalizeMobile (some "0919895077492") = some "919895077492" ∧
      ¬ mobileMatches (some "0919895077492") (some "9895077492") ∧
      normalizeMobile (some "919112345678901") = some "9112345678901" ∧
      normalizeMobile (some "9112345678901") = some "12345678901" := by
  refine ⟨⟨by decide +kernel, writes_zero_code.1.number, by decide +kernel⟩, by decide +kernel, ?_,
    by decide +kernel, by decide +kernel⟩
  rintro ⟨-, -, h⟩
  exact absurd h (by decide +kernel)

end Travelo.Mobile
