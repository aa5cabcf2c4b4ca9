import Mathlib.Data.List.Induction
import Mathlib.Data.Nat.Digits.Defs
import Tutor.Proofs.Text.Spelling
import Tutor.Text.Whole

namespace Tutor.Text

/-!
# Digits in lowered texts and in numbers

* `Apart` — two tables of ranges without a common code point; by `inRanges_of_apart` a character of
  one is none of the other;
* `lowerCode_of_digit`, `not_surroundsNumber_of_digit` — a digit is no letter and no blank;
* `lowered_of_digits` — which texts are digits once they are lowered;
* `readWhole_of_digits` — which texts of digits are numbers, and `numberOf_eq_ofDigits` which ones.
-/

/-! ### Tables of ranges -/

/-- No range of one table meets a range of the other. -/
def Apart (t u : List (Nat × Nat)) : Prop :=
  ∀ r ∈ t, ∀ q ∈ u, r.2 < q.1 ∨ q.2 < r.1

/-- Large tables are compared with Boolean tests, which the kernel evaluates fast. -/
instance (t u : List (Nat × Nat)) : Decidable (Apart t u) :=
  decidable_of_iff ((t.all fun r => u.all fun q => Nat.blt r.2 q.1 || Nat.blt q.2 r.1) = true)
    (by simp [Apart])

/-- A code point lies in a table if it lies in one of its ranges. -/
theorem inRanges_iff {t : List (Nat × Nat)} {c : Nat} :
    inRanges t c = true ↔ ∃ r ∈ t, r.1 ≤ c ∧ c ≤ r.2 := by
  simp [inRanges]

/-- A code point of one table is in no table that is apart from it. -/
theorem inRanges_of_apart {t u : List (Nat × Nat)} (h : Apart t u) {c : Nat}
    (hc : inRanges t c = true) : inRanges u c = false := by
  obtain ⟨r, hr, hlow, hhigh⟩ := inRanges_iff.mp hc
  rw [Bool.eq_false_iff, Ne, inRanges_iff]
  rintro ⟨q, hq, hlow', hhigh'⟩
  have := h r hr q hq
  omega

/-! ### Characters -/

/-- All runs of digits. -/
def digitRuns : List (Nat × Nat) :=
  decimalRuns ++ otherDigits

/-- The digits of all scripts are those of ASCII and the others in the runs. -/
theorem isDigitChar_eq (c : Nat) : isDigitChar c = inRanges digitRuns c := by
  unfold isDigitChar
  by_cases hascii : c < 128
  · -- the first run is that of ASCII, and all others come later
    have hlater : Apart [(0, 127)] (digitRuns.drop 1) := by decide +kernel
    have hin : inRanges [(0, 127)] c = true :=
      inRanges_iff.mpr ⟨_, List.mem_singleton_self _, Nat.zero_le c, Nat.le_of_lt_succ hascii⟩
    have hnone := inRanges_of_apart hlater hin
    rw [if_pos hascii]
    show (decide (48 ≤ c) && decide (c ≤ 57)) = (_ || inRanges (digitRuns.drop 1) c)
    rw [hnone, Bool.or_false]
  · rw [if_neg hascii, digitRuns, inRanges, inRanges, inRanges, List.any_append]

/-- A decimal digit is a digit. -/
theorem digit_of_decimal {c : Nat} (h : isDecimalDigit c = true) : isDigitChar c = true := by
  unfold isDecimalDigit at h
  unfold isDigitChar
  split
  · rename_i hascii
    rwa [if_pos hascii] at h
  · rename_i hascii
    rw [if_neg hascii] at h
    rw [h, Bool.true_or]

/-- The characters that have a lower form. -/
def capitalRanges : List (Nat × Nat) :=
  lowerRuns.map fun r => (r.1, r.2.1)

/-- The lower forms. -/
def loweredRanges : List (Nat × Nat) :=
  lowerRuns.map fun r => (r.2.2.2, r.2.2.2 + (r.2.1 - r.1))

/-- In ASCII, a digit has no lower form and is none. -/
theorem lowerAscii_of_digit {c : Nat} (hascii : c < 128)
    (h : isDigitChar c = true ∨ isDigitChar (lowerAscii c) = true) : lowerAscii c = c := by
  unfold lowerAscii at h ⊢
  split
  · rename_i hcapital
    -- neither a capital nor its lower form is a digit
    rw [if_pos hcapital] at h
    simp only [isDigitChar, if_pos hascii, Bool.and_eq_true, decide_eq_true_eq] at h hcapital
    have hsmall : c + 32 < 128 := by omega
    rw [if_pos hsmall, Bool.and_eq_true, decide_eq_true_eq, decide_eq_true_eq] at h
    omega
  · rfl

/-- Beyond ASCII, a digit has no lower form and is none. -/
theorem shiftCode_of_digit {c : Nat}
    (h : isDigitChar c = true ∨ isDigitChar (shiftCode lowerRuns c) = true) :
    shiftCode lowerRuns c = c := by
  have hcapitals : Apart digitRuns capitalRanges := by decide +kernel
  have hlowered : Apart digitRuns loweredRanges := by decide +kernel
  rw [isDigitChar_eq, isDigitChar_eq] at h
  rcases shiftCode_cases lowerRuns c with hsame | ⟨r, hr, hlow, hhigh, hshift⟩
  · exact hsame
  · have hcapital : inRanges capitalRanges c = true :=
      inRanges_iff.mpr ⟨_, List.mem_map_of_mem hr, hlow, hhigh⟩
    have hsmall : inRanges loweredRanges (shiftCode lowerRuns c) = true := by
      refine inRanges_iff.mpr ⟨_, List.mem_map_of_mem hr, ?_⟩
      dsimp only
      omega
    rcases h with hdigit | hdigit
    · rw [inRanges_of_apart hcapitals hdigit] at hcapital
      cases hcapital
    · rw [inRanges_of_apart hlowered hdigit] at hsmall
      cases hsmall

/-- A digit has no lower form and is none. -/
theorem lowerCode_of_digit {c : Nat} (h : isDigitChar c = true ∨ isDigitChar (lowerCode c) = true) :
    lowerCode c = c := by
  unfold lowerCode at h ⊢
  by_cases hascii : c < 128
  · rw [if_pos hascii] at h ⊢
    exact lowerAscii_of_digit hascii h
  · rw [if_neg hascii] at h ⊢
    exact shiftCode_of_digit h

/-- The blanks. -/
def blankRanges : List (Nat × Nat) :=
  [(9, 13), (28, 32), (133, 133), (160, 160), (5760, 5760), (8192, 8202), (8232, 8233),
   (8239, 8239), (8287, 8287), (12288, 12288)]

/-- A character that may surround a number is a blank. -/
theorem blank_of_surroundsNumber {c : Char} (h : surroundsNumber c = true) :
    inRanges blankRanges c.toNat = true := by
  rw [inRanges_iff]
  unfold surroundsNumber isAsciiBlank isBlank at h
  simp only [blankRanges, List.mem_cons, List.not_mem_nil, or_false, exists_eq_or_imp,
    exists_eq_left]
  split at h <;> simp at h <;> omega

/-- A digit is no blank. -/
theorem not_surroundsNumber_of_digit {c : Char} (h : isDigitChar c.toNat = true) :
    surroundsNumber c = false := by
  have hapart : Apart digitRuns blankRanges := by decide +kernel
  rw [isDigitChar_eq] at h
  rw [Bool.eq_false_iff]
  intro hblank
  have hin := blank_of_surroundsNumber hblank
  rw [inRanges_of_apart hapart h] at hin
  cases hin

/-! ### Lowered texts -/

/-- The lower form of a character is all digits only if the character is a digit; then it is that
character. -/
theorem lowered_singleton (c : Char) :
    ((lowered [c]).all fun d => isDigitChar d.toNat) = isDigitChar c.toNat ∧
      (isDigitChar c.toNat = true → lowered [c] = [c]) := by
  rcases lowered_singleton_cases c with ⟨hdotted, hlowered⟩ | ⟨-, hlowered⟩
  · have hdot : isDigitChar 0x130 = false := by decide +kernel
    rw [hlowered, hdotted, hdot]
    exact ⟨rfl, nofun⟩
  · rw [hlowered, List.all_cons, List.all_nil, Bool.and_true]
    have hsame : isDigitChar c.toNat = true → Char.ofNat (lowerCode c.toNat) = c := fun h => by
      rw [lowerCode_of_digit (.inl h), Char.ofNat_toNat]
    refine ⟨?_, fun h => congrArg (fun d => [d]) (hsame h)⟩
    rw [Bool.eq_iff_iff]
    refine ⟨fun h => ?_, fun h => by rwa [hsame h]⟩
    rcases toNat_ofNat (lowerCode c.toNat) with hcode | hzero
    · rw [hcode] at h
      rwa [lowerCode_of_digit (.inr h)] at h
    · rw [hzero] at h
      cases h

/-- A text is all digits once it is lowered only if it is so before, and then it stays the same. -/
theorem lowered_of_digits (s : List Char) :
    ((lowered s).all fun c => isDigitChar c.toNat) = (s.all fun c => isDigitChar c.toNat) ∧
      ((s.all fun c => isDigitChar c.toNat) = true → lowered s = s) := by
  induction s with
  | nil => exact ⟨rfl, fun _ => rfl⟩
  | cons c rest ih =>
    obtain ⟨hone, hsame⟩ := lowered_singleton c
    rw [lowered_cons, List.all_append, hone, ih.1, List.all_cons]
    refine ⟨rfl, fun h => ?_⟩
    obtain ⟨hc, hrest⟩ := Bool.and_eq_true_iff.mp h
    rw [hsame hc, ih.2 hrest, List.singleton_append]

/-! ### Numbers -/

/-- The number that digits spell, in base ten. -/
theorem numberOf_eq_ofDigits (digits : List Nat) :
    numberOf digits = Nat.ofDigits 10 digits.reverse := by
  induction digits using List.reverseRecOn with
  | nil => rfl
  | append_singleton digits d ih =>
    rw [List.reverse_append, List.reverse_singleton, List.singleton_append, Nat.ofDigits_cons, ← ih]
    unfold numberOf
    rw [List.foldl_append, List.foldl_cons, List.foldl_nil, Nat.add_comm]

/-- A character that has a value as a decimal digit. -/
def hasValue (c : Char) : Bool :=
  (decimalValue c.toNat).isSome

/-- The values of the decimal digits in a text. -/
def digitValues (s : List Char) : List Nat :=
  s.filterMap fun c => decimalValue c.toNat

/-- The decimal digits are those that have a value. -/
theorem isDecimalDigit_eq (c : Char) : isDecimalDigit c.toNat = hasValue c := by
  unfold isDecimalDigit hasValue decimalValue
  split
  · split
    · rename_i h
      rw [h]
      rfl
    · rename_i h
      rw [Bool.eq_false_iff.mpr h]
      rfl
  · rw [Option.isSome_map, inRanges, List.isSome_find?]

/-- A character that is not a digit is not one of a text of digits. -/
theorem ne_of_digit {c d : Char} (h : isDigitChar c.toNat = true)
    (hd : isDigitChar d.toNat = false) : c ≠ d := fun heq => by
  rw [heq, hd] at h
  cases h

/-- Of a text of digits, those before the first one that is no decimal are taken. -/
theorem takeDigits_of_digits {s : List Char} (h : ∀ c ∈ s, isDigitChar c.toNat = true) :
    takeDigits s = (digitValues (s.takeWhile hasValue), s.dropWhile hasValue) := by
  induction s with
  | nil => rfl
  | cons c r ih =>
    have hr := ih fun d hd => h d (List.mem_cons_of_mem c hd)
    unfold takeDigits
    cases hv : decimalValue c.toNat with
    | some v =>
      have hc : hasValue c = true := by rw [hasValue, hv]; rfl
      have hvalues : digitValues (c :: r.takeWhile hasValue)
          = v :: digitValues (r.takeWhile hasValue) := List.filterMap_cons_some hv
      rw [List.takeWhile_cons_of_pos hc, List.dropWhile_cons_of_pos hc, hvalues]
      dsimp only
      rw [hr]
    | none =>
      have hc : ¬ hasValue c = true := by rw [hasValue, hv]; exact nofun
      rw [List.takeWhile_cons_of_neg hc, List.dropWhile_cons_of_neg hc]
      -- an underscore is no digit
      have hunderscore : c ≠ '_' := ne_of_digit (h c List.mem_cons_self) (by decide)
      dsimp only
      split
      · exact absurd rfl hunderscore
      · rfl

/-- Decimal digits have as many values. -/
theorem length_digitValues {s : List Char} (h : ∀ c ∈ s, hasValue c = true) :
    (digitValues s).length = s.length := by
  induction s with
  | nil => rfl
  | cons c r ih =>
    obtain ⟨v, hv⟩ := Option.isSome_iff_exists.mp (h c List.mem_cons_self)
    have hvalues : digitValues (c :: r) = v :: digitValues r := List.filterMap_cons_some hv
    rw [hvalues, List.length_cons, List.length_cons, ih fun d hd => h d (List.mem_cons_of_mem c hd)]

/-- What follows the first decimals of a text of digits is blank only if it is empty. -/
theorem all_surroundsNumber {s : List Char} (h : ∀ c ∈ s, isDigitChar c.toNat = true) :
    (s.dropWhile hasValue).all surroundsNumber = s.all hasValue := by
  induction s with
  | nil => rfl
  | cons c r ih =>
    cases hv : hasValue c with
    | true =>
      rw [List.dropWhile_cons_of_pos hv, List.all_cons, hv, Bool.true_and]
      exact ih fun d hd => h d (List.mem_cons_of_mem c hd)
    | false =>
      rw [List.dropWhile_cons_of_neg (Bool.eq_false_iff.mp hv), List.all_cons, List.all_cons, hv,
        not_surroundsNumber_of_digit (h c List.mem_cons_self)]
      rfl

/-- A text of digits is a number if all of them are decimal; one that starts with too many of these
is refused before the others are looked at. -/
theorem readWhole_of_digits {s : List Char} (hs : s ≠ [])
    (h : ∀ c ∈ s, isDigitChar c.toNat = true) :
    readWhole s =
      if digitLimit < (s.takeWhile hasValue).length then
        .error (.tooLong (s.takeWhile hasValue).length)
      else if s.all hasValue then .ok (numberOf (digitValues s))
      else .error (.notANumber (String.ofList s)) := by
  cases s with
  | nil => exact absurd rfl hs
  | cons c r =>
    have hc := h c List.mem_cons_self
    have hblank : ¬ surroundsNumber c = true := by
      rw [not_surroundsNumber_of_digit hc]
      exact nofun
    have hlength : (digitValues ((c :: r).takeWhile hasValue)).length
        = ((c :: r).takeWhile hasValue).length :=
      length_digitValues fun d hd => List.mem_takeWhile_imp hd
    unfold readWhole
    rw [List.dropWhile_cons_of_neg hblank]
    -- a digit is no sign
    have hminus : c ≠ '-' := ne_of_digit hc (by decide)
    have hplus : c ≠ '+' := ne_of_digit hc (by decide)
    dsimp only
    split
    · rename_i heq
      exact absurd (List.cons.inj heq).1 hminus
    · rename_i heq
      exact absurd (List.cons.inj heq).1 hplus
    · cases hv : hasValue c with
      | true =>
        -- digits are taken while they have a value, and any that are left are no blanks
        have hstarts : (decimalValue c.toNat).isSome = true := hv
        simp only [List.head?_cons, Option.bind_some, hstarts, if_true, takeDigits_of_digits h,
          hlength, Bool.true_and, all_surroundsNumber h, Bool.false_eq_true, if_false]
        by_cases hall : (c :: r).all hasValue = true
        · rw [List.takeWhile_eq_self_iff.mpr fun d hd => List.all_eq_true.mp hall d hd]
        · rw [if_neg hall, if_neg hall]
      | false =>
        have hstarts : (decimalValue c.toNat).isSome = false := hv
        simp only [List.head?_cons, Option.bind_some, hstarts, Bool.false_eq_true, if_false,
          Bool.false_and, List.takeWhile_cons, List.all_cons, hv, List.length_nil]

end Tutor.Text
