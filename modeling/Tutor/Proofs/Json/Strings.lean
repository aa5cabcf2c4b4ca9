import Tutor.Json.Reader
import Tutor.Json.Writer

namespace Tutor

/-!
# Strings that are read back

Every string is read back as it was written, whatever characters it is made of.

* `Text.hexNumber?_hexPadded` — four hexadecimal digits spell the number they were made from;
* `Json.stringBody_escapedChar` — a character is read back from what it is written as, as long as
  something follows;
* `Json.string_stringChars` — so is a whole string.
-/

/-! ### Hexadecimal digits -/

/-- A digit has the value it was made from. -/
theorem Text.hexValue_hexDigit {d : Nat} (h : d < 16) : hexValue (hexDigit d) = some d := by
  have hall : ∀ d < 16, hexValue (hexDigit d) = some d := by decide
  exact hall d h

/-- Four digits spell the number they were made from. -/
theorem Text.hexNumber?_hexPadded {n : Nat} (h : n < 65536) :
    ∃ a b c d, hexPadded 4 n = [a, b, c, d] ∧ hexNumber? [a, b, c, d] = some n := by
  refine ⟨_, _, _, _, rfl, ?_⟩
  have hvalue : ∀ m, hexValue (hexDigit (m % 16)) = some (m % 16) := fun m =>
    hexValue_hexDigit (Nat.mod_lt m (by decide))
  simp only [hexNumber?, List.foldlM_cons, List.foldlM_nil, hvalue, Option.map_some,
    Option.bind_eq_bind, Option.bind_some, Option.pure_def, Option.some.injEq]
  omega

namespace Json

/-! ### Characters -/

/-- The digits of a code unit are read back if something follows. -/
theorem fourDigits_hexPadded {n : Nat} (h : n < 65536) {r : List Char} (hr : r ≠ []) :
    fourDigits (Text.hexPadded 4 n ++ r) = some (n, r) := by
  obtain ⟨a, b, c, d, hdigits, hnumber⟩ := Text.hexNumber?_hexPadded h
  obtain ⟨e, rest, rfl⟩ := List.exists_cons_of_ne_nil hr
  rw [hdigits]
  simp [fourDigits, hnumber]

/-- A code unit that is no surrogate is read back as its character. -/
theorem escape_unit {n : Nat} (h : n < 65536) (hs : ¬ (0xD800 ≤ n ∧ n < 0xE000)) (back : Char)
    (start : List Char) {r : List Char} (hr : r ≠ []) :
    escape back start ('u' :: (Text.hexPadded 4 n ++ r)) = .ok (Char.ofNat n, r) := by
  have hhigh : ¬ (0xD800 ≤ n ∧ n < 0xDC00) := fun hn => hs ⟨hn.1, by omega⟩
  simp only [escape, fourDigits_hexPadded h hr, if_neg hhigh, unitChar, if_neg hs]

/-- A pair of surrogates is read back as the one character it stands for. -/
theorem escape_pair (high low : Nat) (hh : 0xD800 ≤ high ∧ high < 0xDC00)
    (hl : 0xDC00 ≤ low ∧ low < 0xE000) (back : Char) (start : List Char) {r : List Char}
    (hr : r ≠ []) :
    escape back start ('u' :: (Text.hexPadded 4 high ++ (unitEscape low ++ r)))
      = .ok (Char.ofNat (65536 + (high - 0xD800) * 1024 + (low - 0xDC00)), r) := by
  have hsecond : lowSurrogate (unitEscape low ++ r) = .ok (some (low, r)) := by
    -- the reader looks for a second unit only if something is left after it
    have hlength : ¬ (Text.hexPadded 4 low ++ r).length < 5 := by
      have hpos := List.length_pos_iff.mpr hr
      have hfour : (Text.hexPadded 4 low).length = 4 := rfl
      rw [List.length_append, hfour]
      omega
    simp only [unitEscape, List.cons_append, lowSurrogate, if_neg hlength,
      fourDigits_hexPadded (show low < 65536 by omega) hr, if_pos hl]
  have hne : unitEscape low ++ r ≠ [] := by
    simp [unitEscape]
  simp only [escape, fourDigits_hexPadded (show high < 65536 by omega) hne, if_pos hh, hsecond]

/-- An escape is read as one character. -/
theorem stringBody_escape {start s rest : List Char} {back c : Char}
    (h : escape back start s = .ok (c, rest)) (hback : back = '\\') (fuel : Nat)
    (done : List Char) :
    stringBody start (fuel + 1) done (back :: s) = stringBody start fuel (c :: done) rest := by
  subst hback
  have hquote : ¬ '\\' = '"' := by decide
  simp only [stringBody, hquote, if_false, if_true, h]

/-- A character is read back from what it is written as, if something follows. -/
theorem stringBody_escapedChar (start : List Char) (fuel : Nat) (done : List Char) (c : Char)
    {r : List Char} (hr : r ≠ []) :
    stringBody start (fuel + 1) done (escapedChar c ++ r)
      = stringBody start fuel (c :: done) r := by
  -- the cases are those of the writer
  unfold escapedChar
  simp only
  split
  · subst c; exact stringBody_escape rfl rfl fuel done
  split
  · subst c; exact stringBody_escape rfl rfl fuel done
  split
  · subst c; exact stringBody_escape rfl rfl fuel done
  split
  · subst c; exact stringBody_escape rfl rfl fuel done
  split
  · subst c; exact stringBody_escape rfl rfl fuel done
  split
  · rename_i h
    rw [← Char.ofNat_toNat c, h]
    exact stringBody_escape rfl rfl fuel done
  split
  · rename_i h
    rw [← Char.ofNat_toNat c, h]
    exact stringBody_escape rfl rfl fuel done
  -- nothing was to be escaped
  split
  · rename_i hquote hback _ _ _ _ _ hprintable
    have hcontrol : ¬ c.toNat < 32 := by omega
    simp only [List.singleton_append, stringBody, hquote, hback, hcontrol, if_false]
  split
  · rename_i hunit
    have hvalid : c.toNat < 0xD800 ∨ 0xDFFF < c.toNat ∧ c.toNat < 0x110000 := c.valid
    have h := escape_unit hunit (by omega) '\\' start hr
    rw [Char.ofNat_toNat] at h
    exact stringBody_escape h rfl fuel done
  · -- beyond the first plane there are two units
    have hvalid : c.toNat < 0xD800 ∨ 0xDFFF < c.toNat ∧ c.toNat < 0x110000 := c.valid
    have h := escape_pair (0xD800 + (c.toNat - 65536) / 1024)
      (0xDC00 + (c.toNat - 65536) % 1024) (by omega) (by omega) '\\' start hr
    have hvalue : 65536 + (0xD800 + (c.toNat - 65536) / 1024 - 0xD800) * 1024
        + (0xDC00 + (c.toNat - 65536) % 1024 - 0xDC00) = c.toNat := by omega
    rw [hvalue, Char.ofNat_toNat] at h
    rw [List.append_assoc]
    exact stringBody_escape h rfl fuel done

/-! ### Strings -/

/-- The characters of a string are read back up to the quote that closes it. -/
theorem stringBody_flatMap (start : List Char) (cs : List Char) (done rest : List Char)
    {fuel : Nat} (h : cs.length < fuel) :
    stringBody start fuel done (cs.flatMap escapedChar ++ '"' :: rest)
      = .ok (String.ofList (done.reverse ++ cs), rest) := by
  induction cs generalizing done fuel with
  | nil =>
    obtain ⟨f, rfl⟩ := Nat.exists_eq_succ_of_ne_zero (Nat.ne_of_gt h)
    simp [stringBody]
  | cons c r ih =>
    obtain ⟨f, rfl⟩ := Nat.exists_eq_succ_of_ne_zero (Nat.ne_of_gt (Nat.zero_lt_of_lt h))
    have hr : r.length < f := Nat.lt_of_succ_lt_succ h
    rw [List.flatMap_cons, List.append_assoc,
      stringBody_escapedChar start f done c (by simp), ih (c :: done) hr]
    simp

/-- No character is written as nothing. -/
theorem length_le_flatMap_escapedChar (cs : List Char) :
    cs.length ≤ (cs.flatMap escapedChar).length := by
  induction cs with
  | nil => exact Nat.le_refl 0
  | cons c r ih =>
    have hc : 0 < (escapedChar c).length := by
      unfold escapedChar
      simp only
      repeat' split
      all_goals simp [unitEscape]
    rw [List.flatMap_cons, List.length_append, List.length_cons]
    omega

/-- A string is read back as it was written. -/
theorem string_stringChars (s : String) (rest : List Char) :
    string '"' (s.toList.flatMap escapedChar ++ '"' :: rest) = .ok (s, rest) := by
  have hfuel : s.toList.length < (s.toList.flatMap escapedChar ++ '"' :: rest).length + 1 := by
    have h := length_le_flatMap_escapedChar s.toList
    rw [List.length_append]
    omega
  rw [string, stringBody_flatMap _ _ _ _ hfuel]
  simp

end Json

end Tutor
