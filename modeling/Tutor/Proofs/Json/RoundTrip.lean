import Tutor.Failure
import Tutor.Proofs.Json.Strings
import Tutor.Proofs.Tables

namespace Tutor

/-!
# Values that are read back

What is written as JSON is read back as it was, unless it holds a double.

* `Json.IsPlain` — values without doubles, with whole numbers that are not refused for their length,
  and with no member twice;
* `Json.number_wholeChars` — a whole number is read back;
* `Json.value_chars` — so is every plain value, whatever closes it;
* `Json.read_write` — a document that was written is read back, and so is a list of strings
  (`readJson_ofStrings`).
-/

namespace Json

/-! ### Plain values -/

mutual

/-- A value without doubles, whole numbers of too many digits and members that appear twice. -/
def IsPlain : Json → Prop
  | .null | .bool _ | .str _ => True
  | .int n => (Text.decimalDigits n.natAbs).length ≤ Text.digitLimit
  | .float _ => False
  | .arr items => ItemsPlain items
  | .obj members => (Table.keys members).Nodup ∧ MembersPlain members

/-- All items are plain. -/
def ItemsPlain : List Json → Prop
  | [] => True
  | j :: r => IsPlain j ∧ ItemsPlain r

/-- All members are plain. -/
def MembersPlain : List (String × Json) → Prop
  | [] => True
  | (_, j) :: r => IsPlain j ∧ MembersPlain r

end

/-- Items are plain if each of them is. -/
theorem itemsPlain_iff {items : List Json} : ItemsPlain items ↔ ∀ j ∈ items, IsPlain j := by
  induction items with
  | nil => exact iff_of_true trivial (List.forall_mem_nil _)
  | cons j r ih => rw [List.forall_mem_cons, ← ih, ItemsPlain]

/-- Strings are plain, and so is a list of them. -/
theorem itemsPlain_map_str (l : List String) : ItemsPlain (l.map .str) := by
  induction l with
  | nil => trivial
  | cons s r ih => exact ⟨trivial, ih⟩

/-! ### Whole numbers -/

/-- What may follow a value: nothing, or a character that separates or closes. -/
def Closes : List Char → Prop
  | [] => True
  | c :: _ => c = ',' ∨ c = ']' ∨ c = '\x7d'

/-- The characters `0` to `9` are the digits. -/
theorem isDigit_of_mem_decimalDigits {n : Nat} {c : Char} (h : c ∈ Text.decimalDigits n) :
    isDigit c = true := by
  have hc := Nat.isDigit_of_mem_toDigits (by decide) (by decide) h
  simpa [isDigit, Char.isDigit, Char.le_def] using hc

/-- A number other than zero does not start with a zero. -/
theorem ne_zero_of_decimalDigits {n : Nat} (h : n ≠ 0) {c : Char} {r : List Char}
    (hd : Text.decimalDigits n = c :: r) : c ≠ '0' := by
  induction n using Nat.strongRecOn generalizing c r with
  | ind n ih =>
    unfold Text.decimalDigits at hd
    rw [Nat.toDigits_eq_if (by decide)] at hd
    split at hd
    · rename_i hlt
      have hdigit : ∀ m < 10, m ≠ 0 → m.digitChar ≠ '0' := by decide
      rw [List.cons.injEq] at hd
      exact hd.1 ▸ hdigit n hlt h
    · -- the first digit is that of a tenth of the number
      cases hd' : Nat.toDigits 10 (n / 10) with
      | nil => exact absurd hd' Nat.toDigits_ne_nil
      | cons c' r' =>
        rw [hd', List.cons_append, List.cons.injEq] at hd
        exact hd.1 ▸ ih (n / 10) (by omega) (by omega) hd'

/-- Digits are taken up to something that closes. -/
theorem takeWhile_isDigit {ds rest : List Char} (hds : ∀ c ∈ ds, isDigit c = true)
    (hrest : Closes rest) :
    (ds ++ rest).takeWhile isDigit = ds ∧ (ds ++ rest).dropWhile isDigit = rest := by
  have hstop : rest.takeWhile isDigit = [] ∧ rest.dropWhile isDigit = rest := by
    cases rest with
    | nil => exact ⟨rfl, rfl⟩
    | cons c r =>
      have hc : isDigit c = false := by
        rcases hrest with rfl | rfl | rfl <;> decide
      simp [hc]
  rw [List.takeWhile_append_of_pos hds, List.dropWhile_append_of_pos hds, hstop.1, hstop.2,
    List.append_nil]
  exact ⟨rfl, rfl⟩

/-- The digits of a number are its whole part. -/
theorem wholePart_decimalDigits (n : Nat) {rest : List Char} (hrest : Closes rest) :
    wholePart (Text.decimalDigits n ++ rest) = some (Text.decimalDigits n, rest) := by
  cases hd : Text.decimalDigits n with
  | nil => exact absurd hd Nat.toDigits_ne_nil
  | cons c r =>
    have hdigits : ∀ x ∈ c :: r, isDigit x = true := fun x hx =>
      isDigit_of_mem_decimalDigits (hd ▸ hx)
    -- the reader takes a leading zero for the whole number
    by_cases hn : n = 0
    · subst hn
      obtain ⟨rfl, rfl⟩ : '0' = c ∧ [] = r := by
        rw [← List.cons.injEq, ← hd]
        exact (Nat.toDigits_zero 10).symm
      simp [wholePart]
    · obtain ⟨htake, hdrop⟩ :=
        takeWhile_isDigit (fun x hx => hdigits x (List.mem_cons_of_mem _ hx)) hrest
      simp only [List.cons_append, wholePart, ne_zero_of_decimalDigits hn hd,
        hdigits c List.mem_cons_self, if_false, if_true, htake, hdrop]

/-- What closes a value starts no fraction and no exponent. -/
theorem fraction_of_closes {rest : List Char} (h : Closes rest) :
    fraction rest = ([], rest) ∧ exponent rest = none := by
  cases rest with
  | nil => exact ⟨rfl, rfl⟩
  | cons c r => rcases h with rfl | rfl | rfl <;> exact ⟨rfl, rfl⟩

/-- The digits of a number spell it. -/
theorem digitsValue_decimalDigits (n : Nat) : digitsValue (Text.decimalDigits n) = n := by
  have h := Nat.ofDigitChars_toDigits (b := 10) (n := n) (by decide) (by decide)
  rwa [Nat.ofDigitChars_eq_foldl] at h

/-- A whole number is read back. -/
theorem number_wholeChars {n : Int}
    (hn : (Text.decimalDigits n.natAbs).length ≤ Text.digitLimit) {rest : List Char}
    (hrest : Closes rest) : number (Text.wholeChars n ++ rest) = .ok (.int n, rest) := by
  obtain ⟨hfraction, hexponent⟩ := fraction_of_closes hrest
  cases n with
  | ofNat m =>
    have hshort : ¬ Text.digitLimit < (Text.decimalDigits m).length := Nat.not_lt.mpr hn
    -- a number that is not negative starts with a digit, not with a sign
    have hsign : ∀ r, Text.decimalDigits m ++ rest ≠ '-' :: r := by
      intro r hr
      cases hd : Text.decimalDigits m with
      | nil => exact absurd hd Nat.toDigits_ne_nil
      | cons c r' =>
        rw [hd, List.cons_append, List.cons.injEq] at hr
        have hdigit : isDigit '-' = true :=
          hr.1 ▸ isDigit_of_mem_decimalDigits (n := m) (by rw [hd]; exact List.mem_cons_self)
        exact absurd hdigit (by decide)
    rw [Text.wholeChars, number]
    · simp only [wholePart_decimalDigits m hrest, hfraction, hexponent]
      rw [if_neg hshort, digitsValue_decimalDigits]
      rfl
    · exact fun r => hsign r
  | negSucc m =>
    have hshort : ¬ Text.digitLimit < (Text.decimalDigits (m + 1)).length := Nat.not_lt.mpr hn
    rw [Text.wholeChars, List.cons_append, number]
    simp only [wholePart_decimalDigits (m + 1) hrest, hfraction, hexponent]
    rw [if_neg hshort, digitsValue_decimalDigits]
    rfl

/-- The digits of a number start with a digit. -/
theorem exists_cons_decimalDigits (n : Nat) :
    ∃ c r, Text.decimalDigits n = c :: r ∧ isDigit c = true := by
  cases hd : Text.decimalDigits n with
  | nil => exact absurd hd Nat.toDigits_ne_nil
  | cons c r =>
    exact ⟨c, r, rfl, isDigit_of_mem_decimalDigits (n := n) (by rw [hd]; exact List.mem_cons_self)⟩

/-- A digit is no space. -/
theorem isSpace_of_isDigit {c : Char} (h : isDigit c = true) : isSpace c = false := by
  cases hs : isSpace c with
  | false => rfl
  | true =>
    simp only [isSpace, Bool.or_eq_true, decide_eq_true_eq] at hs
    rcases hs with ((rfl | rfl) | rfl) | rfl <;> exact absurd h (by decide)

/-- No constant starts with a digit. -/
theorem find?_constants_digit {c : Char} (hc : isDigit c = true) (r : List Char) :
    constants.find? (fun k => k.1.isPrefixOf (c :: r)) = none := by
  have hall : ∀ k ∈ constants, ∃ x s, k.1 = x :: s ∧ isDigit x = false := by
    intro k hk
    simp only [constants, List.mem_cons, List.not_mem_nil, or_false] at hk
    rcases hk with rfl | rfl | rfl | rfl | rfl | rfl <;> exact ⟨_, _, rfl, by decide⟩
  rw [List.find?_eq_none]
  intro k hk
  obtain ⟨x, s, hx, hdigit⟩ := hall k hk
  rw [hx, List.isPrefixOf_iff_prefix, List.cons_prefix_cons]
  rintro ⟨rfl, -⟩
  rw [hc] at hdigit
  cases hdigit

/-- No constant starts with a sign and a digit. -/
theorem find?_constants_sign {c : Char} (hc : isDigit c = true) (r : List Char) :
    constants.find? (fun k => k.1.isPrefixOf ('-' :: c :: r)) = none := by
  have hne : c ≠ 'I' := by
    rintro rfl
    exact absurd hc (by decide)
  have hall : ∀ k ∈ constants, ∃ x y s, k.1 = x :: y :: s ∧ (x = '-' → y = 'I') := by
    intro k hk
    simp only [constants, List.mem_cons, List.not_mem_nil, or_false] at hk
    rcases hk with rfl | rfl | rfl | rfl | rfl | rfl <;> exact ⟨_, _, _, rfl, by decide⟩
  rw [List.find?_eq_none]
  intro k hk
  obtain ⟨x, y, s, hx, hsecond⟩ := hall k hk
  rw [hx, List.isPrefixOf_iff_prefix, List.cons_prefix_cons, List.cons_prefix_cons]
  rintro ⟨rfl, rfl, -⟩
  exact hne (hsecond rfl)

/-- A whole number is no constant and read as a number. -/
theorem atom_wholeChars {n : Int}
    (hn : (Text.decimalDigits n.natAbs).length ≤ Text.digitLimit) {rest : List Char}
    (hrest : Closes rest) : atom (Text.wholeChars n ++ rest) = .ok (.int n, rest) := by
  have hnone : constants.find? (fun k => k.1.isPrefixOf (Text.wholeChars n ++ rest)) = none := by
    cases n with
    | ofNat m =>
      obtain ⟨c, r, hd, hc⟩ := exists_cons_decimalDigits m
      rw [Text.wholeChars, hd]
      exact find?_constants_digit hc _
    | negSucc m =>
      obtain ⟨c, r, hd, hc⟩ := exists_cons_decimalDigits (m + 1)
      rw [Text.wholeChars, hd]
      exact find?_constants_sign hc _
  rw [atom, hnone]
  exact number_wholeChars hn hrest

/-! ### Values -/

/-- A character that is no space is not skipped. -/
theorem skipSpaces_cons {c : Char} (h : isSpace c = false) (r : List Char) :
    skipSpaces (c :: r) = c :: r := by
  rw [skipSpaces, List.dropWhile_cons, h]
  rfl

/-- A character that is no space, no bracket that closes and no byte order mark. -/
def Starts (c : Char) : Prop :=
  isSpace c = false ∧ c ≠ ']' ∧ c ≠ '\uFEFF'

instance (c : Char) : Decidable (Starts c) :=
  inferInstanceAs (Decidable (_ ∧ _))

/-- A plain value starts with such a character. -/
theorem exists_cons_chars {j : Json} (h : IsPlain j) : ∃ c r, chars j = c :: r ∧ Starts c := by
  cases j with
  | null => exact ⟨'n', _, rfl, by decide⟩
  | bool b => cases b <;> exact ⟨_, _, rfl, by decide⟩
  | int n =>
    cases n with
    | ofNat m =>
      obtain ⟨c, r, hd, hc⟩ := exists_cons_decimalDigits m
      refine ⟨c, r, by rw [chars, Text.wholeChars, hd], isSpace_of_isDigit hc, ?_, ?_⟩ <;>
        · rintro rfl
          exact absurd hc (by decide)
    | negSucc m => exact ⟨'-', _, by rw [chars, Text.wholeChars], by decide⟩
  | float x => exact h.elim
  | str s => exact ⟨'"', _, by rw [chars, stringChars], by decide⟩
  | arr items => exact ⟨'[', _, by rw [chars], by decide⟩
  | obj members => exact ⟨'\x7b', _, by rw [chars], by decide⟩

/-- A whole number starts none of a string, an object and an array. -/
theorem value_wholeChars {n : Int}
    (hn : (Text.decimalDigits n.natAbs).length ≤ Text.digitLimit) (fuel : Nat) {rest : List Char}
    (hrest : Closes rest) :
    value (fuel + 1) (Text.wholeChars n ++ rest) = .ok (.int n, rest) := by
  have hread := atom_wholeChars hn hrest
  have hstart : ∃ c r, Text.wholeChars n = c :: r ∧ c ≠ '"' ∧ c ≠ '\x7b' ∧ c ≠ '[' := by
    cases n with
    | ofNat m =>
      obtain ⟨c, r, hd, hc⟩ := exists_cons_decimalDigits m
      refine ⟨c, r, hd, ?_, ?_, ?_⟩ <;>
        · rintro rfl
          exact absurd hc (by decide)
    | negSucc m => exact ⟨'-', _, rfl, by decide, by decide, by decide⟩
  obtain ⟨c, r, hc, hquote, hbrace, hbracket⟩ := hstart
  rw [hc, List.cons_append] at hread ⊢
  simp only [value, if_neg hquote, if_neg hbrace, if_neg hbracket, hread]

/-- Pieces start as the first of them does. -/
theorem separated_cons (sep x : List Char) (rest : List (List Char)) :
    ∃ r, separated sep (x :: rest) = x ++ r := by
  cases rest with
  | nil => exact ⟨[], (List.append_nil x).symm⟩
  | cons y ys => exact ⟨_, List.append_assoc x sep _⟩

/-- The items of an array start as the first of them does. -/
theorem exists_cons_separated {j : Json} (hj : IsPlain j) (l : List Json) :
    ∃ c r, separated [',', ' '] (itemChars (j :: l)) = c :: r ∧ Starts c := by
  obtain ⟨c, r, hc, hstarts⟩ := exists_cons_chars hj
  obtain ⟨r', hr'⟩ := separated_cons [',', ' '] (chars j) (itemChars l)
  exact ⟨c, r ++ r', by rw [itemChars, hr', hc, List.cons_append], hstarts⟩

/-- A member that comes after others is none of them. -/
theorem notMem_keys_of_nodup {done l : List (String × Json)} {k : String} {j : Json}
    (h : (Table.keys (done ++ (k, j) :: l)).Nodup) : k ∉ Table.keys done := by
  have hsplit : Table.keys (done ++ (k, j) :: l) = Table.keys done ++ k :: Table.keys l :=
    List.map_append
  rw [hsplit, List.nodup_append] at h
  exact fun hk => h.2.2 k hk k List.mem_cons_self rfl

/-- A member is read as its key and its value. -/
theorem members_stringChars {j : Json} (hj : IsPlain j) {fuel : Nat} {s rest : List Char}
    (h : value fuel (chars j ++ s) = .ok (j, rest)) (k : String)
    (done : List (String × Json)) :
    members (fuel + 1) done (stringChars k ++ ':' :: ' ' :: (chars j ++ s))
      = match skipSpaces rest with
        | '\x7d' :: rest => .ok (.obj (Table.put done k j), rest)
        | ',' :: rest => members fuel (Table.put done k j) (skipSpaces rest)
        | rest => .error (.flaw .comma rest) := by
  obtain ⟨c, r, hc, hspace, -⟩ := exists_cons_chars hj
  have hcolon : ∀ t, skipSpaces (':' :: t) = ':' :: t := fun t => rfl
  have hskip : skipSpaces (' ' :: (chars j ++ s)) = chars j ++ s := by
    rw [hc, List.cons_append]
    exact skipSpaces_cons hspace _
  rw [stringChars, List.cons_append, List.append_assoc, List.singleton_append, members]
  simp only [string_stringChars, hcolon, hskip]
  rewrite [h]
  rfl

mutual

/-- A plain value is read back, whatever closes it, with fuel for each of its characters twice. -/
theorem value_chars (j : Json) (hj : IsPlain j) (fuel : Nat) (rest : List Char)
    (hfuel : 2 * (chars j).length ≤ fuel) (hrest : Closes rest) :
    value fuel (chars j ++ rest) = .ok (j, rest) := by
  -- the text of a value is not empty, so that there is fuel
  obtain ⟨first, others, hfirst, -⟩ := exists_cons_chars hj
  obtain ⟨f, rfl⟩ : ∃ f, fuel = f + 1 := by
    refine Nat.exists_eq_succ_of_ne_zero ?_
    rw [hfirst, List.length_cons] at hfuel
    omega
  cases j with
  | null => rfl
  | bool b => cases b <;> rfl
  | int n => rw [chars]; exact value_wholeChars hj f hrest
  | float x => exact hj.elim
  | str s =>
    rw [chars, stringChars, List.cons_append, List.append_assoc, List.singleton_append, value]
    simp only [if_true, string_stringChars]
    rfl
  | arr l =>
    have hbracket : ¬ '[' = '"' ∧ ¬ '[' = '\x7b' := by decide
    rw [chars, List.cons_append, List.append_assoc, List.singleton_append, value]
    simp only [hbracket, if_false, if_true]
    cases l with
    | nil => rfl
    | cons k r =>
      obtain ⟨c, s, hc, hspace, hne, -⟩ := exists_cons_separated hj.1 r
      rw [chars, List.length_cons, List.length_append] at hfuel
      have hitems := items_chars (k :: r) hj (by simp) f [] rest (by omega)
      rw [hc, List.cons_append] at hitems ⊢
      rw [skipSpaces_cons hspace]
      -- the first item does not start with the bracket of an empty array
      split
      · rename_i heq
        exact absurd (List.cons.inj heq).1 hne
      · exact hitems
  | obj l =>
    have hbrace : ¬ '\x7b' = '"' := by decide
    rw [chars, List.cons_append, List.append_assoc, List.singleton_append, value]
    simp only [hbrace, if_false, if_true]
    cases l with
    | nil => rfl
    | cons m r =>
      obtain ⟨k, j⟩ := m
      rw [chars, List.length_cons, List.length_append] at hfuel
      have hmembers := members_chars ((k, j) :: r) hj.2 (by simp) f [] hj.1 rest (by omega)
      obtain ⟨s, hs⟩ := separated_cons [',', ' '] (stringChars k ++ ':' :: ' ' :: chars j)
        (memberChars r)
      rw [memberChars, hs, stringChars] at hmembers ⊢
      exact hmembers

/-- The items of an array are read back up to its bracket. -/
theorem items_chars (l : List Json) (hl : ItemsPlain l) (hne : l ≠ []) (fuel : Nat)
    (done : List Json) (rest : List Char)
    (hfuel : 2 * (separated [',', ' '] (itemChars l)).length + 1 ≤ fuel) :
    items fuel done (separated [',', ' '] (itemChars l) ++ ']' :: rest)
      = .ok (.arr (done.reverse ++ l), rest) := by
  obtain ⟨f, rfl⟩ : ∃ f, fuel = f + 1 := Nat.exists_eq_succ_of_ne_zero (by omega)
  match l, hl, hne with
  | [j], hj, _ =>
    -- the last item is followed by the bracket
    have hlength : (separated [',', ' '] (itemChars [j])).length = (chars j).length := rfl
    have hvalue := value_chars j hj.1 f (']' :: rest) (by omega) (.inr (.inl rfl))
    have hone : separated [',', ' '] (itemChars [j]) = chars j := rfl
    have hskip : skipSpaces (']' :: rest) = ']' :: rest := rfl
    simp only [hone, items, hvalue, hskip, List.reverse_cons]
  | j :: k :: r, hl, _ =>
    -- any other one by a comma, a blank and the rest of the items
    obtain ⟨c, s, hc, hspace, -⟩ := exists_cons_separated hl.2.1 r
    have hlist : separated [',', ' '] (itemChars (j :: k :: r))
        = chars j ++ ',' :: ' ' :: separated [',', ' '] (itemChars (k :: r)) := by
      simp [itemChars, separated]
    rw [hlist, List.length_append, List.length_cons, List.length_cons] at hfuel
    have hvalue := value_chars j hl.1 f
      (',' :: ' ' :: (separated [',', ' '] (itemChars (k :: r)) ++ ']' :: rest))
      (by omega) (.inl rfl)
    have hitems := items_chars (k :: r) hl.2 (by simp) f (j :: done) rest (by omega)
    have hcomma : ∀ t, skipSpaces (',' :: t) = ',' :: t := fun t => rfl
    have hskip : skipSpaces (' ' :: (separated [',', ' '] (itemChars (k :: r)) ++ ']' :: rest))
        = separated [',', ' '] (itemChars (k :: r)) ++ ']' :: rest := by
      rw [hc, List.cons_append]
      exact skipSpaces_cons hspace _
    rw [hlist, List.append_assoc, List.cons_append, List.cons_append, items, hvalue]
    simp only [hcomma, hskip, hitems]
    simp

/-- The members of an object are read back up to its brace. -/
theorem members_chars (l : List (String × Json)) (hl : MembersPlain l) (hne : l ≠ []) (fuel : Nat)
    (done : List (String × Json)) (hkeys : (Table.keys (done ++ l)).Nodup) (rest : List Char)
    (hfuel : 2 * (separated [',', ' '] (memberChars l)).length + 1 ≤ fuel) :
    members fuel done (separated [',', ' '] (memberChars l) ++ '\x7d' :: rest)
      = .ok (.obj (done ++ l), rest) := by
  obtain ⟨f, rfl⟩ : ∃ f, fuel = f + 1 := Nat.exists_eq_succ_of_ne_zero (by omega)
  match l, hl, hne with
  | [(k, j)], hj, _ =>
    -- the last member is followed by the brace
    have hone : separated [',', ' '] (memberChars [(k, j)])
        = stringChars k ++ ':' :: ' ' :: chars j := rfl
    rw [hone, List.length_append, List.length_cons, List.length_cons] at hfuel
    have hvalue := value_chars j hj.1 f ('\x7d' :: rest) (by omega) (.inr (.inr rfl))
    have hskip : skipSpaces ('\x7d' :: rest) = '\x7d' :: rest := rfl
    rw [hone, List.append_assoc, List.cons_append, List.cons_append,
      members_stringChars hj.1 hvalue, hskip, Table.put_of_notMem (notMem_keys_of_nodup hkeys)]
    rfl
  | (k, j) :: (k', j') :: r, hl, _ =>
    -- any other one by a comma, a blank and the rest of the members
    have hlist : separated [',', ' '] (memberChars ((k, j) :: (k', j') :: r))
        = stringChars k ++ ':' :: ' ' ::
          (chars j ++ ',' :: ' ' :: separated [',', ' '] (memberChars ((k', j') :: r))) := by
      simp [memberChars, separated]
    rw [hlist, List.length_append, List.length_cons, List.length_cons, List.length_append,
      List.length_cons, List.length_cons] at hfuel
    have hvalue := value_chars j hl.1 f
      (',' :: ' ' :: (separated [',', ' '] (memberChars ((k', j') :: r)) ++ '\x7d' :: rest))
      (by omega) (.inl rfl)
    have hmembers := members_chars ((k', j') :: r) hl.2 (by simp) f (done ++ [(k, j)])
      (by rwa [List.append_assoc]) rest (by omega)
    obtain ⟨s, hs⟩ := separated_cons [',', ' '] (stringChars k' ++ ':' :: ' ' :: chars j')
      (memberChars r)
    have hcomma : ∀ t, skipSpaces (',' :: t) = ',' :: t := fun t => rfl
    have hskip : skipSpaces
        (' ' :: (separated [',', ' '] (memberChars ((k', j') :: r)) ++ '\x7d' :: rest))
        = separated [',', ' '] (memberChars ((k', j') :: r)) ++ '\x7d' :: rest := by
      rw [memberChars, hs, stringChars]
      rfl
    rw [hlist, List.append_assoc, List.cons_append, List.cons_append, List.append_assoc,
      List.cons_append, List.cons_append, members_stringChars hl.1 hvalue, hcomma]
    simp only [hskip]
    rw [Table.put_of_notMem (notMem_keys_of_nodup hkeys), hmembers, List.append_assoc,
      List.singleton_append]

end

/-! ### Documents -/

/-- A value that is written is read back, unless it holds a double, a whole number with too many
digits or a member twice. -/
theorem read_write {j : Json} (h : IsPlain j) : read j.write = .ok j := by
  obtain ⟨c, r, hc, hspace, -, hmark⟩ := exists_cons_chars h
  have hvalue := value_chars j h (2 * (chars j).length + 1) [] (by omega) trivial
  -- a value starts with no space and no byte order mark
  have hskip : skipSpaces (chars j) = chars j := by
    rw [hc]
    exact skipSpaces_cons hspace r
  have hdocument : document (chars j) = .ok j := by
    rw [List.append_nil] at hvalue
    unfold document
    split
    · rename_i s heq
      rw [hc] at heq
      exact absurd (List.cons.inj heq).1 hmark
    · rw [hskip, hvalue]
      rfl
  rw [read, write, String.toList_ofList, hdocument]

end Json

/-- A plain document is read back as it was written. -/
theorem readJson_write {j : Json} (h : j.IsPlain) : readJson j.write = .ok j := by
  rw [readJson, Json.read_write h]
  rfl

/-- A list of strings is read back as it was written. -/
theorem readJson_ofStrings (l : List String) :
    readJson (Json.ofStrings l).write = .ok (.ofStrings l) :=
  readJson_write (Json.itemsPlain_map_str l)

end Tutor
