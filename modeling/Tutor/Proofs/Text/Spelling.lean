import Mathlib.Data.List.Forall2
import Mathlib.Data.List.TakeWhile
import Tutor.Text.Blank
import Tutor.Text.Case

namespace Tutor.Text

/-!
# Words between blanks, in any case

A line is compared with a command once it is trimmed and lowered. What this comes to is said of the
line itself here, for lines of any characters.

* `Blank`, `Bare` — texts of blanks, and texts with no blank at either end; by `exists_trim` and
  `trim_of_bare`, a trimmed text is what is left of a text without the blanks around it;
* `Spells`, `InAnyCase` — a character, or a text, that stands for another one in any case;
* `lowered_eq_iff`, `prefix_lowered_iff` — a text of small letters is spelled in any case by the
  texts that are lowered to it, and likewise at the start of a text;
* `lowered_eq_q` — so it is for the letter q.
-/

/-! ### Blanks -/

/-- The text consists of blanks. -/
def Blank (s : List Char) : Prop :=
  ∀ c ∈ s, isBlank c.toNat = true

/-- There is something in the text, and no blank at either end. -/
structure Bare (s : List Char) : Prop where
  ne_nil : s ≠ []
  head : ∀ c ∈ s.head?, isBlank c.toNat = false
  last : ∀ c ∈ s.getLast?, isBlank c.toNat = false

variable {before s after : List Char}

theorem blank_nil : Blank [] :=
  fun _ hc => absurd hc List.not_mem_nil

theorem Blank.append (hs : Blank s) (hafter : Blank after) : Blank (s ++ after) := by
  intro c hc
  exact (List.mem_append.mp hc).elim (hs c) (hafter c)

theorem Blank.reverse (h : Blank s) : Blank s.reverse :=
  fun c hc => h c (List.mem_reverse.mp hc)

/-- The blanks at the start of a text are blanks. -/
theorem blank_takeWhile (s : List Char) : Blank (s.takeWhile fun c => isBlank c.toNat) :=
  fun _ hc => List.mem_takeWhile_imp (p := fun c : Char => isBlank c.toNat) hc

/-- A text without blanks is bare. -/
theorem bare_of_forall (hs : s ≠ []) (h : ∀ c ∈ s, isBlank c.toNat = false) : Bare s where
  ne_nil := hs
  head c hc := h c (List.mem_of_mem_head? hc)
  last c hc := h c (List.mem_of_mem_getLast? hc)

/-- At the end of a bare text there are no blanks. -/
theorem Bare.eq_nil_of_append (h : Bare (s ++ after)) (hafter : Blank after) : after = [] := by
  by_contra hne
  have hlast := h.last (after.getLast hne)
    (by rw [List.getLast?_append_of_ne_nil s hne]; exact List.getLast?_eq_some_getLast hne)
  rw [hafter _ (List.getLast_mem hne)] at hlast
  cases hlast

/-- No blank is left at the start. -/
theorem head_trimLeft (s : List Char) : ∀ c ∈ (trimLeft s).head?, isBlank c.toNat = false := by
  intro c hc
  have hnot := List.head?_dropWhile_not (fun c : Char => isBlank c.toNat) s
  have hhead : (s.dropWhile fun c => isBlank c.toNat).head? = some c := hc
  rw [hhead] at hnot
  exact hnot

/-- Blanks at the start are dropped, and nothing else. -/
theorem trimLeft_of_head (hbefore : Blank before) (hs : ∀ c ∈ s.head?, isBlank c.toNat = false) :
    trimLeft (before ++ s) = s := by
  unfold trimLeft
  rw [List.dropWhile_append_of_pos hbefore]
  cases s with
  | nil => rfl
  | cons c rest =>
    have hc : ¬ isBlank c.toNat = true := by
      rw [hs c rfl]
      exact Bool.false_ne_true
    exact List.dropWhile_cons_of_neg hc

/-- A bare text is what is left when blanks around it are trimmed. -/
theorem trim_of_bare (hs : Bare s) (hbefore : Blank before) (hafter : Blank after) :
    trim (before ++ (s ++ after)) = s := by
  have hhead : ∀ c ∈ (s ++ after).head?, isBlank c.toNat = false := by
    rw [List.head?_append_of_ne_nil s hs.ne_nil]
    exact hs.head
  have hlast : ∀ c ∈ s.reverse.head?, isBlank c.toNat = false := by
    rw [List.head?_reverse]
    exact hs.last
  unfold trim trimRight
  rw [trimLeft_of_head hbefore hhead, List.reverse_append, trimLeft_of_head hafter.reverse hlast,
    List.reverse_reverse]

/-- A text is what is left of it when it is trimmed, with blanks around. -/
theorem exists_trim (s : List Char) :
    ∃ before after, s = before ++ (trim s ++ after) ∧ Blank before ∧ Blank after ∧
      (trim s = [] ∨ Bare (trim s)) := by
  have hleft : s = s.takeWhile (fun c => isBlank c.toNat) ++ trimLeft s :=
    List.takeWhile_append_dropWhile.symm
  have hright : trimLeft s
      = trim s ++ ((trimLeft s).reverse.takeWhile fun c => isBlank c.toNat).reverse := by
    unfold trim trimRight
    rw [← List.reverse_append]
    exact List.reverse_eq_iff.mp List.takeWhile_append_dropWhile.symm
  refine ⟨_, _, ?_, blank_takeWhile s, (blank_takeWhile (trimLeft s).reverse).reverse, ?_⟩
  · rw [← hright]
    exact hleft
  · by_cases hnil : trim s = []
    · exact .inl hnil
    · refine .inr ⟨hnil, fun c hc => head_trimLeft s c ?_, fun c hc => ?_⟩
      · rw [hright, List.head?_append_of_ne_nil _ hnil]
        exact hc
      · have hlast : (trim s).getLast? = (trimLeft (trimLeft s).reverse).head? :=
          List.getLast?_reverse
        exact head_trimLeft _ c (hlast ▸ hc)

/-! ### Cases -/

/-- The second character stands for the first one in any case: it is that one or its capital. The
sign for kelvins is another capital of the letter k. -/
def Spells (d c : Char) : Prop :=
  c = d ∨ c = d.toUpper ∨ d = 'k' ∧ c = '\u212a'

/-- The second text is the first one in any case, character by character. -/
abbrev InAnyCase (command s : List Char) : Prop :=
  List.Forall₂ Spells command s

/-- An ASCII character that can be printed and is no capital letter. -/
def Small (d : Char) : Prop :=
  32 ≤ d.toNat ∧ d.toNat < 127 ∧ ¬ (65 ≤ d.toNat ∧ d.toNat ≤ 90)

instance (d : Char) : Decidable (Small d) :=
  inferInstanceAs (Decidable (_ ∧ _ ∧ ¬ (_ ∧ _)))

variable {c d : Char} {command : List Char}

/-- What holds of the ASCII characters one by one holds of all of them. -/
theorem ascii_forall {P : Char → Prop} (h : ∀ n < 128, P (Char.ofNat n)) (hc : c.toNat < 128) :
    P c := by
  have hn := h c.toNat hc
  rwa [Char.ofNat_toNat] at hn

/-- The code point of a capital. -/
theorem toNat_toUpper (hd : Small d) :
    d.toUpper.toNat = if 97 ≤ d.toNat ∧ d.toNat ≤ 122 then d.toNat - 32 else d.toNat := by
  obtain ⟨-, hlow, -⟩ := hd
  exact ascii_forall (P := fun d => d.toUpper.toNat
    = if 97 ≤ d.toNat ∧ d.toNat ≤ 122 then d.toNat - 32 else d.toNat) (by decide) (by omega)

/-- Spelling in any case, by code points. -/
theorem spells_iff (hd : Small d) : Spells d c ↔ c.toNat = d.toNat ∨
    (97 ≤ d.toNat ∧ d.toNat ≤ 122 ∧ c.toNat = d.toNat - 32) ∨
    d.toNat = 107 ∧ c.toNat = 8490 := by
  have hchar : ∀ {a b : Char}, a = b ↔ a.toNat = b.toNat := Char.toNat_inj.symm
  have hk : 'k'.toNat = 107 := rfl
  have hkelvin : '\u212a'.toNat = 8490 := rfl
  unfold Spells
  rw [hchar, hchar (b := d.toUpper), hchar (b := 'k'), hchar (b := '\u212a'), toNat_toUpper hd, hk,
    hkelvin]
  split <;> omega

/-! ### Lowered characters -/

/-- A code point is that of its character, or its character is the one of code point zero. -/
theorem toNat_ofNat (n : Nat) : (Char.ofNat n).toNat = n ∨ (Char.ofNat n).toNat = 0 := by
  by_cases h : n.isValidChar
  · have hvalid : Char.ofNat n = Char.ofNatAux n h := dif_pos h
    exact .inl (congrArg Char.toNat hvalid)
  · exact .inr (congrArg Char.toNat (dif_neg h))

/-- A character is its own lower form, or it is in a run of capitals and as far from its start as
its lower form from that of the small letters. -/
theorem shiftCode_cases (runs : List (Nat × Nat × Nat × Nat)) (c : Nat) :
    shiftCode runs c = c ∨
      ∃ r ∈ runs, r.1 ≤ c ∧ c ≤ r.2.1 ∧ shiftCode runs c = r.2.2.2 + (c - r.1) := by
  unfold shiftCode
  cases hr : runs.find? fun r => r.1 ≤ c && c ≤ r.2.1 && (c - r.1) % r.2.2.1 == 0 with
  | none => exact .inl rfl
  | some r =>
    have hin := List.find?_some hr
    simp only [Bool.and_eq_true, decide_eq_true_eq] at hin
    exact .inr ⟨r, List.mem_of_find?_eq_some hr, hin.1.1, hin.1.2, rfl⟩

/-- The code points whose lower form is that of a small character: those that spell it, and the
capital I with a dot, which keeps its dot apart. -/
theorem lowerCode_eq_iff (hd : Small d) (n : Nat) : lowerCode n = d.toNat ↔ n = d.toNat ∨
    (97 ≤ d.toNat ∧ d.toNat ≤ 122 ∧ n = d.toNat - 32) ∨
    (d.toNat = 107 ∧ n = 8490) ∨ d.toNat = 105 ∧ n = 304 := by
  obtain ⟨-, hlow, hcapital⟩ := hd
  -- of the runs beyond ASCII, no others lead back there
  have hruns : ∀ r ∈ lowerRuns, r.2.1 < 128 ∨ 128 ≤ r.2.2.2 ∨
      r = (304, 304, 1, 105) ∨ r = (8490, 8490, 1, 107) := by
    decide +kernel
  unfold lowerCode
  by_cases hascii : n < 128
  · -- letters are moved by 32, all else stays
    rw [if_pos hascii]
    unfold lowerAscii
    split
    · rename_i h
      simp only [Bool.and_eq_true, decide_eq_true_eq] at h
      omega
    · rename_i h
      simp only [Bool.and_eq_true, decide_eq_true_eq] at h
      omega
  · rw [if_neg hascii]
    constructor
    · intro h
      rcases shiftCode_cases lowerRuns n with hsame | ⟨r, hr, hfirst, hlast, hshift⟩
      · omega
      · rcases hruns r hr with hr | hr | rfl | rfl
        · omega
        · omega
        · simp only at hfirst hlast hshift
          omega
        · simp only at hfirst hlast hshift
          omega
    · rintro (h | ⟨-, -, h⟩ | ⟨hk, rfl⟩ | ⟨hi, rfl⟩)
      · omega
      · omega
      · rw [hk]
        decide +kernel
      · rw [hi]
        decide +kernel

/-- The capital I with a dot has two characters for its lower form, any other character one. -/
theorem lowered_singleton_cases (c : Char) :
    (c.toNat = 0x130 ∧ lowered [c] = ['i', '\u0307']) ∨
      c.toNat ≠ 0x130 ∧ lowered [c] = [Char.ofNat (lowerCode c.toNat)] := by
  unfold lowered
  rw [List.flatMap_singleton]
  by_cases h : c.toNat = 0x130
  · exact .inl ⟨h, if_pos h⟩
  · exact .inr ⟨h, if_neg h⟩

/-- A character has a small one for its lower form if it spells it. -/
theorem ofNat_lowerCode_eq_iff (hd : Small d) (hc : c.toNat ≠ 0x130) :
    Char.ofNat (lowerCode c.toNat) = d ↔ Spells d c := by
  have hcode : Char.ofNat (lowerCode c.toNat) = d ↔ lowerCode c.toNat = d.toNat := by
    rw [← Char.toNat_inj]
    rcases toNat_ofNat (lowerCode c.toNat) with h | h
    · rw [h]
    · -- no character has a lower form that is none
      obtain ⟨hprinted, -, -⟩ := hd
      rw [h]
      refine iff_of_false (by omega) fun he => ?_
      rw [he, Char.ofNat_toNat] at h
      omega
  rw [hcode, lowerCode_eq_iff hd, spells_iff hd]
  omega

/-- The capital I with a dot does not spell any small character. -/
theorem not_spells_dotted (hd : Small d) (hc : c.toNat = 0x130) : ¬ Spells d c := by
  obtain ⟨-, hlow, -⟩ := id hd
  rw [spells_iff hd]
  omega

/-! ### Lowered texts -/

/-- The lower form of one character. -/
theorem lowered_cons (c : Char) (s : List Char) : lowered (c :: s) = lowered [c] ++ lowered s := by
  unfold lowered
  rw [List.flatMap_cons, List.flatMap_singleton]

/-- The lower form of a text is empty only if the text is. -/
theorem lowered_eq_nil {s : List Char} : lowered s = [] ↔ s = [] := by
  cases s with
  | nil => exact iff_of_true rfl rfl
  | cons c rest =>
    rw [lowered_cons]
    refine iff_of_false (fun h => ?_) (List.cons_ne_nil _ _)
    have hone := (List.append_eq_nil_iff.mp h).1
    rcases lowered_singleton_cases c with ⟨-, hlowered⟩ | ⟨-, hlowered⟩ <;>
      (rw [hlowered] at hone; cases hone)

/-- The texts that are lowered to one of small characters are those that spell it in any case. -/
theorem lowered_eq_iff (hcommand : ∀ d ∈ command, Small d) :
    lowered s = command ↔ InAnyCase command s := by
  induction s generalizing command with
  | nil =>
    cases command with
    | nil => exact iff_of_true rfl .nil
    | cons d rest => exact iff_of_false nofun nofun
  | cons c s ih =>
    cases command with
    | nil => exact iff_of_false (fun h => List.cons_ne_nil _ _ (lowered_eq_nil.mp h)) nofun
    | cons d rest =>
      obtain ⟨hd, hrest⟩ := List.forall_mem_cons.mp hcommand
      rw [lowered_cons, InAnyCase, List.forall₂_cons]
      rcases lowered_singleton_cases c with ⟨hc, hlowered⟩ | ⟨hc, hlowered⟩
      · -- the dot is no small character
        refine iff_of_false (fun h => ?_) fun h => not_spells_dotted hd hc h.1
        rw [hlowered] at h
        obtain ⟨-, hdot⟩ := List.cons.inj h
        have hsmall : Small '\u0307' := hrest _ (hdot ▸ List.mem_cons_self)
        exact absurd hsmall (by decide)
      · rw [hlowered, List.singleton_append, List.cons.injEq, ofNat_lowerCode_eq_iff hd hc,
          ih hrest]

/-- The texts whose lower form starts with small characters are those whose start spells them in any
case. With a letter i this would not do, for the lower form of the capital I with a dot starts with
one. -/
theorem prefix_lowered_iff (hcommand : ∀ d ∈ command, Small d ∧ d ≠ 'i') :
    command <+: lowered s ↔ ∃ start rest, s = start ++ rest ∧ InAnyCase command start := by
  induction command generalizing s with
  | nil => exact iff_of_true List.nil_prefix ⟨[], s, rfl, .nil⟩
  | cons d command ih =>
    obtain ⟨⟨hd, hi⟩, hcommand⟩ := List.forall_mem_cons.mp hcommand
    cases s with
    | nil =>
      refine iff_of_false (fun h => ?_) ?_
      · cases List.prefix_nil.mp h
      · rintro ⟨start, rest, hs, hstart⟩
        rw [(List.append_eq_nil_iff.mp hs.symm).1] at hstart
        cases hstart
    | cons c s =>
      -- a start that spells the command starts with the first character
      have hsplit : (∃ start rest, c :: s = start ++ rest ∧ InAnyCase (d :: command) start) ↔
          Spells d c ∧ ∃ start rest, s = start ++ rest ∧ InAnyCase command start := by
        constructor
        · rintro ⟨_, rest, hs, hstart⟩
          cases hstart with
          | @cons _ e _ start hspells hstart =>
            obtain ⟨rfl, rfl⟩ := List.cons.inj hs
            exact ⟨hspells, start, rest, rfl, hstart⟩
        · rintro ⟨hspells, start, rest, rfl, hstart⟩
          exact ⟨c :: start, rest, rfl, .cons hspells hstart⟩
      rw [hsplit, lowered_cons]
      rcases lowered_singleton_cases c with ⟨hc, hlowered⟩ | ⟨hc, hlowered⟩
      · -- the capital I with a dot, whose lower form is an i and another character
        refine iff_of_false (fun h => ?_) fun h => not_spells_dotted hd hc h.1
        rw [hlowered] at h
        exact hi (List.cons_prefix_cons.mp h).1
      · rw [hlowered, List.singleton_append, List.cons_prefix_cons, eq_comm,
          ofNat_lowerCode_eq_iff hd hc, ih hcommand]

/-- Only a letter q is lowered to a small q. -/
theorem lowered_eq_q : lowered s = ['q'] ↔ s = ['q'] ∨ s = ['Q'] := by
  have hq : ∀ c, Spells 'q' c ↔ c = 'q' ∨ c = 'Q' := fun c =>
    or_congr_right (or_iff_left fun h => absurd h.1 (by decide))
  rw [lowered_eq_iff (List.forall_mem_singleton.mpr (by decide)), InAnyCase, List.forall₂_cons_left_iff]
  simp only [hq, List.forall₂_nil_left_iff]
  constructor
  · rintro ⟨c, u, rfl | rfl, rfl, rfl⟩
    · exact .inl rfl
    · exact .inr rfl
  · rintro (rfl | rfl)
    · exact ⟨_, _, .inl rfl, rfl, rfl⟩
    · exact ⟨_, _, .inr rfl, rfl, rfl⟩

/-! ### What is spelled -/

/-- What spells a character in any case is a blank only if the character is. -/
theorem isBlank_of_spells (hd : Small d) (h : Spells d c) :
    isBlank c.toNat = isBlank d.toNat := by
  have hprinted : ∀ n, 33 ≤ n → n < 127 → isBlank n = false := by
    intro n hlow hhigh
    unfold isBlank
    simp only [Bool.or_eq_false_iff, Bool.and_eq_false_iff, decide_eq_false_iff_not,
      beq_eq_false_iff_ne]
    omega
  rcases (spells_iff hd).mp h with hc | ⟨hlow, hhigh, hc⟩ | ⟨hk, hc⟩
  · rw [hc]
  · rw [hc, hprinted _ (by omega) (by omega), hprinted _ (by omega) (by omega)]
  · rw [hc, hk]
    rfl

/-- Each character of a text in any case spells one of the text. -/
theorem InAnyCase.exists_spells (h : InAnyCase command s) :
    ∀ c ∈ s, ∃ d ∈ command, Spells d c := by
  induction h with
  | nil => exact fun _ hc => absurd hc List.not_mem_nil
  | cons hspells _ ih =>
    refine List.forall_mem_cons.mpr ⟨⟨_, List.mem_cons_self, hspells⟩, fun c hc => ?_⟩
    obtain ⟨d, hd, hspells'⟩ := ih c hc
    exact ⟨d, List.mem_cons_of_mem _ hd, hspells'⟩

end Tutor.Text
