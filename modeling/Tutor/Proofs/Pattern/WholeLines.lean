import Tutor.Proofs.Acts
import Tutor.Proofs.Pattern.Plain
import Tutor.Proofs.Text.Spelling
import Tutor.Steps.Pipeline

namespace Tutor

/-!
# Answers that are whole lines

A task that asks for a word checks for it with a pattern: the word between the signs for the start
and the end of a line. Some line of what the player wrote must then be the word, in any case.

* `Alike`, `like_iff` — the characters that a letter or a digit matches where case does not count;
* `mem_splitOn_of_between`, `between_of_mem_splitOn` — the lines of a text are what stands between
  the places where the pattern may start and end;
* `found_iff_mem_splitOn` — so the pattern is found where some line is the word;
* `Step.run_whole_line` — what comes of it for the step of a task.
-/

namespace Pattern

open Text

/-! ### Letters and digits in any case -/

/-- The character is the letter or the digit `a` in any case. Beside the two forms in ASCII there
are the sign for kelvins, a capital I with a dot, a small one without, and the long s. -/
def Alike (a c : Char) : Prop :=
  Spells a.toLower c ∨ a.toLower = 'i' ∧ (c = '\u0130' ∨ c = '\u0131') ∨
    a.toLower = 's' ∧ c = '\u017f'

instance (a c : Char) : Decidable (Alike a c) :=
  inferInstanceAs (Decidable ((_ ∨ _ ∨ _) ∨ _))

/-- A character beyond ASCII to which no run of capitals leads is the lower form of itself only. -/
theorem lowerCode_eq_self_iff {m : Nat} (hm : 128 ≤ m) (hself : lowerCode m = m)
    (hruns : ∀ r ∈ lowerRuns, m < r.2.2.2 ∨ r.2.2.2 + (r.2.1 - r.1) < m) (n : Nat) :
    lowerCode n = m ↔ n = m := by
  refine ⟨fun h => ?_, fun h => h ▸ hself⟩
  unfold lowerCode at h
  by_cases hascii : n < 128
  · rw [if_pos hascii, lowerAscii] at h
    split at h
    · rename_i hcapital
      simp only [Bool.and_eq_true, decide_eq_true_eq] at hcapital
      omega
    · exact h
  · rw [if_neg hascii] at h
    rcases shiftCode_cases lowerRuns n with hsame | ⟨r, hr, hfirst, hlast, hshift⟩
    · omega
    · have hoff := hruns r hr
      omega

/-- The small i without a dot. -/
theorem lowerCode_eq_dotless_iff (n : Nat) : lowerCode n = 305 ↔ n = 305 :=
  lowerCode_eq_self_iff (by decide) (by decide +kernel) (by decide +kernel) n

/-- The long s. -/
theorem lowerCode_eq_long_iff (n : Nat) : lowerCode n = 383 ↔ n = 383 :=
  lowerCode_eq_self_iff (by decide) (by decide +kernel) (by decide +kernel) n

/-- The lowered characters that a letter of ASCII stands for: two for i and for s, one for any
other. -/
theorem caseClass_letter : ∀ n < 128, isAsciiLetter n = true → isCased n = true ∧
    caseClass n = lowerAscii n ::
      if lowerAscii n = 105 then [305] else if lowerAscii n = 115 then [383] else [] := by
  decide +kernel

/-- Digits have no case. -/
theorem isCased_digit : ∀ n < 58, 48 ≤ n → isCased n = false := by
  decide +kernel

/-- The code points of the letters and the digits of ASCII. -/
theorem alphanum_cases {a : Char} (ha : a.isAlphanum = true) :
    isAsciiLetter a.toNat = true ∧ a.toNat < 128 ∨ 48 ≤ a.toNat ∧ a.toNat < 58 := by
  unfold isAsciiLetter
  simp only [Bool.or_eq_true, Bool.and_eq_true, decide_eq_true_eq]
  rcases (Bool.or_eq_true _ _).mp ha with hletter | hdigit
  · rcases (Bool.or_eq_true _ _).mp hletter with hcapital | hsmall
    · have h : 65 ≤ a.toNat ∧ a.toNat ≤ 90 := of_decide_eq_true hcapital
      omega
    · obtain ⟨hlow, hhigh⟩ := (Bool.and_eq_true _ _).mp hsmall
      have hlow : 97 ≤ a.toNat := of_decide_eq_true hlow
      have hhigh : a.toNat ≤ 122 := of_decide_eq_true hhigh
      omega
  · obtain ⟨hlow, hhigh⟩ := (Bool.and_eq_true _ _).mp hdigit
    have hlow : 48 ≤ a.toNat := of_decide_eq_true hlow
    have hhigh : a.toNat ≤ 57 := of_decide_eq_true hhigh
    omega

/-- The code point of a small letter. -/
theorem toNat_toLower {a : Char} (ha : a.toNat < 128) : a.toLower.toNat = lowerAscii a.toNat :=
  ascii_forall (P := fun a => a.toLower.toNat = lowerAscii a.toNat) (by decide) ha

/-- The small form of a letter or a digit is small. -/
theorem small_toLower {a : Char} (ha : a.isAlphanum = true) : Text.Small a.toLower := by
  have hcases := alphanum_cases ha
  have hlower := toNat_toLower (a := a) (by omega)
  simp only [isAsciiLetter, lowerAscii, Bool.or_eq_true, Bool.and_eq_true, decide_eq_true_eq]
    at hcases hlower
  unfold Text.Small
  split at hlower <;> omega

/-- A letter or a digit matches the characters that are alike to it. -/
theorem like_iff {a c : Char} (ha : a.isAlphanum = true) : Like a c ↔ Alike a c := by
  have hchar : ∀ {b d : Char}, b = d ↔ b.toNat = d.toNat := Char.toNat_inj.symm
  have hi : 'i'.toNat = 105 := rfl
  have hs : 's'.toNat = 115 := rfl
  have hdotted : '\u0130'.toNat = 304 := rfl
  have hdotless : '\u0131'.toNat = 305 := rfl
  have hlong : '\u017f'.toNat = 383 := rfl
  have hsmall := small_toLower ha
  unfold Like isLiteral Alike
  simp only [spells_iff hsmall, hchar, hi, hs, hdotted, hdotless, hlong]
  rcases alphanum_cases ha with ⟨hletter, hascii⟩ | ⟨hlow, hhigh⟩
  · -- what a letter stands for is decided by lower forms, of which i and s have two
    obtain ⟨hcased, hclass⟩ := caseClass_letter a.toNat hascii hletter
    rw [if_pos hcased, hclass, ← toNat_toLower hascii, List.contains_iff_mem, List.mem_cons,
      lowerCode_eq_iff hsmall]
    split
    · rw [List.mem_singleton, lowerCode_eq_dotless_iff]
      omega
    · split
      · rw [List.mem_singleton, lowerCode_eq_long_iff]
        omega
      · simp only [List.not_mem_nil, or_false]
        omega
  · have hsame : a.toLower.toNat = a.toNat := by
      rw [toNat_toLower (by omega), lowerAscii, if_neg (by simp; omega)]
    have hcased : ¬ isCased a.toNat = true := by
      rw [isCased_digit a.toNat hhigh hlow]
      exact Bool.false_ne_true
    rw [if_neg hcased, beq_iff_eq]
    omega

/-- Letters and digits are ordinary characters of a pattern. -/
theorem ordinary_of_alphanum {a : Char} (ha : a.isAlphanum = true) : Ordinary a := by
  have hspecial : ['\\', '[', '(', '|', ')', '*', '+', '?', '\x7b', '.', '^', '$'].all
      fun d => !d.isAlphanum := by decide
  have hnot : a ∉ ['\\', '[', '(', '|', ')', '*', '+', '?', '\x7b', '.', '^', '$'] := by
    intro hmem
    have ha' := List.all_eq_true.mp hspecial a hmem
    rw [ha] at ha'
    cases ha'
  exact not_or.mp fun h => hnot (List.mem_append.mpr h)

/-- No letter and no digit is a newline in any case. -/
theorem not_alike_newline {a : Char} (ha : a.isAlphanum = true) : ¬ Alike a '\n' := by
  have hcode : '\n'.toNat = 10 := rfl
  have hsmall := small_toLower ha
  obtain ⟨hlow, -, -⟩ := id hsmall
  unfold Alike
  rw [spells_iff hsmall, hcode]
  rintro (h | ⟨-, h | h⟩ | ⟨-, h⟩)
  · omega
  · cases h
  · cases h
  · cases h

/-- There is no newline in a word of letters and digits, in any case. -/
theorem newline_not_mem {word line : List Char} (hword : ∀ a ∈ word, a.isAlphanum = true)
    (hline : List.Forall₂ Alike word line) : '\n' ∉ line := by
  induction hline with
  | nil => exact List.not_mem_nil
  | @cons a c word line halike _ ih =>
    obtain ⟨ha, hword⟩ := List.forall_mem_cons.mp hword
    intro hmem
    rcases List.mem_cons.mp hmem with rfl | hmem
    · exact not_alike_newline ha halike
    · exact ih hword hmem

/-! ### Lines -/

variable {s line before after : List Char}

/-- A text without newlines is one line. -/
theorem splitOn_of_not_mem (hs : '\n' ∉ s) : s.splitOn '\n' = [s] := by
  rw [List.splitOn_eq_splitOnP]
  exact List.splitOnP_eq_singleton fun c hc => beq_eq_false_iff_ne.mpr fun h => hs (h ▸ hc)

/-- Lines up to a newline and after it. -/
theorem splitOn_append_newline (s rest : List Char) :
    (s ++ '\n' :: rest).splitOn '\n' = s.splitOn '\n' ++ rest.splitOn '\n' := by
  simp only [List.splitOn_eq_splitOnP]
  exact List.splitOnP_append_cons s rest (beq_self_eq_true '\n')

/-- What stands between a line start and a line end, with no newline inside, is a line. -/
theorem mem_splitOn_of_between (hline : '\n' ∉ line) (hbefore : LineStart before)
    (hafter : LineEnd after) : line ∈ (before ++ (line ++ after)).splitOn '\n' := by
  have hstart : line ∈ (line ++ after).splitOn '\n' := by
    rcases hafter with rfl | hafter
    · rw [List.append_nil, splitOn_of_not_mem hline]
      exact List.mem_singleton_self line
    · obtain ⟨after, rfl⟩ := List.head?_eq_some_iff.mp hafter
      rw [splitOn_append_newline, splitOn_of_not_mem hline]
      exact List.mem_append_left _ (List.mem_singleton_self line)
  rcases hbefore with rfl | hbefore
  · exact hstart
  · obtain ⟨before, rfl⟩ := List.getLast?_eq_some_iff.mp hbefore
    rw [List.append_assoc, List.singleton_append, splitOn_append_newline]
    exact List.mem_append_right _ hstart

/-- A line of a text stands between a line start and a line end, with no newline inside. -/
theorem between_of_mem_splitOn {s : List Char} (h : line ∈ s.splitOn '\n') :
    '\n' ∉ line ∧ ∃ before after, s = before ++ (line ++ after) ∧ LineStart before ∧
      LineEnd after := by
  by_cases hs : '\n' ∈ s
  · -- the first newline ends the first line, and any other line is one of what follows
    obtain ⟨first, rest, hsplit, hfirst⟩ := List.eq_append_cons_of_mem hs
    rw [hsplit, splitOn_append_newline, splitOn_of_not_mem hfirst, List.singleton_append,
      List.mem_cons] at h
    rcases h with rfl | h
    · exact ⟨hfirst, [], '\n' :: rest, hsplit, .inl rfl, .inr rfl⟩
    · have hshorter : rest.length < s.length := by
        rw [hsplit, List.length_append, List.length_cons]
        omega
      obtain ⟨hline, before, after, rfl, hbefore, hafter⟩ := between_of_mem_splitOn h
      refine ⟨hline, first ++ '\n' :: before, after, by simp [hsplit], .inr ?_, hafter⟩
      rcases hbefore with rfl | hbefore
      · exact List.getLast?_concat
      · simp [List.getLast?_cons, hbefore]
  · rw [splitOn_of_not_mem hs, List.mem_singleton] at h
    exact ⟨h ▸ hs, [], [], by simp [h], .inl rfl, .inl rfl⟩
termination_by s.length

/-! ### Words that are lines -/

/-- The text that a word of letters and digits matches is that word in any case. -/
theorem forall₂_like_iff {word line : List Char} (hword : ∀ a ∈ word, a.isAlphanum = true) :
    List.Forall₂ Like word line ↔ List.Forall₂ Alike word line := by
  induction word generalizing line with
  | nil => rw [List.forall₂_nil_left_iff, List.forall₂_nil_left_iff]
  | cons a word ih =>
    obtain ⟨ha, hword⟩ := List.forall_mem_cons.mp hword
    cases line with
    | nil => exact iff_of_false nofun nofun
    | cons c line => rw [List.forall₂_cons, List.forall₂_cons, like_iff ha, ih hword]

/-- The pattern for a whole line is found in the texts of which the word is a line, in any case. -/
theorem found_iff_mem_splitOn {word : List Char} (hword : ∀ a ∈ word, a.isAlphanum = true)
    (text : String) :
    Program.found ⟨.ofList (elements .standard ('^' :: (word ++ ['$']))), 0⟩ text = true ↔
      ∃ line ∈ text.toList.splitOn '\n', List.Forall₂ Alike word line := by
  rw [found_line fun a ha => ordinary_of_alphanum (hword a ha)]
  constructor
  · rintro ⟨before, line, after, htext, hstart, hlike, hend⟩
    have hline := (forall₂_like_iff hword).mp hlike
    rw [htext]
    exact ⟨line, mem_splitOn_of_between (newline_not_mem hword hline) hstart hend, hline⟩
  · rintro ⟨line, hmem, hline⟩
    obtain ⟨-, before, after, htext, hstart, hend⟩ := between_of_mem_splitOn hmem
    exact ⟨before, line, after, htext, hstart, (forall₂_like_iff hword).mpr hline, hend⟩

/-- The pattern for a whole line can be read. -/
theorem read_line {answer : String} (hanswer : ∀ a ∈ answer.toList, a.isAlphanum = true) :
    read ("^" ++ answer ++ "$")
      = .ok ⟨.ofList (elements .standard ('^' :: (answer.toList ++ ['$']))), 0⟩ := by
  have hpattern : ("^" ++ answer ++ "$").toList = '^' :: (answer.toList ++ ['$']) := by
    rw [String.toList_append, String.toList_append]
    rfl
  have hanswer : ∀ a ∈ answer.toList, Plain a := fun a ha =>
    (ordinary_of_alphanum (hanswer a ha)).1
  have hplain : ∀ c ∈ ("^" ++ answer ++ "$").toList, Plain c := by
    rw [hpattern, List.forall_mem_cons, List.forall_mem_append]
    exact ⟨by decide, hanswer, List.forall_mem_singleton.mpr (by decide)⟩
  rw [read_plain hplain, hpattern]

end Pattern

/-! ### Answers -/

/-- The pattern for a whole line succeeds where the word is one of the lines, in any case, and fails
everywhere else. -/
theorem Step.run_whole_line (answer text : String)
    (hanswer : ∀ a ∈ answer.toList, a.isAlphanum = true) :
    ∃ result,
      (∀ key w, (Step.run key ⟨.regex, .str ("^" ++ answer ++ "$")⟩ text).perform w
        = (.ok ⟨result, []⟩, w)) ∧
      (result = "success" ↔
        ∃ line ∈ text.toList.splitOn '\n', List.Forall₂ Pattern.Alike answer.toList line) ∧
      (result = "failure" ↔
        ¬ ∃ line ∈ text.toList.splitOn '\n', List.Forall₂ Pattern.Alike answer.toList line) := by
  rw [← Pattern.found_iff_mem_splitOn hanswer]
  generalize hprogram : Pattern.Program.mk (.ofList
    (Pattern.elements .standard ('^' :: (answer.toList ++ ['$'])))) 0 = program
  refine ⟨if program.found text then "success" else "failure", fun key w => ?_, ?_, ?_⟩
  · have hmatch : matchPattern (.str ("^" ++ answer ++ "$")) text
        = .ok (if program.found text then "success" else "failure") := by
      rw [matchPattern, Pattern.read_line hanswer, hprogram]
    unfold Step.run
    exact Act.perform_bind_ok (Act.perform_ofExcept_eq hmatch w)
  · cases program.found text <;> decide
  · cases program.found text <;> decide

/-- A word is found on its line in other capitals; a line ends at newlines only. -/
theorem Step.run_whole_line_in_any_case :
    (∀ a ∈ "kiss".toList, a.isAlphanum = true) ∧
      ∀ key w, (Step.run key ⟨.regex, .str "^kiss$"⟩ "no\r\n\u212ai\u017fS\n").perform w
        = (.ok ⟨"success", []⟩, w) := by
  have hanswer : ∀ a ∈ "kiss".toList, a.isAlphanum = true := List.all_eq_true.mp (by decide)
  obtain ⟨result, hrun, hsuccess, -⟩ :=
    Step.run_whole_line "kiss" "no\r\n\u212ai\u017fS\n" hanswer
  have hresult : result = "success" := by
    refine hsuccess.mpr ⟨['\u212a', 'i', '\u017f', 'S'], by decide, ?_⟩
    exact .cons (by decide) (.cons (by decide) (.cons (by decide) (.cons (by decide) .nil)))
  exact ⟨hanswer, fun key w => hresult ▸ hrun key w⟩

end Tutor
