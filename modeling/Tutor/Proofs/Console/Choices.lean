import Tutor.Proofs.Console.Moves
import Tutor.Proofs.Text.Digits

namespace Tutor.Console

/-!
# Choices at the menu

A line at the menu quits, or names a lesson by its number, or is told to be invalid. Digits that are
no number are none of these: they are let through as digits, and then cannot be converted.

* `Quits`, `Denotes`, `Unconvertible` — the lines that mean something;
* `Choice.read_of_quits`, `Choice.read_of_denotes`, `Choice.read_of_unconvertible`,
  `Choice.read_of_other` — how they are read;
* `menu_takes_lines` — what the menu does with every line.
-/

/-- The text is the letter q, small or capital. -/
def Quits (s : List Char) : Prop :=
  s = ['q'] ∨ s = ['Q']

/-- The number that a text denotes: it consists of decimal digits of any scripts, no more of them
than are converted, and is read in base ten. -/
def Denotes (s : List Char) (n : Nat) : Prop :=
  s ≠ [] ∧ s.length ≤ Text.digitLimit ∧ (∀ c ∈ s, Text.isDecimalDigit c.toNat = true) ∧
    n = Nat.ofDigits 10 (Text.digitValues s).reverse

/-- The text consists of digits, but not all of them are decimal, or there are more of them than are
converted. -/
def Unconvertible (s : List Char) : Prop :=
  s ≠ [] ∧ (∀ c ∈ s, Text.isDigitChar c.toNat = true) ∧
    ((∃ c ∈ s, Text.isDecimalDigit c.toNat = false) ∨ Text.digitLimit < s.length)

variable {s : List Char} {n : Nat}

/-! ### Reading -/

/-- Digits are a number, or they are not convertible. -/
theorem denotes_or_unconvertible (hs : s ≠ [])
    (hdigits : ∀ c ∈ s, Text.isDigitChar c.toNat = true) :
    (∃ n, Denotes s n) ∨ Unconvertible s := by
  by_cases hlength : Text.digitLimit < s.length
  · exact .inr ⟨hs, hdigits, .inr hlength⟩
  · by_cases hother : ∃ c ∈ s, Text.isDecimalDigit c.toNat = false
    · exact .inr ⟨hs, hdigits, .inl hother⟩
    · refine .inl ⟨_, hs, Nat.le_of_not_lt hlength, fun c hc => ?_, rfl⟩
      by_contra hnot
      exact hother ⟨c, hc, Bool.eq_false_iff.mpr hnot⟩

/-- A text that denotes a number is read as that number. -/
theorem Denotes.readWhole (h : Denotes s n) : Text.readWhole s = .ok (n : Int) := by
  obtain ⟨hs, hlength, hdecimal, rfl⟩ := h
  have hvalues : ∀ c ∈ s, Text.hasValue c = true := fun c hc =>
    Text.isDecimalDigit_eq c ▸ hdecimal c hc
  rw [Text.readWhole_of_digits hs fun c hc => Text.digit_of_decimal (hdecimal c hc),
    List.takeWhile_eq_self_iff.mpr hvalues, if_neg (Nat.not_lt.mpr hlength),
    if_pos (List.all_eq_true.mpr hvalues), Text.numberOf_eq_ofDigits]

/-- Digits that are not convertible are not read as a number. -/
theorem Unconvertible.readWhole (h : Unconvertible s) : ∃ why, Text.readWhole s = .error why := by
  obtain ⟨hs, hdigits, hflaw⟩ := h
  rw [Text.readWhole_of_digits hs hdigits]
  by_cases hlength : Text.digitLimit < (s.takeWhile Text.hasValue).length
  · exact ⟨_, if_pos hlength⟩
  · have hall : ¬ s.all Text.hasValue = true := fun hall => by
      have hvalues := List.all_eq_true.mp hall
      rcases hflaw with ⟨c, hc, hother⟩ | hlong
      · rw [Text.isDecimalDigit_eq, hvalues c hc] at hother
        cases hother
      · rw [List.takeWhile_eq_self_iff.mpr hvalues] at hlength
        exact hlength hlong
    rw [if_neg hlength, if_neg hall]
    exact ⟨_, rfl⟩

namespace Choice

variable {lessons : List String} {line : String}

/-- The letter q quits. -/
theorem read_of_quits (h : Quits (Text.trim line.toList)) (lessons : List String) :
    Choice.read lessons line = .ok .quit := by
  unfold Choice.read
  exact if_pos (Text.lowered_eq_q.mpr h)

/-- Digits are read as a number; being lowered is nothing to them. -/
theorem read_of_digits (hs : Text.trim line.toList ≠ [])
    (hdigits : ∀ c ∈ Text.trim line.toList, Text.isDigitChar c.toNat = true)
    (lessons : List String) :
    Choice.read lessons line =
      match Text.readWhole (Text.trim line.toList) with
      | .error why => .error (.badNumber why)
      | .ok n =>
        if 1 ≤ n then
          match lessons[n.toNat - 1]? with
          | some name => .ok (.lesson name)
          | none => .ok .invalid
        else .ok .invalid := by
  -- digits are no letter q
  have hall := List.all_eq_true.mpr hdigits
  have hlowered := (Text.lowered_of_digits (Text.trim line.toList)).2 hall
  have hq : Text.trim line.toList ≠ ['q'] := fun h => by
    rw [h] at hall
    revert hall
    decide
  have hguard : (!(Text.trim line.toList).isEmpty &&
      (Text.trim line.toList).all fun c => Text.isDigitChar c.toNat) = true := by
    rw [hall, List.isEmpty_eq_false_iff.mpr hs]
    rfl
  unfold Choice.read
  simp only [hlowered]
  exact (if_neg hq).trans (if_pos hguard)

/-- A line is invalid that neither quits nor consists of digits. -/
theorem read_of_other (hquits : ¬ Quits (Text.trim line.toList))
    (hother : Text.trim line.toList = [] ∨
      ∃ c ∈ Text.trim line.toList, Text.isDigitChar c.toNat = false)
    (lessons : List String) : Choice.read lessons line = .ok .invalid := by
  unfold Choice.read
  have hguard : (!(Text.lowered (Text.trim line.toList)).isEmpty &&
      (Text.lowered (Text.trim line.toList)).all fun c => Text.isDigitChar c.toNat) = false := by
    rw [(Text.lowered_of_digits _).1]
    rcases hother with hnil | ⟨c, hc, hdigit⟩
    · rw [hnil]
      rfl
    · rw [List.all_eq_false.mpr ⟨c, hc, Bool.eq_false_iff.mp hdigit⟩, Bool.and_false]
  simp only [if_neg fun h => hquits (Text.lowered_eq_q.mp h), hguard, Bool.false_eq_true, if_false]

/-- The number of a listed lesson chooses it; numbers start at one. -/
theorem read_of_denotes {k : Nat} (h : Denotes (Text.trim line.toList) (k + 1))
    (hk : k < lessons.length) : Choice.read lessons line = .ok (.lesson lessons[k]) := by
  rw [read_of_digits h.1 (fun c hc => Text.digit_of_decimal (h.2.2.1 c hc)), h.readWhole]
  have hone : (1 : Int) ≤ ((k + 1 : Nat) : Int) := by omega
  simp only [if_pos hone, Int.toNat_natCast, Nat.add_sub_cancel, List.getElem?_eq_getElem hk]

/-- Any other number is invalid. -/
theorem read_of_denotes_other (h : Denotes (Text.trim line.toList) n)
    (hn : n = 0 ∨ lessons.length < n) : Choice.read lessons line = .ok .invalid := by
  rw [read_of_digits h.1 (fun c hc => Text.digit_of_decimal (h.2.2.1 c hc)), h.readWhole]
  by_cases hone : 1 ≤ (n : Int)
  · have hlong : lessons.length ≤ n - 1 := by omega
    simp only [if_pos hone, Int.toNat_natCast, List.getElem?_eq_none hlong]
  · simp only [if_neg hone]

/-- Digits that are not convertible fail. -/
theorem read_of_unconvertible (h : Unconvertible (Text.trim line.toList)) (lessons : List String) :
    ∃ why, Choice.read lessons line = .error (.badNumber why) := by
  obtain ⟨why, hwhy⟩ := h.readWhole
  rw [read_of_digits h.1 h.2.1, hwhy]
  exact ⟨why, rfl⟩

end Choice

/-! ### Answering -/

/-- An answer at the menu is that to the choice that is read. -/
theorem perform_answerChoice {lessons : List String} {line : String} {choice : Choice}
    (h : Choice.read lessons line = .ok choice) (u : World) :
    (answer (.choosing lessons) line).perform u =
      match choice with
      | .quit => (.ok .finished, u)
      | .lesson name => (startLesson name).perform u
      | .invalid =>
        showMenu.perform { u with journal := .line "Invalid choice." :: u.journal } := by
  show (answerChoice lessons line).perform u = _
  unfold answerChoice
  rw [Act.perform_bind_ok (Act.perform_ofExcept_eq h u)]
  cases choice with
  | quit | lesson | invalid => rfl

/-- **The menu takes every line but digits that are no number.** The menu lists the lessons that are
unlocked. Between blanks, a letter q quits, and the number of a listed lesson, in decimal digits of
any scripts, starts that lesson. Digits of which some are not decimal, or more than are converted,
fail, and nothing is done. Every other line is told to be invalid, once, and the menu is shown
again. -/
theorem menu_takes_lines {w w' : World} {stage : Stage}
    (h : showMenu.perform w = (.ok stage, w')) :
    ∃ lessons v, (Service.unlockedLessons client).perform w = (.ok lessons, v) ∧
      let names := lessons.map (·.name)
      stage = .choosing names ∧ ∀ (line : String) (u : World),
        let s := Text.trim line.toList
        (Quits s → (answer stage line).perform u = (.ok .finished, u)) ∧
        (∀ k (hk : k < names.length), Denotes s (k + 1) →
          (answer stage line).perform u = (startLesson names[k]).perform u) ∧
        (Unconvertible s →
          ∃ why, (answer stage line).perform u = (.error (.badNumber why), u)) ∧
        (¬ Quits s → ¬ Unconvertible s → (∀ n, Denotes s n → n = 0 ∨ names.length < n) →
          (answer stage line).perform u
            = showMenu.perform { u with journal := .line "Invalid choice." :: u.journal }) := by
  obtain ⟨lessons, v, hlessons, rfl⟩ := choosing_of_showMenu h
  refine ⟨lessons, v, hlessons, rfl, fun line u => ⟨fun hquits => ?quits,
    fun k hk hdenotes => ?listed, fun hflaw => ?unconvertible,
    fun hquits hflaw hnumbers => ?other⟩⟩
  case quits => exact perform_answerChoice (Choice.read_of_quits hquits _) u
  case listed => exact perform_answerChoice (Choice.read_of_denotes hdenotes hk) u
  case unconvertible =>
    obtain ⟨why, hwhy⟩ := Choice.read_of_unconvertible hflaw (lessons.map (·.name))
    exact ⟨why, Act.perform_bind_error (Act.perform_ofExcept_eq hwhy u)⟩
  case other =>
    -- the line is a number that is not listed, or no number at all
    have hread : Choice.read (lessons.map (·.name)) line = .ok .invalid := by
      by_cases hdigits : Text.trim line.toList ≠ [] ∧
          ∀ c ∈ Text.trim line.toList, Text.isDigitChar c.toNat = true
      · rcases denotes_or_unconvertible hdigits.1 hdigits.2 with ⟨n, hn⟩ | hfails
        · exact Choice.read_of_denotes_other hn (hnumbers n hn)
        · exact absurd hfails hflaw
      · refine Choice.read_of_other hquits ?_ _
        by_contra hnone
        simp only [not_or, not_exists, not_and, Bool.not_eq_false] at hnone
        exact hdigits hnone
    exact perform_answerChoice hread u

/-- A world with one lesson, which is always unlocked. -/
def introWorld : World :=
  { World.fresh Host.bare ⟨[⟨"intro", "A lesson", "", ["console"], []⟩], [], none⟩ with
    connection := .memory ⟨1, some []⟩ }

/-- The menu of one lesson. -/
theorem showMenu_introWorld : (showMenu.perform introWorld).1 = .ok (.choosing ["intro"]) := rfl

/-- The number of the only lesson, in Arabic digits and between blanks, starts it. -/
theorem menu_takes_lines_arabic :
    let w := (showMenu.perform introWorld).2
    showMenu.perform introWorld = (.ok (.choosing ["intro"]), w) ∧
      (answer (.choosing ["intro"]) " ٠١ ").perform w = (startLesson "intro").perform w := by
  intro w
  have hmenu : showMenu.perform introWorld = (.ok (.choosing ["intro"]), w) :=
    Prod.ext showMenu_introWorld rfl
  obtain ⟨lessons, v, -, hstage, htakes⟩ := menu_takes_lines hmenu
  have hnames : ["intro"] = lessons.map (·.name) := Stage.choosing.inj hstage
  obtain ⟨-, hstarts, -, -⟩ := htakes " ٠١ " w
  have htrim : Text.trim " ٠١ ".toList = ['٠', '١'] := by decide +kernel
  rw [← hnames] at hstarts
  refine ⟨hmenu, hstarts 0 Nat.zero_lt_one ?_⟩
  rw [htrim]
  exact ⟨List.cons_ne_nil _ _, by decide, List.all_eq_true.mp (by decide +kernel),
    by decide +kernel⟩

/-- A superscript is a digit and no decimal: it ends the game. -/
theorem superscript_ends_game :
    let w := (showMenu.perform introWorld).2
    showMenu.perform introWorld = (.ok (.choosing ["intro"]), w) ∧
      (answer (.choosing ["intro"]) "⁹").perform w
        = (.error (.badNumber (.notANumber "⁹")), w) := by
  intro w
  refine ⟨Prod.ext showMenu_introWorld rfl, ?_⟩
  have htrim : Text.trim "⁹".toList = ['⁹'] := by decide +kernel
  have hwhole : Text.readWhole ['⁹'] = .error (.notANumber "⁹") := by rfl
  have hread : Choice.read ["intro"] "⁹" = .error (.badNumber (.notANumber "⁹")) := by
    rw [Choice.read_of_digits (by rw [htrim]; exact List.cons_ne_nil _ _)
      (by rw [htrim]; exact List.all_eq_true.mp (by decide +kernel)), htrim, hwhole]
  exact Act.perform_bind_error (Act.perform_ofExcept_eq hread w)

end Tutor.Console
