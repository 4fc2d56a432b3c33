import Nayasetu.Texts.Runs
import Nayasetu.Values.CodeUnits

/-!
# Redacting a narrative

Three patterns are replaced in a narrative, one after the other, each by the marker of its category.
All of their matches consist of whole runs of digits with separators and a country code, so a pass
does not make up matches for another: one application of `redactIntakeNarrative` leaves nothing for
a second one.

The pattern of account numbers asks for word boundaries where the other two ask for the absence of
digits, and passes over a number that a letter or an underscore touches
(`account_runs_redacted_iff`).

## Code units

A narrative is a list of UTF-16 code units, as the engine sees it. The patterns have no flag `u`,
and a digit is one of the ten; whatever is no digit, sign or separator in the text is left as it
is.
-/

namespace Nayasetu

open Values Texts Regex

/-! ## The patterns

Each pattern is a value of the library on regular expressions, put together in the order of the
source.
-/

/-- `[\s-]` -/
def isSeparatorUnit (u : UInt16) : Bool := isSpaceUnit u || decide (u = 45)

/-- `[6-9]` -/
def isMobileUnit (u : UInt16) : Bool := decide (54 ≤ u ∧ u ≤ 57)

def literalUnit (u : UInt16) : Regex UInt16 := .unit fun v ↦ decide (v = u)

/-- `\d{min,max}` -/
def digitUnits (min max : ℕ) : Regex UInt16 := .repeated (.unit isDigitUnit) min max

/-- `[\s-]?` -/
def optionalSeparator : Regex UInt16 := .optional (.unit isSeparatorUnit)

/-- `(?:\+?91[\s-]?)?` -/
def countryCode : Regex UInt16 :=
  .optional <| .seq (.optional (literalUnit 43)) <| .seq (literalUnit 57) <|
    .seq (literalUnit 49) optionalSeparator

/-- `/(?<!\d)(?:\+?91[\s-]?)?[6-9]\d{9}(?!\d)/g` -/
def phonePattern : Regex UInt16 :=
  .seq (.notBehind isDigitUnit) <| .seq countryCode <| .seq (.unit isMobileUnit) <|
  .seq (digitUnits 9 9) (.notAhead isDigitUnit)

/-- `/(?<!\d)\d{4}[\s-]?\d{4}[\s-]?\d{4}(?!\d)/g` -/
def aadhaarShapedPattern : Regex UInt16 :=
  .seq (.notBehind isDigitUnit) <|
  .seq (digitUnits 4 4) <| .seq optionalSeparator <|
  .seq (digitUnits 4 4) <| .seq optionalSeparator <|
  .seq (digitUnits 4 4) (.notAhead isDigitUnit)

/-- `/\b\d{9,18}\b/g` -/
def accountNumberPattern : Regex UInt16 :=
  .seq (.boundary isWordUnit) <| .seq (digitUnits 9 18) (.boundary isWordUnit)

inductive RedactionCategory where
  | phone
  | aadhaarShaped
  | accountNumber
  deriving DecidableEq, Repr

/-- The pattern of a category. -/
def RedactionCategory.pattern : RedactionCategory → Regex UInt16
  | .phone => phonePattern
  | .aadhaarShaped => aadhaarShapedPattern
  | .accountNumber => accountNumberPattern

/-- What a match of a category gives way to. -/
def RedactionCategory.marker : RedactionCategory → JsString
  | .phone => units "[REDACTED_PHONE]"
  | .aadhaarShaped => units "[REDACTED_ID_NUMBER]"
  | .accountNumber => units "[REDACTED_ACCOUNT_NUMBER]"

/-! ## The redaction

A pass replaces the matches from left to right, and notes its category if there was one.
-/

/-- The narrative so far, and the set of categories in the order in which they were added. -/
structure RedactionResult where
  redacted : JsString
  categories : List RedactionCategory
  deriving DecidableEq

/-- `categories.add(category)`. -/
def addCategory (categories : List RedactionCategory) (category : RedactionCategory) :
    List RedactionCategory :=
  if category ∈ categories then categories else categories ++ [category]

/-- The pieces that `redacted.replace(pattern, …)` divides a text into. -/
def redactionPieces (category : RedactionCategory) (text : JsString) :
    List (Piece RedactionCategory UInt16) := scan category.pattern category 0 none text

/-- One pass: `redacted.replace(pattern, …)`, with the callback for each match. -/
def redactCategory (category : RedactionCategory) (result : RedactionResult) : RedactionResult :=
  let pieces := redactionPieces category result.redacted
  { redacted := rendered RedactionCategory.marker pieces
    categories := ((replacements pieces).map Prod.fst).foldl addCategory result.categories }

/-- `redactIntakeNarrative`. -/
def redactIntakeNarrative (raw : JsString) : RedactionResult :=
  redactCategory .accountNumber (redactCategory .aadhaarShaped (redactCategory .phone ⟨raw, []⟩))

/-! ## What the patterns match

Every pattern in terms of the text it matches and of what stands on its sides, so that the matcher
is not looked at again.
-/

section Matches

variable {prev : Option UInt16} {span after : JsString} {category : RedactionCategory}

/-- `\d{n}` -/
def IsDigits (n : ℕ) (digits : JsString) : Prop :=
  digits.length = n ∧ ∀ u ∈ digits, isDigitUnit u = true

/-- `[\s-]?` -/
def IsOptionalSeparator (separator : JsString) : Prop :=
  separator = [] ∨ ∃ u, separator = [u] ∧ isSeparatorUnit u = true

/-- `(?:\+?91[\s-]?)?` -/
def IsCountryCode (code : JsString) : Prop :=
  code = [] ∨ ∃ plus separator, code = plus ++ 57 :: 49 :: separator ∧ (plus = [] ∨ plus = [43]) ∧
    IsOptionalSeparator separator

/-- `[6-9]\d{9}` -/
def IsMobileNumber (number : JsString) : Prop :=
  IsDigits 10 number ∧ number.head?.any isMobileUnit = true

theorem matches_digitUnits_iff {n : ℕ} : (digitUnits n n).Matches prev span after ↔
    IsDigits n span := by
  rw [digitUnits, matches_repeated_unit_iff (le_refl n), ← and_assoc, ← le_antisymm_iff, IsDigits,
    eq_comm]

theorem matches_literalUnit_iff {u : UInt16} :
    (literalUnit u).Matches prev span after ↔ span = [u] := by
  simp only [literalUnit, matches_unit_iff, decide_eq_true_eq, exists_eq_right]

theorem matches_optionalSeparator_iff :
    optionalSeparator.Matches prev span after ↔ IsOptionalSeparator span := by
  rw [optionalSeparator, matches_optional_iff, matches_unit_iff, IsOptionalSeparator]
  refine or_congr_right ⟨And.right, fun h ↦ ⟨?_, h⟩⟩
  obtain ⟨u, rfl, -⟩ := h
  exact List.cons_ne_nil _ _

theorem isDigitUnit_of_isMobileUnit {u : UInt16} (h : isMobileUnit u = true) :
    isDigitUnit u = true := by
  obtain ⟨hlow, hhigh⟩ := of_decide_eq_true h
  exact decide_eq_true ⟨UInt16.le_trans (show 48 ≤ 54 by decide) hlow, hhigh⟩

theorem matches_countryCode_iff : countryCode.Matches prev span after ↔ IsCountryCode span := by
  have hplus : ∀ {plus : JsString}, (plus = [] ∨ plus ≠ [] ∧ plus = [43]) ↔
      plus = [] ∨ plus = [43] :=
    or_congr_right ⟨And.right, fun h ↦ ⟨h ▸ List.cons_ne_nil _ _, h⟩⟩
  simp only [countryCode, matches_optional_iff, matches_seq_iff, matches_literalUnit_iff,
    matches_optionalSeparator_iff, ↓existsAndEq, true_and, hplus, List.singleton_append]
  refine or_congr_right ⟨And.right, fun h ↦ ⟨?_, h⟩⟩
  obtain ⟨plus, separator, rfl, -⟩ := h
  simp

theorem matches_phonePattern_iff : phonePattern.Matches prev span after ↔
    prev.any isDigitUnit = false ∧ after.head?.any isDigitUnit = false ∧
      ∃ code number, span = code ++ number ∧ IsCountryCode code ∧ IsMobileNumber number := by
  simp only [phonePattern, matches_seq_iff, matches_notBehind_iff, matches_notAhead_iff,
    matches_countryCode_iff, matches_unit_iff, matches_digitUnits_iff, ↓existsAndEq, true_and,
    List.nil_append, List.append_nil, List.singleton_append]
  constructor
  · rintro ⟨code, digits, u, rfl, hprev, hcode, hu, ⟨hlength, hdigits⟩, hafter⟩
    refine ⟨hprev, hafter, code, u :: digits, rfl, hcode, ⟨congrArg Nat.succ hlength, ?_⟩, hu⟩
    exact List.forall_mem_cons.mpr ⟨isDigitUnit_of_isMobileUnit hu, hdigits⟩
  · rintro ⟨hprev, hafter, code, number, rfl, hcode, ⟨hlength, hdigits⟩, hu⟩
    cases number with
    | nil => cases hu
    | cons u digits =>
      exact ⟨code, digits, u, rfl, hprev, hcode, hu,
        ⟨Nat.succ.inj hlength, (List.forall_mem_cons.mp hdigits).2⟩, hafter⟩

theorem matches_aadhaarShapedPattern_iff : aadhaarShapedPattern.Matches prev span after ↔
    prev.any isDigitUnit = false ∧ after.head?.any isDigitUnit = false ∧
      ∃ first separator second separator' third,
        span = first ++ (separator ++ (second ++ (separator' ++ third))) ∧
        IsDigits 4 first ∧ IsOptionalSeparator separator ∧ IsDigits 4 second ∧
        IsOptionalSeparator separator' ∧ IsDigits 4 third := by
  simp only [aadhaarShapedPattern, matches_seq_iff, matches_notBehind_iff, matches_notAhead_iff,
    matches_digitUnits_iff, matches_optionalSeparator_iff, ↓existsAndEq, true_and,
    List.nil_append, List.append_nil]
  constructor
  · rintro ⟨first, separator, second, separator', third, htext, hprev, hfirst, hseparator, hsecond,
      hseparator', hthird, hafter⟩
    exact ⟨hprev, hafter, first, separator, second, separator', third, htext, hfirst, hseparator,
      hsecond, hseparator', hthird⟩
  · rintro ⟨hprev, hafter, first, separator, second, separator', third, htext, hfirst, hseparator,
      hsecond, hseparator', hthird⟩
    exact ⟨first, separator, second, separator', third, htext, hprev, hfirst, hseparator, hsecond,
      hseparator', hthird, hafter⟩

theorem matches_accountNumberPattern_iff : accountNumberPattern.Matches prev span after ↔
    prev.any isWordUnit = false ∧ after.head?.any isWordUnit = false ∧ 9 ≤ span.length ∧
      span.length ≤ 18 ∧ ∀ u ∈ span, isDigitUnit u = true := by
  -- At the ends of digits a boundary asks for what is not a word.
  have hends : 9 ≤ span.length → (∀ u ∈ span, isDigitUnit u = true) →
      (span ++ after).head?.any isWordUnit = true ∧ (behind prev span).any isWordUnit = true := by
    intro hlength hdigits
    have hne : span ≠ [] := List.length_pos_iff.mp (by omega)
    constructor
    · obtain ⟨u, span, rfl⟩ := List.exists_cons_of_ne_nil hne
      exact isWordUnit_of_isDigitUnit (hdigits u List.mem_cons_self)
    · obtain ⟨span, u, rfl⟩ := (List.eq_nil_or_concat span).resolve_left hne
      rw [List.concat_eq_append, behind_append]
      exact isWordUnit_of_isDigitUnit (hdigits u (by simp))
  simp only [accountNumberPattern, matches_seq_iff, matches_boundary_iff, digitUnits,
    matches_repeated_unit_iff (show 9 ≤ 18 by decide), ↓existsAndEq, true_and,
    List.nil_append, List.append_nil, behind_nil]
  constructor
  · rintro ⟨hprev, ⟨hmin, hmax, hdigits⟩, hafter⟩
    rw [(hends hmin hdigits).1, ne_eq, Bool.not_eq_true] at hprev
    rw [(hends hmin hdigits).2, ne_comm, ne_eq, Bool.not_eq_true] at hafter
    exact ⟨hprev, hafter, hmin, hmax, hdigits⟩
  · rintro ⟨hprev, hafter, hmin, hmax, hdigits⟩
    rw [(hends hmin hdigits).1, (hends hmin hdigits).2, hprev, hafter]
    exact ⟨Bool.false_ne_true, ⟨hmin, hmax, hdigits⟩, Bool.false_ne_true.symm⟩

/-! ## What the passes share

The markers contain no digit. So nothing that a later pass matches reaches into a marker of an
earlier one, and a pass has nothing to do on the result of itself.
-/

theorem sides_of_matches (h : category.pattern.Matches prev span after) :
    prev.any isDigitUnit = false ∧ after.head?.any isDigitUnit = false := by
  have hword : ∀ {u : Option UInt16}, u.any isWordUnit = false → u.any isDigitUnit = false := by
    intro u hu
    cases u with
    | none => rfl
    | some u =>
      exact Bool.eq_false_iff.mpr fun hdigit ↦
        Bool.false_ne_true (hu.symm.trans (isWordUnit_of_isDigitUnit hdigit))
  cases category with
  | phone => exact ⟨(matches_phonePattern_iff.mp h).1, (matches_phonePattern_iff.mp h).2.1⟩
  | aadhaarShaped =>
    exact ⟨(matches_aadhaarShapedPattern_iff.mp h).1, (matches_aadhaarShapedPattern_iff.mp h).2.1⟩
  | accountNumber =>
    obtain ⟨hprev, hafter, -⟩ := matches_accountNumberPattern_iff.mp h
    exact ⟨hword hprev, hword hafter⟩

def IsNumberUnit (u : UInt16) : Prop := isDigitUnit u = true ∨ isSeparatorUnit u = true ∨ u = 43

theorem not_isNumberUnit_of_mem_marker {u : UInt16} (hu : u ∈ category.marker) :
    ¬ IsNumberUnit u := by
  have hmarker : category.marker.all
      (fun u ↦ !(isDigitUnit u || isSeparatorUnit u || decide (u = 43))) = true := by
    cases category <;> decide
  have hfree := List.all_eq_true.mp hmarker u hu
  simp only [Bool.not_eq_true', Bool.or_eq_false_iff, decide_eq_false_iff_not] at hfree
  rintro (hdigit | hseparator | hplus)
  · exact Bool.false_ne_true (hfree.1.1.symm.trans hdigit)
  · exact Bool.false_ne_true (hfree.1.2.symm.trans hseparator)
  · exact hfree.2 hplus

theorem marker_ne_nil (category : RedactionCategory) : category.marker ≠ [] := by
  cases category <;> decide

section Parts

variable {n : ℕ} {digits separator code number : JsString} {u : UInt16}

theorem IsDigits.ne_nil (h : IsDigits (n + 1) digits) : digits ≠ [] := by
  rintro rfl
  cases h.1

theorem head_any_of_forall (hne : digits ≠ []) (h : ∀ u ∈ digits, isDigitUnit u = true) :
    digits.head?.any isDigitUnit = true := by
  obtain ⟨u, digits, rfl⟩ := List.exists_cons_of_ne_nil hne
  exact h u List.mem_cons_self

theorem getLast_any_of_forall (hne : digits ≠ []) (h : ∀ u ∈ digits, isDigitUnit u = true) :
    digits.getLast?.any isDigitUnit = true := by
  obtain ⟨digits, u, rfl⟩ := (List.eq_nil_or_concat digits).resolve_left hne
  rw [List.concat_eq_append, List.getLast?_concat]
  exact h u (by simp)

theorem IsDigits.isNumberUnit (h : IsDigits n digits) (hu : u ∈ digits) : IsNumberUnit u :=
  .inl (h.2 u hu)

theorem IsOptionalSeparator.isNumberUnit (h : IsOptionalSeparator separator) (hu : u ∈ separator) :
    IsNumberUnit u := by
  rcases h with rfl | ⟨v, rfl, hv⟩
  · cases hu
  · rw [List.mem_singleton.mp hu]
    exact .inr (.inl hv)

theorem IsCountryCode.exists_plus (h : IsCountryCode code) :
    ∃ plus rest, code = plus ++ rest ∧ (plus = [] ∨ plus = [43]) ∧ IsCountryCode rest ∧
      (rest = [] ∨ rest.head? = some 57) := by
  rcases h with rfl | ⟨plus, separator, rfl, hplus, hseparator⟩
  · exact ⟨[], [], rfl, .inl rfl, .inl rfl, .inl rfl⟩
  · exact ⟨plus, 57 :: 49 :: separator, rfl, hplus, .inr ⟨[], separator, rfl, .inl rfl, hseparator⟩,
      .inr rfl⟩

theorem IsCountryCode.isNumberUnit (h : IsCountryCode code) (hu : u ∈ code) : IsNumberUnit u := by
  rcases h with rfl | ⟨plus, separator, rfl, hplus, hseparator⟩
  · cases hu
  simp only [List.mem_append, List.mem_cons] at hu
  rcases hu with hu | rfl | rfl | hu
  · rcases hplus with rfl | rfl
    · cases hu
    · exact .inr (.inr (List.mem_singleton.mp hu))
  · exact .inl (by decide)
  · exact .inl (by decide)
  · exact hseparator.isNumberUnit hu

end Parts

theorem isNumberUnit_of_mem {u : UInt16} (h : category.pattern.Matches prev span after)
    (hu : u ∈ span) : IsNumberUnit u := by
  cases category with
  | phone =>
    obtain ⟨-, -, code, number, rfl, hcode, hnumber⟩ := matches_phonePattern_iff.mp h
    rcases List.mem_append.mp hu with hu | hu
    · exact hcode.isNumberUnit hu
    · exact hnumber.1.isNumberUnit hu
  | aadhaarShaped =>
    obtain ⟨-, -, first, separator, second, separator', third, rfl, hfirst, hseparator, hsecond,
      hseparator', hthird⟩ := matches_aadhaarShapedPattern_iff.mp h
    simp only [List.mem_append] at hu
    rcases hu with hu | hu | hu | hu | hu
    · exact hfirst.isNumberUnit hu
    · exact hseparator.isNumberUnit hu
    · exact hsecond.isNumberUnit hu
    · exact hseparator'.isNumberUnit hu
    · exact hthird.isNumberUnit hu
  | accountNumber =>
    obtain ⟨-, -, -, -, hdigits⟩ := matches_accountNumberPattern_iff.mp h
    exact .inl (hdigits u hu)

/-- Every match ends with a match that begins with a digit. -/
theorem cored_pattern (category : RedactionCategory) :
    Cored RedactionCategory.marker isDigitUnit category.pattern := by
  intro prev span after h
  -- A match that begins and ends with digits is its own core.
  have hwhole : ∀ {prev : Option UInt16} {core : JsString},
    category.pattern.Matches prev core after →
      core.head?.any isDigitUnit = true → core.getLast?.any isDigitUnit = true →
      category.pattern.Matches prev core after ∧ core.head?.any isDigitUnit = true ∧
        core.getLast?.any isDigitUnit = true ∧ ∀ u ∈ core, ∀ c, u ∉ RedactionCategory.marker c :=
    fun h hhead hlast ↦ ⟨h, hhead, hlast, fun u hu c hmem ↦
      not_isNumberUnit_of_mem_marker hmem (isNumberUnit_of_mem h hu)⟩
  cases category with
  | phone =>
    obtain ⟨hprev, hafter, code, number, rfl, hcode, hnumber⟩ := matches_phonePattern_iff.mp h
    obtain ⟨plus, rest, rfl, hplus, hrest, hhead⟩ := hcode.exists_plus
    have hne := hnumber.1.ne_nil
    refine ⟨plus, rest ++ number, List.append_assoc _ _ _, hwhole ?_ ?_ ?_⟩
    · refine matches_phonePattern_iff.mpr ⟨?_, hafter, rest, number, rfl, hrest, hnumber⟩
      rcases hplus with rfl | rfl
      · exact hprev
      · exact (by decide : isDigitUnit 43 = false)
    · rcases hhead with rfl | hhead
      · exact head_any_of_forall hne hnumber.1.2
      · rw [List.head?_append, hhead]
        exact (by decide : isDigitUnit 57 = true)
    · rw [List.getLast?_append_of_ne_nil _ hne]
      exact getLast_any_of_forall hne hnumber.1.2
  | aadhaarShaped =>
    obtain ⟨-, -, first, separator, second, separator', third, rfl, hfirst, -, -, -, hthird⟩ :=
      matches_aadhaarShapedPattern_iff.mp h
    refine ⟨[], first ++ (separator ++ (second ++ (separator' ++ third))), rfl, hwhole h ?_ ?_⟩
    · rw [List.head?_append_of_ne_nil _ hfirst.ne_nil]
      exact head_any_of_forall hfirst.ne_nil hfirst.2
    · simp only [← List.append_assoc]
      rw [List.getLast?_append_of_ne_nil _ hthird.ne_nil]
      exact getLast_any_of_forall hthird.ne_nil hthird.2
  | accountNumber =>
    obtain ⟨-, -, hmin, -, hdigits⟩ := matches_accountNumberPattern_iff.mp h
    have hne : span ≠ [] := List.length_pos_iff.mp (by omega)
    exact ⟨[], span, rfl, hwhole h (head_any_of_forall hne hdigits)
      (getLast_any_of_forall hne hdigits)⟩

theorem consumes_pattern (category : RedactionCategory) : Consumes category.pattern := by
  intro prev after h
  obtain ⟨lead, core, hnil, -, hhead, -⟩ := cored_pattern category prev [] after h
  rw [(List.append_eq_nil_iff.mp hnil.symm).2] at hhead
  cases hhead

end Matches

/-! ## The passes

After a pass its pattern is found nowhere; the passes that follow do not bring it back.
-/

section Passes

variable {category category' : RedactionCategory} {result : RedactionResult}

theorem original_redactionPieces (category : RedactionCategory) (text : JsString) :
    original (redactionPieces category text) = text :=
  (scan_spec (consumes_pattern category) none text).1

theorem scanned_redactionPieces (category : RedactionCategory) (text : JsString) :
    Scanned category.pattern category none (redactionPieces category text) :=
  (scan_spec (consumes_pattern category) none text).2

theorem apart_redactionPieces (category : RedactionCategory) (text : JsString) :
    Apart isDigitUnit none (redactionPieces category text) :=
  (scanned_redactionPieces category text).apart fun _ _ _ h ↦ sides_of_matches h

/-- A pass leaves no match of its own pattern. -/
theorem not_foundIn_redactCategory_self :
    ¬ category.pattern.FoundIn (redactCategory category result).redacted :=
  (scanned_redactionPieces category result.redacted).not_foundIn
    (apart_redactionPieces category result.redacted) marker_ne_nil (cored_pattern category)

/-- A pass makes up no match of another pattern. -/
theorem not_foundIn_redactCategory (h : ¬ category'.pattern.FoundIn result.redacted) :
    ¬ category'.pattern.FoundIn (redactCategory category result).redacted := by
  refine (apart_redactionPieces category result.redacted).not_foundIn marker_ne_nil
    (cored_pattern category') ?_
  rwa [original_redactionPieces]

/-- A pass without matches changes nothing. -/
theorem redactCategory_eq_self (h : ¬ category.pattern.FoundIn result.redacted) :
    redactCategory category result = result := by
  have hnone : replacements (redactionPieces category result.redacted) = [] := by
    refine replacements_of_not_foundIn (scanned_redactionPieces category result.redacted)
      fun before span after htext hmatch ↦ ?_
    rw [original_redactionPieces] at htext
    exact h ⟨before, span, after, htext, hmatch⟩
  rw [redactCategory, hnone, rendered_eq_original hnone, original_redactionPieces]
  rfl

theorem mem_foldl_addCategory {added categories : List RedactionCategory} :
    category ∈ added.foldl addCategory categories ↔ category ∈ categories ∨ category ∈ added := by
  induction added generalizing categories with
  | nil => simp
  | cons first added ih =>
    have hadd : category ∈ addCategory categories first ↔ category ∈ categories ∨
        category = first := by
      rw [addCategory]
      split
      next hmem =>
        refine ⟨.inl, ?_⟩
        rintro (h | rfl)
        · exact h
        · exact hmem
      next => simp
    rw [List.foldl_cons, ih, hadd, List.mem_cons, or_assoc]

/-- The redacted text is the narrative with the replaced spans of the pieces put back. Each of them
is a match of the pattern of its category, and the categories are those of the spans. -/
structure RedactedFrom (raw : JsString) (result : RedactionResult)
    (pieces : List (Piece RedactionCategory UInt16)) : Prop where
  original_eq : original pieces = raw
  rendered_eq : rendered RedactionCategory.marker pieces = result.redacted
  spans : ∀ x ∈ replacements pieces, x.2 ≠ [] ∧ ∃ prev after, x.1.pattern.Matches prev x.2 after
  categories : ∀ category, category ∈ result.categories ↔ ∃ span,
    (category, span) ∈ replacements pieces

/-- What one pass adds to the pieces. -/
theorem RedactedFrom.redactCategory {raw : JsString}
    {pieces : List (Piece RedactionCategory UInt16)}
    (h : RedactedFrom raw result pieces) (category : RedactionCategory) :
    ∃ pieces', RedactedFrom raw (redactCategory category result) pieces' := by
  have hspans : ∀ x ∈ replacements (redactionPieces category result.redacted),
      x.1 = category ∧ x.2 ≠ [] ∧ ∃ prev after, category.pattern.Matches prev x.2 after :=
    fun x hx ↦ (scanned_redactionPieces category result.redacted).matches_of_mem hx
  obtain ⟨pieces', horiginal, hrendered, hmem⟩ := exists_composed marker_ne_nil
    (fun x hx ↦ by
      obtain ⟨-, hne, prev, after, hmatch⟩ := hspans x hx
      exact ⟨hne, fun u hu c hmarker ↦
        not_isNumberUnit_of_mem_marker hmarker (isNumberUnit_of_mem hmatch hu)⟩)
    ((original_redactionPieces category result.redacted).trans h.rendered_eq.symm)
  refine ⟨pieces', horiginal.trans h.original_eq, hrendered, fun x hx ↦ ?_, fun c ↦ ?_⟩
  · rcases (hmem x).mp hx with hx | hx
    · exact h.spans x hx
    · obtain ⟨hcategory, hne, prev, after, hmatch⟩ := hspans x hx
      exact ⟨hne, prev, after, hcategory ▸ hmatch⟩
  · have hfirst : c ∈ (replacements (redactionPieces category result.redacted)).map Prod.fst ↔
        ∃ span, (c, span) ∈ replacements (redactionPieces category result.redacted) := by
      simp
    rw [Nayasetu.redactCategory, mem_foldl_addCategory, h.categories, hfirst]
    simp only [hmem, exists_or]

end Passes

/-- A redacted narrative contains no match. -/
theorem not_foundIn_redacted (raw : JsString) (category : RedactionCategory) :
    ¬ category.pattern.FoundIn (redactIntakeNarrative raw).redacted := by
  cases category with
  | phone =>
    exact not_foundIn_redactCategory (not_foundIn_redactCategory not_foundIn_redactCategory_self)
  | aadhaarShaped => exact not_foundIn_redactCategory not_foundIn_redactCategory_self
  | accountNumber => exact not_foundIn_redactCategory_self

/-- One redaction leaves no match, a second one changes nothing, and what it does is to put markers
in the place of spans. -/
theorem redaction_reaches_fixedPoint (raw : JsString) :
    (∀ category : RedactionCategory,
      ¬ category.pattern.FoundIn (redactIntakeNarrative raw).redacted) ∧
    redactIntakeNarrative (redactIntakeNarrative raw).redacted =
      ⟨(redactIntakeNarrative raw).redacted, []⟩ ∧
    ∃ pieces, RedactedFrom raw (redactIntakeNarrative raw) pieces := by
  refine ⟨not_foundIn_redacted raw, ?_, ?_⟩
  · have hnone := not_foundIn_redacted raw
    generalize (redactIntakeNarrative raw).redacted = redacted at hnone ⊢
    have hsame : ∀ category,
        redactCategory category ⟨redacted, []⟩ = ⟨redacted, []⟩ := fun category ↦
      redactCategory_eq_self (hnone category)
    rw [redactIntakeNarrative, hsame, hsame, hsame]
  · have hraw : RedactedFrom raw ⟨raw, []⟩ (raw.map .kept) := by
      refine ⟨original_map_kept, rendered_map_kept, ?_, ?_⟩
      · rw [replacements_map_kept]
        simp
      · rw [replacements_map_kept]
        simp
    obtain ⟨pieces, hpieces⟩ := hraw.redactCategory .phone
    obtain ⟨pieces, hpieces⟩ := hpieces.redactCategory .aadhaarShaped
    exact hpieces.redactCategory .accountNumber

/-! ## Account numbers

A maximal run of nine to eighteen digits is taken by one of the three patterns, or it touches a
letter or an underscore.
-/

section Runs

variable {category : RedactionCategory} {result : RedactionResult}
  {before run after x y code number first second third separator separator' : JsString}

theorem isDigitUnit_of_isSeparatorUnit {u : UInt16} (h : isSeparatorUnit u = true) :
    isDigitUnit u = false := by
  by_contra hdigit
  have hnot := forall_of_isDigitUnit (P := fun u ↦ isSeparatorUnit u = false) (by decide)
    (Bool.of_not_eq_false hdigit)
  exact Bool.false_ne_true (hnot.symm.trans h)

theorem IsOptionalSeparator.cases_of_maximalRun (h : IsOptionalSeparator separator)
    (hfirst : ∀ u ∈ first, isDigitUnit u = true)
    (hrun : MaximalRun isDigitUnit (first ++ (separator ++ second)) before run after) :
    separator = [] ∨ run = first ∨ ∃ before', MaximalRun isDigitUnit second before' run after := by
  rcases h with rfl | ⟨u, rfl, hu⟩
  · exact .inl rfl
  have hdigit := isDigitUnit_of_isSeparatorUnit hu
  rcases hrun.of_append hfirst hdigit with hrun | ⟨before', hrun⟩
  · exact .inr (.inl hrun)
  · exact .inr (.inr (hrun.of_cons hdigit))

theorem run_of_phone (hcode : IsCountryCode code) (hnumber : IsMobileNumber number)
    (hrun : MaximalRun isDigitUnit (code ++ number) before run after) :
    run.length = 2 ∨ IsMobileNumber run ∨ run.length = 12 := by
  have hwhole : ∀ {before}, MaximalRun isDigitUnit number before run after → IsMobileNumber run :=
    fun h ↦ h.eq_of_forall hnumber.1.2 ▸ hnumber
  rcases hcode with rfl | ⟨plus, separator, rfl, hplus, hseparator⟩
  · exact .inr (.inl (hwhole hrun))
  have hrun' : ∃ before',
      MaximalRun isDigitUnit ([57, 49] ++ (separator ++ number)) before' run after := by
    rcases hplus with rfl | rfl
    · exact ⟨before, hrun⟩
    · exact hrun.of_cons (by decide)
  have hdigits : ∀ u ∈ ([57, 49] : JsString), isDigitUnit u = true :=
    List.all_eq_true.mp (by decide)
  obtain ⟨before', hrun'⟩ := hrun'
  rcases hseparator.cases_of_maximalRun hdigits hrun' with rfl | rfl | ⟨before', hrun'⟩
  · have hall : ∀ u ∈ [57, 49] ++ ([] ++ number), isDigitUnit u = true := by
      intro u hu
      rcases List.mem_append.mp hu with hu | hu
      · exact hdigits u hu
      · exact hnumber.1.2 u hu
    rw [hrun'.eq_of_forall hall]
    exact .inr (.inr (congrArg (· + 2) hnumber.1.1))
  · exact .inl rfl
  · exact .inr (.inl (hwhole hrun'))

theorem IsDigits.append {m n : ℕ} (hfirst : IsDigits m first) (hsecond : IsDigits n second) :
    IsDigits (m + n) (first ++ second) := by
  refine ⟨by rw [List.length_append, hfirst.1, hsecond.1], fun u hu ↦ ?_⟩
  rcases List.mem_append.mp hu with hu | hu
  · exact hfirst.2 u hu
  · exact hsecond.2 u hu

theorem run_of_aadhaarShaped (hfirst : IsDigits 4 first)
    (hseparator : IsOptionalSeparator separator)
    (hsecond : IsDigits 4 second) (hseparator' : IsOptionalSeparator separator')
    (hthird : IsDigits 4 third)
    (hrun : MaximalRun isDigitUnit (first ++ (separator ++ (second ++ (separator' ++ third))))
      before run after) : run.length ≤ 8 ∨ run.length = 12 := by
  -- The runs behind some digits: these, the last group, or both.
  have hlast : ∀ {n digits before}, IsDigits n digits →
      MaximalRun isDigitUnit (digits ++ (separator' ++ third)) before run after →
      run.length = n ∨ run.length = 4 ∨ run.length = n + 4 := by
    intro n digits before hdigits hrun
    rcases hseparator'.cases_of_maximalRun hdigits.2 hrun with rfl | rfl | ⟨before', hrun⟩
    · rw [hrun.eq_of_forall (hdigits.append hthird).2]
      exact .inr (.inr (hdigits.append hthird).1)
    · exact .inl hdigits.1
    · rw [hrun.eq_of_forall hthird.2]
      exact .inr (.inl hthird.1)
  rcases hseparator.cases_of_maximalRun hfirst.2 hrun with rfl | rfl | ⟨before', hrun⟩
  · rw [List.nil_append, ← List.append_assoc] at hrun
    have := hlast (hfirst.append hsecond) hrun
    omega
  · have := hfirst.1
    omega
  · have := hlast hsecond hrun
    omega

/-- A word character stands right beside a run. -/
def TouchesWord (before after : JsString) : Prop :=
  before.getLast?.any isWordUnit = true ∨ after.head?.any isWordUnit = true

theorem run_survives (category : RedactionCategory)
    (h : MaximalRun isDigitUnit result.redacted before run after) (hword : TouchesWord before after)
    (hmin : 9 ≤ run.length) (hmobile : ¬ IsMobileNumber run) (hlength : run.length ≠ 12) :
    ∃ before' after', MaximalRun isDigitUnit (redactCategory category result).redacted
      before' run after' ∧ TouchesWord before' after' := by
  rw [← original_redactionPieces category result.redacted] at h
  rcases (apart_redactionPieces category _).maximalRun_rendered RedactionCategory.marker h with
    ⟨before', after', hrun, hbefore, hafter⟩ | ⟨first, c, x, y, rest, hpieces, rfl, rfl, hrun⟩
  · refine ⟨before', after', hrun, ?_⟩
    rw [TouchesWord, hbefore, hafter]
    exact hword
  · have hscan := scanned_redactionPieces category result.redacted
    rw [hpieces] at hscan
    cases hscan.of_append with
    | replaced hne hmatch hrest =>
      cases category with
      | phone =>
        obtain ⟨-, -, code, number, htext, hcode, hnumber⟩ := matches_phonePattern_iff.mp hmatch
        rw [htext] at hrun
        rcases run_of_phone hcode hnumber hrun with h | h | h
        · omega
        · exact absurd h hmobile
        · exact absurd h hlength
      | aadhaarShaped =>
        obtain ⟨-, -, first, separator, second, separator', third, htext, hfirst,
          hseparator, hsecond, hseparator', hthird⟩ := matches_aadhaarShapedPattern_iff.mp hmatch
        rw [htext] at hrun
        have := run_of_aadhaarShaped hfirst hseparator hsecond hseparator' hthird hrun
        omega
      | accountNumber =>
        -- The run is the whole match, and no word character is right beside it.
        obtain ⟨hprev, hafter, -, -, hdigits⟩ := matches_accountNumberPattern_iff.mp hmatch
        have hlength := congrArg List.length (hrun.eq_of_forall hdigits)
        rw [List.length_append, List.length_append] at hlength
        obtain rfl : x = [] := List.length_eq_zero_iff.mp (by omega)
        obtain rfl : y = [] := List.length_eq_zero_iff.mp (by omega)
        rw [behind_none] at hprev
        rw [TouchesWord, List.append_nil, List.nil_append, hprev, hafter] at hword
        simp at hword

/-- A run of the redacted text is one of the text, between the same units. -/
theorem exists_run_of_redactCategory
    (h : MaximalRun isDigitUnit (redactCategory category result).redacted before run after) :
    ∃ before' after', MaximalRun isDigitUnit result.redacted before' run after' ∧
      before'.getLast? = before.getLast? ∧ after'.head? = after.head? := by
  rw [← original_redactionPieces category result.redacted]
  refine (apart_redactionPieces category _).maximalRun_original marker_ne_nil (fun c u hu ↦ ?_) h
  exact Bool.eq_false_iff.mpr fun hdigit ↦ not_isNumberUnit_of_mem_marker hu (.inl hdigit)

/-- A run between no word characters is an account number if it has the length of one. -/
theorem touchesWord_of_not_foundIn {text : JsString}
    (h : MaximalRun isDigitUnit text before run after)
    (hmin : 9 ≤ run.length) (hmax : run.length ≤ 18) (hnone : ¬ accountNumberPattern.FoundIn text) :
    TouchesWord before after := by
  by_contra hword
  rw [TouchesWord, not_or, Bool.not_eq_true, Bool.not_eq_true] at hword
  refine hnone ⟨before, run, after, h.text_eq, ?_⟩
  rw [matches_accountNumberPattern_iff, behind_none]
  exact ⟨hword.1, hword.2, hmin, hmax, h.forall_mem⟩

theorem foundIn_of_twelve {text : JsString} (h : MaximalRun isDigitUnit text before run after)
    (hlength : run.length = 12) : aadhaarShapedPattern.FoundIn text := by
  refine ⟨before, run, after, h.text_eq, ?_⟩
  have hgroup : ∀ {group : JsString}, group.length = 4 → group ⊆ run → IsDigits 4 group :=
    fun hlength hsubset ↦ ⟨hlength, fun u hu ↦ h.forall_mem u (hsubset hu)⟩
  rw [matches_aadhaarShapedPattern_iff, behind_none]
  refine ⟨h.before_any, h.after_any, run.take 4, [], (run.drop 4).take 4, [], (run.drop 4).drop 4,
    ?_, hgroup ?_ (List.take_subset _ _), .inl rfl,
    hgroup ?_ (List.Subset.trans (List.take_subset _ _) (List.drop_subset _ _)), .inl rfl,
    hgroup ?_ (List.Subset.trans (List.drop_subset _ _) (List.drop_subset _ _))⟩
  · rw [List.nil_append, List.nil_append, List.take_append_drop, List.take_append_drop]
  · rw [List.length_take]
    omega
  · rw [List.length_take, List.length_drop]
    omega
  · rw [List.length_drop, List.length_drop]
    omega

/-- A mobile number is a phone number. -/
theorem foundIn_of_mobile {text : JsString} (h : MaximalRun isDigitUnit text before run after)
    (hmobile : IsMobileNumber run) : phonePattern.FoundIn text := by
  refine ⟨before, run, after, h.text_eq, ?_⟩
  rw [matches_phonePattern_iff, behind_none]
  exact ⟨h.before_any, h.after_any, [], run, rfl, .inl rfl, hmobile⟩

end Runs

/-- No run of 9 to 18 digits of the narrative is a run of the redacted text. -/
def AccountNumbersRedacted (raw : JsString) : Prop :=
  ∀ before run after, MaximalRun isDigitUnit raw before run after → 9 ≤ run.length →
    run.length ≤ 18 → ∀ before' after',
      ¬ MaximalRun isDigitUnit (redactIntakeNarrative raw).redacted before' run after'

/-- Account numbers are redacted unless a word character touches one that is not redacted for
another reason. -/
theorem account_numbers_redacted_iff (raw : JsString) : AccountNumbersRedacted raw ↔
    ∀ before run after, MaximalRun isDigitUnit raw before run after → 9 ≤ run.length →
      run.length ≤ 18 → TouchesWord before after → IsMobileNumber run ∨ run.length = 12 := by
  constructor
  · intro hredacted before run after hrun hmin hmax hword
    by_contra hnone
    obtain ⟨hmobile, hlength⟩ := not_or.mp hnone
    have hraw : MaximalRun isDigitUnit (⟨raw, []⟩ : RedactionResult).redacted before run after :=
      hrun
    obtain ⟨_, _, hrun₁, hword₁⟩ := run_survives .phone hraw hword hmin hmobile hlength
    obtain ⟨_, _, hrun₂, hword₂⟩ := run_survives .aadhaarShaped hrun₁ hword₁ hmin hmobile hlength
    obtain ⟨_, _, hrun₃, -⟩ := run_survives .accountNumber hrun₂ hword₂ hmin hmobile hlength
    exact hredacted before run after hrun hmin hmax _ _ hrun₃
  · intro hcovered before run after hrun hmin hmax before' after' hrun₃
    have hnone := not_foundIn_redacted raw
    have hword := touchesWord_of_not_foundIn hrun₃ hmin hmax (hnone .accountNumber)
    obtain ⟨_, _, hrun₂, hbefore₂, hafter₂⟩ := exists_run_of_redactCategory hrun₃
    obtain ⟨_, _, hrun₁, hbefore₁, hafter₁⟩ := exists_run_of_redactCategory hrun₂
    obtain ⟨_, _, hrun₀, hbefore₀, hafter₀⟩ := exists_run_of_redactCategory hrun₁
    rw [TouchesWord, ← hbefore₂, ← hbefore₁, ← hbefore₀, ← hafter₂, ← hafter₁, ← hafter₀] at hword
    rcases hcovered _ _ _ hrun₀ hmin hmax hword with hmobile | hlength
    · exact hnone .phone (foundIn_of_mobile hrun₃ hmobile)
    · exact hnone .aadhaarShaped (foundIn_of_twelve hrun₃ hlength)

/-- Nine digits behind a letter stay. -/
theorem account_number_survives_letter : ¬ AccountNumbersRedacted (units "A/c x123456789") := by
  intro hredacted
  have hsame : (redactIntakeNarrative (units "A/c x123456789")).redacted =
      units "A/c x123456789" := by
    decide
  have hrun : MaximalRun isDigitUnit (units "A/c x123456789") (units "A/c x")
      (units "123456789") [] :=
    ⟨by decide, by decide, List.all_eq_true.mp (by decide), by decide, by decide⟩
  exact hredacted _ _ _ hrun (by decide) (by decide) _ _ (hsame ▸ hrun)

end Nayasetu
