import Mathlib.Data.List.Basic
import Mathlib.Data.List.TakeWhile
import Mathlib.Tactic.Common
import Mathlib.Tactic.IntervalCases

/-!
# Strings of code units

The strings of JavaScript: any sequence of 16-bit code units, well-formed as text or not. Lengths,
splitting, trimming and the classes of characters that patterns use are all about code units.

A string of the program may hold half of a surrogate pair, and a length counts units, not
characters. Texts of the model's own are turned into units by `units`, which loses nothing
(`units_inj`). The classes of units are the ones the engine's patterns and its `trim` use: digits
and word characters are those of ASCII, and white space is the list of the standard, with the
separators of Unicode and the byte order mark.
-/

namespace Values

abbrev JsString := List UInt16

/-- The code units of a character: one, or a surrogate pair. -/
def charUnits (c : Char) : JsString :=
  if c.toNat < 0x10000 then [UInt16.ofNat c.toNat]
  else [UInt16.ofNat (0xD800 + (c.toNat - 0x10000) / 0x400),
    UInt16.ofNat (0xDC00 + (c.toNat - 0x10000) % 0x400)]

/-- A literal. -/
def units (text : String) : JsString := text.toList.flatMap charUnits

/-- The first character can be told from the units. -/
theorem charUnits_append_inj {c d : Char} {s t : JsString}
    (h : charUnits c ++ s = charUnits d ++ t) : c = d ∧ s = t := by
  have hvalid (e : Char) : e.toNat < 0xD800 ∨ (0xDFFF < e.toNat ∧ e.toNat < 0x110000) := e.valid
  have hnat {m n : ℕ} (hm : m < 65536) (hn : n < 65536) (heq : UInt16.ofNat m = UInt16.ofNat n) :
      m = n := by
    have := congrArg UInt16.toNat heq
    rwa [UInt16.toNat_ofNat_of_lt' hm, UInt16.toNat_ofNat_of_lt' hn] at this
  have hc := hvalid c
  have hd := hvalid d
  rw [charUnits, charUnits] at h
  by_cases hc' : c.toNat < 0x10000 <;> by_cases hd' : d.toNat < 0x10000
  · rw [if_pos hc', if_pos hd'] at h
    obtain ⟨hunit, hrest⟩ := List.cons.inj h
    exact ⟨Char.toNat_inj.mp (hnat hc' hd' hunit), hrest⟩
  · rw [if_pos hc', if_neg hd'] at h
    have := hnat hc' (by omega) (List.cons.inj h).1
    omega
  · rw [if_neg hc', if_pos hd'] at h
    have := hnat (by omega) hd' (List.cons.inj h).1
    omega
  · rw [if_neg hc', if_neg hd'] at h
    obtain ⟨hpair, hrest⟩ := List.append_inj h (by simp)
    rw [List.cons.injEq, List.cons.injEq] at hpair
    have hlead := hnat (by omega) (by omega) hpair.1
    have htrail := hnat (by omega) (by omega) hpair.2.1
    exact ⟨Char.toNat_inj.mp (by omega), hrest⟩

/-- Different texts have different units. -/
theorem units_inj {s t : String} (h : units s = units t) : s = t := by
  have hlist {cs ds : List Char} (h : cs.flatMap charUnits = ds.flatMap charUnits) : cs = ds := by
    have hne (c : Char) : charUnits c ≠ [] := by
      rw [charUnits]
      split <;> exact List.cons_ne_nil _ _
    induction cs generalizing ds with
    | nil =>
      cases ds with
      | nil => rfl
      | cons d ds =>
        rw [List.flatMap_nil, List.flatMap_cons] at h
        exact absurd (List.append_eq_nil_iff.mp h.symm).1 (hne d)
    | cons c cs ih =>
      cases ds with
      | nil =>
        rw [List.flatMap_nil, List.flatMap_cons] at h
        exact absurd (List.append_eq_nil_iff.mp h).1 (hne c)
      | cons d ds =>
        rw [List.flatMap_cons, List.flatMap_cons] at h
        obtain ⟨rfl, hrest⟩ := charUnits_append_inj h
        rw [ih hrest]
  exact String.toList_inj.mp (hlist h)

/-- `\d`: `0` to `9`. -/
def isDigitUnit (u : UInt16) : Bool := decide (48 ≤ u ∧ u ≤ 57)

/-- `\w`: a digit, a letter of ASCII or `_`. -/
def isWordUnit (u : UInt16) : Bool :=
  isDigitUnit u || decide (65 ≤ u ∧ u ≤ 90) || decide (97 ≤ u ∧ u ≤ 122) || decide (u = 95)

/-- `\s`, and what `trim` removes: white space and line terminators. -/
def isSpaceUnit (u : UInt16) : Bool :=
  decide (u ∈ [0x9, 0xA, 0xB, 0xC, 0xD, 0x20, 0xA0, 0x1680, 0x2028, 0x2029, 0x202F, 0x205F, 0x3000,
    0xFEFF] ∨ 0x2000 ≤ u ∧ u ≤ 0x200A)

/-- `text.trim()`. -/
def trim (text : JsString) : JsString :=
  ((text.dropWhile isSpaceUnit).reverse.dropWhile isSpaceUnit).reverse

/-- `text.split(",")` and the like. -/
def split (separator : UInt16) (text : JsString) : List JsString := text.splitOn separator

theorem isWordUnit_of_isDigitUnit {u : UInt16} (h : isDigitUnit u = true) :
    isWordUnit u = true := by
  simp [isWordUnit, h]

theorem forall_of_isDigitUnit {P : UInt16 → Prop} [DecidablePred P]
    (h : ([48, 49, 50, 51, 52, 53, 54, 55, 56, 57] : JsString).all (fun u ↦ decide (P u)) = true)
    {u : UInt16} (hu : isDigitUnit u = true) : P u := by
  have hmem : u ∈ ([48, 49, 50, 51, 52, 53, 54, 55, 56, 57] : JsString) := by
    obtain ⟨hlow, hhigh⟩ := of_decide_eq_true hu
    have hlow' : 48 ≤ u.toNat := hlow
    have hhigh' : u.toNat ≤ 57 := hhigh
    rw [← UInt16.ofNat_toNat (x := u)]
    interval_cases u.toNat <;> decide
  exact of_decide_eq_true (List.all_eq_true.mp h u hmem)

theorem trim_eq_nil_iff {text : JsString} : trim text = [] ↔ ∀ u ∈ text, isSpaceUnit u = true := by
  rw [trim, List.reverse_eq_nil_iff, List.dropWhile_eq_nil_iff]
  constructor
  · intro h u hu
    rw [← List.takeWhile_append_dropWhile (p := isSpaceUnit) (l := text)] at hu
    rcases List.mem_append.mp hu with hu | hu
    · exact List.mem_takeWhile_imp hu
    · exact h u (List.mem_reverse.mpr hu)
  · intro h u hu
    exact h u ((List.dropWhile_sublist _).subset (List.mem_reverse.mp hu))

theorem trim_eq_self {text : JsString} (h : ∀ u ∈ text, isSpaceUnit u = false) :
    trim text = text := by
  have hkeep : ∀ {l : JsString}, (∀ u ∈ l, isSpaceUnit u = false) →
      l.dropWhile isSpaceUnit = l := by
    intro l hl
    cases l with
    | nil => rfl
    | cons u l =>
      rw [List.dropWhile_cons_of_neg]
      rw [hl u List.mem_cons_self]
      exact Bool.false_ne_true
  rw [trim, hkeep h, hkeep fun u hu ↦ h u (List.mem_reverse.mp hu), List.reverse_reverse]

theorem not_mem_of_mem_split {separator : UInt16} {text part : JsString}
    (h : part ∈ split separator text) : separator ∉ part := by
  induction text generalizing part with
  | nil =>
    rw [split, List.splitOn_nil, List.mem_singleton] at h
    rw [h]
    exact List.not_mem_nil
  | cons u text ih =>
    rw [split, List.splitOn_cons_eq_if_modifyHead] at h
    split at h
    next =>
      rcases List.mem_cons.mp h with rfl | h
      · exact List.not_mem_nil
      · exact ih h
    next hne =>
      obtain ⟨first, rest, hsplit⟩ :=
        List.exists_cons_of_ne_nil (List.splitOn_ne_nil separator text)
      rw [hsplit, List.modifyHead_cons] at h
      have hmem : ∀ p ∈ first :: rest, separator ∉ p := fun p hp ↦ ih (by rwa [split, hsplit])
      rcases List.mem_cons.mp h with rfl | h
      · rw [List.mem_cons, not_or]
        refine ⟨fun heq ↦ hne ?_, hmem first List.mem_cons_self⟩
        rw [heq, beq_self_eq_true]
      · exact hmem part (List.mem_cons_of_mem _ h)

theorem split_eq_iff {separator : UInt16} {text : JsString} {parts : List JsString}
    (hparts : parts ≠ []) : split separator text = parts ↔
      (∀ part ∈ parts, separator ∉ part) ∧ text = [separator].intercalate parts := by
  constructor
  · rintro rfl
    exact ⟨fun part h ↦ not_mem_of_mem_split h, (List.intercalate_splitOn separator).symm⟩
  · rintro ⟨hfree, rfl⟩
    exact List.splitOn_intercalate separator hfree hparts

end Values
