import Mathlib.Algebra.Ring.Nat
import Mathlib.Data.List.Basic
import Mathlib.Tactic.Common

/-!
# Hexadecimal texts

The texts of identifiers of 128 bits and of buffers.

An identifier prints as groups of hexadecimal digits with fixed widths, so its text has 36
characters and no other identifier shares it. A buffer prints as two digits for every byte.
-/

namespace Values

/-- The last `width` hexadecimal digits of `n`. -/
def hexPadded : ℕ → ℕ → List Char
  | 0, _ => []
  | width + 1, n => hexPadded width (n / 16) ++ [(n % 16).digitChar]

@[simp] theorem length_hexPadded (width n : ℕ) : (hexPadded width n).length = width := by
  induction width generalizing n with
  | zero => rfl
  | succ width ih => rw [hexPadded, List.length_append, ih, List.length_singleton]

theorem hexPadded_inj {width m n : ℕ} (hm : m < 16 ^ width) (hn : n < 16 ^ width)
    (h : hexPadded width m = hexPadded width n) : m = n := by
  have hdigit : ∀ a < 16, ∀ b < 16, Nat.digitChar a = Nat.digitChar b → a = b := by decide
  induction width generalizing m n with
  | zero => omega
  | succ width ih =>
    rw [hexPadded, hexPadded] at h
    obtain ⟨hinit, hlast⟩ := List.append_inj h (by simp)
    rw [pow_succ] at hm hn
    have hquot := ih (Nat.div_lt_of_lt_mul (by omega)) (Nat.div_lt_of_lt_mul (by omega)) hinit
    have hrem := hdigit _ (Nat.mod_lt m (by decide)) _ (Nat.mod_lt n (by decide))
      (List.singleton_inj.mp hlast)
    omega

/-- A `uuid`. -/
structure Uuid where
  value : ℕ
  bounded : value < 2 ^ 128
  deriving DecidableEq, Repr

/-- The text of a `uuid`. -/
def Uuid.text (id : Uuid) : List Char :=
  hexPadded 8 (id.value / 16 ^ 24) ++ '-' :: hexPadded 4 (id.value / 16 ^ 20) ++
    '-' :: hexPadded 4 (id.value / 16 ^ 16) ++ '-' :: hexPadded 4 (id.value / 16 ^ 12) ++
      '-' :: hexPadded 12 id.value

@[simp] theorem Uuid.length_text (id : Uuid) : id.text.length = 36 := by
  rw [Uuid.text]
  simp

def hexText (bytes : List UInt8) : List Char := bytes.flatMap fun byte ↦ hexPadded 2 byte.toNat

theorem length_hexText (bytes : List UInt8) : (hexText bytes).length = 2 * bytes.length := by
  induction bytes with
  | nil => rfl
  | cons byte bytes ih =>
    rw [hexText, List.flatMap_cons, List.length_append, ← hexText, ih, length_hexPadded,
      List.length_cons]
    omega

theorem hexText_inj {bytes bytes' : List UInt8} (h : hexText bytes = hexText bytes') :
    bytes = bytes' := by
  have hlength : bytes.length = bytes'.length := by
    have := congrArg List.length h
    rw [length_hexText, length_hexText] at this
    omega
  induction bytes generalizing bytes' with
  | nil => exact (List.eq_nil_of_length_eq_zero hlength.symm).symm
  | cons byte bytes ih =>
    obtain ⟨byte', bytes', rfl⟩ := List.exists_cons_of_length_eq_add_one hlength.symm
    rw [hexText, hexText, List.flatMap_cons, List.flatMap_cons] at h
    obtain ⟨hfirst, hrest⟩ := List.append_inj h (by simp)
    have hbyte := hexPadded_inj byte.toNat_lt byte'.toNat_lt hfirst
    rw [UInt8.toNat_inj.mp hbyte, ih hrest (Nat.succ.inj hlength)]

example : String.ofList (Uuid.text ⟨0x0123456789abcdef0123456789abcdef, by decide⟩) =
    "01234567-89ab-cdef-0123-456789abcdef" := by decide

end Values
