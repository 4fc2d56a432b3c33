import Mathlib.Data.List.Basic
import Mathlib.Tactic.Common

/-!
# Length-prefixed fields

A buffer is written behind the four bytes of its length, most significant first, so that a sequence
of fields can be told from its bytes: `flatMap_framed_inj`.

Without the lengths the fields of a text could be moved across their borders and leave the same
bytes to be hashed. With them the first field of a buffer, and what is left behind it, can be read
off the buffer (`framed_append_inj`), and so on to its end. A length is taken modulo `2 ^ 32`, so
that this holds for fields that are shorter.
-/

namespace Values

abbrev Bytes := List UInt8

/-- The four bytes of a 32-bit number, most significant first. -/
def uint32BE (n : ℕ) : Bytes :=
  [UInt8.ofNat (n / 16777216), UInt8.ofNat (n / 65536), UInt8.ofNat (n / 256), UInt8.ofNat n]

def framed (bytes : Bytes) : Bytes := uint32BE bytes.length ++ bytes

theorem mod_eq_of_ofNat_eq {m n : ℕ} (h : UInt8.ofNat m = UInt8.ofNat n) : m % 256 = n % 256 := by
  have h := congrArg UInt8.toNat h
  rwa [UInt8.toNat_ofNat', UInt8.toNat_ofNat'] at h

/-- Different lengths have different prefixes. -/
theorem uint32BE_inj {m n : ℕ} (hm : m < 4294967296) (hn : n < 4294967296)
    (h : uint32BE m = uint32BE n) : m = n := by
  rw [uint32BE, uint32BE, List.cons.injEq, List.cons.injEq, List.cons.injEq, List.cons.injEq] at h
  obtain ⟨h3, h2, h1, h0, -⟩ := h
  have h3 := mod_eq_of_ofNat_eq h3
  have h2 := mod_eq_of_ofNat_eq h2
  have h1 := mod_eq_of_ofNat_eq h1
  have h0 := mod_eq_of_ofNat_eq h0
  omega

theorem framed_ne_nil (bytes : Bytes) : framed bytes ≠ [] := by
  rw [framed, uint32BE]
  exact List.cons_ne_nil _ _

/-- The length says where a field ends. -/
theorem framed_append_inj {a b r s : Bytes} (ha : a.length < 4294967296)
    (hb : b.length < 4294967296) (h : framed a ++ r = framed b ++ s) : a = b ∧ r = s := by
  rw [framed, framed, List.append_assoc, List.append_assoc] at h
  obtain ⟨hlength, hrest⟩ := List.append_inj h rfl
  exact List.append_inj hrest (uint32BE_inj ha hb hlength)

/-- A sequence of fields can be told from its bytes. -/
theorem flatMap_framed_inj {l l' : List Bytes} (hl : ∀ b ∈ l, b.length < 4294967296)
    (hl' : ∀ b ∈ l', b.length < 4294967296) (h : l.flatMap framed = l'.flatMap framed) :
    l = l' := by
  induction l generalizing l' with
  | nil =>
    cases l' with
    | nil => rfl
    | cons b l' =>
      rw [List.flatMap_nil, List.flatMap_cons] at h
      exact absurd (List.append_eq_nil_iff.mp h.symm).1 (framed_ne_nil b)
  | cons a l ih =>
    cases l' with
    | nil =>
      rw [List.flatMap_nil, List.flatMap_cons] at h
      exact absurd (List.append_eq_nil_iff.mp h).1 (framed_ne_nil a)
    | cons b l' =>
      rw [List.flatMap_cons, List.flatMap_cons] at h
      rw [List.forall_mem_cons] at hl hl'
      obtain ⟨rfl, hrest⟩ := framed_append_inj hl.1 hl'.1 h
      rw [ih hl.2 hl'.2 hrest]

def utf8 (text : String) : Bytes := text.toUTF8.data.toList

theorem utf8_inj {s t : String} (h : utf8 s = utf8 t) : s = t := by
  rw [utf8, utf8, Array.toList_inj] at h
  exact String.toByteArray_inj.mp (ByteArray.ext h)

end Values
