import Nayasetu.Values.CodeUnits
import Nayasetu.Values.Decimal

/-!
# Buffers of strings

The bytes of a string and the base64url text of bytes. A lone surrogate has the bytes of the
replacement character, so that different strings can have the same bytes; a string of ASCII shares
its bytes with no other (`bytesOf_inj`).

`Buffer.from(text, 'utf8')` walks over the code units and pairs a high surrogate with the low one
behind it. What cannot be paired is written as `U+FFFD`, which is itself a character that a string
may contain. The encoding is therefore no injection, and a signature over the bytes of a string
does not determine the string unless its characters are known to be harmless.
-/

namespace Values

/-- The first half of a surrogate pair. -/
def isHighSurrogate (u : UInt16) : Bool := decide (0xD800 ≤ u.toNat ∧ u.toNat < 0xDC00)

/-- The second half of a surrogate pair. -/
def isLowSurrogate (u : UInt16) : Bool := decide (0xDC00 ≤ u.toNat ∧ u.toNat < 0xE000)

def unitBytes (u : UInt16) : List UInt8 :=
  let n := u.toNat
  if n < 0x80 then [UInt8.ofNat n]
  else if n < 0x800 then [UInt8.ofNat (0xC0 + n / 0x40), UInt8.ofNat (0x80 + n % 0x40)]
  else if 0xD800 ≤ n ∧ n < 0xE000 then [0xEF, 0xBF, 0xBD]
  else [UInt8.ofNat (0xE0 + n / 0x1000), UInt8.ofNat (0x80 + n / 0x40 % 0x40),
    UInt8.ofNat (0x80 + n % 0x40)]

def pairBytes (high low : UInt16) : List UInt8 :=
  let n := 0x10000 + (high.toNat - 0xD800) * 0x400 + (low.toNat - 0xDC00)
  [UInt8.ofNat (0xF0 + n / 0x40000), UInt8.ofNat (0x80 + n / 0x1000 % 0x40),
    UInt8.ofNat (0x80 + n / 0x40 % 0x40), UInt8.ofNat (0x80 + n % 0x40)]

/-- `Buffer.from(text)`: UTF-8. -/
def bytesOf : JsString → List UInt8
  | [] => []
  | [u] => unitBytes u
  | u :: v :: text =>
    if isHighSurrogate u ∧ isLowSurrogate v then pairBytes u v ++ bytesOf text
    else unitBytes u ++ bytesOf (v :: text)

def base64urlDigits : JsString :=
  units "ABCDEFGHIJKLMNOPQRSTUVWXYZabcdefghijklmnopqrstuvwxyz0123456789-_"

def base64urlUnit (n : ℕ) : UInt16 := base64urlDigits.getD n 95

/-- `digest("base64url")`. -/
def base64url : List UInt8 → JsString
  | [] => []
  | [a] => [base64urlUnit (a.toNat / 4), base64urlUnit (a.toNat % 4 * 16)]
  | [a, b] => [base64urlUnit (a.toNat / 4), base64urlUnit (a.toNat % 4 * 16 + b.toNat / 16),
      base64urlUnit (b.toNat % 16 * 4)]
  | a :: b :: c :: bytes => base64urlUnit (a.toNat / 4) ::
      base64urlUnit (a.toNat % 4 * 16 + b.toNat / 16) ::
      base64urlUnit (b.toNat % 16 * 4 + c.toNat / 64) :: base64urlUnit (c.toNat % 64) ::
      base64url bytes

/-- A property of all digits. -/
theorem forall_base64urlUnit {P : UInt16 → Prop} [DecidablePred P]
    (h : base64urlDigits.all (fun u ↦ decide (P u)) = true) (n : ℕ) : P (base64urlUnit n) := by
  have hmem : base64urlUnit n ∈ base64urlDigits := by
    rw [base64urlUnit, List.getD_eq_getElem?_getD]
    cases hget : base64urlDigits[n]? with
    | none => decide
    | some u => exact List.mem_of_getElem? hget
  exact of_decide_eq_true (List.all_eq_true.mp h _ hmem)

theorem forall_mem_base64url {P : UInt16 → Prop} [DecidablePred P]
    (h : base64urlDigits.all (fun u ↦ decide (P u)) = true) {bytes : List UInt8} :
    ∀ u ∈ base64url bytes, P u := by
  induction bytes using base64url.induct with
  | case1 => simp [base64url]
  | case2 a => simp [base64url, forall_base64urlUnit h]
  | case3 a b => simp [base64url, forall_base64urlUnit h]
  | case4 a b c bytes ih =>
    simp only [base64url, List.forall_mem_cons]
    exact ⟨forall_base64urlUnit h _, forall_base64urlUnit h _, forall_base64urlUnit h _,
      forall_base64urlUnit h _, ih⟩

theorem base64url_ne_nil {bytes : List UInt8} (h : bytes ≠ []) : base64url bytes ≠ [] := by
  cases bytes using base64url.induct with
  | case1 => exact absurd rfl h
  | case2 | case3 | case4 => simp [base64url]

/-! ## Strings of ASCII

Every unit outside of ASCII leaves a byte that no unit of ASCII leaves (`exists_byte_of_unit`), so
a string that has the bytes of one of ASCII has no such unit, and both are read off their bytes.
-/

theorem bytesOf_ascii {text : JsString} (h : ∀ u ∈ text, u.toNat < 0x80) :
    bytesOf text = text.map fun u ↦ UInt8.ofNat u.toNat := by
  induction text using bytesOf.induct with
  | case1 => rfl
  | case2 u =>
    rw [List.forall_mem_singleton] at h
    simp [bytesOf, unitBytes, h]
  | case3 u v text hpair ih =>
    have hu := h u List.mem_cons_self
    rw [isHighSurrogate, decide_eq_true_iff] at hpair
    omega
  | case4 u v text hpair ih =>
    rw [List.forall_mem_cons] at h
    rw [bytesOf, if_neg hpair, ih h.2, unitBytes, if_pos h.1]
    rfl

theorem exists_byte_of_le {u : UInt16} (h : 0x80 ≤ u.toNat) :
    ∃ b ∈ unitBytes u, 0x80 ≤ b.toNat := by
  have hu := u.toNat_lt
  simp only [unitBytes]
  rw [if_neg (by omega)]
  split
  · refine ⟨_, List.mem_cons_self, ?_⟩
    rw [UInt8.toNat_ofNat']
    omega
  · split
    · exact ⟨_, List.mem_cons_self, by decide⟩
    · refine ⟨_, List.mem_cons_self, ?_⟩
      rw [UInt8.toNat_ofNat']
      omega

theorem exists_byte_of_pair {u v : UInt16} (hu : isHighSurrogate u = true) :
    ∃ b ∈ pairBytes u v, 0x80 ≤ b.toNat := by
  have hrange := of_decide_eq_true hu
  have hv := v.toNat_lt
  refine ⟨_, List.mem_cons_self, ?_⟩
  rw [UInt8.toNat_ofNat']
  omega

/-- A unit outside of ASCII leaves a byte outside of ASCII. -/
theorem exists_byte_of_unit {w : UInt16} {text : JsString} (hw : w ∈ text) (h : 0x80 ≤ w.toNat) :
    ∃ b ∈ bytesOf text, 0x80 ≤ b.toNat := by
  induction text using bytesOf.induct with
  | case1 => exact absurd hw List.not_mem_nil
  | case2 u =>
    rw [List.mem_singleton.mp hw] at h
    exact exists_byte_of_le h
  | case3 u v text hpair ih =>
    obtain ⟨b, hb, hbyte⟩ := exists_byte_of_pair (v := v) hpair.1
    rw [bytesOf, if_pos hpair]
    exact ⟨b, List.mem_append_left _ hb, hbyte⟩
  | case4 u v text hpair ih =>
    rw [bytesOf, if_neg hpair]
    rcases List.mem_cons.mp hw with rfl | hw
    · obtain ⟨b, hb, hbyte⟩ := exists_byte_of_le h
      exact ⟨b, List.mem_append_left _ hb, hbyte⟩
    · obtain ⟨b, hb, hbyte⟩ := ih hw
      exact ⟨b, List.mem_append_right _ hb, hbyte⟩

theorem map_ofNat_inj {text ascii : JsString} (htext : ∀ u ∈ text, u.toNat < 0x80)
    (hascii : ∀ u ∈ ascii, u.toNat < 0x80)
    (h : (text.map fun u ↦ UInt8.ofNat u.toNat) = ascii.map fun u ↦ UInt8.ofNat u.toNat) :
    text = ascii := by
  induction text generalizing ascii with
  | nil => exact (List.map_eq_nil_iff.mp h.symm).symm
  | cons u text ih =>
    cases ascii with
    | nil => cases h
    | cons v ascii =>
      rw [List.forall_mem_cons] at htext hascii
      obtain ⟨hhead, htail⟩ := List.cons.inj h
      have hbyte := congrArg UInt8.toNat hhead
      rw [UInt8.toNat_ofNat', UInt8.toNat_ofNat'] at hbyte
      have huv : u = v := UInt16.toNat_inj.mp (by omega)
      rw [huv, ih htext.2 hascii.2 htail]

theorem bytesOf_inj {text ascii : JsString} (hascii : ∀ u ∈ ascii, u.toNat < 0x80)
    (h : bytesOf text = bytesOf ascii) : text = ascii := by
  have htext : ∀ u ∈ text, u.toNat < 0x80 := by
    intro u hu
    by_contra hlarge
    obtain ⟨b, hb, hbyte⟩ := exists_byte_of_unit hu (not_lt.mp hlarge)
    rw [h, bytesOf_ascii hascii] at hb
    obtain ⟨v, hv, rfl⟩ := List.mem_map.mp hb
    have := hascii v hv
    rw [UInt8.toNat_ofNat'] at hbyte
    omega
  rw [bytesOf_ascii htext, bytesOf_ascii hascii] at h
  exact map_ofNat_inj htext hascii h

end Values
