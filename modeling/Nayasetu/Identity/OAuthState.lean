import Nayasetu.Ledger.HashChain
import Nayasetu.Values.Buffers
import Nayasetu.Values.JsNumber

/-!
# The state of an authorization request

The state that travels with a Google sign-in: a nonce, the time it was issued and a keyed hash of
both. It is accepted only as it was signed, and only for so long: `oauthState_accepts_signed`.

The hash is a parameter, any function from a key and a text to 32 bytes.

A state is three parts with points between them. A nonce that contains a point makes more parts,
and such a state is refused although it was signed; those the service makes have none. The time is
read back by `Number`, so that the window is checked on doubles.
-/

namespace Nayasetu

open Values JsNumber

/-- What SHA-256 gives. -/
abbrev Digest := { bytes : List UInt8 // bytes.length = 32 }

abbrev JsInteger := { n : ℤ // JsNumber.round (n : ℚ) = .finite n }

section State

/- `createHmac("sha256", pepper).update(payload)`. -/
variable (hmacSha256 : JsString → JsString → Digest)

/-- `createHmac("sha256", pepper).update(payload).digest("base64url")`. -/
def stateSignature (payload pepper : JsString) : JsString :=
  base64url (hmacSha256 pepper payload).val

/-- `` `${nonce}.${issuedAtMs}` ``. -/
def statePayload (nonce issuedAtMs : JsString) : JsString := nonce ++ 46 :: issuedAtMs

/-- `signOAuthState`. -/
def signOAuthState (nonce : JsString) (issuedAtMs : JsInteger) (pepper : JsString) : JsString :=
  let payload := statePayload nonce (numberText issuedAtMs)
  payload ++ 46 :: stateSignature hmacSha256 payload pepper

/-- `verifyOAuthState`, at the time `Date.now()` gives. -/
def verifyOAuthState (state pepper : JsString) (maxAgeMs now : JsNumber) : Bool :=
  match split 46 state with
  | [nonce, issuedAtMs, signature] =>
    if nonce = [] ∨ issuedAtMs = [] ∨ signature = [] then false
    else
      let expected := stateSignature hmacSha256 (statePayload nonce issuedAtMs) pepper
      if (bytesOf signature).length ≠ (bytesOf expected).length ∨
          bytesOf signature ≠ bytesOf expected then false
      else
        let issuedAt := toNumber issuedAtMs
        if !issuedAt.isFinite then false
        else if now.lt (issuedAt.sub (.finite 60000)) then false
        else (now.sub issuedAt).le maxAgeMs
  | _ => false

variable {hmacSha256} {state nonce issuedAtMs pepper : JsString} {maxAgeMs now : JsNumber}

theorem forall_mem_stateSignature {P : UInt16 → Prop} [DecidablePred P]
    (h : base64urlDigits.all (fun u ↦ decide (P u)) = true) {payload : JsString} :
    ∀ u ∈ stateSignature hmacSha256 payload pepper, P u := forall_mem_base64url h

theorem stateSignature_ne_nil {payload : JsString} :
    stateSignature hmacSha256 payload pepper ≠ [] := by
  refine base64url_ne_nil fun hnil ↦ ?_
  have hlength := (hmacSha256 pepper payload).property
  rw [hnil] at hlength
  cases hlength

/-- The bytes of a signature are compared, which says that it is the same text. -/
theorem eq_stateSignature {payload signature : JsString}
    (h : bytesOf signature = bytesOf (stateSignature hmacSha256 payload pepper)) :
    signature = stateSignature hmacSha256 payload pepper :=
  bytesOf_inj (forall_mem_stateSignature (P := fun u ↦ u.toNat < 0x80) (by decide)) h

/-- An accepted state is a payload of two parts and its signature. -/
theorem exists_payload_of_verify
    (h : verifyOAuthState hmacSha256 state pepper maxAgeMs now = true) :
    ∃ nonce issuedAtMs, nonce ≠ [] ∧ 46 ∉ nonce ∧ issuedAtMs ≠ [] ∧ 46 ∉ issuedAtMs ∧
      state = statePayload nonce issuedAtMs ++
        46 :: stateSignature hmacSha256 (statePayload nonce issuedAtMs) pepper := by
  rw [verifyOAuthState] at h
  split at h
  next nonce issuedAtMs signature hsplit =>
    obtain ⟨hfree, hstate⟩ := (split_eq_iff (by simp)).mp hsplit
    simp only [List.forall_mem_cons] at hfree
    split at h
    next => cases h
    next hpresent =>
      simp only [not_or] at hpresent
      dsimp only at h
      split at h
      next => cases h
      next hsame =>
        simp only [not_or, not_not] at hsame
        refine ⟨nonce, issuedAtMs, hpresent.1, hfree.1, hpresent.2.1, hfree.2.1, ?_⟩
        rw [← eq_stateSignature hsame.2, hstate]
        simp [List.intercalate, statePayload]
  next => cases h

theorem numberText_ne_nil (n : ℤ) : numberText n ≠ [] := by
  obtain ⟨u, text, htext, -⟩ := naturalText_eq_cons n.natAbs
  rw [numberText, htext]
  split <;> simp

/-- A state falls into its parts if its time is printed without a point. -/
theorem split_signOAuthState {issuedAt : JsInteger} (hnonce : 46 ∉ nonce)
    (hpoint : 46 ∉ numberText issuedAt) :
    split 46 (signOAuthState hmacSha256 nonce issuedAt pepper) =
      [nonce, numberText issuedAt,
        stateSignature hmacSha256 (statePayload nonce (numberText issuedAt)) pepper] := by
  refine (split_eq_iff (by simp)).mpr ⟨?_, by simp [signOAuthState, statePayload, List.intercalate]⟩
  simp only [List.forall_mem_cons]
  refine ⟨hnonce, hpoint, fun hmem ↦ ?_, by simp⟩
  exact forall_mem_stateSignature (P := fun u ↦ u ≠ 46) (by decide) 46 hmem rfl

/-- A state whose time is printed with a point has too many parts. -/
theorem not_verify_of_point {issuedAt : JsInteger} (hpoint : 46 ∈ numberText issuedAt) :
    verifyOAuthState hmacSha256 (signOAuthState hmacSha256 nonce issuedAt pepper)
      pepper maxAgeMs now ≠
      true := by
  intro h
  obtain ⟨nonce', issuedAt', -, hnonce', -, hissued', hstate⟩ := exists_payload_of_verify h
  have hsignature : ∀ payload, (stateSignature hmacSha256 payload pepper).count 46 = 0 :=
    fun payload ↦ List.count_eq_zero.mpr fun hmem ↦
      forall_mem_stateSignature (P := fun u ↦ u ≠ 46) (by decide) 46 hmem rfl
  have hcount := congrArg (List.count 46) hstate
  simp only [signOAuthState, statePayload, List.count_append, List.count_cons_self, hsignature,
    List.count_eq_zero.mpr hnonce', List.count_eq_zero.mpr hissued'] at hcount
  have hpositive := List.count_pos_iff.mpr hpoint
  omega

theorem large_of_point {issuedAt : JsInteger} (hpoint : 46 ∈ numberText issuedAt) :
    2 ^ 69 ≤ issuedAt.val.natAbs := by
  have hdecimal := le_shortestDecimal_of_point (point_mem_numberText_iff.mp hpoint)
  have hround := roundMagnitude_shortestDecimal (round_intCast_eq_iff.mp issuedAt.property)
  have hle := pow_log2_le_of_roundMagnitude (le_trans (by norm_num) hdecimal) hround
  have hlog : 69 ≤ Nat.log2 (shortestDecimal issuedAt.val.natAbs) :=
    (Nat.le_log2 (by omega)).mpr (le_trans (by norm_num) hdecimal)
  have hpow : (2 : ℚ) ^ 69 ≤ 2 ^ Nat.log2 (shortestDecimal issuedAt.val.natAbs) :=
    pow_le_pow_right₀ (by norm_num) hlog
  exact_mod_cast hpow.trans hle

/-- What is left of the test once the state has fallen into its parts. -/
theorem verifyOAuthState_signed {issuedAt : JsInteger} (hne : nonce ≠ []) (hnonce : 46 ∉ nonce)
    (hpoint : 46 ∉ numberText issuedAt) :
    verifyOAuthState hmacSha256 (signOAuthState hmacSha256 nonce issuedAt pepper)
      pepper maxAgeMs now = if now.lt (JsNumber.round ((issuedAt.val : ℚ) - 60000)) then false
      else (now.sub (.finite issuedAt.val)).le maxAgeMs := by
  rw [verifyOAuthState, split_signOAuthState hnonce hpoint]
  simp only [hne, numberText_ne_nil, stateSignature_ne_nil, false_or, if_false, ne_eq, not_true,
    toNumber_numberText issuedAt.property, isFinite, Bool.not_true, Bool.false_eq_true, sub]

/-- The two comparisons are those of the window. -/
theorem window_iff {issuedAt : ℤ} {maxAge : ℚ} {now : JsDate} (hmaxAge : maxAge < 2 ^ 53) :
    (if JsNumber.lt (.finite now.ms) (JsNumber.round ((issuedAt : ℚ) - 60000)) then false
      else (JsNumber.sub (.finite now.ms) (.finite issuedAt)).le (.finite maxAge)) = true ↔
      issuedAt - 60000 ≤ now.ms ∧ (now.ms : ℚ) ≤ issuedAt + maxAge := by
  have hnow := now.bounded
  have hearly : ((issuedAt : ℚ) - 60000) = ((issuedAt - 60000 : ℤ) : ℚ) := by push_cast; rfl
  have hage : ((now.ms : ℚ) - issuedAt) = ((now.ms - issuedAt : ℤ) : ℚ) := by push_cast; rfl
  rw [hearly, lt_round_intCast (by omega)]
  simp only [sub, hage, decide_eq_true_eq]
  split
  next hlt =>
    simp only [Bool.false_eq_true, false_iff, not_and]
    intro hle
    omega
  next hle =>
    rw [round_intCast_le hmaxAge (by omega), decide_eq_true_iff]
    push_cast
    constructor
    · intro h
      exact ⟨by omega, by linarith⟩
    · rintro ⟨-, h⟩
      linarith

theorem not_window_of_large {issuedAt : ℤ} {maxAge : ℚ} {now : JsDate} (hmaxAge : maxAge < 2 ^ 53)
    (hlarge : 2 ^ 69 ≤ issuedAt.natAbs) :
    ¬ (issuedAt - 60000 ≤ now.ms ∧ (now.ms : ℚ) ≤ issuedAt + maxAge) := by
  rintro ⟨hearly, hlate⟩
  have hnow := now.bounded
  have hnegative : issuedAt ≤ -2 ^ 69 := by omega
  have hcast : (issuedAt : ℚ) ≤ -2 ^ 69 := by exact_mod_cast hnegative
  have hdate : (-8640000000000000 : ℚ) ≤ now.ms := by
    have : -8640000000000000 ≤ now.ms := by omega
    exact_mod_cast this
  linarith

end State

/-- A signed state is accepted from a minute before its time until its age is over, and nothing is
accepted but a payload of two parts, neither of them empty, with its signature. -/
theorem oauthState_accepts_signed (hmacSha256 : JsString → JsString → Digest) (pepper : JsString) :
    (∀ (nonce : JsString) (issuedAt : JsInteger) (maxAge : ℚ) (now : JsDate),
      nonce ≠ [] → 46 ∉ nonce → maxAge < 2 ^ 53 →
      (verifyOAuthState hmacSha256 (signOAuthState hmacSha256 nonce issuedAt pepper) pepper
          (.finite maxAge) (.finite now.ms) = true ↔
        issuedAt - 60000 ≤ now.ms ∧ (now.ms : ℚ) ≤ (issuedAt : ℤ) + maxAge)) ∧
    ∀ (state : JsString) (maxAge now : JsNumber),
      verifyOAuthState hmacSha256 state pepper maxAge now = true →
      ∃ nonce issuedAt, nonce ≠ [] ∧ 46 ∉ nonce ∧ issuedAt ≠ [] ∧ 46 ∉ issuedAt ∧
        state = statePayload nonce issuedAt ++
          46 :: stateSignature hmacSha256 (statePayload nonce issuedAt) pepper := by
  refine ⟨fun nonce issuedAt maxAge now hne hnonce hmaxAge ↦ ?_,
    fun _ _ _ ↦ exists_payload_of_verify⟩
  by_cases hpoint : 46 ∈ numberText issuedAt
  · exact iff_of_false (not_verify_of_point hpoint)
      (not_window_of_large hmaxAge (large_of_point hpoint))
  · rw [verifyOAuthState_signed hne hnonce hpoint]
    exact window_iff hmaxAge

/-- What HMAC-SHA256 gives for the payload `nonce.1757000000000`, with the key `pepper`. -/
def stateHmac (_key _text : JsString) : Digest :=
  ⟨[11, 64, 75, 178, 201, 66, 27, 125, 93, 237, 50, 233, 71, 168, 28, 173, 158, 57,
    138, 60, 220, 204, 152, 119, 157, 3, 132, 224, 235, 114, 252, 30], rfl⟩

/-- A state is accepted a second after it was signed. -/
theorem oauthState_accepts_signed_fresh :
    verifyOAuthState stateHmac (signOAuthState stateHmac (units "nonce")
        ⟨1757000000000, round_intCast_eq_iff.mpr (roundMagnitude_of_le (by decide))⟩
        (units "pepper"))
      (units "pepper") (.finite (600000 : ℚ)) (.finite ((1757000001000 : ℤ) : ℚ)) = true :=
  ((oauthState_accepts_signed stateHmac (units "pepper")).1 (units "nonce")
    ⟨1757000000000, round_intCast_eq_iff.mpr (roundMagnitude_of_le (by decide))⟩
    600000 ⟨1757000001000, by decide⟩ (by decide) (by decide) (by norm_num)).mpr
    ⟨by decide, by norm_num⟩

end Nayasetu
