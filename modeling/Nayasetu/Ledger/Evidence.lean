import Nayasetu.Identity.OAuthState
import Nayasetu.Ledger.Verification
import Nayasetu.Values.JsonWriter

/-!
# Signed evidence

What a provider can take out of the ledger: its events as texts, with a keyed hash of what
`JSON.stringify` writes for them. A document of evidence that is read from its text can be checked
with the key, and the chain of its events can be verified, since nothing that is hashed gets lost on
the way.

The keyed hash and the formats of identifiers and instants are parameters.
-/

namespace Nayasetu

open Values Collections RowLock

/-! ## Documents

The records of the source with the order of their fields, which is the order in which they are
written.
-/

/-- `RedemptionKind`. -/
inductive RedemptionKind where
  | serviceRecordExport
  | panelApplicationEvidencePacket
  | recognitionEligibilityPacket
  | cleActivityRecord
  deriving DecidableEq, Repr

/-- The text of a kind. -/
def RedemptionKind.text : RedemptionKind → String
  | .serviceRecordExport => "SERVICE_RECORD_EXPORT"
  | .panelApplicationEvidencePacket => "PANEL_APPLICATION_EVIDENCE_PACKET"
  | .recognitionEligibilityPacket => "RECOGNITION_ELIGIBILITY_PACKET"
  | .cleActivityRecord => "CLE_ACTIVITY_RECORD"

/-- `evidenceDisclaimer`. -/
def evidenceDisclaimer (kind : RedemptionKind) : String :=
  if kind = .serviceRecordExport then "Provider service record; not an official decision."
  else "Evidence artifact only; the competent institution decides official recognition or eligibility."

def textField (key value : String) : JsString × Document := (units key, .text (units value))

structure ProviderEvidenceEvent where
  id : String
  eventType : String
  units : String
  credits : String
  weightVersion : String
  evidenceRef : String
  occurredAt : String
  hash : String
  deriving DecidableEq, Repr

/-- The event as an object. -/
def ProviderEvidenceEvent.document (event : ProviderEvidenceEvent) : Document :=
  .record [textField "id" event.id, textField "eventType" event.eventType,
    textField "units" event.units, textField "credits" event.credits,
    textField "weightVersion" event.weightVersion, textField "evidenceRef" event.evidenceRef,
    textField "occurredAt" event.occurredAt, textField "hash" event.hash]

/-- What is signed. -/
structure EvidencePayload where
  artifactId : String
  kind : RedemptionKind
  providerId : String
  issuedAt : String
  disclaimer : String
  events : List ProviderEvidenceEvent
  deriving DecidableEq, Repr

/-- The payload as an object. -/
def EvidencePayload.document (payload : EvidencePayload) : Document :=
  .record [textField "artifactId" payload.artifactId, textField "kind" payload.kind.text,
    textField "providerId" payload.providerId, textField "issuedAt" payload.issuedAt,
    textField "disclaimer" payload.disclaimer,
    (units "events", .list (payload.events.map (·.document)))]

/-- What is signed, and the signature. -/
structure SignedEvidence where
  payload : EvidencePayload
  signatureAlgorithm : String
  signature : String
  deriving DecidableEq, Repr

def SignedEvidence.fields (signed : SignedEvidence) : List (JsString × Document) :=
  [(units "payload", signed.payload.document),
    textField "signatureAlgorithm" signed.signatureAlgorithm,
    textField "signature" signed.signature]

/-- Signed evidence as an object. -/
def SignedEvidence.document (signed : SignedEvidence) : Document := .record signed.fields

/-! ## Routes

The schemas of the answers are checks that a route makes before it answers, so an answer satisfies
them.
-/

/-- A row of `provider`, as far as it says whose it is. -/
structure ProviderOwner where
  id : Uuid
  userId : ℕ
  deriving DecidableEq, Repr

/-- `z.uuid()` and `z.iso.datetime()`. -/
structure TextFormats where
  uuid : String → Bool
  datetime : String → Bool

/-- `/^\d+$/`. -/
def isDigits (text : String) : Bool := text.toList ≠ [] ∧ text.toList.all isDecimalDigit

/-- `/^[0-9a-f]{64}$/`. -/
def isHexDigest (text : String) : Bool :=
  text.toList.length = 64 ∧ text.toList.all fun c ↦ isDecimalDigit c || decide ('a' ≤ c ∧ c ≤ 'f')

/-- `providerEvidenceEventSchema`; `event_type` has its values from the column. -/
def providerEvidenceEventSchema (formats : TextFormats) (event : ProviderEvidenceEvent) : Prop :=
  isDigits event.id = true ∧ DecimalPattern event.units ∧ DecimalPattern event.credits ∧
    event.weightVersion ≠ "" ∧ event.evidenceRef ≠ "" ∧ formats.datetime event.occurredAt = true ∧
    isHexDigest event.hash = true

instance (formats : TextFormats) (event : ProviderEvidenceEvent) :
    Decidable (providerEvidenceEventSchema formats event) := inferInstanceAs (Decidable (_ ∧ _))

/-- `evidencePayloadSchema`. -/
def evidencePayloadSchema (formats : TextFormats) (payload : EvidencePayload) : Prop :=
  formats.uuid payload.artifactId = true ∧ formats.uuid payload.providerId = true ∧
    formats.datetime payload.issuedAt = true ∧ payload.disclaimer ≠ "" ∧
    ∀ event ∈ payload.events, providerEvidenceEventSchema formats event

instance (formats : TextFormats) (payload : EvidencePayload) :
    Decidable (evidencePayloadSchema formats payload) := inferInstanceAs (Decidable (_ ∧ _))

/-- `signedEvidenceResponseSchema`; it keeps the order of the properties. -/
def signedEvidenceResponseSchema (formats : TextFormats) (signed : SignedEvidence) : Prop :=
  evidencePayloadSchema formats signed.payload ∧ signed.signatureAlgorithm = "HMAC-SHA256" ∧
    isHexDigest signed.signature = true

instance (formats : TextFormats) (signed : SignedEvidence) :
    Decidable (signedEvidenceResponseSchema formats signed) := inferInstanceAs (Decidable (_ ∧ _))

/-- `providerIdForActor`. -/
def providerIdForActor (providers : List ProviderOwner) (actorId : ℕ) : Except Failure Uuid :=
  match providers.find? (·.userId = actorId) with
  | none => .error (.app 404 "PROVIDER_NOT_FOUND" "Provider profile was not found")
  | some row => .ok row.id

/-- An event as it leaves the ledger. -/
def CreditEvent.evidence (event : CreditEvent) : ProviderEvidenceEvent where
  id := String.ofList (intText event.id)
  eventType := event.eventType.text
  units := String.ofList event.units.text
  credits := String.ofList event.credits.text
  weightVersion := event.weightVersion
  evidenceRef := event.evidenceRef
  occurredAt := event.occurredAt.toISOString
  hash := String.ofList (hexText event.hash)

/-- `evidencePayload`, with what `randomUUID()` and `new Date()` give. -/
def evidencePayload (db : LedgerDatabase) (providerId : Uuid) (kind : RedemptionKind)
    (artifactId : Uuid) (now : JsDate) : EvidencePayload where
  artifactId := String.ofList artifactId.text
  kind := kind
  providerId := String.ofList providerId.text
  issuedAt := now.toISOString
  disclaimer := evidenceDisclaimer kind
  events := (db.ledger providerId).map (·.evidence)

section Routes

/- `createHmac("sha256", secret).update(serialized)`. -/
variable (hmacSha256 : JsString → JsString → Digest)

def evidenceSignature (secret : JsString) (payload : Document) : String :=
  String.ofList (hexText (hmacSha256 secret payload.stringify).val)

/-- `signEvidence`. -/
def signEvidence (payload : EvidencePayload) (secret : JsString) : SignedEvidence where
  payload := payload
  signatureAlgorithm := "HMAC-SHA256"
  signature := evidenceSignature hmacSha256 secret payload.document

/-- What every route for evidence does for a provider: a document of the provider's events,
signed. -/
def evidenceFor (kind : RedemptionKind) (evidenceSigningSecret : Option JsString)
    (providers : List ProviderOwner) (db : LedgerDatabase) (actor : ActorContext)
    (artifactId : Uuid) (now : JsDate) : Except Failure (Uuid × SignedEvidence) :=
  match evidenceSigningSecret.filter (· ≠ []) with
  | none => .error (.app 503 "SIGNING_NOT_CONFIGURED" "Evidence signing is not configured")
  | some secret => do
    let providerId ← providerIdForActor providers actor.actorId
    let payload := evidencePayload db providerId kind artifactId now
    return (providerId, signEvidence hmacSha256 payload secret)

/-- `requireActor(request, ["PROVIDER"])`. -/
def requireProvider (actor : ActorContext) : Except Failure Unit :=
  require (actor.actorType = .provider)
    (.app 403 "FORBIDDEN" "The actor is not authorized for this operation")

def evidenceRoute (kind : RedemptionKind) (formats : TextFormats)
    (evidenceSigningSecret : Option JsString) (providers : List ProviderOwner) (db : LedgerDatabase)
    (actor : ActorContext) (artifactId : Uuid) (now : JsDate) : Except Failure SignedEvidence := do
  requireProvider actor
  let (_, signed) ←
    evidenceFor hmacSha256 kind evidenceSigningSecret providers db actor artifactId now
  require (signedEvidenceResponseSchema formats signed) (.zod ["payload"])
  return signed

/-- `GET /v1/me/service-record`. -/
def serviceRecord := evidenceRoute hmacSha256 .serviceRecordExport

/-- `GET /v1/me/panel-evidence`. -/
def panelEvidence := evidenceRoute hmacSha256 .panelApplicationEvidencePacket

/-- A row of `redemption`. -/
structure Redemption where
  id : Uuid
  providerId : Uuid
  kind : RedemptionKind
  creditsSpent : Numeric
  artefactRef : String
  issuedAt : JsDate
  deriving DecidableEq, Repr

structure RedemptionTables where
  redemptions : List Redemption
  auditEvents : List AuditEvent

/-- What `POST /v1/me/redemptions` answers. -/
structure RedemptionResponse where
  redemptionId : String
  issuedAt : String
  signed : SignedEvidence
  deriving DecidableEq, Repr

/-- The answer as an object. -/
def RedemptionResponse.document (response : RedemptionResponse) : Document :=
  .record (textField "redemptionId" response.redemptionId ::
    textField "issuedAt" response.issuedAt :: response.signed.fields)

/-- `redemptionResponseSchema`. -/
def redemptionResponseSchema (formats : TextFormats) (response : RedemptionResponse) : Prop :=
  formats.uuid response.redemptionId = true ∧ formats.datetime response.issuedAt = true ∧
    signedEvidenceResponseSchema formats response.signed

instance (formats : TextFormats) (response : RedemptionResponse) :
    Decidable (redemptionResponseSchema formats response) := inferInstanceAs (Decidable (_ ∧ _))

def redemptionAudit (actor : ActorContext) (row : Redemption) : AuditEvent :=
  auditEvent actor
    { action := "redemption.evidence_issued"
      entityType := "redemption"
      entityId := String.ofList row.id.text
      afterSummary := some (.object [("kind", .string row.kind.text),
        ("creditsSpent", .number (Numeric.ofInt 0)), ("artefactRef", .string row.artefactRef)]) }

/-- What `POST /v1/me/redemptions` does before its transaction, for the kind in the body, if there
is one; the kind, the provider and the document. -/
def redemptionEvidence (kind? : Option RedemptionKind) (evidenceSigningSecret : Option JsString)
    (providers : List ProviderOwner) (db : LedgerDatabase) (actor : ActorContext)
    (artifactId : Uuid) (now : JsDate) :
    Except Failure (RedemptionKind × Uuid × SignedEvidence) := do
  requireProvider actor
  match kind? with
  | none => .error (.app 400 "VALIDATION_ERROR" "Request body is invalid")
  | some kind =>
    let (providerId, signed) ←
      evidenceFor hmacSha256 kind evidenceSigningSecret providers db actor artifactId now
    return (kind, providerId, signed)

/- `createHash("sha256").update(text)`. -/
variable (sha256Text : JsString → Digest)

/-- The row of a redemption, with the identifier and the time that the database gives to it. -/
def SignedEvidence.redemption (signed : SignedEvidence) (kind : RedemptionKind)
    (providerId id : Uuid) (issuedAt : JsDate) : Redemption where
  id := id
  providerId := providerId
  kind := kind
  creditsSpent := Numeric.ofInt 0
  artefactRef := String.ofList (hexText (sha256Text signed.document.stringify).val)
  issuedAt := issuedAt

/-- What is answered about the row. -/
def Redemption.response (row : Redemption) (signed : SignedEvidence) : RedemptionResponse where
  redemptionId := String.ofList row.id.text
  issuedAt := row.issuedAt.toISOString
  signed := signed

def RedemptionTables.insert (tables : RedemptionTables) (actor : ActorContext) (row : Redemption) :
    RedemptionTables where
  redemptions := tables.redemptions ++ [row]
  auditEvents := tables.auditEvents ++ [redemptionAudit actor row]

/-- `POST /v1/me/redemptions`. The answer is checked behind the transaction. -/
def createRedemption (kind? : Option RedemptionKind) (formats : TextFormats)
    (evidenceSigningSecret : Option JsString) (providers : List ProviderOwner) (db : LedgerDatabase)
    (actor : ActorContext) (artifactId : Uuid) (now : JsDate) (id : Uuid) (issuedAt : JsDate)
    (tables : RedemptionTables) : Except Failure RedemptionResponse × RedemptionTables :=
  match redemptionEvidence hmacSha256 kind? evidenceSigningSecret providers db actor artifactId
      now with
  | .error e => (.error e, tables)
  | .ok (kind, providerId, signed) =>
    let row := signed.redemption sha256Text kind providerId id issuedAt
    let answer : Except Failure RedemptionResponse := do
      require (redemptionResponseSchema formats (row.response signed)) (.zod ["redemptionId"])
      return row.response signed
    (answer, tables.insert actor row)

end Routes

/-! ## What the schemas ask for

The texts that the routes produce have the patterns of the schemas.
-/

theorem isDecimalDigit_of_mem_toDigits {n : ℕ} {c : Char} (h : c ∈ Nat.toDigits 10 n) :
    isDecimalDigit c = true := by
  have hdigit : c.isDigit = true := Nat.isDigit_of_mem_toDigits (by decide) (by decide) h
  rw [Char.isDigit, Bool.and_eq_true, decide_eq_true_iff, decide_eq_true_iff] at hdigit
  exact decide_eq_true hdigit

theorem isDecimalDigit_of_mem_digits {a : Numeric} {c : Char} (h : c ∈ a.digits) :
    isDecimalDigit c = true := by
  rcases List.mem_append.mp h with hzero | hdigit
  · rw [List.eq_of_mem_replicate hzero]
    rfl
  · exact isDecimalDigit_of_mem_toDigits hdigit

/-- No superfluous zero stands before the point. -/
theorem isWholeNumber_take_digits (a : Numeric) :
    isWholeNumber (a.digits.take (a.digits.length - a.scale)) = true := by
  by_cases hshort : (Nat.toDigits 10 a.unscaled.natAbs).length ≤ a.scale
  · -- zeros fill the places up to the point, and one more
    have hlength : a.digits.length - a.scale = 1 := by
      rw [Numeric.digits, List.length_append, List.length_replicate]
      omega
    obtain ⟨k, hk⟩ : ∃ k, a.scale + 1 - (Nat.toDigits 10 a.unscaled.natAbs).length = k + 1 :=
      ⟨a.scale - (Nat.toDigits 10 a.unscaled.natAbs).length, by omega⟩
    rw [hlength, Numeric.digits, hk, List.replicate_succ, List.cons_append, List.take_succ_cons,
      List.take_zero]
    rfl
  · have hdigits : a.digits = Nat.toDigits 10 a.unscaled.natAbs := by
      rw [Numeric.digits, Nat.sub_eq_zero_of_le (by omega)]
      rfl
    rw [hdigits]
    rcases Nat.eq_zero_or_pos a.unscaled.natAbs with hzero | hpos
    · have htoDigits : Nat.toDigits 10 a.unscaled.natAbs = ['0'] := by
        rw [hzero]
        rfl
      rw [htoDigits] at hshort ⊢
      have hscale : a.scale = 0 := by
        rw [List.length_singleton] at hshort
        omega
      rw [hscale]
      rfl
    · obtain ⟨c, cs, hcs, hlow, -⟩ := Numeric.toDigits_eq_cons hpos
      have hzero : c ≠ '0' := by
        rintro rfl
        exact absurd hlow (by decide)
      have hall : ∀ d ∈ c :: cs, isDecimalDigit d = true := fun d hd ↦
        isDecimalDigit_of_mem_toDigits (hcs ▸ hd)
      rw [hcs] at hshort ⊢
      obtain ⟨k, hk⟩ : ∃ k, (c :: cs).length - a.scale = k + 1 :=
        ⟨(c :: cs).length - a.scale - 1, by omega⟩
      rw [hk, List.take_succ_cons, isWholeNumber.eq_3]
      · rw [Bool.and_eq_true, Bool.and_eq_true]
        refine ⟨⟨decide_eq_true hzero, hall c List.mem_cons_self⟩,
          List.all_eq_true.mpr fun d hd ↦ ?_⟩
        exact hall d (List.mem_cons_of_mem _ (List.mem_of_mem_take hd))
      · rintro rfl
        exact absurd rfl hzero

theorem decimalPattern_text (a : Numeric) : DecimalPattern (String.ofList a.text) := by
  let whole := a.digits.take (a.digits.length - a.scale)
  let fraction := a.digits.drop (a.digits.length - a.scale)
  have hlength := a.length_digits
  have hwhole : ∀ c ∈ whole, c ≠ '.' ∧ c ≠ '-' := fun c hc ↦
    Numeric.ne_of_mem_digits (List.mem_of_mem_take hc)
  have htext : a.text = (if a.unscaled < 0 then ['-'] else []) ++
      (whole ++ (if a.scale = 0 then [] else '.' :: fraction)) := List.append_assoc _ _ _
  have hunsigned : (if a.text.head? = some '-' then a.text.tail else a.text) =
      whole ++ (if a.scale = 0 then [] else '.' :: fraction) := by
    rw [htext]
    by_cases hneg : a.unscaled < 0
    · rw [if_pos hneg]
      exact if_pos rfl
    · obtain ⟨c, cs, hcons⟩ := List.exists_cons_of_length_pos
        (by rw [List.length_take]; omega : 0 < whole.length)
      have hc : c ≠ '-' := (hwhole c (hcons ▸ List.mem_cons_self)).2
      rw [if_neg hneg, List.nil_append, hcons, List.cons_append, if_neg (by simpa using hc)]
  rw [DecimalPattern, String.toList_ofList]
  rw [hunsigned, List.takeWhile_append_of_pos fun c hc ↦ decide_eq_true (hwhole c hc).1,
    List.dropWhile_append_of_pos fun c hc ↦ decide_eq_true (hwhole c hc).1]
  by_cases hscale : a.scale = 0
  · rw [if_pos hscale]
    refine ⟨?_, trivial⟩
    rw [List.takeWhile_nil, List.append_nil]
    exact isWholeNumber_take_digits a
  · rw [if_neg hscale, List.takeWhile_cons_of_neg (by decide), List.append_nil,
      List.dropWhile_cons_of_neg (by decide)]
    have hfraction : fraction.length = a.scale := by
      rw [List.length_drop]
      omega
    refine ⟨isWholeNumber_take_digits a, ?_, List.all_eq_true.mpr fun d hd ↦ ?_⟩
    · rintro hnil
      rw [hnil] at hfraction
      exact hscale hfraction.symm
    · exact isDecimalDigit_of_mem_digits (List.mem_of_mem_drop hd)

/-- The number of an event is written with digits. -/
theorem isDigits_intText (n : ℕ) : isDigits (String.ofList (intText n)) = true := by
  have hnonneg : ¬ (n : ℤ) < 0 := by omega
  rw [isDigits, String.toList_ofList, intText, if_neg hnonneg]
  refine decide_eq_true ⟨Nat.toDigits_ne_nil, List.all_eq_true.mpr fun c hc ↦ ?_⟩
  exact isDecimalDigit_of_mem_toDigits hc

theorem isHexDigest_hexText {bytes : Bytes} (h : bytes.length = 32) :
    isHexDigest (String.ofList (hexText bytes)) = true := by
  have hdigit : ∀ n < 16, (isDecimalDigit n.digitChar ||
      decide ('a' ≤ n.digitChar ∧ n.digitChar ≤ 'f')) = true := by decide
  have hpadded (width n : ℕ) : ∀ c ∈ hexPadded width n,
      (isDecimalDigit c || decide ('a' ≤ c ∧ c ≤ 'f')) = true := by
    induction width generalizing n with
    | zero => exact List.forall_mem_nil _
    | succ width ih =>
      rw [hexPadded]
      refine List.forall_mem_append.mpr ⟨ih _, List.forall_mem_singleton.mpr ?_⟩
      exact hdigit _ (Nat.mod_lt n (by decide))
  rw [isHexDigest, String.toList_ofList]
  refine decide_eq_true ⟨by rw [length_hexText, h], List.all_eq_true.mpr fun c hc ↦ ?_⟩
  obtain ⟨byte, -, hmem⟩ := List.mem_flatMap.mp hc
  exact hpadded 2 byte.toNat c hmem

/-! ## Reading evidence

A reader parses the text of an answer, takes the payload out of it and computes its hash anew.
-/

/-- The payload and the signature that a text holds out. -/
def evidenceOf (body : JsString) : Option (Document × JsString) := do
  let json ← jsonParse body
  let payload ← (← jsonField json "payload").document
  match ← jsonField json "signature" with
  | .string signature => return (payload, signature)
  | _ => none

/-- What a text proves to someone who has the key: the payload, if the signature is that of the text
`JSON.stringify` writes for it. -/
def authenticEvidence (hmacSha256 : JsString → JsString → Digest) (secret body : JsString) :
    Option Document := do
  let (payload, signature) ← evidenceOf body
  if signature = units (evidenceSignature hmacSha256 secret payload) then some payload else none

section Documents

variable {signed : SignedEvidence}

theorem keyed_textField (key value : String) : (textField key value).2.Keyed := .text _

theorem ProviderEvidenceEvent.keyed (event : ProviderEvidenceEvent) : event.document.Keyed := by
  refine .record ?_ ?_
  · change (["id", "eventType", "units", "credits", "weightVersion", "evidenceRef", "occurredAt",
      "hash"].map Values.units).Nodup
    decide
  · simp [keyed_textField]

theorem EvidencePayload.keyed (payload : EvidencePayload) : payload.document.Keyed := by
  have hevents : (Document.list (payload.events.map (·.document))).Keyed := by
    refine .list fun d hd ↦ ?_
    obtain ⟨event, -, rfl⟩ := List.mem_map.mp hd
    exact event.keyed
  refine .record ?_ ?_
  · change (["artifactId", "kind", "providerId", "issuedAt", "disclaimer", "events"].map
      units).Nodup
    decide
  · simp [keyed_textField, hevents]

theorem SignedEvidence.keyed : signed.document.Keyed := by
  refine .record ?_ ?_
  · change (["payload", "signatureAlgorithm", "signature"].map units).Nodup
    decide
  · simp [fields, keyed_textField, signed.payload.keyed]

theorem RedemptionResponse.keyed (response : RedemptionResponse) : response.document.Keyed := by
  refine .record ?_ ?_
  · change (["redemptionId", "issuedAt", "payload", "signatureAlgorithm", "signature"].map
      units).Nodup
    decide
  · simp [SignedEvidence.fields, keyed_textField, response.signed.payload.keyed]

theorem evidenceOf_document : evidenceOf signed.document.stringify =
    some (signed.payload.document, units signed.signature) := by
  rw [evidenceOf, SignedEvidence.keyed.jsonParse_stringify, Option.bind_eq_bind, Option.bind_some]
  change ((signed.payload.document.json.document).bind fun payload ↦
    some (payload, units signed.signature)) = _
  rw [Document.document_json, Option.bind_some]

theorem evidenceOf_redemption (response : RedemptionResponse) :
    evidenceOf response.document.stringify =
      some (response.signed.payload.document, units response.signed.signature) := by
  rw [evidenceOf, response.keyed.jsonParse_stringify, Option.bind_eq_bind, Option.bind_some]
  change ((response.signed.payload.document.json.document).bind fun payload ↦
    some (payload, units response.signed.signature)) = _
  rw [Document.document_json, Option.bind_some]

end Documents

/-- A text with the signature of another payload proves that payload and no other, unless the hash
of their texts is the same. -/
theorem authenticEvidence_unique {hmacSha256 : JsString → JsString → Digest}
    {secret body : JsString}
    {payload : EvidencePayload} {payload' : Document}
    (h : authenticEvidence hmacSha256 secret body = some payload')
    (hsame : evidenceOf body =
      some (payload', units (evidenceSignature hmacSha256 secret payload.document)))
    (hcollision : hmacSha256 secret payload'.stringify =
      hmacSha256 secret payload.document.stringify →
      payload'.stringify = payload.document.stringify) : payload' = payload.document := by
  rw [authenticEvidence, hsame, Option.bind_eq_bind, Option.bind_some] at h
  dsimp only at h
  have hkeyed : payload'.Keyed := by
    obtain ⟨json, hjson, hpayload⟩ := Option.bind_eq_some_iff.mp hsame
    obtain ⟨value, hvalue, hpayload⟩ := Option.bind_eq_some_iff.mp hpayload
    obtain ⟨d, hd, hpayload⟩ := Option.bind_eq_some_iff.mp hpayload
    obtain ⟨signature, -, hpayload⟩ := Option.bind_eq_some_iff.mp hpayload
    have hd' : d = payload' := by
      split at hpayload
      · exact (Prod.mk.inj (Option.some.inj hpayload)).1
      · cases hpayload
    exact Json.Keyed.document value ((jsonParse_keyed hjson).field hvalue) (hd' ▸ hd)
  have hsignature : evidenceSignature hmacSha256 secret payload.document =
      evidenceSignature hmacSha256 secret payload' := by
    split at h
    · exact units_inj ‹_›
    · cases h
  have hdigest := hexText_inj (String.ofList_injective hsignature)
  exact hkeyed.stringify_inj payload.keyed (hcollision (Subtype.ext hdigest.symm))

end Nayasetu
