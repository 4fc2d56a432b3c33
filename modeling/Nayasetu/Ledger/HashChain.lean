import Nayasetu.Collections.HashChain
import Nayasetu.Failure
import Nayasetu.Values.Calendar
import Nayasetu.Values.Framing

/-!
# The ledger's hash chain

What the hash of a ledger event is taken of, and how the events of a provider are verified. The
fields of an event are framed, so that its bytes determine them, and the hash of an event covers the
hash before it, so that the last hash of a verified ledger determines the ledger.

The hash is a parameter, any function on byte strings. What is proved about tampering assumes that
it has no collision among the payloads of the ledgers compared, and that none of them hashes to
the genesis hash; no assumption is made on other inputs.
-/

namespace Nayasetu

open Values Collections

/-- `LEDGER_HASH_VERSION`. -/
def ledgerHashVersion : ℕ := 1

/-- `LEDGER_GENESIS_HASH`. -/
def ledgerGenesisHash : Bytes := List.replicate 32 0

/-- A `Date` that is not invalid. -/
structure JsDate where
  ms : ℤ
  bounded : ms.natAbs ≤ 8640000000000000
  deriving DecidableEq, Repr

/-- `toISOString`. -/
def JsDate.toISOString (date : JsDate) : String := String.ofList (expandedText date.ms)

/-- `LedgerHashInput`. -/
structure LedgerHashInput where
  id : ℤ
  providerId : String
  eventType : String
  credits : String
  occurredAt : JsDate
  previousHash : Option Bytes
  deriving DecidableEq, Repr

/-- An event as it is verified: its hash, and what that is the hash of. -/
structure LedgerEvent extends LedgerHashInput where
  hash : Bytes
  deriving DecidableEq, Repr

/-- `field`; `writeUInt32BE` throws if the length takes more than four bytes. -/
def field (bytes : Bytes) : Except Failure Bytes := do
  require (bytes.length < 4294967296)
    (.error "The value of \"value\" is out of range. It must be >= 0 and <= 4294967295.")
  return framed bytes

def LedgerHashInput.fields (input : LedgerHashInput) : List Bytes :=
  [utf8 ("v" ++ String.ofList (intText ledgerHashVersion)),
    input.previousHash.getD ledgerGenesisHash, utf8 (String.ofList (intText input.id)),
    utf8 input.providerId, utf8 input.eventType, utf8 input.credits,
    utf8 input.occurredAt.toISOString]

/-- `computeLedgerHash`. -/
def computeLedgerHash (sha256 : Bytes → Bytes) (input : LedgerHashInput) :
    Except Failure Bytes := do
  let payload ← input.fields.mapM field
  return sha256 payload.flatten

/-- The rounds of `verifyLedgerChain` from `index` on. -/
def verifyLedgerChainFrom (sha256 : Bytes → Bytes) (index : ℕ) (previous : Bytes) :
    List LedgerEvent → Except Failure Bool
  | [] => return true
  | event :: events => do
    if 0 < index ∧ event.previousHash = none then return false
    if ∃ previousHash ∈ event.previousHash, previousHash ≠ previous then return false
    let expected ← computeLedgerHash sha256
      { event.toLedgerHashInput with previousHash := some previous }
    if expected ≠ event.hash then return false
    verifyLedgerChainFrom sha256 (index + 1) event.hash events

/-- `verifyLedgerChain`. -/
def verifyLedgerChain (sha256 : Bytes → Bytes) (events : List LedgerEvent) : Except Failure Bool :=
  verifyLedgerChainFrom sha256 0 ledgerGenesisHash events

/-! ## Payloads

A field carries its length, so no two lists of fields have the same bytes.
-/

/-- The bytes whose digest is the hash of an event behind `previous`. -/
def LedgerEvent.payload (previous : Bytes) (event : LedgerEvent) : Bytes :=
  LedgerHashInput.fields { event.toLedgerHashInput with previousHash := some previous } |>.flatMap
    framed

/-- Each field of an event behind `previous` has a length of four bytes. -/
def LedgerEvent.Fits (previous : Bytes) (event : LedgerEvent) : Prop :=
  ∀ bytes ∈ LedgerHashInput.fields { event.toLedgerHashInput with previousHash := some previous },
    bytes.length < 4294967296

theorem field_eq_ok_iff {bytes framedBytes : Bytes} :
    field bytes = .ok framedBytes ↔ bytes.length < 4294967296 ∧ framed bytes = framedBytes := by
  rw [field, unit_bind_eq_ok_iff, require_eq_ok_iff]
  exact and_congr_right fun _ ↦ ⟨Except.ok.inj, congrArg Except.ok⟩

theorem mapM_field_eq_ok_iff {l framedList : List Bytes} :
    l.mapM field = .ok framedList ↔
      (∀ bytes ∈ l, bytes.length < 4294967296) ∧ l.map framed = framedList := by
  induction l generalizing framedList with
  | nil =>
    rw [List.mapM_nil, List.map_nil]
    exact ⟨fun h ↦ ⟨List.forall_mem_nil _, Except.ok.inj h⟩, fun h ↦ congrArg Except.ok h.2⟩
  | cons bytes l ih =>
    rw [List.mapM_cons, bind_eq_ok_iff, List.forall_mem_cons, List.map_cons]
    constructor
    · rintro ⟨first, hfirst, hlist⟩
      obtain ⟨rest, hrest, heq⟩ := bind_eq_ok_iff.mp hlist
      obtain ⟨hlength, rfl⟩ := field_eq_ok_iff.mp hfirst
      obtain ⟨hlengths, rfl⟩ := ih.mp hrest
      exact ⟨⟨hlength, hlengths⟩, Except.ok.inj heq⟩
    · rintro ⟨⟨hlength, hlengths⟩, rfl⟩
      refine ⟨framed bytes, field_eq_ok_iff.mpr ⟨hlength, rfl⟩, ?_⟩
      rw [ih.mpr ⟨hlengths, rfl⟩]
      rfl

theorem computeLedgerHash_eq_ok_iff {sha256 : Bytes → Bytes} {previous hash : Bytes}
    {event : LedgerEvent} :
    computeLedgerHash sha256 { event.toLedgerHashInput with previousHash := some previous } =
      .ok hash ↔ event.Fits previous ∧ hash = sha256 (event.payload previous) := by
  rw [computeLedgerHash, bind_eq_ok_iff]
  constructor
  · rintro ⟨payload, hpayload, hhash⟩
    obtain ⟨hfits, rfl⟩ := mapM_field_eq_ok_iff.mp hpayload
    exact ⟨hfits, (Except.ok.inj hhash).symm⟩
  · rintro ⟨hfits, rfl⟩
    exact ⟨_, mapM_field_eq_ok_iff.mpr ⟨hfits, rfl⟩, rfl⟩

theorem LedgerEvent.payload_inj {previous previous' : Bytes} {event event' : LedgerEvent}
    (hfits : event.Fits previous) (hfits' : event'.Fits previous')
    (h : event.payload previous = event'.payload previous') :
    previous = previous' ∧ event.id = event'.id ∧ event.providerId = event'.providerId ∧
      event.eventType = event'.eventType ∧ event.credits = event'.credits ∧
      event.occurredAt = event'.occurredAt := by
  have h := flatMap_framed_inj hfits hfits' h
  rw [LedgerHashInput.fields, LedgerHashInput.fields, List.cons.injEq, List.cons.injEq,
    List.cons.injEq, List.cons.injEq, List.cons.injEq, List.cons.injEq, List.cons.injEq] at h
  obtain ⟨-, hprevious, hid, hprovider, htype, hcredits, hdate, -⟩ := h
  have hid := intText_inj (String.ofList_injective (utf8_inj hid))
  have hdate := expandedText_inj event.occurredAt.bounded event'.occurredAt.bounded
    (String.ofList_injective (utf8_inj hdate))
  have hdate : event.occurredAt = event'.occurredAt := by
    cases hd : event.occurredAt
    cases hd' : event'.occurredAt
    rw [hd, hd'] at hdate
    exact JsDate.mk.injEq _ _ _ _ ▸ hdate
  exact ⟨hprevious, hid, utf8_inj hprovider, utf8_inj htype, utf8_inj hcredits, hdate⟩

/-! ## Accepted chains

The loop of the verifier, as a condition on each event and the one before.
-/

/-- What the verifier asks of an event behind `previous`. -/
structure LedgerEvent.Accepted (sha256 : Bytes → Bytes) (previous : Bytes) (event : LedgerEvent) :
    Prop where
  named : ∀ previousHash ∈ event.previousHash, previousHash = previous
  fits : event.Fits previous
  digest : event.hash = sha256 (event.payload previous)

theorem verifyLedgerChainFrom_cons_eq_ok_true_iff {sha256 : Bytes → Bytes} {index : ℕ}
    {previous : Bytes} {event : LedgerEvent} {events : List LedgerEvent} :
    verifyLedgerChainFrom sha256 index previous (event :: events) = .ok true ↔
      (0 < index → event.previousHash ≠ none) ∧ event.Accepted sha256 previous ∧
        verifyLedgerChainFrom sha256 (index + 1) event.hash events = .ok true := by
  rw [verifyLedgerChainFrom]
  constructor
  · intro h
    by_cases hindex : 0 < index ∧ event.previousHash = none
    · rw [if_pos hindex] at h
      cases h
    by_cases hnamed : ∃ previousHash ∈ event.previousHash, previousHash ≠ previous
    · rw [if_neg hindex, if_pos hnamed] at h
      cases h
    rw [if_neg hindex, if_neg hnamed] at h
    obtain ⟨expected, hexpected, h⟩ := bind_eq_ok_iff.mp h
    obtain ⟨hfits, rfl⟩ := computeLedgerHash_eq_ok_iff.mp hexpected
    by_cases hdigest : sha256 (event.payload previous) ≠ event.hash
    · rw [if_pos hdigest] at h
      cases h
    rw [if_neg hdigest] at h
    refine ⟨fun hpos hnone ↦ hindex ⟨hpos, hnone⟩, ⟨fun p hp ↦ ?_, hfits, ?_⟩, h⟩
    · exact not_not.mp fun hne ↦ hnamed ⟨p, hp, hne⟩
    · exact (not_not.mp hdigest).symm
  · rintro ⟨hindex, haccepted, hrest⟩
    rw [if_neg (fun h ↦ hindex h.1 h.2), if_neg (fun ⟨p, hp, hne⟩ ↦ hne (haccepted.named p hp)),
      computeLedgerHash_eq_ok_iff.mpr ⟨haccepted.fits, haccepted.digest⟩]
    exact (if_neg (not_not.mpr rfl)).trans hrest

/-- Behind the first event every event names the hash before it. -/
theorem verifyLedgerChainFrom_succ_eq_ok_true_iff {sha256 : Bytes → Bytes} {index : ℕ}
    {previous : Bytes} {events : List LedgerEvent} :
    verifyLedgerChainFrom sha256 (index + 1) previous events = .ok true ↔
      (∀ event ∈ events, event.previousHash ≠ none) ∧
        ∀ p ∈ links LedgerEvent.hash previous events, p.2.Accepted sha256 p.1 := by
  induction events generalizing index previous with
  | nil => exact ⟨fun _ ↦ ⟨List.forall_mem_nil _, List.forall_mem_nil _⟩, fun _ ↦ rfl⟩
  | cons event events ih =>
    rw [verifyLedgerChainFrom_cons_eq_ok_true_iff, ih, links, List.forall_mem_cons,
      List.forall_mem_cons]
    constructor
    · rintro ⟨hindex, haccepted, hnamed, hrest⟩
      exact ⟨⟨hindex index.succ_pos, hnamed⟩, haccepted, hrest⟩
    · rintro ⟨⟨hindex, hnamed⟩, haccepted, hrest⟩
      exact ⟨fun _ ↦ hindex, haccepted, hnamed, hrest⟩

/-- **What the verifier accepts**: every event is accepted behind the hash before it, and every
event but the first names that hash. -/
theorem verifyLedgerChain_eq_ok_true_iff {sha256 : Bytes → Bytes} {events : List LedgerEvent} :
    verifyLedgerChain sha256 events = .ok true ↔
      (∀ event ∈ events.tail, event.previousHash ≠ none) ∧
        ∀ p ∈ links LedgerEvent.hash ledgerGenesisHash events, p.2.Accepted sha256 p.1 := by
  cases events with
  | nil => exact ⟨fun _ ↦ ⟨List.forall_mem_nil _, List.forall_mem_nil _⟩, fun _ ↦ rfl⟩
  | cons event events =>
    rw [verifyLedgerChain, verifyLedgerChainFrom_cons_eq_ok_true_iff,
      verifyLedgerChainFrom_succ_eq_ok_true_iff, links, List.forall_mem_cons, List.tail_cons]
    constructor
    · rintro ⟨-, haccepted, hnamed, hrest⟩
      exact ⟨hnamed, haccepted, hrest⟩
    · rintro ⟨hnamed, haccepted, hrest⟩
      exact ⟨fun h ↦ absurd h (lt_irrefl 0), haccepted, hnamed, hrest⟩

/-! ## Tampering

Two accepted ledgers that end in the same hash have the same events, from the last one backwards.
-/

def ledgerPayloads (events : List LedgerEvent) : List Bytes :=
  (links LedgerEvent.hash ledgerGenesisHash events).map fun p ↦ p.2.payload p.1

/-- An event without the hash before it. -/
def LedgerEvent.recorded (event : LedgerEvent) : LedgerEvent := { event with previousHash := none }

theorem LedgerEvent.recorded_eq {event event' : LedgerEvent} (hid : event.id = event'.id)
    (hprovider : event.providerId = event'.providerId) (htype : event.eventType = event'.eventType)
    (hcredits : event.credits = event'.credits) (hdate : event.occurredAt = event'.occurredAt)
    (hhash : event.hash = event'.hash) : event.recorded = event'.recorded := by
  rw [LedgerEvent.recorded, LedgerEvent.recorded, hid, hprovider, htype, hcredits, hdate, hhash]

/-- **The ledger is tamper evident**: as long as SHA-256 has no collision among the payloads of two
accepted ledgers and gives none of them the genesis hash, ledgers with the same last hash hold the
same events. -/
theorem ledger_tamper_evident {sha256 : Bytes → Bytes} {events events' : List LedgerEvent}
    (hcollision : ∀ p ∈ ledgerPayloads events ++ ledgerPayloads events',
      ∀ q ∈ ledgerPayloads events ++ ledgerPayloads events', sha256 p = sha256 q → p = q)
    (hgenesis : ∀ p ∈ ledgerPayloads events ++ ledgerPayloads events',
      sha256 p ≠ ledgerGenesisHash)
    (hnonempty : events ≠ []) (hnonempty' : events' ≠ [])
    (h : verifyLedgerChain sha256 events = .ok true)
    (h' : verifyLedgerChain sha256 events' = .ok true)
    (hlast : (events.getLast hnonempty).hash = (events'.getLast hnonempty').hash) :
    events.length = events'.length ∧
      events.map LedgerEvent.recorded = events'.map LedgerEvent.recorded := by
  obtain ⟨-, haccepted⟩ := verifyLedgerChain_eq_ok_true_iff.mp h
  obtain ⟨-, haccepted'⟩ := verifyLedgerChain_eq_ok_true_iff.mp h'
  have hrecorded : events.map LedgerEvent.recorded = events'.map LedgerEvent.recorded := by
    have hchain : Chained LedgerEvent.hash (fun previous event ↦ sha256 (event.payload previous))
        ledgerGenesisHash events := chained_iff.mpr fun p hp ↦ (haccepted p hp).digest
    refine hchain.eq_of_headHash_eq (chained_iff.mpr fun p hp ↦ (haccepted' p hp).digest)
      (fun p hp ↦ hgenesis _ ?_) (fun p hp q hq hdigest ↦ ?_) ?_
    · rw [ledgerPayloads, ledgerPayloads, ← List.map_append]
      exact List.mem_map_of_mem hp
    · have hpayload := hcollision _ (List.mem_append_left _ (List.mem_map_of_mem hp)) _
        (List.mem_append_right _ (List.mem_map_of_mem hq)) hdigest
      obtain ⟨hprevious, hid, hprovider, htype, hcredits, hdate⟩ :=
        LedgerEvent.payload_inj (haccepted p hp).fits (haccepted' q hq).fits hpayload
      refine ⟨hprevious, LedgerEvent.recorded_eq hid hprovider htype hcredits hdate ?_⟩
      rw [(haccepted p hp).digest, (haccepted' q hq).digest]
      exact hdigest
    · rw [headHash_eq_getLast hnonempty, headHash_eq_getLast hnonempty', hlast]
  refine ⟨?_, hrecorded⟩
  rw [← List.length_map LedgerEvent.recorded, hrecorded, List.length_map]

def firstLedgerEvent : LedgerEvent where
  id := 1
  providerId := "00000000-0000-0000-0000-000000000007"
  eventType := "PRO_BONO_MATTER_CLOSED"
  credits := "1"
  occurredAt := ⟨1767225600000, by decide⟩
  previousHash := none
  hash := [160, 137, 214, 174, 83, 255, 10, 88, 200, 11, 88, 227, 90, 29, 75, 13, 107, 94, 20, 250,
    214, 21, 221, 200, 73, 145, 160, 115, 215, 32, 253, 108]

def secondLedgerEvent : LedgerEvent where
  id := 2
  providerId := "00000000-0000-0000-0000-000000000007"
  eventType := "ROTATION_DUTY_COMPLETED"
  credits := "2.50"
  occurredAt := ⟨1767312000000, by decide⟩
  previousHash := some firstLedgerEvent.hash
  hash := [146, 185, 85, 217, 172, 239, 124, 208, 188, 95, 218, 207, 92, 240, 207,
    200, 210, 142, 71, 89, 206, 70, 180, 9, 193, 122, 226, 61, 76, 220, 133, 20]

/-- What SHA-256 gives for the payloads of the two events. -/
def ledgerDigests (payload : Bytes) : Bytes :=
  if payload = firstLedgerEvent.payload ledgerGenesisHash then firstLedgerEvent.hash
  else if payload = secondLedgerEvent.payload firstLedgerEvent.hash then secondLedgerEvent.hash
  else List.replicate 32 255

theorem ledger_tamper_evident_ledgerDigests :
    [firstLedgerEvent, secondLedgerEvent].length = 2 ∧
      [firstLedgerEvent, secondLedgerEvent].map LedgerEvent.recorded =
        [{ firstLedgerEvent with previousHash := some ledgerGenesisHash }, secondLedgerEvent].map
          LedgerEvent.recorded :=
  have h : verifyLedgerChain ledgerDigests [firstLedgerEvent, secondLedgerEvent] = .ok true := by
    decide +kernel
  ledger_tamper_evident (by decide +kernel) (by decide +kernel) (List.cons_ne_nil _ _)
    (List.cons_ne_nil _ _) h (by decide +kernel) rfl

end Nayasetu
