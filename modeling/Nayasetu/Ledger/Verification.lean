import Nayasetu.Ledger.Safety

/-!
# Verifying what the writer has written

The database and the application each compute the payload of an event. They agree on everything but
the text of the instant: `to_char` writes the year of the era with as many digits as it has, while
`toISOString` writes years outside of 0 to 9999 with a sign and six digits. A ledger can be verified
as long as the events of its calls fall into the years 1 to 9999, and not otherwise.
-/

namespace Nayasetu

open Values Collections RowLock

/-- A row as the application reads it back. -/
def CreditEvent.toLedgerEvent (event : CreditEvent) : LedgerEvent where
  id := event.id
  providerId := String.ofList event.providerId.text
  eventType := event.eventType.text
  credits := String.ofList event.credits.text
  occurredAt := event.occurredAt
  previousHash := event.prevHash
  hash := event.hash

/-- The year of an instant, in UTC. -/
def JsDate.year (date : JsDate) : ℤ := (utcDate date.ms).year

def JsDate.FourDigits (date : JsDate) : Prop := 1 ≤ date.year ∧ date.year ≤ 9999

instance (date : JsDate) : Decidable date.FourDigits := inferInstanceAs (Decidable (_ ∧ _))

theorem toISOString_eq_toChar_iff {date : JsDate} :
    date.toISOString = date.toChar ↔ date.FourDigits := by
  rw [JsDate.toISOString, JsDate.toChar, String.ofList_inj]
  exact expandedText_eq_eraText_iff

/-! ## Fields

The two payloads, field by field. All fields fit the frame, and all but the instant are the same
text.
-/

section Fields

variable {sha256 : Bytes → Bytes} {event : CreditEvent} {previous : Bytes}

/-- The fields that the writer and the verifier share, with the text of the instant. -/
def CreditEvent.fieldsWith (date : String) (previous : Bytes) (event : CreditEvent) : List Bytes :=
  [utf8 "v1", previous, utf8 (String.ofList (intText event.id)),
    utf8 (String.ofList event.providerId.text), utf8 event.eventType.text,
    utf8 (String.ofList event.credits.text), utf8 date]

theorem appendPayload_eq : event.appendPayload previous =
    (event.fieldsWith event.occurredAt.toChar previous).flatMap framed := rfl

theorem fields_toLedgerEvent :
    LedgerHashInput.fields
      { event.toLedgerEvent.toLedgerHashInput with previousHash := some previous } =
        event.fieldsWith event.occurredAt.toISOString previous := by
  have hversion : "v" ++ String.ofList (intText ledgerHashVersion) = "v1" := by decide
  rw [LedgerHashInput.fields, hversion]
  rfl

theorem payload_toLedgerEvent : event.toLedgerEvent.payload previous =
    (event.fieldsWith event.occurredAt.toISOString previous).flatMap framed := by
  rw [LedgerEvent.payload, fields_toLedgerEvent]

theorem length_intText_le {n : ℕ} (h : n ≤ 9223372036854775807) : (intText n).length ≤ 19 := by
  have hdigits : (Nat.toDigits 10 n).length ≤ 19 :=
    (Nat.length_toDigits_le_iff (by decide) (by decide)).mpr (by omega)
  rwa [intText, if_neg (by omega), Int.natAbs_natCast]

theorem length_fieldsWith (hid : event.id ≤ 9223372036854775807) (hcredits : event.credits.Fits)
    (hprevious : previous.length = 32) {date : List Char} (hdate : date.length ≤ 64) :
    ∀ bytes ∈ event.fieldsWith (String.ofList date) previous, bytes.length < 4294967296 := by
  have hidText := (length_utf8_ofList_le (intText event.id)).trans
    (Nat.mul_le_mul_left 4 (length_intText_le hid))
  have hprovider := length_utf8_ofList_le event.providerId.text
  have hcreditsText := (length_utf8_ofList_le event.credits.text).trans
    (Nat.mul_le_mul_left 4 (Numeric.length_text_le hcredits))
  have hdateText := (length_utf8_ofList_le date).trans (Nat.mul_le_mul_left 4 hdate)
  have htype : (utf8 event.eventType.text).length ≤ 64 := by
    cases event.eventType <;> decide
  have hversion : (utf8 "v1").length = 2 := by decide
  rw [Uuid.length_text] at hprovider
  intro bytes hbytes
  rw [CreditEvent.fieldsWith] at hbytes
  simp only [List.mem_cons, List.not_mem_nil, or_false] at hbytes
  rcases hbytes with rfl | rfl | rfl | rfl | rfl | rfl | rfl <;> omega

theorem fits_toLedgerEvent (hid : event.id ≤ 9223372036854775807) (hcredits : event.credits.Fits)
    (hprevious : previous.length = 32) : event.toLedgerEvent.Fits previous := by
  rw [LedgerEvent.Fits, fields_toLedgerEvent]
  exact length_fieldsWith hid hcredits hprevious ((length_expandedText_le _).trans (by decide))

/-- The payloads agree in the years of four digits, and only there. -/
theorem payload_eq_appendPayload_iff (hid : event.id ≤ 9223372036854775807)
    (hcredits : event.credits.Fits) (hprevious : previous.length = 32) :
    event.toLedgerEvent.payload previous = event.appendPayload previous ↔
      event.occurredAt.FourDigits := by
  rw [payload_toLedgerEvent, appendPayload_eq, ← toISOString_eq_toChar_iff]
  constructor
  · intro h
    have hfields := flatMap_framed_inj
      (length_fieldsWith hid hcredits hprevious ((length_expandedText_le _).trans (by decide)))
      (length_fieldsWith hid hcredits hprevious
        ((length_eraText_le event.occurredAt.bounded).trans (by decide))) h
    rw [CreditEvent.fieldsWith, CreditEvent.fieldsWith] at hfields
    simp only [List.cons.injEq, and_true, true_and] at hfields
    exact utf8_inj hfields
  · intro h
    rw [h]

end Fields

/-! ## Chains

A chain that the writer has made, seen by the verifier.
-/

section Chains

variable {sha256 : Bytes → Bytes} {events : List CreditEvent}

/-- The hash that the next event covers. -/
def hashBefore (lastHash : Option Bytes) : Bytes := lastHash.getD ledgerGenesisHash

theorem links_toLedgerEvent :
    links LedgerEvent.hash ledgerGenesisHash (events.map CreditEvent.toLedgerEvent) =
      (chainLinks events).map fun link ↦ (hashBefore link.1, link.2.toLedgerEvent) :=
  links_map CreditEvent.toLedgerEvent hashBefore (fun _ ↦ rfl) none events

/-- A chain whose events have their hashes from the writer. -/
structure WrittenChain (sha256 : Bytes → Bytes) (events : List CreditEvent) : Prop where
  follows : ∀ link ∈ chainLinks events, link.2.Follows sha256 link.1
  fits : ∀ event ∈ events, event.id ≤ 9223372036854775807 ∧ event.credits.Fits

theorem map_snd_chainLinks : (chainLinks events).map Prod.snd = events := map_snd_links

theorem snd_mem_of_mem_chainLinks {link : Option Bytes × CreditEvent}
    (hlink : link ∈ chainLinks events) : link.2 ∈ events := by
  have hmem : link.2 ∈ (chainLinks events).map Prod.snd := List.mem_map_of_mem hlink
  rwa [map_snd_chainLinks] at hmem

theorem exists_chainLink {event : CreditEvent} (hevent : event ∈ events) :
    ∃ link ∈ chainLinks events, link.2 = event := by
  have hmap : event ∈ (chainLinks events).map Prod.snd := map_snd_chainLinks.symm ▸ hevent
  exact List.mem_map.mp hmap

theorem WrittenChain.length_hashBefore (h : WrittenChain sha256 events)
    (hsha : ∀ payload, (sha256 payload).length = 32) {link : Option Bytes × CreditEvent}
    (hlink : link ∈ chainLinks events) : (hashBefore link.1).length = 32 := by
  rcases fst_of_mem_links hlink with hfirst | ⟨event, hevent, hhash⟩
  · rw [hfirst]
    rfl
  · obtain ⟨link', hlink', rfl⟩ := exists_chainLink hevent
    rw [hhash, hashBefore, Option.getD_some, (h.follows link' hlink').hash]
    exact hsha _

/-- Behind the first event of a chain every event names the hash before it. -/
theorem WrittenChain.named (h : WrittenChain sha256 events) :
    ∀ event ∈ (events.map CreditEvent.toLedgerEvent).tail, event.previousHash ≠ none := by
  cases events with
  | nil => exact fun _ hevent ↦ absurd hevent List.not_mem_nil
  | cons first events =>
    intro event hevent
    rw [List.map_cons, List.tail_cons] at hevent
    obtain ⟨row, hrow, rfl⟩ := List.mem_map.mp hevent
    have hlinks : (links (fun event : CreditEvent ↦ some event.hash) (some first.hash) events).map
        Prod.snd = events := map_snd_links
    rw [← hlinks] at hrow
    obtain ⟨link, hlink, rfl⟩ := List.mem_map.mp hrow
    have hprev := (h.follows link (List.mem_cons_of_mem _ hlink)).prevHash
    change link.2.prevHash ≠ none
    rw [hprev]
    rcases fst_of_mem_links hlink with hfirst | ⟨event, -, hhash⟩
    · rw [hfirst]
      exact Option.some_ne_none _
    · rw [hhash]
      exact Option.some_ne_none _

/-- The verifier accepts a written chain if it computes the hashes that the writer has. -/
theorem WrittenChain.verified_iff (h : WrittenChain sha256 events)
    (hsha : ∀ payload, (sha256 payload).length = 32) :
    verifyLedgerChain sha256 (events.map CreditEvent.toLedgerEvent) = .ok true ↔
      ∀ link ∈ chainLinks events, sha256 (link.2.appendPayload (hashBefore link.1)) =
        sha256 (link.2.toLedgerEvent.payload (hashBefore link.1)) := by
  rw [verifyLedgerChain_eq_ok_true_iff, links_toLedgerEvent]
  constructor
  · rintro ⟨-, haccepted⟩ link hlink
    exact (h.follows link hlink).hash.symm.trans (haccepted _ (List.mem_map_of_mem hlink)).digest
  · intro hdigests
    refine ⟨h.named, fun accepted haccepted ↦ ?_⟩
    obtain ⟨link, hlink, rfl⟩ := List.mem_map.mp haccepted
    have hfits := h.fits link.2 (snd_mem_of_mem_chainLinks hlink)
    have hfollows := h.follows link hlink
    refine ⟨fun previousHash hprevious ↦ ?_, ?_, hfollows.hash.trans (hdigests link hlink)⟩
    · have hprev : link.1 = some previousHash := hfollows.prevHash.symm.trans hprevious
      change previousHash = hashBefore link.1
      rw [hprev]
      rfl
    · exact fits_toLedgerEvent hfits.1 hfits.2 (h.length_hashBefore hsha hlink)

end Chains

/-! ## Runs

The instants of a run are those of its calls.
-/

section Runs

variable {sha256 : Bytes → Bytes} {db : LedgerDatabase} {clock : ℤ} {drawn : ℕ} {c : LedgerConfig}

theorem exists_of_mem_right {α β : Type} {R : α → β → Prop} {l : List α} {m : List β}
    (h : List.Forall₂ R l m) {b : β} (hb : b ∈ m) : ∃ a ∈ l, R a b := by
  induction h with
  | nil => exact absurd hb List.not_mem_nil
  | @cons a b' l m hab _ ih =>
    rcases List.mem_cons.mp hb with rfl | hb
    · exact ⟨a, List.mem_cons_self, hab⟩
    · obtain ⟨a', ha', hab'⟩ := ih hb
      exact ⟨a', List.mem_cons_of_mem _ ha', hab'⟩

theorem calls_fourDigits_iff (h : LedgerInv sha256 c.shared) {providerId : Uuid} :
    (∀ entry ∈ c.shared.history, entry.request.providerId = providerId →
      entry.request.occurredAt.FourDigits) ↔
    ∀ event ∈ c.shared.store.eventsOf providerId, event.occurredAt.FourDigits := by
  constructor
  · intro hcalls event hevent
    obtain ⟨hmem, hprovider⟩ := List.mem_filter.mp hevent
    obtain ⟨entry, hentry, happends⟩ := exists_of_mem_right h.appended hmem
    rw [happends.recorded.occurredAt]
    refine hcalls entry hentry ?_
    rw [← happends.recorded.providerId]
    exact of_decide_eq_true hprovider
  · intro hevents entry hentry hprovider
    obtain ⟨event, hevent, happends⟩ := exists_of_mem_right h.appended.flip hentry
    rw [← happends.recorded.occurredAt]
    refine hevents event (List.mem_filter.mpr ⟨hevent, decide_eq_true ?_⟩)
    exact happends.recorded.providerId.trans hprovider

theorem LedgerInv.writtenChain (h : LedgerInv sha256 c.shared) (providerId : Uuid) :
    WrittenChain sha256 (c.shared.store.eventsOf providerId) where
  follows := (h.balanced providerId).chain
  fits event hevent := h.fits event (List.mem_filter.mp hevent).1

/-- **When a ledger can be verified**: in any run, the verifier accepts the ledger of a provider if
the successful calls for the provider have instants in the years 1 to 9999, and only then, as long
as SHA-256 tells the payloads of the writer and the verifier apart. -/
theorem ledger_verified (hsha : ∀ payload, (sha256 payload).length = 32) (hstart : db.Opened)
    (hc : LedgerRun sha256 (ledgerStart db clock drawn) c) (providerId : Uuid) :
    ((∀ entry ∈ c.shared.history, entry.request.providerId = providerId →
        entry.request.occurredAt.FourDigits) →
      verifyLedgerChain sha256
        ((c.shared.store.ledger providerId).map CreditEvent.toLedgerEvent) = .ok true) ∧
    ((∀ link ∈ chainLinks (c.shared.store.ledger providerId),
        sha256 (link.2.appendPayload (hashBefore link.1)) =
          sha256 (link.2.toLedgerEvent.payload (hashBefore link.1)) →
        link.2.appendPayload (hashBefore link.1) =
          link.2.toLedgerEvent.payload (hashBefore link.1)) →
      verifyLedgerChain sha256
        ((c.shared.store.ledger providerId).map CreditEvent.toLedgerEvent) = .ok true →
      ∀ entry ∈ c.shared.history, entry.request.providerId = providerId →
        entry.request.occurredAt.FourDigits) := by
  have hinv : LedgerInv sha256 c.shared := (ledgerRun_sound hstart hc).inv
  have hwritten := hinv.writtenChain providerId
  rw [(hinv.balanced providerId).ledger_eq, calls_fourDigits_iff hinv, hwritten.verified_iff hsha]
  have hpayload (link) (hlink : link ∈ chainLinks (c.shared.store.eventsOf providerId)) :
      link.2.toLedgerEvent.payload (hashBefore link.1) = link.2.appendPayload (hashBefore link.1) ↔
        link.2.occurredAt.FourDigits := by
    obtain ⟨hid, hcredits⟩ := hwritten.fits link.2 (snd_mem_of_mem_chainLinks hlink)
    exact payload_eq_appendPayload_iff hid hcredits (hwritten.length_hashBefore hsha hlink)
  constructor
  · intro hdigits link hlink
    rw [(hpayload link hlink).mpr (hdigits link.2 (snd_mem_of_mem_chainLinks hlink))]
  · intro hcollision hverified event hevent
    obtain ⟨link, hlink, rfl⟩ := exists_chainLink hevent
    exact (hpayload link hlink).mp (hcollision link hlink (hverified link hlink)).symm

end Runs

theorem length_ledgerDigests (payload : Bytes) : (ledgerDigests payload).length = 32 := by
  rw [ledgerDigests]
  split
  · rfl
  · split <;> rfl

theorem retriedRun_fourDigits : ∀ entry ∈ ((exec (ledgerProgram ledgerDigests)
    (ledgerStart newLedger 0 0) retriedRun).get retriedRun_possible).shared.history,
    entry.request.providerId = ledgerProvider → entry.request.occurredAt.FourDigits := by
  decide +kernel

theorem ledger_verified_retriedRun : verifyLedgerChain ledgerDigests
    ((((exec (ledgerProgram ledgerDigests) (ledgerStart newLedger 0 0) retriedRun).get
      retriedRun_possible).shared.store.ledger ledgerProvider).map CreditEvent.toLedgerEvent) =
        .ok true :=
  (ledger_verified length_ledgerDigests newLedger_opened (.get _) ledgerProvider).1
    retriedRun_fourDigits

/-- The first instant of the year 10000. -/
def farDate : JsDate := ⟨253402300800000, by decide⟩

def farCall : AppendCreditEventInput := ledgerCall .proBonoMatterClosed "1" farDate

def farEvent : CreditEvent :=
  farCall.row (fun _ ↦ []) 1 (Numeric.ofText ['1']) (Numeric.ofText ['1']) none

/-- What SHA-256 gives for the payloads of the writer and of the verifier. -/
def farDigests (payload : Bytes) : Bytes :=
  if payload = farEvent.appendPayload ledgerGenesisHash then
    [253, 24, 183, 115, 23, 216, 122, 153, 58, 54, 120, 15, 126, 245, 78, 127, 220,
      230, 107, 139, 10, 167, 156, 232, 64, 60, 189, 69, 119, 27, 191, 183]
  else if payload = farEvent.toLedgerEvent.payload ledgerGenesisHash then
    [246, 163, 87, 55, 90, 31, 133, 27, 127, 59, 212, 239, 185, 113, 243, 187, 101,
      78, 107, 241, 161, 248, 227, 112, 149, 34, 36, 47, 202, 77, 223, 168]
  else List.replicate 32 255

def farRun : List (Action AppendCreditEventInput) := .start farCall :: List.replicate 14 (.run 0 0)

def answerOf (c : LedgerConfig) (i : ℕ) : Option AppendedCreditEvent :=
  match (c.sessions[i]?).bind (·.program) with
  | some (.pure answer) => some answer
  | _ => none

/-- The call succeeds, and its ledger cannot be verified. -/
theorem ledger_unverifiable :
    ((exec (ledgerProgram farDigests) (ledgerStart newLedger 0 0) farRun).bind
        fun c ↦ answerOf c 0).isSome ∧
      (exec (ledgerProgram farDigests) (ledgerStart newLedger 0 0) farRun).map
        (fun c ↦ verifyLedgerChain farDigests
          ((c.shared.store.ledger ledgerProvider).map CreditEvent.toLedgerEvent)) =
        some (.ok false) := by
  decide +kernel

end Nayasetu
