import Nayasetu.Ledger.Evidence
import Nayasetu.RowLock.Tracing

/-!
# What evidence is worth

Whatever the interleaving of the appends, a provider gets evidence whose text proves its payload to
whoever has the key, and whose events make up one chain that the verifier of the ledger accepts. A
redemption is recorded for exactly the evidence that was answered.
-/

namespace Nayasetu

open Values Collections RowLock

/-! ## The chain in the evidence

The events in a document tell those of the ledger: every field that is hashed can be got back.
-/

/-- The texts of an event, but for the hash before it. -/
structure LedgerEvent.Told (providerId : String) (event : LedgerEvent)
    (told : ProviderEvidenceEvent) : Prop where
  id : String.ofList (intText event.id) = told.id
  providerId : event.providerId = providerId
  eventType : event.eventType = told.eventType
  credits : event.credits = told.credits
  occurredAt : event.occurredAt.toISOString = told.occurredAt
  hash : String.ofList (hexText event.hash) = told.hash

/-- Events that have the texts of a payload, each with the hash of the event before it. -/
structure EvidencePayload.Tells (payload : EvidencePayload) (events : List LedgerEvent) : Prop where
  told : List.Forall₂ (LedgerEvent.Told payload.providerId) events payload.events
  linked : ∀ link ∈ links (fun event ↦ some event.hash) none events, link.2.previousHash = link.1

theorem JsDate.toISOString_inj {date date' : JsDate} (h : date.toISOString = date'.toISOString) :
    date = date' := by
  have hms := expandedText_inj date.bounded date'.bounded (String.ofList_injective h)
  cases date
  cases date'
  obtain rfl := hms
  rfl

/-- The texts leave no choice but for the hash before. -/
theorem LedgerEvent.Told.eq {providerId : String} {event event' : LedgerEvent}
    {told : ProviderEvidenceEvent} (h : event.Told providerId told)
    (h' : event'.Told providerId told)
    (hprevious : event.previousHash = event'.previousHash) : event = event' := by
  have hid := intText_inj (String.ofList_injective (h.id.trans h'.id.symm))
  have hdate := JsDate.toISOString_inj (h.occurredAt.trans h'.occurredAt.symm)
  have hhash := hexText_inj (String.ofList_injective (h.hash.trans h'.hash.symm))
  have hprovider := h.providerId.trans h'.providerId.symm
  have htype := h.eventType.trans h'.eventType.symm
  have hcredits := h.credits.trans h'.credits.symm
  obtain ⟨⟨id, provider, type, credits, date, previous⟩, hash⟩ := event
  obtain ⟨⟨id', provider', type', credits', date', previous'⟩, hash'⟩ := event'
  dsimp only at *
  subst hid hdate hhash hprovider htype hcredits hprevious
  rfl

theorem EvidencePayload.Tells.eq {payload : EvidencePayload} {events events' : List LedgerEvent}
    (h : payload.Tells events) (h' : payload.Tells events') : events = events' := by
  obtain ⟨htold, hlinked⟩ := h
  obtain ⟨htold', hlinked'⟩ := h'
  generalize payload.events = told at htold htold'
  generalize (none : Option Bytes) = previous at hlinked hlinked'
  induction htold generalizing events' previous with
  | nil =>
    cases htold'
    rfl
  | @cons event told events tolds hevent hrest ih =>
    cases htold' with
    | @cons event' _ events' _ hevent' hrest' =>
      rw [links, List.forall_mem_cons] at hlinked hlinked'
      obtain rfl := hevent.eq hevent' (hlinked.1.trans hlinked'.1.symm)
      rw [ih hrest' _ hlinked.2 hlinked'.2]

/-! ## Runs

Evidence is issued from a state that a run of appends has reached, at any time.
-/

section Runs

variable {sha256 : Bytes → Bytes} {db : LedgerDatabase} {clock : ℤ} {drawn : ℕ} {c : LedgerConfig}

/-- The application asks for the texts that an event is told by, before anything else. -/
theorem event_named (hstart : db.Opened) (hc : LedgerRun sha256 (ledgerStart db clock drawn) c) :
    ∀ event ∈ c.shared.store.events, event.weightVersion ≠ "" ∧ event.evidenceRef ≠ "" := by
  have htraced (input : AppendCreditEventInput) (t : ℤ) : (ledgerProgram sha256 input).Traced
      (fun _ ↦ input.weightVersion ≠ "" ∧ input.evidenceRef ≠ "") (fun _ _ ↦ True) (fun _ _ ↦ True)
      (.start t) := by
    refine traced_bind (traced_fromExcept (fun _ _ ↦ ?_) fun _ _ ↦ trivial)
    refine traced_bind (traced_fromExcept (fun _ hok ↦ ?_) fun _ _ ↦ trivial)
    exact traced_of_forall fun _ ↦ require_eq_ok_iff.mp hok
  obtain ⟨now, hnow⟩ := hc.exists_exec
  have hrun := exec_traced htraced hnow
  have hinv : LedgerInv sha256 c.shared := (ledgerRun_sound hstart hc).inv
  intro event hevent
  obtain ⟨entry, hentry, happends⟩ := exists_of_mem_right hinv.appended hevent
  obtain ⟨-, -, -, -, -, -, hnamed⟩ := hrun.commit entry hentry
  rw [happends.recorded.weightVersion, happends.recorded.evidenceRef]
  exact hnamed

theorem WrittenChain.length_hash {events : List CreditEvent} (h : WrittenChain sha256 events)
    (hsha : ∀ payload, (sha256 payload).length = 32) : ∀ event ∈ events,
    event.hash.length = 32 := by
  intro event hevent
  obtain ⟨link, hlink, rfl⟩ := exists_chainLink hevent
  rw [(h.follows link hlink).hash]
  exact hsha _

theorem WrittenChain.told {events : List CreditEvent} (h : WrittenChain sha256 events)
    {providerId : Uuid} (hprovider : ∀ event ∈ events, event.providerId = providerId) :
    List.Forall₂ (LedgerEvent.Told (String.ofList providerId.text))
        (events.map (·.toLedgerEvent)) (events.map (·.evidence)) ∧
      ∀ link ∈ links (fun event : LedgerEvent ↦ some event.hash) none
        (events.map (·.toLedgerEvent)), link.2.previousHash = link.1 := by
  constructor
  · rw [List.forall₂_map_left_iff, List.forall₂_map_right_iff, List.forall₂_same]
    intro event hevent
    exact ⟨rfl, by rw [← hprovider event hevent]; rfl, rfl, rfl, rfl, rfl⟩
  · have hlinks : links (fun event : LedgerEvent ↦ some event.hash) none
        (events.map (·.toLedgerEvent)) =
          (chainLinks events).map fun link ↦ (link.1, link.2.toLedgerEvent) :=
      links_map CreditEvent.toLedgerEvent (fun hash ↦ hash) (fun _ ↦ rfl) none events
    intro link hlink
    rw [hlinks] at hlink
    obtain ⟨link', hlink', rfl⟩ := List.mem_map.mp hlink
    exact (h.follows link' hlink').prevHash

/-- The formats take the identifiers of providers and of documents, and the instants of four-digit
years. -/
structure TextFormats.Take (formats : TextFormats) (ids : List Uuid) : Prop where
  uuid : ∀ id ∈ ids, formats.uuid (String.ofList id.text) = true
  datetime : ∀ date : JsDate, date.FourDigits → formats.datetime date.toISOString = true

/-- An event that is written in a year of four digits is what the schema asks for. -/
theorem evidence_accepted {formats : TextFormats} {ids : List Uuid} (hformats : formats.Take ids)
    {event : CreditEvent} (hhash : event.hash.length = 32)
    (hnamed : event.weightVersion ≠ "" ∧ event.evidenceRef ≠ "")
    (hdigits : event.occurredAt.FourDigits) :
    providerEvidenceEventSchema formats event.evidence :=
  ⟨isDigits_intText _, decimalPattern_text _, decimalPattern_text _, hnamed.1, hnamed.2,
    hformats.datetime _ hdigits, isHexDigest_hexText hhash⟩

variable {hmacSha256 : JsString → JsString → Digest} {formats : TextFormats} {ids : List Uuid}
  {providerId artifactId : Uuid} {kind : RedemptionKind} {now : JsDate} {secret : JsString}

/-- What is signed for a provider passes the schema. -/
theorem signedEvidence_accepted (hsha : ∀ payload, (sha256 payload).length = 32)
    (hstart : db.Opened) (hc : LedgerRun sha256 (ledgerStart db clock drawn) c)
    (hformats : formats.Take ids) (hprovider : providerId ∈ ids) (hartifact : artifactId ∈ ids)
    (hnow : now.FourDigits)
    (hdigits : ∀ entry ∈ c.shared.history, entry.request.providerId = providerId →
      entry.request.occurredAt.FourDigits) :
    signedEvidenceResponseSchema formats (signEvidence hmacSha256
      (evidencePayload c.shared.store providerId kind artifactId now) secret) := by
  have hinv : LedgerInv sha256 c.shared := (ledgerRun_sound hstart hc).inv
  have hwritten := hinv.writtenChain providerId
  have hyears := (calls_fourDigits_iff hinv).mp hdigits
  have hdisclaimer : evidenceDisclaimer kind ≠ "" := by cases kind <;> decide
  refine ⟨⟨hformats.uuid _ hartifact, hformats.uuid _ hprovider, hformats.datetime _ hnow,
    hdisclaimer, fun told htold ↦ ?_⟩, rfl, isHexDigest_hexText (hmacSha256 secret _).property⟩
  rw [evidencePayload, (hinv.balanced providerId).ledger_eq] at htold
  obtain ⟨event, hevent, rfl⟩ := List.mem_map.mp htold
  exact evidence_accepted hformats (hwritten.length_hash hsha event hevent)
    (event_named hstart hc event (List.mem_filter.mp hevent).1) (hyears event hevent)

theorem authenticEvidence_signEvidence {payload : EvidencePayload} {body : JsString}
    (h : evidenceOf body = some (payload.document,
      units (signEvidence hmacSha256 payload secret).signature)) :
    authenticEvidence hmacSha256 secret body = some payload.document := by
  rw [authenticEvidence, h, Option.bind_eq_bind, Option.bind_some]
  exact if_pos rfl

theorem evidencePayload_verified (hsha : ∀ payload, (sha256 payload).length = 32)
    (hstart : db.Opened) (hc : LedgerRun sha256 (ledgerStart db clock drawn) c)
    (hdigits : ∀ entry ∈ c.shared.history, entry.request.providerId = providerId →
      entry.request.occurredAt.FourDigits) :
    ∃ events, (evidencePayload c.shared.store providerId kind artifactId now).Tells events ∧
      (∀ events', (evidencePayload c.shared.store providerId kind artifactId now).Tells events' →
        events' = events) ∧
      verifyLedgerChain sha256 events = .ok true := by
  have hinv : LedgerInv sha256 c.shared := (ledgerRun_sound hstart hc).inv
  have hwritten := hinv.writtenChain providerId
  have hyears := (calls_fourDigits_iff hinv).mp hdigits
  have hledger := (hinv.balanced providerId).ledger_eq
  obtain ⟨htold, hlinked⟩ := hwritten.told fun event hevent ↦
    of_decide_eq_true (List.mem_filter.mp hevent).2
  have htells : (evidencePayload c.shared.store providerId kind artifactId now).Tells
      ((c.shared.store.eventsOf providerId).map (·.toLedgerEvent)) := by
    refine ⟨?_, hlinked⟩
    rw [evidencePayload, hledger]
    exact htold
  refine ⟨_, htells, fun events' h ↦ h.eq htells,
    (hwritten.verified_iff hsha).mpr fun link hlink ↦ ?_⟩
  have hevent := snd_mem_of_mem_chainLinks hlink
  obtain ⟨hid, hcredits⟩ := hwritten.fits link.2 hevent
  rw [(payload_eq_appendPayload_iff hid hcredits (hwritten.length_hashBefore hsha hlink)).mpr
    (hyears link.2 hevent)]

/-- **Evidence can be verified**: in any run, a provider whose calls have instants in the years 1 to
9999 gets signed evidence of each kind. Its text proves the payload to whoever has the key, no other
text proves another payload with the same signature, unless the keyed hash has a collision there,
and the events told by the payload are one chain, which the verifier accepts. -/
theorem evidence_verified (hmacSha256 : JsString → JsString → Digest) (secret : JsString)
    (kind : RedemptionKind) (providers : List ProviderOwner) (actor : ActorContext)
    (hsha : ∀ payload, (sha256 payload).length = 32) (hstart : db.Opened)
    (hc : LedgerRun sha256 (ledgerStart db clock drawn) c) (hactor : actor.actorType = .provider)
    {owner : ProviderOwner} (howner : providers.find? (·.userId = actor.actorId) = some owner)
    (hsecret : secret ≠ []) (hformats : formats.Take [owner.id, artifactId]) (hnow : now.FourDigits)
    (hdigits : ∀ entry ∈ c.shared.history, entry.request.providerId = owner.id →
      entry.request.occurredAt.FourDigits) :
    ∃ signed, evidenceRoute hmacSha256 kind formats (some secret) providers c.shared.store actor
        artifactId now = .ok signed ∧
      signed.payload = evidencePayload c.shared.store owner.id kind artifactId now ∧
      authenticEvidence hmacSha256 secret signed.document.stringify = some signed.payload.document ∧
      (∀ body payload', authenticEvidence hmacSha256 secret body = some payload' →
        evidenceOf body = some (payload', units signed.signature) →
        (hmacSha256 secret payload'.stringify =
          hmacSha256 secret signed.payload.document.stringify →
          payload'.stringify = signed.payload.document.stringify) →
        payload' = signed.payload.document) ∧
      ∃ events, signed.payload.Tells events ∧
        (∀ events', signed.payload.Tells events' → events' = events) ∧
        verifyLedgerChain sha256 events = .ok true := by
  let payload := evidencePayload c.shared.store owner.id kind artifactId now
  have haccepted : signedEvidenceResponseSchema formats (signEvidence hmacSha256 payload secret) :=
    signedEvidence_accepted hsha hstart hc hformats List.mem_cons_self
      (List.mem_cons_of_mem _ List.mem_cons_self) hnow hdigits
  refine ⟨signEvidence hmacSha256 payload secret, ?_, rfl,
    authenticEvidence_signEvidence evidenceOf_document,
    fun body payload' hbody hsame hcollision ↦ ?_, evidencePayload_verified hsha hstart hc hdigits⟩
  · have hkey : (some secret).filter (fun secret ↦ decide (secret ≠ [])) = some secret :=
      Option.filter_eq_some_iff.mpr ⟨rfl, decide_eq_true hsecret⟩
    have hevidence : evidenceFor hmacSha256 kind (some secret) providers c.shared.store actor
        artifactId now = .ok (owner.id, signEvidence hmacSha256 payload secret) := by
      rw [evidenceFor, hkey, providerIdForActor, howner]
      rfl
    rw [evidenceRoute, requireProvider, unit_bind_eq_ok_iff]
    refine ⟨require_eq_ok_iff.mpr hactor, bind_eq_ok_iff.mpr ⟨_, hevidence, ?_⟩⟩
    exact unit_bind_eq_ok_iff.mpr ⟨require_eq_ok_iff.mpr haccepted, rfl⟩
  · exact authenticEvidence_unique hbody hsame hcollision

theorem redemptionEvidence_eq_ok {kind? : Option RedemptionKind}
    {evidenceSigningSecret : Option JsString} {providers : List ProviderOwner}
    {actor : ActorContext}
    {signed : SignedEvidence}
    (h : redemptionEvidence hmacSha256 kind? evidenceSigningSecret providers db actor
      artifactId now = .ok (kind, providerId, signed)) :
    ∃ secret, evidenceSigningSecret = some secret ∧
      (∃ owner ∈ providers, owner.userId = actor.actorId ∧ owner.id = providerId) ∧
      signed = signEvidence hmacSha256
        (evidencePayload db providerId kind artifactId now) secret := by
  obtain ⟨-, h⟩ := unit_bind_eq_ok_iff.mp h
  cases kind? with
  | none => cases h
  | some kind =>
    obtain ⟨⟨providerId', signed'⟩, hevidence, h⟩ := bind_eq_ok_iff.mp h
    obtain ⟨rfl, hrest⟩ := Prod.mk.inj (Except.ok.inj h)
    obtain ⟨rfl, rfl⟩ := Prod.mk.inj hrest
    rw [evidenceFor] at hevidence
    cases hkey : evidenceSigningSecret.filter fun secret ↦ decide (secret ≠ []) with
    | none =>
      rw [hkey] at hevidence
      cases hevidence
    | some secret =>
      rw [hkey] at hevidence
      obtain ⟨providerId', hprovider, hevidence⟩ := bind_eq_ok_iff.mp hevidence
      obtain ⟨rfl, rfl⟩ := Prod.mk.inj (Except.ok.inj hevidence)
      rw [providerIdForActor] at hprovider
      cases hrow : providers.find? fun row ↦ decide (row.userId = actor.actorId) with
      | none =>
        rw [hrow] at hprovider
        cases hprovider
      | some owner =>
        rw [hrow] at hprovider
        obtain rfl := Except.ok.inj hprovider
        have huser : owner.userId = actor.actorId := by simpa using List.find?_some hrow
        exact ⟨secret, (Option.filter_eq_some_iff.mp hkey).1,
          ⟨owner, List.mem_of_find?_eq_some hrow, huser, rfl⟩, rfl⟩

theorem redemptionEvidence_eq_error {kind? : Option RedemptionKind}
    {evidenceSigningSecret : Option JsString} {providers : List ProviderOwner}
    {actor : ActorContext}
    {e : Failure} (h : redemptionEvidence hmacSha256 kind? evidenceSigningSecret providers db actor
      artifactId now = .error e) : ∃ status code message, e = .app status code message := by
  rcases bind_eq_error_iff.mp h with hactor | ⟨_, -, h⟩
  · exact ⟨_, _, _, eq_of_require_eq_error hactor⟩
  cases kind? with
  | none => exact ⟨_, _, _, (Except.error.inj h).symm⟩
  | some kind =>
    rcases bind_eq_error_iff.mp h with hevidence | ⟨_, -, hissued⟩
    · rw [evidenceFor] at hevidence
      cases hkey : evidenceSigningSecret.filter fun secret ↦ decide (secret ≠ []) with
      | none =>
        rw [hkey] at hevidence
        exact ⟨_, _, _, (Except.error.inj hevidence).symm⟩
      | some secret =>
        rw [hkey] at hevidence
        rcases bind_eq_error_iff.mp hevidence with hprovider | ⟨_, -, hsigned⟩
        · rw [providerIdForActor] at hprovider
          cases hrow : providers.find? fun row ↦ decide (row.userId = actor.actorId) with
          | none =>
            rw [hrow] at hprovider
            exact ⟨_, _, _, (Except.error.inj hprovider).symm⟩
          | some owner =>
            rw [hrow] at hprovider
            cases hprovider
        · cases hsigned
    · cases hissued

/-- A redemption as it is recorded for its answer. -/
structure RecordedFor (hmacSha256 : JsString → JsString → Digest) (sha256Text : JsString → Digest)
    (secret : JsString) (db : LedgerDatabase) (row : Redemption) (response : RedemptionResponse) :
    Prop where
  redemptionId : response.redemptionId = String.ofList row.id.text
  issuedAt : response.issuedAt = row.issuedAt.toISOString
  creditsSpent : row.creditsSpent = Numeric.ofInt 0
  kind : response.signed.payload.kind = row.kind
  events : response.signed.payload.events = (db.ledger row.providerId).map (·.evidence)
  /-- The text that is answered proves the payload, -/
  authentic : authenticEvidence hmacSha256 secret response.document.stringify =
    some response.signed.payload.document
  /-- and the reference is the hash of the text of what is signed. -/
  artefactRef : row.artefactRef =
    String.ofList (hexText (sha256Text response.signed.document.stringify).val)

/-- **A redemption is recorded if it is answered**, and not if it is refused: although the answer is
only checked when the row has been committed, no check fails there. -/
theorem redemption_recorded (hmacSha256 : JsString → JsString → Digest)
    (sha256Text : JsString → Digest) (kind? : Option RedemptionKind)
    (evidenceSigningSecret : Option JsString) (providers : List ProviderOwner)
    (actor : ActorContext)
    (tables : RedemptionTables) (hsha : ∀ payload, (sha256 payload).length = 32)
    (hstart : db.Opened) (hc : LedgerRun sha256 (ledgerStart db clock drawn) c) {id : Uuid}
    {issuedAt : JsDate}
    (hformats : formats.Take (artifactId :: id :: providers.map (·.id))) (hnow : now.FourDigits)
    (hissued : issuedAt.FourDigits)
    (hdigits : ∀ entry ∈ c.shared.history, entry.request.occurredAt.FourDigits) :
    (∃ status code message, createRedemption hmacSha256 sha256Text kind? formats
      evidenceSigningSecret providers c.shared.store actor artifactId now id issuedAt tables =
        (.error (.app status code message), tables)) ∨
    ∃ response row secret, createRedemption hmacSha256 sha256Text kind? formats
        evidenceSigningSecret providers c.shared.store actor artifactId now id issuedAt tables =
          (.ok response, tables.insert actor row) ∧
      evidenceSigningSecret = some secret ∧
      (∃ owner ∈ providers, owner.userId = actor.actorId ∧ owner.id = row.providerId) ∧
      RecordedFor hmacSha256 sha256Text secret c.shared.store row response := by
  rw [createRedemption.eq_def]
  cases hevidence : redemptionEvidence hmacSha256 kind? evidenceSigningSecret providers
      c.shared.store actor artifactId now with
  | error e =>
    obtain ⟨status, code, message, rfl⟩ := redemptionEvidence_eq_error hevidence
    exact .inl ⟨status, code, message, rfl⟩
  | ok issued =>
    obtain ⟨kind, providerId, signed⟩ := issued
    obtain ⟨secret, hsecret, howner, rfl⟩ := redemptionEvidence_eq_ok hevidence
    let payload := evidencePayload c.shared.store providerId kind artifactId now
    let row :=
      (signEvidence hmacSha256 payload secret).redemption sha256Text kind providerId id issuedAt
    have hprovider : providerId ∈ artifactId :: id :: providers.map (·.id) := by
      obtain ⟨owner, hmem, -, rfl⟩ := howner
      exact List.mem_cons_of_mem _ (List.mem_cons_of_mem _ (List.mem_map_of_mem hmem))
    have hsigned : signedEvidenceResponseSchema formats (signEvidence hmacSha256 payload secret) :=
      signedEvidence_accepted hsha hstart hc hformats hprovider List.mem_cons_self hnow
        fun entry hentry _ ↦ hdigits entry hentry
    -- the row is committed before its answer is checked, so the check must not fail
    have haccepted : redemptionResponseSchema formats
        (row.response (signEvidence hmacSha256 payload secret)) :=
      ⟨hformats.uuid id (List.mem_cons_of_mem _ List.mem_cons_self), hformats.datetime _ hissued,
        hsigned⟩
    have hanswer : (do
        require (redemptionResponseSchema formats
          (row.response (signEvidence hmacSha256 payload secret))) (.zod ["redemptionId"])
        return row.response (signEvidence hmacSha256 payload secret) :
          Except Failure RedemptionResponse) =
            .ok (row.response (signEvidence hmacSha256 payload secret)) :=
      unit_bind_eq_ok_iff.mpr ⟨require_eq_ok_iff.mpr haccepted, rfl⟩
    refine .inr ⟨_, row, secret, congrArg (·, tables.insert actor row) hanswer, hsecret, howner,
      ⟨rfl, rfl, rfl, rfl, rfl, ?_, rfl⟩⟩
    exact authenticEvidence_signEvidence (evidenceOf_redemption _)

end Runs

/-! ## A document of evidence

A ledger with the event of one call, the evidence for it with digests as the real functions
compute them, and a redemption.
-/

def evidenceProvider : Uuid := ⟨0x5f0c7a1e93b24d6a8e21c4d7b0a6f359, by decide⟩

/-- The identifier of a document. -/
def evidenceArtifact : Uuid := ⟨0xa3d1f0c2b4e54f6789abcdef01234567, by decide⟩

/-- The third day of 2026. -/
def evidenceDate : JsDate := ⟨1767398400000, by decide⟩

def evidenceLedger : LedgerDatabase where
  events := []
  balances := [⟨evidenceProvider, .ofInt 0, .ofInt 0, none⟩]
  auditEvents := []

theorem evidenceLedger_opened : evidenceLedger.Opened where
  events := rfl
  balance_ids := List.nodup_singleton _
  balances balance hbalance := by
    rw [List.mem_singleton.mp hbalance]
    exact ⟨rfl, rfl, rfl⟩

def evidenceCall : AppendCreditEventInput :=
  { ledgerCall .proBonoMatterClosed "2.50" evidenceDate with providerId := evidenceProvider }

/-- What SHA-256 gives for the payload of its event. -/
def evidenceDigests (payload : Bytes) : Bytes :=
  let event := evidenceCall.row (fun _ ↦ []) 1 (Numeric.ofText ['1'])
    (Numeric.ofText ['2', '.', '5', '0']) none
  if payload = event.appendPayload ledgerGenesisHash then
    [239, 64, 110, 204, 107, 75, 13, 24, 218, 212, 7, 98, 149, 218, 10, 174, 109, 66, 136, 169,
      154, 50, 70, 55, 68, 2, 64, 45, 151, 128, 68, 216]
  else List.replicate 32 255

theorem length_evidenceDigests (payload : Bytes) : (evidenceDigests payload).length = 32 := by
  rw [evidenceDigests]
  split <;> rfl

/-- The call, alone. -/
def evidenceRun : List (Action AppendCreditEventInput) :=
  .start evidenceCall :: List.replicate 14 (.run 0 0)

theorem evidenceRun_possible :
    (exec (ledgerProgram evidenceDigests) (ledgerStart evidenceLedger 0 0) evidenceRun).isSome := by
  decide +kernel

theorem evidenceRun_fourDigits : ∀ entry ∈ ((exec (ledgerProgram evidenceDigests)
    (ledgerStart evidenceLedger 0 0) evidenceRun).get evidenceRun_possible).shared.history,
    entry.request.occurredAt.FourDigits := by
  decide +kernel

/-- The key. -/
def evidenceSecret : JsString := units "evidence-signing-secret-of-the-test"

/-- What HMAC-SHA256 gives for the document of that event, with that key. -/
def evidenceHmac (_secret _text : JsString) : Digest :=
  ⟨[248, 110, 161, 203, 143, 186, 108, 28, 234, 179, 173, 115, 2, 92, 57, 213, 183, 90, 176,
    160, 19, 8, 165, 121, 220, 120, 86, 206, 20, 30, 13, 6], rfl⟩

/-- What SHA-256 gives for the signed document. -/
def evidenceTextDigest (_text : JsString) : Digest :=
  ⟨[235, 141, 178, 98, 88, 118, 227, 42, 151, 112, 29, 153, 211, 70, 118, 216, 23, 100, 39, 187,
    75, 75, 188, 10, 38, 129, 120, 251, 186, 255, 68, 246], rfl⟩

def evidenceFormats : TextFormats := ⟨fun _ ↦ true, fun _ ↦ true⟩

theorem evidenceFormats_take (ids : List Uuid) : evidenceFormats.Take ids :=
  ⟨fun _ _ ↦ rfl, fun _ _ ↦ rfl⟩

/-- The user of the provider. -/
def evidenceActor : ActorContext :=
  { actorId := 3, actorType := .provider, scopes := [], requestId := "request" }

theorem evidence_verified_evidenceRun : ∃ signed, serviceRecord evidenceHmac evidenceFormats
    (some evidenceSecret) [⟨evidenceProvider, 3⟩]
    ((exec (ledgerProgram evidenceDigests) (ledgerStart evidenceLedger 0 0) evidenceRun).get
      evidenceRun_possible).shared.store evidenceActor evidenceArtifact evidenceDate = .ok signed ∧
    authenticEvidence evidenceHmac evidenceSecret signed.document.stringify =
      some signed.payload.document := by
  have hsecret : evidenceSecret ≠ [] := by decide
  have hnow : evidenceDate.FourDigits := by decide
  obtain ⟨signed, hok, -, hauthentic, -⟩ := evidence_verified evidenceHmac evidenceSecret
    .serviceRecordExport [⟨evidenceProvider, 3⟩] evidenceActor length_evidenceDigests
    evidenceLedger_opened (.get evidenceRun_possible) rfl rfl hsecret
    (evidenceFormats_take [evidenceProvider, evidenceArtifact]) hnow
    fun entry hentry _ ↦ evidenceRun_fourDigits entry hentry
  exact ⟨signed, hok, hauthentic⟩

theorem redemption_recorded_evidenceRun : ∃ response row, createRedemption evidenceHmac
    evidenceTextDigest (some .serviceRecordExport) evidenceFormats (some evidenceSecret)
    [⟨evidenceProvider, 3⟩]
    ((exec (ledgerProgram evidenceDigests) (ledgerStart evidenceLedger 0 0) evidenceRun).get
      evidenceRun_possible).shared.store evidenceActor evidenceArtifact evidenceDate
    evidenceArtifact evidenceDate ⟨[], []⟩ =
      (.ok response, RedemptionTables.insert ⟨[], []⟩ evidenceActor row) := by
  have hnow : evidenceDate.FourDigits := by decide
  rcases redemption_recorded evidenceHmac evidenceTextDigest (some .serviceRecordExport)
    (some evidenceSecret) [⟨evidenceProvider, 3⟩] evidenceActor ⟨[], []⟩ length_evidenceDigests
    evidenceLedger_opened (.get evidenceRun_possible)
    (evidenceFormats_take [evidenceArtifact, evidenceArtifact, evidenceProvider]) hnow hnow
    evidenceRun_fourDigits with ⟨status, code, message, hrefused⟩ | ⟨response, row, -, hok, -⟩
  · have hlength := congrArg (fun result ↦ result.2.redemptions.length) hrefused
    dsimp only at hlength
    exact absurd hlength (by decide +kernel)
  · exact ⟨response, row, hok⟩

end Nayasetu
