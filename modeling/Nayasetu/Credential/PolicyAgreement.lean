import Mathlib.Data.List.TakeWhile
import Nayasetu.Credential.Operations

/-!
# The two validators of a policy

`finalize_verification_case` checks the active policy again before it decides
(`validatePolicySql`), with the same demands on the shape of the document and on its sources and
legs as the application (`parseCredentialTierPolicy_eq_ok_iff`). The two part in what a key, a
number and a blank text is. The schema of the application passes over a key `__proto__`, which the
database counts among the fields of an object. The application rounds the freshness to a double
and asks for an integer, so that `1000.0` is one; the database matches the digits as they are
stored. The application trims every white space, the database trims spaces only.
-/

namespace Nayasetu

open Values

/-! ## What the database accepts

The checks of `finalize_verification_case`, taken one block after another, as conditions on the
reading of the document. What they demand of the shape, of the sources and of the legs is what the
application demands.
-/

/-- The number is stored as a positive integer, without digits after the point. -/
def IsPlainFreshness (n : Numeric) : Prop :=
  0 < n.unscaled ∧ n.scale = 0 ∧ n.unscaled ≤ MAX_CREDENTIAL_FRESHNESS_MS

section Sql

variable {doc : Jsonb} {ms decidedAt : ℤ}

private theorem keys_length {names : List String} (hnames : names.Nodup) (hstored : doc.IsStored)
    (hkeys : ∀ key ∈ doc.keys, key ∈ names) (hall : ∀ name ∈ names, name ∈ doc.keys) :
    doc.keys.length = names.length :=
  ((List.perm_ext_iff_of_nodup hstored.keys_nodup hnames).mpr
    fun key ↦ ⟨hkeys key, hall key⟩).length_eq

private theorem mem_keys_of_kindAt {key : String} {kind : Jsonb.Kind}
    (h : doc.kindAt key = some kind) : key ∈ doc.keys := by
  obtain ⟨value, hget, -⟩ := Jsonb.kindAt_eq_some_iff.mp h
  exact Jsonb.mem_keys_of_get hget

/-- The kind of every source is a known one; the database looks at that with the identifiers. -/
def KnownSources (doc : Jsonb) : Prop :=
  ∀ source ∈ doc.elementsAt "sources",
    ((source.textAt "evidenceKind").bind CredentialEvidenceKind.ofText).isSome

/-- No object of the document has a key that the application passes over. -/
structure NoPassedKeys (doc : Jsonb) : Prop where
  document : "__proto__" ∉ doc.keys
  source : ∀ source ∈ doc.elementsAt "sources", "__proto__" ∉ source.keys
  leg : ∀ leg ∈ policyLegs doc, "__proto__" ∉ leg.keys

private theorem keys_mem_iff {names : List String} (hnames : "__proto__" ∉ names) :
    (∀ key ∈ doc.keys, key ∈ names) ↔
      (∀ key ∈ doc.keys, key = "__proto__" ∨ key ∈ names) ∧ "__proto__" ∉ doc.keys := by
  constructor
  · intro h
    exact ⟨fun key hkey ↦ .inr (h key hkey), fun hproto ↦ hnames (h _ hproto)⟩
  · rintro ⟨h, hproto⟩ key hkey
    exact (h key hkey).resolve_left fun heq ↦ hproto (heq ▸ hkey)

/-- The first block of the database asks for the shape, and for no other key at all. -/
theorem checkPolicyShape_eq_ok_iff (hstored : doc.IsStored) :
    checkPolicyShape doc = .ok () ∧ KnownSources doc ↔ (PolicyShape doc ∧ NoPassedKeys doc) ∧
      doc.elementsAt "sources" ≠ [] ∧ doc.elementsAt "requiredDocumentLegs" ≠ [] ∧
      doc.elementsAt "currentAuthorityLegs" ≠ [] ∧
      ∃ n, doc.get "currentAuthorityFreshnessMs" = some (.number n) ∧ 0 < n.unscaled ∧
      n.scale = 0 := by
  have htext {n : Numeric} (hn : doc.get "currentAuthorityFreshnessMs" = some (.number n)) :
      (doc.textAt "currentAuthorityFreshnessMs").all
        (fun text ↦ !Numeric.isPositiveIntegerText text.toList) = true ↔
          ¬ (0 < n.unscaled ∧ n.scale = 0) := by
    rw [← Numeric.isPositiveIntegerText_text_iff, Jsonb.textAt, hn, Option.bind_some, Jsonb.text,
      Option.all_some, String.toList_ofList, Bool.not_eq_true', Bool.not_eq_true]
  simp only [checkPolicyShape, unit_bind_eq_ok_iff, raiseIf_eq_ok_iff, not_or, not_not, not_exists,
    not_and]
  constructor
  · rintro ⟨⟨⟨hobject, hversion, htype, hsources, hrequired, -, hauthority, hfreshness⟩,
      ⟨hsourcesNe, hrequiredNe, hauthorityNe, hplain⟩, ⟨hsourceObject, hlegObject⟩,
      ⟨-, hkeys, hsourceKeys, hlegKeys⟩, ⟨hsourceKinds, hlegKinds⟩, hstrings⟩, hknown⟩
    obtain ⟨value, hget, hvalue⟩ := Jsonb.kindAt_eq_some_iff.mp hfreshness
    obtain ⟨n, rfl⟩ := Jsonb.kind_eq_number_iff.mp hvalue
    have hdocKeys := (keys_mem_iff (by decide)).mp hkeys
    have hsourceKeys' := fun source hs ↦ (keys_mem_iff (by decide)).mp (hsourceKeys source hs).2
    have hlegKeys' := fun leg hl ↦ (keys_mem_iff (by decide)).mp (hlegKeys leg hl).2
    refine ⟨⟨?_, ⟨hdocKeys.2, fun source hs ↦ (hsourceKeys' source hs).2,
      fun leg hl ↦ (hlegKeys' leg hl).2⟩⟩, hsourcesNe, hrequiredNe, hauthorityNe, n, hget, ?_⟩
    · exact
        { object := hobject
          version := hversion
          providerType := htype
          sources := hsources
          requiredDocumentLegs := hrequired
          currentAuthorityLegs := hauthority
          freshness := hfreshness
          source := fun source hs ↦ ⟨hsourceObject source hs, (hsourceKinds source hs).1,
            (hsourceKinds source hs).2, hknown source hs, (hsourceKeys' source hs).1⟩
          leg := fun leg hl ↦ ⟨hlegObject leg hl, (hlegKinds leg hl).1, (hlegKinds leg hl).2,
            hstrings leg hl, (hlegKeys' leg hl).1⟩
          keys := hdocKeys.1 }
    · by_contra hnot
      exact hplain ((htext hget).mpr hnot)
  · rintro ⟨⟨h, hpassed⟩, hsourcesNe, hrequiredNe, hauthorityNe, n, hn, hplain⟩
    have hkeys := (keys_mem_iff (by decide)).mpr ⟨h.keys, hpassed.document⟩
    have hsourceKeys := fun source hs ↦
      (keys_mem_iff (by decide)).mpr ⟨(h.source source hs).keys, hpassed.source source hs⟩
    have hlegKeys := fun leg hl ↦
      (keys_mem_iff (by decide)).mpr ⟨(h.leg leg hl).keys, hpassed.leg leg hl⟩
    have hidentity : LegShape (identityLeg doc) :=
      h.leg _ (List.mem_append_left _ (List.mem_append_right _ (List.mem_singleton.mpr rfl)))
    -- a missing leg would be read as `null`, which has no shape
    have hidentityObject : doc.kindAt "identityConsistencyLeg" = some .object := by
      cases hget : doc.get "identityConsistencyLeg" with
      | none =>
        have hobject := hidentity.object
        rw [identityLeg, hget] at hobject
        cases hobject
      | some value =>
        have hobject := hidentity.object
        rw [identityLeg, hget, Option.getD_some] at hobject
        exact Jsonb.kindAt_eq_some_iff.mpr ⟨value, hget, hobject⟩
    have hleg : ∀ leg ∈ policyLegs doc, leg.IsStored := by
      intro leg hl
      simp only [policyLegs, List.mem_append, List.mem_singleton] at hl
      rcases hl with (hl | rfl) | hl
      · exact hstored.of_mem_elementsAt hl
      · obtain ⟨value, hget, -⟩ := Jsonb.kindAt_eq_some_iff.mp hidentityObject
        rw [identityLeg, hget]
        exact hstored.get hget
      · exact hstored.of_mem_elementsAt hl
    refine ⟨⟨⟨h.object, h.version, h.providerType, h.sources, h.requiredDocumentLegs,
      hidentityObject, h.currentAuthorityLegs, h.freshness⟩,
      ⟨hsourcesNe, hrequiredNe, hauthorityNe, fun hall ↦ ?_⟩,
      ⟨fun source hs ↦ (h.source source hs).object, fun leg hl ↦ (h.leg leg hl).object⟩,
      ⟨?_, hkeys, fun source hs ↦ ⟨?_, hsourceKeys source hs⟩, fun leg hl ↦ ⟨?_, hlegKeys leg hl⟩⟩,
      ⟨fun source hs ↦ ⟨(h.source source hs).sourceId, (h.source source hs).evidenceKind⟩,
        fun leg hl ↦ ⟨(h.leg leg hl).checkType, (h.leg leg hl).allowedSourceIds⟩⟩,
      fun leg hl ↦ (h.leg leg hl).strings⟩, fun source hs ↦ (h.source source hs).known⟩
    · exact (htext hn).mp hall hplain
    -- the numbers of keys: all that are known are there, and there are no others
    · refine keys_length (by decide) hstored hkeys ?_
      simp only [List.forall_mem_cons, List.not_mem_nil, false_implies, implies_true, and_true]
      exact ⟨mem_keys_of_kindAt h.version, mem_keys_of_kindAt h.providerType,
        mem_keys_of_kindAt h.sources, mem_keys_of_kindAt h.requiredDocumentLegs,
        mem_keys_of_kindAt hidentityObject, mem_keys_of_kindAt h.currentAuthorityLegs,
        mem_keys_of_kindAt h.freshness⟩
    · refine keys_length (by decide) (hstored.of_mem_elementsAt hs) (hsourceKeys source hs) ?_
      simp only [List.forall_mem_cons, List.not_mem_nil, false_implies, implies_true, and_true]
      exact ⟨mem_keys_of_kindAt (h.source source hs).sourceId,
        mem_keys_of_kindAt (h.source source hs).evidenceKind⟩
    · refine keys_length (by decide) (hleg leg hl) (hlegKeys leg hl) ?_
      simp only [List.forall_mem_cons, List.not_mem_nil, false_implies, implies_true, and_true]
      exact ⟨mem_keys_of_kindAt (h.leg leg hl).checkType,
        mem_keys_of_kindAt (h.leg leg hl).allowedSourceIds⟩

variable (h : PolicyShape doc) (ms : ℤ)

private theorem map_some_nodup_iff {α : Type} {l : List α} : (l.map some).Nodup ↔ l.Nodup :=
  List.nodup_map_iff (Option.some_injective α)

private theorem isBlank_some {text : String} : isBlank (some text) = false ↔ btrim text ≠ "" := by
  rw [isBlank, Option.all_some, decide_eq_false_iff_not]

include h

theorem PolicyShape.mem_sourcesOf {sourceId : String} {row : SourceRow} :
    row ∈ sourcesOf doc sourceId ↔
      ∃ source ∈ (readPolicy doc ms).sources, source.sourceId = sourceId ∧ source.row = row := by
  rw [sourcesOf, h.sourceRows_eq ms, List.mem_filter, List.mem_map, decide_eq_true_iff]
  constructor
  · rintro ⟨⟨source, hs, rfl⟩, hid⟩
    exact ⟨source, hs, Option.some.inj hid, rfl⟩
  · rintro ⟨source, hs, rfl, rfl⟩
    exact ⟨⟨source, hs, rfl⟩, rfl⟩

theorem PolicyShape.checkPolicyIdentifiers_eq_ok_iff : checkPolicyIdentifiers doc = .ok () ↔
    (∀ source ∈ (readPolicy doc ms).sources, btrim source.sourceId ≠ "") ∧
      ((readPolicy doc ms).sources.map (·.sourceId)).Nodup ∧
      (∀ leg ∈ (readPolicy doc ms).allLegs, btrim leg.checkType ≠ "") ∧
      ((readPolicy doc ms).requiredDocumentLegs.map (·.checkType)).Nodup ∧
      ((readPolicy doc ms).currentAuthorityLegs.map (·.checkType)).Nodup := by
  have hsourceIds : (sourceRows doc).map (·.sourceId) =
      ((readPolicy doc ms).sources.map (·.sourceId)).map some := by
    rw [h.sourceRows_eq ms, List.map_map, List.map_map]
    rfl
  have hrequiredTypes : (requiredRows doc).map (·.checkType) =
      ((readPolicy doc ms).requiredDocumentLegs.map (·.checkType)).map some := by
    rw [h.requiredRows_eq ms, List.map_map, List.map_map]
    rfl
  have hauthorityTypes : (authorityRows doc).map (·.checkType) =
      ((readPolicy doc ms).currentAuthorityLegs.map (·.checkType)).map some := by
    rw [h.authorityRows_eq ms, List.map_map, List.map_map]
    rfl
  have hkinds : ∀ source : CredentialPolicySource, source.row.evidenceKind ∈ [some "ISSUER",
      some "AUTHORITY", some "MANUAL_DOCUMENT", some "FORMAT_VALIDATION", some "LLM_ADVISORY"] := by
    rintro ⟨sourceId, kind⟩
    cases kind <;> simp [CredentialPolicySource.row, CredentialEvidenceKind.text]
  have hblank (leg : CredentialLegPolicy) : isBlank leg.row.checkType = false ↔
      btrim leg.checkType ≠ "" :=
    isBlank_some
  rw [checkPolicyIdentifiers, raiseIf_eq_ok_iff, hsourceIds, hrequiredTypes, hauthorityTypes,
    map_some_nodup_iff, map_some_nodup_iff, map_some_nodup_iff, h.sourceRows_eq ms,
    h.requiredRows_eq ms, h.authorityRows_eq ms, h.identityRow_eq ms]
  simp only [not_or, not_not, not_exists, not_and, Bool.not_eq_true, List.forall_mem_map, hblank]
  constructor
  · rintro ⟨hsources, hnodup, -, hrequired, hrequiredNodup, hauthority, hauthorityNodup, hidentity⟩
    refine ⟨fun source hs ↦ isBlank_some.mp (hsources source hs), hnodup, fun leg hl ↦ ?_,
      hrequiredNodup, hauthorityNodup⟩
    simp only [CredentialTierPolicy.allLegs, List.mem_append, List.mem_singleton] at hl
    rcases hl with (hl | rfl) | hl
    · exact hrequired leg hl
    · exact hidentity
    · exact hauthority leg hl
  · rintro ⟨hsources, hnodup, hlegs, hrequiredNodup, hauthorityNodup⟩
    refine ⟨fun source hs ↦ isBlank_some.mpr (hsources source hs), hnodup,
      fun source _ ↦ hkinds source, fun leg hl ↦ hlegs leg ?_, hrequiredNodup,
      fun leg hl ↦ hlegs leg ?_, hauthorityNodup, hlegs _ ?_⟩
    · exact List.mem_append_left _ (List.mem_append_left _ hl)
    · exact List.mem_append_right _ hl
    · exact List.mem_append_left _ (List.mem_append_right _ (List.mem_singleton.mpr rfl))

theorem PolicyShape.checkPolicyLegs_eq_ok_iff : checkPolicyLegs doc = .ok () ↔
    ((∃ leg ∈ (readPolicy doc ms).requiredDocumentLegs,
        leg.checkType = (readPolicy doc ms).identityConsistencyLeg.checkType ∧
        ∀ sourceId ∈ (readPolicy doc ms).identityConsistencyLeg.allowedSourceIds,
          sourceId ∈ leg.allowedSourceIds) ∧
      ∀ authority ∈ (readPolicy doc ms).currentAuthorityLegs,
        authority.checkType ≠ (readPolicy doc ms).identityConsistencyLeg.checkType ∧
        ∀ required ∈ (readPolicy doc ms).requiredDocumentLegs,
          required.checkType ≠ authority.checkType) ∧
    (∀ leg ∈ (readPolicy doc ms).allLegs, leg.allowedSourceIds ≠ [] ∧
      (∀ sourceId ∈ leg.allowedSourceIds, btrim sourceId ≠ "" ∧
        ∃ source ∈ (readPolicy doc ms).sources, source.sourceId = sourceId) ∧
      leg.allowedSourceIds.Nodup) ∧
    (∀ leg ∈ (readPolicy doc ms).documentLegs, ∀ source ∈ (readPolicy doc ms).sources,
      source.sourceId ∈ leg.allowedSourceIds →
        source.evidenceKind ≠ .formatValidation ∧ source.evidenceKind ≠ .llmAdvisory) ∧
    ∀ leg ∈ (readPolicy doc ms).currentAuthorityLegs, ∀ source ∈ (readPolicy doc ms).sources,
      source.sourceId ∈ leg.allowedSourceIds → source.evidenceKind = .authority := by
  have hdocumentRows : requiredRows doc ++ [identityRow doc] =
      (readPolicy doc ms).documentLegs.map (·.row) := by
    rw [h.requiredRows_eq ms, h.identityRow_eq ms, CredentialTierPolicy.documentLegs,
      List.map_append, List.map_cons, List.map_nil]
  have hformat : ∀ source : CredentialPolicySource,
      source.row.evidenceKind ∉ [some "FORMAT_VALIDATION", some "LLM_ADVISORY"] ↔
        source.evidenceKind ≠ .formatValidation ∧ source.evidenceKind ≠ .llmAdvisory := by
    rintro ⟨sourceId, kind⟩
    cases kind <;> simp [CredentialPolicySource.row, CredentialEvidenceKind.text]
  have hauthority : ∀ source : CredentialPolicySource,
      (source.row.evidenceKind ≠ none → source.row.evidenceKind = some "AUTHORITY") ↔
        source.evidenceKind = .authority := by
    rintro ⟨sourceId, kind⟩
    cases kind <;> simp [CredentialPolicySource.row, CredentialEvidenceKind.text]
  have hsourcesNil (sourceId : String) : sourcesOf doc sourceId ≠ [] ↔
      ∃ source ∈ (readPolicy doc ms).sources, source.sourceId = sourceId := by
    rw [ne_eq, List.eq_nil_iff_forall_not_mem]
    simp only [h.mem_sourcesOf ms, not_forall, not_not]
    constructor
    · rintro ⟨_, source, hs, hid, -⟩
      exact ⟨source, hs, hid⟩
    · rintro ⟨source, hs, hid⟩
      exact ⟨_, source, hs, hid, rfl⟩
  have hleg : ∀ leg ∈ policyLegs doc, (¬ (leg.kindAt "allowedSourceIds" ≠ some .array ∨
        leg.elementsAt "allowedSourceIds" = [] ∨
        (∃ sourceId ∈ (legRow leg).sourceIds, btrim sourceId = "" ∨ sourcesOf doc sourceId = []) ∨
        ¬ (legRow leg).sourceIds.Nodup)) ↔
      (readLeg leg).allowedSourceIds ≠ [] ∧ (∀ sourceId ∈ (readLeg leg).allowedSourceIds,
        btrim sourceId ≠ "" ∧ ∃ source ∈ (readPolicy doc ms).sources, source.sourceId = sourceId) ∧
      (readLeg leg).allowedSourceIds.Nodup := by
    intro leg hl
    have hshape := h.leg leg hl
    have hnil : leg.elementsAt "allowedSourceIds" = [] ↔ (readLeg leg).allowedSourceIds = [] := by
      rw [readLeg, filterMap_text hshape.strings, List.map_eq_nil_iff]
    have hrow : (legRow leg).sourceIds = (readLeg leg).allowedSourceIds := rfl
    simp only [hshape.allowedSourceIds, ne_eq, not_true_eq_false, false_or, hnil, hrow,
      not_or, not_not, not_exists, not_and, ← hsourcesNil]
  rw [checkPolicyLegs, unit_bind_eq_ok_iff, unit_bind_eq_ok_iff, raiseIf_eq_ok_iff,
    raiseIf_eq_ok_iff, raiseIf_eq_ok_iff, hdocumentRows, h.requiredRows_eq ms,
    h.authorityRows_eq ms, h.identityRow_eq ms, readPolicy_allLegs, List.forall_mem_map]
  refine and_congr ?_ (and_congr ?_ ?_)
  · simp only [not_or, not_not, not_exists, not_and, List.forall_mem_map, CredentialLegPolicy.row,
      Option.some.injEq, ne_eq, not_forall, exists_prop]
  · simp only [not_exists, not_and]
    exact forall₂_congr hleg
  · simp only [not_or, not_exists, not_and, List.forall_mem_map, h.mem_sourcesOf ms,
      forall_exists_index, and_imp, not_not]
    constructor
    · rintro ⟨hdocument, hconfirm⟩
      refine ⟨fun leg hl source hs hid ↦ (hformat source).mp ?_,
        fun leg hl source hs hid ↦ (hauthority source).mp ?_⟩
      · exact hdocument leg hl _ hid _ source hs rfl rfl
      · exact hconfirm leg hl _ hid _ source hs rfl rfl
    · rintro ⟨hdocument, hconfirm⟩
      refine ⟨?_, ?_⟩
      · rintro leg hl _ hid _ source hs rfl rfl
        exact (hformat source).mpr (hdocument leg hl source hs hid)
      · rintro leg hl _ hid _ source hs rfl rfl
        exact (hauthority source).mpr (hconfirm leg hl source hs hid)

end Sql

/-- Whatever freshness a policy may have, it leads to timestamps on both sides of the instant. -/
def InTimestampRange (decidedAt : ℤ) : Prop :=
  IsTimestamp (decidedAt - 1000 * MAX_CREDENTIAL_FRESHNESS_MS) ∧
    IsTimestamp (decidedAt + 1000 * MAX_CREDENTIAL_FRESHNESS_MS)

instance InTimestampRange.decidable (decidedAt : ℤ) : Decidable (InTimestampRange decidedAt) :=
  inferInstanceAs (Decidable (_ ∧ _))

/-- What the database accepts of a document whose version and provider type are not blank. -/
theorem validatePolicySql_ok_iff {doc : Jsonb} {decidedAt : ℤ} (hstored : doc.IsStored)
    (hrange : InTimestampRange decidedAt) (hversion : btrim (readPolicy doc 0).version ≠ "")
    (htype : btrim (readPolicy doc 0).providerType ≠ "") :
    (∃ freshness, validatePolicySql doc decidedAt = .ok freshness) ↔
      (PolicyShape doc ∧ NoPassedKeys doc) ∧
      (∃ n, doc.get "currentAuthorityFreshnessMs" = some (.number n) ∧ IsPlainFreshness n) ∧
      (readPolicy doc 0).Coherent ∧ ∀ text ∈ (readPolicy doc 0).identifiers, btrim text ≠ "" := by
  have hms {n : Numeric} (hn : doc.get "currentAuthorityFreshnessMs" = some (.number n))
      (hscale : n.scale = 0) {ms : ℤ} : policyFreshnessMs doc = .ok ms ↔
        n.unscaled ≤ MAX_CREDENTIAL_FRESHNESS_MS ∧ ms = n.unscaled := by
    have hle : n.le (.ofInt 3162240000000) = true ↔ n.unscaled ≤ MAX_CREDENTIAL_FRESHNESS_MS := by
      simp [Numeric.le, Numeric.ofInt, hscale, MAX_CREDENTIAL_FRESHNESS_MS]
    simp only [policyFreshnessMs, hn, hscale, pow_zero, Int.ediv_one]
    by_cases hmax : n.unscaled ≤ MAX_CREDENTIAL_FRESHNESS_MS
    · rw [if_pos (hle.mpr hmax), Except.ok.injEq]
      exact ⟨fun h ↦ ⟨hmax, h.symm⟩, fun h ↦ h.2.symm⟩
    · rw [if_neg (fun h ↦ hmax (hle.mp h))]
      exact iff_of_false (fun h ↦ by cases h) fun h ↦ hmax h.1
  constructor
  · rintro ⟨freshness, hsql⟩
    rw [validatePolicySql, unit_bind_eq_ok_iff, bind_eq_ok_iff] at hsql
    obtain ⟨hshape, freshnessMs, hfreshness, hsql⟩ := hsql
    rw [unit_bind_eq_ok_iff, unit_bind_eq_ok_iff, unit_bind_eq_ok_iff] at hsql
    obtain ⟨-, hidentifiers, hlegs, -⟩ := hsql
    -- the kinds of the sources are only checked with the identifiers
    have hknown : KnownSources doc := by
      intro source hs
      rw [checkPolicyIdentifiers, raiseIf_eq_ok_iff] at hidentifiers
      simp only [not_or, not_exists, not_and, not_not] at hidentifiers
      have hmem := hidentifiers.2.2.1 (sourceRow source) (List.mem_map_of_mem hs)
      simp only [sourceRow, List.mem_cons, List.not_mem_nil, or_false] at hmem
      rcases hmem with h | h | h | h | h <;> rw [h] <;> rfl
    obtain ⟨⟨h, hpassed⟩, hsourcesNe, hrequiredNe, hauthorityNe, n, hn, hpos, hscale⟩ :=
      (checkPolicyShape_eq_ok_iff hstored).mp ⟨hshape, hknown⟩
    obtain ⟨hsourceTexts, hsources, hlegTexts, hrequired, hauthority⟩ :=
      (h.checkPolicyIdentifiers_eq_ok_iff 0).mp hidentifiers
    obtain ⟨⟨hreuses, hseparate⟩, hallowed, hdocument, hconfirm⟩ :=
      (h.checkPolicyLegs_eq_ok_iff 0).mp hlegs
    refine ⟨⟨h, hpassed⟩, ⟨n, hn, hpos, hscale, ((hms hn hscale).mp hfreshness).1⟩, ?_,
      fun text htext ↦ ?_⟩
    · exact
        { sources_ne_nil := fun hnil ↦ hsourcesNe (List.map_eq_nil_iff.mp hnil)
          sources_nodup := hsources
          required_ne_nil := fun hnil ↦ hrequiredNe (List.map_eq_nil_iff.mp hnil)
          required_nodup := hrequired
          authority_ne_nil := fun hnil ↦ hauthorityNe (List.map_eq_nil_iff.mp hnil)
          authority_nodup := hauthority
          allowed_ne_nil := fun leg hl ↦ (hallowed leg hl).1
          allowed_nodup := fun leg hl ↦ (hallowed leg hl).2.2
          declared := fun leg hl sourceId hid ↦ ((hallowed leg hl).2.1 sourceId hid).2
          document_kind := hdocument
          authority_kind := hconfirm
          identity_reuses := hreuses
          disjoint := fun authority ha required hr heq ↦
            (hseparate authority ha).2 required hr heq.symm }
    · rcases CredentialTierPolicy.mem_identifiers.mp htext with
        rfl | rfl | ⟨source, hs, rfl⟩ | ⟨leg, hl, rfl | hid⟩
      · exact hversion
      · exact htype
      · exact hsourceTexts source hs
      · exact hlegTexts leg hl
      · exact ((hallowed leg hl).2.1 text hid).1
  · rintro ⟨⟨h, hpassed⟩, ⟨n, hn, hpos, hscale, hle⟩, hc, htexts⟩
    have hmem {leg : CredentialLegPolicy} (hl : leg ∈ (readPolicy doc 0).allLegs) {text : String}
        (ht : leg.checkType = text ∨ text ∈ leg.allowedSourceIds) : btrim text ≠ "" :=
      htexts text (CredentialTierPolicy.mem_identifiers.mpr (.inr (.inr (.inr ⟨leg, hl, ht⟩))))
    have hne {l : List Jsonb} {α : Type} {f : Jsonb → α} (h : l.map f ≠ []) : l ≠ [] :=
      fun hnil ↦ h (by rw [hnil, List.map_nil])
    obtain ⟨hshape, -⟩ :=
      (checkPolicyShape_eq_ok_iff hstored).mpr ⟨⟨h, hpassed⟩, hne hc.sources_ne_nil,
        hne hc.required_ne_nil, hne hc.authority_ne_nil, n, hn, hpos, hscale⟩
    have hidentifiers := (h.checkPolicyIdentifiers_eq_ok_iff 0).mpr ⟨fun source hs ↦ htexts _
        (CredentialTierPolicy.mem_identifiers.mpr (.inr (.inr (.inl ⟨source, hs, rfl⟩)))),
      hc.sources_nodup, fun leg hl ↦ hmem hl (.inl rfl), hc.required_nodup, hc.authority_nodup⟩
    have hlegs := (h.checkPolicyLegs_eq_ok_iff 0).mpr ⟨⟨hc.identity_reuses, fun authority ha ↦ ?_⟩,
      fun leg hl ↦ ⟨hc.allowed_ne_nil leg hl, fun sourceId hid ↦
        ⟨hmem hl (.inr hid), hc.declared leg hl sourceId hid⟩, hc.allowed_nodup leg hl⟩,
      hc.document_kind, hc.authority_kind⟩
    · refine ⟨1000 * n.unscaled, ?_⟩
      rw [validatePolicySql, unit_bind_eq_ok_iff, bind_eq_ok_iff]
      refine ⟨hshape, n.unscaled, (hms hn hscale).mpr ⟨hle, rfl⟩, ?_⟩
      rw [unit_bind_eq_ok_iff, unit_bind_eq_ok_iff, unit_bind_eq_ok_iff, require_eq_ok_iff]
      refine ⟨?_, hidentifiers, hlegs, rfl⟩
      simp only [InTimestampRange, IsTimestamp] at hrange ⊢
      omega
    · -- the identity leg is one of the document legs, which the authority legs avoid
      obtain ⟨leg, hl, htype, -⟩ := hc.identity_reuses
      exact ⟨fun heq ↦ hc.disjoint authority ha leg hl (heq.trans htype.symm),
        fun required hr heq ↦ hc.disjoint authority ha required hr heq.symm⟩

/-! ## Where they part

The kinds of documents on which one of the two accepts and the other refuses, and the theorem that
there are no others.
-/

private theorem trimmed_eq_empty_iff {p : Char → Bool} {text : String} :
    String.ofList (((text.toList.dropWhile p).reverse.dropWhile p).reverse) = "" ↔
      ∀ c ∈ text.toList, p c = true := by
  rw [← String.toList_inj, String.toList_ofList, show ("" : String).toList = [] from rfl,
    List.reverse_eq_nil_iff, List.dropWhile_eq_nil_iff]
  simp only [List.mem_reverse]
  constructor
  · intro h c hc
    by_cases hdrop : c ∈ text.toList.dropWhile p
    · exact h c hdrop
    · rw [← List.takeWhile_append_dropWhile (p := p) (l := text.toList), List.mem_append] at hc
      exact List.mem_takeWhile_imp (hc.resolve_right hdrop)
  · intro h c hc
    exact h c ((List.dropWhile_suffix p).subset hc)

theorem btrim_ne_of_trim_ne {text : String} (h : trim text ≠ "") : btrim text ≠ "" := by
  intro hspaces
  refine h (trimmed_eq_empty_iff.mpr fun c hc ↦ ?_)
  have hspace : c = ' ' := by simpa using trimmed_eq_empty_iff.mp hspaces c hc
  subst hspace
  decide

theorem IsPlainFreshness.isFreshness {n : Numeric} (h : IsPlainFreshness n) :
    IsFreshness n n.unscaled := by
  obtain ⟨hpos, hscale, hle⟩ := h
  have hint : n = .ofInt n.unscaled := by
    rw [Numeric.ofInt, ← hscale]
  have hlt : n.unscaled < 2 ^ 53 := hle.trans_lt (by decide)
  refine ⟨?_, hpos, hle⟩
  rw [hint]
  exact Numeric.toDouble_ofInt hpos hlt

theorem CredentialTierPolicy.Coherent.readPolicy {doc : Jsonb} {ms : ℤ}
    (h : (readPolicy doc ms).Coherent) (ms' : ℤ) : (Nayasetu.readPolicy doc ms').Coherent :=
  ⟨h.sources_ne_nil, h.sources_nodup, h.required_ne_nil, h.required_nodup, h.authority_ne_nil,
    h.authority_nodup, h.allowed_ne_nil, h.allowed_nodup, h.declared, h.document_kind,
    h.authority_kind, h.identity_reuses, h.disjoint⟩

/-- The document is a policy but for one of three things: a text of white space that are not all
spaces, a freshness that is only a positive integer once it is rounded to a double, or a key
`__proto__`. -/
def ValidatorsPart (doc : Jsonb) : Prop :=
  PolicyShape doc ∧ (readPolicy doc 0).Coherent ∧
    ∃ n, doc.get "currentAuthorityFreshnessMs" = some (.number n) ∧
      ((NoPassedKeys doc ∧ IsPlainFreshness n ∧
          (∀ text ∈ (readPolicy doc 0).identifiers, btrim text ≠ "") ∧
          ∃ text ∈ (readPolicy doc 0).identifiers, trim text = "") ∨
        ((∃ ms, IsFreshness n ms) ∧ ¬ (NoPassedKeys doc ∧ IsPlainFreshness n) ∧
          ∀ text ∈ (readPolicy doc 0).identifiers, trim text ≠ ""))

/-- **When the validators agree.** On a stored policy the application and the database accept the
same documents but for those that differ in the white space of a text, in the form of the freshness
or in a key `__proto__`. -/
theorem policy_validators_agree_iff {row : CredentialPolicyRow} {decidedAt : ℤ}
    (hchecks : row.Checks)
    (hstored : row.policySnapshot.IsStored) (hrange : InTimestampRange decidedAt) :
    ((∃ policy, parseCredentialTierPolicy row.policySnapshot = .ok policy) ↔
        ∃ freshness, validatePolicySql row.policySnapshot decidedAt = .ok freshness) ↔
      ¬ ValidatorsPart row.policySnapshot := by
  obtain ⟨htypeNe, hversionNe, -, -, -, htype, hversion⟩ := hchecks
  have hversion' : btrim (readPolicy row.policySnapshot 0).version ≠ "" := by
    rwa [readPolicy, hversion, Option.getD_some]
  have htype' : btrim (readPolicy row.policySnapshot 0).providerType ≠ "" := by
    rwa [readPolicy, htype, Option.getD_some]
  rw [validatePolicySql_ok_iff hstored hrange hversion' htype']
  simp only [parseCredentialTierPolicy_eq_ok_iff]
  set doc := row.policySnapshot
  constructor
  · rintro hagree ⟨hshape, hcoherent, n, hn, ⟨hpassed, hplain, hspaces, text, htext, hblank⟩ |
      ⟨⟨ms, hms⟩, hpart, htexts⟩⟩
    · obtain ⟨policy, -, _, _, -, -, rfl, -, htexts⟩ :=
        hagree.mpr ⟨⟨hshape, hpassed⟩, ⟨n, hn, hplain⟩, hcoherent, hspaces⟩
      exact htexts text htext hblank
    · obtain ⟨⟨-, hpassed⟩, ⟨n', hn', hplain'⟩, -, -⟩ :=
        hagree.mp ⟨readPolicy doc ms, hshape, n, ms, hn, hms, rfl, hcoherent.readPolicy ms, htexts⟩
      obtain rfl : n' = n := Jsonb.number.inj (Option.some.inj (hn'.symm.trans hn))
      exact hpart ⟨hpassed, hplain'⟩
  · intro hpart
    constructor
    · rintro ⟨policy, hshape, n, ms, hn, hms, rfl, hcoherent, htexts⟩
      have hboth : NoPassedKeys doc ∧ IsPlainFreshness n := by
        by_contra hnot
        exact hpart ⟨hshape, hcoherent.readPolicy 0, n, hn, .inr ⟨⟨ms, hms⟩, hnot, htexts⟩⟩
      exact ⟨⟨hshape, hboth.1⟩, ⟨n, hn, hboth.2⟩, hcoherent.readPolicy 0,
        fun text ht ↦ btrim_ne_of_trim_ne (htexts text ht)⟩
    · rintro ⟨⟨hshape, hpassed⟩, ⟨n, hn, hplain⟩, hcoherent, hspaces⟩
      refine ⟨readPolicy doc n.unscaled, hshape, n, n.unscaled, hn, hplain.isFreshness, rfl,
        hcoherent.readPolicy _, fun text ht hblank ↦ ?_⟩
      exact hpart ⟨hshape, hcoherent, n, hn, .inl ⟨hpassed, hplain, hspaces, text, ht, hblank⟩⟩

/-- A policy whose freshness is stored as `1000.0`. -/
def pointedPolicy : CredentialPolicyRow where
  providerType := "ADVOCATE"
  version := "v1"
  policySnapshot := .object
    [("version", .string "v1"),
      ("sources", .array
        [.object [("sourceId", .string "REVIEW"), ("evidenceKind", .string "MANUAL_DOCUMENT")],
          .object [("sourceId", .string "REGISTRY"), ("evidenceKind", .string "AUTHORITY")]]),
      ("providerType", .string "ADVOCATE"),
      ("currentAuthorityLegs", .array
        [.object [("checkType", .string "ENROLMENT"),
          ("allowedSourceIds", .array [.string "REGISTRY"])]]),
      ("requiredDocumentLegs", .array
        [.object [("checkType", .string "DEGREE"),
          ("allowedSourceIds", .array [.string "REVIEW"])]]),
      ("identityConsistencyLeg",
        .object [("checkType", .string "DEGREE"), ("allowedSourceIds", .array [.string "REVIEW"])]),
      ("currentAuthorityFreshnessMs", .number ⟨10000, 1⟩)]
  active := true

theorem pointedPolicy_isStored : pointedPolicy.policySnapshot.IsStored := by
  have hstring (s : String) (h : '\x00' ∉ s.toList) : (Jsonb.string s).IsStored := .string h
  have hleg (checkType sourceId : String) (ht : '\x00' ∉ checkType.toList)
      (hs : '\x00' ∉ sourceId.toList) : (Jsonb.object [("checkType", .string checkType),
        ("allowedSourceIds", .array [.string sourceId])]).IsStored := by
    refine .object (by simp) ?_
    simp only [List.forall_mem_cons, List.not_mem_nil, false_implies, implies_true, and_true]
    exact ⟨hstring _ ht, .array (by simpa using hstring _ hs)⟩
  have hsource (sourceId kind : String) (hs : '\x00' ∉ sourceId.toList)
    (hk : '\x00' ∉ kind.toList) :
      (Jsonb.object [("sourceId", .string sourceId), ("evidenceKind", .string kind)]).IsStored := by
    refine .object (by simp) ?_
    simp only [List.forall_mem_cons, List.not_mem_nil, false_implies, implies_true, and_true]
    exact ⟨hstring _ hs, hstring _ hk⟩
  refine .object (by decide) ?_
  simp only [List.forall_mem_cons, List.not_mem_nil, false_implies, implies_true, and_true]
  refine ⟨hstring _ (by decide), .array ?_, hstring _ (by decide), .array ?_, .array ?_,
    hleg _ _ (by decide) (by decide), .number _⟩
  · simp only [List.forall_mem_cons, List.not_mem_nil, false_implies, implies_true, and_true]
    exact ⟨hsource _ _ (by decide) (by decide), hsource _ _ (by decide) (by decide)⟩
  · simp only [List.forall_mem_cons, List.not_mem_nil, false_implies, implies_true, and_true]
    exact hleg _ _ (by decide) (by decide)
  · simp only [List.forall_mem_cons, List.not_mem_nil, false_implies, implies_true, and_true]
    exact hleg _ _ (by decide) (by decide)

theorem policy_validators_agree_iff_pointedPolicy :
    ((∃ policy, parseCredentialTierPolicy pointedPolicy.policySnapshot = .ok policy) ↔
        ∃ freshness, validatePolicySql pointedPolicy.policySnapshot 5000000 = .ok freshness) ↔
      ¬ ValidatorsPart pointedPolicy.policySnapshot :=
  policy_validators_agree_iff (by decide) pointedPolicy_isStored (by decide)

/-- A policy the application loads and the database refuses. -/
theorem policy_validators_disagree :
    ¬ ∀ (row : CredentialPolicyRow) (decidedAt : ℤ), row.Checks → row.policySnapshot.IsStored →
      InTimestampRange decidedAt →
        ((∃ policy, parseCredentialTierPolicy row.policySnapshot = .ok policy) ↔
          ∃ freshness, validatePolicySql row.policySnapshot decidedAt = .ok freshness) := by
  intro hall
  have hagree := hall pointedPolicy 5000000 (by decide) pointedPolicy_isStored (by decide)
  obtain ⟨freshness, hsql⟩ := hagree.mp ⟨_, rfl⟩
  have hrefused : validatePolicySql pointedPolicy.policySnapshot 5000000 =
      .error (.database "22023"
        "Active credential policy cannot contain empty required configuration") :=
    rfl
  rw [hrefused] at hsql
  cases hsql

end Nayasetu
