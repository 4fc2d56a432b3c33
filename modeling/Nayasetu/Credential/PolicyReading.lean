import Nayasetu.Credential.FinalizeSql

/-!
# Reading a policy document

What the application makes of a policy document. `readPolicy` reads any document, defaults standing
in for what is not there; a document is accepted if it has the shape of a policy (`PolicyShape`),
its sources and legs fit together (`CredentialTierPolicy.Coherent`), its texts are configured and
its freshness is one (`parseCredentialTierPolicy_eq_ok_iff`).

The parser of the source stops at the first field that is not as it should be. For proofs it is
easier to separate the two questions: what the document says, if it says anything, and whether it
is well formed. `readPolicy` answers the first and is total; the predicates on shape answer the
second, one field at a time.

The rows that the database reads from a document (`legRow`, `sourceRow`) are related to the same
reading at the end, so that the two validators can be compared without unfolding either.
-/

namespace Nayasetu

open Values Collections

/-! ## What a document says

The reading, and the two kinds of conditions on it: on the shape of the document, and on how the
sources and legs it names fit together.
-/

def readLeg (leg : Jsonb) : CredentialLegPolicy :=
  ⟨(leg.textAt "checkType").getD "", (leg.elementsAt "allowedSourceIds").filterMap Jsonb.text⟩

def readSource (source : Jsonb) : CredentialPolicySource :=
  ⟨(source.textAt "sourceId").getD "",
    ((source.textAt "evidenceKind").bind CredentialEvidenceKind.ofText).getD .issuer⟩

def readPolicy (doc : Jsonb) (freshnessMs : ℤ) : CredentialTierPolicy where
  version := (doc.textAt "version").getD ""
  providerType := (doc.textAt "providerType").getD ""
  sources := (doc.elementsAt "sources").map readSource
  requiredDocumentLegs := (doc.elementsAt "requiredDocumentLegs").map readLeg
  identityConsistencyLeg := readLeg (identityLeg doc)
  currentAuthorityLegs := (doc.elementsAt "currentAuthorityLegs").map readLeg
  currentAuthorityFreshnessMs := freshnessMs

theorem readPolicy_allLegs (doc : Jsonb) (ms : ℤ) :
    (readPolicy doc ms).allLegs = (policyLegs doc).map readLeg := by
  simp only [CredentialTierPolicy.allLegs, readPolicy, policyLegs, List.map_append, List.map_cons,
    List.map_nil]

/-- The document is a leg. -/
structure LegShape (leg : Jsonb) : Prop where
  object : leg.kind = .object
  checkType : leg.kindAt "checkType" = some .string
  allowedSourceIds : leg.kindAt "allowedSourceIds" = some .array
  strings : ∀ element ∈ leg.elementsAt "allowedSourceIds", element.kind = .string
  keys : ∀ key ∈ leg.keys, key = "__proto__" ∨ key ∈ ["checkType", "allowedSourceIds"]

/-- The document is a source of a known kind. -/
structure SourceShape (source : Jsonb) : Prop where
  object : source.kind = .object
  sourceId : source.kindAt "sourceId" = some .string
  evidenceKind : source.kindAt "evidenceKind" = some .string
  known : ((source.textAt "evidenceKind").bind CredentialEvidenceKind.ofText).isSome
  keys : ∀ key ∈ source.keys, key = "__proto__" ∨ key ∈ ["sourceId", "evidenceKind"]

structure PolicyShape (doc : Jsonb) : Prop where
  object : doc.kind = .object
  version : doc.kindAt "version" = some .string
  providerType : doc.kindAt "providerType" = some .string
  sources : doc.kindAt "sources" = some .array
  requiredDocumentLegs : doc.kindAt "requiredDocumentLegs" = some .array
  currentAuthorityLegs : doc.kindAt "currentAuthorityLegs" = some .array
  freshness : doc.kindAt "currentAuthorityFreshnessMs" = some .number
  source : ∀ source ∈ doc.elementsAt "sources", SourceShape source
  leg : ∀ leg ∈ policyLegs doc, LegShape leg
  keys : ∀ key ∈ doc.keys, key = "__proto__" ∨ key ∈ ["version", "providerType", "sources",
    "requiredDocumentLegs", "identityConsistencyLeg", "currentAuthorityLegs",
    "currentAuthorityFreshnessMs"]

/-- The text of a kind. -/
def CredentialEvidenceKind.text : CredentialEvidenceKind → String
  | .issuer => "ISSUER"
  | .authority => "AUTHORITY"
  | .manualDocument => "MANUAL_DOCUMENT"
  | .formatValidation => "FORMAT_VALIDATION"
  | .llmAdvisory => "LLM_ADVISORY"

theorem CredentialEvidenceKind.ofText_eq_some_iff {text : String} {kind : CredentialEvidenceKind} :
    CredentialEvidenceKind.ofText text = some kind ↔ kind.text = text := by
  constructor
  · intro h
    unfold CredentialEvidenceKind.ofText at h
    split at h <;> first | (cases h; rfl) | exact nomatch h
  · rintro rfl
    cases kind <;> rfl

/-- The row of a leg of a policy. -/
def CredentialLegPolicy.row (leg : CredentialLegPolicy) : LegRow :=
  ⟨some leg.checkType, leg.allowedSourceIds⟩

/-- The row of a source of a policy. -/
def CredentialPolicySource.row (source : CredentialPolicySource) : SourceRow :=
  ⟨some source.sourceId, some source.evidenceKind.text⟩

namespace CredentialTierPolicy

variable (policy : CredentialTierPolicy)

/-- The texts that have to be configured. -/
def identifiers : List String :=
  [policy.version, policy.providerType] ++ policy.sources.map (·.sourceId) ++
    policy.allLegs.map (·.checkType) ++ policy.allLegs.flatMap (·.allowedSourceIds)

/-- How sources and legs have to fit together. -/
structure Coherent : Prop where
  sources_ne_nil : policy.sources ≠ []
  sources_nodup : (policy.sources.map (·.sourceId)).Nodup
  required_ne_nil : policy.requiredDocumentLegs ≠ []
  required_nodup : (policy.requiredDocumentLegs.map (·.checkType)).Nodup
  authority_ne_nil : policy.currentAuthorityLegs ≠ []
  authority_nodup : (policy.currentAuthorityLegs.map (·.checkType)).Nodup
  allowed_ne_nil : ∀ leg ∈ policy.allLegs, leg.allowedSourceIds ≠ []
  allowed_nodup : ∀ leg ∈ policy.allLegs, leg.allowedSourceIds.Nodup
  declared : ∀ leg ∈ policy.allLegs, ∀ sourceId ∈ leg.allowedSourceIds,
    ∃ source ∈ policy.sources, source.sourceId = sourceId
  document_kind : ∀ leg ∈ policy.documentLegs, ∀ source ∈ policy.sources,
    source.sourceId ∈ leg.allowedSourceIds →
      source.evidenceKind ≠ .formatValidation ∧ source.evidenceKind ≠ .llmAdvisory
  authority_kind : ∀ leg ∈ policy.currentAuthorityLegs, ∀ source ∈ policy.sources,
    source.sourceId ∈ leg.allowedSourceIds → source.evidenceKind = .authority
  identity_reuses : ∃ leg ∈ policy.requiredDocumentLegs,
    leg.checkType = policy.identityConsistencyLeg.checkType ∧
      ∀ sourceId ∈ policy.identityConsistencyLeg.allowedSourceIds, sourceId ∈ leg.allowedSourceIds
  disjoint : ∀ authority ∈ policy.currentAuthorityLegs, ∀ required ∈ policy.requiredDocumentLegs,
    authority.checkType ≠ required.checkType

variable {policy}

private theorem requireUniqueNonEmpty_eq_ok_iff {values : List String} {label : String} :
    requireUniqueNonEmpty values label = .ok () ↔
      (values ≠ [] ∧ ∀ value ∈ values, trim value ≠ "") ∧ values.Nodup := by
  rw [requireUniqueNonEmpty, unit_bind_eq_ok_iff, require_eq_ok_iff, require_eq_ok_iff]

theorem mem_identifiers {text : String} : text ∈ policy.identifiers ↔
    text = policy.version ∨ text = policy.providerType ∨
    (∃ source ∈ policy.sources, source.sourceId = text) ∨
      ∃ leg ∈ policy.allLegs, leg.checkType = text ∨ text ∈ leg.allowedSourceIds := by
  simp only [identifiers, List.mem_append, List.mem_cons, List.not_mem_nil, or_false, List.mem_map,
    List.mem_flatMap]
  constructor
  · rintro ((((h | h) | h) | ⟨leg, hleg, h⟩) | ⟨leg, hleg, h⟩)
    · exact .inl h
    · exact .inr (.inl h)
    · exact .inr (.inr (.inl h))
    · exact .inr (.inr (.inr ⟨leg, hleg, .inl h⟩))
    · exact .inr (.inr (.inr ⟨leg, hleg, .inr h⟩))
  · rintro (h | h | h | ⟨leg, hleg, h | h⟩)
    · exact .inl (.inl (.inl (.inl h)))
    · exact .inl (.inl (.inl (.inr h)))
    · exact .inl (.inl (.inr h))
    · exact .inl (.inr ⟨leg, hleg, h⟩)
    · exact .inr ⟨leg, hleg, h⟩

/-- What the rules of the application amount to. -/
theorem validate_eq_ok_iff : validateCredentialTierPolicy policy = .ok () ↔ policy.Coherent ∧
    (0 < policy.currentAuthorityFreshnessMs ∧
      policy.currentAuthorityFreshnessMs ≤ MAX_CREDENTIAL_FRESHNESS_MS) ∧
    ∀ text ∈ policy.identifiers, trim text ≠ "" := by
  constructor
  · intro h
    have hvalid := valid_of_validate h
    simp only [validateCredentialTierPolicy, unit_bind_eq_ok_iff, require_eq_ok_iff,
      forEach_eq_ok_iff, requireUniqueNonEmpty_eq_ok_iff] at h
    obtain ⟨hnamed, -, ⟨⟨hsources, hsourceIds⟩, -⟩, ⟨⟨-, hrequired⟩, -⟩, ⟨⟨-, hauthority⟩, -⟩,
      hidentity, hallowed, -⟩ := h
    refine ⟨?_, ⟨hvalid.freshness_pos, hvalid.freshness_le⟩, fun text htext ↦ ?_⟩
    · exact
        { sources_ne_nil := fun hnil ↦ hsources (by rw [hnil, List.map_nil])
          sources_nodup := hvalid.sources_nodup
          required_ne_nil := hvalid.required_ne_nil
          required_nodup := hvalid.required_nodup
          authority_ne_nil := hvalid.authority_ne_nil
          authority_nodup := hvalid.authority_nodup
          allowed_ne_nil := fun leg hleg ↦ (hallowed leg hleg).1.1.1
          allowed_nodup := fun leg hleg ↦ (hallowed leg hleg).1.2
          declared := hvalid.declared
          document_kind := hvalid.document_kind
          authority_kind := hvalid.authority_kind
          identity_reuses := hvalid.identity_reuses
          disjoint := hvalid.disjoint }
    · rcases mem_identifiers.mp htext with
        rfl | rfl | ⟨source, hsource, rfl⟩ | ⟨leg, hleg, rfl | htext⟩
      · exact hnamed.1
      · exact hnamed.2
      · exact hsourceIds _ (List.mem_map_of_mem hsource)
      · simp only [allLegs, List.mem_append, List.mem_singleton] at hleg
        rcases hleg with (hleg | rfl) | hleg
        · exact hrequired _ (List.mem_map_of_mem hleg)
        · exact hidentity
        · exact hauthority _ (List.mem_map_of_mem hleg)
      · exact (hallowed leg hleg).1.1.2 text htext
  · rintro ⟨hc, ⟨hpos, hle⟩, htexts⟩
    have hget {leg : CredentialLegPolicy} (hleg : leg ∈ policy.allLegs) {sourceId : String}
        (hid : sourceId ∈ leg.allowedSourceIds) : ∃ source ∈ policy.sources,
          source.sourceId ∈ leg.allowedSourceIds ∧ policy.sourceMap.get sourceId = some source := by
      obtain ⟨source, hsource, rfl⟩ := hc.declared leg hleg sourceId hid
      exact ⟨source, hsource, hid, (sourceMap_get_iff hc.sources_nodup).mpr ⟨hsource, rfl⟩⟩
    have hchecked {leg : CredentialLegPolicy} (hleg : leg ∈ policy.allLegs) :
        trim leg.checkType ≠ "" :=
      htexts _ (mem_identifiers.mpr (.inr (.inr (.inr ⟨leg, hleg, .inl rfl⟩))))
    have hallowed {leg : CredentialLegPolicy} (hleg : leg ∈ policy.allLegs) {sourceId : String}
        (hid : sourceId ∈ leg.allowedSourceIds) : trim sourceId ≠ "" :=
      htexts _ (mem_identifiers.mpr (.inr (.inr (.inr ⟨leg, hleg, .inr hid⟩))))
    -- check types are not repeated, so `find?` gives the leg that is reused
    obtain ⟨leg, hleg, htype, hsubset⟩ := hc.identity_reuses
    have hfind : policy.requiredDocumentLegs.find?
        (fun leg ↦ leg.checkType = policy.identityConsistencyLeg.checkType) = some leg := by
      cases hfound : policy.requiredDocumentLegs.find?
          (fun leg ↦ leg.checkType = policy.identityConsistencyLeg.checkType) with
      | none => exact absurd htype (by simpa using List.find?_eq_none.mp hfound leg hleg)
      | some other =>
        have hother : other.checkType = policy.identityConsistencyLeg.checkType := by
          simpa using List.find?_some hfound
        rw [List.inj_on_of_nodup_map hc.required_nodup (List.mem_of_find?_eq_some hfound) hleg
          (hother.trans htype.symm)]
    simp only [validateCredentialTierPolicy, unit_bind_eq_ok_iff, require_eq_ok_iff,
      forEach_eq_ok_iff, requireUniqueNonEmpty_eq_ok_iff, hfind]
    -- one goal for each check of the source, in its order
    refine ⟨?_, ?_, ⟨⟨?_, ?_⟩, hc.sources_nodup⟩, ⟨⟨?_, ?_⟩, hc.required_nodup⟩,
      ⟨⟨?_, ?_⟩, hc.authority_nodup⟩, ?_, fun leg hleg ↦ ⟨⟨⟨hc.allowed_ne_nil leg hleg, ?_⟩,
        hc.allowed_nodup leg hleg⟩, ?_⟩, fun leg hleg sourceId hid ↦ ?_,
      fun leg hleg sourceId hid ↦ ?_, hsubset, ?_⟩
    · exact ⟨htexts _ (mem_identifiers.mpr (.inl rfl)),
        htexts _ (mem_identifiers.mpr (.inr (.inl rfl)))⟩
    · refine ⟨?_, hpos, hle⟩
      rw [abs_of_pos hpos]
      exact hle.trans (by decide)
    · exact fun hnil ↦ hc.sources_ne_nil (List.map_eq_nil_iff.mp hnil)
    · intro text htext
      obtain ⟨source, hsource, rfl⟩ := List.mem_map.mp htext
      exact htexts _ (mem_identifiers.mpr (.inr (.inr (.inl ⟨source, hsource, rfl⟩))))
    · exact fun hnil ↦ hc.required_ne_nil (List.map_eq_nil_iff.mp hnil)
    · intro text htext
      obtain ⟨leg, hleg, rfl⟩ := List.mem_map.mp htext
      exact hchecked (by simp [allLegs, hleg])
    · exact fun hnil ↦ hc.authority_ne_nil (List.map_eq_nil_iff.mp hnil)
    · intro text htext
      obtain ⟨leg, hleg, rfl⟩ := List.mem_map.mp htext
      exact hchecked (by simp [allLegs, hleg])
    · exact hchecked (by simp [allLegs])
    · exact fun sourceId hid ↦ hallowed hleg hid
    · intro sourceId hid
      obtain ⟨source, -, -, hsource⟩ := hget hleg hid
      rw [hsource]
      exact Option.some_ne_none source
    · have hleg' : leg ∈ policy.allLegs := by
        simp only [documentLegs, List.mem_append] at hleg
        simp only [allLegs, List.mem_append]
        exact .inl hleg
      obtain ⟨source, hmem, hin, hsource⟩ := hget hleg' hid
      simpa [hsource] using hc.document_kind leg hleg source hmem hin
    · obtain ⟨source, hmem, hin, hsource⟩ := hget (by simp [allLegs, hleg]) hid
      simpa [hsource] using hc.authority_kind leg hleg source hmem hin
    · rintro ⟨authority, hauthority, hmem⟩
      obtain ⟨required, hrequired, heq⟩ := List.mem_map.mp hmem
      exact hc.disjoint authority hauthority required hrequired heq.symm

end CredentialTierPolicy

/-! ## The schema

One equivalence for each parser: it accepts a value exactly if the value has the shape, and then
returns what the reading says.
-/

/-- `n`, rounded to a double, is this positive number of milliseconds. -/
def IsFreshness (n : Numeric) (ms : ℤ) : Prop :=
  n.toDouble.toInt? = some ms ∧ 0 < ms ∧ ms ≤ MAX_CREDENTIAL_FRESHNESS_MS

theorem parseString_eq_ok_iff {path : List String} {doc : Option Jsonb} {s : String} :
    parseString path doc = .ok s ↔ doc = some (.string s) ∧ s ≠ "" := by
  constructor
  · intro h
    unfold parseString at h
    split at h
    · split at h
      · cases h
      next hne =>
        cases h
        exact ⟨rfl, hne⟩
    · cases h
  · rintro ⟨rfl, hne⟩
    exact if_neg hne

/-- An array is read element by element. -/
theorem parseArray_eq_ok_iff {α : Type} {item : List String → Jsonb → Except Failure α}
    {P : Jsonb → Prop} {read : Jsonb → α}
    (hitem : ∀ path element a, item path element = .ok a ↔ P element ∧ a = read element)
    {path : List String} {doc : Option Jsonb} {as : List α} :
    parseArray item path doc = .ok as ↔ ∃ elements, doc = some (.array elements) ∧ elements ≠ [] ∧
      (∀ element ∈ elements, P element) ∧ as = elements.map read := by
  have hgo : ∀ (elements : List Jsonb) (n : ℕ) (as : List α),
      parseArray.go item path n elements = .ok as ↔
        (∀ element ∈ elements, P element) ∧ as = elements.map read := by
    intro elements
    induction elements with
    | nil =>
      intro n as
      simp only [parseArray.go, Except.ok.injEq, List.not_mem_nil, false_implies, implies_true,
        true_and, List.map_nil]
      exact eq_comm
    | cons element elements ih =>
      intro n as
      simp only [parseArray.go, bind_eq_ok_iff, hitem, ih, List.forall_mem_cons, List.map_cons]
      constructor
      · rintro ⟨_, ⟨helement, rfl⟩, _, ⟨helements, rfl⟩, h⟩
        exact ⟨⟨helement, helements⟩, (Except.ok.inj h).symm⟩
      · rintro ⟨⟨helement, helements⟩, rfl⟩
        exact ⟨_, ⟨helement, rfl⟩, _, ⟨helements, rfl⟩, rfl⟩
  constructor
  · intro h
    unfold parseArray at h
    split at h
    next elements =>
      split at h
      · cases h
      next hne =>
        obtain ⟨hall, has⟩ := (hgo elements 0 as).mp h
        exact ⟨elements, rfl, hne, hall, has⟩
    · cases h
  · rintro ⟨elements, rfl, hne, hall, has⟩
    rw [parseArray, if_neg hne]
    exact (hgo elements 0 as).mpr ⟨hall, has⟩

theorem parseString_get_eq_ok_iff {path : List String} {doc : Jsonb} {key s : String} :
    parseString path (doc.get key) = .ok s ↔
      doc.kindAt key = some .string ∧ s = (doc.textAt key).getD "" ∧ s ≠ "" := by
  rw [parseString_eq_ok_iff, Jsonb.kindAt_string_iff]
  constructor
  · rintro ⟨hget, hne⟩
    exact ⟨⟨s, hget⟩, by rw [Jsonb.textAt_of_get hget, Option.getD_some], hne⟩
  · rintro ⟨⟨s', hget⟩, rfl, hne⟩
    rw [Jsonb.textAt_of_get hget, Option.getD_some] at hne ⊢
    exact ⟨hget, hne⟩

theorem parseArray_get_eq_ok_iff {α : Type} {item : List String → Jsonb → Except Failure α}
    (P : Jsonb → Prop) (read : Jsonb → α)
    (hitem : ∀ path element a, item path element = .ok a ↔ P element ∧ a = read element)
    {path : List String} {doc : Jsonb} {key : String} {as : List α} :
    parseArray item path (doc.get key) = .ok as ↔ doc.kindAt key = some .array ∧
      doc.elementsAt key ≠ [] ∧ (∀ element ∈ doc.elementsAt key, P element) ∧
      as = (doc.elementsAt key).map read := by
  rw [parseArray_eq_ok_iff hitem, Jsonb.kindAt_array_iff]
  constructor
  · rintro ⟨elements, hget, hrest⟩
    rw [Jsonb.elementsAt_of_get hget]
    exact ⟨⟨elements, hget⟩, hrest⟩
  · rintro ⟨⟨elements, hget⟩, hrest⟩
    rw [Jsonb.elementsAt_of_get hget] at hrest
    exact ⟨elements, hget, hrest⟩

theorem parseFreshness_eq_ok_iff {path : List String} {doc : Option Jsonb} {ms : ℤ} :
    parseFreshness path doc = .ok ms ↔ ∃ n, doc = some (.number n) ∧ IsFreshness n ms := by
  constructor
  · intro h
    unfold parseFreshness at h
    split at h
    next n =>
      split at h
      · cases h
      next ms' hms =>
        split at h
        next hbounds =>
          cases h
          exact ⟨n, rfl, hms, hbounds.2⟩
        · cases h
    · cases h
  · rintro ⟨n, rfl, hms, hpos, hle⟩
    have hsafe : |ms| ≤ MAX_SAFE_INTEGER := by
      rw [abs_of_pos hpos]
      exact hle.trans (by decide)
    simp only [parseFreshness, hms]
    exact if_pos ⟨hsafe, hpos, hle⟩

theorem filterMap_text {elements : List Jsonb} (h : ∀ element ∈ elements, element.kind = .string) :
    elements.filterMap Jsonb.text = elements.map fun element ↦ element.text.getD "" := by
  induction elements with
  | nil => rfl
  | cons element elements ih =>
    obtain ⟨s, rfl⟩ := Jsonb.kind_eq_string_iff.mp (h element List.mem_cons_self)
    rw [List.filterMap_cons_some (show (Jsonb.string s).text = some s from rfl), List.map_cons,
      ih fun e he ↦ h e (List.mem_cons_of_mem _ he)]
    rfl

theorem parseLeg_eq_ok_iff {path : List String} {doc : Jsonb} {leg : CredentialLegPolicy} :
    parseLeg path doc = .ok leg ↔ (LegShape doc ∧ (readLeg doc).checkType ≠ "" ∧
      (readLeg doc).allowedSourceIds ≠ [] ∧ ∀ sourceId ∈ (readLeg doc).allowedSourceIds,
      sourceId ≠ "") ∧ leg = readLeg doc := by
  have hitem : ∀ (path : List String) (element : Jsonb) (s : String),
      parseString path (some element) = .ok s ↔
        (element.kind = .string ∧ element.text.getD "" ≠ "") ∧ s = element.text.getD "" := by
    intro path element s
    rw [parseString_eq_ok_iff, Jsonb.kind_eq_string_iff, Option.some.injEq]
    constructor
    · rintro ⟨rfl, hne⟩
      exact ⟨⟨⟨s, rfl⟩, hne⟩, rfl⟩
    · rintro ⟨⟨⟨s', rfl⟩, hne⟩, rfl⟩
      exact ⟨rfl, hne⟩
  simp only [parseLeg, bind_eq_ok_iff, requireObject, requireKeys, parseString_get_eq_ok_iff,
    parseArray_get_eq_ok_iff _ _ hitem]
  constructor
  · rintro ⟨⟨⟩, hobject, _, ⟨htype, rfl, htypeNe⟩, _, ⟨harray, hne, hall, rfl⟩, ⟨⟩, hkeys, h⟩
    have hstrings : ∀ element ∈ doc.elementsAt "allowedSourceIds", element.kind = .string :=
      fun element he ↦ (hall element he).1
    have hread : (readLeg doc).allowedSourceIds =
        (doc.elementsAt "allowedSourceIds").map fun element ↦ element.text.getD "" :=
        filterMap_text hstrings
    refine ⟨⟨⟨require_eq_ok_iff.mp hobject, htype, harray, hstrings, require_eq_ok_iff.mp hkeys⟩,
      htypeNe, ?_, ?_⟩, ?_⟩
    · rw [hread]
      exact fun hnil ↦ hne (List.map_eq_nil_iff.mp hnil)
    · rw [hread, List.forall_mem_map]
      exact fun element he ↦ (hall element he).2
    · rw [← Except.ok.inj h, ← hread]
      rfl
  · rintro ⟨⟨hshape, htypeNe, hne, hall⟩, rfl⟩
    have hread : (readLeg doc).allowedSourceIds =
        (doc.elementsAt "allowedSourceIds").map fun element ↦ element.text.getD "" :=
      filterMap_text hshape.strings
    rw [hread] at hne hall
    rw [List.forall_mem_map] at hall
    refine ⟨(), require_eq_ok_iff.mpr hshape.object, _, ⟨hshape.checkType, rfl, htypeNe⟩, _,
      ⟨hshape.allowedSourceIds, fun hnil ↦ hne (List.map_eq_nil_iff.mpr hnil),
        fun element he ↦ ⟨hshape.strings element he, hall element he⟩, rfl⟩, (),
      require_eq_ok_iff.mpr hshape.keys, ?_⟩
    rw [← hread]
    rfl

theorem parseSource_eq_ok_iff {path : List String} {doc : Jsonb} {source : CredentialPolicySource} :
    parseSource path doc = .ok source ↔
      (SourceShape doc ∧ (readSource doc).sourceId ≠ "") ∧ source = readSource doc := by
  simp only [parseSource, bind_eq_ok_iff, requireObject, requireKeys, parseString_get_eq_ok_iff]
  constructor
  · rintro ⟨⟨⟩, hobject, _, ⟨hid, rfl, hidNe⟩, _, ⟨hkind, rfl, -⟩, ⟨⟩, hkeys, h⟩
    obtain ⟨text, hget⟩ := Jsonb.kindAt_string_iff.mp hkind
    have htext := Jsonb.textAt_of_get hget
    rw [htext, Option.getD_some] at h
    cases hknown : CredentialEvidenceKind.ofText text with
    | none =>
      rw [hknown] at h
      cases h
    | some kind =>
      rw [hknown] at h
      refine ⟨⟨⟨require_eq_ok_iff.mp hobject, hid, hkind, ?_, require_eq_ok_iff.mp hkeys⟩, hidNe⟩,
        ?_⟩
      · rw [htext, Option.bind_some, hknown]
        rfl
      · rw [← Except.ok.inj h, readSource, htext, Option.bind_some, hknown]
        rfl
  · rintro ⟨⟨hshape, hidNe⟩, rfl⟩
    obtain ⟨text, hget⟩ := Jsonb.kindAt_string_iff.mp hshape.evidenceKind
    have htext := Jsonb.textAt_of_get hget
    have hknown := hshape.known
    rw [htext, Option.bind_some] at hknown
    obtain ⟨kind, hkind⟩ := Option.isSome_iff_exists.mp hknown
    have hne : text ≠ "" := by
      rintro rfl
      cases hkind
    refine ⟨(), require_eq_ok_iff.mpr hshape.object, _, ⟨hshape.sourceId, rfl, hidNe⟩, _,
      ⟨hshape.evidenceKind, rfl, by rwa [htext, Option.getD_some]⟩, (),
      require_eq_ok_iff.mpr hshape.keys, ?_⟩
    rw [readSource, htext, Option.getD_some, Option.bind_some, hkind]
    rfl

private theorem parseSources_eq_ok_iff {path : List String} {doc : Jsonb} {key : String}
    {sources : List CredentialPolicySource} :
    parseArray parseSource path (doc.get key) = .ok sources ↔ doc.kindAt key = some .array ∧
      doc.elementsAt key ≠ [] ∧
      (∀ source ∈ doc.elementsAt key, SourceShape source ∧ (readSource source).sourceId ≠ "") ∧
      sources = (doc.elementsAt key).map readSource :=
  parseArray_get_eq_ok_iff (fun source ↦ SourceShape source ∧ (readSource source).sourceId ≠ "")
    readSource fun _ _ _ ↦ parseSource_eq_ok_iff

private theorem parseLegs_eq_ok_iff {path : List String} {doc : Jsonb} {key : String}
    {legs : List CredentialLegPolicy} :
    parseArray parseLeg path (doc.get key) = .ok legs ↔ doc.kindAt key = some .array ∧
      doc.elementsAt key ≠ [] ∧
      (∀ leg ∈ doc.elementsAt key, LegShape leg ∧ (readLeg leg).checkType ≠ "" ∧
        (readLeg leg).allowedSourceIds ≠ [] ∧
        ∀ sourceId ∈ (readLeg leg).allowedSourceIds, sourceId ≠ "") ∧
      legs = (doc.elementsAt key).map readLeg :=
  parseArray_get_eq_ok_iff (fun leg ↦ LegShape leg ∧ (readLeg leg).checkType ≠ "" ∧
      (readLeg leg).allowedSourceIds ≠ [] ∧
      ∀ sourceId ∈ (readLeg leg).allowedSourceIds, sourceId ≠ "")
    readLeg fun _ _ _ ↦ parseLeg_eq_ok_iff

theorem ne_empty_of_trim {text : String} (h : trim text ≠ "") : text ≠ "" := by
  rintro rfl
  exact h (by decide)

/-- What the application accepts, and what it reads. -/
theorem parseCredentialTierPolicy_eq_ok_iff {doc : Jsonb} {policy : CredentialTierPolicy} :
    parseCredentialTierPolicy doc = .ok policy ↔ PolicyShape doc ∧
      ∃ n ms, doc.get "currentAuthorityFreshnessMs" = some (.number n) ∧ IsFreshness n ms ∧
        policy = readPolicy doc ms ∧ policy.Coherent ∧ ∀ text ∈ policy.identifiers,
        trim text ≠ "" := by
  simp only [parseCredentialTierPolicy, bind_eq_ok_iff, requireObject, requireKeys,
    parseString_get_eq_ok_iff, parseSources_eq_ok_iff, parseLegs_eq_ok_iff, parseLeg_eq_ok_iff,
    parseFreshness_eq_ok_iff]
  constructor
  · rintro ⟨⟨⟩, hobject, _, ⟨hversion, rfl, -⟩, _, ⟨htype, rfl, -⟩, _,
      ⟨hsources, -, hsource, rfl⟩, _, ⟨hrequired, -, hleg, rfl⟩, _, ⟨⟨hidentity, -⟩, rfl⟩, _,
      ⟨hauthority, -, hleg', rfl⟩, ms, ⟨n, hn, hms⟩, ⟨⟩, hkeys, ⟨⟩, hvalid, h⟩
    obtain rfl := Except.ok.inj h
    obtain ⟨hcoherent, -, htexts⟩ := CredentialTierPolicy.validate_eq_ok_iff.mp hvalid
    refine ⟨?_, n, ms, hn, hms, rfl, hcoherent, htexts⟩
    refine
      { object := require_eq_ok_iff.mp hobject
        version := hversion
        providerType := htype
        sources := hsources
        requiredDocumentLegs := hrequired
        currentAuthorityLegs := hauthority
        freshness := by rw [Jsonb.kindAt, hn]; rfl
        source := fun source hs ↦ (hsource source hs).1
        leg := fun leg hl ↦ ?_
        keys := require_eq_ok_iff.mp hkeys }
    simp only [policyLegs, List.mem_append, List.mem_singleton] at hl
    rcases hl with (hl | rfl) | hl
    · exact (hleg leg hl).1
    · exact hidentity
    · exact (hleg' leg hl).1
  · rintro ⟨hshape, n, ms, hn, hms, rfl, hcoherent, htexts⟩
    have hvalid : validateCredentialTierPolicy (readPolicy doc ms) = .ok () :=
      CredentialTierPolicy.validate_eq_ok_iff.mpr ⟨hcoherent, hms.2, htexts⟩
    have hlegs := readPolicy_allLegs doc ms
    -- the texts of a coherent policy are not blank, so the schema does not find them empty
    have hleg : ∀ leg ∈ policyLegs doc, LegShape leg ∧ (readLeg leg).checkType ≠ "" ∧
        (readLeg leg).allowedSourceIds ≠ [] ∧
        ∀ sourceId ∈ (readLeg leg).allowedSourceIds, sourceId ≠ "" := by
      intro leg hl
      have hmem : readLeg leg ∈ (readPolicy doc ms).allLegs := hlegs ▸ List.mem_map_of_mem hl
      refine ⟨hshape.leg leg hl, ?_, hcoherent.allowed_ne_nil _ hmem, fun sourceId hid ↦ ?_⟩
      · exact ne_empty_of_trim (htexts _ (CredentialTierPolicy.mem_identifiers.mpr
          (.inr (.inr (.inr ⟨_, hmem, .inl rfl⟩)))))
      · exact ne_empty_of_trim (htexts _ (CredentialTierPolicy.mem_identifiers.mpr
          (.inr (.inr (.inr ⟨_, hmem, .inr hid⟩)))))
    have hsource : ∀ source ∈ doc.elementsAt "sources",
        SourceShape source ∧ (readSource source).sourceId ≠ "" := by
      intro source hs
      refine ⟨hshape.source source hs, ne_empty_of_trim (htexts _
        (CredentialTierPolicy.mem_identifiers.mpr
          (.inr (.inr (.inl ⟨readSource source, ?_, rfl⟩)))))⟩
      exact List.mem_map_of_mem hs
    have hne {l : List Jsonb} {α : Type} {f : Jsonb → α} (h : l.map f ≠ []) : l ≠ [] :=
      fun hnil ↦ h (by rw [hnil, List.map_nil])
    have hmem {leg : Jsonb} (h : leg ∈ doc.elementsAt "requiredDocumentLegs" ∨
        leg = identityLeg doc ∨ leg ∈ doc.elementsAt "currentAuthorityLegs") :
        leg ∈ policyLegs doc := by
      simpa only [policyLegs, List.mem_append, List.mem_singleton, or_assoc] using h
    refine ⟨(), require_eq_ok_iff.mpr hshape.object, _, ⟨hshape.version, rfl, ?_⟩, _,
      ⟨hshape.providerType, rfl, ?_⟩, _,
      ⟨hshape.sources, hne hcoherent.sources_ne_nil, hsource, rfl⟩, _,
      ⟨hshape.requiredDocumentLegs, hne hcoherent.required_ne_nil,
        fun leg hl ↦ hleg leg (hmem (.inl hl)), rfl⟩, _, ⟨hleg _ (hmem (.inr (.inl rfl))), rfl⟩, _,
      ⟨hshape.currentAuthorityLegs, hne hcoherent.authority_ne_nil,
        fun leg hl ↦ hleg leg (hmem (.inr (.inr hl))), rfl⟩, ms, ⟨n, hn, hms⟩, (),
      require_eq_ok_iff.mpr hshape.keys, (), hvalid, rfl⟩
    · exact ne_empty_of_trim (htexts _ (CredentialTierPolicy.mem_identifiers.mpr (.inl rfl)))
    · exact ne_empty_of_trim (htexts _ (CredentialTierPolicy.mem_identifiers.mpr (.inr (.inl rfl))))

/-! ## The rows of a document

On a document of the right shape the columns of the database's queries are the fields of the
reading.
-/

theorem LegShape.legRow_eq {leg : Jsonb} (h : LegShape leg) : legRow leg = (readLeg leg).row := by
  obtain ⟨text, hget⟩ := Jsonb.kindAt_string_iff.mp h.checkType
  rw [legRow, CredentialLegPolicy.row, readLeg, Jsonb.textAt_of_get hget, Option.getD_some]

theorem SourceShape.sourceRow_eq {source : Jsonb} (h : SourceShape source) :
    sourceRow source = (readSource source).row := by
  obtain ⟨sourceId, hid⟩ := Jsonb.kindAt_string_iff.mp h.sourceId
  obtain ⟨text, hget⟩ := Jsonb.kindAt_string_iff.mp h.evidenceKind
  have hknown := h.known
  rw [Jsonb.textAt_of_get hget, Option.bind_some] at hknown
  obtain ⟨kind, hkind⟩ := Option.isSome_iff_exists.mp hknown
  rw [sourceRow, CredentialPolicySource.row, readSource, Jsonb.textAt_of_get hid,
    Jsonb.textAt_of_get hget, Option.bind_some, hkind, Option.getD_some, Option.getD_some,
    CredentialEvidenceKind.ofText_eq_some_iff.mp hkind]

section Rows

variable {doc : Jsonb} (h : PolicyShape doc) (ms : ℤ)

include h

theorem PolicyShape.sourceRows_eq : sourceRows doc = (readPolicy doc ms).sources.map (·.row) := by
  rw [sourceRows, readPolicy, List.map_map]
  exact List.map_congr_left fun source hs ↦ (h.source source hs).sourceRow_eq

theorem PolicyShape.requiredRows_eq :
    requiredRows doc = (readPolicy doc ms).requiredDocumentLegs.map (·.row) := by
  rw [requiredRows, readPolicy, List.map_map]
  refine List.map_congr_left fun leg hl ↦ (h.leg leg ?_).legRow_eq
  exact List.mem_append_left _ (List.mem_append_left _ hl)

theorem PolicyShape.identityRow_eq :
    identityRow doc = (readPolicy doc ms).identityConsistencyLeg.row := by
  refine (h.leg _ ?_).legRow_eq
  exact List.mem_append_left _ (List.mem_append_right _ (List.mem_singleton.mpr rfl))

theorem PolicyShape.authorityRows_eq :
    authorityRows doc = (readPolicy doc ms).currentAuthorityLegs.map (·.row) := by
  rw [authorityRows, readPolicy, List.map_map]
  exact List.map_congr_left fun leg hl ↦ (h.leg leg (List.mem_append_right _ hl)).legRow_eq

end Rows

end Nayasetu
