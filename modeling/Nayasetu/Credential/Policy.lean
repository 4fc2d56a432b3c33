import Nayasetu.Collections.OrderedMap
import Nayasetu.Credential.Tier
import Nayasetu.Values.Jsonb

/-!
# Credential policies

A policy names the sources a check may come from, the legs a provider has to fill, and how old the
confirmation of an authority may be. It arrives as a JSON document: `parseCredentialTierPolicy`
checks its shape and then, with `validateCredentialTierPolicy`, its rules.

`CredentialTierPolicy.Valid` collects what a successful validation promises.

## Reading

The schema is read in the order in which the library reads it: every object first by its own
fields, then for keys that it does not know. Only the path of the first field that is refused is
kept, which is what an error names.

A key `__proto__` of a document is a key like any other to the database, but the schema library
does not see it. `requireKeys` passes over it for that reason.

## Numbers

The freshness of a document is the double nearest to the numeral the database stores. A numeral
that is no integer can round to one, and one past the safe integers is refused.
-/

namespace Nayasetu

open Values Collections

/-- What a source is worth. -/
inductive CredentialEvidenceKind where
  | issuer
  | authority
  | manualDocument
  | formatValidation
  | llmAdvisory
  deriving DecidableEq, Repr

def CredentialEvidenceKind.ofText : String → Option CredentialEvidenceKind
  | "ISSUER" => some .issuer
  | "AUTHORITY" => some .authority
  | "MANUAL_DOCUMENT" => some .manualDocument
  | "FORMAT_VALIDATION" => some .formatValidation
  | "LLM_ADVISORY" => some .llmAdvisory
  | _ => none

/-- A declared source. -/
structure CredentialPolicySource where
  sourceId : String
  evidenceKind : CredentialEvidenceKind
  deriving DecidableEq, Repr

/-- A leg and the sources that can fill it. -/
structure CredentialLegPolicy where
  checkType : String
  allowedSourceIds : List String
  deriving DecidableEq, Repr

/-- A credential policy. The freshness is an integer, since nothing else passes the schema. -/
structure CredentialTierPolicy where
  version : String
  providerType : String
  sources : List CredentialPolicySource
  requiredDocumentLegs : List CredentialLegPolicy
  identityConsistencyLeg : CredentialLegPolicy
  currentAuthorityLegs : List CredentialLegPolicy
  currentAuthorityFreshnessMs : ℤ
  deriving DecidableEq, Repr

/-- One hundred years of 366 days. -/
def MAX_CREDENTIAL_FRESHNESS_MS : ℤ := 100 * 366 * 24 * 60 * 60 * 1000

/-- `Number.MAX_SAFE_INTEGER`. -/
def MAX_SAFE_INTEGER : ℤ := 2 ^ 53 - 1

namespace CredentialTierPolicy

variable (policy : CredentialTierPolicy)

def documentLegs : List CredentialLegPolicy :=
  policy.requiredDocumentLegs ++ [policy.identityConsistencyLeg]

/-- All legs, in the order the code walks through them. -/
def allLegs : List CredentialLegPolicy :=
  policy.requiredDocumentLegs ++ [policy.identityConsistencyLeg] ++ policy.currentAuthorityLegs

def sourceMap : OrderedMap String CredentialPolicySource :=
  .ofList (policy.sources.map fun source ↦ (source.sourceId, source))

def Allows (checkType sourceId : String) : Prop :=
  ∃ leg ∈ policy.allLegs, leg.checkType = checkType ∧ sourceId ∈ leg.allowedSourceIds

instance (checkType sourceId : String) : Decidable (policy.Allows checkType sourceId) :=
  inferInstanceAs (Decidable (∃ leg ∈ policy.allLegs, _))

end CredentialTierPolicy

/-! ## The rules

What makes a well-formed policy a sensible one. The rules are checked in the order of the source,
and `Valid` states what a reader needs of them, without the order and without the maps they are
checked with.
-/

/-- The white space `String.prototype.trim` removes. -/
def isWhiteSpace (c : Char) : Bool :=
  c.toNat ∈ [0x09, 0x0A, 0x0B, 0x0C, 0x0D, 0x20, 0xA0, 0x1680, 0x2028, 0x2029, 0x202F, 0x205F,
    0x3000, 0xFEFF] || (0x2000 ≤ c.toNat && c.toNat ≤ 0x200A)

/-- `value.trim()`. -/
def trim (value : String) : String :=
  .ofList (((value.toList.dropWhile isWhiteSpace).reverse.dropWhile isWhiteSpace).reverse)

/-- The values are configured, and no two are the same. -/
def requireUniqueNonEmpty (values : List String) (label : String) : Except Failure Unit := do
  require (values ≠ [] ∧ ∀ value ∈ values, trim value ≠ "")
    (.error (label ++ " must contain non-empty configured values"))
  require values.Nodup (.error (label ++ " must not contain duplicates"))

/-- The rules a policy has to follow beyond its shape. -/
def validateCredentialTierPolicy (policy : CredentialTierPolicy) : Except Failure Unit := do
  require (trim policy.version ≠ "" ∧ trim policy.providerType ≠ "")
    (.error "Credential policy version and provider type are required")
  require (|policy.currentAuthorityFreshnessMs| ≤ MAX_SAFE_INTEGER ∧
      0 < policy.currentAuthorityFreshnessMs ∧
      policy.currentAuthorityFreshnessMs ≤ MAX_CREDENTIAL_FRESHNESS_MS)
    (.error "Credential authority freshness must be a positive integer number of milliseconds")
  requireUniqueNonEmpty (policy.sources.map (·.sourceId)) "Credential policy sources"
  requireUniqueNonEmpty (policy.requiredDocumentLegs.map (·.checkType)) "Required credential legs"
  requireUniqueNonEmpty (policy.currentAuthorityLegs.map (·.checkType))
    "Current-authority credential legs"
  require (trim policy.identityConsistencyLeg.checkType ≠ "")
    (.error "Identity-consistency credential leg is required")
  let sources := policy.sourceMap
  forEach policy.allLegs fun leg ↦ do
    requireUniqueNonEmpty leg.allowedSourceIds ("Allowed sources for " ++ leg.checkType)
    forEach leg.allowedSourceIds fun sourceId ↦
      require (sources.get sourceId ≠ none)
        (.error ("Credential source '" ++ sourceId ++ "' is not declared"))
  forEach policy.documentLegs fun leg ↦
    forEach leg.allowedSourceIds fun sourceId ↦
      let kind := (sources.get sourceId).map (·.evidenceKind)
      require (¬ (kind = some .formatValidation ∨ kind = some .llmAdvisory))
        (.error ("Required credential leg '" ++ leg.checkType ++ "' uses a non-tier source"))
  forEach policy.currentAuthorityLegs fun leg ↦
    forEach leg.allowedSourceIds fun sourceId ↦
      require ((sources.get sourceId).map (·.evidenceKind) = some .authority)
        (.error ("Current-authority leg '" ++ leg.checkType ++ "' requires an authority source"))
  match policy.requiredDocumentLegs.find? fun leg ↦
      leg.checkType = policy.identityConsistencyLeg.checkType with
  | none => throw (.error "Identity-consistency leg must reuse a required document leg")
  | some identityRequiredLeg =>
    require (∀ sourceId ∈ policy.identityConsistencyLeg.allowedSourceIds,
        sourceId ∈ identityRequiredLeg.allowedSourceIds)
      (.error "Identity-consistency sources must be a subset of its required document leg")
  require (¬ ∃ leg ∈ policy.currentAuthorityLegs,
      leg.checkType ∈ policy.requiredDocumentLegs.map (·.checkType))
    (.error "Current-authority legs must be disjoint from required document legs")

/-- What validation promises. -/
structure CredentialTierPolicy.Valid (policy : CredentialTierPolicy) : Prop where
  named : trim policy.version ≠ "" ∧ trim policy.providerType ≠ ""
  freshness_pos : 0 < policy.currentAuthorityFreshnessMs
  freshness_le : policy.currentAuthorityFreshnessMs ≤ MAX_CREDENTIAL_FRESHNESS_MS
  sources_nodup : (policy.sources.map (·.sourceId)).Nodup
  required_ne_nil : policy.requiredDocumentLegs ≠ []
  required_nodup : (policy.requiredDocumentLegs.map (·.checkType)).Nodup
  authority_ne_nil : policy.currentAuthorityLegs ≠ []
  authority_nodup : (policy.currentAuthorityLegs.map (·.checkType)).Nodup
  /-- Every source a leg takes is declared. -/
  declared : ∀ leg ∈ policy.allLegs, ∀ sourceId ∈ leg.allowedSourceIds,
    ∃ source ∈ policy.sources, source.sourceId = sourceId
  /-- Document legs take no source that cannot confer a tier. -/
  document_kind : ∀ leg ∈ policy.documentLegs, ∀ source ∈ policy.sources,
    source.sourceId ∈ leg.allowedSourceIds →
      source.evidenceKind ≠ .formatValidation ∧ source.evidenceKind ≠ .llmAdvisory
  /-- Authority legs take authorities. -/
  authority_kind : ∀ leg ∈ policy.currentAuthorityLegs, ∀ source ∈ policy.sources,
    source.sourceId ∈ leg.allowedSourceIds → source.evidenceKind = .authority
  /-- The identity leg reuses a document leg. -/
  identity_reuses : ∃ leg ∈ policy.requiredDocumentLegs,
    leg.checkType = policy.identityConsistencyLeg.checkType ∧
      ∀ sourceId ∈ policy.identityConsistencyLeg.allowedSourceIds, sourceId ∈ leg.allowedSourceIds
  /-- No check type is both an authority leg and a document leg. -/
  disjoint : ∀ authority ∈ policy.currentAuthorityLegs, ∀ required ∈ policy.requiredDocumentLegs,
    authority.checkType ≠ required.checkType

namespace CredentialTierPolicy

variable {policy : CredentialTierPolicy}

theorem sourceMap_get_iff (h : (policy.sources.map (·.sourceId)).Nodup) {sourceId : String}
    {source : CredentialPolicySource} :
    policy.sourceMap.get sourceId = some source ↔
      source ∈ policy.sources ∧ source.sourceId = sourceId := by
  have hkeys :
      ((policy.sources.map fun source ↦ (source.sourceId, source)).map Prod.fst).Nodup := by
    rwa [List.map_map]
  rw [sourceMap, OrderedMap.get_ofList_eq_some_iff hkeys, List.mem_map]
  constructor
  · rintro ⟨source', hmem, heq⟩
    rw [Prod.mk.injEq] at heq
    exact ⟨heq.2 ▸ hmem, heq.2 ▸ heq.1⟩
  · rintro ⟨hmem, hid⟩
    exact ⟨source, hmem, by rw [hid]⟩

private theorem requireUniqueNonEmpty_ok {values : List String} {label : String}
    (h : requireUniqueNonEmpty values label = .ok ()) :
    values ≠ [] ∧ (∀ value ∈ values, trim value ≠ "") ∧ values.Nodup := by
  simp only [requireUniqueNonEmpty, unit_bind_eq_ok_iff, require_eq_ok_iff] at h
  obtain ⟨⟨hne, htrim⟩, hnodup⟩ := h
  exact ⟨hne, htrim, hnodup⟩

theorem valid_of_validate (h : validateCredentialTierPolicy policy = .ok ()) : policy.Valid := by
  simp only [validateCredentialTierPolicy, unit_bind_eq_ok_iff, require_eq_ok_iff,
    forEach_eq_ok_iff] at h
  obtain ⟨hnamed, ⟨_, hpos, hle⟩, hsources, hrequired, hauthority, _, hdeclared, hdocument, hkind,
    hreuse⟩ := h
  obtain ⟨leg, hleg, hid, hidentity, hdisjoint⟩ : ∃ leg ∈ policy.requiredDocumentLegs,
      leg.checkType = policy.identityConsistencyLeg.checkType ∧
      (∀ sourceId ∈ policy.identityConsistencyLeg.allowedSourceIds,
        sourceId ∈ leg.allowedSourceIds) ∧
      ¬ ∃ leg ∈ policy.currentAuthorityLegs,
        leg.checkType ∈ policy.requiredDocumentLegs.map (·.checkType) := by
    cases hfind : policy.requiredDocumentLegs.find? fun leg ↦
        leg.checkType = policy.identityConsistencyLeg.checkType with
    | none =>
      rw [hfind] at hreuse
      cases hreuse
    | some leg =>
      simp only [hfind, unit_bind_eq_ok_iff, require_eq_ok_iff] at hreuse
      exact ⟨leg, List.mem_of_find?_eq_some hfind, by simpa using List.find?_some hfind, hreuse⟩
  obtain ⟨-, -, hsources⟩ := requireUniqueNonEmpty_ok hsources
  obtain ⟨hrequired_ne, -, hrequired⟩ := requireUniqueNonEmpty_ok hrequired
  obtain ⟨hauthority_ne, -, hauthority⟩ := requireUniqueNonEmpty_ok hauthority
  have hget {source : CredentialPolicySource} (hs : source ∈ policy.sources) :
      policy.sourceMap.get source.sourceId = some source :=
    (sourceMap_get_iff hsources).mpr ⟨hs, rfl⟩
  refine
    { named := hnamed
      freshness_pos := hpos
      freshness_le := hle
      sources_nodup := hsources
      required_ne_nil := fun hnil ↦ hrequired_ne (by rw [hnil, List.map_nil])
      required_nodup := hrequired
      authority_ne_nil := fun hnil ↦ hauthority_ne (by rw [hnil, List.map_nil])
      authority_nodup := hauthority
      declared := fun leg hleg sourceId hid ↦ ?_
      document_kind := fun leg hleg source hs hid ↦ ?_
      authority_kind := fun leg hleg source hs hid ↦ ?_
      identity_reuses := ⟨leg, hleg, hid, hidentity⟩
      disjoint := fun authority ha required hr heq ↦ ?_ }
  · obtain ⟨_, hall⟩ := hdeclared leg hleg
    obtain ⟨source, hsource⟩ := Option.ne_none_iff_exists'.mp (hall sourceId hid)
    exact ⟨source, (sourceMap_get_iff hsources).mp hsource⟩
  · have := hdocument leg hleg _ hid
    rw [hget hs] at this
    simpa using this
  · have := hkind leg hleg _ hid
    rw [hget hs] at this
    simpa using this
  · exact hdisjoint ⟨authority, ha, heq ▸ List.mem_map_of_mem hr⟩

end CredentialTierPolicy

/-! ## The schema

Each parser takes the path of what it reads, for the error, and the value, which is `none` where
the field is absent.
-/

section Schema

/-- `z.string().min(1)`. -/
def parseString (path : List String) : Option Jsonb → Except Failure String
  | some (.string s) => if s = "" then .error (.zod path) else .ok s
  | _ => .error (.zod path)

/-- `z.array(item).min(1)`. -/
def parseArray {α : Type} (item : List String → Jsonb → Except Failure α) (path : List String) :
    Option Jsonb → Except Failure (List α)
  | some (.array elements) =>
    if elements = [] then .error (.zod path) else go 0 elements
  | _ => .error (.zod path)
where
  /-- The elements from position `n` on. -/
  go (n : ℕ) : List Jsonb → Except Failure (List α)
    | [] => .ok []
    | element :: elements => do
      let a ← item (path ++ [n.repr]) element
      let as ← go (n + 1) elements
      return a :: as

/-- `z.object(…)`. -/
def requireObject (path : List String) (doc : Jsonb) : Except Failure Unit :=
  require (doc.kind = .object) (.zod path)

/-- `.strict()`: no keys besides these. A key `__proto__` is passed over. -/
def requireKeys (path : List String) (doc : Jsonb) (keys : List String) : Except Failure Unit :=
  require (∀ key ∈ doc.keys, key = "__proto__" ∨ key ∈ keys) (.zod path)

/-- `z.number().int().positive().max(…)`; `int` also demands a safe integer. -/
def parseFreshness (path : List String) : Option Jsonb → Except Failure ℤ
  | some (.number n) =>
    match n.toDouble.toInt? with
    | none => .error (.zod path)
    | some ms =>
      if |ms| ≤ MAX_SAFE_INTEGER ∧ 0 < ms ∧ ms ≤ MAX_CREDENTIAL_FRESHNESS_MS then .ok ms
      else .error (.zod path)
  | _ => .error (.zod path)

/-- One entry of `sources`. -/
def parseSource (path : List String) (doc : Jsonb) : Except Failure CredentialPolicySource := do
  requireObject path doc
  let sourceId ← parseString (path ++ ["sourceId"]) (doc.get "sourceId")
  let kind ← parseString (path ++ ["evidenceKind"]) (doc.get "evidenceKind")
  requireKeys path doc ["sourceId", "evidenceKind"]
  match CredentialEvidenceKind.ofText kind with
  | none => .error (.zod (path ++ ["evidenceKind"]))
  | some evidenceKind => return ⟨sourceId, evidenceKind⟩

def parseLeg (path : List String) (doc : Jsonb) : Except Failure CredentialLegPolicy := do
  requireObject path doc
  let checkType ← parseString (path ++ ["checkType"]) (doc.get "checkType")
  let allowedSourceIds ← parseArray (fun path element ↦ parseString path (some element))
    (path ++ ["allowedSourceIds"]) (doc.get "allowedSourceIds")
  requireKeys path doc ["checkType", "allowedSourceIds"]
  return ⟨checkType, allowedSourceIds⟩

/-- A document as a policy, if it has the shape of one and follows the rules. -/
def parseCredentialTierPolicy (doc : Jsonb) : Except Failure CredentialTierPolicy := do
  requireObject [] doc
  let version ← parseString ["version"] (doc.get "version")
  let providerType ← parseString ["providerType"] (doc.get "providerType")
  let sources ← parseArray parseSource ["sources"] (doc.get "sources")
  let requiredDocumentLegs ← parseArray parseLeg ["requiredDocumentLegs"]
    (doc.get "requiredDocumentLegs")
  let identityConsistencyLeg ← parseLeg ["identityConsistencyLeg"]
    ((doc.get "identityConsistencyLeg").getD .null)
  let currentAuthorityLegs ← parseArray parseLeg ["currentAuthorityLegs"]
    (doc.get "currentAuthorityLegs")
  let currentAuthorityFreshnessMs ← parseFreshness ["currentAuthorityFreshnessMs"]
    (doc.get "currentAuthorityFreshnessMs")
  requireKeys [] doc ["version", "providerType", "sources", "requiredDocumentLegs",
    "identityConsistencyLeg", "currentAuthorityLegs", "currentAuthorityFreshnessMs"]
  let policy : CredentialTierPolicy :=
    { version, providerType, sources, requiredDocumentLegs, identityConsistencyLeg,
      currentAuthorityLegs, currentAuthorityFreshnessMs }
  validateCredentialTierPolicy policy
  return policy

end Schema

end Nayasetu
