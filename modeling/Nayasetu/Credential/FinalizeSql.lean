import Nayasetu.Credential.Recompute
import Nayasetu.Database

/-!
# The decision of the database

The part of `finalize_verification_case` that reads the active policy and the checks of the case:
first the validation of the policy document, then the queries that decide. Times are microseconds.

## Null

A field of a document is an `Option`, where `none` is `NULL`. A condition that compares with
`NULL` is neither true nor false in the database, and an `IF` does not take its branch; the
definitions say so by asking for `some` of a value. `NOT IN` over a column that may be `NULL` is
written out for the same reason.

## Order

`DISTINCT ON` keeps the first row of each group in the order of the query, and `ORDER BY … LIMIT
1` the first of all. Both are given on lists, as `distinctOn` and as the head of a stable sort.
-/

namespace Nayasetu

open Values Collections

/-- `RAISE EXCEPTION … USING ERRCODE = '22023'` if the condition holds. -/
def raiseIf (condition : Prop) [Decidable condition] (message : String) : Except Failure Unit :=
  require (¬ condition) (.database "22023" message)

/-- `btrim(text)`. -/
def btrim (text : String) : String :=
  .ofList (((text.toList.dropWhile (· = ' ')).reverse.dropWhile (· = ' ')).reverse)

/-! ## Rows of a policy document

The queries read legs and sources as rows with columns. The checks of the validation are in the
order of the function, each with the message it raises.
-/

/-- `leg ->> 'checkType'` and the texts of `leg -> 'allowedSourceIds'`. -/
structure LegRow where
  checkType : Option String
  sourceIds : List String
  deriving DecidableEq, Repr

/-- `source ->> 'sourceId'` and `source ->> 'evidenceKind'`. -/
structure SourceRow where
  sourceId : Option String
  evidenceKind : Option String
  deriving DecidableEq, Repr

def legRow (leg : Jsonb) : LegRow :=
  ⟨leg.textAt "checkType", (leg.elementsAt "allowedSourceIds").filterMap Jsonb.text⟩

def sourceRow (source : Jsonb) : SourceRow :=
  ⟨source.textAt "sourceId", source.textAt "evidenceKind"⟩

section Policy

variable (policy : Jsonb)

/-- `v_policy -> 'identityConsistencyLeg'`. -/
def identityLeg : Jsonb := (policy.get "identityConsistencyLeg").getD .null

/-- `policy_legs`: every leg of the document. -/
def policyLegs : List Jsonb :=
  policy.elementsAt "requiredDocumentLegs" ++ [identityLeg policy] ++
    policy.elementsAt "currentAuthorityLegs"

/-- The rows of `sources`. -/
def sourceRows : List SourceRow := (policy.elementsAt "sources").map sourceRow

/-- The rows of `requiredDocumentLegs`. -/
def requiredRows : List LegRow := (policy.elementsAt "requiredDocumentLegs").map legRow

/-- The row of `identityConsistencyLeg`. -/
def identityRow : LegRow := legRow (identityLeg policy)

/-- The rows of `currentAuthorityLegs`. -/
def authorityRows : List LegRow := (policy.elementsAt "currentAuthorityLegs").map legRow

/-- The sources declared under an identifier. -/
def sourcesOf (sourceId : String) : List SourceRow :=
  (sourceRows policy).filter (·.sourceId = some sourceId)

/-- `text IS NULL OR btrim(text) = ''`. -/
def isBlank (text : Option String) : Bool := text.all (btrim · = "")

def checkPolicyShape : Except Failure Unit := do
  raiseIf (policy.kind ≠ .object ∨ policy.kindAt "version" ≠ some .string ∨
      policy.kindAt "providerType" ≠ some .string ∨ policy.kindAt "sources" ≠ some .array ∨
      policy.kindAt "requiredDocumentLegs" ≠ some .array ∨
      policy.kindAt "identityConsistencyLeg" ≠ some .object ∨
      policy.kindAt "currentAuthorityLegs" ≠ some .array ∨
      policy.kindAt "currentAuthorityFreshnessMs" ≠ some .number)
    "Active credential policy shape is invalid"
  raiseIf (policy.elementsAt "sources" = [] ∨ policy.elementsAt "requiredDocumentLegs" = [] ∨
      policy.elementsAt "currentAuthorityLegs" = [] ∨
      (policy.textAt "currentAuthorityFreshnessMs").all
        fun text ↦ !Numeric.isPositiveIntegerText text.toList)
    "Active credential policy cannot contain empty required configuration"
  raiseIf ((∃ source ∈ policy.elementsAt "sources", source.kind ≠ .object) ∨
      ∃ leg ∈ policyLegs policy, leg.kind ≠ .object)
    "Active credential policy entries must be objects"
  raiseIf (policy.keys.length ≠ 7 ∨
      (∃ key ∈ policy.keys, key ∉ ["version", "providerType", "sources", "requiredDocumentLegs",
        "identityConsistencyLeg", "currentAuthorityLegs", "currentAuthorityFreshnessMs"]) ∨
      (∃ source ∈ policy.elementsAt "sources", source.keys.length ≠ 2 ∨
        ∃ key ∈ source.keys, key ∉ ["sourceId", "evidenceKind"]) ∨
      ∃ leg ∈ policyLegs policy, leg.keys.length ≠ 2 ∨
        ∃ key ∈ leg.keys, key ∉ ["checkType", "allowedSourceIds"])
    "Active credential policy contains unexpected fields"
  raiseIf ((∃ source ∈ policy.elementsAt "sources",
        source.kindAt "sourceId" ≠ some .string ∨ source.kindAt "evidenceKind" ≠ some .string) ∨
      ∃ leg ∈ policyLegs policy,
        leg.kindAt "checkType" ≠ some .string ∨ leg.kindAt "allowedSourceIds" ≠ some .array)
    "Active credential policy field types are invalid"
  raiseIf (∃ leg ∈ policyLegs policy, ∃ sourceId ∈ leg.elementsAt "allowedSourceIds",
      sourceId.kind ≠ .string)
    "Credential policy source identifiers must be strings"

/-- `v_freshness_ms`. -/
def policyFreshnessMs : Except Failure ℤ :=
  match policy.get "currentAuthorityFreshnessMs" with
  | some (.number n) =>
    if n.le (.ofInt 3162240000000) then .ok (n.unscaled / 10 ^ n.scale)
    else .error (.database "22023" "Credential freshness exceeds the supported integer range")
  | _ => .error (.database "22023" "Active credential policy shape is invalid")

/-- The instants a `timestamptz` can hold. -/
def IsTimestamp (t : ℤ) : Prop := -210866803200000000 ≤ t ∧ t < 9224318016000000000

instance (t : ℤ) : Decidable (IsTimestamp t) := inferInstanceAs (Decidable (_ ∧ _))

def checkPolicyIdentifiers : Except Failure Unit :=
  raiseIf ((∃ source ∈ sourceRows policy, isBlank source.sourceId) ∨
      ¬ ((sourceRows policy).map (·.sourceId)).Nodup ∨
      (∃ source ∈ sourceRows policy, source.evidenceKind ∉ [some "ISSUER", some "AUTHORITY",
        some "MANUAL_DOCUMENT", some "FORMAT_VALIDATION", some "LLM_ADVISORY"]) ∨
      (∃ leg ∈ requiredRows policy, isBlank leg.checkType) ∨
      ¬ ((requiredRows policy).map (·.checkType)).Nodup ∨
      (∃ leg ∈ authorityRows policy, isBlank leg.checkType) ∨
      ¬ ((authorityRows policy).map (·.checkType)).Nodup ∨
      isBlank (identityRow policy).checkType)
    "Active credential policy identifiers are invalid"

/-- How the legs of the document relate to each other and to its sources. -/
def checkPolicyLegs : Except Failure Unit := do
  raiseIf ((¬ ∃ leg ∈ requiredRows policy, leg.checkType = (identityRow policy).checkType ∧
        ∀ sourceId ∈ (identityRow policy).sourceIds, sourceId ∈ leg.sourceIds) ∨
      ∃ authority ∈ authorityRows policy, authority.checkType = (identityRow policy).checkType ∨
        ∃ required ∈ requiredRows policy, required.checkType = authority.checkType)
    "Credential identity/document reuse or authority-leg separation is invalid"
  raiseIf (∃ leg ∈ policyLegs policy, leg.kindAt "allowedSourceIds" ≠ some .array ∨
      leg.elementsAt "allowedSourceIds" = [] ∨
      (∃ sourceId ∈ (legRow leg).sourceIds, btrim sourceId = "" ∨ sourcesOf policy sourceId = []) ∨
      ¬ (legRow leg).sourceIds.Nodup)
    "Active credential policy source mapping is invalid"
  raiseIf ((∃ leg ∈ requiredRows policy ++ [identityRow policy], ∃ sourceId ∈ leg.sourceIds,
        ∃ source ∈ sourcesOf policy sourceId,
          source.evidenceKind ∈ [some "FORMAT_VALIDATION", some "LLM_ADVISORY"]) ∨
      ∃ leg ∈ authorityRows policy, ∃ sourceId ∈ leg.sourceIds,
        ∃ source ∈ sourcesOf policy sourceId,
          source.evidenceKind ≠ none ∧ source.evidenceKind ≠ some "AUTHORITY")
    "Active credential policy assigns a non-contributing source"

/-- The validation of the active policy; the freshness it leaves in `v_freshness`. -/
def validatePolicySql (decidedAt : ℤ) : Except Failure ℤ := do
  checkPolicyShape policy
  let freshnessMs ← policyFreshnessMs policy
  let freshness := 1000 * freshnessMs
  require (IsTimestamp (decidedAt - freshness) ∧ IsTimestamp (decidedAt + freshness))
    (.database "22008" "Credential freshness exceeds the timestamp range")
  checkPolicyIdentifiers policy
  checkPolicyLegs policy
  return freshness

end Policy

/-! ## The queries

One definition for each common table expression, and `sqlDecision` for the final choice.
-/

/-- `LEAST` and `min`, where `none` is `NULL` or `'infinity'`: neither is ever the result if there
is anything else. -/
def sqlMin : List (Option ℤ) → Option ℤ
  | [] => none
  | none :: l => sqlMin l
  | some a :: l => match sqlMin l with
    | none => some a
    | some b => some (min a b)

/-- A check joined with the kind of its source. -/
structure Evidence extends VerificationCheck where
  evidenceKind : Option String
  deriving DecidableEq, Repr

section Queries

variable (policy : Jsonb) (checks : List VerificationCheck) (decidedAt freshness : ℤ)

/-- The key of `DISTINCT ON`. -/
def VerificationCheck.pair (check : VerificationCheck) : String × String :=
  (check.checkType, check.sourceId)

/-- The live checks dated at or before the decision. -/
def visibleRows : List VerificationCheck :=
  checks.filter fun check ↦ check.sourceMode = .live && check.checkedAt ≤ decidedAt

/-- `relevant`: the pairs some leg names. -/
def relevantPairs : List (Option String × String) :=
  (requiredRows policy ++ [identityRow policy] ++ authorityRows policy).flatMap fun leg ↦
    leg.sourceIds.map fun sourceId ↦ (leg.checkType, sourceId)

/-- `v_conflict`. -/
def sqlConflict : Bool :=
  (distinctOn (·.pair) (·.recordedSequence) (visibleRows checks decidedAt)).any fun check ↦
    (some check.checkType, check.sourceId) ∈ relevantPairs policy &&
      (check.result = .mismatch || check.result = .conflict)

/-- `latest`, joined with the declared sources. -/
def latestEvidence : List Evidence :=
  distinctOn (·.pair) (·.recordedSequence) ((visibleRows checks decidedAt).flatMap fun check ↦
    (sourcesOf policy check.sourceId).map fun source ↦ ⟨check, source.evidenceKind⟩)

/-- `ORDER BY checked_at DESC, recorded_sequence DESC LIMIT 1`. -/
def newestEvidence (candidates : List Evidence) : Option Evidence :=
  (sortBy (fun left right ↦
    if right.checkedAt = left.checkedAt then right.recordedSequence - left.recordedSequence
    else right.checkedAt - left.checkedAt) candidates).head?

/-- The check passed, has not expired and is for the leg. -/
def Evidence.supports (evidence : Evidence) (leg : LegRow) : Bool :=
  some evidence.checkType = leg.checkType && evidence.sourceId ∈ leg.sourceIds &&
    evidence.result = .pass && evidence.validUntil.all fun validUntil ↦
      decide (decidedAt < validUntil)

/-- `selected_check` for a document leg or the identity leg. -/
def selectDocument (leg : LegRow) : Option Evidence :=
  newestEvidence ((latestEvidence policy checks decidedAt).filter fun evidence ↦
    evidence.supports decidedAt leg &&
      evidence.evidenceKind.any (· ∉ ["FORMAT_VALIDATION", "LLM_ADVISORY"]))

/-- `selected_check` for an authority leg. -/
def selectAuthority (leg : LegRow) : Option Evidence :=
  newestEvidence ((latestEvidence policy checks decidedAt).filter fun evidence ↦
    evidence.supports decidedAt leg && evidence.evidenceKind = some "AUTHORITY" &&
      decide (decidedAt - freshness < evidence.checkedAt))

/-- `COALESCE(bool_and(COALESCE(found, false)), false)`. -/
def allFound (selected : List (Option Evidence)) : Bool :=
  selected ≠ [] && selected.all Option.isSome

/-- `LEAST(freshness_expiry, COALESCE(valid_until, 'infinity'))` of a selected authority check. -/
def authorityBound (found : Option Evidence) : Option ℤ :=
  sqlMin [found.map fun evidence ↦ evidence.checkedAt + freshness, found.bind (·.validUntil)]

def sqlDecision : PersistedTierDecision :=
  let documents := (requiredRows policy).map (selectDocument policy checks decidedAt)
  let identity := selectDocument policy checks decidedAt (identityRow policy)
  let authorities := (authorityRows policy).map (selectAuthority policy checks decidedAt freshness)
  let documentExpiry := sqlMin (documents.map fun found ↦ found.bind (·.validUntil))
  let identityExpiry := identity.bind (·.validUntil)
  let authorityExpiry := sqlMin (authorities.map (authorityBound freshness))
  if sqlConflict policy checks decidedAt then
    ⟨⟨.selfDeclared, ["UNRESOLVED_CREDENTIAL_CONFLICT"]⟩, none⟩
  else if !allFound documents then ⟨⟨.selfDeclared, ["REQUIRED_EVIDENCE_INCOMPLETE"]⟩, none⟩
  else if !identity.isSome then ⟨⟨.selfDeclared, ["IDENTITY_CONSISTENCY_REQUIRED"]⟩, none⟩
  else if !allFound authorities then
    ⟨⟨.documentVerified, ["CURRENT_LIVE_AUTHORITY_REQUIRED"]⟩, none⟩
  else
    ⟨⟨.fullyVerified, ["CURRENT_LIVE_AUTHORITY_CONFIRMED"]⟩,
      sqlMin [some (decidedAt + freshness), documentExpiry, identityExpiry, authorityExpiry]⟩

end Queries

end Nayasetu
