import Nayasetu.Access
import Nayasetu.Values.JsonText

/-!
# Start-up

The configuration is read from the environment once, when the server starts. The schema puts
defaults where a variable is missing, and a row of guards refuses what must not run in production.

The guards do what they are there for, with one exception: the fee floors start from a built-in
table, which a blank `DISTRICT_FEE_FLOORS_JSON` leaves in force
(`production_startup_failClosed_iff`).

What counts as a URL and as a UUID is a parameter.
-/

namespace Nayasetu

open Values

/-- `process.env`. -/
abbrev Environment := String → Option JsString

/-- `mode`. -/
inductive Mode where
  | live
  | mock
  | off
  deriving DecidableEq, Repr

inductive LogLevel where
  | fatal
  | error
  | warn
  | info
  | debug
  | trace
  | silent
  deriving DecidableEq, Repr

inductive AuthMode where
  | session
  | header
  | off
  deriving DecidableEq, Repr

inductive CaseStatusMode where
  | live
  | linkOnly
  | off
  deriving DecidableEq, Repr

inductive PaymentMode where
  | live
  | sandbox
  | off
  deriving DecidableEq, Repr

inductive InstitutionalExportMode where
  | «local»
  | live
  | off
  deriving DecidableEq, Repr

/-! ## The schema

Each field is a coercion with a check and perhaps a default. Fields are read in the order of the
schema, and the first that fails is the error.
-/

/-- `z.enum(values)`. -/
def enumerated {α : Type} (values : List (String × α)) (text : JsString) : Option α :=
  (values.find? fun value ↦ decide (units value.1 = text)).map Prod.snd

/-- `z.coerce.number().int().min(min).max(max)`. -/
def coercedInteger (min max : ℤ) (text : JsString) : Option ℤ :=
  match JsNumber.toNumber text with
  | .finite q => if q.den = 1 ∧ min ≤ q.num ∧ q.num ≤ max then some q.num else none
  | _ => none

/-- `schema.default(value)`. -/
def withDefault {α : Type} (value : α) (schema : JsString → Option α) : Option JsString → Option α
  | none => some value
  | some text => schema text

/-- The preprocessed optional strings: an empty text counts as a missing one. -/
def optionalString (check : JsString → Bool) : Option JsString → Option (Option JsString)
  | none | some [] => some none
  | some text => if check text then some (some text) else none

/-- `mode`. -/
def mode : JsString → Option Mode := enumerated [("LIVE", .live), ("MOCK", .mock), ("OFF", .off)]

/-- `/^[1-9]\d*$/`. -/
def isPositiveIntegerText (text : JsString) : Bool :=
  match text with
  | [] => false
  | u :: digits => decide (49 ≤ u ∧ u ≤ 57) && digits.all isDigitUnit

/-- `optionalPositiveIntegerString`. -/
def optionalPositiveIntegerString : Option JsString → Option (Option JsString) :=
  optionalString isPositiveIntegerText

/-- `optionalNonEmptyString`. -/
def optionalNonEmptyString : Option JsString → Option (Option JsString) :=
  optionalString fun text ↦ decide (1 ≤ text.length)

/-- The formats of Zod that the schema uses. -/
structure Formats where
  /-- `z.url()`. -/
  url : JsString → Option JsString
  /-- `z.uuid()`. -/
  uuid : JsString → Bool

/-- `optionalUuidString`. -/
def optionalUuidString (formats : Formats) : Option JsString → Option (Option JsString) :=
  optionalString formats.uuid

/-- What the schema makes of the environment. -/
structure ParsedEnvironment where
  nodeEnv : NodeEnv
  host : JsString
  port : ℤ
  databaseUrl : JsString
  databaseExpectedUser : Option JsString
  databasePoolMax : ℤ
  logLevel : LogLevel
  authMode : AuthMode
  sessionTokenPepper : Option JsString
  sessionTtlHours : ℤ
  authGoogleMode : Mode
  googleOauthClientId : Option JsString
  googleOauthClientSecret : Option JsString
  googleOauthRedirectUri : Option JsString
  googleOauthFrontendUrl : Option JsString
  googleOauthAuthUri : JsString
  googleOauthTokenUri : JsString
  googleOauthUserinfoUri : JsString
  credentialDigiLockerMode : Mode
  credentialBarMode : Mode
  credentialAibeMode : Mode
  caseStatusMode : CaseStatusMode
  paymentsMode : PaymentMode
  ivrMode : Mode
  whatsappMode : Mode
  institutionalExportMode : InstitutionalExportMode
  ecourtsPublicUrl : JsString
  evidenceSigningSecret : Option JsString
  taxonomyCodes : JsString
  providerInitialStatus : Option JsString
  providerActiveStatuses : JsString
  districtFeeFloorsJson : JsString
  credentialRevalidationActorId : Option JsString
  publicStatsMinCellSize : Option JsString

/-- One variable of the environment, or an issue under its name. -/
def parseField {α : Type} (environment : Environment) (name : String)
    (schema : Option JsString → Option α) : Except Failure α :=
  match schema (environment name) with
  | some value => .ok value
  | none => .error (.zod [name])

/-- `environmentSchema.parse(environment)`. -/
def environmentSchema (formats : Formats) (environment : Environment) :
    Except Failure ParsedEnvironment := do
  let nodeEnv ← parseField environment "NODE_ENV" (withDefault .development
    (enumerated [("development", .development), ("test", .test), ("production", .production)]))
  let port ← parseField environment "PORT" (withDefault 3000 (coercedInteger 1 65535))
  let databaseUrl ← parseField environment "DATABASE_URL" fun value ↦
    value.filter fun text ↦ decide (1 ≤ text.length)
  let databaseExpectedUser ← parseField environment "DATABASE_EXPECTED_USER" optionalNonEmptyString
  let databasePoolMax ← parseField environment "DATABASE_POOL_MAX"
    (withDefault 10 (coercedInteger 1 100))
  let logLevel ← parseField environment "LOG_LEVEL" (withDefault .info
    (enumerated [("fatal", .fatal), ("error", .error), ("warn", .warn), ("info", .info),
      ("debug", .debug), ("trace", .trace), ("silent", .silent)]))
  let authMode ← parseField environment "AUTH_MODE" (withDefault .off
    (enumerated [("SESSION", .session), ("HEADER", .header), ("OFF", .off)]))
  let sessionTtlHours ← parseField environment "SESSION_TTL_HOURS"
    (withDefault 720 (coercedInteger 1 8760))
  let authGoogleMode ← parseField environment "AUTH_GOOGLE_MODE" (withDefault .off mode)
  let googleOauthClientId ← parseField environment "GOOGLE_OAUTH_CLIENT_ID" optionalNonEmptyString
  let googleOauthClientSecret ← parseField environment "GOOGLE_OAUTH_CLIENT_SECRET"
    optionalNonEmptyString
  let googleOauthRedirectUri ← parseField environment "GOOGLE_OAUTH_REDIRECT_URI"
    optionalNonEmptyString
  let googleOauthFrontendUrl ← parseField environment "GOOGLE_OAUTH_FRONTEND_URL"
    optionalNonEmptyString
  let googleOauthAuthUri ← parseField environment "GOOGLE_OAUTH_AUTH_URI"
    (withDefault (units "https://accounts.google.com/o/oauth2/auth") formats.url)
  let googleOauthTokenUri ← parseField environment "GOOGLE_OAUTH_TOKEN_URI"
    (withDefault (units "https://oauth2.googleapis.com/token") formats.url)
  let googleOauthUserinfoUri ← parseField environment "GOOGLE_OAUTH_USERINFO_URI"
    (withDefault (units "https://openidconnect.googleapis.com/v1/userinfo") formats.url)
  let credentialDigiLockerMode ← parseField environment "CREDENTIAL_DIGILOCKER_MODE"
    (withDefault .off mode)
  let credentialBarMode ← parseField environment "CREDENTIAL_BAR_MODE" (withDefault .off mode)
  let credentialAibeMode ← parseField environment "CREDENTIAL_AIBE_MODE" (withDefault .off mode)
  let caseStatusMode ← parseField environment "CASE_STATUS_MODE" (withDefault .linkOnly
    (enumerated [("LIVE", .live), ("LINK_ONLY", .linkOnly), ("OFF", .off)]))
  let paymentsMode ← parseField environment "PAYMENTS_MODE" (withDefault .off
    (enumerated [("LIVE", .live), ("SANDBOX", .sandbox), ("OFF", .off)]))
  let ivrMode ← parseField environment "IVR_MODE" (withDefault .off mode)
  let whatsappMode ← parseField environment "WHATSAPP_MODE" (withDefault .off mode)
  let institutionalExportMode ← parseField environment "INSTITUTIONAL_EXPORT_MODE"
    (withDefault .local
    (enumerated [("LOCAL", .local), ("LIVE", .live), ("OFF", .off)]))
  let ecourtsPublicUrl ← parseField environment "ECOURTS_PUBLIC_URL"
    (withDefault (units "https://services.ecourts.gov.in/") formats.url)
  let providerInitialStatus ← parseField environment "PROVIDER_INITIAL_STATUS"
    optionalNonEmptyString
  let credentialRevalidationActorId ← parseField environment "CREDENTIAL_REVALIDATION_ACTOR_ID"
    (optionalUuidString formats)
  let publicStatsMinCellSize ← parseField environment "PUBLIC_STATS_MIN_CELL_SIZE"
    optionalPositiveIntegerString
  return {
    nodeEnv, port, databaseUrl, databaseExpectedUser, databasePoolMax, logLevel, authMode,
    sessionTtlHours, authGoogleMode, googleOauthClientId, googleOauthClientSecret,
    googleOauthRedirectUri, googleOauthFrontendUrl, googleOauthAuthUri, googleOauthTokenUri,
    googleOauthUserinfoUri, credentialDigiLockerMode, credentialBarMode, credentialAibeMode,
    caseStatusMode, paymentsMode, ivrMode, whatsappMode, institutionalExportMode, ecourtsPublicUrl,
    providerInitialStatus, credentialRevalidationActorId, publicStatsMinCellSize
    -- A plain string accepts every text.
    host := (environment "HOST").getD (units "0.0.0.0")
    sessionTokenPepper := environment "SESSION_TOKEN_PEPPER"
    evidenceSigningSecret := environment "EVIDENCE_SIGNING_SECRET"
    taxonomyCodes := (environment "TAXONOMY_CODES").getD []
    providerActiveStatuses := (environment "PROVIDER_ACTIVE_STATUSES").getD []
    districtFeeFloorsJson := (environment "DISTRICT_FEE_FLOORS_JSON").getD (units "{}") }

/-! ## Capabilities

The modes of the adapters. Payments have to be off, which is a property the type carries.
-/

structure CapabilityModes where
  credentialDigiLocker : Mode
  credentialBar : Mode
  credentialAibe : Mode
  caseStatus : CaseStatusMode
  payments : PaymentMode
  ivr : Mode
  whatsapp : Mode
  institutionalExport : InstitutionalExportMode

abbrev RuntimeCapabilities := { capabilities : CapabilityModes // capabilities.payments = .off }

/-- `resolveRuntimeCapabilities`. -/
def resolveRuntimeCapabilities (capabilities : CapabilityModes) :
    Except Failure RuntimeCapabilities :=
  if h : capabilities.payments = .off then .ok ⟨capabilities, h⟩
  else .error
    (.error "PAYMENTS_MODE must remain OFF until an authorized PSP adapter is implemented")

/-! ## The configuration

The guards stand in the order of the source. The fee floors are those of the variable, if it is
not blank, and otherwise the built-in entry.
-/

structure AuthGoogle where
  mode : Mode
  clientId : Option JsString
  clientSecret : Option JsString
  redirectUri : Option JsString
  frontendUrl : Option JsString
  authUri : JsString
  tokenUri : JsString
  userinfoUri : JsString

/-- What `loadConfig` returns. -/
structure LoadedConfig where
  nodeEnv : NodeEnv
  host : JsString
  port : ℤ
  databaseUrl : JsString
  databaseExpectedUser : Option JsString
  databasePoolMax : ℤ
  logLevel : LogLevel
  authMode : AuthMode
  sessionTokenPepper : Option JsString
  sessionTtlHours : ℤ
  authGoogle : AuthGoogle
  taxonomyCodes : List JsString
  providerInitialStatus : Option JsString
  providerActiveStatuses : List JsString
  districtFeeFloors : List (JsString × ℚ)
  credentialRevalidationActorId : Option JsString
  publicStatsMinimumCellSize : Option JsNumber
  capabilities : RuntimeCapabilities
  ecourtsPublicUrl : JsString
  evidenceSigningSecret : Option JsString

/-- `!value`. -/
def isMissing (value : Option JsString) : Bool := decide (value.getD [] = [])

/-- `text.split(",").map((item) => item.trim()).filter(Boolean)`. -/
def listed (text : JsString) : List JsString := ((split 44 text).map Values.trim).filter (· ≠ [])

/-- One entry of `z.record(z.string(), z.number().nonnegative())`. -/
def feeFloor (entry : JsString × Json) : Option (JsString × ℚ) :=
  match entry.2 with
  | .number (.finite floor) => if 0 ≤ floor then some (entry.1, floor) else none
  | _ => none

/-- `z.record(z.string(), z.number().nonnegative()).parse(document)`, which passes over
`__proto__`. -/
def feeFloorRecord : Json → Option (List (JsString × ℚ))
  | .object fields => (fields.filter (·.1 ≠ units "__proto__")).mapM feeFloor
  | _ => none

/-- The value `districtFeeFloors` has at the end. -/
def districtFeeFloors (parsed : ParsedEnvironment) : Except Failure (List (JsString × ℚ)) :=
  if Values.trim parsed.districtFeeFloorsJson = [] then .ok [(units "DEFAULT", 500)]
  else match (jsonParse parsed.districtFeeFloorsJson).bind feeFloorRecord with
    | some floors => .ok floors
    | none =>
      if parsed.nodeEnv = .production then
        .error (.error "DISTRICT_FEE_FLOORS_JSON must be a JSON object of non-negative numbers")
      else .ok [(units "DEFAULT", 500)]

/-- `mockCapabilities`. -/
def mockCapabilities (parsed : ParsedEnvironment) : List Mode :=
  [parsed.credentialDigiLockerMode, parsed.credentialBarMode, parsed.credentialAibeMode,
    parsed.ivrMode, parsed.whatsappMode, parsed.authGoogleMode].filter (· = .mock)

def requireLiveGoogle (parsed : ParsedEnvironment) : Except Failure Unit :=
  if parsed.authGoogleMode = .live then do
    require (¬ (parsed.authMode ≠ .session ∨ isMissing parsed.sessionTokenPepper = true))
      (.error "LIVE Google authentication requires SESSION auth mode with a pepper")
    require (¬ (isMissing parsed.googleOauthClientId = true ∨
        isMissing parsed.googleOauthClientSecret = true ∨
        isMissing parsed.googleOauthRedirectUri = true ∨
        isMissing parsed.googleOauthFrontendUrl = true))
      (.error
        "LIVE Google authentication requires client id, secret, redirect URI, and frontend URL")
  else .ok ()

/-- `loadConfig`. -/
def loadConfig (formats : Formats) (environment : Environment) : Except Failure LoadedConfig := do
  let parsed ← environmentSchema formats environment
  let capabilities ← resolveRuntimeCapabilities {
    credentialDigiLocker := parsed.credentialDigiLockerMode
    credentialBar := parsed.credentialBarMode
    credentialAibe := parsed.credentialAibeMode
    caseStatus := parsed.caseStatusMode
    payments := parsed.paymentsMode
    ivr := parsed.ivrMode
    whatsapp := parsed.whatsappMode
    institutionalExport := parsed.institutionalExportMode }
  require (¬ (parsed.nodeEnv = .production ∧ 0 < (mockCapabilities parsed).length))
    (.error "Production startup rejects MOCK capability modes")
  requireLiveGoogle parsed
  require (¬ (parsed.nodeEnv = .production ∧ parsed.authMode ≠ .session))
    (.error "Production startup requires database-backed session authentication")
  require (¬ (parsed.nodeEnv = .production ∧ isMissing parsed.databaseExpectedUser = true))
    (.error "Production startup requires DATABASE_EXPECTED_USER")
  require (¬ (parsed.authMode = .session ∧ (isMissing parsed.sessionTokenPepper = true ∨
      (parsed.sessionTokenPepper.getD []).length < 32)))
    (.error "SESSION_TOKEN_PEPPER must contain at least 32 characters in SESSION mode")
  let districtFeeFloors ← districtFeeFloors parsed
  return {
    nodeEnv := parsed.nodeEnv
    host := parsed.host
    port := parsed.port
    databaseUrl := parsed.databaseUrl
    databaseExpectedUser := parsed.databaseExpectedUser
    databasePoolMax := parsed.databasePoolMax
    logLevel := parsed.logLevel
    authMode := parsed.authMode
    sessionTokenPepper := parsed.sessionTokenPepper
    sessionTtlHours := parsed.sessionTtlHours
    authGoogle := {
      mode := parsed.authGoogleMode
      clientId := parsed.googleOauthClientId
      clientSecret := parsed.googleOauthClientSecret
      redirectUri := parsed.googleOauthRedirectUri
      frontendUrl := parsed.googleOauthFrontendUrl
      authUri := parsed.googleOauthAuthUri
      tokenUri := parsed.googleOauthTokenUri
      userinfoUri := parsed.googleOauthUserinfoUri }
    taxonomyCodes := (listed parsed.taxonomyCodes).eraseDups
    providerInitialStatus := parsed.providerInitialStatus
    providerActiveStatuses := listed parsed.providerActiveStatuses
    districtFeeFloors
    credentialRevalidationActorId := parsed.credentialRevalidationActorId
    publicStatsMinimumCellSize :=
      if isMissing parsed.publicStatsMinCellSize then none
      else parsed.publicStatsMinCellSize.map JsNumber.toNumber
    capabilities
    ecourtsPublicUrl := parsed.ecourtsPublicUrl
    evidenceSigningSecret := parsed.evidenceSigningSecret }

/-! ## What start-up in production promises

Each promise is about the configuration that a server was started with, given that it was.
-/

/-- What the guards are there for. -/
structure Guarded (config : LoadedConfig) : Prop where
  authMode : config.authMode = .session
  sessionTokenPepper : ∃ pepper ∈ config.sessionTokenPepper, 32 ≤ pepper.length
  databaseExpectedUser : ∃ user ∈ config.databaseExpectedUser, user ≠ []
  /-- The other two adapters have no mode of this name. -/
  adapterModes : .mock ∉ [config.authGoogle.mode, config.capabilities.val.credentialDigiLocker,
    config.capabilities.val.credentialBar, config.capabilities.val.credentialAibe,
    config.capabilities.val.ivr, config.capabilities.val.whatsapp]
  payments : config.capabilities.val.payments = .off

/-- A configuration that fails closed: besides, no policy value in it is made up. -/
structure FailClosed (environment : Environment) (config : LoadedConfig) : Prop
    extends Guarded config where
  districtFeeFloors : ∀ entry ∈ config.districtFeeFloors, ∃ text ∈
    environment "DISTRICT_FEE_FLOORS_JSON", ∃ fields, jsonParse text = some (.object fields) ∧
      (entry.1, Json.number (.finite entry.2)) ∈ fields

/-- `DISTRICT_FEE_FLOORS_JSON` is set to nothing but white space. -/
def BlankFloors (environment : Environment) : Prop :=
  ∃ text ∈ environment "DISTRICT_FEE_FLOORS_JSON", Values.trim text = []

section Production

variable {formats : Formats} {environment : Environment} {parsed : ParsedEnvironment}
  {config : LoadedConfig}

/-- A property of what comes out of a sequence, from what its first step gives. -/
theorem forall_ok_of_bind {α β : Type} {x : Except Failure α} {f : α → Except Failure β}
    {P : β → Prop} (h : ∀ a, x = .ok a → ∀ b, f a = .ok b → P b) :
    ∀ b, (x >>= f) = .ok b → P b := by
  intro b hb
  obtain ⟨a, ha, hb⟩ := bind_eq_ok_iff.mp hb
  exact h a ha b hb

theorem districtFeeFloorsJson_of_parse : ∀ parsed,
    environmentSchema formats environment = .ok parsed → parsed.districtFeeFloorsJson =
      (environment "DISTRICT_FEE_FLOORS_JSON").getD (units "{}") := by
  rw [environmentSchema]
  repeat refine forall_ok_of_bind fun _ _ ↦ ?_
  rintro _ ⟨⟩
  rfl

theorem feeFloor_eq_some {entry : JsString × Json} {floor : JsString × ℚ}
    (h : feeFloor entry = some floor) : entry = (floor.1, .number (.finite floor.2)) := by
  obtain ⟨key, value⟩ := entry
  rw [feeFloor] at h
  split at h
  next q hq =>
    split at h
    · cases h
      exact Prod.ext rfl hq
    · cases h
  next => cases h

theorem mem_of_mapM_feeFloor {fields : List (JsString × Json)} {floors : List (JsString × ℚ)}
    (h : fields.mapM feeFloor = some floors) :
    ∀ floor ∈ floors, (floor.1, Json.number (.finite floor.2)) ∈ fields := by
  induction fields generalizing floors with
  | nil =>
    cases h
    intro floor hfloor
    cases hfloor
  | cons entry fields ih =>
    rw [List.mapM_cons] at h
    obtain ⟨first, hfirst, h⟩ := Option.bind_eq_some_iff.mp h
    obtain ⟨rest, hrest, h⟩ := Option.bind_eq_some_iff.mp h
    cases h
    intro floor hfloor
    rcases List.mem_cons.mp hfloor with rfl | hfloor
    · rw [feeFloor_eq_some hfirst]
      exact List.mem_cons_self
    · exact List.mem_cons_of_mem _ (ih hrest floor hfloor)

theorem mem_of_feeFloorRecord {document : Json} {floors : List (JsString × ℚ)}
    (h : feeFloorRecord document = some floors) :
    ∃ fields, document = .object fields ∧
      ∀ floor ∈ floors, (floor.1, Json.number (.finite floor.2)) ∈ fields := by
  cases document with
  | object fields =>
    refine ⟨fields, rfl, fun floor hfloor ↦ ?_⟩
    exact List.mem_of_mem_filter (mem_of_mapM_feeFloor h floor hfloor)
  | _ => cases h

theorem exists_of_not_isMissing {value : Option JsString} (h : ¬ isMissing value = true) :
    ∃ text ∈ value, text ≠ [] := by
  cases value with
  | none => exact absurd rfl h
  | some text => exact ⟨text, rfl, fun hnil ↦ h (decide_eq_true hnil)⟩

theorem guarded_of_production (hload : loadConfig formats environment = .ok config)
    (hproduction : config.nodeEnv = .production) :
    Guarded config ∧ ∃ parsed, environmentSchema formats environment = .ok parsed ∧
      parsed.nodeEnv = .production ∧ districtFeeFloors parsed = .ok config.districtFeeFloors := by
  rw [loadConfig] at hload
  obtain ⟨parsed, hparsed, hload⟩ := bind_eq_ok_iff.mp hload
  obtain ⟨capabilities, hcapabilities, hload⟩ := bind_eq_ok_iff.mp hload
  obtain ⟨hmock, hload⟩ := unit_bind_eq_ok_iff.mp hload
  obtain ⟨-, hload⟩ := unit_bind_eq_ok_iff.mp hload
  obtain ⟨hsession, hload⟩ := unit_bind_eq_ok_iff.mp hload
  obtain ⟨huser, hload⟩ := unit_bind_eq_ok_iff.mp hload
  obtain ⟨hpepper, hload⟩ := unit_bind_eq_ok_iff.mp hload
  obtain ⟨floors, hfloors, hload⟩ := bind_eq_ok_iff.mp hload
  cases hload
  rw [require_eq_ok_iff] at hmock hsession huser hpepper
  have henv : parsed.nodeEnv = .production := hproduction
  have hauth : parsed.authMode = .session := by
    by_contra hne
    exact hsession ⟨henv, hne⟩
  refine ⟨⟨hauth, ?_, ?_, ?_, capabilities.property⟩, parsed, hparsed, henv, hfloors⟩
  · obtain ⟨hpresent, hlong⟩ := not_or.mp fun h ↦ hpepper ⟨hauth, h⟩
    obtain ⟨pepper, hsome, -⟩ := exists_of_not_isMissing hpresent
    refine ⟨pepper, hsome, ?_⟩
    rw [Option.mem_def.mp hsome] at hlong
    exact not_lt.mp hlong
  · exact exists_of_not_isMissing fun hmissing ↦ huser ⟨henv, hmissing⟩
  · rw [resolveRuntimeCapabilities] at hcapabilities
    split at hcapabilities
    · cases hcapabilities
      have hnil : mockCapabilities parsed = [] := by
        by_contra hne
        exact hmock ⟨henv, List.length_pos_of_ne_nil hne⟩
      rw [mockCapabilities, List.filter_eq_nil_iff] at hnil
      simp only [List.forall_mem_cons, decide_eq_true_eq] at hnil
      simp only [List.mem_cons, List.not_mem_nil, or_false, not_or]
      obtain ⟨hdigiLocker, hbar, haibe, hivr, hwhatsapp, hgoogle, -⟩ := hnil
      exact ⟨Ne.symm hgoogle, Ne.symm hdigiLocker, Ne.symm hbar, Ne.symm haibe, Ne.symm hivr,
        Ne.symm hwhatsapp⟩
    · cases hcapabilities

theorem districtFeeFloors_of_production {floors : List (JsString × ℚ)}
    (hproduction : parsed.nodeEnv = .production) (h : districtFeeFloors parsed = .ok floors) :
    (Values.trim parsed.districtFeeFloorsJson = [] ∧ floors = [(units "DEFAULT", 500)]) ∨
    (Values.trim parsed.districtFeeFloorsJson ≠ [] ∧ ∃ fields,
      jsonParse parsed.districtFeeFloorsJson = some (.object fields) ∧
      ∀ floor ∈ floors, (floor.1, Json.number (.finite floor.2)) ∈ fields) := by
  rw [districtFeeFloors, if_pos hproduction] at h
  split at h
  next hblank =>
    cases h
    exact .inl ⟨hblank, rfl⟩
  next hblank =>
    refine .inr ⟨hblank, ?_⟩
    split at h
    next floors' hfloors =>
      cases h
      obtain ⟨document, hdocument, hrecord⟩ := Option.bind_eq_some_iff.mp hfloors
      obtain ⟨fields, rfl, hmem⟩ := mem_of_feeFloorRecord hrecord
      exact ⟨fields, hdocument, hmem⟩
    next => cases h

/-- The table of a blank variable comes from nowhere. -/
theorem not_failClosed_of_blank (hload : loadConfig formats environment = .ok config)
    (hproduction : config.nodeEnv = .production) (hblank : BlankFloors environment) :
    ¬ FailClosed environment config := by
  obtain ⟨-, parsed, hparsed, henv, hfloors⟩ := guarded_of_production hload hproduction
  obtain ⟨text, htext, hblank⟩ := hblank
  have hjson := districtFeeFloorsJson_of_parse parsed hparsed
  rw [Option.mem_def.mp htext, Option.getD_some] at hjson
  intro hclosed
  rcases districtFeeFloors_of_production henv hfloors with ⟨-, hbuiltIn⟩ | ⟨hne, -⟩
  · obtain ⟨text', htext', fields, hfields, -⟩ := hclosed.districtFeeFloors (units "DEFAULT", 500)
      (hbuiltIn ▸ List.mem_cons_self)
    cases Option.mem_unique htext htext'
    rw [jsonParse_of_space (trim_eq_nil_iff.mp hblank)] at hfields
    cases hfields
  · exact hne (hjson ▸ hblank)

end Production

/-- A configuration for production fails closed, unless the variable of the fee floors is blank. -/
theorem production_startup_failClosed_iff (formats : Formats) (environment : Environment)
    (config : LoadedConfig) (hload : loadConfig formats environment = .ok config)
    (hproduction : config.nodeEnv = .production) :
    FailClosed environment config ↔ ¬ BlankFloors environment := by
  refine ⟨fun hclosed hblank ↦ not_failClosed_of_blank hload hproduction hblank hclosed,
    fun hnotBlank ↦ ?_⟩
  obtain ⟨hguarded, parsed, hparsed, henv, hfloors⟩ := guarded_of_production hload hproduction
  have hjson := districtFeeFloorsJson_of_parse parsed hparsed
  refine ⟨hguarded, fun entry hentry ↦ ?_⟩
  have hgiven := districtFeeFloors_of_production henv hfloors
  rw [hjson] at hgiven
  cases hvariable : environment "DISTRICT_FEE_FLOORS_JSON" with
  | none =>
    -- The default of the schema is an empty object.
    rw [hvariable, Option.getD_none] at hgiven
    rcases hgiven with ⟨hempty, -⟩ | ⟨-, fields, hfields, hmem⟩
    · cases hempty
    · cases hfields
      cases hmem entry hentry
  | some text =>
    rw [hvariable, Option.getD_some] at hgiven
    rcases hgiven with ⟨hblank, -⟩ | ⟨-, fields, hfields, hmem⟩
    · exact absurd ⟨text, hvariable, hblank⟩ hnotBlank
    · exact ⟨text, rfl, fields, hfields, hmem entry hentry⟩

def productionEnvironment (districtFeeFloorsJson : JsString) : Environment
  | "NODE_ENV" => some (units "production")
  | "DATABASE_URL" => some (units "postgres://localhost/legal")
  | "DATABASE_EXPECTED_USER" => some (units "legal_service_app")
  | "AUTH_MODE" => some (units "SESSION")
  | "SESSION_TOKEN_PEPPER" => some (units "0123456789abcdef0123456789abcdef")
  | "DISTRICT_FEE_FLOORS_JSON" => some districtFeeFloorsJson
  | _ => none

def puneFloors : JsString := units "\x7b\"Pune\":750\x7d"

/-- The configuration with that table fails closed. -/
theorem production_startup_failClosed_iff_pune : ∃ config,
    loadConfig ⟨some, fun _ ↦ true⟩ (productionEnvironment puneFloors) = .ok config ∧
      config.nodeEnv = .production ∧ config.districtFeeFloors = [(units "Pune", 750)] ∧
      FailClosed (productionEnvironment puneFloors) config := by
  have hload : (loadConfig ⟨some, fun _ ↦ true⟩ (productionEnvironment puneFloors)).toOption.map
      (fun config ↦ (config.nodeEnv, config.districtFeeFloors)) =
        some (.production, [(units "Pune", 750)]) := by decide +kernel
  obtain ⟨config, hconfig, hfields⟩ := Option.map_eq_some_iff.mp hload
  have hok : loadConfig ⟨some, fun _ ↦ true⟩ (productionEnvironment puneFloors) = .ok config := by
    cases hresult : loadConfig ⟨some, fun _ ↦ true⟩ (productionEnvironment puneFloors) with
    | error failure =>
      rw [hresult] at hconfig
      cases hconfig
    | ok loaded =>
      rw [hresult] at hconfig
      exact congrArg _ (Option.some.inj hconfig)
  obtain ⟨hmode, hfloors⟩ := Prod.mk.inj hfields
  refine ⟨config, hok, hmode, hfloors, ?_⟩
  refine (production_startup_failClosed_iff ⟨some, fun _ ↦ true⟩
    (productionEnvironment puneFloors) config hok hmode).mpr ?_
  rintro ⟨text, htext, hblank⟩
  cases htext
  cases hblank

/-- The server starts with floors of its own making if it is given an empty text. -/
theorem emptyFloors_fabricated : ∃ config,
    loadConfig ⟨some, fun _ ↦ true⟩ (productionEnvironment []) = .ok config ∧
      config.nodeEnv = .production ∧ config.districtFeeFloors = [(units "DEFAULT", 500)] ∧
      ¬ FailClosed (productionEnvironment []) config :=
  ⟨_, rfl, rfl, rfl, not_failClosed_of_blank
    (show loadConfig ⟨some, fun _ ↦ true⟩ (productionEnvironment []) = _ from rfl) rfl
    ⟨[], rfl, rfl⟩⟩

end Nayasetu
