import Nayasetu.Intake.Needs

/-!
# Routing by the stored row

The rule of section 12 over what is stored: a declared category is referred to legal aid, a fee
ceiling below the configured floor goes to the rotation, everything else is paid, and without a
floor there is nothing to go by. The intake decides before it stores, on the amount of the
request, and looks the floor up among the members of an object. `stored_route_iff` says when that
comes to the same.

## Where they differ

A district named like an inherited member finds that member before the `DEFAULT` entry, provided
that no floor is configured for it. No ceiling is below what it finds, so the request is paid,
where the rule would look at the default. And what it finds is enough to go on, where the rule may
find nothing. `FindsInheritedMember` is the condition on the floors, the district and the code
under which this happens.
-/

namespace Nayasetu

open Values RowLock Collections

/-! ## The rule

What the documentation says about the routing, on the columns of the stored row.
-/

def configuredAt (floors : List (String × ℚ)) (key : String) : Option ℚ :=
  (floors.find? (·.1 = key)).map (·.2)

def configuredFloor (floors : List (String × ℚ)) (district taxonomyCode : String) : Option ℚ :=
  (configuredAt floors (district ++ ":" ++ taxonomyCode)).or
    ((configuredAt floors district).or (configuredAt floors "DEFAULT"))

def section12Route (floors : List (String × ℚ)) (category : Option String) (need : NeedRequest) :
    Option EligibilityRoute :=
  match category, need.feeCeiling with
  | some _, _ => some .legalAidReferral
  | none, none => some .paid
  | none, some units =>
    (configuredFloor floors need.district need.taxonomyCode).map fun floor ↦
      if (units : ℚ) / 100 < floor then .proBonoRotation else .paid

/-- The request was stored with the route its row calls for. -/
def StoredByRule (config : AppConfig) (body : NeedBody) (db db' : Database) : Prop :=
  ∃ need decision, db'.needs = db.needs ++ [need] ∧ db'.decisions = db.decisions ++ [decision] ∧
    decision.needRequestId = need.id ∧
    section12Route config.districtFeeFloors body.selfDeclaredSection12Category need =
      some decision.route

/-! ## The lookup

The three lookups of the source are one search through the configured entries, unless a key is the
name of an inherited member.
-/

def FindsInheritedMember (floors : List (String × ℚ)) (district taxonomyCode : String) : Prop :=
  district ∈ inheritedMembers ∧ configuredAt floors district = none ∧
    configuredAt floors (district ++ ":" ++ taxonomyCode) = none

instance FindsInheritedMember.decidable (floors : List (String × ℚ))
    (district taxonomyCode : String) :
    Decidable (FindsInheritedMember floors district taxonomyCode) :=
  inferInstanceAs (Decidable (_ ∧ _))

theorem floorAt_eq (floors : List (String × ℚ)) (key : String) :
    floorAt floors key = ((configuredAt floors key).map .amount).or
      (if key ∈ inheritedMembers then some .inherited else none) := by
  rw [floorAt, configuredAt]
  cases floors.find? (·.1 = key) <;> rfl

theorem not_mem_inheritedMembers (district taxonomyCode : String) :
    district ++ ":" ++ taxonomyCode ∉ inheritedMembers := by
  have hcolon : ∀ name ∈ inheritedMembers, ':' ∉ name.toList := by decide
  intro hmem
  refine hcolon _ hmem ?_
  simp

/-- What the code looks up, outside development. -/
theorem AppConfig.floor_eq {config : AppConfig} (hmode : config.nodeEnv ≠ .development)
    (district taxonomyCode : String) : config.floor district taxonomyCode =
      if FindsInheritedMember config.districtFeeFloors district taxonomyCode then some .inherited
      else (configuredFloor config.districtFeeFloors district taxonomyCode).map .amount := by
  have hdefault : "DEFAULT" ∉ inheritedMembers := by decide
  rw [AppConfig.floor, configuredFloor, floorAt_eq, floorAt_eq, floorAt_eq, if_neg hmode,
    if_neg (not_mem_inheritedMembers district taxonomyCode), if_neg hdefault]
  by_cases hinherited : FindsInheritedMember config.districtFeeFloors district taxonomyCode
  · rw [if_pos hinherited]
    obtain ⟨hmem, hdistrict, hkey⟩ := hinherited
    rw [hkey, hdistrict, if_pos hmem]
    rfl
  · rw [if_neg hinherited]
    cases hkey : configuredAt config.districtFeeFloors (district ++ ":" ++ taxonomyCode) with
    | some floor => rfl
    | none =>
      cases hdistrict : configuredAt config.districtFeeFloors district with
      | some floor => rfl
      | none =>
        have hmem : district ∉ inheritedMembers := fun hmem ↦ hinherited ⟨hmem, hdistrict, hkey⟩
        rw [if_neg hmem]
        cases configuredAt config.districtFeeFloors "DEFAULT" <;> rfl

/-! ## What is stored

The route by itself, from its checks to the rows it leaves. The ceiling is stored rounded to the
scale of the column.
-/

section Stored

variable {Req : Type} {i n : ℕ} {r : Req} {v w : View Database LockKey Req} {config : AppConfig}
  {actor : ActorContext} {body : NeedBody}

/-- The check of the authority writes nothing. -/
theorem of_alone_assertCitizenAuthority {citizenUserId : ℕ} {u : Unit}
    (h : alone i n r (assertCitizenAuthority actor citizenUserId) v = some (.ok u, w)) :
    w.shared = v.shared ∧ w.pending = v.pending := by
  rw [assertCitizenAuthority] at h
  split at h
  · obtain ⟨-, rfl⟩ := of_alone_ensure h
    exact ⟨rfl, rfl⟩
  · obtain ⟨-, h⟩ := of_alone_ensure_bind h
    obtain ⟨_, _, hsnapshot, h⟩ := exists_of_alone_bind h
    cases hsnapshot
    obtain ⟨-, rfl⟩ := of_alone_ensure h
    exact ⟨rfl, rfl⟩

/-- An amount that was accepted fits its column. -/
theorem of_alone_toMoney {amount : ℚ} {units : ℤ}
    (h : alone i n r (toMoney amount) v = some (.ok units, w)) :
    fixedPoint 14 2 amount = some units ∧ w = v := by
  rw [toMoney] at h
  split at h
  next hfits =>
    cases h
    exact ⟨hfits, rfl⟩
  next => cases h

/-- The amount of a request, as its column keeps it. -/
def storedCeiling : Option ℚ → Tx (Option ℤ)
  | none => return none
  | some amount => some <$> toMoney amount

theorem of_alone_storedCeiling {amount : Option ℚ} {feeCeiling : Option ℤ}
    (h : alone i n r (storedCeiling amount) v = some (.ok feeCeiling, w)) :
    w = v ∧ feeCeiling = amount.bind (fixedPoint 14 2) ∧ (amount ≠ none → feeCeiling ≠ none) := by
  cases amount with
  | none =>
    cases h
    exact ⟨rfl, rfl, fun h ↦ absurd rfl h⟩
  | some amount =>
    obtain ⟨units, u, hmoney, hsome⟩ := exists_of_alone_bind h
    obtain ⟨hfits, rfl⟩ := of_alone_toMoney hmoney
    cases hsome
    exact ⟨rfl, hfits.symm, fun _ ↦ Option.some_ne_none units⟩

/-- The statements that store a request and its route. -/
def storeNeed (actor : ActorContext) (body : NeedBody) (taxonomyCode : String)
    (decision : RoutingDecision) (timestamp : ℤ) (feeCeiling : Option ℤ) : Tx ℕ := do
  let id ← nextval
  write (Database.insertNeed (body.row actor taxonomyCode feeCeiling timestamp id))
  ensureText decision.section12Category.toList
  write (Database.insertDecision (decision.row id timestamp))
  writeAudit actor {
    action := "need.created_and_routed", entityType := "need_request", entityId := uuidText id,
    afterSummary := some (.object [("taxonomyCode", .string taxonomyCode),
      ("district", .string body.district), ("channel", .string body.channel),
      ("route", .string decision.route.text)]) }
  return id

theorem createNeedInTransaction_eq {taxonomyCode : String} {decision : RoutingDecision}
    {timestamp : ℤ} : createNeedInTransaction actor body taxonomyCode decision timestamp = (do
      assertCitizenAuthority actor body.citizenUserId
      ensureText [taxonomyCode, body.district, body.language, body.modePreference, body.urgency,
        body.channel]
      let feeCeiling ← storedCeiling body.feeCeiling
      storeNeed actor body taxonomyCode decision timestamp feeCeiling) := by
  rw [createNeedInTransaction]
  cases body.feeCeiling <;> rfl

/-- What the transaction of an accepted request writes. -/
structure Writes (actor : ActorContext) (body : NeedBody) (taxonomyCode : String)
    (decision : RoutingDecision) (timestamp : ℤ) (id : ℕ) (feeCeiling : Option ℤ)
    (db db' : Database) : Prop where
  needs : db'.needs = db.needs ++ [body.row actor taxonomyCode feeCeiling timestamp id]
  decisions : db'.decisions = db.decisions ++ [decision.row id timestamp]
  feeCeiling_eq : feeCeiling = body.feeCeiling.bind (fixedPoint 14 2)
  fits : body.feeCeiling ≠ none → feeCeiling ≠ none

theorem writes_of_alone_createNeedInTransaction {taxonomyCode : String} {decision : RoutingDecision}
    {timestamp : ℤ} {needId : ℕ}
    (h : alone i n r (createNeedInTransaction actor body taxonomyCode decision timestamp) v =
      some (.ok needId, w)) :
    ∃ feeCeiling, Writes actor body taxonomyCode decision timestamp needId feeCeiling
      (v.pending v.shared.store) (w.pending w.shared.store) := by
  rw [createNeedInTransaction_eq] at h
  obtain ⟨_, u, hauthority, h⟩ := exists_of_alone_bind h
  obtain ⟨hshared, hpending⟩ := of_alone_assertCitizenAuthority hauthority
  obtain ⟨-, h⟩ := of_alone_ensure_bind h
  obtain ⟨feeCeiling, u', hceiling, hstore⟩ := exists_of_alone_bind h
  obtain ⟨rfl, heq, hfits⟩ := of_alone_storedCeiling hceiling
  rw [storeNeed] at hstore
  obtain ⟨id, _, hid, hstore⟩ := exists_of_alone_bind hstore
  cases hid
  obtain ⟨_, _, hneed, hstore⟩ := exists_of_alone_bind hstore
  cases hneed
  obtain ⟨-, hstore⟩ := of_alone_ensure_bind hstore
  cases hstore
  rw [← hshared, ← hpending]
  exact ⟨feeCeiling, rfl, rfl, heq, hfits⟩

/-- A category that passes the schema is not empty. -/
theorem NeedBody.Valid.truthy_category (h : body.Valid) :
    truthy body.selfDeclaredSection12Category = body.selfDeclaredSection12Category := by
  obtain ⟨-, -, -, -, -, -, -, -, hcategory⟩ := h
  refine truthy_eq_self fun category hmem hempty ↦ ?_
  have hbounded := (hcategory category hmem).1
  rw [hempty] at hbounded
  exact absurd hbounded (by decide)

/-- What an accepted request has stored: the rounded amount, and the route of the amount itself. -/
theorem writes_of_alone_createNeed {needId : ℕ} {route : EligibilityRoute}
    (hpending : v.pending = id)
    (h : alone i n r (createNeed config actor body) v = some (.ok (needId, route), w)) :
    ∃ taxonomyCode ∈ body.taxonomyCode, ∃ feeCeiling,
      truthy body.selfDeclaredSection12Category = body.selfDeclaredSection12Category ∧
      (body.selfDeclaredSection12Category ≠ none ∨ body.feeCeiling = none ∨
        config.floor body.district taxonomyCode ≠ none) ∧
      Writes actor body taxonomyCode (decideEligibility ⟨body.selfDeclaredSection12Category,
        body.feeCeiling, config.floor body.district taxonomyCode⟩) v.shared.clock needId feeCeiling
        v.shared.store w.shared.store := by
  rw [createNeed] at h
  obtain ⟨-, h⟩ := of_alone_ensure_bind h
  obtain ⟨hvalid, h⟩ := of_alone_ensure_bind h
  rw [hvalid.truthy_category] at h
  split at h
  next => cases h
  next taxonomyCode htaxonomy =>
    obtain ⟨-, h⟩ := of_alone_ensure_bind h
    obtain ⟨-, h⟩ := of_alone_ensure_bind h
    obtain ⟨hfloor, h⟩ := of_alone_ensure_bind h
    obtain ⟨id, w', htransaction, hreturn⟩ := exists_of_alone_bind h
    cases hreturn
    obtain ⟨u, hoperation, rfl⟩ := exists_of_alone_withTransaction htransaction
    obtain ⟨feeCeiling, hwrites⟩ := writes_of_alone_createNeedInTransaction hoperation
    refine ⟨taxonomyCode, htaxonomy, feeCeiling, hvalid.truthy_category, hfloor, ?_⟩
    rw [hpending] at hwrites
    exact hwrites

end Stored

/-! ## Agreement

The branch the source takes and the branch of the rule, compared case by case.
-/

/-- The route decided on the amount is the route the stored amount calls for: where the lookup finds
an inherited member nothing is below the floor, and elsewhere the rounding does not cross it. -/
def RoutesAsStored (floors : List (String × ℚ)) (body : NeedBody) : Prop :=
  body.selfDeclaredSection12Category = none → ∀ taxonomyCode ∈ body.taxonomyCode,
    ∀ amount ∈ body.feeCeiling, ∀ units ∈ fixedPoint 14 2 amount,
      if FindsInheritedMember floors body.district taxonomyCode then
        ∃ floor ∈ configuredAt floors "DEFAULT", floor ≤ (units : ℚ) / 100
      else ∀ floor ∈ configuredFloor floors body.district taxonomyCode,
        (amount < floor ↔ (units : ℚ) / 100 < floor)

section Agreement

variable {config : AppConfig} {district taxonomyCode : String} {amount : ℚ} {units : ℤ}

theorem route_eq_of_inherited (h : config.floor district taxonomyCode = some .inherited) :
    (decideEligibility ⟨none, some amount, config.floor district taxonomyCode⟩).route = .paid := by
  rw [h]
  rfl

theorem route_eq_of_amount {floor : ℚ}
    (h : config.floor district taxonomyCode = some (.amount floor)) :
    (decideEligibility ⟨none, some amount, config.floor district taxonomyCode⟩).route =
      if amount < floor then .proBonoRotation else .paid := by
  rw [h]
  by_cases hlt : amount < floor <;> simp [decideEligibility, DistrictFloor.exceeds, hlt]

theorem configuredFloor_of_inherited {floors : List (String × ℚ)}
    (h : FindsInheritedMember floors district taxonomyCode) :
    configuredFloor floors district taxonomyCode = configuredAt floors "DEFAULT" := by
  obtain ⟨-, hdistrict, hkey⟩ := h
  rw [configuredFloor, hkey, hdistrict]
  rfl

/-- The two branches of the rule differ. -/
theorem branch_eq_iff {p q : Prop} [Decidable p] [Decidable q] :
    (if p then EligibilityRoute.proBonoRotation else .paid) =
    (if q then .proBonoRotation else .paid) ↔
      (p ↔ q) := by
  by_cases hp : p <;> by_cases hq : q <;> simp [hp, hq]

theorem map_branch_eq_some_iff (hmode : config.nodeEnv ≠ .development)
    (hfloor : config.floor district taxonomyCode ≠ none) :
    ((configuredFloor config.districtFeeFloors district taxonomyCode).map fun floor ↦
        if (units : ℚ) / 100 < floor then EligibilityRoute.proBonoRotation else .paid) =
      some (decideEligibility ⟨none, some amount, config.floor district taxonomyCode⟩).route ↔
    if FindsInheritedMember config.districtFeeFloors district taxonomyCode then
      ∃ floor ∈ configuredAt config.districtFeeFloors "DEFAULT", floor ≤ (units : ℚ) / 100
    else ∀ floor ∈ configuredFloor config.districtFeeFloors district taxonomyCode,
      (amount < floor ↔ (units : ℚ) / 100 < floor) := by
  have heq := AppConfig.floor_eq hmode district taxonomyCode
  by_cases hinherited : FindsInheritedMember config.districtFeeFloors district taxonomyCode
  · rw [if_pos hinherited] at heq ⊢
    rw [route_eq_of_inherited heq, configuredFloor_of_inherited hinherited, Option.map_eq_some_iff]
    refine exists_congr fun floor ↦ and_congr Iff.rfl ?_
    by_cases hlt : (units : ℚ) / 100 < floor <;> simp [hlt, not_le.mpr, not_lt.mp]
  · rw [if_neg hinherited] at heq ⊢
    cases hconfigured : configuredFloor config.districtFeeFloors district taxonomyCode with
    | none =>
      rw [hconfigured] at heq
      exact absurd heq hfloor
    | some floor =>
      rw [hconfigured] at heq
      rw [route_eq_of_amount heq, Option.map_some, Option.some_inj, branch_eq_iff]
      simp [iff_comm]

end Agreement

section Routing

variable {Req : Type} {i n : ℕ} {r : Req} {v w : View Database LockKey Req} {config : AppConfig}
  {actor : ActorContext} {body : NeedBody} {needId : ℕ} {route : EligibilityRoute}

/-- Only the rows that were written count. -/
theorem Writes.storedByRule_iff {taxonomyCode : String} {decision : RoutingDecision} {timestamp : ℤ}
    {feeCeiling : Option ℤ} {db db' : Database}
    (h : Writes actor body taxonomyCode decision timestamp needId feeCeiling db db') :
    StoredByRule config body db db' ↔
      section12Route config.districtFeeFloors body.selfDeclaredSection12Category
        (body.row actor taxonomyCode feeCeiling timestamp needId) = some decision.route := by
  constructor
  · rintro ⟨need, stored, hneeds, hdecisions, -, hroute⟩
    have hneed := List.append_cancel_left (hneeds.symm.trans h.needs)
    have hstored := List.append_cancel_left (hdecisions.symm.trans h.decisions)
    rw [List.singleton_inj] at hneed hstored
    rw [hneed, hstored] at hroute
    exact hroute
  · exact fun hroute ↦ ⟨_, _, h.needs, h.decisions, rfl, hroute⟩

/-- An accepted request is stored with the route its row calls for exactly when neither the lookup
nor the rounding gets in the way. -/
theorem stored_route_iff (hmode : config.nodeEnv ≠ .development) (hpending : v.pending = id)
    (h : alone i n r (createNeed config actor body) v = some (.ok (needId, route), w)) :
    StoredByRule config body v.shared.store w.shared.store ↔
      RoutesAsStored config.districtFeeFloors body := by
  obtain ⟨taxonomyCode, htaxonomy, feeCeiling, htruthy, hfloor, hwrites⟩ :=
    writes_of_alone_createNeed hpending h
  rw [hwrites.storedByRule_iff, RoutesAsStored, htaxonomy, hwrites.feeCeiling_eq]
  cases hcategory : body.selfDeclaredSection12Category with
  | some category =>
    rw [hcategory] at htruthy
    refine iff_of_true ?_ fun h ↦ absurd h (Option.some_ne_none category)
    rw [route_of_declared htruthy]
    rfl
  | none =>
    cases hamount : body.feeCeiling with
    | none =>
      exact iff_of_true rfl fun _ _ _ amount hmem ↦ absurd hmem (Option.not_mem_none amount)
    | some amount =>
      obtain ⟨units, hunits⟩ : ∃ units, fixedPoint 14 2 amount = some units := by
        have hsome := hwrites.fits (by rw [hamount]; exact Option.some_ne_none amount)
        rw [hwrites.feeCeiling_eq, hamount] at hsome
        exact Option.ne_none_iff_exists'.mp hsome
      have hconfigured : config.floor body.district taxonomyCode ≠ none := by
        rcases hfloor with hdeclared | hnone | hconfigured
        · exact absurd hcategory hdeclared
        · rw [hamount] at hnone
          exact absurd hnone (Option.some_ne_none amount)
        · exact hconfigured
      simp only [section12Route, NeedBody.row, Option.bind_some, hunits, Option.mem_some_iff,
        forall_eq', true_imp_iff]
      exact map_branch_eq_some_iff hmode hconfigured

end Routing

/-! ## A district nobody configured -/

/-- A deployment with a floor for every district. -/
def fiveHundredEverywhere : AppConfig where
  nodeEnv := .production
  taxonomyCodes := ["TENANCY"]
  districtFeeFloors := [("DEFAULT", 500)]
  providerActiveStatuses := ["ACTIVE"]

/-- A request of somebody who can pay a hundred. -/
def hundredFrom (district : String) : NeedBody where
  citizenUserId := 1
  taxonomyCode := some "TENANCY"
  narrative := none
  district := district
  language := "mr"
  modePreference := "REMOTE"
  feeCeiling := some 100
  urgency := "NORMAL"
  channel := "APP"
  selfDeclaredSection12Category := none

def emptyView : View Database LockKey Unit where
  shared := ⟨{}, 0, [], fun _ ↦ none, [], fun _ ↦ false⟩
  pending := id
  snapshot := {}

def citizenActor (id : ℕ) : ActorContext where
  actorId := id
  actorType := .citizen
  scopes := []
  requestId := "r"

theorem stored_route_iff_pune :
    ∃ needId route w, alone 0 0 () (createNeed fiveHundredEverywhere (citizenActor 1)
        (hundredFrom "Pune")) emptyView = some (.ok (needId, route), w) ∧
      (StoredByRule fiveHundredEverywhere (hundredFrom "Pune") {} w.shared.store ↔
        RoutesAsStored [("DEFAULT", 500)] (hundredFrom "Pune")) := by
  obtain ⟨w, hrun⟩ : ∃ w, alone 0 0 () (createNeed fiveHundredEverywhere (citizenActor 1)
      (hundredFrom "Pune")) emptyView = some (.ok (0, .proBonoRotation), w) :=
    exists_of_returned (by decide +kernel)
  exact ⟨0, .proBonoRotation, w, hrun, stored_route_iff (by decide) rfl hrun⟩

/-- A request from a district by the name of a member every object has is sent to paid counsel. -/
theorem stored_route_of_constructor :
    ∃ needId route w, alone 0 0 () (createNeed fiveHundredEverywhere (citizenActor 1)
        (hundredFrom "constructor")) emptyView = some (.ok (needId, route), w) ∧
      ¬ StoredByRule fiveHundredEverywhere (hundredFrom "constructor") {} w.shared.store := by
  obtain ⟨w, hrun⟩ : ∃ w, alone 0 0 () (createNeed fiveHundredEverywhere (citizenActor 1)
      (hundredFrom "constructor")) emptyView = some (.ok (0, .paid), w) :=
    exists_of_returned (by decide +kernel)
  refine ⟨0, .paid, w, hrun, fun hstored ↦ ?_⟩
  obtain ⟨taxonomyCode, htaxonomy, feeCeiling, -, -, hwrites⟩ := writes_of_alone_createNeed rfl hrun
  cases htaxonomy
  have hceiling : feeCeiling = some 10000 := hwrites.feeCeiling_eq.trans (by decide +kernel)
  have hroute := hwrites.storedByRule_iff.mp hstored
  rw [hceiling] at hroute
  revert hroute
  decide +kernel

end Nayasetu
