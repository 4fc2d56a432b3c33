import Nayasetu.Intake.Needs

/-!
# Rotation

The route that assigns a request to the next member of a roster. The statement that selects the
member fixes the order of the candidates from its own snapshot. Then it tries to lock them in that
order; it skips rows that are locked and evaluates its condition again on the newest versions of the
rows it has locked, while the order stays what it was.

The condition is that the member is available, has a free place and fits the request together with
its provider. The rows of the member and of the provider are locked, so these two are the newest
versions when the condition is evaluated again; the roster and the services are those of the
snapshot.
-/

namespace Nayasetu

open Values RowLock Collections

namespace Database

/-- Replace the membership with the same key. -/
def updateMembership (row : RosterMembership) (db : Database) : Database :=
  { db with memberships := replaceBy (·.key) row db.memberships }

/-- The roster with an identifier. -/
def roster (db : Database) (id : ℕ) : Option Roster := lookupBy (·.id) id db.rosters

end Database

/-- The conditions of the selection on a member, its roster, its provider and the provider's
service. -/
def RosterMembership.Selectable (member : RosterMembership) (roster : Roster) (provider : Provider)
    (service : ProviderService) (config : AppConfig) (need : NeedRequest) (route : EligibilityRoute)
    (timestamp : ℤ) : Prop :=
  service.providerId = provider.id ∧ service.taxonomyCode = roster.taxonomyCode ∧
    roster.district = need.district ∧ roster.taxonomyCode = need.taxonomyCode ∧
    member.status = "AVAILABLE" ∧ member.activeMatters < member.capacity ∧
    member.conflictBlocked = false ∧ provider.status ∈ config.providerActiveStatuses ∧
    provider.providerType = roster.providerType ∧
    (route = .paid ∨ service.proBonoAvailable = true) ∧
    (∃ minimumTier ∈ roster.minimumTier, minimumTier ≤ provider.tier) ∧
    provider.TierCurrent timestamp

instance (member : RosterMembership) (roster : Roster) (provider : Provider)
    (service : ProviderService) (config : AppConfig) (need : NeedRequest) (route : EligibilityRoute)
    (timestamp : ℤ) :
    Decidable (member.Selectable roster provider service config need route timestamp) :=
  inferInstanceAs (Decidable (_ ∧ _))

/-- `ORDER BY rm.active_matters ASC, rm.last_assigned_at ASC NULLS FIRST`. -/
def compareMembers (left right : RosterMembership) : ℤ :=
  if left.activeMatters - right.activeMatters ≠ 0 then left.activeMatters - right.activeMatters
  else match left.lastAssignedAt, right.lastAssignedAt with
    | none, none => 0
    | none, some _ => -1
    | some _, none => 1
    | some leftAt, some rightAt => leftAt - rightAt

section Rotation

variable (config : AppConfig) (need : NeedRequest) (route : EligibilityRoute) (timestamp : ℤ)

/-- The condition of the selection, with the roster and the services of the statement's snapshot and
the locked rows as they are in `db`. -/
def memberEligible (snapshot db : Database) (key : ℕ × ℕ) : Bool :=
  (db.membership key).any fun member ↦ (snapshot.roster key.1).any fun roster ↦
    (db.provider key.2).any fun provider ↦ snapshot.services.any fun service ↦
      decide (member.Selectable roster provider service config need route timestamp)

/-- The members the selection finds in its snapshot. -/
def eligibleMembers (db : Database) (rosterId : ℕ) : List RosterMembership :=
  db.memberships.filter fun member ↦
    member.rosterId = rosterId && memberEligible config need route timestamp db db member.key

/-- `FOR UPDATE OF rm, p SKIP LOCKED LIMIT 1`, over the ordered candidates. -/
def claimMember (snapshot : Database) : List RosterMembership → Tx (Option ℕ)
  | [] => return none
  | member :: members => do
    match ← tryLock (.rosterMembership member.key) with
    | none => claimMember snapshot members
    | some _ =>
      match ← tryLock (.provider member.providerId) with
      | none => claimMember snapshot members
      | some db =>
        if memberEligible config need route timestamp snapshot db member.key then
          return some member.providerId
        else claimMember snapshot members

def selectMember (rosterId : ℕ) : Tx (Option ℕ) := do
  let db ← snapshot
  let members ← anyOrder (eligibleMembers config need route timestamp db rosterId)
  claimMember config need route timestamp db (sortBy compareMembers members)

end Rotation

theorem exists_membership_of_eligible {config : AppConfig} {need : NeedRequest}
    {route : EligibilityRoute} {timestamp : ℤ} {snapshot db : Database} {key : ℕ × ℕ}
    (h : memberEligible config need route timestamp snapshot db key = true) :
    ∃ member, db.membership key = some member ∧ member.activeMatters < member.capacity := by
  rw [memberEligible, Option.any_eq_true] at h
  obtain ⟨member, hmember, h⟩ := h
  rw [Option.any_eq_true] at h
  obtain ⟨roster, -, h⟩ := h
  rw [Option.any_eq_true] at h
  obtain ⟨provider, -, h⟩ := h
  rw [List.any_eq_true] at h
  obtain ⟨service, -, h⟩ := h
  exact ⟨member, hmember, (of_decide_eq_true h).2.2.2.2.2.1⟩

def rotationAllocation (actor : ActorContext)
    (needRequestId providerId rosterId : ℕ) (timestamp : ℤ)
    (id : ℕ) : Allocation where
  id := id
  needRequestId := needRequestId
  providerId := providerId
  mode := .rotation
  rosterId := some rosterId
  seed := none
  position := none
  decidedAt := timestamp
  decidedBy := actor.actorId
  status := .assigned
  endedAt := none
  declineReason := none

/-- A membership with one more active matter. -/
def RosterMembership.assign (member : RosterMembership) (timestamp : ℤ) : RosterMembership :=
  { member with
    activeMatters := member.activeMatters + 1
    lastAssignedAt := some timestamp }

/-- `UPDATE roster_membership SET active_matters = active_matters + 1, last_assigned_at = now()`. -/
def assignMember (key : ℕ × ℕ) (timestamp : ℤ) : Tx Unit := do
  match (← lock (.rosterMembership key)).membership key with
  | none => return ()
  | some member =>
    ensure (member.assign timestamp).ActiveMattersCheck (.database "23514"
      "new row for relation \"roster_membership\" violates check constraint")
    write (Database.updateMembership (member.assign timestamp))

/-- The transaction of `POST /v1/needs/:id/rotate`; the allocation and its provider. -/
def rotateInTransaction (config : AppConfig) (actor : ActorContext) (needId rosterId : ℕ)
    (timestamp : ℤ) : Tx (ℕ × ℕ) := do
  match ← selectNeedForUpdate needId with
  | none => throw (.app 404 "NEED_NOT_FOUND" "Need request was not found")
  | some (need, decision) =>
    if actor.actorType ≠ .institution then assertCitizenAuthority actor need.citizenUserId
    else assertInstitutionalRosterGrant actor rosterId "rosters:allocate" timestamp
    ensure (decision.route ≠ .paid ∨ actor.actorType = .operator)
      (.app 409 "ROTATION_NOT_ALLOWED" "Paid citizen-choice requests do not use rotation")
    ensure (config.providerActiveStatuses ≠ [])
      (.app 503 "PROVIDER_STATUS_POLICY_NOT_CONFIGURED"
        "Roster-eligible provider statuses have not been supplied")
    match ← selectMember config need decision.route timestamp rosterId with
    | none =>
      throw (.app 409 "NO_ROSTER_PROVIDER_AVAILABLE" "No eligible roster member is available")
    | some providerId =>
      let id ← insertAllocation (rotationAllocation actor need.id providerId rosterId timestamp)
      assignMember (rosterId, providerId) timestamp
      writeAudit actor {
        action := "allocation.rotation_assigned", entityType := "allocation", entityId :=
        uuidText id, afterSummary := some (.object [("needRequestId", .string (uuidText need.id)),
          ("providerId", .string (uuidText providerId)),
          ("rosterId", .string (uuidText rosterId))]) }
      return (id, providerId)

/-- `POST /v1/needs/:id/rotate`; the allocation and its provider. -/
def rotate (config : AppConfig) (actor : ActorContext) (needId rosterId : ℕ) : Tx (ℕ × ℕ) := do
  requireActor actor [.citizen, .operator, .institution]
  withTransaction (rotateInTransaction config actor needId rosterId)

/-! ## What is written

The statement that selects a member writes nothing, and the assignment changes one row.
-/

section Writes

variable {W : (Database → Database) → Prop}

theorem writes_claimMember {config : AppConfig} {need : NeedRequest} {route : EligibilityRoute}
    {timestamp : ℤ} {db : Database} {members : List RosterMembership} :
    (claimMember config need route timestamp db members).Writes W := by
  induction members with
  | nil => exact writes_pure
  | cons member members ih =>
    refine writes_bind writes_tryLock fun locked ↦ ?_
    cases locked with
    | none => exact ih
    | some _ =>
      refine writes_bind writes_tryLock fun found ↦ ?_
      cases found with
      | none => exact ih
      | some db' => exact writes_ite writes_pure ih

theorem writes_selectMember {config : AppConfig} {need : NeedRequest} {route : EligibilityRoute}
    {timestamp : ℤ} {rosterId : ℕ} :
    (selectMember config need route timestamp rosterId).Writes W :=
  writes_bind writes_snapshot fun _ ↦
    writes_bind (writes_bind writes_choose fun _ ↦ writes_pure) fun _ ↦ writes_claimMember

theorem writes_assignMember {key : ℕ × ℕ} {timestamp : ℤ}
    (h : ∀ row, W (Database.updateMembership row)) : (assignMember key timestamp).Writes W := by
  refine writes_bind writes_lock fun db ↦ ?_
  cases db.membership key with
  | none => exact writes_pure
  | some member => exact writes_bind writes_ensure fun _ ↦ writes_write (h _)

end Writes

end Nayasetu
