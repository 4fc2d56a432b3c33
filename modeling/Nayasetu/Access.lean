import Mathlib.Data.List.Permutation
import Nayasetu.Transaction

/-!
# Who may do what

The checks every route makes before it touches a row, and the configuration the routes read.

A route begins with a chain of guards: the role of the actor, the schema of the body, and the
authority over the row it is about. A guard may end the transaction with a `403` or a `400`, and
writes nothing, so that the guards of a route come down to the facts they leave in the hands of
what follows.

Authority comes in three kinds. A citizen acts for itself. An operator acts for a citizen under a
delegation that is open and names both. An institution acts on a roster under a grant that has
neither expired nor been revoked. Delegations and grants are read from the database at the moment
the guard runs, and nothing keeps one from being ended right after.

The order of the rows of a query that asks for none is a choice of the environment (`anyOrder`),
so that what is proved holds for every order the database may pick.
-/

namespace Nayasetu

open Values RowLock

/-- Where the server runs. -/
inductive NodeEnv where
  | development
  | test
  | production
  deriving DecidableEq, Repr

/-- The policy data of a deployment. -/
structure AppConfig where
  nodeEnv : NodeEnv
  taxonomyCodes : List String
  districtFeeFloors : List (String × ℚ)
  providerActiveStatuses : List String

/-- `requireActor`. -/
def requireActor (actor : ActorContext) (roles : List Role) : Tx Unit :=
  ensure (actor.actorType ∈ roles)
    (.app 403 "FORBIDDEN" "The actor is not authorized for this operation")

/-- `parseBody`, for a schema that puts `condition` on the body. -/
def parseBody (condition : Prop) [Decidable condition] : Tx Unit :=
  ensure condition (.app 400 "VALIDATION_ERROR" "Request body is invalid")

/-- The length of a string in UTF-16 code units. -/
def jsLength (s : String) : ℕ := (s.toList.map fun c ↦ if c.toNat < 0x10000 then 1 else 2).sum

/-- `z.string().min(1).max(bound)`. -/
def BoundedText (bound : ℕ) (s : String) : Prop := 1 ≤ jsLength s ∧ jsLength s ≤ bound

instance (bound : ℕ) (s : String) : Decidable (BoundedText bound s) :=
  inferInstanceAs (Decidable (_ ∧ _))

/-- The delegation is open and lets the operator act for the citizen. -/
def OperatorDelegation.Permits (delegation : OperatorDelegation) (actor : ActorContext)
    (citizenUserId : ℕ) : Prop :=
  actor.delegationId = some delegation.id ∧ delegation.operatorUserId = actor.actorId ∧
    delegation.citizenUserId = citizenUserId ∧ delegation.endedAt = none

instance (delegation : OperatorDelegation) (actor : ActorContext) (citizenUserId : ℕ) :
    Decidable (delegation.Permits actor citizenUserId) := inferInstanceAs (Decidable (_ ∧ _))

/-- `assertCitizenAuthority`. -/
def assertCitizenAuthority (actor : ActorContext) (citizenUserId : ℕ) : Tx Unit := do
  if actor.actorType = .citizen then
    ensure (actor.actorId = citizenUserId) (.app 403 "FORBIDDEN" "Citizen identity mismatch")
  else
    ensure (actor.actorType = .operator ∧ actor.onBehalfOfCitizenId = some citizenUserId ∧
        actor.delegationId ≠ none)
      (.app 403 "DELEGATION_REQUIRED" "An active matching delegation is required")
    ensure (∃ delegation ∈ (← snapshot).delegations, delegation.Permits actor citizenUserId)
      (.app 403 "DELEGATION_INACTIVE" "Delegation is not active")

def ActorContext.ActsFor (actor : ActorContext) (citizenUserId : ℕ) (db : Database) : Prop :=
  (actor.actorType = .citizen ∧ actor.actorId = citizenUserId) ∨
    (actor.actorType = .operator ∧ actor.onBehalfOfCitizenId = some citizenUserId ∧
      ∃ delegation ∈ db.delegations, delegation.Permits actor citizenUserId)

theorem alone_assertCitizenAuthority {Req : Type} {i n : ℕ} {r : Req}
    {v : View Database LockKey Req} {actor : ActorContext} {citizenUserId : ℕ}
    (h : actor.ActsFor citizenUserId (v.pending v.shared.store)) :
    ∃ snap, alone i n r (assertCitizenAuthority actor citizenUserId) v =
      some (.ok (), { v with snapshot := snap }) := by
  rw [assertCitizenAuthority]
  rcases h with ⟨htype, hid⟩ | ⟨htype, hcitizen, delegation, hmem, hpermits⟩
  · refine ⟨v.snapshot, ?_⟩
    rw [if_pos htype]
    exact alone_ensure hid
  · refine ⟨v.shared.store, ?_⟩
    have hnamed : actor.delegationId ≠ none := by
      rw [hpermits.1]
      exact Option.some_ne_none _
    rw [if_neg (by rw [htype]; decide)]
    refine (alone_bind (alone_ensure ⟨htype, hcitizen, hnamed⟩)).trans ?_
    exact (alone_bind alone_snapshot).trans (alone_ensure ⟨delegation, hmem, hpermits⟩)

/-- The grant is in force at `timestamp`. -/
def InstitutionalRosterGrant.Permits (grant : InstitutionalRosterGrant) (actor : ActorContext)
    (rosterId : ℕ) (scope : String) (timestamp : ℤ) : Prop :=
  grant.institutionUserId = actor.actorId ∧ grant.rosterId = rosterId ∧ grant.scope = scope ∧
    timestamp < grant.expiresAt ∧ grant.revokedAt = none

instance (grant : InstitutionalRosterGrant) (actor : ActorContext) (rosterId : ℕ) (scope : String)
    (timestamp : ℤ) : Decidable (grant.Permits actor rosterId scope timestamp) :=
  inferInstanceAs (Decidable (_ ∧ _))

/-- `assertInstitutionalRosterGrant`. -/
def assertInstitutionalRosterGrant (actor : ActorContext) (rosterId : ℕ) (scope : String)
    (timestamp : ℤ) : Tx Unit := do
  if actor.actorType = .admin then return ()
  ensure (actor.actorType = .institution)
    (.app 403 "FORBIDDEN" "Institutional roster authority is required")
  ensure (scope ∈ actor.scopes)
    (.app 403 "MISSING_SCOPE" "Required institutional roster scope is missing")
  ensure (∃ grant ∈ (← snapshot).rosterGrants, grant.Permits actor rosterId scope timestamp)
    (.app 403 "ROSTER_GRANT_NOT_ACTIVE" "No active grant permits this roster access")

/-- A query without `ORDER BY`: its rows in an order the database picks. -/
def anyOrder {α : Type} (rows : List α) : Tx (List α) := do
  let n ← choose
  return (rows.permutations[n]?).getD rows

theorem perm_anyOrder {α : Type} (rows : List α) (n : ℕ) :
    ((rows.permutations[n]?).getD rows).Perm rows := by
  cases h : rows.permutations[n]? with
  | none => rfl
  | some l => exact List.mem_permutations.mp (List.mem_of_getElem? h)

/-! ## Reading only -/

section Writes

variable {W : (Database → Database) → Prop} {actor : ActorContext}

theorem writes_assertCitizenAuthority {citizenUserId : ℕ} :
    (assertCitizenAuthority actor citizenUserId).Writes W := by
  rw [assertCitizenAuthority]
  split
  · exact writes_ensure
  · exact writes_bind writes_ensure fun _ ↦ writes_bind writes_snapshot fun _ ↦ writes_ensure

theorem writes_assertInstitutionalRosterGrant {rosterId : ℕ} {scope : String} {timestamp : ℤ} :
    (assertInstitutionalRosterGrant actor rosterId scope timestamp).Writes W := by
  rw [assertInstitutionalRosterGrant]
  split
  · exact writes_pure
  · refine writes_bind writes_ensure fun _ ↦ writes_bind writes_ensure fun _ ↦ ?_
    exact writes_bind writes_snapshot fun _ ↦ writes_ensure

end Writes

end Nayasetu
