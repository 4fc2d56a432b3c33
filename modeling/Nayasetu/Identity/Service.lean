import Nayasetu.Access
import Nayasetu.Identity.OAuthState
import Nayasetu.RowLock.Within

/-!
# The service

The database with the tables only sign-in, profiles, delegations, grievances and payments use:
accounts, their sessions and profiles, the terms of a delegation, grievances and payment intents.
What the other modules say about the database is said about a part of this store (`inDatabase`).

The tables are split because most of the development does not need these: a program over the
database becomes one over the service by a lens (`databasePart`), which carries its rules along.
The keys that transactions lock are extended in the same way.

Grievances and payment intents are here with the columns that the modelled routes read or write.
No route changes a payment intent.
-/

namespace Nayasetu

open Values RowLock Collections

/-- A row of `user_account`. -/
structure UserAccount where
  id : ℕ
  email : Option JsString
  status : String
  deriving DecidableEq

/-- A row of `auth_session`. -/
structure AuthSession where
  id : ℕ
  userId : ℕ
  tokenDigest : Digest
  createdAt : ℤ
  expiresAt : ℤ
  revokedAt : Option ℤ
  deriving DecidableEq

/-- The checks of `auth_session`. -/
def AuthSession.RowCheck (session : AuthSession) : Prop :=
  session.createdAt < session.expiresAt ∧
    ∀ revokedAt ∈ session.revokedAt, session.createdAt ≤ revokedAt

instance AuthSession.decidableRowCheck (session : AuthSession) : Decidable session.RowCheck :=
  inferInstanceAs (Decidable (_ ∧ _))

/-- `token_digest = $1 AND revoked_at IS NULL AND expires_at > now()`. -/
def AuthSession.Live (session : AuthSession) (digest : Digest) (timestamp : ℤ) : Prop :=
  session.tokenDigest = digest ∧ session.revokedAt = none ∧ timestamp < session.expiresAt

instance AuthSession.decidableLive (session : AuthSession) (digest : Digest) (timestamp : ℤ) :
    Decidable (session.Live digest timestamp) := inferInstanceAs (Decidable (_ ∧ _))

/-- A row of `citizen_profile`. -/
structure CitizenProfile where
  userId : ℕ
  fullName : String
  addressLine1 : String
  addressLine2 : Option String
  city : String
  district : String
  state : String
  pincode : String
  deriving DecidableEq, Repr

/-- The columns of `operator_delegation` that only the routes of a delegation use. -/
structure DelegationTerms where
  delegationId : ℕ
  consentRef : String
  startedAt : ℤ
  deriving DecidableEq, Repr

/-- The states of a grievance. -/
inductive GrievanceStatus where
  | opened
  | triaged
  | platformResolved
  | referredToBarCouncil
  | referredToDlsa
  deriving DecidableEq, Repr

/-- A row of `grievance`. -/
structure Grievance where
  id : ℕ
  complainantUserId : ℕ
  subjectProviderId : ℕ
  category : String
  status : GrievanceStatus
  openedAt : ℤ
  deriving DecidableEq, Repr

/-- A row of `payment_intent`. -/
structure PaymentIntent where
  id : ℕ
  matterId : ℕ
  paymentProvider : String
  providerIntentRef : String
  amount : ℤ
  status : String
  createdAt : ℤ
  updatedAt : ℤ
  deriving DecidableEq, Repr

/-- The committed contents of all tables. -/
structure Service where
  database : Database := {}
  accounts : List UserAccount := []
  sessions : List AuthSession := []
  profiles : List CitizenProfile := []
  terms : List DelegationTerms := []
  grievances : List Grievance := []
  payments : List PaymentIntent := []

namespace Service

variable (s : Service)

/-- The account with an identifier. -/
def account (id : ℕ) : Option UserAccount := lookupBy (·.id) id s.accounts

def accountOf (email : JsString) : Option UserAccount := lookupBy (·.email) (some email) s.accounts

def liveSession (digest : Digest) (timestamp : ℤ) : Option AuthSession :=
  s.sessions.find? fun session ↦ session.Live digest timestamp

/-- The payment intent with an identifier. -/
def payment (id : ℕ) : Option PaymentIntent := lookupBy (·.id) id s.payments

end Service

/-- What transactions lock. -/
inductive ServiceKey where
  | row (key : LockKey)
  | account (id : ℕ)
  /-- The unique key on the address of an account. -/
  | accountEmail (email : JsString)
  | session (id : ℕ)
  /-- The unique key on the digest of a session. -/
  | sessionDigest (digest : Digest)
  | delegation (id : ℕ)
  deriving DecidableEq

/-- A client of the service's store. -/
abbrev ServiceTx : Type → Type := Program Service ServiceKey Failure

def databasePart : Part Service Database where
  get := Service.database
  modify f s := { s with database := f s.database }
  get_modify _ _ := rfl
  modify_id := rfl
  modify_comp _ _ := rfl

def inDatabase {α : Type} (p : Tx α) : ServiceTx α := p.within databasePart .row

/-- `if (!condition) throw failure`, between statements. -/
def check (condition : Prop) [Decidable condition] (failure : Failure) : ServiceTx Unit :=
  fromExcept (require condition failure)

/-- `withTransaction`, on the whole store. -/
def serviceTransaction {α : Type} (operation : ℤ → ServiceTx α) : ServiceTx α :=
  Program.transaction operation

section Rules

variable {α : Type} {C : Trace Service → Prop} {E : Failure → Trace Service → Prop}
  {w : Trace Service}

theorem traced_require {σ κ : Type} {C : Trace σ → Prop} {E : Failure → Trace σ → Prop}
    {w : Trace σ} {condition : Prop} [Decidable condition] {failure : Failure}
    {Q : Unit → Trace σ → Prop} (h : condition → Q () w) (hfail : E failure w) :
    (fromExcept (require condition failure) : Program σ κ Failure Unit).Traced C Q E w :=
  traced_fromExcept (fun _ ha ↦ h (require_eq_ok_iff.mp ha))
    fun _ he ↦ eq_of_require_eq_error he ▸ hfail

end Rules

end Nayasetu
