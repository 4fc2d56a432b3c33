import Nayasetu.Ledger.HashChain
import Nayasetu.Transaction
import Nayasetu.Values.NumericSum
import Nayasetu.Values.Uuid

/-!
# Appending to the ledger

The writer of the ledger: the function of the database that appends an event to a provider's chain,
and the serializable transaction, tried up to three times, in which the application calls it.

A serializable transaction reads one snapshot. It fails when the row it waits for has changed since
then, and it may fail at any other of its statements, its commit included; which of these happens is
the choice of the environment. If the connection is lost at the commit, the application does not
learn whether the events were committed.

## Retries

An attempt that failed to serialize is made again by the application from the beginning, with the
same input; any other error is reported. A lost connection at the commit is such an error,
although the event may be there.
-/

namespace Nayasetu

open Values Collections RowLock

/-! ## Tables

Events and balances of the providers, with the writes to them.
-/

inductive CreditEventType where
  | proBonoMatterClosed
  | legalAidTierMatterClosed
  | aspirationalBlockService
  | rotationDutyCompleted
  | firstResponseSlaMet
  | cleModuleCompleted
  | lokAdalatSettlement
  deriving DecidableEq, Repr

/-- The text of a type, as the column has it. -/
def CreditEventType.text : CreditEventType → String
  | .proBonoMatterClosed => "PRO_BONO_MATTER_CLOSED"
  | .legalAidTierMatterClosed => "LEGAL_AID_TIER_MATTER_CLOSED"
  | .aspirationalBlockService => "ASPIRATIONAL_BLOCK_SERVICE"
  | .rotationDutyCompleted => "ROTATION_DUTY_COMPLETED"
  | .firstResponseSlaMet => "FIRST_RESPONSE_SLA_MET"
  | .cleModuleCompleted => "CLE_MODULE_COMPLETED"
  | .lokAdalatSettlement => "LOK_ADALAT_SETTLEMENT"

/-- A row of `credit_event`. The times are whole milliseconds, because the driver only sends
those. -/
structure CreditEvent where
  id : ℕ
  providerId : Uuid
  eventType : CreditEventType
  units : Numeric
  weightVersion : String
  credits : Numeric
  matterId : Option Uuid
  evidenceRef : String
  occurredAt : JsDate
  hashVersion : ℕ
  prevHash : Option Bytes
  hash : Bytes
  deriving DecidableEq, Repr

/-- A row of `credit_balance`. -/
structure CreditBalance where
  providerId : Uuid
  totalCredits : Numeric
  periodCredits : Numeric
  lastEventId : Option ℕ
  deriving DecidableEq, Repr

/-- The tables of the ledger. -/
structure LedgerDatabase where
  events : List CreditEvent
  balances : List CreditBalance
  auditEvents : List AuditEvent

/-- What an append locks. -/
inductive LedgerKey where
  | balance (providerId : Uuid)
  deriving DecidableEq, Repr

/-- The balance behind one more event. -/
def CreditBalance.after (balance : CreditBalance) (event : CreditEvent) : CreditBalance :=
  { balance with
    totalCredits := balance.totalCredits.add event.credits
    periodCredits := balance.periodCredits.add event.credits
    lastEventId := some event.id }

namespace LedgerDatabase

/-- `SELECT … FROM credit_balance WHERE provider_id = $1`. -/
def balance (db : LedgerDatabase) (providerId : Uuid) : Option CreditBalance :=
  lookupBy CreditBalance.providerId providerId db.balances

/-- `SELECT … FROM credit_event WHERE id = $1 AND provider_id = $2`. -/
def event (db : LedgerDatabase) (id : ℕ) (providerId : Uuid) : Option CreditEvent :=
  db.events.find? fun event ↦ event.id = id ∧ event.providerId = providerId

def insertEvent (event : CreditEvent) (db : LedgerDatabase) : LedgerDatabase :=
  { db with events := db.events ++ [event] }

def updateBalance (event : CreditEvent) (db : LedgerDatabase) : LedgerDatabase :=
  { db with
    balances := db.balances.map fun balance ↦
      if balance.providerId = event.providerId then balance.after event else balance }

def insertAudit (audit : AuditEvent) (db : LedgerDatabase) : LedgerDatabase :=
  { db with auditEvents := db.auditEvents ++ [audit] }

end LedgerDatabase

/-! ## Transactions

A serializable transaction as a program over the shared store: what it may fail with at each of
its statements is an arbitrary choice.
-/

abbrev LedgerTx : Type → Type := Program LedgerDatabase LedgerKey Failure

/-- What a transaction ends with that would not fit a serial order. -/
def serializationFailure : Failure := .database "40001" "could not serialize access"

def connectionLost : Failure := .error "Connection terminated unexpectedly"

/-- What the server or the connection ends a statement with. -/
def statementFailure : ℕ → Failure
  | 0 => serializationFailure
  | 1 => .database "40P01" "deadlock detected"
  | 2 => .database "23503" "insert or update on table violates foreign key constraint"
  | 3 => .database "57014" "canceling statement due to user request"
  | _ => connectionLost

def mayFail : LedgerTx Unit := do
  match ← choose with
  | 0 => return ()
  | n + 1 => throw (statementFailure n)

/-- `COMMIT`, which may fail, or succeed without telling the client. -/
def commitOrFail : LedgerTx Unit := do
  mayFail
  commit
  match ← choose with
  | 0 => return ()
  | _ => throw connectionLost

/-- `withTransaction`, `SERIALIZABLE`. -/
def withSerializableTransaction {α : Type} (operation : LedgerTx α) : LedgerTx α :=
  tryCatch
    (do
      let result ← operation
      commitOrFail
      return result)
    fun error ↦ do
      rollback
      throw error

/-- The `code` of an error. -/
def Failure.sqlstate? : Failure → Option String
  | .database sqlstate _ => some sqlstate
  | _ => none

/-- `withSerializableRetry`, with so many attempts left. -/
def withSerializableRetry {α : Type} (operation : LedgerTx α) : ℕ → LedgerTx α
  | 0 => throw (.error "Serializable retry loop exhausted")
  | attempts + 1 => tryCatch (withSerializableTransaction operation) fun error ↦
    if error.sqlstate? ≠ some "40001" ∨ attempts = 0 then throw error
    else withSerializableRetry operation attempts

/-- `if (!condition) throw failure`, between statements. -/
def ledgerCheck (condition : Prop) [Decidable condition] (failure : Failure) : LedgerTx Unit :=
  fromExcept (require condition failure)

/-! ## The writer

The payload of an event, as the database puts it together, and the function that stores it behind
the last event of the provider.
-/

/-- `ledger_hash_field`, of fewer than `2 ^ 31` bytes. -/
def ledgerHashField (value : Bytes) : Bytes := framed value

/-- `to_char(occurred_at AT TIME ZONE 'UTC', 'YYYY-MM-DD"T"HH24:MI:SS.MS"Z"')`. -/
def JsDate.toChar (date : JsDate) : String := String.ofList (eraText date.ms)

/-- What `append_credit_event` is called with. -/
structure AppendCreditEventInput where
  providerId : Uuid
  eventType : CreditEventType
  units : String
  weightVersion : String
  credits : String
  matterId : Option Uuid
  evidenceRef : String
  occurredAt : JsDate
  actor : ActorContext
  deriving DecidableEq, Repr

/-- The payload of the hash that `append_credit_event` stores. -/
def CreditEvent.appendPayload (previousHash : Bytes) (event : CreditEvent) : Bytes :=
  [utf8 "v1", previousHash, utf8 (String.ofList (intText event.id)),
    utf8 (String.ofList event.providerId.text), utf8 event.eventType.text,
    utf8 (String.ofList event.credits.text), utf8 event.occurredAt.toChar].flatMap ledgerHashField

/-- The row `append_credit_event` inserts behind an event with hash `previousHash`, if there is
one. -/
def AppendCreditEventInput.row (sha256 : Bytes → Bytes) (input : AppendCreditEventInput)
    (id : ℕ) (units credits : Numeric) (lastHash : Option Bytes) : CreditEvent :=
  let row : CreditEvent :=
    { id := id
      providerId := input.providerId
      eventType := input.eventType
      units := units
      weightVersion := input.weightVersion
      credits := credits
      matterId := input.matterId
      evidenceRef := input.evidenceRef
      occurredAt := input.occurredAt
      hashVersion := 1
      prevHash := lastHash
      hash := [] }
  { row with hash := sha256 (row.appendPayload (lastHash.getD (List.replicate 32 0))) }

/-- The audit row of an event. -/
def AppendCreditEventInput.audit (input : AppendCreditEventInput) (event : CreditEvent) :
    AuditEvent where
  actorType := input.actor.actorType
  actorId := input.actor.actorId
  onBehalfOfUserId := input.actor.onBehalfOfCitizenId
  delegationId := input.actor.delegationId
  action := "credit_event.appended"
  entityType := "credit_event"
  entityId := String.ofList (intText event.id)
  beforeSummary := none
  afterSummary := some (.object [("providerId", .string (String.ofList input.providerId.text)),
    ("eventType", .string input.eventType.text),
    ("credits", .string (String.ofList event.credits.text)),
    ("weightVersion", .string input.weightVersion)])
  reasonCode := none
  requestId := input.actor.requestId

def lastHash (db : LedgerDatabase) (balance : CreditBalance) : Except Failure (Option Bytes) :=
  match balance.lastEventId with
  | none => .ok none
  | some lastEventId => match db.event lastEventId balance.providerId with
    | none => .error (.database "P0002" "query returned no rows")
    | some event => .ok (some event.hash)

/-- `append_credit_event`; the event. -/
def appendCreditEventSql (sha256 : Bytes → Bytes) (input : AppendCreditEventInput)
    (units credits : Numeric) : LedgerTx CreditEvent := do
  mayFail
  let seen ← snapshot
  match seen.balance input.providerId with
  | none => throw (.database "P0002" "Provider ledger head is missing")
  | some balance =>
    let newest ← lock (.balance input.providerId)
    -- a row that has changed since the snapshot cannot be locked in a serializable transaction
    ledgerCheck (newest.balance input.providerId = some balance) serializationFailure
    mayFail
    let lastHash ← fromExcept (lastHash seen balance)
    let id := (← nextval) + 1
    ledgerCheck (id ≤ 9223372036854775807)
      (.database "2200H" "nextval: reached maximum value of sequence \"credit_event_id_seq\"")
    let event := input.row sha256 id units credits lastHash
    write (LedgerDatabase.insertEvent event)
    mayFail
    ledgerCheck ((balance.totalCredits.add credits).Fits ∧ (balance.periodCredits.add credits).Fits)
      (.database "22003" "value overflows numeric format")
    write (LedgerDatabase.updateBalance event)
    mayFail
    write (LedgerDatabase.insertAudit (input.audit event))
    mayFail
    return event

/-! ## The application

What the driver makes of the parameters and of the row that comes back.
-/

/-- `0|[1-9]\d*`. -/
def isWholeNumber : List Char → Bool
  | [] => false
  | ['0'] => true
  | c :: cs => c ≠ '0' && isDecimalDigit c && cs.all isDecimalDigit

/-- `decimalPattern`: `^-?(?:0|[1-9]\d*)(?:\.\d+)?$`. -/
def DecimalPattern (text : String) : Prop :=
  let unsigned := if text.toList.head? = some '-' then text.toList.tail else text.toList
  isWholeNumber (unsigned.takeWhile (· ≠ '.')) = true ∧ match unsigned.dropWhile (· ≠ '.') with
    | [] => True
    | _ :: fraction => fraction ≠ [] ∧ fraction.all isDecimalDigit = true

instance (text : String) : Decidable (DecimalPattern text) := by
  unfold DecimalPattern
  exact @instDecidableAnd _ _ _ (by split <;> infer_instance)

/-- `timestamptz` takes a date; it starts in 4714 BC. -/
def JsDate.InTimestamptz (date : JsDate) : Prop := -210866803200000 ≤ date.ms

instance (date : JsDate) : Decidable date.InTimestamptz := inferInstanceAs (Decidable (_ ≤ _))

def readParameters (input : AppendCreditEventInput) : Except Failure (Numeric × Numeric) := do
  let units := Numeric.ofText input.units.toList
  let credits := Numeric.ofText input.credits.toList
  require (∀ text ∈ [input.weightVersion, input.evidenceRef, input.actor.requestId],
      '\x00' ∉ text.toList)
    (.database "22021" "invalid byte sequence for encoding \"UTF8\": 0x00")
  require (units.Fits ∧ credits.Fits) (.database "22003" "value overflows numeric format")
  require input.occurredAt.InTimestamptz (.database "22008" "timestamp out of range")
  return (units, credits)

/-- What `appendCreditEvent` returns. -/
structure AppendedCreditEvent where
  id : String
  hash : String
  deriving DecidableEq, Repr

/-- The call of `append_credit_event` inside the transaction. -/
def appendInTransaction (sha256 : Bytes → Bytes) (input : AppendCreditEventInput) :
    LedgerTx AppendedCreditEvent := do
  let (units, credits) ← fromExcept (readParameters input)
  let event ← appendCreditEventSql sha256 input units credits
  return ⟨String.ofList (intText event.id), String.ofList (hexText event.hash)⟩

/-- `appendCreditEvent`. -/
def appendCreditEvent (sha256 : Bytes → Bytes) (input : AppendCreditEventInput) :
    LedgerTx AppendedCreditEvent := do
  ledgerCheck (DecimalPattern input.units ∧ DecimalPattern input.credits)
    (.error "Ledger units and credits must use canonical decimal strings")
  ledgerCheck (input.weightVersion ≠ "" ∧ input.evidenceRef ≠ "")
    (.error "Ledger weight version and evidence reference are required")
  withSerializableRetry (appendInTransaction sha256 input) 3

end Nayasetu
