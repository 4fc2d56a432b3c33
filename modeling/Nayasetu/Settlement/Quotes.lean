import Nayasetu.Scheduling.Bookings

/-!
# Payment quotes

The route that quotes a fee for an open matter, and the function of the database that writes the
quote and checks once more, under locks, that the matter may be charged for.

The route reads the matter without a lock and refuses what cannot be quoted. The function of the
database asks the same questions of the locked rows, and its errors are turned into those of the
route by their codes.
-/

namespace Nayasetu

open Values RowLock Collections

namespace Database

def insertQuote (row : PaymentQuote) (db : Database) : Database :=
  { db with quotes := db.quotes ++ [row] }

end Database

/-- `^[A-Z]{3}$`. -/
def CurrencyPattern (currency : String) : Prop :=
  currency.toList.length = 3 ∧ ∀ c ∈ currency.toList, 'A' ≤ c ∧ c ≤ 'Z'

instance (currency : String) : Decidable (CurrencyPattern currency) :=
  @instDecidableAnd _ _ _ (List.decidableBAll _ _)

/-- The checks of `payment_quote`. -/
def PaymentQuote.RowCheck (quote : PaymentQuote) : Prop :=
  0 ≤ quote.amount ∧ CurrencyPattern quote.currency ∧ quote.createdAt < quote.expiresAt ∧
    MoneyAmountPattern quote.feeBreakdown.professionalFee ∧
    MoneyAmountPattern quote.feeBreakdown.processingFee ∧
    MoneyAmountPattern quote.feeBreakdown.platformCommission ∧
    minorUnits quote.feeBreakdown.platformCommission = 0 ∧
    quote.amount = minorUnits quote.feeBreakdown.professionalFee +
      minorUnits quote.feeBreakdown.processingFee + minorUnits quote.feeBreakdown.platformCommission

instance (quote : PaymentQuote) : Decidable quote.RowCheck := inferInstanceAs (Decidable (_ ∧ _))

/-- The body of `POST /v1/payments/quotes`; the expiry is read to the microsecond. -/
structure QuoteBody where
  matterId : ℕ
  amount : String
  currency : String
  feeBreakdown : QuoteFeeBreakdown
  expiresAt : ℤ

/-- `quoteSchema`. -/
def QuoteBody.Valid (body : QuoteBody) : Prop :=
  MoneyAmountPattern body.amount ∧ CurrencyPattern body.currency ∧
    MoneyAmountPattern body.feeBreakdown.professionalFee ∧
    MoneyAmountPattern body.feeBreakdown.processingFee ∧
    body.feeBreakdown.platformCommission = "0.00"

instance (body : QuoteBody) : Decidable body.Valid := inferInstanceAs (Decidable (_ ∧ _))

/-- A matter with what decides whether it may be charged for. -/
structure QuotedMatter where
  matter : Matter
  provider : Provider
  allocation : Allocation
  decision : EligibilityDecision
  deriving DecidableEq, Repr

/-- The join of a matter with its provider, its allocation and the route of its request. -/
def Database.quotedMatter (db : Database) (matterId : ℕ) : Option QuotedMatter := do
  let matter ← db.matter matterId
  let provider ← db.provider matter.providerId
  let allocation ← db.allocation matter.allocationId
  let decision ← db.decision allocation.needRequestId
  return ⟨matter, provider, allocation, decision⟩

/-- `SELECT … FOR UPDATE OF matter_row, provider_row, allocation_row, eligibility_row`. -/
def selectQuotedMatterForUpdate (matterId : ℕ) : Tx (Option QuotedMatter) := do
  match (← snapshot).quotedMatter matterId with
  | none => return none
  | some found =>
    let _ ← lock (.matter matterId)
    let _ ← lock (.provider found.provider.id)
    let _ ← lock (.allocation found.allocation.id)
    return (← lock (.eligibilityDecision found.decision.needRequestId)).quotedMatter matterId

/-- The row of a new quote. -/
def QuoteBody.row (body : QuoteBody) (providerId : ℕ) (createdAt : ℤ) (id : ℕ) : PaymentQuote where
  id := id
  matterId := body.matterId
  providerId := providerId
  amount := minorUnits body.amount
  currency := body.currency
  feeBreakdown := body.feeBreakdown
  expiresAt := body.expiresAt
  createdAt := createdAt

def quoteAudit (actor : ActorContext) (body : QuoteBody) (quoteId : ℕ) : AuditEvent where
  actorType := .provider
  actorId := actor.actorId
  onBehalfOfUserId := none
  delegationId := none
  action := "payment.quote_created"
  entityType := "payment_quote"
  entityId := uuidText quoteId
  beforeSummary := none
  afterSummary := some (.object [("matterId", .string (uuidText body.matterId)),
    ("amount", .string body.amount), ("currency", .string body.currency),
    ("platformCommission", .string body.feeBreakdown.platformCommission)])
  reasonCode := none
  requestId := actor.requestId

/-- `create_payment_quote`; the quote. -/
def createPaymentQuote (actor : ActorContext) (body : QuoteBody) (timestamp : ℤ) : Tx ℕ := do
  ensure (btrim actor.requestId ≠ "") (.database "22023" "Payment quote request id is required")
  match ← selectQuotedMatterForUpdate body.matterId with
  | none => throw (.database "23503" "Payment quote matter was not found")
  | some found =>
    ensure (found.provider.userId = actor.actorId ∧
        ∃ grant ∈ (← snapshot).roleGrants, grant.userId = actor.actorId ∧ grant.role = .provider)
      (.database "42501" "Payment quote actor does not own the matter provider")
    ensure (found.matter.status = .opened)
      (checkViolation "Only an open matter can receive a payment quote")
    ensure (found.decision.route = .paid)
      (checkViolation "Only a paid eligibility route can receive a payment quote")
    let id ← nextval
    let row := body.row found.matter.providerId timestamp id
    ensure row.RowCheck
      (checkViolation "new row for relation \"payment_quote\" violates check constraint")
    write (Database.insertQuote row)
    write (Database.insertAudit [quoteAudit actor body id])
    return id

/-- What the route answers to an error of the writer. -/
def quoteFailure : Failure → Failure
  | .database "42501" _ => .app 403 "FORBIDDEN" "Matter belongs to another provider"
  | .database "23514" _ =>
    .app 409 "PAYMENT_QUOTE_REJECTED" "The matter is not eligible for this payment quote"
  | failure => failure

/-- The transaction of `POST /v1/payments/quotes`. -/
def quoteInTransaction (actor : ActorContext) (body : QuoteBody) (timestamp : ℤ) : Tx ℕ := do
  match (← snapshot).quotedMatter body.matterId with
  | none => throw (.app 404 "MATTER_NOT_FOUND" "Matter was not found")
  | some found =>
    ensure (found.provider.userId = actor.actorId)
      (.app 403 "FORBIDDEN" "Matter belongs to another provider")
    ensure (found.matter.status = .opened)
      (.app 409 "MATTER_NOT_OPEN" "Only an open matter can receive a quote")
    ensure (found.decision.route = .paid)
      (.app 409 "PAYMENT_NOT_ALLOWED" "Legal-aid and pro-bono routes cannot be quoted for payment")
    tryCatch (createPaymentQuote actor body timestamp) fun failure ↦ throw (quoteFailure failure)

/-- `POST /v1/payments/quotes`; the quote. -/
def quote (actor : ActorContext) (body : QuoteBody) : Tx ℕ := do
  requireActor actor [.provider]
  parseBody body.Valid
  ensure ((← fromExcept (quoteFeeBreakdownMatchesTotal body.amount body.feeBreakdown)) = true)
    (.app 400 "FEE_BREAKDOWN_MISMATCH"
      "Amount must equal professional and processing fees with zero platform commission")
  ensure ((← dateNow) < body.expiresAt / 1000)
    (.app 400 "QUOTE_EXPIRY_NOT_FUTURE" "Quote expiry must be in the future")
  withTransaction (quoteInTransaction actor body)

end Nayasetu
