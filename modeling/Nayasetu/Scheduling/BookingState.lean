import Nayasetu.Failure

/-!
# Booking states

The states of a booking and the moves between them. Only a held booking moves.

The table of the source lists for each state those it may be followed by; the list is empty for
all of them but the first.
-/

namespace Nayasetu

/-- The states of a booking. -/
inductive BookingStatus where
  | held
  | confirmed
  | scheduled
  | declined
  | cancelled
  deriving DecidableEq, Repr

namespace BookingStatus

/-- The text of a state. -/
def text : BookingStatus → String
  | .held => "HELD"
  | .confirmed => "CONFIRMED"
  | .scheduled => "SCHEDULED"
  | .declined => "DECLINED"
  | .cancelled => "CANCELLED"

/-- `ALLOWED_TRANSITIONS`. -/
def allowedTransitions : BookingStatus → List BookingStatus
  | .held => [.confirmed, .declined, .cancelled]
  | .confirmed => []
  | .scheduled => []
  | .declined => []
  | .cancelled => []

/-- The booking takes up its slot. -/
def active : BookingStatus → Bool
  | .held | .confirmed | .scheduled => true
  | .declined | .cancelled => false

end BookingStatus

/-- `canTransitionBooking`. -/
def canTransitionBooking (start next : BookingStatus) : Bool := next ∈ start.allowedTransitions

/-- `changeBookingStatus`: `transitionBooking`, with its error as the routes report it. -/
def transitionBooking (start next : BookingStatus) : Except Failure BookingStatus := do
  require (canTransitionBooking start next) (.app 409 "INVALID_BOOKING_STATE"
    ("Booking cannot transition from " ++ start.text ++ " to " ++ next.text))
  return next

theorem transitionBooking_eq_ok {start next status : BookingStatus}
    (h : transitionBooking start next = .ok status) : status = next := by
  rw [transitionBooking, bind_eq_ok_iff] at h
  obtain ⟨_, -, h⟩ := h
  exact (Except.ok.inj h).symm

theorem transitionBooking_eq_error {start next : BookingStatus} {e : Failure}
    (h : transitionBooking start next = .error e) : e = .app 409 "INVALID_BOOKING_STATE"
      ("Booking cannot transition from " ++ start.text ++ " to " ++ next.text) := by
  rw [transitionBooking, bind_eq_error_iff] at h
  rcases h with h | ⟨_, -, h⟩
  · exact eq_of_require_eq_error h
  · cases h

end Nayasetu
