import Mathlib.Data.Rat.Defs
import Mathlib.Algebra.Order.Ring.Rat

/-!
# Eligibility

How a request for help is routed. The fee floors of the districts come from a JSON object, so a
district that bears the name of a member every JavaScript object inherits finds that member; it is
not a number, and no amount is below it. Amounts of money are the decimals that the numbers print
as, which are ordered as the numbers are.

A declared category comes before everything else, and only a text that is not empty declares one.
With a ceiling below the floor of the district the request goes to the rotation, otherwise to the
paid directory.
-/

namespace Nayasetu

/-- Where a request goes. -/
inductive EligibilityRoute where
  | paid
  | legalAidReferral
  | proBonoRotation
  deriving DecidableEq, Repr

/-- The text of a route. -/
def EligibilityRoute.text : EligibilityRoute → String
  | .paid => "PAID"
  | .legalAidReferral => "LEGAL_AID_REFERRAL"
  | .proBonoRotation => "PRO_BONO_ROTATION"

/-- What a lookup in the table of floors finds. -/
inductive DistrictFloor where
  | amount (floor : ℚ)
  | inherited
  deriving DecidableEq, Repr

/-- `feeCeiling < floor`. -/
def DistrictFloor.exceeds (feeCeiling : ℚ) : DistrictFloor → Bool
  | .amount floor => feeCeiling < floor
  | .inherited => false

def inheritedMembers : List String :=
  ["constructor", "__defineGetter__", "__defineSetter__", "hasOwnProperty", "__lookupGetter__",
    "__lookupSetter__", "isPrototypeOf", "propertyIsEnumerable", "toString", "valueOf", "__proto__",
    "toLocaleString"]

/-- `floors[key]`. -/
def floorAt (floors : List (String × ℚ)) (key : String) : Option DistrictFloor :=
  match floors.find? (·.1 = key) with
  | some entry => some (.amount entry.2)
  | none => if key ∈ inheritedMembers then some .inherited else none

/-- The text, if there is one that a condition takes for true: the empty one is not. -/
def truthy (text : Option String) : Option String := text.filter (· ≠ "")

@[simp] theorem truthy_none : truthy none = none := rfl

/-- What a schema lets through is not empty. -/
theorem truthy_eq_self {text : Option String} (h : ∀ given ∈ text, given ≠ "") :
    truthy text = text := by
  cases text with
  | none => rfl
  | some given => exact Option.filter_some_pos (decide_eq_true (h given rfl))

/-- What a request is routed by. -/
structure EligibilityInput where
  selfDeclaredSection12Category : Option String
  feeCeiling : Option ℚ
  districtFloor : Option DistrictFloor

/-- The route of a request and why. -/
structure RoutingDecision where
  route : EligibilityRoute
  selfDeclared : Bool
  section12Category : Option String := none
  policyGap : Option String := none
  deriving DecidableEq, Repr

/-- `decideEligibility`. -/
def decideEligibility (input : EligibilityInput) : RoutingDecision :=
  match truthy input.selfDeclaredSection12Category with
  | some category =>
    { route := .legalAidReferral, selfDeclared := true, section12Category := some category }
  | none =>
    match input.feeCeiling, input.districtFloor with
    | some _, none =>
      { route := .paid, selfDeclared := false, policyGap := some "DISTRICT_FLOOR_NOT_CONFIGURED" }
    | some feeCeiling, some floor =>
      if floor.exceeds feeCeiling then { route := .proBonoRotation, selfDeclared := false }
      else { route := .paid, selfDeclared := false }
    | none, _ => { route := .paid, selfDeclared := false }

theorem route_of_declared {input : EligibilityInput} {category : String}
    (h : truthy input.selfDeclaredSection12Category = some category) :
    (decideEligibility input).route = .legalAidReferral := by
  rw [decideEligibility, h]

theorem section12_of_paid {input : EligibilityInput} (h : (decideEligibility input).route = .paid) :
    (decideEligibility input).section12Category = none := by
  revert h
  unfold decideEligibility
  split
  · exact nofun
  · split
    · exact fun _ ↦ rfl
    · split <;> exact fun _ ↦ rfl
    · exact fun _ ↦ rfl

end Nayasetu
