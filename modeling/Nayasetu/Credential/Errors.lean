import Nayasetu.Credential.Operations

/-!
# Ordinary errors

Two errors of the credential operations would mean that the store is inconsistent: the unique index
refuses a second active case, or the database decides differently from the preflight. An error is
`Ordinary` if it is neither, which its code or the first letter of its message tells. Reading and
validating a policy only raises ordinary errors.

Messages are texts, and two texts that begin with different letters are different. The errors of
the validators all begin with one of a few words, so that a proof need not look at their ends,
where the names of sources and legs stand.
-/

namespace Nayasetu

open Values Collections

/-- Not an error of the index on active cases, nor of the comparison with the preflight. -/
def Failure.Ordinary : Failure → Prop
  | .app _ _ _ => True
  | .error message => message.toList.head? ≠ some 'D'
  | .zod _ => True
  | .database sqlstate _ => sqlstate ≠ "23505"

theorem Failure.Ordinary.ne_activeReviewExists {failure : Failure} (h : failure.Ordinary) :
    failure ≠ activeReviewExists := by
  rintro rfl
  exact h rfl

theorem Failure.Ordinary.ne_preflightMismatch {failure : Failure} (h : failure.Ordinary) :
    failure ≠ preflightMismatch := by
  rintro rfl
  exact h (by simp)

/-- A message that starts with a known text. -/
theorem ordinary_error_append {start rest : String} (hne : start.toList ≠ [])
    (h : start.toList.head? ≠ some 'D') : (Failure.error (start ++ rest)).Ordinary := by
  change (start ++ rest).toList.head? ≠ some 'D'
  rw [String.toList_append, List.head?_append_of_ne_nil _ hne]
  exact h

def FailsOrdinarily {α : Type} (x : Except Failure α) : Prop := ∀ e, x = .error e → e.Ordinary

section Closure

variable {α β : Type}

theorem failsOrdinarily_ok (a : α) : FailsOrdinarily (.ok a) := fun _ h ↦ nomatch h

theorem failsOrdinarily_error {e : Failure} (h : e.Ordinary) :
    FailsOrdinarily (.error e : Except _ α) :=
  fun _ he ↦ Except.error.inj he ▸ h

theorem failsOrdinarily_bind {x : Except Failure α} {f : α → Except Failure β}
    (hx : FailsOrdinarily x) (hf : ∀ a, FailsOrdinarily (f a)) : FailsOrdinarily (x >>= f) := by
  cases x with
  | error e => exact fun e' he ↦ hx e' (by rw [Except.error.inj he])
  | ok a => exact hf a

theorem failsOrdinarily_require {p : Prop} [Decidable p] {e : Failure} (h : e.Ordinary) :
    FailsOrdinarily (require p e) := by
  rw [require]
  split
  · exact failsOrdinarily_ok ()
  · exact failsOrdinarily_error h

theorem failsOrdinarily_forEach {l : List α} {body : α → Except Failure Unit}
    (h : ∀ a, FailsOrdinarily (body a)) : FailsOrdinarily (forEach l body) := by
  induction l with
  | nil => exact failsOrdinarily_ok ()
  | cons a l ih => exact failsOrdinarily_bind (h a) fun _ ↦ ih

end Closure

/-! ## Policies

One lemma for each function that reads or validates a part of a policy.
-/

private theorem requireUniqueNonEmpty_ordinary {values : List String} {start rest : String}
    (hne : start.toList ≠ []) (h : start.toList.head? ≠ some 'D') :
    FailsOrdinarily (requireUniqueNonEmpty values (start ++ rest)) := by
  refine failsOrdinarily_bind (failsOrdinarily_require ?_) fun _ ↦ failsOrdinarily_require ?_
  all_goals
    rw [String.append_assoc]
    exact ordinary_error_append hne h

private theorem requireUniqueNonEmpty_ordinary' {values : List String} {label : String}
    (hne : label.toList ≠ []) (h : label.toList.head? ≠ some 'D') :
    FailsOrdinarily (requireUniqueNonEmpty values label) :=
  String.append_empty (s := label) ▸ requireUniqueNonEmpty_ordinary hne h

theorem validateCredentialTierPolicy_ordinary (policy : CredentialTierPolicy) :
    FailsOrdinarily (validateCredentialTierPolicy policy) := by
  have hmessage {start rest : String} (hne : start.toList ≠ []) (h : start.toList.head? ≠ some 'D')
      {p : Prop} [Decidable p] : FailsOrdinarily (require p (.error (start ++ rest))) :=
    failsOrdinarily_require (ordinary_error_append hne h)
  refine failsOrdinarily_bind (failsOrdinarily_require (by simp [Failure.Ordinary])) fun _ ↦ ?_
  refine failsOrdinarily_bind (failsOrdinarily_require (by simp [Failure.Ordinary])) fun _ ↦ ?_
  refine failsOrdinarily_bind (requireUniqueNonEmpty_ordinary' (by simp) (by simp)) fun _ ↦ ?_
  refine failsOrdinarily_bind (requireUniqueNonEmpty_ordinary' (by simp) (by simp)) fun _ ↦ ?_
  refine failsOrdinarily_bind (requireUniqueNonEmpty_ordinary' (by simp) (by simp)) fun _ ↦ ?_
  refine failsOrdinarily_bind (failsOrdinarily_require (by simp [Failure.Ordinary])) fun _ ↦ ?_
  refine failsOrdinarily_bind (failsOrdinarily_forEach fun leg ↦ ?_) fun _ ↦ ?_
  · refine failsOrdinarily_bind (requireUniqueNonEmpty_ordinary (by simp) (by simp)) fun _ ↦ ?_
    refine failsOrdinarily_forEach fun sourceId ↦ ?_
    rw [String.append_assoc]
    exact hmessage (by simp) (by simp)
  refine failsOrdinarily_bind (failsOrdinarily_forEach fun leg ↦ failsOrdinarily_forEach fun _ ↦ ?_)
    fun _ ↦ ?_
  · rw [String.append_assoc]
    exact hmessage (by simp) (by simp)
  refine failsOrdinarily_bind (failsOrdinarily_forEach fun leg ↦ failsOrdinarily_forEach fun _ ↦ ?_)
    fun _ ↦ ?_
  · rw [String.append_assoc]
    exact hmessage (by simp) (by simp)
  cases policy.requiredDocumentLegs.find? fun leg ↦
      leg.checkType = policy.identityConsistencyLeg.checkType with
  | none => exact failsOrdinarily_error (by simp [Failure.Ordinary])
  | some leg =>
    refine failsOrdinarily_bind (failsOrdinarily_require (by simp [Failure.Ordinary])) fun _ ↦ ?_
    exact failsOrdinarily_require (by simp [Failure.Ordinary])

private theorem parseString_ordinary (path : List String) (doc : Option Jsonb) :
    FailsOrdinarily (parseString path doc) := by
  unfold parseString
  split
  · split
    · exact failsOrdinarily_error trivial
    · exact failsOrdinarily_ok _
  · exact failsOrdinarily_error trivial

private theorem parseArray_ordinary {α : Type} {item : List String → Jsonb → Except Failure α}
    (hitem : ∀ path doc, FailsOrdinarily (item path doc)) (path : List String)
    (doc : Option Jsonb) : FailsOrdinarily (parseArray item path doc) := by
  have hgo (elements : List Jsonb) : ∀ n, FailsOrdinarily (parseArray.go item path n elements) := by
    induction elements with
    | nil => exact fun _ ↦ failsOrdinarily_ok _
    | cons element elements ih =>
      intro n
      refine failsOrdinarily_bind (hitem _ element) fun a ↦ ?_
      exact failsOrdinarily_bind (ih (n + 1)) fun _ ↦ failsOrdinarily_ok _
  unfold parseArray
  split
  · split
    · exact failsOrdinarily_error trivial
    · exact hgo _ 0
  · exact failsOrdinarily_error trivial

private theorem requireShape_ordinary {p : Prop} [Decidable p] {path : List String} :
    FailsOrdinarily (require p (.zod path)) := failsOrdinarily_require trivial

private theorem parseLeg_ordinary (path : List String) (doc : Jsonb) :
    FailsOrdinarily (parseLeg path doc) := by
  refine failsOrdinarily_bind requireShape_ordinary fun _ ↦ ?_
  refine failsOrdinarily_bind (parseString_ordinary _ _) fun _ ↦ ?_
  refine failsOrdinarily_bind (parseArray_ordinary (fun _ _ ↦ parseString_ordinary _ _) _ _)
    fun _ ↦ ?_
  exact failsOrdinarily_bind requireShape_ordinary fun _ ↦ failsOrdinarily_ok _

private theorem parseSource_ordinary (path : List String) (doc : Jsonb) :
    FailsOrdinarily (parseSource path doc) := by
  refine failsOrdinarily_bind requireShape_ordinary fun _ ↦ ?_
  refine failsOrdinarily_bind (parseString_ordinary _ _) fun _ ↦ ?_
  refine failsOrdinarily_bind (parseString_ordinary _ _) fun kind ↦ ?_
  refine failsOrdinarily_bind requireShape_ordinary fun _ ↦ ?_
  cases CredentialEvidenceKind.ofText kind with
  | none => exact failsOrdinarily_error trivial
  | some _ => exact failsOrdinarily_ok _

private theorem parseFreshness_ordinary (path : List String) (doc : Option Jsonb) :
    FailsOrdinarily (parseFreshness path doc) := by
  unfold parseFreshness
  split
  · split
    · exact failsOrdinarily_error trivial
    · split
      · exact failsOrdinarily_ok _
      · exact failsOrdinarily_error trivial
  · exact failsOrdinarily_error trivial

theorem parseCredentialTierPolicy_ordinary (doc : Jsonb) :
    FailsOrdinarily (parseCredentialTierPolicy doc) := by
  refine failsOrdinarily_bind requireShape_ordinary fun _ ↦ ?_
  refine failsOrdinarily_bind (parseString_ordinary _ _) fun _ ↦ ?_
  refine failsOrdinarily_bind (parseString_ordinary _ _) fun _ ↦ ?_
  refine failsOrdinarily_bind (parseArray_ordinary parseSource_ordinary _ _) fun _ ↦ ?_
  refine failsOrdinarily_bind (parseArray_ordinary parseLeg_ordinary _ _) fun _ ↦ ?_
  refine failsOrdinarily_bind (parseLeg_ordinary _ _) fun _ ↦ ?_
  refine failsOrdinarily_bind (parseArray_ordinary parseLeg_ordinary _ _) fun _ ↦ ?_
  refine failsOrdinarily_bind (parseFreshness_ordinary _ _) fun _ ↦ ?_
  refine failsOrdinarily_bind requireShape_ordinary fun _ ↦ ?_
  exact failsOrdinarily_bind (validateCredentialTierPolicy_ordinary _) fun _ ↦ failsOrdinarily_ok _

/-! ## The validation of the database -/

private theorem raiseIf_ordinary {p : Prop} [Decidable p] {message : String} :
    FailsOrdinarily (raiseIf p message) := failsOrdinarily_require (by simp [Failure.Ordinary])

theorem validatePolicySql_ordinary (doc : Jsonb) (decidedAt : ℤ) :
    FailsOrdinarily (validatePolicySql doc decidedAt) := by
  refine failsOrdinarily_bind ?_ fun _ ↦ failsOrdinarily_bind ?_ fun freshness ↦ ?_
  · unfold checkPolicyShape
    iterate 5 refine failsOrdinarily_bind raiseIf_ordinary fun _ ↦ ?_
    exact raiseIf_ordinary
  · unfold policyFreshnessMs
    split
    · split
      · exact failsOrdinarily_ok _
      · exact failsOrdinarily_error (by simp [Failure.Ordinary])
    · exact failsOrdinarily_error (by simp [Failure.Ordinary])
  · refine failsOrdinarily_bind (failsOrdinarily_require (by simp [Failure.Ordinary])) fun _ ↦ ?_
    refine failsOrdinarily_bind raiseIf_ordinary fun _ ↦ failsOrdinarily_bind ?_ fun _ ↦
      failsOrdinarily_ok _
    unfold checkPolicyLegs
    iterate 2 refine failsOrdinarily_bind raiseIf_ordinary fun _ ↦ ?_
    exact raiseIf_ordinary

end Nayasetu
