import Nayasetu.Engagement.Fairness
import Nayasetu.RowLock.Opening

/-!
# Directories at the same time

A directory locks the counters of its providers one after another, in the order in which it shows
them, and keeps the locks until its commit. Two directories that are generated at the same time may
therefore wait for each other. They never do if the first provider of each that the other shows too
is the same: `directory_no_mutual_wait`.

The orders that matter are those of the directories the two calls generate, so the condition is on
the orders in which they lock (`LockOrder`). It is met when the counts differ as numbers, and need
not be where they are equal, since then each request has its own order.
-/

namespace Nayasetu

open Values RowLock Collections

/-- A call of the directory. -/
structure DirectoryRequest where
  actor : ActorContext
  needId : ℕ
  query : DirectoryQuery
  deriving DecidableEq

section Contention

variable (config : AppConfig) (seededKey : String → String → String)

def directoryProgram (request : DirectoryRequest) : Tx (NeedRequest × List DirectoryProviderRow) :=
  directory config seededKey request.actor request.needId request.query

/-- A list of counters that a call locks one after another, when it generates its directory over
`db` at `t` or later. -/
def LockOrder (db : Database) (t : ℤ) (request : DirectoryRequest) (order : List ℕ) : Prop :=
  ∃ need decision rows t', db.needWithRoute request.needId = some (need, decision) ∧
    request.actor.ActsFor need.citizenUserId db ∧ decision.route = .paid ∧
    need.directoryGeneratedAt = none ∧ t ≤ t' ∧
    rows.Perm (directoryCandidates config need request.query t' db) ∧
    order = ((orderedCandidates seededKey need rows).map (·.providerId)).filter db.hasCounter

/-- What a call knows when it waits for a counter: the request is locked, and so are the counters
that come before. -/
def CounterWait (db : Database) (t : ℤ) (request : DirectoryRequest) (key : LockKey)
    (held : List LockKey) : Prop :=
  ∀ id, key = .surfaceCounter id → .needRequest request.needId ∈ held ∧
    ∃ before after, LockOrder config seededKey db t request (before ++ id :: after) ∧
      ∀ id', .surfaceCounter id' ∈ held ↔ id' ∈ before

end Contention

/-! ## The call before the first commit

Until one of the two calls commits, both see the store the run began in. What a call has locked by
then follows from how far it has come.
-/

section Opening

variable {W : LockKey → List LockKey → Prop} {db : Database} {t : ℤ} {o : Opened Database LockKey}
  {w : Database → Database} {held : List LockKey} {α : Type}
    {E : Failure → Opened Database LockKey → Prop}

theorem opening_ensure {condition : Prop} [Decidable condition] {failure : Failure}
    {Q : Unit → Opened Database LockKey → Prop} (h : condition → Q () o) (hE : E failure o) :
    opening W db t Q E (ensure condition failure) o := by
  refine opening_fromExcept (fun _ ha ↦ h (require_eq_ok_iff.mp ha)) fun e he ↦ ?_
  by_cases hc : condition
  · simp [require, hc] at he
  · simp only [require, hc, if_false, Except.error.injEq] at he
    exact he ▸ hE

theorem opening_withTransaction {operation : ℤ → Tx α} {Q : α → Opened Database LockKey → Prop}
    (h : ∀ t', t ≤ t' → opening W db t (fun a _ ↦ Q a none) (fun _ _ ↦ True) (operation t') o) :
    opening W db t Q (fun _ _ ↦ True) (withTransaction operation) o := by
  refine opening_tryCatch (opening_bind (opening_now fun t' ht' ↦ opening_bind ?_))
  refine opening_mono (fun a _ ha ↦ ?_) (fun _ _ _ ↦ ?_) (h t' ht')
  · exact opening_bind (opening_commit ha)
  · exact opening_bind (opening_rollback fun _ ↦ trivial)

theorem opening_assertCitizenAuthority {actor : ActorContext} {citizenUserId : ℕ}
    {Q : Unit → Opened Database LockKey → Prop}
    (h : actor.ActsFor citizenUserId (w db) → Q () (some (w, held))) :
    opening W db t Q (fun _ _ ↦ True) (assertCitizenAuthority actor citizenUserId)
      (some (w, held)) := by
  rw [assertCitizenAuthority]
  split
  next htype => exact opening_ensure (fun hid ↦ h (.inl ⟨htype, hid⟩)) trivial
  next =>
    refine opening_bind (opening_ensure (fun hnamed ↦ ?_) trivial)
    refine opening_bind (opening_snapshot (opening_ensure (fun hopen ↦ ?_) trivial))
    exact h (.inr ⟨hnamed.1, hnamed.2.1, hopen⟩)

theorem opening_countShowing {providerId : ℕ} {Q : ℕ → Opened Database LockKey → Prop}
    (hwait : (w db).hasCounter providerId = true → W (.surfaceCounter providerId) held)
    (hzero : (w db).hasCounter providerId = false → Q 0 (some (w, held)))
    (hone : (w db).hasCounter providerId = true →
      Q 1 (some (Database.incrementCounter providerId ∘ w, .surfaceCounter providerId :: held))) :
    opening W db t Q (fun _ _ ↦ True) (countShowing providerId) (some (w, held)) := by
  refine opening_bind (opening_updateRow hwait (fun hmissing ↦ ?_) fun hcounter ↦ ?_)
  · refine opening_bind (opening_snapshot (opening_bind (opening_ensure (fun _ ↦ ?_) trivial)))
    exact hzero hmissing
  · refine opening_bind (opening_snapshot (opening_bind (opening_ensure (fun _ ↦ ?_) trivial)))
    exact hone hcounter

section Loop

variable {need : NeedRequest} {query : DirectoryQuery} {rows : List (DirectoryProviderRow × ℤ)}

/-- The loop locks the counters of its candidates one after another. -/
theorem opening_storeSurfaces {order before : List ℕ} {candidates : List DirectoryCandidate}
    {position : ℕ}
    (hcounters : ∀ id, (w db).hasCounter id = db.hasCounter id)
    (horder : before ++ (candidates.map (·.providerId)).filter db.hasCounter = order)
    (hheld : ∀ id, .surfaceCounter id ∈ held ↔ id ∈ before) (hneed : .needRequest need.id ∈ held)
    (hW : ∀ id before after held, order = before ++ id :: after → .needRequest need.id ∈ held →
      (∀ id', .surfaceCounter id' ∈ held ↔ id' ∈ before) → W (.surfaceCounter id) held) :
    opening W db t (fun _ o ↦ o ≠ none) (fun _ _ ↦ True)
      (storeSurfaces need query rows position candidates)
      (some (w, held)) := by
  induction candidates generalizing before position w held with
  | nil => exact Option.some_ne_none _
  | cons candidate candidates ih =>
    rw [storeSurfaces]
    cases rows.find? (·.1.providerId = candidate.providerId) with
    | none => exact trivial
    | some source =>
      refine opening_bind (opening_ensure (fun _ ↦ opening_bind (opening_snapshot ?_)) trivial)
      refine opening_bind (opening_ensure (fun _ ↦ ?_) trivial)
      refine opening_bind (opening_write (opening_bind ?_))
      have hrest (o : Opened Database LockKey)
          (h : opening W db t (fun _ o ↦ o ≠ none) (fun _ _ ↦ True)
            (storeSurfaces need query rows (position + 1) candidates) o) :
          opening W db t (fun _ o ↦ o ≠ none) (fun _ _ ↦ True)
            (do
              let stored ← storeSurfaces need query rows (position + 1) candidates
              return source.1 :: stored) o :=
        opening_bind (opening_mono (fun _ _ ho ↦ ho) (fun _ _ _ ↦ trivial) h)
      rw [List.map_cons] at horder
      refine opening_countShowing (fun hmatches ↦ ?_) (fun hmatches ↦ ?_) fun hmatches ↦ ?_
      · have hcounter : db.hasCounter candidate.providerId = _ := (hcounters _).symm.trans hmatches
        rw [List.filter_cons_of_pos hcounter] at horder
        exact hW _ _ _ _ horder.symm hneed hheld
      · have hcounter : db.hasCounter candidate.providerId = _ := (hcounters _).symm.trans hmatches
        rw [List.filter_cons_of_neg (by simpa using hcounter)] at horder
        exact hrest _ (ih hcounters horder hheld hneed)
      · have hcounter : db.hasCounter candidate.providerId = _ := (hcounters _).symm.trans hmatches
        rw [List.filter_cons_of_pos hcounter, List.append_cons] at horder
        refine hrest _ (ih (fun id ↦ ?_) horder (fun id ↦ ?_) (List.mem_cons_of_mem _ hneed))
        · exact (hasCounter_incrementCounter _ _ _).trans (hcounters id)
        · rw [List.mem_cons, hheld, List.mem_append, List.mem_singleton,
            LockKey.surfaceCounter.injEq, or_comm]

variable {config : AppConfig} {seededKey : String → String → String} {actor : ActorContext}

/-- A new directory locks the counters of its candidates in its own order. -/
theorem opening_generateDirectory {request : DirectoryRequest} {decision : EligibilityDecision}
    {t' : ℤ} (ht : t ≤ t') (hrequest : db.needWithRoute request.needId = some (need, decision))
    (hacts : request.actor.ActsFor need.citizenUserId db) (hpaid : decision.route = .paid)
    (hfirst : need.directoryGeneratedAt = none) :
    opening (CounterWait config seededKey db t request) db t (fun _ o ↦ o ≠ none) (fun _ _ ↦ True)
      (generateDirectory config seededKey request.actor need need request.query t')
      (some (id, [.needRequest need.id])) := by
  have hid : need.id = request.needId := (needWithRoute_eq_some hrequest).2.1
  refine opening_bind (opening_write (opening_bind (opening_snapshot ?_)))
  refine opening_bind (opening_bind (opening_choose fun n ↦ ?_))
  refine opening_bind (opening_mono (fun _ o ho ↦ ?_) (fun _ _ _ ↦ trivial)
    (opening_storeSurfaces (fun _ ↦ rfl) (List.nil_append _) (fun id ↦ by simp) (by simp) ?_))
  · obtain ⟨x, rfl⟩ := Option.ne_none_iff_exists'.mp ho
    exact Option.some_ne_none _
  · intro id before after held horder hneed hheld id' hkey
    obtain rfl := LockKey.surfaceCounter.inj hkey
    refine ⟨hid ▸ hneed, before, after, ?_, hheld⟩
    exact ⟨need, decision, _, t', hrequest, hacts, hpaid, hfirst, ht,
      perm_anyOrder _ n, horder.symm⟩

/-- A call waits for a counter only in its own order. -/
theorem opening_directoryProgram (request : DirectoryRequest) :
    opening (CounterWait config seededKey db t request) db t (fun _ _ ↦ True) (fun _ _ ↦ True)
      (directoryProgram config seededKey request) (some (id, [])) := by
  refine opening_bind (opening_ensure (fun _ ↦ ?_) trivial)
  refine opening_bind (opening_ensure (fun _ ↦ opening_bind (opening_snapshot ?_)) trivial)
  cases hrequest : (id db).needWithRoute request.needId with
  | none => exact trivial
  | some found =>
    obtain ⟨need, decision⟩ := found
    refine opening_bind (opening_assertCitizenAuthority fun hacts ↦ ?_)
    refine opening_bind (opening_ensure (fun hpaid ↦ ?_) trivial)
    refine opening_bind (opening_ensure (fun _ ↦ ?_) trivial)
    refine opening_bind (opening_withTransaction fun t' ht' ↦ ?_)
    refine opening_bind (opening_assertCitizenAuthority fun _ ↦ ?_)
    have hneed : (id db).need need.id = some need := by
      obtain ⟨hneed, hid, -⟩ := needWithRoute_eq_some hrequest
      rw [hid]
      exact hneed
    refine opening_bind (opening_selectForUpdate (fun _ hkey ↦ by simp at hkey) (fun _ ↦ trivial)
      fun state hstate ↦ ?_)
    obtain rfl := Option.some.inj (hneed.symm.trans hstate)
    refine opening_bind (opening_ensure (fun _ ↦ ?_) trivial)
    by_cases hgenerated : need.directoryGeneratedAt = none
    · rw [if_neg (by simp [hgenerated])]
      exact opening_mono (fun _ _ _ ↦ trivial) (fun _ _ _ ↦ trivial)
        (opening_generateDirectory ht' hrequest hacts hpaid hgenerated)
    · rw [if_pos hgenerated]
      exact opening_bind (opening_snapshot trivial)

end Loop

end Opening

/-! ## Two calls

If each waits for a counter that the other holds, both have locked the first one they have in
common.
-/

def firstCommon (order other : List ℕ) : Option ℕ := order.find? (· ∈ other)

theorem firstCommon_mem {before other : List ℕ} {shared : ℕ} (hmem : shared ∈ before)
    (hshared : shared ∈ other) (rest : List ℕ) :
    ∃ first ∈ before, firstCommon (before ++ rest) other = some first := by
  obtain ⟨first, hfirst⟩ := Option.isSome_iff_exists.mp
    (List.find?_isSome (p := (· ∈ other)).mpr ⟨shared, hmem, decide_eq_true hshared⟩)
  refine ⟨first, List.mem_of_find?_eq_some hfirst, ?_⟩
  rw [firstCommon, List.find?_append, hfirst, Option.some_or]

/-- The two calls wait for counters of each other. -/
def MutualWait {ε ρ Req : Type} (c : Config Database LockKey ε ρ Req) : Prop :=
  ∃ id id', c.WaitsFor 0 1 (.surfaceCounter id) ∧ c.WaitsFor 1 0 (.surfaceCounter id')

/-- **Two directories never wait for each other** if the first provider of each that the other shows
too is the same. -/
theorem directory_no_mutual_wait {config : AppConfig} {seededKey : String → String → String}
    {db : Database} {t : ℤ} {n : ℕ}
    {c : Config Database LockKey Failure (NeedRequest × List DirectoryProviderRow) DirectoryRequest}
    (hc : Reaches (directoryProgram config seededKey) (Config.initial db t n) c)
    (htwo : c.sessions.length = 2)
    (hfirst : ∀ u₀ u₁, c.sessions[0]? = some u₀ → c.sessions[1]? = some u₁ →
      u₀.request.needId ≠ u₁.request.needId → ∀ order₀ order₁,
        LockOrder config seededKey db t u₀.request order₀ →
        LockOrder config seededKey db t u₁.request order₁ →
        firstCommon order₀ order₁ = firstCommon order₁ order₀) :
    ¬ MutualWait c := by
  rintro ⟨id₀, id₁, ⟨hawaits₀, hholder₀⟩, hawaits₁, hholder₁⟩
  have hsession (i : ℕ) (hi : i < 2) : ∃ u, c.sessions[i]? = some u :=
    ⟨_, List.getElem?_eq_getElem (htwo.symm ▸ hi)⟩
  obtain ⟨u₀, hu₀⟩ := hsession 0 (by decide)
  obtain ⟨u₁, hu₁⟩ := hsession 1 (by decide)
  obtain ⟨held₀, hheld₀, hwait₀⟩ :=
    of_both_wait (fun r ↦ opening_directoryProgram r) hc htwo hawaits₀
    hawaits₁ hawaits₀ hu₀
  obtain ⟨held₁, hheld₁, hwait₁⟩ :=
    of_both_wait (fun r ↦ opening_directoryProgram r) hc htwo hawaits₀
    hawaits₁ hawaits₁ hu₁
  obtain ⟨hneed₀, before₀, after₀, horder₀, hbefore₀⟩ := hwait₀ id₀ rfl
  obtain ⟨hneed₁, before₁, after₁, horder₁, hbefore₁⟩ := hwait₁ id₁ rfl
  have hexclusive {k : LockKey} (h₀ : k ∈ held₀) (h₁ : k ∈ held₁) : False := by
    have := ((hheld₀ k).mp h₀).symm.trans ((hheld₁ k).mp h₁)
    exact absurd (Option.some.inj this) (by decide)
  have hneeds : u₀.request.needId ≠ u₁.request.needId := fun he ↦ hexclusive hneed₀ (he ▸ hneed₁)
  have hmem₀ : id₀ ∈ before₁ := (hbefore₁ id₀).mp ((hheld₁ _).mpr hholder₀)
  have hmem₁ : id₁ ∈ before₀ := (hbefore₀ id₁).mp ((hheld₀ _).mpr hholder₁)
  have hshared₁ : id₁ ∈ before₁ ++ id₁ :: after₁ := by simp
  have hshared₀ : id₀ ∈ before₀ ++ id₀ :: after₀ := by simp
  obtain ⟨first₀, hf₀, hfirst₀⟩ := firstCommon_mem hmem₁ hshared₁ (id₀ :: after₀)
  obtain ⟨first₁, hf₁, hfirst₁⟩ := firstCommon_mem hmem₀ hshared₀ (id₁ :: after₁)
  have hsame := hfirst u₀ u₁ hu₀ hu₁ hneeds _ _ horder₀ horder₁
  rw [hfirst₀, hfirst₁, Option.some.injEq] at hsame
  subst hsame
  exact hexclusive ((hbefore₀ first₀).mpr hf₀) ((hbefore₁ first₀).mpr hf₁)

/-! ## Two requests of one citizen

Two runs from stores with two providers: in one the second call waits for the first, in the other
the two wait for each other.
-/

/-- Two requests that both advocates can serve. -/
def contendedStore (services : List ProviderService) (first second : ℕ) : Database :=
  { twoAdvocates 0 0 with
    services := services
    needs := [tenancyRequest first, tenancyRequest second]
    decisions := [⟨first, none, false, .paid, 0⟩, ⟨second, none, false, .paid, 0⟩] }

def citizenCall (needId : ℕ) : DirectoryRequest :=
  ⟨⟨20, .citizen, [], "", none, none⟩, needId, ⟨"ADVOCATE", .selfDeclared⟩⟩

/-- Two requests, and the advocates offer help to both. -/
def sharedStore : Database := contendedStore (twoAdvocates 0 0).services 10 20

theorem lockOrder_sharedStore {needId : ℕ} {order : List ℕ} (hneed : needId = 10 ∨ needId = 20)
    (h : LockOrder showingConfig swappingKey sharedStore 0 (citizenCall needId) order) :
    order = [1, 2] := by
  obtain ⟨need, decision, rows, t', hrequest, -, -, -, -, hrows, rfl⟩ := h
  have htwo : directoryCandidates showingConfig need (citizenCall needId).query t' sharedStore =
      [(⟨1, "Advocate", .selfDeclared, ["mr"], 0, 100000⟩, 0),
        (⟨2, "Advocate", .selfDeclared, ["mr"], 0, 100000⟩, 0)] := by
    rcases hneed with rfl | rfl
    all_goals
      obtain rfl := (Prod.mk.inj (Option.some.inj hrequest)).1
      rfl
  rw [htwo, List.perm_pair] at hrows
  rcases hneed with rfl | rfl
  all_goals
    obtain rfl := (Prod.mk.inj (Option.some.inj hrequest)).1
    rcases hrows with rfl | rfl
    · decide +kernel
    · decide +kernel

/-- The second call waits for the counter that the first has locked, and the first goes on to the
other. -/
def waitingRun : List (Action DirectoryRequest) :=
  .start (citizenCall 10) :: .start (citizenCall 20) ::
    (List.replicate 16 (.run 0 0) ++ List.replicate 10 (.run 1 0))

theorem waitingRun_possible : (exec (directoryProgram showingConfig swappingKey)
    (Config.initial sharedStore 0 0) waitingRun).isSome := by decide +kernel

theorem requests_waitingRun : ((exec (directoryProgram showingConfig swappingKey)
    (Config.initial sharedStore 0 0) waitingRun).get waitingRun_possible).sessions.map (·.request) =
      [citizenCall 10, citizenCall 20] := by decide +kernel

theorem directory_no_mutual_wait_waitingRun :
    ¬ MutualWait
      ((exec (directoryProgram showingConfig swappingKey) (Config.initial sharedStore 0 0)
      waitingRun).get waitingRun_possible) := by
  have hrequest (j : ℕ) := congrArg (·[j]?) requests_waitingRun
  simp only [List.getElem?_map] at hrequest
  refine directory_no_mutual_wait (.get _) ?_ fun u₀ u₁ hu₀ hu₁ _ order₀ order₁ h₀ h₁ ↦ ?_
  · rw [← List.length_map (·.request), requests_waitingRun]
    rfl
  · have hr₀ : u₀.request = citizenCall 10 :=
      Option.some.inj ((congrArg _ hu₀).symm.trans (hrequest 0))
    have hr₁ : u₁.request = citizenCall 20 :=
      Option.some.inj ((congrArg _ hu₁).symm.trans (hrequest 1))
    rw [hr₀] at h₀
    rw [hr₁] at h₁
    rw [lockOrder_sharedStore (.inl rfl) h₀, lockOrder_sharedStore (.inr rfl) h₁]

/-- Each call has locked the counter it shows first, and asks for the other. -/
def crossingRun : List (Action DirectoryRequest) :=
  .start (citizenCall 10) :: .start (citizenCall 11) ::
    (List.replicate 16 (.run 0 0) ++ List.replicate 16 (.run 1 0))

theorem crossingRun_possible : (exec (directoryProgram showingConfig swappingKey)
    (Config.initial (contendedStore (twoAdvocates 0 0).services 10 11) 0 0)
      crossingRun).isSome := by
  decide +kernel

/-- The directories of two requests wait for each other. -/
theorem directory_mutual_wait :
    MutualWait ((exec (directoryProgram showingConfig swappingKey)
      (Config.initial (contendedStore (twoAdvocates 0 0).services 10 11) 0 0) crossingRun).get
        crossingRun_possible) :=
  ⟨2, 1, ⟨by decide +kernel, by decide +kernel⟩, by decide +kernel, by decide +kernel⟩

end Nayasetu
