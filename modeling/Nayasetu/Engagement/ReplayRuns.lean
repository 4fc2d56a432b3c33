import Nayasetu.Engagement.Replay
import Nayasetu.Engagement.Safety

/-!
# Runs of directory requests

Directory requests run against each other and against everything that creates and changes providers,
services and tiers. What a directory answers is in its rows, which no commit changes
(`DirectoryKept`), so an answer that was right once stays right: `directory_replays`.
-/

namespace Nayasetu

open Values RowLock RowLock.Discipline Collections

/-! ## Requests

Directory requests, routes that create providers, and arbitrary changes to what providers and
services are.
-/

/-- A change of providers and services that keeps the identifiers of the providers. -/
structure ProviderChange where
  providers : List Provider → List Provider
  services : List ProviderService → List ProviderService
  ids : ∀ rows, (providers rows).map (·.id) = rows.map (·.id)

def Database.changeProviders (change : ProviderChange) (db : Database) : Database :=
  { db with
    providers := change.providers db.providers
    services := change.services db.services }

/-- What a client can ask for. -/
inductive ReplayRequest where
  | createNeed (actor : ActorContext) (body : NeedBody)
  | directory (actor : ActorContext) (needId : ℕ) (query : DirectoryQuery)
  | createOwnProvider (actor : ActorContext) (body : ProviderProfileBody)
  | createProvider (actor : ActorContext) (userId : ℕ) (body : ProviderProfileBody)
  | changeProviders (change : ProviderChange)

/-- The program a request runs; a directory answers with its providers. -/
def replayProgram (config : AppConfig) (initialStatus : Option String)
    (seededKey : String → String → String) :
    ReplayRequest → Tx (Option (List DirectoryProviderRow))
  | .createNeed actor body => do
    let _ ← createNeed config actor body
    return none
  | .directory actor needId query => do
    let answer ← directory config seededKey actor needId query
    return some answer.2
  | .createOwnProvider actor body => do
    let _ ← createOwnProvider config initialStatus actor body
    return none
  | .createProvider actor userId body => do
    let _ ← createProvider config initialStatus actor userId body
    return none
  | .changeProviders change => do
    withTransaction fun _ ↦ write (Database.changeProviders change)
    return none

/-! ## Answers

What a request is answered with, by what is stored for it when the answer is given.
-/

structure NeedRequest.Filters (need : NeedRequest) (query : DirectoryQuery) : Prop where
  providerType : need.directoryProviderType = some query.providerType
  minimumTier : need.directoryMinimumTier = some query.minimumTier

/-- The directory of the request has been generated with these filters. -/
def Database.HasDirectory (db : Database) (id : ℕ) (query : DirectoryQuery) : Prop :=
  ∃ need, db.need id = some need ∧ need.directoryGeneratedAt ≠ none ∧ need.Filters query

def Database.directoryOf (db : Database) (id : ℕ) : List DirectoryProviderRow :=
  (byPosition (db.surfacesOf id)).map (·.providerSnapshot)

section Answers

variable {db db' : Database} {id : ℕ} {query query' : DirectoryQuery}

theorem Database.HasDirectory.kept (h : db.HasDirectory id query) (hkept : DirectoryKept db db') :
    db'.HasDirectory id query ∧ db'.directoryOf id = db.directoryOf id := by
  obtain ⟨need, hneed, hgenerated, hfilters⟩ := h
  obtain ⟨hneed', hsurfaces⟩ := hkept.directories id need hneed hgenerated
  refine ⟨⟨need, hneed', hgenerated, hfilters⟩, ?_⟩
  rw [Database.directoryOf, hsurfaces, Database.directoryOf]

theorem NeedRequest.Filters.unique {need : NeedRequest} (h : need.Filters query)
    (h' : need.Filters query') : query = query' := by
  obtain ⟨providerType, minimumTier⟩ := query
  obtain ⟨providerType', minimumTier'⟩ := query'
  rw [DirectoryQuery.mk.injEq]
  exact ⟨Option.some.inj (h.providerType.symm.trans h'.providerType),
    Option.some.inj (h.minimumTier.symm.trans h'.minimumTier)⟩

end Answers

/-! ## The discipline

A commit takes a step on directories and counters under the locks it needs.
-/

/-- What holds in every moment of a run. -/
structure ReplayInvariant (seededKey : String → String → String)
    (s : Shared Database LockKey ReplayRequest) : Prop where
  store : Replayable seededKey s.store
  uncounted : ∀ n, s.minted.length ≤ n → s.store.hasCounter n = false
  /-- Whoever was shown a directory asked with its filters. -/
  answered : ∀ e ∈ s.history, ∀ actor id query, e.request = .directory actor id query →
    s.store.HasDirectory id query

def replayDiscipline (seededKey : String → String → String) :
    Discipline Database LockKey ReplayRequest where
  Inv := ReplayInvariant seededKey
  Keep := DirectoryGuards
  Unused n db := db.hasCounter n = false
  Mono := DirectoryKept
  keep_refl key db := by
    cases key with
    | needRequest id => exact fun _ h ↦ ⟨h, rfl⟩
    | _ => exact trivial
  keep_trans key db₁ db₂ db₃ h₁ h₂ := by
    cases key with
    | needRequest id =>
      intro need hneed
      obtain ⟨hneed₂, hsurfaces₂⟩ := h₁ need hneed
      obtain ⟨hneed₃, hsurfaces₃⟩ := h₂ need hneed₂
      exact ⟨hneed₃, hsurfaces₃.trans hsurfaces₂⟩
    | _ => exact trivial
  mono_refl := .refl
  mono_trans _ _ _ := .trans
  unused_of_inv _ n h hn := h.uncounted n hn
  inv_of_same _ _ hstore hhistory hminted _ _ h :=
    { store := hstore ▸ h.store
      uncounted := fun n hn ↦ hstore ▸ h.uncounted n (hminted.length_le.trans hn)
      answered := hstore ▸ hhistory ▸ h.answered }

section Commit

variable {seededKey : String → String → String} {i : ℕ} {r : ReplayRequest}
  {s : Shared Database LockKey ReplayRequest}

/-- What the transaction of session `i` can do now. -/
abbrev SessionStep (seededKey : String → String → String) (i : ℕ)
    (s : Shared Database LockKey ReplayRequest) (db' : Database) : Prop :=
  DirectoryStep seededKey (fun key ↦ s.holder key = some i)
    (fun n ↦ s.minted[n]? = some (some i)) s.store db'

/-- A step may be committed, by a directory request with the filters it leaves. -/
theorem DirectoryStep.commit {w : Database → Database} (h : SessionStep seededKey i s (w s.store))
    (hr : ∀ actor id query, r = .directory actor id query → (w s.store).HasDirectory id query)
    (snap : Database) (hs : ReplayInvariant seededKey s) :
    ReplayInvariant seededKey (s.commit i r snap w) ∧
      ∀ j, j ≠ i → (replayDiscipline seededKey).Rely j s (s.commit i r snap w) := by
  refine ⟨⟨h.replayable hs.store, fun n hn ↦ ?_, ?_⟩, ?_⟩
  · refine h.uncounted (fun hdrawn ↦ ?_) (hs.uncounted n hn)
    exact absurd (hdrawn.symm.trans (List.getElem?_eq_none hn)) (by simp)
  · refine List.forall_mem_append.mpr ⟨fun e he actor id query hrequest ↦ ?_, fun e he ↦ ?_⟩
    · exact ((hs.answered e he actor id query hrequest).kept h.kept).1
    · rw [List.mem_singleton.mp he]
      exact hr
  · exact rely_commit (fun key hkey ↦ h.guards hkey) (fun n hn hfree ↦ h.uncounted hn hfree) h.kept

/-- Writes that make a step may be committed. -/
theorem committable_of_directoryStep {w : View Database LockKey ReplayRequest}
    (hr : ∀ actor id query, r ≠ .directory actor id query)
    (h : ∀ s, (replayDiscipline seededKey).Since i w.shared s → ReplayInvariant seededKey s →
      SessionStep seededKey i s (w.pending s.store)) :
    Committable (replayDiscipline seededKey) i r w :=
  fun s hs hinv ↦ (h s hs hinv).commit (fun _ _ _ he ↦ absurd he (hr _ _ _)) w.snapshot hinv

end Commit

/-! ## Creating providers

A provider comes with a counter at zero, which nobody else has seen.
-/

section Providers

variable {Req : Type} {D : Discipline Database LockKey Req} {i : ℕ} {r : Req}
  {v : View Database LockKey Req}

/-- The loop adds services, and nothing else. -/
theorem attempt_insertServices {providerId : ℕ} {services : List ServiceBody}
    {Q : Unit → View Database LockKey Req → Prop} (hv : D.Inv v.shared)
    (h : ∀ w f, D.Since i v.shared w.shared → D.Inv w.shared → w.pending = f ∘ v.pending →
      (∀ db, ∃ services, f db = { db with services := services }) → Q () w) :
    D.Attempt i r Q Failure.Unconflicted (insertServices providerId services) v := by
  induction services generalizing v Q with
  | nil => exact attempt_pure (h v id (.refl _) hv rfl fun db ↦ ⟨db.services, rfl⟩)
  | cons service services ih =>
    refine attempt_bind
      (attempt_toMoney fun feeMin ↦ attempt_bind (attempt_toMoney fun feeMax ↦ ?_))
    refine attempt_bind (attempt_ensure trivial fun _ ↦ ?_)
    refine attempt_bind
      (attempt_snapshot fun w₁ hw₁ _ ↦ attempt_bind (attempt_ensure trivial fun _ ↦ ?_))
    refine attempt_bind (attempt_write (ih hw₁.inv fun w f hsince hinv hp hf ↦ ?_))
    refine h w (f ∘ Database.insertService
      ⟨providerId, service.taxonomyCode, feeMin, feeMax, service.proBonoAvailable⟩)
      (hw₁.since.trans hsince) hinv ?_ fun db ↦ ?_
    · rw [hp, hw₁.pending]
      rfl
    · obtain ⟨services, hservices⟩ := hf (Database.insertService
        ⟨providerId, service.taxonomyCode, feeMin, feeMax, service.proBonoAvailable⟩ db)
      exact ⟨services, hservices⟩

/-- The view has written a provider of its own number with a counter for it. -/
structure CreatesProvider (D : Discipline Database LockKey Req) (i : ℕ)
    (w : View Database LockKey Req)
    (row : Provider) : Prop where
  drawn : w.shared.minted[row.id]? = some (some i)
  unused : D.Unused row.id w.shared.store
  writes : ∀ db, (w.pending db).needs = db.needs ∧ (w.pending db).surfaces = db.surfaces ∧
    (w.pending db).counters = db.counters ++ [⟨row.id, 0⟩] ∧
    (w.pending db).providers = db.providers ++ [row]

theorem attempt_insertProvider {actor : ActorContext} {userId : ℕ} {body : ProviderProfileBody}
    {status action : String} {Q : ℕ → View Database LockKey Req → Prop}
    (hpending : ∀ db, ∃ grants, v.pending db = { db with roleGrants := grants })
    (h : ∀ w row, CreatesProvider D i w row → Q row.id w) :
    D.Attempt i r Q Failure.Unconflicted (insertProvider actor userId body status action) v := by
  refine attempt_bind (attempt_ensureText (attempt_bind
    (attempt_nextval fun w₁ n hw₁ _ hn hunused ↦ ?_)))
  refine attempt_bind
    (attempt_snapshot fun w₂ hw₂ _ ↦ attempt_bind (attempt_ensure trivial fun _ ↦ ?_))
  refine attempt_bind (attempt_write (attempt_bind (attempt_insertServices hw₂.inv
    fun w₃ f hsince hinv hp hf ↦ ?_)))
  refine attempt_bind (attempt_write (attempt_bind (attempt_write (attempt_pure ?_))))
  have hs := hw₂.since.trans hsince
  refine h _ (body.row userId status n) ⟨hs.drawn hn, hs.unused n hn hunused, fun db ↦ ?_⟩
  obtain ⟨grants, hgrants⟩ := hpending db
  obtain ⟨services, hservices⟩ := hf (Database.insertProvider (body.row userId status n)
    { db with roleGrants := grants })
  have hw₃ : w₃.pending db = { Database.insertProvider (body.row userId status n)
      { db with roleGrants := grants } with services := services } := by
    rw [hp, ← hservices, ← hgrants, ← hw₁.pending, ← hw₂.pending]
    rfl
  simp only [Function.comp_apply, hw₃]
  exact ⟨rfl, rfl, rfl, rfl⟩

end Providers

/-! ## All requests -/

section Requests

variable {seededKey : String → String → String} {i : ℕ} {r : ReplayRequest}
  {v w : View Database LockKey ReplayRequest}

theorem committable_of_createsProvider {row : Provider}
    (hr : ∀ actor id query, r ≠ .directory actor id query)
    (h : CreatesProvider (replayDiscipline seededKey) i w row) :
    Committable (replayDiscipline seededKey) i r w := by
  refine committable_of_directoryStep hr fun s hs _ ↦ ?_
  obtain ⟨hneeds, hsurfaces, hcounters, hproviders⟩ := h.writes s.store
  exact .created (hs.drawn h.drawn) (hs.unused row.id h.drawn h.unused) hneeds hsurfaces hcounters
    hproviders

/-- The directory of a request, as it is answered. -/
structure Shown (db : Database) (id : ℕ) (query : DirectoryQuery)
    (providers : List DirectoryProviderRow) : Prop where
  generated : db.HasDirectory id query
  providers : db.directoryOf id = providers

theorem Shown.kept {db db' : Database} {id : ℕ} {query : DirectoryQuery}
    {providers : List DirectoryProviderRow} (h : Shown db id query providers)
    (hkept : DirectoryKept db db') : Shown db' id query providers := by
  obtain ⟨hgenerated, hproviders⟩ := h.generated.kept hkept
  exact ⟨hgenerated, hproviders.trans h.providers⟩

/-- Nobody was left out: whoever the query found had a counter, and keeps it. -/
theorem counted_eq {u : View Database LockKey ReplayRequest} {candidates : List DirectoryCandidate}
    {counted : List ℕ} (h : Counted (replayDiscipline seededKey) i u w candidates counted)
    (hnodup : (candidates.map (·.providerId)).Nodup)
    (hfound : ∀ candidate ∈ candidates, u.shared.store.hasCounter candidate.providerId = true) :
    counted = candidates.map (·.providerId) := by
  refine h.sublist.eq_of_length (List.Perm.length_eq ?_)
  refine (List.perm_ext_iff_of_nodup (h.sublist.nodup hnodup) hnodup).mpr fun id ↦ ?_
  refine ⟨fun hid ↦ h.sublist.subset hid, fun hid ↦ ?_⟩
  obtain ⟨candidate, hcandidate, rfl⟩ := List.mem_map.mp hid
  by_contra hnot
  obtain ⟨s, hus, -, hmissing⟩ := h.missing candidate hcandidate hnot
  have hkept := hus.mono.counters _ (hfound candidate hcandidate)
  exact absurd (hmissing.symm.trans hkept) (by simp)

theorem exists_provider_of_mem_orderedCandidates {config : AppConfig} {need : NeedRequest}
    {query : DirectoryQuery} {timestamp : ℤ} {db : Database}
    {rows : List (DirectoryProviderRow × ℤ)}
    (hrows : rows.Perm (directoryCandidates config need query timestamp db)) :
    ∀ candidate ∈ orderedCandidates seededKey need rows,
      ∃ provider ∈ db.providers, provider.id = candidate.providerId := by
  intro candidate hcandidate
  have hmem := (perm_orderDirectoryCandidates ..).subset hcandidate
  obtain ⟨row, hrow, rfl⟩ := List.mem_map.mp hmem
  obtain ⟨provider, hprovider, hrow⟩ := List.mem_flatMap.mp (hrows.subset hrow)
  obtain ⟨service, -, rfl⟩ := List.mem_map.mp hrow
  exact ⟨provider, hprovider, rfl⟩

variable {config : AppConfig} {actor : ActorContext} {needId : ℕ} {query : DirectoryQuery}

theorem attempt_directoryInTransaction_shown {need : NeedRequest} {timestamp : ℤ}
    (hv : ReplayInvariant seededKey v.shared) (hpending : v.pending = id)
    (hneed : need.id = needId) :
    (replayDiscipline seededKey).Attempt i (.directory actor needId query)
      (fun providers w ↦ Committable (replayDiscipline seededKey) i
        (.directory actor needId query) w ∧
        ∀ s, (replayDiscipline seededKey).Since i w.shared s → ReplayInvariant seededKey s →
          Shown (w.pending s.store) needId query providers) Failure.Unconflicted
      (directoryInTransaction config seededKey actor need query timestamp) v := by
  subst hneed
  -- a step that leaves the directory of the query may be committed
  have hfinish {providers : List DirectoryProviderRow} {w : View Database LockKey ReplayRequest}
      (h : ∀ s, (replayDiscipline seededKey).Since i w.shared s → ReplayInvariant seededKey s →
        SessionStep seededKey i s (w.pending s.store) ∧
          Shown (w.pending s.store) need.id query providers) :
      Committable (replayDiscipline seededKey) i (.directory actor need.id query) w ∧
        ∀ s, (replayDiscipline seededKey).Since i w.shared s → ReplayInvariant seededKey s →
          Shown (w.pending s.store) need.id query providers := by
    refine ⟨fun s hs hinv ↦ ?_, fun s hs hinv ↦ (h s hs hinv).2⟩
    obtain ⟨hstep, hshown⟩ := h s hs hinv
    refine hstep.commit (fun actor' id' query' he ↦ ?_) w.snapshot hinv
    cases he
    exact hshown.generated
  refine attempt_bind (attempt_assertCitizenAuthority hv fun w₁ hw₁ ↦ ?_)
  have hp₁ : w₁.pending = id := hw₁.pending.trans hpending
  refine attempt_bind (attempt_selectForUpdate (fun _ _ _ ↦ attempt_throw (by simp))
    fun w₂ state hw₂ hlock hstate ↦ ?_)
  have hp₂ : w₂.pending = id := hw₂.pending.trans hp₁
  rw [hp₁] at hstate
  have hid : state.id = need.id := (lookupBy_mem hstate).2
  have hkeep {s : Shared Database LockKey ReplayRequest}
      (hs : (replayDiscipline seededKey).Since i w₂.shared s) : s.store.need need.id = some state ∧
        s.store.surfacesOf need.id = w₂.shared.store.surfacesOf need.id :=
        hs.keep _ hlock state hstate
  refine attempt_bind (attempt_ensure (by simp) fun hfilters ↦ ?_)
  split
  next hgenerated =>
    -- stored before: the rows are read, and nobody can have changed them since the lock
    refine attempt_bind (attempt_snapshot fun w₃ hw₃ _ ↦ attempt_pure (hfinish fun s hs hinv ↦ ?_))
    rw [hw₃.pending, hp₂]
    obtain ⟨hstate', hsurfaces⟩ := hkeep (hw₃.since.trans hs)
    obtain ⟨htype, htier⟩ :=
      hfilters.resolve_left (hinv.store.filters need.id state hstate' hgenerated)
    refine ⟨.shown, ⟨state, hstate', hgenerated, htype, htier⟩, ?_⟩
    have hsame : s.store.surfacesOf need.id = w₃.shared.store.surfacesOf need.id :=
      hsurfaces.trans (hkeep hw₃.since).2.symm
    rw [Database.directoryOf, id, hsame]
    rfl
  next hfirst =>
    -- not stored yet: every candidate has a counter, so all of them are shown and counted
    refine attempt_generateDirectory hp₂
      fun u w rows counted hu hsince hinv hrows hpending' hcounted hlength hnodup ↦ ?_
    obtain ⟨auditEvents, hpending'⟩ := hpending'
    have hfirst' : state.directoryGeneratedAt = none := not_ne_iff.mp hfirst
    obtain ⟨hcandidates, -, -⟩ := candidates_storedSurfaces read_orderedCandidates hlength
    have hids : (storedSurfaces need query rows 1 (orderedCandidates seededKey need rows)).map
        (·.providerId) = (orderedCandidates seededKey need rows).map (·.providerId) := by
      conv_rhs => rw [← hcandidates, List.map_map]
      rfl
    have hfound : ∀ candidate ∈ orderedCandidates seededKey need rows,
        u.shared.store.hasCounter candidate.providerId = true := by
      intro candidate hcandidate
      obtain ⟨provider, hprovider, he⟩ :=
        exists_provider_of_mem_orderedCandidates hrows candidate hcandidate
      rw [← he]
      exact hu.inv.store.counters provider hprovider
    have hcount := counted_eq hcounted (hids ▸ hnodup) hfound
    have hstored := storedDirectory_storedSurfaces hlength hnodup
    have hof : ∀ surface ∈ storedSurfaces need query rows 1 (orderedCandidates seededKey need rows),
        surface.needRequestId = state.id := fun surface hsurface ↦
      (needRequestId_of_mem_storedSurfaces surface hsurface).trans hid.symm
    refine hfinish fun s hs hinv' ↦ ?_
    have hus := hsince.trans hs
    have hstate' : s.store.need state.id = some state := hid ▸ (hkeep (hu.since.trans hus)).1
    have hgenerate : w.pending s.store = Database.insertAudit auditEvents
      (s.store.generate state query
        timestamp (storedSurfaces need query rows 1 (orderedCandidates seededKey need rows))) := by
      rw [hpending', hcount, ← hids]
      rfl
    rw [hgenerate]
    refine ⟨.generated ?_ hstate' hfirst' (hid ▸ hstored) hof fun surface hsurface ↦ ?_, ?_, ?_⟩
    · rw [hid]
      exact (hu.since.trans hus).holds _ hlock
    · have hmem : surface.providerId ∈ (orderedCandidates seededKey need rows).map (·.providerId) :=
        hids ▸ List.mem_map_of_mem hsurface
      obtain ⟨candidate, hcandidate, he⟩ := List.mem_map.mp hmem
      rw [← he]
      exact hus.mono.counters _ (hfound candidate hcandidate)
    · obtain ⟨hself, -⟩ := DirectoryStep.generate_self query timestamp hof hstate'
        (hinv'.store.surfacesOf_eq_nil hstate' hfirst')
      rw [hid] at hself
      exact ⟨_, hself, Option.some_ne_none _, rfl, rfl⟩
    · obtain ⟨-, hself⟩ := DirectoryStep.generate_self query timestamp hof hstate'
        (hinv'.store.surfacesOf_eq_nil hstate' hfirst')
      rw [hid] at hself
      change (byPosition ((s.store.generate state query timestamp _).surfacesOf need.id)).map _ = _
      rw [hself, byPosition_of_positions hstored.positions]

def Replied (r : ReplayRequest) (answer : Option (List DirectoryProviderRow))
    (w : View Database LockKey ReplayRequest) : Prop :=
  ∀ actor id query providers, r = .directory actor id query → answer = some providers →
    Shown w.shared.store id query providers

theorem replied_none : Replied r none w := fun _ _ _ _ _ h ↦ absurd h (by simp)

theorem answers_directory (hpending : v.pending = id) :
    (replayDiscipline seededKey).Answers i (.directory actor needId query)
      (fun answer w ↦ Replied (.directory actor needId query) (some answer.2) w)
      Failure.Unconflicted (directory config seededKey actor needId query) v := by
  refine answers_bind (attempt_requireActor (answers_bind (attempt_parseBody fun _ ↦ ?_)))
  refine answers_bind (attempt_snapshot fun w₁ hw₁ _ ↦ ?_)
  rw [hpending, id]
  cases hneed : w₁.shared.store.needWithRoute needId with
  | none => exact answers_throw (by simp)
  | some found =>
    obtain ⟨need, decision⟩ := found
    refine answers_bind (attempt_assertCitizenAuthority hw₁.inv fun w₂ hw₂ ↦ ?_)
    refine answers_bind (attempt_ensure (by simp) fun _ ↦ ?_)
    refine answers_bind (attempt_ensure (by simp) fun _ ↦ ?_)
    refine answers_map (answers_withTransaction fun w₃ hw₃ ↦ ?_)
    have hp₃ : w₃.pending = id := ((hw₁.trans hw₂).trans hw₃).pending.trans hpending
    refine attempt_mono (fun providers w h ↦ ⟨h.1, fun s hs hinv ↦ ?_⟩) (fun _ he ↦ he)
      (attempt_directoryInTransaction_shown hw₃.inv hp₃ (needWithRoute_eq_some hneed).2.1)
    intro actor' id' query' providers' hr hanswer
    cases hr
    obtain rfl := Option.some.inj hanswer
    exact h.2 s hs hinv

theorem serves_createOwnProvider {initialStatus : Option String} {body : ProviderProfileBody}
    (hpending : v.pending = id) : (replayDiscipline seededKey).Serves i
      (.createOwnProvider actor body) Failure.Unconflicted
      (createOwnProvider config initialStatus actor body) v := by
  refine serves_bind (attempt_requireActor (serves_bind (attempt_parseBody fun _ ↦ ?_)))
  cases initialStatus.filter (· ≠ "") with
  | none => exact serves_throw (by simp)
  | some status =>
    refine serves_bind (attempt_ensure (by simp) fun _ ↦ ?_)
    refine serves_bind (attempt_fromExcept (fun _ _ ↦ ?_) fun e he ↦ ?_)
    · refine serves_withTransaction fun w hw ↦ attempt_bind (attempt_snapshot fun w₁ hw₁ _ ↦ ?_)
      refine attempt_bind (attempt_ensure (by simp) fun _ ↦ attempt_bind (attempt_write ?_))
      have hp : w₁.pending = id := (hw.trans hw₁).pending.trans hpending
      refine attempt_insertProvider (fun db ↦ ?_) fun w₂ row hrow ↦
        committable_of_createsProvider (by simp) hrow
      rw [hp]
      exact ⟨_, rfl⟩
    · obtain ⟨service, he⟩ := exists_of_forEach_eq_error he
      simp only [checkService, bind_eq_error_iff] at he
      rcases he with he | ⟨_, -, he⟩ <;> rw [eq_of_require_eq_error he] <;> simp

theorem serves_createProvider {initialStatus : Option String} {userId : ℕ}
    {body : ProviderProfileBody} (hpending : v.pending = id) : (replayDiscipline seededKey).Serves i
      (.createProvider actor userId body) Failure.Unconflicted
      (createProvider config initialStatus actor userId body) v := by
  refine serves_bind (attempt_requireActor (serves_bind (attempt_parseBody fun _ ↦ ?_)))
  cases initialStatus.filter (· ≠ "") with
  | none => exact serves_throw (by simp)
  | some status =>
    refine serves_bind (attempt_ensure (by simp) fun _ ↦ ?_)
    refine serves_bind (attempt_fromExcept (fun _ _ ↦ ?_) fun e he ↦ ?_)
    · refine serves_withTransaction fun w hw ↦ attempt_bind (attempt_snapshot fun w₁ hw₁ _ ↦ ?_)
      refine attempt_bind (attempt_ensure (by simp) fun _ ↦ ?_)
      have hp : w₁.pending = id := (hw.trans hw₁).pending.trans hpending
      refine attempt_insertProvider (fun db ↦ ⟨db.roleGrants, ?_⟩) fun w₂ row hrow ↦
        committable_of_createsProvider (by simp) hrow
      rw [hp]
      rfl
    · obtain ⟨service, he⟩ := exists_of_forEach_eq_error he
      simp only [bind_eq_error_iff] at he
      rcases he with he | ⟨_, -, he | ⟨_, -, he⟩⟩ <;> rw [eq_of_require_eq_error he] <;> simp

theorem answers_replay (initialStatus : Option String) (r : ReplayRequest)
    (hpending : v.pending = id) :
    (replayDiscipline seededKey).Answers i r (Replied r) Failure.Unconflicted
      (replayProgram config initialStatus seededKey r) v := by
  cases r with
  | createNeed actor body =>
    refine answers_map (answers_of_serves (fun _ _ ↦ replied_none)
      (serves_createNeed hpending fun w _ _ hw hp _ ↦ ?_))
    refine attempt_createNeedInTransaction hw.inv hp fun w' n feeCeiling auditEvents _ _ _ hp' ↦ ?_
    refine committable_of_directoryStep (by simp) fun s _ _ ↦ ?_
    rw [hp']
    exact .asked rfl rfl rfl rfl rfl
  | directory actor needId query => exact answers_map (answers_directory hpending)
  | createOwnProvider actor body =>
    exact answers_map
      (answers_of_serves (fun _ _ ↦ replied_none) (serves_createOwnProvider hpending))
  | createProvider actor userId body =>
    exact answers_map (answers_of_serves (fun _ _ ↦ replied_none) (serves_createProvider hpending))
  | changeProviders change =>
    refine answers_map (answers_of_serves (fun _ _ ↦ replied_none)
      (serves_withTransaction fun w hw ↦ attempt_write ?_))
    refine committable_of_directoryStep (by simp) fun s _ _ ↦ ?_
    simp only [hw.pending, hpending, Function.comp_id]
    refine .changed rfl rfl rfl fun provider hprovider ↦ ?_
    have hid : provider.id ∈ (change.providers s.store.providers).map (·.id) :=
      List.mem_map_of_mem hprovider
    rw [change.ids] at hid
    exact List.mem_map.mp hid

end Requests

/-! ## Directories in every reachable state

The directories of a request: answered from what is stored, in the stored order, and never
changed.
-/

/-- Nothing has been shown yet, and `n` numbers are drawn. -/
structure Unshown (db : Database) (n : ℕ) : Prop where
  surfaces : db.surfaces = []
  needs : ∀ need ∈ db.needs, need.directoryGeneratedAt = none
  counters : ∀ counter ∈ db.counters, counter.surfacedCount = 0 ∧ counter.providerId < n
  providers : ∀ provider ∈ db.providers, db.hasCounter provider.id = true

theorem Unshown.replayable {seededKey : String → String → String} {db : Database} {n : ℕ}
    (h : Unshown db n) : Replayable seededKey db where
  directories id need hneed hgenerated :=
    absurd (h.needs need (lookupBy_mem hneed).1) hgenerated
  filters id need hneed hgenerated := absurd (h.needs need (lookupBy_mem hneed).1) hgenerated
  surfaces := by
    rw [h.surfaces]
    exact List.forall_mem_nil _
  shown := by
    rw [h.surfaces]
    exact List.forall_mem_nil _
  counted counter hcounter := by
    rw [(h.counters counter hcounter).1, h.surfaces]
    rfl
  counters := h.providers

/-- A configuration of a run. -/
abbrev ReplayConfig : Type :=
  Config Database LockKey Failure (Option (List DirectoryProviderRow)) ReplayRequest

/-- The directories are as they were generated, and the counters count them. -/
structure DirectoriesReplay (seededKey : String → String → String) (c : ReplayConfig) : Prop where
  /-- Each provider is shown once, in positions from 1 on, under the identifier of the request. -/
  stored : ∀ id need, c.shared.store.need id = some need → need.directoryGeneratedAt ≠ none →
    ((c.shared.store.surfacesOf id).map (·.providerId)).Nodup ∧
      (byPosition (c.shared.store.surfacesOf id)).map (·.position) =
        List.range' 1 (c.shared.store.surfacesOf id).length ∧
      ∀ surface ∈ c.shared.store.surfacesOf id, surface.seed = uuidText id
  /-- The order is the one the stored candidates have in whatever order they are given. -/
  ordered : ∀ id need, c.shared.store.need id = some need → need.directoryGeneratedAt ≠ none →
    (∀ a ∈ c.shared.store.surfacesOf id, ∀ b ∈ c.shared.store.surfacesOf id,
      a.providerId ≠ b.providerId → seededKey (uuidText id) (uuidText a.providerId) ≠
        seededKey (uuidText id) (uuidText b.providerId)) →
    ∀ candidates : List DirectoryCandidate,
      candidates.Perm ((c.shared.store.surfacesOf id).map DirectorySurface.candidate) →
      orderDirectoryCandidates seededKey (uuidText id) uuidText candidates =
        (byPosition (c.shared.store.surfacesOf id)).map DirectorySurface.candidate
  /-- All successful answers for a request are the same, and to the same filters. -/
  answers : ∀ (i j : ℕ) u u' actor actor' id query query' providers providers',
    c.sessions[i]? = some u → u.request = .directory actor id query →
    u.program = some (.pure (some providers)) →
    c.sessions[j]? = some u' → u'.request = .directory actor' id query' →
    u'.program = some (.pure (some providers')) → query' = query ∧ providers' = providers
  /-- Whoever asks with other filters commits nothing and gets no answer. -/
  refused : ∀ (i : ℕ) u actor id query need, c.sessions[i]? = some u →
    u.request = .directory actor id query → c.shared.store.need id = some need →
    need.directoryGeneratedAt ≠ none → ¬ need.Filters query →
    c.shared.commitsOf i = [] ∧ ∀ providers, u.program ≠ some (.pure (some providers))
  /-- A provider has been shown as often as its counter says. -/
  counted : ∀ provider ∈ c.shared.store.providers,
    (∃ counter ∈ c.shared.store.counters, counter.providerId = provider.id) ∧
      ∀ counter ∈ c.shared.store.counters, counter.providerId = provider.id →
        counter.surfacedCount = c.shared.store.surfaces.countP (·.providerId = provider.id)

section Run

variable {config : AppConfig} {initialStatus : Option String} {seededKey : String → String → String}
  {db : Database} {clock : ℤ} {drawn : ℕ} {c : ReplayConfig}

theorem Database.HasDirectory.filters {id : ℕ} {query : DirectoryQuery} {need : NeedRequest}
    (h : db.HasDirectory id query) (hneed : db.need id = some need) : need.Filters query := by
  obtain ⟨need', hneed', -, hfilters⟩ := h
  obtain rfl := Option.some.inj (hneed.symm.trans hneed')
  exact hfilters

/-- **Directory replay.** In every reachable state the directories can be worked out again from
their rows, every answer is the first one, and the counters count the rows. -/
theorem directory_replays (hstart : Unshown db drawn)
    (hc : Reaches (replayProgram config initialStatus seededKey)
      (Config.initial db clock drawn) c) :
    DirectoriesReplay seededKey c := by
  have hinit : (replayDiscipline seededKey).Inv (Config.initial (ε := Failure)
      (ρ := Option (List DirectoryProviderRow)) db clock drawn).shared := by
    refine ⟨hstart.replayable, fun n hn ↦ List.any_eq_false.mpr fun counter hcounter ↦ ?_,
      List.forall_mem_nil _⟩
    have hlt := (hstart.counters counter hcounter).2
    rw [Config.initial, List.length_replicate] at hn
    simp only [decide_eq_true_eq]
    omega
  have hstable (i : ℕ) (r : ReplayRequest) :
      (replayDiscipline seededKey).toProtocol.Stable i (Replied r) :=
    fun answer w s h hs actor id query providers hr hanswer ↦
      (h actor id query providers hr hanswer).kept (since_of_later hs).mono
  obtain ⟨hinv, hanswers, -⟩ := answered hstable
    (fun _ r _ _ ↦ answers_replay initialStatus r rfl) hinit hc
  have hstore : Replayable seededKey c.shared.store := hinv.store
  have hbyPosition {id : ℕ} (h : StoredDirectory seededKey id (c.shared.store.surfacesOf id)) :
      byPosition (c.shared.store.surfacesOf id) = c.shared.store.surfacesOf id :=
    byPosition_of_positions h.positions
  refine ⟨fun id need hneed hgenerated ↦ ?_,
    fun id need hneed hgenerated hkeys candidates hperm ↦ ?_,
    fun i j u u' actor actor' id query query' providers providers' hu hr hp hu' hr' hp' ↦ ?_,
    fun i u actor id query need hu hr hneed hgenerated hfilters ↦ ⟨?_, fun providers hp ↦ ?_⟩,
    fun provider hprovider ↦ ⟨?_, fun counter hcounter hid ↦ ?_⟩⟩
  · have hdirectory := hstore.directories id need hneed hgenerated
    rw [hbyPosition hdirectory]
    exact ⟨hdirectory.providers, hdirectory.positions, hdirectory.seeds⟩
  · have hdirectory := hstore.directories id need hneed hgenerated
    rw [hbyPosition hdirectory]
    exact hdirectory.reorder hkeys hperm
  · have h := hanswers i u _ hu hp actor id query providers hr rfl
    have h' := hanswers j u' _ hu' hp' actor' id query' providers' hr' rfl
    obtain ⟨need, hneed, -, hfilters⟩ := h.generated
    exact ⟨(h'.generated.filters hneed).unique hfilters, h'.providers.symm.trans h.providers⟩
  · -- its commit would have left a directory with its filters
    refine List.filter_eq_nil_iff.mpr fun e he hi ↦ hfilters ?_
    obtain ⟨u', hu', hrequest⟩ := hc.session_of_mem e he
    rw [of_decide_eq_true hi, hu] at hu'
    obtain rfl := Option.some.inj hu'
    exact (hinv.answered e he actor id query (hrequest.symm.trans hr)).filters hneed
  · exact hfilters ((hanswers i u _ hu hp actor id query providers hr rfl).generated.filters hneed)
  · have h := hstore.counters provider hprovider
    obtain ⟨counter, hcounter, hid⟩ := List.any_eq_true.mp h
    exact ⟨counter, hcounter, of_decide_eq_true hid⟩
  · rw [← hid]
    exact hstore.counted counter hcounter

end Run

/-! ### A run

A second advocate joins, and both are shown to a citizen. Then the services are withdrawn, and the
directory is asked for again, with the same filters and with others. -/

def secondProfile : ProviderProfileBody where
  providerType := "ADVOCATE"
  displayName := "Second advocate"
  district := "Pune"
  state := "Maharashtra"
  languages := ["mr"]
  serviceModes := ["REMOTE"]
  services := [⟨"RENT", 100, 500, false⟩]

def withdrawServices : ProviderChange where
  providers rows := rows
  services _ := []
  ids _ := rfl

/-- Session `i` serves a request in `n` statements. -/
def askAlone (i n : ℕ) (r : ReplayRequest) : List (Action ReplayRequest) :=
  .start r :: List.replicate n (.run i 0)

/-- The directory is asked for three times. -/
def directoryRun : List (Action ReplayRequest) :=
  askAlone 0 11 (.createOwnProvider { pilotCitizen with actorId := 30 } secondProfile) ++
    askAlone 1 6 (.createNeed pilotCitizen (pilotNeed none)) ++
    askAlone 2 22 (.directory pilotCitizen 3 ⟨"ADVOCATE", .selfDeclared⟩) ++
    askAlone 3 3 (.changeProviders withdrawServices) ++
    askAlone 4 6 (.directory pilotCitizen 3 ⟨"ADVOCATE", .selfDeclared⟩) ++
    askAlone 5 5 (.directory pilotCitizen 3 ⟨"ADVOCATE", .documentVerified⟩)

theorem directoryRun_possible : (exec (replayProgram pilotConfig (some "ACTIVE") pilotKey)
    (Config.initial pilotStore 1000000 2) directoryRun).isSome := by decide +kernel

theorem pilotStore_unshown : Unshown pilotStore 2 where
  surfaces := rfl
  needs := List.forall_mem_nil _
  counters := by decide
  providers := by decide

theorem directory_replays_pilot : DirectoriesReplay pilotKey
    ((exec (replayProgram pilotConfig (some "ACTIVE") pilotKey)
      (Config.initial pilotStore 1000000 2) directoryRun).get directoryRun_possible) :=
  directory_replays pilotStore_unshown (.get _)

end Nayasetu
