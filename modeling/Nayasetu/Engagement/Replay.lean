import Nayasetu.Engagement.Showings
import Nayasetu.Intake.Providers

/-!
# Directories that stay

A directory is generated once, from counters and rows that go on changing, and served from its own
rows ever after. `Replayable` says what holds of the stored directories and of the counters,
`DirectoryStep` what a transaction can do to them.
-/

namespace Nayasetu

open Values RowLock Collections

/-! ## Stored directories

What was stored is in the order that the comparison gives for the counts that were stored with it.
So a reader who sorts the rows again finds the same order.
-/

/-- The candidate that a directory row was made from: its count is read as it was when the directory
was ordered. -/
def DirectorySurface.candidate (surface : DirectorySurface) : DirectoryCandidate :=
  ⟨surface.providerId, numberOfBigint surface.surfacedCountSnapshot⟩

/-- The rows of the directory of a request, in order. -/
structure StoredDirectory (seededKey : String → String → String) (needId : ℕ)
    (surfaces : List DirectorySurface) : Prop where
  positions : surfaces.map (·.position) = List.range' 1 surfaces.length
  providers : (surfaces.map (·.providerId)).Nodup
  seeds : ∀ surface ∈ surfaces, surface.seed = uuidText needId
  ordered : surfaces.Pairwise fun a b ↦
    compareCandidates seededKey (uuidText needId) uuidText a.candidate b.candidate ≤ 0

/-- `ORDER BY position`. -/
def byPosition (surfaces : List DirectorySurface) : List DirectorySurface :=
  sortBy (fun a b ↦ (a.position : ℤ) - b.position) surfaces

section Stored

variable {seededKey : String → String → String} {needId : ℕ} {surfaces : List DirectorySurface}

theorem byPosition_of_positions {start : ℕ}
    (h : surfaces.map (·.position) = List.range' start surfaces.length) :
    byPosition surfaces = surfaces := by
  have hsorted : (surfaces.map (·.position)).Pairwise (· < ·) := by
    rw [h]
    exact List.pairwise_lt_range'
  rw [List.pairwise_map] at hsorted
  have hle : surfaces.Pairwise fun a b ↦ (a.position : ℤ) - b.position ≤ 0 :=
    hsorted.imp fun hlt ↦ by omega
  exact hle.insertionSort_eq

/-- Ordering the candidates of a directory again, from any order, gives its order. -/
theorem StoredDirectory.reorder (h : StoredDirectory seededKey needId surfaces)
    (hkeys : ∀ a ∈ surfaces, ∀ b ∈ surfaces, a.providerId ≠ b.providerId →
      seededKey (uuidText needId) (uuidText a.providerId) ≠
        seededKey (uuidText needId) (uuidText b.providerId))
    {candidates : List DirectoryCandidate}
    (hperm : candidates.Perm (surfaces.map DirectorySurface.candidate)) :
    orderDirectoryCandidates seededKey (uuidText needId) uuidText candidates =
      surfaces.map DirectorySurface.candidate := by
  have hordered := perm_orderDirectoryCandidates seededKey (uuidText needId) uuidText candidates
  refine List.Perm.eq_of_pairwise (fun a b ha hb hab hba ↦ ?_)
    (pairwise_orderDirectoryCandidates seededKey (uuidText needId) uuidText candidates)
    (List.pairwise_map.mpr h.ordered) (hordered.trans hperm)
  rw [compareCandidates_nonpos_iff] at hab hba
  obtain ⟨x, hx, rfl⟩ := List.mem_map.mp ((hordered.trans hperm).mem_iff.mp ha)
  obtain ⟨y, hy, rfl⟩ := List.mem_map.mp hb
  have hcount : numberOfBigint x.surfacedCountSnapshot =
      numberOfBigint y.surfacedCountSnapshot := by
    rcases hab with hab | ⟨hab, -⟩
    · rcases hba with hba | ⟨hba, -⟩
      · exact absurd hab hba.not_gt
      · exact hba.symm
    · exact hab
  have hkey : seededKey (uuidText needId) (uuidText x.providerId) =
      seededKey (uuidText needId) (uuidText y.providerId) := by
    refine le_antisymm ?_ ?_
    · exact hab.elim (fun hlt ↦ absurd hcount hlt.ne) (·.2)
    · exact hba.elim (fun hlt ↦ absurd hcount.symm hlt.ne) (·.2)
  have hid : x.providerId = y.providerId := by
    by_contra hne
    exact hkeys x hx y hy hne hkey
  rw [DirectorySurface.candidate, DirectorySurface.candidate, hid, hcount]

variable {need : NeedRequest} {query : DirectoryQuery} {rows : List (DirectoryProviderRow × ℤ)}
  {candidates : List DirectoryCandidate}

theorem candidates_storedSurfaces {position : ℕ}
    (hread : ∀ candidate ∈ candidates,
      numberOfBigint (bigintOfNumber candidate.surfacedCount) = candidate.surfacedCount)
    (h : (storedSurfaces need query rows position candidates).length = candidates.length) :
    (storedSurfaces need query rows position candidates).map DirectorySurface.candidate =
    candidates ∧
      (storedSurfaces need query rows position candidates).map (·.position) =
        List.range' position candidates.length ∧
      ∀ surface ∈ storedSurfaces need query rows position candidates,
        surface.seed = uuidText need.id := by
  induction candidates generalizing position with
  | nil => exact ⟨rfl, rfl, List.forall_mem_nil _⟩
  | cons candidate candidates ih =>
    rw [List.forall_mem_cons] at hread
    rw [storedSurfaces] at h ⊢
    cases hrow : rows.find? (·.1.providerId = candidate.providerId) with
    | none =>
      rw [hrow] at h
      exact absurd h (by simp)
    | some row =>
      rw [hrow] at h
      obtain ⟨hcandidates, hpositions, hseeds⟩ := ih hread.2 (Nat.succ.inj h)
      have hcandidate : (need.surfaceRow query position candidate row.1).candidate = candidate :=
        congrArg (DirectoryCandidate.mk candidate.providerId) hread.1
      refine ⟨?_, ?_, List.forall_mem_cons.mpr ⟨rfl, hseeds⟩⟩
      · rw [List.map_cons, hcandidate, hcandidates]
      · rw [List.length_cons, List.range'_succ]
        exact congrArg _ hpositions

theorem read_orderedCandidates : ∀ candidate ∈ orderedCandidates seededKey need rows,
    numberOfBigint (bigintOfNumber candidate.surfacedCount) = candidate.surfacedCount := by
  intro candidate hcandidate
  rw [orderedCandidates, (perm_orderDirectoryCandidates _ _ _ _).mem_iff] at hcandidate
  obtain ⟨row, -, rfl⟩ := List.mem_map.mp hcandidate
  exact numberOfBigint_bigintOfNumber row.2

theorem storedDirectory_storedSurfaces
    (hlength : (storedSurfaces need query rows 1 (orderedCandidates seededKey need rows)).length =
      (orderedCandidates seededKey need rows).length)
    (hnodup : ((storedSurfaces need query rows 1 (orderedCandidates seededKey need rows)).map
      (·.providerId)).Nodup) :
    StoredDirectory seededKey need.id
      (storedSurfaces need query rows 1 (orderedCandidates seededKey need rows)) := by
  obtain ⟨hcandidates, hpositions, hseeds⟩ :=
    candidates_storedSurfaces read_orderedCandidates hlength
  refine ⟨hlength ▸ hpositions, hnodup, hseeds, ?_⟩
  have hordered := pairwise_orderDirectoryCandidates seededKey (uuidText need.id) uuidText
    (rows.map fun row ↦ ⟨row.1.providerId, numberOfBigint row.2⟩)
  rw [← orderedCandidates, ← hcandidates, List.pairwise_map] at hordered
  exact hordered

end Stored

/-! ## The invariant

In every state the stored directories are in order and the counters count their rows.
-/

/-- What holds of directories and counters in every state. -/
structure Replayable (seededKey : String → String → String) (db : Database) : Prop where
  directories : ∀ id need, db.need id = some need → need.directoryGeneratedAt ≠ none →
    StoredDirectory seededKey id (db.surfacesOf id)
  filters : ∀ id need, db.need id = some need → need.directoryGeneratedAt ≠ none →
    need.directoryProviderType ≠ none
  surfaces : ∀ surface ∈ db.surfaces, ∃ need, db.need surface.needRequestId = some need ∧
    need.directoryGeneratedAt ≠ none
  shown : ∀ surface ∈ db.surfaces, db.hasCounter surface.providerId = true
  counted : ∀ counter ∈ db.counters,
    counter.surfacedCount = db.surfaces.countP (·.providerId = counter.providerId)
  counters : ∀ provider ∈ db.providers, db.hasCounter provider.id = true

/-- Nothing is stored for a request without a directory. -/
theorem Replayable.surfacesOf_eq_nil {seededKey : String → String → String} {db : Database}
    (h : Replayable seededKey db) {id : ℕ} {state : NeedRequest} (hstate : db.need id = some state)
    (hfirst : state.directoryGeneratedAt = none) : db.surfacesOf id = [] := by
  refine List.filter_eq_nil_iff.mpr fun surface hsurface he ↦ ?_
  obtain ⟨need, hneed, hgenerated⟩ := h.surfaces surface hsurface
  rw [of_decide_eq_true he, hstate] at hneed
  obtain rfl := Option.some.inj hneed
  exact hgenerated hfirst

def Database.generate (state : NeedRequest) (query : DirectoryQuery) (t : ℤ)
    (stored : List DirectorySurface) (db : Database) : Database :=
  (db.updateNeed (state.generated query t)).showing stored (stored.map (·.providerId))

/-- What a transaction that holds the locks `held` and has drawn the numbers `drawn` can do to
directories and counters. -/
inductive DirectoryStep (seededKey : String → String → String) (held : LockKey → Prop)
    (drawn : ℕ → Prop) (db : Database) : Database → Prop where
  /-- A directory is shown again. -/
  | shown : DirectoryStep seededKey held drawn db db
  /-- A request arrives. -/
  | asked {db' : Database} {row : NeedRequest} (hnew : row.directoryGeneratedAt = none)
      (hneeds : db'.needs = db.needs ++ [row])
      (hsurfaces : db'.surfaces = db.surfaces) (hcounters : db'.counters = db.counters)
      (hproviders : db'.providers = db.providers) : DirectoryStep seededKey held drawn db db'
  /-- The directory of a request is generated. -/
  | generated {state : NeedRequest} {query : DirectoryQuery} {t : ℤ}
      {stored : List DirectorySurface}
      {auditEvents : List AuditEvent} (hheld : held (.needRequest state.id))
      (hstate : db.need state.id = some state) (hfirst : state.directoryGeneratedAt = none)
      (hstored : StoredDirectory seededKey state.id stored)
      (hneed : ∀ surface ∈ stored, surface.needRequestId = state.id)
      (hshown : ∀ surface ∈ stored, db.hasCounter surface.providerId = true) :
      DirectoryStep seededKey held drawn db
        (Database.insertAudit auditEvents (db.generate state query t stored))
  /-- A provider is created. -/
  | created {db' : Database} {row : Provider} (hdrawn : drawn row.id)
      (hfree : db.hasCounter row.id = false) (hneeds : db'.needs = db.needs)
      (hsurfaces : db'.surfaces = db.surfaces)
      (hcounters : db'.counters = db.counters ++ [⟨row.id, 0⟩])
      (hproviders : db'.providers = db.providers ++ [row]) :
      DirectoryStep seededKey held drawn db db'
  /-- Providers and services change. -/
  | changed {db' : Database} (hneeds : db'.needs = db.needs)
      (hsurfaces : db'.surfaces = db.surfaces)
      (hcounters : db'.counters = db.counters)
      (hproviders : ∀ provider' ∈ db'.providers, ∃ provider ∈ db.providers,
        provider.id = provider'.id) :
      DirectoryStep seededKey held drawn db db'

/-- What no transaction changes. -/
structure DirectoryKept (db db' : Database) : Prop where
  directories : ∀ id need, db.need id = some need → need.directoryGeneratedAt ≠ none →
    db'.need id = some need ∧ db'.surfacesOf id = db.surfacesOf id
  counters : ∀ id, db.hasCounter id = true → db'.hasCounter id = true

theorem DirectoryKept.refl (db : Database) : DirectoryKept db db :=
  ⟨fun _ _ h _ ↦ ⟨h, rfl⟩, fun _ h ↦ h⟩

theorem DirectoryKept.trans {db₁ db₂ db₃ : Database} (h₁ : DirectoryKept db₁ db₂)
    (h₂ : DirectoryKept db₂ db₃) : DirectoryKept db₁ db₃ where
  directories id need hneed hgenerated := by
    obtain ⟨hneed₂, hsurfaces₂⟩ := h₁.directories id need hneed hgenerated
    obtain ⟨hneed₃, hsurfaces₃⟩ := h₂.directories id need hneed₂ hgenerated
    exact ⟨hneed₃, hsurfaces₃.trans hsurfaces₂⟩
  counters id h := h₂.counters id (h₁.counters id h)

def DirectoryGuards (key : LockKey) (db db' : Database) : Prop :=
  match key with
  | .needRequest id => ∀ need, db.need id = some need →
    db'.need id = some need ∧ db'.surfacesOf id = db.surfacesOf id
  | _ => True

namespace DirectoryStep

variable {seededKey : String → String → String} {held : LockKey → Prop} {drawn : ℕ → Prop}
  {db db' : Database}

theorem surfacesOf_showing {stored : List DirectorySurface} {counted : List ℕ} (id : ℕ)
    (db : Database) : (db.showing stored counted).surfacesOf id =
      db.surfacesOf id ++ stored.filter (·.needRequestId = id) := List.filter_append ..

theorem need_asked {row : NeedRequest} (hneeds : db'.needs = db.needs ++ [row]) {id : ℕ}
    {need : NeedRequest} (h : db.need id = some need) : db'.need id = some need := by
  rw [Database.need, hneeds, lookupBy_append_singleton, ← Database.need, h, Option.some_or]

theorem surfacesOf_eq (hsurfaces : db'.surfaces = db.surfaces) (id : ℕ) :
    db'.surfacesOf id = db.surfacesOf id := by
  rw [Database.surfacesOf, hsurfaces, Database.surfacesOf]

theorem need_eq (hneeds : db'.needs = db.needs) (id : ℕ) : db'.need id = db.need id := by
  rw [Database.need, hneeds, Database.need]

theorem hasCounter_eq (hcounters : db'.counters = db.counters) (id : ℕ) :
    db'.hasCounter id = db.hasCounter id := by
  rw [Database.hasCounter, hcounters, Database.hasCounter]

theorem hasCounter_created {row : Provider}
    (hcounters : db'.counters = db.counters ++ [⟨row.id, 0⟩])
    (id : ℕ) : db'.hasCounter id = (db.hasCounter id || decide (row.id = id)) := by
  rw [Database.hasCounter, hcounters, List.any_append]
  simp [Database.hasCounter]

section Generate

variable (query : DirectoryQuery) (t : ℤ) {state : NeedRequest} {stored : List DirectorySurface}

theorem generate_of_ne (hneed : ∀ surface ∈ stored, surface.needRequestId = state.id) {id : ℕ}
    (hid : id ≠ state.id) : (db.generate state query t stored).need id = db.need id ∧
      (db.generate state query t stored).surfacesOf id = db.surfacesOf id := by
  constructor
  · exact (lookupBy_replaceBy id (state.generated query t) db.needs).trans (if_neg hid)
  · rw [Database.generate, surfacesOf_showing, List.filter_eq_nil_iff.mpr, List.append_nil]
    · rfl
    · intro surface hsurface
      simpa [hneed surface hsurface] using Ne.symm hid

theorem generate_self (hneed : ∀ surface ∈ stored, surface.needRequestId = state.id)
    (hstate : db.need state.id = some state) (hnone : db.surfacesOf state.id = []) :
    (db.generate state query t stored).need state.id = some (state.generated query t) ∧
      (db.generate state query t stored).surfacesOf state.id = stored := by
  constructor
  · exact (lookupBy_replaceBy state.id (state.generated query t) db.needs).trans
      ((if_pos rfl).trans (congrArg (Option.map _) hstate))
  · rw [Database.generate, surfacesOf_showing]
    have hbefore : (db.updateNeed (state.generated query t)).surfacesOf state.id = [] := hnone
    rw [hbefore, List.nil_append, List.filter_eq_self]
    exact fun surface hsurface ↦ decide_eq_true (hneed surface hsurface)

variable (state stored) in
theorem hasCounter_generate (id : ℕ) :
    (db.generate state query t stored).hasCounter id = db.hasCounter id :=
  Database.any_counters_showing id stored (stored.map DirectorySurface.providerId)
    (db.updateNeed (state.generated query t))

end Generate

/-- No transaction changes a directory or removes a counter. -/
theorem kept (h : DirectoryStep seededKey held drawn db db') : DirectoryKept db db' := by
  cases h with
  | shown => exact .refl _
  | asked _ hneeds hsurfaces hcounters _ =>
    refine ⟨fun id need hneed _ ↦ ⟨need_asked hneeds hneed, surfacesOf_eq hsurfaces id⟩,
      fun id hid ↦ ?_⟩
    rwa [hasCounter_eq hcounters]
  | @generated state query t stored auditEvents _ hstate hfirst _ hneed _ =>
    refine ⟨fun id need hid hgenerated ↦ ?_,
      fun id hid ↦ (hasCounter_generate query t state stored id).trans hid⟩
    by_cases he : id = state.id
    · subst he
      obtain rfl := Option.some.inj (hstate.symm.trans hid)
      exact absurd hfirst hgenerated
    · obtain ⟨hneed', hsurfaces⟩ := generate_of_ne query t hneed he
      exact ⟨hneed'.trans hid, hsurfaces⟩
  | created _ _ hneeds hsurfaces hcounters _ =>
    refine ⟨fun id need hneed _ ↦ ⟨(need_eq hneeds id).trans hneed, surfacesOf_eq hsurfaces id⟩,
      fun id hid ↦ ?_⟩
    rw [hasCounter_created hcounters, hid, Bool.true_or]
  | changed hneeds hsurfaces hcounters _ =>
    refine ⟨fun id need hneed _ ↦ ⟨(need_eq hneeds id).trans hneed, surfacesOf_eq hsurfaces id⟩,
      fun id hid ↦ ?_⟩
    rwa [hasCounter_eq hcounters]

/-- A request that somebody else has locked stays as it is. -/
theorem guards (h : DirectoryStep seededKey held drawn db db') {key : LockKey} (hkey : ¬ held key) :
    DirectoryGuards key db db' := by
  cases key with
  | needRequest id =>
    intro need hneed
    cases h with
    | shown => exact ⟨hneed, rfl⟩
    | asked _ hneeds hsurfaces _ _ => exact ⟨need_asked hneeds hneed, surfacesOf_eq hsurfaces id⟩
    | @generated state query t stored auditEvents hheld _ _ _ hfor _ =>
      have hid : id ≠ state.id := fun he ↦ hkey (he ▸ hheld)
      obtain ⟨hneed', hsurfaces⟩ := generate_of_ne query t hfor hid
      exact ⟨hneed'.trans hneed, hsurfaces⟩
    | created _ _ hneeds hsurfaces _ _ | changed hneeds hsurfaces _ _ =>
      exact ⟨(need_eq hneeds id).trans hneed, surfacesOf_eq hsurfaces id⟩
  | _ => exact trivial

/-- Nobody counts the showings of a number that the transaction has not drawn. -/
theorem uncounted (h : DirectoryStep seededKey held drawn db db') {n : ℕ} (hn : ¬ drawn n)
    (hfree : db.hasCounter n = false) : db'.hasCounter n = false := by
  cases h with
  | shown => exact hfree
  | asked _ _ _ hcounters _ | changed _ _ hcounters _ =>
    exact (hasCounter_eq hcounters n).trans hfree
  | @generated state query t stored =>
    exact (hasCounter_generate query t state stored n).trans hfree
  | @created _ row hdrawn _ _ _ hcounters _ =>
    have hne : row.id ≠ n := fun he ↦ hn (he ▸ hdrawn)
    rw [hasCounter_created hcounters, hfree, Bool.false_or, decide_eq_false hne]

/-- What only reads tables that stay as they are. -/
theorem replayable_of_eq (hinv : Replayable seededKey db) (hneeds : db'.needs = db.needs)
    (hsurfaces : db'.surfaces = db.surfaces) (hcounters : db'.counters = db.counters)
    (hproviders : ∀ provider' ∈ db'.providers, ∃ provider ∈ db.providers,
      provider.id = provider'.id) :
    Replayable seededKey db' where
  directories id need hneed hgenerated := by
    rw [need_eq hneeds] at hneed
    rw [surfacesOf_eq hsurfaces]
    exact hinv.directories id need hneed hgenerated
  filters id need hneed hgenerated := by
    rw [need_eq hneeds] at hneed
    exact hinv.filters id need hneed hgenerated
  surfaces surface hsurface := by
    rw [hsurfaces] at hsurface
    rw [need_eq hneeds]
    exact hinv.surfaces surface hsurface
  shown surface hsurface := by
    rw [hsurfaces] at hsurface
    rw [hasCounter_eq hcounters]
    exact hinv.shown surface hsurface
  counted counter hcounter := by
    rw [hcounters] at hcounter
    rw [hsurfaces]
    exact hinv.counted counter hcounter
  counters provider' hprovider' := by
    obtain ⟨provider, hprovider, hid⟩ := hproviders provider' hprovider'
    rw [hasCounter_eq hcounters, ← hid]
    exact hinv.counters provider hprovider

theorem replayable_asked (hinv : Replayable seededKey db) {row : NeedRequest}
    (hnew : row.directoryGeneratedAt = none)
    (hneeds : db'.needs = db.needs ++ [row]) (hsurfaces : db'.surfaces = db.surfaces)
    (hcounters : db'.counters = db.counters) (hproviders : db'.providers = db.providers) :
    Replayable seededKey db' := by
  have hold {id : ℕ} {need : NeedRequest} (hneed : db'.need id = some need)
      (hgenerated : need.directoryGeneratedAt ≠ none) : db.need id = some need := by
    rw [Database.need, hneeds, lookupBy_append_singleton, ← Database.need] at hneed
    cases hdb : db.need id with
    | some other =>
      rw [hdb, Option.some_or] at hneed
      exact hneed
    | none =>
      rw [hdb, Option.none_or] at hneed
      split at hneed
      · obtain rfl := Option.some.inj hneed
        exact absurd hnew hgenerated
      · exact absurd hneed (by simp)
  exact
    { directories := fun id need hneed hgenerated ↦ by
        rw [surfacesOf_eq hsurfaces]
        exact hinv.directories id need (hold hneed hgenerated) hgenerated
      filters := fun id need hneed hgenerated ↦
        hinv.filters id need (hold hneed hgenerated) hgenerated
      surfaces := fun surface hsurface ↦ by
        rw [hsurfaces] at hsurface
        obtain ⟨need, hneed, hgenerated⟩ := hinv.surfaces surface hsurface
        exact ⟨need, need_asked hneeds hneed, hgenerated⟩
      shown := fun surface hsurface ↦ by
        rw [hsurfaces] at hsurface
        rw [hasCounter_eq hcounters]
        exact hinv.shown surface hsurface
      counted := fun counter hcounter ↦ by
        rw [hcounters] at hcounter
        rw [hsurfaces]
        exact hinv.counted counter hcounter
      counters := fun provider hprovider ↦ by
        rw [hproviders] at hprovider
        rw [hasCounter_eq hcounters]
        exact hinv.counters provider hprovider }

theorem replayable_generate (hinv : Replayable seededKey db) (query : DirectoryQuery) (t : ℤ)
    {state : NeedRequest} {stored : List DirectorySurface} (hstate : db.need state.id = some state)
    (hfirst : state.directoryGeneratedAt = none)
    (hstored : StoredDirectory seededKey state.id stored)
    (hneed : ∀ surface ∈ stored, surface.needRequestId = state.id)
    (hshown : ∀ surface ∈ stored, db.hasCounter surface.providerId = true) :
    Replayable seededKey (db.generate state query t stored) := by
  have hnone := hinv.surfacesOf_eq_nil hstate hfirst
  obtain ⟨hself, hsurfaces⟩ := generate_self query t hneed hstate hnone
  have hother {id : ℕ} (hid : id ≠ state.id) :
      (db.generate state query t stored).need id = db.need id ∧
        (db.generate state query t stored).surfacesOf id = db.surfacesOf id :=
    generate_of_ne query t hneed hid
  exact
    { directories := fun id need hid hgenerated ↦ by
        by_cases he : id = state.id
        · rw [he, hsurfaces]
          exact hstored
        · rw [(hother he).1] at hid
          rw [(hother he).2]
          exact hinv.directories id need hid hgenerated
      filters := fun id need hid hgenerated ↦ by
        by_cases he : id = state.id
        · rw [he, hself, Option.some.injEq] at hid
          rw [← hid]
          exact Option.some_ne_none _
        · rw [(hother he).1] at hid
          exact hinv.filters id need hid hgenerated
      surfaces := fun surface hsurface ↦ by
        by_cases he : surface.needRequestId = state.id
        · rw [he, hself]
          exact ⟨_, rfl, Option.some_ne_none _⟩
        · rw [(hother he).1]
          rcases List.mem_append.mp hsurface with hsurface | hsurface
          · exact hinv.surfaces surface hsurface
          · exact absurd (hneed surface hsurface) he
      shown := fun surface hsurface ↦ by
        rw [hasCounter_generate query t state stored]
        exact (List.mem_append.mp hsurface).elim (hinv.shown surface) (hshown surface)
      counted := fun counter hcounter ↦ by
        obtain ⟨before, hbefore, rfl⟩ := List.mem_map.mp hcounter
        change before.surfacedCount + ((stored.map (·.providerId)).count before.providerId : ℤ) =
          ((db.surfaces ++ stored).countP (·.providerId = before.providerId) : ℕ)
        rw [hinv.counted before hbefore, List.countP_append, List.count_eq_countP, List.countP_map,
          Nat.cast_add]
        rfl
      counters := fun provider hprovider ↦ by
        rw [hasCounter_generate query t state stored]
        exact hinv.counters provider hprovider }

theorem replayable_created (hinv : Replayable seededKey db) {row : Provider}
    (hfree : db.hasCounter row.id = false) (hneeds : db'.needs = db.needs)
    (hsurfaces : db'.surfaces = db.surfaces)
    (hcounters : db'.counters = db.counters ++ [⟨row.id, 0⟩])
    (hproviders : db'.providers = db.providers ++ [row]) : Replayable seededKey db' where
  directories id need hneed hgenerated := by
    rw [need_eq hneeds] at hneed
    rw [surfacesOf_eq hsurfaces]
    exact hinv.directories id need hneed hgenerated
  filters id need hneed hgenerated := by
    rw [need_eq hneeds] at hneed
    exact hinv.filters id need hneed hgenerated
  surfaces surface hsurface := by
    rw [hsurfaces] at hsurface
    rw [need_eq hneeds]
    exact hinv.surfaces surface hsurface
  shown surface hsurface := by
    rw [hsurfaces] at hsurface
    rw [hasCounter_created hcounters, hinv.shown surface hsurface, Bool.true_or]
  counted counter hcounter := by
    rw [hcounters] at hcounter
    rw [hsurfaces]
    rcases List.mem_append.mp hcounter with hcounter | hcounter
    · exact hinv.counted counter hcounter
    · -- The new provider has not been shown: whoever has been shown has a counter.
      obtain rfl := List.mem_singleton.mp hcounter
      symm
      rw [Nat.cast_eq_zero, List.countP_eq_zero]
      intro surface hsurface he
      have hshown := hinv.shown surface hsurface
      rw [of_decide_eq_true he, hfree] at hshown
      exact absurd hshown (by simp)
  counters provider hprovider := by
    rw [hproviders] at hprovider
    rw [hasCounter_created hcounters]
    rcases List.mem_append.mp hprovider with hprovider | hprovider
    · rw [hinv.counters provider hprovider, Bool.true_or]
    · obtain rfl := List.mem_singleton.mp hprovider
      rw [decide_eq_true rfl, Bool.or_true]

/-- **Every transaction keeps the invariant.** -/
theorem replayable (h : DirectoryStep seededKey held drawn db db')
    (hinv : Replayable seededKey db) : Replayable seededKey db' := by
  cases h with
  | shown => exact hinv
  | asked hnew hneeds hsurfaces hcounters hproviders =>
    exact replayable_asked hinv hnew hneeds hsurfaces hcounters hproviders
  | generated _ hstate hfirst hstored hneed hshown =>
    refine replayable_of_eq (replayable_generate hinv _ _ hstate hfirst hstored hneed hshown)
      rfl rfl rfl fun provider hprovider ↦ ⟨provider, hprovider, rfl⟩
  | created _ hfree hneeds hsurfaces hcounters hproviders =>
    exact replayable_created hinv hfree hneeds hsurfaces hcounters hproviders
  | changed hneeds hsurfaces hcounters hproviders =>
    exact replayable_of_eq hinv hneeds hsurfaces hcounters hproviders

end DirectoryStep

end Nayasetu
