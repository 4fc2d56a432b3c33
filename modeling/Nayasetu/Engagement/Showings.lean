import Nayasetu.Engagement.Walks

/-!
# The walk through a directory

The loop that stores the ordered candidates adds one directory row for each and counts one showing
of its provider. What it adds depends on the candidates only (`storedSurfaces`); which showings it
counts depends on the counters it finds (`Counted`).
-/

namespace Nayasetu

open Values RowLock RowLock.Discipline Collections

/-! ## What is stored

The rows of a directory as a function of the ordered candidates.
-/

def NeedRequest.surfaceRow (need : NeedRequest) (query : DirectoryQuery) (position : ℕ)
    (candidate : DirectoryCandidate) (source : DirectoryProviderRow) : DirectorySurface where
  needRequestId := need.id
  providerId := candidate.providerId
  position := position
  seed := uuidText need.id
  surfacedCountSnapshot := bigintOfNumber candidate.surfacedCount
  providerSnapshot := source
  filterSnapshot := (query.providerType, query.minimumTier)

/-- The rows of the candidates, up to the first one that is not among the rows of the query. -/
def storedSurfaces (need : NeedRequest) (query : DirectoryQuery)
    (rows : List (DirectoryProviderRow × ℤ)) : ℕ → List DirectoryCandidate → List DirectorySurface
  | _, [] => []
  | position, candidate :: candidates =>
    match rows.find? (·.1.providerId = candidate.providerId) with
    | none => []
    | some source => need.surfaceRow query position candidate source.1 ::
        storedSurfaces need query rows (position + 1) candidates

theorem needRequestId_of_mem_storedSurfaces {need : NeedRequest} {query : DirectoryQuery}
    {rows : List (DirectoryProviderRow × ℤ)} {candidates : List DirectoryCandidate} {position : ℕ} :
    ∀ surface ∈ storedSurfaces need query rows position candidates,
      surface.needRequestId = need.id := by
  induction candidates generalizing position with
  | nil => exact List.forall_mem_nil _
  | cons candidate candidates ih =>
    rw [storedSurfaces]
    cases rows.find? (·.1.providerId = candidate.providerId) with
    | none => exact List.forall_mem_nil _
    | some source => exact List.forall_mem_cons.mpr ⟨rfl, ih⟩

/-- The counters after one more showing for each of `counted`. -/
def countShowings (counted : List ℕ) (counters : List ProviderSurfaceCounter) :
    List ProviderSurfaceCounter :=
  counters.map fun counter ↦
    { counter with surfacedCount := counter.surfacedCount + counted.count counter.providerId }

theorem countShowings_nil (counters : List ProviderSurfaceCounter) :
    countShowings [] counters = counters := by
  simp [countShowings]

theorem countShowings_append_singleton (counted : List ℕ) (providerId : ℕ)
    (counters : List ProviderSurfaceCounter) :
    (countShowings counted counters).map (fun counter ↦
        if counter.providerId = providerId then
          { counter with surfacedCount := counter.surfacedCount + 1 }
        else counter) = countShowings (counted ++ [providerId]) counters := by
  rw [countShowings, countShowings, List.map_map]
  refine List.map_congr_left fun counter _ ↦ ?_
  rw [Function.comp_apply, List.count_append, List.count_singleton]
  by_cases h : counter.providerId = providerId
  · simp [h, add_assoc]
  · simp [h, Ne.symm h]

/-- The database with more directory rows, and one more showing for each of `counted`. -/
def Database.showing (surfaces : List DirectorySurface) (counted : List ℕ) (db : Database) :
    Database :=
  { db with
    surfaces := db.surfaces ++ surfaces
    counters := countShowings counted db.counters }

theorem Database.showing_nil (db : Database) : db.showing [] [] = db := by
  rw [Database.showing, List.append_nil, countShowings_nil]

theorem Database.insertSurface_showing (surface : DirectorySurface)
    (surfaces : List DirectorySurface) (counted : List ℕ) (db : Database) :
    (db.showing surfaces counted).insertSurface surface =
      db.showing (surfaces ++ [surface]) counted := by
  rw [Database.insertSurface, Database.showing, Database.showing, List.append_assoc]

theorem Database.incrementCounter_showing (providerId : ℕ) (surfaces : List DirectorySurface)
    (counted : List ℕ) (db : Database) :
    (db.showing surfaces counted).incrementCounter providerId =
      db.showing surfaces (counted ++ [providerId]) :=
  congrArg (fun counters ↦
      ({ db with
          surfaces := db.surfaces ++ surfaces
          counters := counters } : Database))
    (countShowings_append_singleton counted providerId db.counters)

theorem Database.any_counters_showing (providerId : ℕ) (surfaces : List DirectorySurface)
    (counted : List ℕ) (db : Database) :
    (db.showing surfaces counted).counters.any (·.providerId = providerId) =
      db.counters.any (·.providerId = providerId) := by
  rw [Database.showing, countShowings, List.any_map]
  rfl

def Database.hasCounter (db : Database) (providerId : ℕ) : Bool :=
  db.counters.any (·.providerId = providerId)

theorem hasCounter_incrementCounter (providerId id : ℕ) (db : Database) :
    (db.incrementCounter providerId).hasCounter id = db.hasCounter id := by
  rw [Database.hasCounter, Database.incrementCounter, List.any_map]
  refine congrArg (db.counters.any ·) (funext fun counter ↦ ?_)
  rw [Function.comp_apply]
  split <;> rfl

/-! ## What is counted

A statement that raises a counter finds the counter or does not, and only the first is a showing.
-/

variable {Req : Type} {D : Discipline Database LockKey Req} {i : ℕ} {r : Req}
  {v w : View Database LockKey Req}

/-- The showings counted from one view to another: each under the lock of its counter, and left out
only where the counter was missing. -/
structure Counted (D : Discipline Database LockKey Req) (i : ℕ) (v w : View Database LockKey Req)
    (candidates : List DirectoryCandidate) (counted : List ℕ) : Prop where
  sublist : counted.Sublist (candidates.map (·.providerId))
  held : ∀ id ∈ counted, w.shared.holder (.surfaceCounter id) = some i
  missing : ∀ candidate ∈ candidates, candidate.providerId ∉ counted →
    ∃ s, D.Since i v.shared s ∧ D.Since i s w.shared ∧
      s.store.counters.any (·.providerId = candidate.providerId) = false

theorem Counted.nil : Counted D i v w [] [] :=
  ⟨.slnil, List.forall_mem_nil _, List.forall_mem_nil _⟩

theorem Counted.skip {u : View Database LockKey Req} {candidate : DirectoryCandidate}
    {candidates : List DirectoryCandidate} {counted : List ℕ}
    (h : Counted D i u w candidates counted)
    {s : Shared Database LockKey Req} (hvu : D.Since i v.shared u.shared)
    (hvs : D.Since i v.shared s)
    (hsw : D.Since i s w.shared)
    (hmissing : s.store.counters.any (·.providerId = candidate.providerId) = false) :
    Counted D i v w (candidate :: candidates) counted where
  sublist := h.sublist.cons _
  held := h.held
  missing := List.forall_mem_cons.mpr ⟨fun _ ↦ ⟨s, hvs, hsw, hmissing⟩, fun other hother hnot ↦ by
    obtain ⟨s', hus, hsw', hmissing'⟩ := h.missing other hother hnot
    exact ⟨s', hvu.trans hus, hsw', hmissing'⟩⟩

theorem Counted.count {u : View Database LockKey Req} {candidate : DirectoryCandidate}
    {candidates : List DirectoryCandidate} {counted : List ℕ}
    (h : Counted D i u w candidates counted)
    (hvu : D.Since i v.shared u.shared)
    (hlock : w.shared.holder (.surfaceCounter candidate.providerId) = some i) :
    Counted D i v w (candidate :: candidates) (candidate.providerId :: counted) where
  sublist := h.sublist.cons_cons _
  held := List.forall_mem_cons.mpr ⟨hlock, h.held⟩
  missing := List.forall_mem_cons.mpr ⟨fun hnot ↦ absurd List.mem_cons_self hnot,
    fun other hother hnot ↦ by
      obtain ⟨s', hus, hsw', hmissing'⟩ := h.missing other hother fun hmem ↦
        hnot (List.mem_cons_of_mem _ hmem)
      exact ⟨s', hvu.trans hus, hsw', hmissing'⟩⟩

/-! ## The loop

By induction from the end of the candidates, one pair of statements at a time.
-/

section Loop

/-- The showing is counted under the lock of the counter, or the counter was missing at some
moment. -/
theorem attempt_countShowing {providerId : ℕ} {Q : ℕ → View Database LockKey Req → Prop}
    (hzero : ∀ w s, D.Onward i v w → D.Since i v.shared s → D.Since i s w.shared →
      (v.pending s.store).counters.any (·.providerId = providerId) = false → Q 0 w)
    (hone : ∀ w,
      D.Onward i { v with pending := Database.incrementCounter providerId ∘ v.pending } w →
      w.shared.holder (.surfaceCounter providerId) = some i → Q 1 w) :
    D.Attempt i r Q Failure.Unconflicted (countShowing providerId) v := by
  refine attempt_bind (attempt_updateRow (fun w s hw hs hsw hmissing ↦ ?_) fun w hw hlock ↦ ?_)
  · refine attempt_bind (attempt_snapshot fun w' hw' _ ↦ ?_)
    refine attempt_bind (attempt_ensure trivial fun _ ↦ attempt_pure ?_)
    exact hzero w' s (hw.trans hw') hs (hsw.trans hw'.since) hmissing
  · refine attempt_bind (attempt_snapshot fun w' hw' _ ↦ ?_)
    refine attempt_bind (attempt_ensure trivial fun _ ↦ attempt_pure ?_)
    exact hone w' ⟨hw.since.trans hw'.since, hw'.inv, hw'.pending⟩ (hw'.since.holds _ hlock)

variable {need : NeedRequest} {query : DirectoryQuery} {rows : List (DirectoryProviderRow × ℤ)}

/-- The loop stores the rows of all candidates, of different providers, and counts their
showings. -/
theorem attempt_storeSurfaces {base : Database → Database} {candidates : List DirectoryCandidate}
    {position : ℕ} {earlier : List DirectorySurface} {counted : List ℕ}
    {Q : List DirectoryProviderRow → View Database LockKey Req → Prop}
    (hv : D.Inv v.shared) (hpending : v.pending = Database.showing earlier counted ∘ base)
    (hcounters : ∀ db, (base db).counters = db.counters)
    (hearlier : ∀ surface ∈ earlier, surface.needRequestId = need.id)
    (h : ∀ w more, D.Since i v.shared w.shared → D.Inv w.shared →
      w.pending = Database.showing (earlier ++ storedSurfaces need query rows position candidates)
        (counted ++ more) ∘ base →
      Counted D i v w candidates more →
      (storedSurfaces need query rows position candidates).length =
        candidates.length →
      ((earlier.map (·.providerId)).Nodup →
        ((earlier ++ storedSurfaces need query rows position candidates).map
          (·.providerId)).Nodup) →
      Q ((storedSurfaces need query rows position candidates).map (·.providerSnapshot)) w) :
    D.Attempt i r Q Failure.Unconflicted (storeSurfaces need query rows position candidates) v := by
  induction candidates generalizing position earlier counted v Q with
  | nil =>
    refine attempt_pure (h v [] (.refl _) hv ?_ .nil rfl fun hnodup ↦ ?_)
    · rw [hpending, storedSurfaces, List.append_nil, List.append_nil]
    · rw [storedSurfaces, List.append_nil]
      exact hnodup
  | cons candidate candidates ih =>
    rw [storeSurfaces]
    cases hsource : rows.find? (·.1.providerId = candidate.providerId) with
    | none => exact attempt_throw (by simp)
    | some source =>
      have hstored : storedSurfaces need query rows position (candidate :: candidates) =
          need.surfaceRow query position candidate source.1 ::
            storedSurfaces need query rows (position + 1) candidates := by
        rw [storedSurfaces, hsource]
      rw [hstored] at h
      refine attempt_bind (attempt_ensure trivial fun _ ↦ ?_)
      refine attempt_bind (attempt_snapshot fun w₁ hw₁ _ ↦ ?_)
      refine attempt_bind (attempt_ensure trivial fun hdistinct ↦ ?_)
      refine attempt_bind (attempt_write ?_)
      have hp₁ : Database.insertSurface (need.surfaceRow query position candidate source.1) ∘
          w₁.pending = Database.showing
            (earlier ++ [need.surfaceRow query position candidate source.1]) counted ∘ base := by
        rw [hw₁.pending, hpending]
        exact funext fun db ↦ Database.insertSurface_showing _ _ _ _
      have hnew : ∀ surface ∈ earlier ++ [need.surfaceRow query position candidate source.1],
          surface.needRequestId = need.id :=
        List.forall_mem_append.mpr ⟨hearlier, fun s hs ↦ List.mem_singleton.mp hs ▸ rfl⟩
      have hnodup (hdup : (earlier.map (·.providerId)).Nodup) :
          ((earlier ++ [need.surfaceRow query position candidate source.1]).map
            (·.providerId)).Nodup := by
        refine nodup_map_append hdup fun other hother ↦ ?_
        refine (hdistinct other (List.mem_filter.mpr ⟨?_, by simp [hearlier other hother]⟩)).1
        rw [hpending]
        exact List.mem_append_right _ hother
      refine attempt_bind (attempt_countShowing (fun w₂ s hw₂ hs hsw hmissing ↦ ?_)
        fun w₂ hw₂ hlock ↦ ?_)
      -- the counter is missing, so the showing is not counted
      · have hp₂ : w₂.pending = _ := hw₂.pending.trans hp₁
        refine attempt_bind
          (ih hw₂.inv hp₂ hnew fun w more hsince hinv hp hcounted hlength hdup ↦ ?_)
        refine attempt_pure (h w more ((hw₁.since.trans hw₂.since).trans hsince) hinv ?_ ?_ ?_ ?_)
        · rw [hp, List.append_assoc, List.singleton_append]
        · refine hcounted.skip (hw₁.since.trans hw₂.since) (hw₁.since.trans hs)
            (hsw.trans hsince) ?_
          have hany : ((Database.insertSurface (need.surfaceRow query position candidate source.1) ∘
            w₁.pending) s.store).counters.any (·.providerId = candidate.providerId) = false :=
            hmissing
          rw [hp₁, Function.comp_apply, Database.any_counters_showing, hcounters] at hany
          exact hany
        · rw [List.length_cons, List.length_cons, hlength]
        · intro hdup₀
          have := hdup (hnodup hdup₀)
          rwa [List.append_assoc, List.singleton_append] at this
      -- the counter is locked and raised
      · have hp₂ : w₂.pending =
            Database.showing (earlier ++ [need.surfaceRow query position candidate source.1])
              (counted ++ [candidate.providerId]) ∘ base := by
          refine hw₂.pending.trans ((congrArg (Database.incrementCounter _ ∘ ·) hp₁).trans ?_)
          exact funext fun db ↦ Database.incrementCounter_showing _ _ _ _
        refine attempt_bind
          (ih hw₂.inv hp₂ hnew fun w more hsince hinv hp hcounted hlength hdup ↦ ?_)
        refine attempt_pure (h w (candidate.providerId :: more)
          ((hw₁.since.trans hw₂.since).trans hsince) hinv ?_ ?_ ?_ ?_)
        · rw [hp, List.append_assoc, List.append_assoc, List.singleton_append,
            List.singleton_append]
        · exact hcounted.count (hw₁.since.trans hw₂.since) (hsince.holds _ hlock)
        · rw [List.length_cons, List.length_cons, hlength]
        · intro hdup₀
          have := hdup (hnodup hdup₀)
          rwa [List.append_assoc, List.singleton_append] at this

def NeedRequest.generated (state : NeedRequest) (query : DirectoryQuery) (timestamp : ℤ) :
    NeedRequest :=
  { state with
    directoryProviderType := some query.providerType
    directoryMinimumTier := some query.minimumTier
    directoryGeneratedAt := some timestamp }

/-- The rows of the query, in the order of the directory. -/
def orderedCandidates (seededKey : String → String → String) (need : NeedRequest)
    (rows : List (DirectoryProviderRow × ℤ)) : List DirectoryCandidate :=
  orderDirectoryCandidates seededKey (uuidText need.id) uuidText
    (rows.map fun row ↦ ⟨row.1.providerId, numberOfBigint row.2⟩)

theorem Database.updateNeed_showing {state filtered : NeedRequest} (hid : filtered.id = state.id)
    (surfaces : List DirectorySurface) (counted : List ℕ) (db : Database) :
    ((db.updateNeed filtered).showing surfaces counted).updateNeed state =
      (db.updateNeed state).showing surfaces counted :=
  congrArg (fun needs ↦
      ({ db with
          needs := needs
          surfaces := db.surfaces ++ surfaces
          counters := countShowings counted db.counters } : Database))
    (replaceBy_replaceBy hid db.needs)

/-- A new directory: the rows its query found at `s`, in its order. -/
theorem attempt_generateDirectory {config : AppConfig} {seededKey : String → String → String}
    {actor : ActorContext} {state : NeedRequest} {timestamp : ℤ}
    {Q : List DirectoryProviderRow → View Database LockKey Req → Prop}
    (hpending : v.pending = id)
    (h : ∀ u w rows counted, D.Onward i v u → D.Since i u.shared w.shared → D.Inv w.shared →
      rows.Perm (directoryCandidates config need query timestamp u.shared.store) →
      (∃ auditEvents, w.pending = Database.insertAudit auditEvents ∘
        Database.showing (storedSurfaces need query rows 1 (orderedCandidates seededKey need rows))
          counted ∘ Database.updateNeed (state.generated query timestamp)) →
      Counted D i u w (orderedCandidates seededKey need rows) counted →
      (storedSurfaces need query rows 1 (orderedCandidates seededKey need rows)).length =
        (orderedCandidates seededKey need rows).length →
      ((storedSurfaces need query rows 1 (orderedCandidates seededKey need rows)).map
        (·.providerId)).Nodup →
      Q ((storedSurfaces need query rows 1 (orderedCandidates seededKey need rows)).map
        (·.providerSnapshot)) w) :
    D.Attempt i r Q Failure.Unconflicted
      (generateDirectory config seededKey actor need state query timestamp) v := by
  refine attempt_bind (attempt_write ?_)
  rw [hpending, Function.comp_id]
  refine attempt_bind (attempt_snapshot fun w₁ hw₁ _ ↦ ?_)
  refine attempt_bind (attempt_bind (attempt_choose fun n ↦ attempt_pure ?_))
  have hp₁ : w₁.pending = Database.showing [] [] ∘ Database.updateNeed { state with
      directoryProviderType := some query.providerType
      directoryMinimumTier := some query.minimumTier } :=
    hw₁.pending.trans (funext fun db ↦ (Database.showing_nil _).symm)
  refine attempt_bind (attempt_storeSurfaces hw₁.inv hp₁ (fun _ ↦ rfl) (List.forall_mem_nil _)
    fun w₂ counted hsince hinv hp₂ hcounted hlength hnodup ↦ ?_)
  refine attempt_bind (attempt_write (attempt_bind (attempt_write (attempt_pure ?_))))
  have hfiltered : ({ state with
      directoryProviderType := some query.providerType
      directoryMinimumTier := some query.minimumTier } : NeedRequest).id =
      (state.generated query timestamp).id := rfl
  refine h ⟨w₁.shared, id, w₁.snapshot⟩ _ _ counted ⟨hw₁.since, hw₁.inv, hpending.symm⟩ hsince hinv
    (perm_anyOrder _ n) ⟨_, congrArg (Database.insertAudit _ ∘ ·) ?_⟩
    ⟨hcounted.sublist, hcounted.held, hcounted.missing⟩ hlength (hnodup List.nodup_nil)
  exact hp₂ ▸ funext (Database.updateNeed_showing hfiltered _ counted)

end Loop

end Nayasetu
