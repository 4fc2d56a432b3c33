import Mathlib.Algebra.Order.BigOperators.Group.List
import Nayasetu.Engagement.Showings
import Nayasetu.RowLock.Alone

/-!
# Who stands before whom

A directory is ordered by how often its providers have been shown, and generating it counts one
showing for each of them. So over the same providers the differences between the counts stay what
they are. What is compared are not the counts themselves but the numbers they are read as, and those
may meet where the counts differ: from `2 ^ 53` on a number stands for several counts. Two providers
ever change places if and only if their numbers meet before a count gets too large for its column:
`directory_swaps_iff`.
-/

namespace Nayasetu

open Values RowLock Collections

/-! ## A directory by itself

The route by itself, as an equation: the rows it leaves, the counters it raises and its answer.
-/

section Alone

variable {Req : Type} {i n : ℕ} {r : Req} {v w : View Database LockKey Req}

variable {need : NeedRequest} {query : DirectoryQuery} {rows : List (DirectoryProviderRow × ℤ)}

theorem providerId_storedSurfaces {candidates : List DirectoryCandidate} {position : ℕ}
    (hrows : ∀ candidate ∈ candidates,
      ∃ row, rows.find? (·.1.providerId = candidate.providerId) = some row) :
    (storedSurfaces need query rows position candidates).map (·.providerSnapshot.providerId) =
      candidates.map (·.providerId) := by
  induction candidates generalizing position with
  | nil => rfl
  | cons candidate candidates ih =>
    rw [List.forall_mem_cons] at hrows
    obtain ⟨⟨row, hrow⟩, hrest⟩ := hrows
    rw [storedSurfaces, hrow, List.map_cons, List.map_cons, ih hrest]
    have hid : row.1.providerId = candidate.providerId := by simpa using List.find?_some hrow
    exact congrArg (· :: _) hid

/-- A counter that nobody else has locked. -/
theorem alone_countShowing {providerId : ℕ}
    (hfree : v.shared.Available i (.surfaceCounter providerId))
    (hcounter : (v.pending v.shared.store).counters.any (·.providerId = providerId) = true)
    (hfits : ((v.pending v.shared.store).incrementCounter providerId).surfacedCount providerId ≤
      bigintMax) :
    alone i n r (countShowing providerId) v =
      some (.ok 1, ⟨v.shared.acquire i (.surfaceCounter providerId),
        Database.incrementCounter providerId ∘ v.pending, v.shared.store⟩) := by
  refine (alone_bind (alone_updateRow hfree hcounter)).trans ((alone_bind alone_snapshot).trans ?_)
  exact (alone_bind (alone_ensure hfits)).trans rfl

theorem surfacedCount_showing (surfaces : List DirectorySurface) (counted : List ℕ) {db : Database}
    {id : ℕ} (hcounter : db.counters.any (·.providerId = id) = true) :
    (db.showing surfaces counted).surfacedCount id = db.surfacedCount id + counted.count id := by
  obtain ⟨counter, hfind⟩ := Option.isSome_iff_exists.mp
    (List.find?_isSome.mpr (List.any_eq_true.mp hcounter))
  have hcounterId : counter.providerId = id := by simpa using List.find?_some hfind
  rw [Database.surfacedCount, Database.surfacedCount, Database.showing,
    countShowings, List.find?_map]
  simp only [Function.comp_def, hfind, Option.map_some, Option.getD_some, hcounterId]

variable (query rows) in
/-- The loop of a directory that nobody contends with stores and counts every candidate. -/
theorem alone_storeSurfaces {base : Database → Database} (position : ℕ)
    (candidates : List DirectoryCandidate) {earlier : List DirectorySurface} {counted : List ℕ}
    (hpending : v.pending = Database.showing earlier counted ∘ base)
    (hbase : ∀ db, (base db).counters = db.counters ∧ (base db).surfaces = db.surfaces)
    (hnew : ∀ surface ∈ v.shared.store.surfaces, surface.needRequestId ≠ need.id)
    (hearlier : ∀ surface ∈ earlier, surface.position < position ∧
      surface.providerId ∉ candidates.map (·.providerId))
    (hcounted : ∀ id ∈ counted, id ∉ candidates.map (·.providerId))
    (hnodup : (candidates.map (·.providerId)).Nodup)
    (hrows : ∀ candidate ∈ candidates,
      ∃ row, rows.find? (·.1.providerId = candidate.providerId) = some row)
    (hcounters : ∀ candidate ∈ candidates,
      v.shared.store.counters.any (·.providerId = candidate.providerId) = true)
    (hstorable : ∀ candidate ∈ candidates, bigintOfNumber candidate.surfacedCount ≤ bigintMax)
    (hfits : ∀ candidate ∈ candidates,
      v.shared.store.surfacedCount candidate.providerId < bigintMax)
    (hfree : ∀ k, v.shared.Available i k) :
    ∃ w, alone i n r (storeSurfaces need query rows position candidates) v =
        some (.ok ((storedSurfaces need query rows position candidates).map (·.providerSnapshot)),
          w) ∧
      OnlyLocks i v.shared w.shared ∧ w.pending =
        Database.showing (earlier ++ storedSurfaces need query rows position candidates)
          (counted ++ candidates.map (·.providerId)) ∘ base := by
  induction candidates generalizing position earlier counted v with
  | nil =>
    refine ⟨v, rfl, .refl _, ?_⟩
    rw [hpending, storedSurfaces, List.map_nil, List.append_nil, List.append_nil]
  | cons candidate candidates ih =>
    rw [List.forall_mem_cons] at hrows hcounters hstorable hfits
    rw [List.map_cons, List.nodup_cons] at hnodup
    obtain ⟨⟨row, hrow⟩, hrest⟩ := hrows
    have hstored : storedSurfaces need query rows position (candidate :: candidates) =
        need.surfaceRow query position candidate row.1 ::
          storedSurfaces need query rows (position + 1) candidates := by
      rw [storedSurfaces, hrow]
    -- neither the provider nor the position is taken: the rows so far are those of `earlier`
    have hdistinct : ∀ other ∈ (v.pending v.shared.store).surfacesOf need.id,
        other.providerId ≠ candidate.providerId ∧ other.position ≠ position := by
      intro other hother
      rw [hpending] at hother
      obtain ⟨hmem, hneed⟩ := List.mem_filter.mp hother
      rcases List.mem_append.mp hmem with hmem | hmem
      · exact absurd (of_decide_eq_true hneed) (hnew other ((hbase v.shared.store).2 ▸ hmem))
      · obtain ⟨hposition, hid⟩ := hearlier other hmem
        exact ⟨fun he ↦ hid (he ▸ List.mem_cons_self), hposition.ne⟩
    have hinserted (db : Database) :
        (v.pending db).insertSurface (need.surfaceRow query position candidate row.1) =
          (base db).showing
            (earlier ++ [need.surfaceRow query position candidate row.1]) counted := by
      rw [hpending, Function.comp_apply, Database.insertSurface_showing]
    have hcounter : (Database.insertSurface (need.surfaceRow query position candidate row.1)
        (v.pending v.shared.store)).counters.any (·.providerId = candidate.providerId) = true := by
      rw [hinserted, Database.any_counters_showing, (hbase _).1]
      exact hcounters.1
    -- the counter is raised once, and has room for it
    have hcount : ((Database.insertSurface (need.surfaceRow query position candidate row.1)
        (v.pending v.shared.store)).incrementCounter candidate.providerId).surfacedCount
          candidate.providerId ≤ bigintMax := by
      have hbefore : (base v.shared.store).surfacedCount candidate.providerId =
          v.shared.store.surfacedCount candidate.providerId := by
        rw [Database.surfacedCount, (hbase _).1]
        rfl
      have hfresh : counted.count candidate.providerId = 0 :=
        List.count_eq_zero.mpr fun hmem ↦ hcounted _ hmem List.mem_cons_self
      rw [hinserted, Database.incrementCounter_showing, surfacedCount_showing, hbefore,
        List.count_append, hfresh, List.count_singleton_self]
      · exact hfits.1
      · rw [(hbase _).1]
        exact hcounters.1
    have hcounts : alone i n r (countShowing candidate.providerId)
        ⟨v.shared,
          Database.insertSurface (need.surfaceRow query position candidate row.1) ∘ v.pending,
          v.shared.store⟩ =
        some (.ok 1,
          ⟨v.shared.acquire i (.surfaceCounter candidate.providerId), _, v.shared.store⟩) :=
      alone_countShowing (hfree _) hcounter hcount
    have hpending' : Database.incrementCounter candidate.providerId ∘
        (Database.insertSurface (need.surfaceRow query position candidate row.1) ∘ v.pending) =
        Database.showing (earlier ++ [need.surfaceRow query position candidate row.1])
          (counted ++ [candidate.providerId]) ∘ base :=
      funext fun db ↦ (congrArg _ (hinserted db)).trans (Database.incrementCounter_showing _ _ _ _)
    have hlocks : OnlyLocks i v.shared
        (v.shared.acquire i (.surfaceCounter candidate.providerId)) := .acquire _
    have hearlier' : ∀ surface ∈ earlier ++ [need.surfaceRow query position candidate row.1],
        surface.position < position + 1 ∧ surface.providerId ∉ candidates.map (·.providerId) := by
      refine List.forall_mem_append.mpr ⟨fun surface hsurface ↦ ?_, fun surface hsurface ↦ ?_⟩
      · obtain ⟨hposition, hid⟩ := hearlier surface hsurface
        exact ⟨hposition.trans (Nat.lt_succ_self _), fun hmem ↦ hid (List.mem_cons_of_mem _ hmem)⟩
      · obtain rfl := List.mem_singleton.mp hsurface
        exact ⟨Nat.lt_succ_self _, hnodup.1⟩
    have hcounted' : ∀ id ∈ counted ++ [candidate.providerId],
        id ∉ candidates.map (·.providerId) := by
      refine List.forall_mem_append.mpr ⟨fun id hid hmem ↦ ?_, fun id hid ↦ ?_⟩
      · exact hcounted id hid (List.mem_cons_of_mem _ hmem)
      · exact List.mem_singleton.mp hid ▸ hnodup.1
    -- the rest of the loop goes on with one row and one showing more
    obtain ⟨w, hw, hlocks', hp⟩ := ih (position + 1)
      (v := ⟨v.shared.acquire i (.surfaceCounter candidate.providerId), _, v.shared.store⟩)
      hpending' hnew hearlier' hcounted' hnodup.2 hrest hcounters.2 hstorable.2 hfits.2
      (fun k ↦ hlocks.available (hfree k))
    refine ⟨w, ?_, hlocks.trans hlocks', ?_⟩
    · rw [storeSurfaces, hrow, hstored]
      refine (alone_bind (alone_ensure hstorable.1)).trans ((alone_bind alone_snapshot).trans ?_)
      refine (alone_bind (alone_ensure hdistinct)).trans ?_
      exact (alone_bind hcounts).trans ((alone_bind hw).trans rfl)
    · rw [hp, hstored, List.append_assoc, List.append_assoc, List.map_cons]
      rfl

theorem of_alone_storeSurfaces {candidates : List DirectoryCandidate} {position : ℕ}
    {shown : List DirectoryProviderRow}
    (h : alone i n r (storeSurfaces need query rows position candidates) v = some (.ok shown, w)) :
    ∀ candidate ∈ candidates, bigintOfNumber candidate.surfacedCount ≤ bigintMax := by
  induction candidates generalizing position v w shown with
  | nil => exact List.forall_mem_nil _
  | cons candidate candidates ih =>
    rw [storeSurfaces] at h
    cases hrow : rows.find? (·.1.providerId = candidate.providerId) with
    | none =>
      rw [hrow] at h
      cases h
    | some source =>
      rw [hrow] at h
      obtain ⟨hstorable, h⟩ := of_alone_ensure_bind h
      obtain ⟨_, _, -, h⟩ := exists_of_alone_bind h
      obtain ⟨-, h⟩ := of_alone_ensure_bind h
      obtain ⟨_, _, -, h⟩ := exists_of_alone_bind h
      obtain ⟨_, _, -, h⟩ := exists_of_alone_bind h
      obtain ⟨_, _, hrest, -⟩ := exists_of_alone_bind h
      exact List.forall_mem_cons.mpr ⟨hstorable, ih hrest⟩

variable {config : AppConfig} {seededKey : String → String → String} {actor : ActorContext}

theorem find_of_mem_orderedCandidates {candidate : DirectoryCandidate}
    (h : candidate ∈ orderedCandidates seededKey need rows) :
    ∃ row, rows.find? (·.1.providerId = candidate.providerId) = some row := by
  rw [orderedCandidates, (perm_orderDirectoryCandidates _ _ _ _).mem_iff] at h
  obtain ⟨row, hrow, rfl⟩ := List.mem_map.mp h
  exact Option.isSome_iff_exists.mp (List.find?_isSome.mpr ⟨row, hrow, by simp⟩)

variable (seededKey need rows) in
theorem map_providerId_orderedCandidates :
    ((orderedCandidates seededKey need rows).map (·.providerId)).Perm
      (rows.map (·.1.providerId)) := by
  refine ((perm_orderDirectoryCandidates _ _ _ _).map _).trans ?_
  rw [List.map_map]
  exact .refl _

theorem surfacedCount_of_mem_directoryCandidates {t : ℤ} {db : Database}
    {row : DirectoryProviderRow × ℤ} (h : row ∈ directoryCandidates config need query t db) :
    row.2 = db.surfacedCount row.1.providerId ∧ config.providerActiveStatuses ≠ [] := by
  obtain ⟨provider, -, hrow⟩ := List.mem_flatMap.mp h
  obtain ⟨service, hservice, rfl⟩ := List.mem_map.mp hrow
  refine ⟨rfl, fun hnone ↦ ?_⟩
  have hsuits : provider.Suits service config need query t := by
    simpa using (Bool.and_eq_true_iff.mp (List.mem_filter.mp hservice).2).2
  exact List.not_mem_nil (hnone ▸ hsuits.2.1)

variable (seededKey actor) in
/-- A new directory that nobody contends for shows all candidates of its query. -/
theorem alone_generateDirectory (state : NeedRequest) {t : ℤ} (hpending : v.pending = id)
    (hnew : ∀ surface ∈ v.shared.store.surfaces, surface.needRequestId ≠ need.id)
    (hnodup : ((directoryCandidates config need query t v.shared.store).map
      (·.1.providerId)).Nodup)
    (hcounters : ∀ row ∈ directoryCandidates config need query t v.shared.store,
      v.shared.store.counters.any (·.providerId = row.1.providerId) = true)
    (hstorable : ∀ row ∈ directoryCandidates config need query t v.shared.store,
      0 ≤ row.2 ∧ row.2 ≤ storableMax)
    (hfree : ∀ k, v.shared.Available i k) :
    ∃ w rows auditEvents,
      rows.Perm (directoryCandidates config need query t v.shared.store) ∧
      alone i n r (generateDirectory config seededKey actor need state query t) v =
        some (.ok ((storedSurfaces need query rows 1 (orderedCandidates seededKey need rows)).map
          (·.providerSnapshot)), w) ∧
      OnlyLocks i v.shared w.shared ∧ w.pending = Database.insertAudit auditEvents ∘
        Database.showing (storedSurfaces need query rows 1 (orderedCandidates seededKey need rows))
          ((orderedCandidates seededKey need rows).map (·.providerId)) ∘
            Database.updateNeed (state.generated query t) := by
  have hrows := perm_anyOrder (directoryCandidates config need query t v.shared.store) n
  -- the query returns its rows in an order of its own
  generalize hpicked : ((directoryCandidates config need query t v.shared.store).permutations[
    n]?).getD (directoryCandidates config need query t v.shared.store) = rows at hrows
  have hids := (map_providerId_orderedCandidates need rows seededKey).trans (hrows.map _)
  have hfound : ∀ candidate ∈ orderedCandidates seededKey need rows,
      ∃ row ∈ directoryCandidates config need query t v.shared.store,
        candidate = ⟨row.1.providerId, numberOfBigint row.2⟩ := by
    intro candidate hcandidate
    rw [orderedCandidates, (perm_orderDirectoryCandidates _ _ _ _).mem_iff] at hcandidate
    obtain ⟨row, hrow, rfl⟩ := List.mem_map.mp hcandidate
    exact ⟨row, hrows.mem_iff.mp hrow, rfl⟩
  have hcounted : ∀ candidate ∈ orderedCandidates seededKey need rows,
      v.shared.store.counters.any (·.providerId = candidate.providerId) = true := by
    intro candidate hcandidate
    obtain ⟨row, hrow, rfl⟩ := hfound candidate hcandidate
    exact hcounters row hrow
  have hstored : ∀ candidate ∈ orderedCandidates seededKey need rows,
      bigintOfNumber candidate.surfacedCount ≤ bigintMax := by
    intro candidate hcandidate
    obtain ⟨row, hrow, rfl⟩ := hfound candidate hcandidate
    exact (bigintOfNumber_le_iff (hstorable row hrow).1).mpr (hstorable row hrow).2
  have hfits : ∀ candidate ∈ orderedCandidates seededKey need rows,
      v.shared.store.surfacedCount candidate.providerId < bigintMax := by
    intro candidate hcandidate
    obtain ⟨row, hrow, rfl⟩ := hfound candidate hcandidate
    rw [← (surfacedCount_of_mem_directoryCandidates hrow).1]
    exact (hstorable row hrow).2.trans_lt storableMax_lt
  -- the filters are written first, and overwritten with the time of the directory at the end
  let filtered : NeedRequest := { state with
    directoryProviderType := some query.providerType
    directoryMinimumTier := some query.minimumTier }
  have hfiltered : Database.updateNeed filtered =
      Database.showing [] [] ∘ Database.updateNeed filtered :=
    funext fun db ↦ (Database.showing_nil _).symm
  obtain ⟨w, hw, hlocks, hp⟩ := alone_storeSurfaces (n := n) (r := r) query rows
    (v := ⟨v.shared, Database.updateNeed filtered, v.shared.store⟩) 1
    (orderedCandidates seededKey need rows) hfiltered (fun _ ↦ ⟨rfl, rfl⟩) hnew
      (List.forall_mem_nil _)
    (List.forall_mem_nil _) (hids.nodup_iff.mpr hnodup)
    (fun _ ↦ find_of_mem_orderedCandidates) hcounted
    hstored hfits hfree
  have hsame : filtered.id = (state.generated query t).id := rfl
  have hupdated : Database.updateNeed (state.generated query t) ∘ w.pending =
      Database.showing (storedSurfaces need query rows 1 (orderedCandidates seededKey need rows))
        ((orderedCandidates seededKey need rows).map (·.providerId)) ∘
          Database.updateNeed (state.generated query t) := by
    rw [hp]
    exact funext fun db ↦ Database.updateNeed_showing hsame _ _ db
  let auditEvents := [auditEvent actor {
    action := "directory.surfaced", entityType := "need_request", entityId := uuidText need.id,
    afterSummary := some (.object
      [("providerCount", .number (.ofInt (orderedCandidates seededKey need rows).length)),
        ("ordering", .string "ROTATED"), ("seed", .string (uuidText need.id))]) }]
  refine ⟨⟨w.shared, Database.insertAudit auditEvents ∘
      Database.updateNeed (state.generated query t) ∘ w.pending, w.snapshot⟩, rows,
    auditEvents, hrows, ?_, hlocks, congrArg (Database.insertAudit auditEvents ∘ ·) hupdated⟩
  rw [generateDirectory]
  have hwrite : alone i n r (write (Database.updateNeed filtered) : Tx Unit) v =
      some (.ok (), ⟨v.shared, Database.updateNeed filtered, v.snapshot⟩) := by
    rw [write, alone, hpending]
    rfl
  have horder : alone i n r
      (anyOrder
        (directoryCandidates config need query t (Database.updateNeed filtered v.shared.store)))
        ⟨v.shared, Database.updateNeed filtered, v.shared.store⟩ =
      some (.ok rows, ⟨v.shared, Database.updateNeed filtered, v.shared.store⟩) := by
    rw [← hpicked]
    rfl
  refine (alone_bind hwrite).trans
    ((alone_bind alone_snapshot).trans ((alone_bind horder).trans ?_))
  exact (alone_bind hw).trans rfl

theorem of_alone_generateDirectory {state : NeedRequest} {t : ℤ} {shown : List DirectoryProviderRow}
    (hpending : v.pending = id)
    (h : alone i n r (generateDirectory config seededKey actor need state query t) v =
      some (.ok shown, w)) :
    ∀ row ∈ directoryCandidates config need query t v.shared.store,
      bigintOfNumber (numberOfBigint row.2) ≤ bigintMax := by
  intro row hrow
  rw [generateDirectory] at h
  obtain ⟨_, _, hwrite, h⟩ := exists_of_alone_bind h
  cases hwrite
  obtain ⟨_, _, hsnapshot, h⟩ := exists_of_alone_bind h
  cases hsnapshot
  obtain ⟨rows, _, horder, h⟩ := exists_of_alone_bind h
  cases horder
  obtain ⟨_, _, hstore, -⟩ := exists_of_alone_bind h
  refine of_alone_storeSurfaces hstore ⟨row.1.providerId, numberOfBigint row.2⟩ ?_
  refine (perm_orderDirectoryCandidates _ _ _ _).mem_iff.mpr (List.mem_map.mpr ⟨row, ?_, rfl⟩)
  rw [hpending]
  exact (perm_anyOrder _ n).mem_iff.mpr hrow

section Directory

variable {decision : EligibilityDecision}

/-- What a citizen asks for when the directory of a request is not generated yet. -/
structure FirstDirectory (config : AppConfig) (actor : ActorContext) (need : NeedRequest)
    (decision : EligibilityDecision) (query : DirectoryQuery) (db : Database) : Prop where
  found : db.needWithRoute need.id = some (need, decision)
  acts : actor.ActsFor need.citizenUserId db
  bounded : BoundedText 100 query.providerType
  paid : decision.route = .paid
  statuses : config.providerActiveStatuses ≠ []
  first : need.directoryProviderType = none ∧ need.directoryGeneratedAt = none

variable (n r seededKey) in
theorem alone_directoryInTransaction_eq (t : ℤ) (snap : Database) (hpending : v.pending = id)
    (h : FirstDirectory config actor need decision query v.shared.store)
    (hfree : v.shared.Available i (.needRequest need.id)) :
    alone i n r (directoryInTransaction config seededKey actor need query t)
        ⟨v.shared, v.pending, snap⟩ =
      alone i n r (generateDirectory config seededKey actor need need query t)
        ⟨v.shared.acquire i (.needRequest need.id), v.pending, v.shared.store⟩ := by
  have hrow : (v.pending v.shared.store).need need.id = some need := by
    rw [hpending]
    exact (needWithRoute_eq_some h.found).1
  have hacts : actor.ActsFor need.citizenUserId (v.pending v.shared.store) := by
    rw [hpending]
    exact h.acts
  obtain ⟨snap', hread⟩ := alone_assertCitizenAuthority (i := i) (n := n) (r := r)
    (v := ⟨v.shared, v.pending, snap⟩) hacts
  rw [directoryInTransaction]
  refine (alone_bind hread).trans ((alone_bind (alone_selectForUpdate hfree hrow)).trans ?_)
  refine (alone_bind (alone_ensure (.inl h.first.1))).trans ?_
  rw [if_neg (by simp [h.first.2])]

variable (i n r seededKey) in
/-- The request goes on to its transaction. -/
theorem exists_alone_directory_eq (hpending : v.pending = id)
    (h : FirstDirectory config actor need decision query v.shared.store) :
    ∃ snap, alone i n r (directory config seededKey actor need.id query) v =
      alone i n r (do
        let providers ← withTransaction (directoryInTransaction config seededKey actor need query)
        return (need, providers)) ⟨v.shared, v.pending, snap⟩ := by
  have hstored : (v.pending v.shared.store).needWithRoute need.id = some (need, decision) := by
    rw [hpending]
    exact h.found
  have hacts : actor.ActsFor need.citizenUserId (v.pending v.shared.store) := by
    rw [hpending]
    exact h.acts
  have htype : actor.actorType ∈ [Role.citizen, .operator] := by
    rcases h.acts with ⟨h, -⟩ | ⟨h, -⟩ <;> simp [h]
  obtain ⟨snap, hread⟩ := alone_assertCitizenAuthority (i := i) (n := n) (r := r)
    (v := { v with snapshot := v.shared.store }) hacts
  refine ⟨snap, ?_⟩
  rw [directory]
  refine (alone_bind (alone_ensure htype)).trans ((alone_bind (alone_ensure h.bounded)).trans ?_)
  refine (alone_bind alone_snapshot).trans ?_
  rw [hstored]
  refine (alone_bind hread).trans ((alone_bind (alone_ensure h.paid)).trans ?_)
  exact alone_bind (alone_ensure h.statuses)

variable (seededKey) in
/-- A new directory that nobody contends for is shown to the citizen. -/
theorem alone_directory (hpending : v.pending = id)
    (h : FirstDirectory config actor need decision query v.shared.store)
    (hnew : ∀ surface ∈ v.shared.store.surfaces, surface.needRequestId ≠ need.id)
    (hnodup : ((directoryCandidates config need query v.shared.clock v.shared.store).map
      (·.1.providerId)).Nodup)
    (hcounters : ∀ row ∈ directoryCandidates config need query v.shared.clock v.shared.store,
      v.shared.store.counters.any (·.providerId = row.1.providerId) = true)
    (hstorable : ∀ row ∈ directoryCandidates config need query v.shared.clock v.shared.store,
      0 ≤ row.2 ∧ row.2 ≤ storableMax)
    (hfree : ∀ k, v.shared.Available i k) :
    ∃ w rows auditEvents,
      rows.Perm (directoryCandidates config need query v.shared.clock v.shared.store) ∧
      alone i n r (directory config seededKey actor need.id query) v =
        some (.ok (need, (storedSurfaces need query rows 1
          (orderedCandidates seededKey need rows)).map (·.providerSnapshot)), w) ∧
      w.shared.store = Database.insertAudit auditEvents (Database.showing
        (storedSurfaces need query rows 1 (orderedCandidates seededKey need rows))
        ((orderedCandidates seededKey need rows).map (·.providerId))
        (Database.updateNeed (need.generated query v.shared.clock) v.shared.store)) := by
  have hlocks : OnlyLocks i v.shared (v.shared.acquire i (.needRequest need.id)) := .acquire _
  obtain ⟨w, rows, auditEvents, hrows, hw, hlocks', hp⟩ :=
    alone_generateDirectory (n := n) (r := r) seededKey actor need
      (v := ⟨v.shared.acquire i (.needRequest need.id), v.pending, v.shared.store⟩)
      hpending hnew hnodup hcounters hstorable fun k ↦ hlocks.available (hfree k)
  obtain ⟨snap, hdirectory⟩ := exists_alone_directory_eq i n r seededKey hpending h
  have htransaction :=
    (alone_directoryInTransaction_eq n r seededKey v.shared.clock snap hpending h (hfree _)).trans
      hw
  refine ⟨⟨w.shared.commit i r w.snapshot w.pending, id, w.snapshot⟩, rows,
    auditEvents, hrows, ?_, ?_⟩
  · exact hdirectory.trans ((alone_bind (alone_withTransaction htransaction)).trans rfl)
  · change w.pending w.shared.store = _
    rw [hp, hlocks'.store]
    rfl

theorem of_alone_directory {shown : NeedRequest × List DirectoryProviderRow}
    (hpending : v.pending = id)
    (h : FirstDirectory config actor need decision query v.shared.store)
    (hfree : v.shared.Available i (.needRequest need.id))
    (hrun : alone i n r (directory config seededKey actor need.id query) v = some (.ok shown, w)) :
    ∀ row ∈ directoryCandidates config need query v.shared.clock v.shared.store,
      bigintOfNumber (numberOfBigint row.2) ≤ bigintMax := by
  obtain ⟨snap, hdirectory⟩ := exists_alone_directory_eq i n r seededKey hpending h
  rw [hdirectory] at hrun
  obtain ⟨_, _, htransaction, -⟩ := exists_of_alone_bind hrun
  obtain ⟨u, hgenerate, -⟩ := exists_of_alone_withTransaction htransaction
  have hsame := alone_directoryInTransaction_eq n r seededKey v.shared.clock snap hpending h hfree
  exact of_alone_generateDirectory (v := ⟨v.shared.acquire i (.needRequest need.id), v.pending,
    v.shared.store⟩) hpending (hsame.symm.trans hgenerate)

end Directory

end Alone

/-! ## Directories one after another

A run of first directories, each of its own request, with nothing else in between.
-/

/-- A request for paid help arrives. -/
def Database.ask (need : NeedRequest) (decision : EligibilityDecision) (db : Database) : Database :=
  (db.insertNeed need).insertDecision decision

/-- The request is new: it has no directory yet, and nothing stored is about it. -/
structure NeedRequest.New (need : NeedRequest) (decision : EligibilityDecision) (db : Database) :
    Prop where
  unasked : db.need need.id = none
  undecided : db.decision need.id = none
  unshown : ∀ surface ∈ db.surfaces, surface.needRequestId ≠ need.id
  decided : decision.needRequestId = need.id
  paid : decision.route = .paid
  first : need.directoryProviderType = none ∧ need.directoryGeneratedAt = none

section Showings

variable (config : AppConfig) (seededKey : String → String → String) (ids : List ℕ)

/-- New requests one after another, each of which is shown a directory of exactly the providers
`ids`; the orders of the directories. -/
inductive Showings : Database → List (List ℕ) → Prop where
  | done {db : Database} : Showings db []
  | next {db : Database} {need : NeedRequest} {decision : EligibilityDecision} {t : ℤ} {n : ℕ}
      {actor : ActorContext} {query : DirectoryQuery} {found : NeedRequest}
      {shown : List DirectoryProviderRow} {w : View Database LockKey Unit} {orders : List (List ℕ)}
      (hnew : need.New decision db) (hacts : actor.ActsFor need.citizenUserId db)
      (hquery : BoundedText 100 query.providerType)
      (hids : ((directoryCandidates config need query t db).map (·.1.providerId)).Perm ids)
      (hrun : alone 0 n () (directory config seededKey actor need.id query)
        ⟨(Config.initial (ε := Failure) (ρ := Unit) (db.ask need decision) t 0).shared, id,
          db.ask need decision⟩ = some (.ok (found, shown), w))
      (hrest : Showings w.shared.store orders) :
      Showings db (shown.map (·.providerId) :: orders)

variable {config seededKey ids}

/-- The directory over the counts of `db`. -/
def orderOf (seededKey : String → String → String) (needId : ℕ) (db : Database) (ids : List ℕ) :
    List ℕ :=
  (orderDirectoryCandidates seededKey (uuidText needId) uuidText
    (ids.map fun id ↦ ⟨id, numberOfBigint (db.surfacedCount id)⟩)).map (·.providerId)

/-- The directory puts providers with smaller numbers first, and breaks ties by the digest. -/
theorem pairwise_orderOf (needId : ℕ) (db : Database) :
    (orderOf seededKey needId db ids).Pairwise fun a b ↦
      numberOfBigint (db.surfacedCount a) < numberOfBigint (db.surfacedCount b) ∨
        (numberOfBigint (db.surfacedCount a) = numberOfBigint (db.surfacedCount b) ∧
          seededKey (uuidText needId) (uuidText a) ≤ seededKey (uuidText needId) (uuidText b)) := by
  rw [orderOf, List.pairwise_map]
  have hcount : ∀ candidate ∈ orderDirectoryCandidates seededKey (uuidText needId) uuidText
      (ids.map fun id ↦ ⟨id, numberOfBigint (db.surfacedCount id)⟩),
      candidate.surfacedCount = numberOfBigint (db.surfacedCount candidate.providerId) := by
    intro candidate hmem
    obtain ⟨id, -, rfl⟩ := List.mem_map.mp ((perm_orderDirectoryCandidates _ _ _ _).mem_iff.mp hmem)
    rfl
  refine (pairwise_orderDirectoryCandidates _ _ _ _).imp_of_mem fun ha hb hab ↦ ?_
  rw [compareCandidates_nonpos_iff, hcount _ ha, hcount _ hb] at hab
  exact hab

variable (seededKey ids) in
theorem perm_orderOf (needId : ℕ) (db : Database) : (orderOf seededKey needId db ids).Perm ids := by
  refine ((perm_orderDirectoryCandidates _ _ _ _).map _).trans ?_
  rw [List.map_map]
  exact .of_eq (List.map_id _)

theorem Before.of_pairwise {α : Type} {R : α → α → Prop} {a b : α} {l : List α} (h : Before a b l)
    (hl : l.Pairwise R) : R a b :=
  List.rel_of_pairwise_cons (hl.sublist h) (List.mem_singleton_self b)

/-! ### One directory -/

theorem ids_directoryCandidates {need : NeedRequest} {query : DirectoryQuery} {t : ℤ}
    {db db' : Database} (hproviders : db'.providers = db.providers)
    (hservices : db'.services = db.services) :
    (directoryCandidates config need query t db').map (·.1.providerId) =
      (directoryCandidates config need query t db).map (·.1.providerId) := by
  rw [directoryCandidates, directoryCandidates, List.map_flatMap, List.map_flatMap, hproviders,
    hservices]
  simp only [List.map_map]
  rfl

/-- The providers have been shown `k` more times. -/
structure ShownMore (ids : List ℕ) (k : ℕ) (db db' : Database) : Prop where
  counts : ∀ id ∈ ids, db'.surfacedCount id = db.surfacedCount id + k
  counters : ∀ id ∈ ids, db'.counters.any (·.providerId = id) = true
  providers : db'.providers = db.providers
  services : db'.services = db.services

theorem ShownMore.trans {k l : ℕ} {db db' db'' : Database} (h : ShownMore ids k db db')
    (h' : ShownMore ids l db' db'') : ShownMore ids (k + l) db db'' where
  counts id hid := by
    rw [h'.counts id hid, h.counts id hid, Nat.cast_add, add_assoc]
  counters := h'.counters
  providers := h'.providers.trans h.providers
  services := h'.services.trans h.services

theorem shownMore {db : Database} {need row : NeedRequest} {decision : EligibilityDecision}
    {surfaces : List DirectorySurface} {counted : List ℕ} {auditEvents : List AuditEvent}
    (hcounted : counted.Perm ids) (hnodup : ids.Nodup)
    (hcounters : ∀ id ∈ ids, db.counters.any (·.providerId = id) = true) :
    ShownMore ids 1 db (Database.insertAudit auditEvents
      (Database.showing surfaces counted (Database.updateNeed row (db.ask need decision)))) where
  counts id hid := by
    have hcount : counted.count id = 1 :=
      List.count_eq_one_of_mem (hcounted.nodup_iff.mpr hnodup) (hcounted.mem_iff.mpr hid)
    have hkept : (Database.updateNeed row (db.ask need decision)).counters.any
        (·.providerId = id) = true := hcounters id hid
    have hshowing := surfacedCount_showing surfaces counted hkept
    rwa [hcount] at hshowing
  counters id hid := (Database.any_counters_showing id surfaces counted
    (Database.updateNeed row (db.ask need decision))).trans (hcounters id hid)
  providers := rfl
  services := rfl

section One

variable {db : Database} {need : NeedRequest} {decision : EligibilityDecision} {t : ℤ} {n : ℕ}
  {actor : ActorContext} {query : DirectoryQuery}

theorem NeedRequest.New.firstDirectory (hnew : need.New decision db)
    (hacts : actor.ActsFor need.citizenUserId db) (hquery : BoundedText 100 query.providerType)
    (hids : ((directoryCandidates config need query t db).map (·.1.providerId)).Perm ids)
    (hsome : ids ≠ []) : FirstDirectory config actor need decision query
      (db.ask need decision) where
  found := by
    have hn : (db.ask need decision).need need.id = some need := by
      rw [Database.need, Database.ask, Database.insertDecision, Database.insertNeed,
        lookupBy_append_singleton, ← Database.need, hnew.unasked, if_pos rfl, Option.none_or]
    have hd : (db.ask need decision).decision need.id = some decision := by
      rw [Database.decision, Database.ask, Database.insertDecision, Database.insertNeed,
        lookupBy_append_singleton, ← Database.decision, if_pos hnew.decided]
      exact congrArg (·.or (some decision)) hnew.undecided
    rw [Database.needWithRoute, hn, Option.bind_eq_bind, Option.bind_some, hd]
    rfl
  acts := hacts
  bounded := hquery
  paid := hnew.paid
  statuses := by
    cases hrows : directoryCandidates config need query t db with
    | nil =>
      rw [hrows, List.map_nil, List.nil_perm] at hids
      exact absurd hids hsome
    | cons row rows =>
      exact (surfacedCount_of_mem_directoryCandidates (hrows ▸ List.mem_cons_self)).2
  first := hnew.first

variable (n seededKey) in
theorem directory_shows (hnew : need.New decision db) (hacts : actor.ActsFor need.citizenUserId db)
    (hquery : BoundedText 100 query.providerType)
    (hids : ((directoryCandidates config need query t db).map (·.1.providerId)).Perm ids)
    (hnodup : ids.Nodup) (hsome : ids ≠ [])
    (hcounters : ∀ id ∈ ids, db.counters.any (·.providerId = id) = true)
    (hstorable : ∀ id ∈ ids, 0 ≤ db.surfacedCount id ∧ db.surfacedCount id ≤ storableMax) :
    ∃ w shown ids',
      alone 0 n () (directory config seededKey actor need.id query)
        ⟨(Config.initial (ε := Failure) (ρ := Unit) (db.ask need decision) t 0).shared, id,
          db.ask need decision⟩ = some (.ok (need, shown), w) ∧
      ids'.Perm ids ∧ shown.map (·.providerId) = orderOf seededKey need.id db ids' ∧
      ShownMore ids 1 db w.shared.store := by
  have hrow : ∀ row ∈ directoryCandidates config need query t db, row.1.providerId ∈ ids :=
    fun row hrow ↦ hids.mem_iff.mp (List.mem_map_of_mem hrow)
  have hcount : ∀ row ∈ directoryCandidates config need query t db,
      row.2 = db.surfacedCount row.1.providerId :=
    fun row hrow ↦ (surfacedCount_of_mem_directoryCandidates hrow).1
  obtain ⟨w, rows, auditEvents, hrows, hw, hstore⟩ := alone_directory (i := 0) (n := n) (r := ())
    (v := ⟨(Config.initial (ε := Failure) (ρ := Unit) (db.ask need decision) t 0).shared, id,
      db.ask need decision⟩) seededKey rfl (hnew.firstDirectory hacts hquery hids hsome)
    hnew.unshown (hids.nodup_iff.mpr hnodup) (fun row hmem ↦ hcounters _ (hrow row hmem))
    (fun row hmem ↦ (hcount row hmem).symm ▸ hstorable _ (hrow row hmem)) (fun _ ↦ .inl rfl)
  have hordered := (map_providerId_orderedCandidates need rows seededKey).trans
    ((hrows.map _).trans hids)
  refine ⟨w, _, rows.map (·.1.providerId), hw, (hrows.map _).trans hids, ?_, ?_⟩
  · rw [List.map_map]
    refine (providerId_storedSurfaces fun _ ↦ find_of_mem_orderedCandidates).trans ?_
    rw [orderOf, orderedCandidates, List.map_map]
    refine congrArg (fun candidates ↦ (orderDirectoryCandidates _ _ _ candidates).map _) ?_
    refine List.map_congr_left fun row hmem ↦ ?_
    rw [hcount row (hrows.mem_iff.mp hmem)]
    rfl
  · rw [hstore]
    exact shownMore hordered hnodup hcounters

theorem storable_of_directory {found : NeedRequest} {shown : List DirectoryProviderRow}
    {w : View Database LockKey Unit} (hnew : need.New decision db)
    (hacts : actor.ActsFor need.citizenUserId db) (hquery : BoundedText 100 query.providerType)
    (hids : ((directoryCandidates config need query t db).map (·.1.providerId)).Perm ids)
    (hsome : ids ≠ []) (hnonneg : ∀ id ∈ ids, 0 ≤ db.surfacedCount id)
    (hrun : alone 0 n () (directory config seededKey actor need.id query)
      ⟨(Config.initial (ε := Failure) (ρ := Unit) (db.ask need decision) t 0).shared, id,
        db.ask need decision⟩ = some (.ok (found, shown), w)) :
    ∀ id ∈ ids, db.surfacedCount id ≤ storableMax := by
  intro id hid
  obtain ⟨row, hrow, rfl⟩ := List.mem_map.mp (hids.mem_iff.mpr hid)
  have hstored :=
    of_alone_directory rfl (hnew.firstDirectory hacts hquery hids hsome) (.inl rfl) hrun
    row hrow
  rw [(surfacedCount_of_mem_directoryCandidates hrow).1] at hstored
  exact (bigintOfNumber_le_iff (hnonneg _ hid)).mp hstored

end One

/-! ### Who changes places -/

/-- The directory after `m` others still fits its columns, and is ordered by the counts it found. -/
theorem Showings.of_getElem {db : Database} {orders : List (List ℕ)} {m : ℕ} {order : List ℕ}
    (h : Showings config seededKey ids db orders) (hnodup : ids.Nodup) (hsome : ids ≠ [])
    (hcounters : ∀ id ∈ ids, db.counters.any (·.providerId = id) = true)
    (hnonneg : ∀ id ∈ ids, 0 ≤ db.surfacedCount id) (horder : orders[m]? = some order) :
    (∀ id ∈ ids, db.surfacedCount id + m ≤ storableMax) ∧ order.Nodup ∧
      ∀ P ∈ ids, ∀ Q ∈ ids, Before P Q order →
        numberOfBigint (db.surfacedCount P + m) ≤ numberOfBigint (db.surfacedCount Q + m) := by
  induction h generalizing m with
  | done => cases horder
  | @next db need decision t n actor query found shown w orders hnew hacts hquery hids hrun _ ih =>
    have hstorable := storable_of_directory hnew hacts hquery hids hsome hnonneg hrun
    obtain ⟨w', shown', ids', hrun', hids', horder', hshown⟩ :=
      directory_shows seededKey n hnew hacts
      hquery hids hnodup hsome hcounters fun id hid ↦ ⟨hnonneg id hid, hstorable id hid⟩
    obtain ⟨hfound, rfl⟩ := Prod.mk.inj (Option.some.inj (hrun.symm.trans hrun'))
    obtain rfl := (Prod.mk.inj (Except.ok.inj hfound)).2
    cases m with
    | zero =>
      obtain rfl := Option.some.inj horder
      rw [horder']
      refine ⟨fun id hid ↦ ?_, ?_, fun P _ Q _ hbefore ↦ ?_⟩
      · rw [Nat.cast_zero, add_zero]
        exact hstorable id hid
      · exact ((perm_orderOf seededKey ids' need.id db).trans hids').nodup_iff.mpr hnodup
      · rw [Nat.cast_zero, add_zero, add_zero]
        exact (hbefore.of_pairwise (pairwise_orderOf need.id db)).elim le_of_lt (·.1.le)
    | succ m =>
      -- the counts have gone up by one, and there is one directory less to come
      have hcount (id : ℕ) (hid : id ∈ ids) :
          w.shared.store.surfacedCount id + m = db.surfacedCount id + (m + 1 : ℕ) := by
        rw [hshown.counts id hid, Nat.cast_add, Nat.cast_one]
        omega
      obtain ⟨hfits, hdistinct, hle⟩ := ih hshown.counters (fun id hid ↦ by
        rw [hshown.counts id hid]
        have := hnonneg id hid
        omega) horder
      refine ⟨fun id hid ↦ hcount id hid ▸ hfits id hid, hdistinct, fun P hP Q hQ hbefore ↦ ?_⟩
      rw [← hcount P hP, ← hcount Q hQ]
      exact hle P hP Q hQ hbefore

/-- Some request gets a directory of exactly the providers `ids`. -/
def CoEligible (config : AppConfig) (ids : List ℕ) (db : Database) : Prop :=
  ∃ need query t, BoundedText 100 query.providerType ∧
    ((directoryCandidates config need query t db).map (·.1.providerId)).Perm ids

theorem CoEligible.shownMore {k : ℕ} {db db' : Database} (h : CoEligible config ids db)
    (hshown : ShownMore ids k db db') : CoEligible config ids db' := by
  obtain ⟨need, query, t, hquery, hids⟩ := h
  refine ⟨need, query, t, hquery, ?_⟩
  rw [ids_directoryCandidates hshown.providers hshown.services]
  exact hids

/-- The digests of two providers come in either order, whatever identifiers are taken. -/
def KeysEitherWay (seededKey : String → String → String) (P Q : ℕ) : Prop :=
  ∀ used : List ℕ,
    (∃ n ∉ used, seededKey (uuidText n) (uuidText P) < seededKey (uuidText n) (uuidText Q)) ∧
      ∃ n ∉ used, seededKey (uuidText n) (uuidText Q) < seededKey (uuidText n) (uuidText P)

theorem KeysEitherWay.symm {P Q : ℕ} (h : KeysEitherWay seededKey P Q) :
    KeysEitherWay seededKey Q P :=
  fun used ↦ (h used).symm

section Places

variable {db : Database} {P Q : ℕ}

/-- A new request whose identifier puts `P` before `Q`, if `P` does not have the larger number. -/
theorem exists_showing (hnodup : ids.Nodup) (hP : P ∈ ids) (hQ : Q ∈ ids) (hne : P ≠ Q)
    (hco : CoEligible config ids db)
    (hcounters : ∀ id ∈ ids, db.counters.any (·.providerId = id) = true)
    (hstorable : ∀ id ∈ ids, 0 ≤ db.surfacedCount id ∧ db.surfacedCount id ≤ storableMax)
    (hkeys : KeysEitherWay seededKey P Q)
    (hcount : numberOfBigint (db.surfacedCount P) ≤ numberOfBigint (db.surfacedCount Q)) :
    ∃ order db', Before P Q order ∧ ShownMore ids 1 db db' ∧
      ∀ orders, Showings config seededKey ids db' orders →
        Showings config seededKey ids db (order :: orders) := by
  obtain ⟨template, query, t, hquery, hids⟩ := hco
  obtain ⟨n, hn, hlt⟩ := (hkeys (db.needs.map (·.id) ++ (db.decisions.map (·.needRequestId) ++
    db.surfaces.map (·.needRequestId)))).1
  rw [List.mem_append, List.mem_append, not_or, not_or] at hn
  obtain ⟨hneeds, hdecisions, hsurfaces⟩ := hn
  let need : NeedRequest := { template with
    id := n
    directoryProviderType := none
    directoryMinimumTier := none
    directoryGeneratedAt := none }
  let decision : EligibilityDecision := ⟨n, none, false, .paid, t⟩
  let actor : ActorContext := ⟨template.citizenUserId, .citizen, [], "", none, none⟩
  have hnew : need.New decision db :=
    { unasked := lookupBy_eq_none_iff.mpr fun row hrow he ↦
        hneeds (List.mem_map.mpr ⟨row, hrow, he⟩)
      undecided := lookupBy_eq_none_iff.mpr fun row hrow he ↦
        hdecisions (List.mem_map.mpr ⟨row, hrow, he⟩)
      unshown := fun row hrow he ↦ hsurfaces (List.mem_map.mpr ⟨row, hrow, he⟩)
      decided := rfl
      paid := rfl
      first := ⟨rfl, rfl⟩ }
  have hacts : actor.ActsFor need.citizenUserId db := .inl ⟨rfl, rfl⟩
  obtain ⟨w, shown, ids', hrun, hids', horder, hshown⟩ := directory_shows seededKey 0 hnew
    hacts hquery hids hnodup (List.ne_nil_of_mem hP) hcounters hstorable
  refine ⟨_, w.shared.store, ?_, hshown, fun orders ↦ .next hnew hacts hquery hids hrun⟩
  rw [horder]
  have hperm := (perm_orderOf seededKey ids' need.id db).trans hids'
  refine (before_or_before hne (hperm.mem_iff.mpr hP) (hperm.mem_iff.mpr hQ)).resolve_right
    fun hbefore ↦ ?_
  rcases hbefore.of_pairwise (pairwise_orderOf need.id db) with h | ⟨-, h⟩
  · exact hcount.not_gt h
  · exact h.not_gt hlt

/-- Directories that all put `P` before `Q`, who is not shown less often. -/
theorem exists_showings (k : ℕ) (hnodup : ids.Nodup) (hP : P ∈ ids) (hQ : Q ∈ ids) (hne : P ≠ Q)
    (hco : CoEligible config ids db)
    (hcounters : ∀ id ∈ ids, db.counters.any (·.providerId = id) = true)
    (hstorable : ∀ id ∈ ids, 0 ≤ db.surfacedCount id ∧ db.surfacedCount id + k ≤ storableMax)
    (hkeys : KeysEitherWay seededKey P Q) (hle : db.surfacedCount P ≤ db.surfacedCount Q) :
    ∃ earlier db', earlier.length = k ∧ (∀ order ∈ earlier, Before P Q order) ∧
      ShownMore ids k db db' ∧ ∀ orders, Showings config seededKey ids db' orders →
        Showings config seededKey ids db (earlier ++ orders) := by
  induction k generalizing db with
  | zero =>
    refine ⟨[], db, rfl, List.forall_mem_nil _, ⟨fun id _ ↦ ?_, hcounters, rfl, rfl⟩, fun _ h ↦ h⟩
    rw [Nat.cast_zero, add_zero]
  | succ k ih =>
    obtain ⟨order, db₁, hbefore, hshown, hnext⟩ := exists_showing hnodup hP hQ hne hco hcounters
      (fun id hid ↦ by have := hstorable id hid; omega) hkeys
        (numberOfBigint_le (hstorable P hP).1 hle)
    obtain ⟨earlier, db', hlength, hearlier, hshown', hrest⟩ := ih (hco.shownMore hshown)
      hshown.counters (fun id hid ↦ by
        rw [hshown.counts id hid]
        have := hstorable id hid
        omega) (by rw [hshown.counts P hP, hshown.counts Q hQ]; omega)
    refine ⟨order :: earlier, db', congrArg _ hlength,
      List.forall_mem_cons.mpr ⟨hbefore, hearlier⟩, ?_, fun orders h ↦ hnext _ (hrest orders h)⟩
    rw [add_comm k 1]
    exact hshown.trans hshown'

/-- The provider that was shown less often falls behind where the numbers are the same. -/
theorem exists_swap {k : ℕ} (hnodup : ids.Nodup) (hP : P ∈ ids) (hQ : Q ∈ ids) (hne : P ≠ Q)
    (hco : CoEligible config ids db)
    (hcounters : ∀ id ∈ ids, db.counters.any (·.providerId = id) = true)
    (hnonneg : ∀ id ∈ ids, 0 ≤ db.surfacedCount id) (hkeys : KeysEitherWay seededKey P Q)
    (hle : db.surfacedCount P ≤ db.surfacedCount Q)
    (htie : numberOfBigint (db.surfacedCount P + k) = numberOfBigint (db.surfacedCount Q + k))
    (hfits : ∀ id ∈ ids, db.surfacedCount id + max k 1 ≤ storableMax) :
    ∃ orders, Showings config seededKey ids db orders ∧ (∃ order ∈ orders, Before P Q order) ∧
      ∃ order ∈ orders, Before Q P order := by
  cases k with
  | zero =>
    rw [Nat.cast_zero, add_zero, add_zero] at htie
    obtain ⟨first, db₁, hQP, hshown, hnext⟩ := exists_showing hnodup hQ hP hne.symm hco hcounters
      (fun id hid ↦ ⟨hnonneg id hid, by have := hfits id hid; omega⟩) hkeys.symm htie.ge
    obtain ⟨second, db₂, hPQ, -, hlast⟩ := exists_showing hnodup hP hQ hne (hco.shownMore hshown)
      hshown.counters (fun id hid ↦ by
        rw [hshown.counts id hid]
        have := hnonneg id hid
        have := hfits id hid
        omega) hkeys (numberOfBigint_le
          (by rw [hshown.counts P hP]; have := hnonneg P hP; omega)
          (by rw [hshown.counts P hP, hshown.counts Q hQ]; omega))
    exact ⟨[first, second], hnext _ (hlast _ .done), ⟨second, by simp, hPQ⟩, first, by simp, hQP⟩
  | succ k =>
    obtain ⟨earlier, db₁, hlength, hPQ, hshown, hnext⟩ :=
      exists_showings (k + 1) hnodup hP hQ hne hco
      hcounters (fun id hid ↦ ⟨hnonneg id hid, by have := hfits id hid; omega⟩) hkeys hle
    obtain ⟨last, db₂, hQP, -, hlast⟩ := exists_showing hnodup hQ hP hne.symm (hco.shownMore hshown)
      hshown.counters (fun id hid ↦ by
        rw [hshown.counts id hid]
        have := hnonneg id hid
        have := hfits id hid
        omega) hkeys.symm (by rw [hshown.counts P hP, hshown.counts Q hQ, htie])
    obtain ⟨first, hfirst⟩ := List.exists_mem_of_length_pos (show 0 < earlier.length by omega)
    exact ⟨earlier ++ [last], hnext _ (hlast _ .done), ⟨first, List.mem_append_left _ hfirst,
      hPQ first hfirst⟩, last, by simp, hQP⟩

/-- A provider that was shown less often falls behind only where the numbers are the same. -/
theorem tie_of_swap {orders : List (List ℕ)} {first second : List ℕ}
    (hnodup : ids.Nodup) (hP : P ∈ ids)
    (hQ : Q ∈ ids) (hcounters : ∀ id ∈ ids, db.counters.any (·.providerId = id) = true)
    (hnonneg : ∀ id ∈ ids, 0 ≤ db.surfacedCount id) (hle : db.surfacedCount P ≤ db.surfacedCount Q)
    (h : Showings config seededKey ids db orders) (hfirst : first ∈ orders) (hPQ : Before P Q first)
    (hsecond : second ∈ orders) (hQP : Before Q P second) :
    ∃ k : ℕ, numberOfBigint (db.surfacedCount P + k) = numberOfBigint (db.surfacedCount Q + k) ∧
      ∀ id ∈ ids, db.surfacedCount id + max k 1 ≤ storableMax := by
  obtain ⟨m, hm⟩ := List.mem_iff_getElem?.mp hfirst
  obtain ⟨k, hk⟩ := List.mem_iff_getElem?.mp hsecond
  have hsome := List.ne_nil_of_mem hP
  obtain ⟨hfits, -, -⟩ := h.of_getElem hnodup hsome hcounters hnonneg hm
  obtain ⟨hfits', hdistinct, hnumbers⟩ := h.of_getElem hnodup hsome hcounters hnonneg hk
  have hne : m ≠ k := by
    rintro rfl
    obtain rfl := Option.some.inj (hm.symm.trans hk)
    exact not_before_of_before hdistinct hPQ hQP
  refine ⟨k, le_antisymm ?_ (hnumbers Q hQ P hP hQP), fun id hid ↦ ?_⟩
  · exact numberOfBigint_le (by have := hnonneg P hP; omega) (by omega)
  · have := hfits id hid
    have := hfits' id hid
    omega

/-- **Two providers of the same directories change places** if and only if at some time their counts
are read as one number, and the counts of all providers shown can still be stored then, and after
one directory. -/
theorem directory_swaps_iff (hnodup : ids.Nodup) (hP : P ∈ ids) (hQ : Q ∈ ids) (hne : P ≠ Q)
    (hco : CoEligible config ids db)
    (hcounters : ∀ id ∈ ids, db.counters.any (·.providerId = id) = true)
    (hnonneg : ∀ id ∈ ids, 0 ≤ db.surfacedCount id) (hkeys : KeysEitherWay seededKey P Q) :
    (∃ orders, Showings config seededKey ids db orders ∧ (∃ order ∈ orders, Before P Q order) ∧
      ∃ order ∈ orders, Before Q P order) ↔
    ∃ k : ℕ, numberOfBigint (db.surfacedCount P + k) = numberOfBigint (db.surfacedCount Q + k) ∧
      ∀ id ∈ ids, db.surfacedCount id + max k 1 ≤ storableMax := by
  constructor
  · rintro ⟨orders, h, ⟨first, hfirst, hPQ⟩, second, hsecond, hQP⟩
    rcases le_total (db.surfacedCount P) (db.surfacedCount Q) with hle | hle
    · exact tie_of_swap hnodup hP hQ hcounters hnonneg hle h hfirst hPQ hsecond hQP
    · obtain ⟨k, htie, hfits⟩ :=
        tie_of_swap hnodup hQ hP hcounters hnonneg hle h hsecond hQP hfirst hPQ
      exact ⟨k, htie.symm, hfits⟩
  · rintro ⟨k, htie, hfits⟩
    rcases le_total (db.surfacedCount P) (db.surfacedCount Q) with hle | hle
    · exact exists_swap hnodup hP hQ hne hco hcounters hnonneg hkeys hle htie hfits
    · obtain ⟨orders, h, hQP, hPQ⟩ :=
        exists_swap hnodup hQ hP hne.symm hco hcounters hnonneg hkeys.symm hle htie.symm hfits
      exact ⟨orders, h, hPQ, hQP⟩

end Places

end Showings

/-! ## Two advocates

Two advocates offer the same help, and their digests come in either order. -/

def localAdvocate (id : ℕ) : Provider where
  id := id
  userId := 10 + id
  providerType := "ADVOCATE"
  displayName := "Advocate"
  district := "Pune"
  languages := ["mr"]
  serviceModes := ["REMOTE"]
  status := "ACTIVE"
  tier := .selfDeclared
  tierDecidedAt := none
  tierExpiresAt := none

/-- The advocates 1 and 2, shown `first` and `second` times. -/
def twoAdvocates (first second : ℤ) : Database where
  providers := [localAdvocate 1, localAdvocate 2]
  services := [⟨1, "TENANCY", 0, 100000, false⟩, ⟨2, "TENANCY", 0, 100000, false⟩]
  counters := [⟨1, first⟩, ⟨2, second⟩]

/-- A request that both can serve. -/
def tenancyRequest (id : ℕ) : NeedRequest where
  id := id
  citizenUserId := 20
  operatorDelegationId := none
  taxonomyCode := "TENANCY"
  district := "Pune"
  language := "mr"
  modePref := "REMOTE"
  feeCeiling := none
  urgency := "NORMAL"
  channel := "APP"
  createdAt := 0
  directoryProviderType := none
  directoryMinimumTier := none
  directoryGeneratedAt := none

/-- A deployment that shows active providers. -/
def showingConfig : AppConfig where
  nodeEnv := .test
  taxonomyCodes := ["TENANCY"]
  districtFeeFloors := []
  providerActiveStatuses := ["ACTIVE"]

/-- A digest that swaps the two advocates unless the seed ends in a zero. -/
def swappingKey (seed provider : String) : String :=
  if seed.toList.getLast? = some '0' then provider else if provider = "1" then "2" else "1"

theorem getLast_uuidText (m : ℕ) {d : ℕ} (hd : d < 10) :
    (uuidText (10 * (m + 1) + d)).toList.getLast? = some d.digitChar := by
  rw [uuidText, Nat.toList_repr, Nat.toDigits_of_base_le (by decide) (by omega),
    List.getLast?_concat, Nat.mul_add_mod, Nat.mod_eq_of_lt hd]

theorem not_mem_of_sum_lt {used : List ℕ} {n : ℕ} (h : used.sum < n) : n ∉ used := by
  intro hmem
  have := List.le_sum_of_mem hmem
  omega

theorem swappingKey_eitherWay : KeysEitherWay swappingKey 1 2 := by
  intro used
  refine ⟨⟨10 * (used.sum + 1) + 0, not_mem_of_sum_lt (by omega), ?_⟩,
    10 * (used.sum + 1) + 1, not_mem_of_sum_lt (by omega), ?_⟩
  · rw [swappingKey, swappingKey, getLast_uuidText _ (by decide)]
    decide
  · rw [swappingKey, swappingKey, getLast_uuidText _ (by decide)]
    decide

theorem twoAdvocates_coEligible (first second : ℤ) :
    CoEligible showingConfig [1, 2] (twoAdvocates first second) :=
  ⟨tenancyRequest 7, ⟨"ADVOCATE", .selfDeclared⟩, 0, by decide +kernel, .of_eq (by rfl)⟩

theorem directory_swaps_iff_twoAdvocates :
    ∃ orders, Showings showingConfig swappingKey [1, 2]
        (twoAdvocates 9007199254740992 9007199254740993) orders ∧
      (∃ order ∈ orders, Before 1 2 order) ∧ ∃ order ∈ orders, Before 2 1 order :=
  (directory_swaps_iff (by decide) (by decide) (by decide) (by decide)
    (twoAdvocates_coEligible 9007199254740992 9007199254740993) (by decide) (by decide)
    swappingKey_eitherWay).mpr ⟨0, by decide, by decide⟩

/-- An advocate that was shown far more often than the other stays behind it in every directory. -/
theorem directory_never_swaps :
    CoEligible showingConfig [1, 2] (twoAdvocates 0 2000) ∧ KeysEitherWay swappingKey 1 2 ∧
      ¬ ∃ orders, Showings showingConfig swappingKey [1, 2] (twoAdvocates 0 2000) orders ∧
        (∃ order ∈ orders, Before 1 2 order) ∧ ∃ order ∈ orders, Before 2 1 order := by
  refine ⟨twoAdvocates_coEligible 0 2000, swappingKey_eitherWay, ?_⟩
  rintro ⟨orders, h, ⟨first, hfirst, hPQ⟩, second, hsecond, hQP⟩
  obtain ⟨k, htie, hfits⟩ := tie_of_swap (by decide) (by decide) (by decide) (by decide) (by decide)
    (by decide) h hfirst hPQ hsecond hQP
  have hcount : (twoAdvocates 0 2000).surfacedCount 1 = 0 ∧
      (twoAdvocates 0 2000).surfacedCount 2 = 2000 := by decide
  rw [hcount.1, hcount.2] at htie
  -- a counter is missed by at most 512, so these two are never read as one number
  have hmax : (2000 : ℤ) + max k 1 ≤ storableMax := hcount.2 ▸ hfits 2 (by decide)
  rw [storableMax] at hmax
  have hlow := (numberOfBigint_bounds (n := 0 + k) (by omega) (by rw [bigintMax]; omega)).1
  have hhigh := (numberOfBigint_bounds (n := 2000 + k) (by omega) (by rw [bigintMax]; omega)).2
  omega

end Nayasetu
