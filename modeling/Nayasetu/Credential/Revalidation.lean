import Nayasetu.Credential.Batches

/-!
# The expiry worker in any interleaving

A batch of the expiry worker rewrites only rows that are due in the version it has locked, at an
instant that has passed when it commits. A decision that is still valid is therefore never
degraded.
-/

namespace Nayasetu

open Values RowLock Collections

/-! ## The instant of a batch

The clock of a batch is read at its beginning. By its commit the rows it degrades have lapsed,
since clocks do not run backwards.
-/

def CredentialRequest.isBatch : CredentialRequest → Bool
  | .revalidate _ _ => true
  | _ => false

/-- Rewritten rows carry an instant that has passed. -/
def Timely (clock : ℤ) (before after : Database) : Prop :=
  ∀ id, after.provider id = before.provider id ∨
    ∃ row timestamp, after.provider id = some row ∧ row.tierDecidedAt = some timestamp ∧
      timestamp ≤ clock

def batchDiscipline : Discipline Database LockKey CredentialRequest where
  Inv s := ∀ e ∈ s.history, e.request.isBatch = true → Timely s.clock e.before e.after
  Keep _ _ _ := True
  Unused _ _ := True
  Mono _ _ := True
  keep_refl _ _ := trivial
  keep_trans _ _ _ _ _ _ := trivial
  mono_refl _ := trivial
  mono_trans _ _ _ _ _ := trivial
  unused_of_inv _ _ _ _ := trivial
  inv_of_same s s' _ hhistory _ hclock _ h := by
    intro e he hbatch id
    rcases h e (hhistory ▸ he) hbatch id with hsame | ⟨row, timestamp, hrow, hdecided, hpassed⟩
    · exact .inl hsame
    · exact .inr ⟨row, timestamp, hrow, hdecided, hpassed.trans hclock⟩

section Instant

variable {i : ℕ} {r : CredentialRequest} {v w : CredentialView} {timestamp : ℤ} {actorId : ℕ}
  {requestId : String}

theorem timely_degradeAll {clock : ℤ} (h : timestamp ≤ clock) (rows : List Provider)
    {db₀ db : Database}
    (hdb : Timely clock db₀ db) :
    Timely clock db₀ (degradeAll timestamp actorId requestId rows db) := by
  induction rows generalizing db with
  | nil => exact hdb
  | cons row rows ih =>
    refine ih fun id ↦ ?_
    rw [Database.provider_insertAudit, Database.provider_updateProvider]
    by_cases hid : id = (row.degrade timestamp).id
    · rw [if_pos hid]
      cases hold : db.provider id with
      | none =>
        rcases hdb id with hsame | ⟨_, _, hsome, -⟩
        · exact .inl (hold.symm.trans hsame)
        · exact absurd (hold.symm.trans hsome) (by simp)
      | some old => exact .inr ⟨row.degrade timestamp, timestamp, rfl, rfl, h⟩
    · rw [if_neg hid]
      exact hdb id

/-- What the loop writes is the degradation of some rows. -/
theorem attempt_degradeRows {n : ℕ} {providers rows : List Provider}
    (hclock : timestamp ≤ v.shared.clock)
    (hpending : v.pending = degradeAll timestamp actorId requestId rows)
    (hinv : batchDiscipline.Inv v.shared) :
    batchDiscipline.Attempt i r (fun _ w ↦ timestamp ≤ w.shared.clock ∧
        ∃ rows, w.pending = degradeAll timestamp actorId requestId rows) (fun _ ↦ True)
      (degradeRows timestamp actorId requestId n providers) v := by
  induction providers generalizing n rows v with
  | nil => cases n <;> exact Discipline.attempt_pure ⟨hclock, rows, hpending⟩
  | cons provider providers ih =>
    cases n with
    | zero => exact Discipline.attempt_pure ⟨hclock, rows, hpending⟩
    | succ n =>
      refine Discipline.attempt_bind
        (Discipline.attempt_tryLock (fun w hw _ _ ↦ ?_) fun w hw _ _ ↦ ?_)
      · have hclock' := hclock.trans hw.since.clock
        dsimp only
        cases hrow : ((v.pending w.shared.store).provider provider.id).filter
          (·.isDue timestamp) with
        | none => exact ih hclock' (hw.pending.trans hpending) hw.inv
        | some row =>
          refine Discipline.attempt_bind (Discipline.attempt_write
            (Discipline.attempt_bind (Discipline.attempt_write (Discipline.attempt_bind ?_))))
          have hwritten : Database.insertAudit [degradationAudit row timestamp actorId requestId] ∘
              Database.updateProvider (row.degrade timestamp) ∘ w.pending =
                degradeAll timestamp actorId requestId (rows ++ [row]) := by
            funext db
            rw [degradeAll, List.foldl_append, List.foldl_cons, List.foldl_nil, ← degradeAll,
              hw.pending, hpending]
            rfl
          exact Discipline.attempt_mono (fun _ _ hdone ↦ Discipline.attempt_pure hdone)
            (fun _ he ↦ he)
            (ih hclock' hwritten hw.inv)
      · exact ih (hclock.trans hw.since.clock) (hw.pending.trans hpending) hw.inv

theorem serves_runCredentialRevalidationBatch {adminActorId : ℕ} {batchSize? : Option ℤ}
    (hpending : v.pending = id) :
    batchDiscipline.Serves i (.revalidate adminActorId batchSize?) (fun _ ↦ True)
      (runCredentialRevalidationBatch adminActorId batchSize?) v := by
  refine Discipline.serves_bind (attempt_ensure trivial fun _ ↦ ?_)
  refine Discipline.serves_bind (Discipline.attempt_nextval fun w₁ uuid hw₁ _ _ _ ↦ ?_)
  refine serves_withTransaction fun w₂ hw₂ ↦ ?_
  refine Discipline.attempt_bind (attempt_ensure trivial fun _ ↦ ?_)
  refine Discipline.attempt_bind (attempt_ensure trivial fun _ ↦ ?_)
  refine Discipline.attempt_bind (Discipline.attempt_snapshot fun w₃ hw₃ _ ↦ ?_)
  refine Discipline.attempt_bind (attempt_ensure trivial fun _ ↦ ?_)
  refine Discipline.attempt_bind (Discipline.attempt_snapshot fun w₄ hw₄ _ ↦ ?_)
  have hw := (hw₁.trans hw₂).trans (hw₃.trans hw₄)
  have hnone : w₄.pending = degradeAll w₂.shared.clock adminActorId
      ("worker:credential-revalidation:" ++ uuidText uuid) [] := hw.pending.trans hpending
  refine Discipline.attempt_mono (fun _ w hdone s hs hinv ↦ ?_) (fun _ he ↦ he)
    (attempt_degradeRows (hw₃.trans hw₄).since.clock hnone hw₄.inv)
  obtain ⟨hclock, rows, hwritten⟩ := hdone
  refine ⟨List.forall_mem_append.mpr ⟨hinv, ?_⟩, Discipline.rely_commit (fun _ _ ↦ trivial)
    (fun _ _ _ ↦ trivial) trivial⟩
  rintro _ he -
  rw [List.mem_singleton.mp he]
  change Timely s.clock s.store (w.pending s.store)
  rw [hwritten]
  exact timely_degradeAll (hclock.trans hs.clock) rows fun _ ↦ .inl rfl

end Instant

/-! ## Runs

What the discipline gives for the commits of batches in any run.
-/

section Runs

variable {db : Database} {clock : ℤ} {drawn : ℕ} {c : CredentialConfig}

/-- In every reachable configuration the batches have been timely, and a batch that has failed has
committed nothing. -/
theorem batchRun_invariant (hc : CredentialRun (credentialStart db clock drawn) c) :
    batchDiscipline.Inv c.shared ∧ ∀ i u e, c.sessions[i]? = some u → u.request.isBatch = true →
      u.program = some (.throw e) → c.shared.commitsOf i = [] := by
  have hstable : ∀ i (r : CredentialRequest), batchDiscipline.toProtocol.Stable i
      fun (_ : Failure) (w : CredentialView) ↦ r.isBatch = true → Discipline.Uncommitted i w := by
    intro i r e w s hw hs hbatch
    exact (Discipline.Rely.commits hs.rely).trans (hw hbatch)
  have hsound : batchDiscipline.toProtocol.Sound (fun _ _ _ _ ↦ True)
      (fun i (r : CredentialRequest) _ w ↦ r.isBatch = true → Discipline.Uncommitted i w) c := by
    refine Protocol.sound (fun _ _ _ _ _ _ _ ↦ trivial) hstable (fun i r s hs hfresh ↦ ?_) ?_ hc
    · cases hbatch : r.isBatch with
      | true =>
        cases r with
        | revalidate adminActorId batchSize? =>
          refine Protocol.wp_bind (Protocol.wp_mono (fun _ _ _ ↦ Protocol.wp_pure trivial)
            (fun _ _ he _ ↦ he.1) (serves_runCredentialRevalidationBatch rfl ?_))
          exact List.filter_eq_nil_iff.mpr fun e he ↦ by simpa using hfresh.history e he
        | _ => exact absurd hbatch Bool.false_ne_true
      | false =>
        refine Protocol.wp_mono (fun _ _ _ ↦ trivial) (fun _ _ _ he ↦ absurd he (by simp))
          (Protocol.wp_of_harmless (fun v s' hs' ↦ ?_) _ _)
        refine ⟨List.forall_mem_append.mpr ⟨hs'.inv, ?_⟩, Discipline.rely_commit (fun _ _ ↦ trivial)
          (fun _ _ _ ↦ trivial) trivial⟩
        intro e he hbatch'
        rw [List.mem_singleton.mp he] at hbatch'
        exact absurd (hbatch.symm.trans hbatch') (by simp)
    · intro e he
      simp [Config.initial] at he
  exact ⟨hsound.inv, fun i u e hu hbatch he ↦
    Protocol.wp_throw_iff.mp (hsound.safe i u _ hu he) hbatch⟩

end Runs

/-- What a batch makes of the store: it degrades rows that are due, and each degradation has its
audit row. -/
structure Degrades (timestamp : ℤ) (rows : List Provider) (before after : Database) : Prop where
  nodup : (rows.map (·.id)).Nodup
  due : ∀ row ∈ rows, before.provider row.id = some row ∧ row.isDue timestamp = true
  degraded : ∀ row ∈ rows, after.provider row.id = some (row.degrade timestamp)
  others : ∀ id, id ∉ rows.map (·.id) → after.provider id = before.provider id
  audited : ∃ adminActorId requestId, after.auditEvents = before.auditEvents ++
    rows.map fun row ↦ degradationAudit row timestamp adminActorId requestId

theorem auditEvents_degradeAll {timestamp : ℤ} {actorId : ℕ} {requestId : String}
    (rows : List Provider) (db : Database) :
    (degradeAll timestamp actorId requestId rows db).auditEvents =
      db.auditEvents ++ rows.map fun row ↦ degradationAudit row timestamp actorId requestId := by
  induction rows generalizing db with
  | nil => exact (List.append_nil _).symm
  | cons row rows ih =>
    refine (ih _).trans ?_
    rw [List.map_cons, List.append_cons]
    rfl

/-- **A committed batch has degraded rows that were due in the version it had locked, at an instant
that has passed.** -/
theorem Committed.degrades {e : Entry Database CredentialRequest} (h : Committed e)
    (hbatch : e.request.isBatch = true) {clock : ℤ} (htimely : Timely clock e.before e.after) :
    ∃ timestamp rows, timestamp ≤ clock ∧ Degrades timestamp rows e.before e.after := by
  obtain ⟨i, r, snap, before, after⟩ := e
  obtain ⟨-, s, hs, heffect⟩ := h
  dsimp only at hs heffect hbatch htimely ⊢
  subst hs
  cases heffect with
  | @revalidate adminActorId batchSize? timestamp requestId rows hnodup hrows =>
    have hdegraded : ∀ row ∈ rows,
      (degradeAll timestamp adminActorId requestId rows s.store).provider
        row.id = some (row.degrade timestamp) := fun row hrow ↦
      provider_degradeAll_of_mem hnodup hrow (hrows row hrow).1
    have hdegrades : Degrades timestamp rows s.store
        (degradeAll timestamp adminActorId requestId rows s.store) :=
      { nodup := hnodup
        due := fun row hrow ↦ ⟨(hrows row hrow).1, (hrows row hrow).2.1⟩
        degraded := hdegraded
        others := fun id ↦ provider_degradeAll_of_not_mem
        audited := ⟨adminActorId, requestId, auditEvents_degradeAll rows s.store⟩ }
    cases rows with
    | nil => exact ⟨clock, [], le_rfl, { hdegrades with due := by simp, degraded := by simp }⟩
    | cons row rows =>
      refine ⟨timestamp, row :: rows, ?_, hdegrades⟩
      obtain ⟨hstored, hdue⟩ := hdegrades.due row List.mem_cons_self
      have hrow := hdegrades.degraded row List.mem_cons_self
      -- the row has changed, so it carries the instant of the batch
      rcases htimely row.id with hsame | ⟨row', timestamp', hrow', hdecided, hpassed⟩
      · have hrefl : row.degrade timestamp = row :=
          Option.some.inj (hrow.symm.trans (hsame.trans hstored))
        have htier := Provider.tier_of_isDue hdue
        rw [← hrefl] at htier
        exact nomatch htier
      · obtain rfl := Option.some.inj (hrow.symm.trans hrow')
        obtain rfl := Option.some.inj hdecided
        exact hpassed
  | _ => exact absurd hbatch Bool.false_ne_true

/-! ## Valid decisions

A provider with an expiry that is still to come is not due.
-/

def DecidesTierOf (id : ℕ) (e : Entry Database CredentialRequest) : Prop :=
  ∃ actor caseId at?, e.request = .finalize actor id caseId at?

/-- Only decisions and degradations change the row of a provider. -/
theorem Effect.provider_eq {i : ℕ} {s : Shared Database LockKey CredentialRequest}
    {r : CredentialRequest} {db : Database} (h : Effect i s r db)
    (hbatch : r.isBatch = false) {id : ℕ}
    (hother : ∀ actor caseId at?, r ≠ .finalize actor id caseId at?) :
    db.provider id = s.store.provider id := by
  cases h with
  | recordManual => rfl
  | recordUnavailable => rfl
  | openCase => rfl
  | @finalize actor providerId _ _ provider _ _ _ _ _ _ hprovider =>
    rw [Database.provider_insertAudit, Database.provider_updateProvider,
      Database.provider_updateCase]
    refine if_neg fun hid ↦ ?_
    have hsame : id = providerId := hid.trans (Database.mem_of_provider hprovider).2
    exact hother actor _ _ (by rw [hsame])
  | revalidate => exact nomatch hbatch
  | changePolicies => rw [Database.provider, (applyPolicyChanges_tables _ _).1, ← Database.provider]

/-- A decided full verification lasts for some time. -/
theorem Committed.expiry {e : Entry Database CredentialRequest} (h : Committed e) {id : ℕ}
    (hdecides : DecidesTierOf id e) {row : Provider} (hrow : e.after.provider id = some row)
    (hfull : row.tier = .fullyVerified) :
    ∃ decidedAt expiresAt, row.tierDecidedAt = some decidedAt ∧ row.tierExpiresAt = some expiresAt ∧
      decidedAt < expiresAt := by
  obtain ⟨i, r, snap, before, after⟩ := e
  obtain ⟨-, s, hs, heffect⟩ := h
  obtain ⟨actor, caseId, at?, rfl⟩ := hdecides
  dsimp only at hs heffect hrow
  subst hs
  cases heffect with
  | @finalize _ _ _ _ provider c policyRow policy now decision events
      hprovider _ _ _ _ _ _ hparse _ _ hd =>
    rw [Database.provider_insertAudit, Database.provider_updateProvider,
      Database.provider_updateCase, Provider.withDecision_id,
      if_pos (Database.mem_of_provider hprovider).2.symm, hprovider, Option.map_some] at hrow
    obtain rfl := Option.some.inj hrow
    cases hd with
    | @full expiry _ _ _ _ hexpiry =>
      refine ⟨1000 * now, 1000 * expiry, rfl, rfl, ?_⟩
      have hlater := ExpiryBound.lt
        (CredentialTierPolicy.valid_of_validate (parsesTo_of_parse hparse).valid).freshness_pos
          hexpiry.1
      omega
    | _ => exact nomatch hfull

theorem not_isDue {row : Provider} {decidedAt expiresAt timestamp : ℤ}
    (hdecided : row.tierDecidedAt = some decidedAt) (hexpires : row.tierExpiresAt = some expiresAt)
    (hlater : decidedAt < expiresAt) (hvalid : timestamp < expiresAt) :
    row.isDue timestamp = false := by
  rw [Provider.isDue, hdecided, hexpires]
  simp [hlater, hvalid]

/-! ## Uncontended batches

A session that runs alone does what the batch does by itself; several batches in a row degrade all
that is due.
-/

/-- Batches one after another, each from its start to its end, while nobody else takes a step. -/
def batches (adminActorId : ℕ) (batchSize? : Option ℤ) : ℕ → List ℕ →
    List (Action CredentialRequest)
  | _, [] => []
  | i, n :: ns => .start (.revalidate adminActorId batchSize?) ::
      (List.replicate n (.run i 0) ++ batches adminActorId batchSize? (i + 1) ns)

/-- The expiry worker has a grant and no contention. -/
structure Uncontended (adminActorId : ℕ) (c : CredentialConfig) : Prop where
  ids : (c.shared.store.providers.map (·.id)).Nodup
  granted : ⟨adminActorId, .admin, "credentials:revalidate"⟩ ∈ c.shared.store.roleGrants
  free : ∀ id, c.shared.holder (.provider id) = none

/-- What one batch leaves. -/
structure BatchDone (adminActorId batchSize : ℕ) (c c' : CredentialConfig) : Prop where
  uncontended : Uncontended adminActorId c'
  clock : c'.shared.clock = c.shared.clock
  due : c'.shared.store.dueProviders c.shared.clock =
    (c.shared.store.dueProviders c.shared.clock).drop batchSize
  store : ∃ requestId, c'.shared.store = degradeAll c.shared.clock adminActorId requestId
    ((c.shared.store.dueProviders c.shared.clock).take batchSize) c.shared.store
  response : ∃ u, c'.sessions = c.sessions ++ [u] ∧ u.program = some (.pure (.degraded
    (((c.shared.store.dueProviders c.shared.clock).take batchSize).map (·.id))))

private theorem roleGrants_degradeAll {timestamp : ℤ} {actorId : ℕ} {requestId : String}
    (rows : List Provider) (db : Database) :
    (degradeAll timestamp actorId requestId rows db).roleGrants = db.roleGrants := by
  induction rows generalizing db with
  | nil => rfl
  | cons row rows ih => exact ih _

theorem exec_batch {adminActorId : ℕ} {batchSize? : Option ℤ} {batchSize : ℕ}
    (hbatch : batchSize?.getD 100 = batchSize) (hsize : 1 ≤ batchSize ∧ batchSize ≤ 1000)
    {c : CredentialConfig} (hc : Uncontended adminActorId c) :
    ∃ n c', exec credentialProgram c (.start (.revalidate adminActorId batchSize?) ::
      List.replicate n (.run c.sessions.length 0)) = some c' ∧
        BatchDone adminActorId batchSize c c' := by
  obtain ⟨w, requestId, hw, hstore, hclock, hfree⟩ := alone_batch
    (i := c.sessions.length) (r := .revalidate adminActorId batchSize?)
    (v := ⟨c.shared, id, c.shared.store⟩) hbatch hsize (fun id ↦ .inl (hc.free id)) rfl
      hc.ids hc.granted
  have hprogram : alone c.sessions.length 0 (.revalidate adminActorId batchSize?)
      (credentialProgram (.revalidate adminActorId batchSize?)) ⟨c.shared, id, c.shared.store⟩ =
        some (.ok (.degraded (((c.shared.store.dueProviders c.shared.clock).take batchSize).map
          (·.id))), w) := (alone_bind hw).trans rfl
  let u : Session Database LockKey Failure CredentialResponse CredentialRequest :=
    ⟨.revalidate adminActorId batchSize?,
      some (credentialProgram (.revalidate adminActorId batchSize?)), id, c.shared.store⟩
  have hu : (c.sessions ++ [u])[c.sessions.length]? = some u := List.getElem?_concat_length
  obtain ⟨n, hn⟩ := exec_alone (c := ⟨c.shared, c.sessions ++ [u]⟩) hu rfl hprogram
  refine ⟨n, _, hn, ?_⟩
  exact
    { uncontended :=
        { ids := by
            change (w.shared.store.providers.map (·.id)).Nodup
            rw [hstore, (degradeAll_tables _ _).2.2.2]
            exact hc.ids
          granted := by
            change _ ∈ w.shared.store.roleGrants
            rw [hstore, roleGrants_degradeAll]
            exact hc.granted
          free := hfree }
      clock := hclock
      due := by
        change w.shared.store.dueProviders c.shared.clock = _
        rw [hstore]
        exact dueProviders_degradeAll hc.ids batchSize
      store := ⟨requestId, hstore⟩
      response := by
        refine ⟨⟨u.request, some (.pure (.degraded _)), w.pending, w.snapshot⟩, ?_, rfl⟩
        exact (List.set_append_right _ _ le_rfl).trans (by rw [Nat.sub_self]; rfl) }

theorem exec_batches {adminActorId : ℕ} {batchSize? : Option ℤ} {batchSize : ℕ}
    (hbatch : batchSize?.getD 100 = batchSize) (hsize : 1 ≤ batchSize ∧ batchSize ≤ 1000) (m : ℕ)
    {c : CredentialConfig} (hc : Uncontended adminActorId c) :
    ∃ ns c', ns.length = m ∧
      exec credentialProgram c (batches adminActorId batchSize? c.sessions.length ns) = some c' ∧
      c'.shared.store.dueProviders c.shared.clock =
        (c.shared.store.dueProviders c.shared.clock).drop (m * batchSize) ∧
      (∀ j < c.sessions.length, c'.sessions[j]? = c.sessions[j]?) ∧
      ∀ k < m, ∃ u, c'.sessions[c.sessions.length + k]? = some u ∧
      u.program = some (.pure (.degraded
        ((((c.shared.store.dueProviders c.shared.clock).drop (k * batchSize)).take batchSize).map
          (·.id)))) := by
  induction m generalizing c with
  | zero => exact ⟨[], c, rfl, rfl, by simp, fun _ _ ↦ rfl, by simp⟩
  | succ m ih =>
    obtain ⟨n, c₁, hexec, hdone⟩ := exec_batch hbatch hsize hc
    obtain ⟨u, hsessions, hresponse⟩ := hdone.response
    have hlength : c₁.sessions.length = c.sessions.length + 1 := by
      rw [hsessions, List.length_append, List.length_singleton]
    obtain ⟨ns, c', hns, hrest, hdue, hold, hnew⟩ := ih hdone.uncontended
    rw [hdone.clock, hdone.due, List.drop_drop] at hdue
    rw [hlength] at hrest hold hnew
    refine ⟨n :: ns, c', by rw [List.length_cons, hns], ?_, ?_, fun j hj ↦ ?_, fun k hk ↦ ?_⟩
    · exact (exec_append_of_eq hexec).trans hrest
    · rw [hdue, Nat.succ_mul, Nat.add_comm]
    · rw [hold j (by omega), hsessions, List.getElem?_append_left hj]
    · cases k with
      | zero =>
        refine ⟨u, ?_, ?_⟩
        · rw [Nat.add_zero, hold _ (by omega), hsessions, List.getElem?_concat_length]
        · rw [hresponse, Nat.zero_mul, List.drop_zero]
      | succ k =>
        obtain ⟨u', hu', hresponse'⟩ := hnew k (by omega)
        rw [hdone.clock, hdone.due, List.drop_drop] at hresponse'
        refine ⟨u', ?_, ?_⟩
        · rw [← hu', Nat.add_right_comm, Nat.add_assoc]
        · rw [hresponse', Nat.succ_mul, Nat.add_comm]

/-! ## The expiry worker

The parts of the statement about the worker, each from a section above.
-/

/-- What is promised about the expiry worker. -/
structure ExpiryWorkerExact (c : CredentialConfig) : Prop where
  /-- A batch degrades rows that are due in the version it has locked, each with one audit row. -/
  degrades : ∀ e ∈ c.shared.history, e.request.isBatch = true →
    ∃ timestamp rows, timestamp ≤ c.shared.clock ∧ Degrades timestamp rows e.before e.after
  /-- A batch that fails changes nothing. -/
  failed : ∀ i u e, c.sessions[i]? = some u → u.request.isBatch = true →
    u.program = some (.throw e) → c.shared.commitsOf i = []
  /-- A decided full verification stays until it expires or the next decision comes. -/
  renewed : ∀ past e later id row expiresAt, c.shared.history = past ++ e :: later →
    DecidesTierOf id e → e.after.provider id = some row → row.tier = .fullyVerified →
    row.tierExpiresAt = some expiresAt → c.shared.clock < expiresAt →
    (∀ e' ∈ later, ¬ DecidesTierOf id e') → c.shared.store.provider id = some row
  /-- Batches that nobody contends with degrade the due providers in their order, as many as the
  batch size each. -/
  uncontended : ∀ adminActorId batchSize? (batchSize : ℕ), batchSize?.getD 100 = (batchSize : ℤ) →
    1 ≤ batchSize ∧ batchSize ≤ 1000 →
    ⟨adminActorId, .admin, "credentials:revalidate"⟩ ∈ c.shared.store.roleGrants →
    (∀ id, c.shared.holder (.provider id) = none) → ∀ m, ∃ ns c', ns.length = m ∧
      exec credentialProgram c (batches adminActorId batchSize? c.sessions.length ns) = some c' ∧
      (c'.shared.store.dueProviders c.shared.clock).length =
        (c.shared.store.dueProviders c.shared.clock).length - m * batchSize ∧
      ∀ k < m, ∃ u, c'.sessions[c.sessions.length + k]? = some u ∧
      u.program = some (.pure (.degraded
        ((((c.shared.store.dueProviders c.shared.clock).drop (k * batchSize)).take batchSize).map
          (·.id))))

section Worker

variable {db : Database} {clock : ℤ} {drawn : ℕ} {c : CredentialConfig}

/-- A row that every commit leaves alone is still there at the end. -/
private theorem provider_of_replays {id : ℕ} {row : Provider} {s s' : Database}
    {history : List (Entry Database CredentialRequest)} (h : Replays s history s')
    (hs : s.provider id = some row)
    (hall : ∀ e ∈ history, e.before.provider id = some row → e.after.provider id = some row) :
    s'.provider id = some row := by
  induction history generalizing s with
  | nil =>
    have hsame : s = s' := h
    exact hsame ▸ hs
  | cons e history ih =>
    rw [List.forall_mem_cons] at hall
    obtain ⟨hbefore, hrest⟩ := h
    exact ih hrest (hall.1 (hbefore ▸ hs)) hall.2

private theorem replays_of_append {s s' : Database}
    {past later : List (Entry Database CredentialRequest)} (h : Replays s (past ++ later) s') :
    ∃ middle, Replays middle later s' := by
  induction past generalizing s with
  | nil => exact ⟨s, h⟩
  | cons e past ih => exact ih h.2

/-- **The expiry worker is exact** in every interleaving with decisions and with any other
transaction on the same rows. -/
theorem expiry_worker_exact (hsane : Sane db drawn)
    (hc : CredentialRun (credentialStart db clock drawn) c) : ExpiryWorkerExact c := by
  have hinv := (credentialRun_invariant hsane hc).1
  obtain ⟨htimely, hfailed⟩ := batchRun_invariant hc
  have hdegrades : ∀ e ∈ c.shared.history, e.request.isBatch = true →
      ∃ timestamp rows, timestamp ≤ c.shared.clock ∧ Degrades timestamp rows e.before e.after :=
    fun e he hbatch ↦ (hinv.history e he).degrades hbatch (htimely e he hbatch)
  refine
    { degrades := hdegrades
      failed := hfailed
      renewed :=
      fun past e later id row expiresAt hsplit hdecides hrow hfull hexpires hvalid hlast ↦ ?_
      uncontended := fun adminActorId batchSize? batchSize hbatch hsize hgrant hfree m ↦ ?_ }
  · have hmem : ∀ e' ∈ e :: later, e' ∈ c.shared.history := by
      intro e' he'
      rw [hsplit]
      exact List.mem_append_right _ he'
    obtain ⟨decidedAt, expiresAt', hdecided, hexpires', hlater⟩ :=
      (hinv.history e (hmem e List.mem_cons_self)).expiry hdecides hrow hfull
    obtain rfl := Option.some.inj (hexpires.symm.trans hexpires')
    obtain ⟨middle, -, hreplays⟩ := replays_of_append (hsplit ▸ hc.replays)
    refine provider_of_replays hreplays hrow fun e' he' hbefore ↦ ?_
    have he'' := hmem e' (List.mem_cons_of_mem _ he')
    cases hbatch : e'.request.isBatch with
    | true =>
      obtain ⟨timestamp, rows, hpassed, hbatch⟩ := hdegrades e' he'' hbatch
      refine (hbatch.others id fun hmem' ↦ ?_).trans hbefore
      obtain ⟨row', hrow', rfl⟩ := List.mem_map.mp hmem'
      obtain ⟨hstored, hdue⟩ := hbatch.due row' hrow'
      obtain rfl := Option.some.inj (hstored.symm.trans hbefore)
      have hnot := not_isDue hdecided hexpires hlater (hpassed.trans_lt hvalid)
      exact absurd (hdue.symm.trans hnot) (by simp)
    | false =>
      obtain ⟨-, s, hs, heffect⟩ := hinv.history e' he''
      refine (heffect.provider_eq hbatch fun actor caseId at? he ↦ ?_).trans (hs ▸ hbefore)
      exact hlast e' he' ⟨actor, caseId, at?, he⟩
  · obtain ⟨ns, c', hns, hexec, hdue, -, hresponses⟩ :=
      exec_batches hbatch hsize m ⟨hinv.store.provider_ids, hgrant, hfree⟩
    refine ⟨ns, c', hns, hexec, ?_, hresponses⟩
    rw [hdue, List.length_drop]

end Worker

/-! ## Two batches

The full verifications of two advocates have lapsed. A third one is verified fully and the expiry
worker comes by twice. -/

def lapsedAdvocate (id : ℕ) : Provider :=
  { advocateRow with
    id := id
    tier := .fullyVerified
    tierDecidedAt := some 1000
    tierExpiresAt := some 2000 }

/-- An advocate whose case awaits its decision, two whose verification has lapsed, and the grants of
a reviewer and of the expiry worker. -/
def renewalStore : Database where
  roleGrants := [⟨2, .admin, "credentials:review"⟩, ⟨2, .admin, "credentials:revalidate"⟩]
  providers := [advocateRow, lapsedAdvocate 8, lapsedAdvocate 9]
  policies := [⟨"ADVOCATE", "v1", verifiedPolicy, true⟩]
  cases := [reviewRequiredCase 1 1000 0]
  checks := verifiedRows

theorem renewalStore_sane : Sane renewalStore 10 where
  store :=
    { provider_ids := by decide
      case_ids := List.nodup_singleton _
      case_provider := by simp [renewalStore, reviewRequiredCase, Database.provider,
        advocateRow, lookupBy]
      one_active := by simp [renewalStore]
      undecided := by simp [renewalStore, reviewRequiredCase]
      checks := ⟨by decide, by decide, by decide, by decide, by decide⟩
      policy_versions := fun _ ↦ (List.nodup_singleton "v1").sublist (List.filter_sublist.map _)
      decided := by simp [renewalStore, reviewRequiredCase] }
  unused n hn := by
    refine ⟨?_, ?_⟩ <;> simp [renewalStore, reviewRequiredCase, verifiedRows] <;> omega

/-- The case is decided, and two batches of size one follow. -/
def renewalRun : List (Action CredentialRequest) :=
  decideCase :: statements 0 20 ++ .start (.revalidate 2 (some 1)) :: statements 1 8 ++
    .start (.revalidate 2 (some 1)) :: statements 2 8

theorem renewalRun_possible :
    (exec credentialProgram (credentialStart renewalStore 5000000 10) renewalRun).isSome := by rfl

def renewalEnd : CredentialConfig :=
  (exec credentialProgram (credentialStart renewalStore 5000000 10) renewalRun).get
    renewalRun_possible

theorem expiry_worker_exact_renewalRun :
    ExpiryWorkerExact renewalEnd ∧
      renewalEnd.shared.store.providers.map (·.tier) =
        [.fullyVerified, .documentVerified, .documentVerified] ∧
      renewalEnd.shared.history.length = 3 :=
  ⟨expiry_worker_exact renewalStore_sane (.get _), by decide +kernel, by decide +kernel⟩

end Nayasetu
