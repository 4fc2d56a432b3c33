import Nayasetu.Credential.Effects

/-!
# The standing of a provider, and the lock discipline

The commits of a run say where a provider stands: which case was last decided for it, and whether
it has been degraded since (`standing`). The tier of the provider is explained by its standing, and
this is part of the invariant of the lock discipline all credential operations keep to
(`credentialDiscipline`). A commit meets the discipline if it is one of the effects
(`Effect.commit`).

A commit of the log names the request it answers. The standing is a fold over these commits, and
looks at the store only to see whether a batch of the worker has changed the row of the provider.
So it is a second account of the history. `Standing.Explains` connects the two: a provider without
a finalization is as it was at the start, one with a finalization has its tier and expiry, and one
degraded since has lost the full tier.
-/

namespace Nayasetu

open Values RowLock Collections

/-- The case last decided for a provider, and whether the provider was degraded since. -/
structure Standing where
  caseId : Option ℕ
  degraded : Bool
  deriving DecidableEq, Repr

/-- The standing of provider `id` after a commit. -/
def Standing.after (id : ℕ) (standing : Standing) (e : Entry Database CredentialRequest) :
    Standing :=
  match e.request with
  | .finalize _ providerId caseId _ => if providerId = id then ⟨some caseId, false⟩ else standing
  | .revalidate _ _ =>
    if e.after.provider id = e.before.provider id then standing
    else { standing with degraded := true }
  | _ => standing

/-- The standing of provider `id` after a run of commits. -/
def standing (id : ℕ) (history : List (Entry Database CredentialRequest)) : Standing :=
  history.foldl (Standing.after id) ⟨none, false⟩

theorem standing_concat (id : ℕ) (history : List (Entry Database CredentialRequest))
    (e : Entry Database CredentialRequest) :
    standing id (history ++ [e]) = (standing id history).after id e := by
  rw [standing, List.foldl_append, List.foldl_cons, List.foldl_nil, ← standing]

/-- A row of the provider that fits its standing, when the run began in `db₀`. -/
inductive Standing.Explains (db₀ db : Database) (id : ℕ) : Standing → Provider → Prop where
  /-- Nothing has happened. -/
  | initial {provider : Provider} (h : db₀.provider id = some provider) :
      Explains db₀ db id ⟨none, false⟩ provider
  /-- The tier of the start has lapsed. -/
  | lapsed {provider : Provider} {timestamp : ℤ} (h : db₀.provider id = some provider)
      (hfull : provider.tier = .fullyVerified) :
      Explains db₀ db id ⟨none, true⟩ (provider.degrade timestamp)
  /-- The tier is the outcome of the case. -/
  | decided {provider : Provider} {caseId : ℕ} {c : VerificationCase}
      (hcase : db.case caseId = some c)
      (hprovider : c.providerId = id) (hstatus : c.status = .decided)
      (houtcome : c.tierOutcome = some provider.tier)
      (hdecidedAt : c.decidedAt = provider.tierDecidedAt)
      (hexpiry : c.tierExpiresAt = provider.tierExpiresAt) :
      Explains db₀ db id ⟨some caseId, false⟩ provider
  /-- The full verification of the case has lapsed. -/
  | degraded {provider : Provider} {caseId : ℕ} {c : VerificationCase}
      (hcase : db.case caseId = some c) (hprovider : c.providerId = id)
      (hstatus : c.status = .decided)
      (houtcome : c.tierOutcome = some .fullyVerified) (htier : provider.tier = .documentVerified)
      (hexpiry : provider.tierExpiresAt = none) : Explains db₀ db id ⟨some caseId, true⟩ provider

namespace Standing

variable {db₀ db db' : Database} {id : ℕ} {standing : Standing} {provider : Provider}

theorem Explains.of_grows (hg : Grows db db') (h : standing.Explains db₀ db id provider) :
    standing.Explains db₀ db' id provider := by
  cases h with
  | initial h => exact .initial h
  | lapsed h hfull => exact .lapsed h hfull
  | decided hcase hprovider hstatus houtcome hdecidedAt hexpiry =>
    exact .decided (hg.decided _ _ hcase hstatus).1 hprovider hstatus houtcome hdecidedAt hexpiry
  | degraded hcase hprovider hstatus houtcome htier hexpiry =>
    exact .degraded (hg.decided _ _ hcase hstatus).1 hprovider hstatus houtcome htier hexpiry

/-- A degradation of a full verification. -/
theorem Explains.degrade (h : standing.Explains db₀ db id provider)
    (hfull : provider.tier = .fullyVerified) (timestamp : ℤ) :
    Explains db₀ db id { standing with degraded := true } (provider.degrade timestamp) := by
  cases h with
  | initial h => exact .lapsed h hfull
  | lapsed => exact nomatch hfull
  | decided hcase hprovider hstatus houtcome =>
    exact .degraded hcase hprovider hstatus (hfull ▸ houtcome) rfl rfl
  | degraded _ _ _ _ htier => exact nomatch htier.symm.trans hfull

end Standing

section Effects

variable {i : ℕ} {s : Shared Database LockKey CredentialRequest} {r : CredentialRequest}
  {db db₀ snap : Database}

theorem Provider.tier_of_isDue {provider : Provider} {timestamp : ℤ}
    (h : provider.isDue timestamp = true) : provider.tier = .fullyVerified := by
  simp only [Provider.isDue, Bool.and_eq_true, decide_eq_true_iff] at h
  exact h.1

/-- **Every effect moves the standing of a provider together with its tier.** -/
theorem Effect.standing (h : Effect i s r db) {id : ℕ} {standing : Standing}
    (hold : ∀ provider, s.store.provider id = some provider →
      standing.Explains db₀ s.store id provider) {provider : Provider}
    (hp : db.provider id = some provider) :
    (standing.after id ⟨i, r, snap, s.store, db⟩).Explains db₀ db id provider := by
  have hgrows := h.grows
  cases h with
  | recordManual => exact (hold provider hp).of_grows hgrows
  | recordUnavailable => exact (hold provider hp).of_grows hgrows
  | openCase => exact (hold provider hp).of_grows hgrows
  | changePolicies =>
    rw [Database.provider, (applyPolicyChanges_tables _ _).1] at hp
    exact (hold provider hp).of_grows hgrows
  | @finalize actor providerId caseId at? provider₀ c row policy now decision events
      hprovider _ hcase hactive =>
    obtain rfl := (Database.mem_of_case hcase).2
    obtain rfl := (Database.mem_of_provider hprovider).2
    rw [Database.provider_insertAudit, Database.provider_updateProvider,
      Database.provider_updateCase] at hp
    change Standing.Explains db₀ _ id (if provider₀.id = id then _ else standing) provider
    by_cases hid : provider₀.id = id
    · subst hid
      rw [if_pos rfl]
      rw [Provider.withDecision_id, if_pos rfl, hprovider, Option.map_some] at hp
      obtain rfl := Option.some.inj hp
      refine .decided (c := c.withDecision decision.toMicroseconds (1000 * now) actor.actorId row)
        ?_ hactive.1 rfl rfl rfl rfl
      rw [Database.case_insertAudit, Database.case_updateProvider, Database.case_updateCase]
      exact (if_pos rfl).trans (by rw [hcase, Option.map_some])
    · -- the decision wrote another row, and more history only adds to what explains this one
      rw [if_neg hid]
      rw [Provider.withDecision_id, if_neg fun he ↦ hid he.symm] at hp
      exact (hold provider hp).of_grows hgrows
  | @revalidate adminActorId batchSize? timestamp requestId rows hnodup hrows =>
    change Standing.Explains db₀ _ id (if _ = s.store.provider id then standing else _) provider
    by_cases hmem : id ∈ rows.map (·.id)
    · obtain ⟨row, hrow, rfl⟩ := List.mem_map.mp hmem
      obtain ⟨hstored, hdue, -⟩ := hrows row hrow
      have hfull := Provider.tier_of_isDue hdue
      have hdegraded :
          (degradeAll timestamp adminActorId requestId rows s.store).provider row.id =
            some (row.degrade timestamp) := provider_degradeAll_of_mem hnodup hrow hstored
      obtain rfl := Option.some.inj (hp.symm.trans hdegraded)
      -- the degraded row is not the stored one, since their tiers differ
      rw [if_neg]
      · exact ((hold row hstored).degrade hfull timestamp).of_grows hgrows
      · rw [hdegraded, hstored, Option.some.injEq]
        exact fun he ↦ by cases (congrArg Provider.tier he).trans hfull
    · have hsame : (degradeAll timestamp adminActorId requestId rows s.store).provider id =
          s.store.provider id := provider_degradeAll_of_not_mem hmem
      rw [if_pos hsame]
      exact (hold provider (hsame ▸ hp)).of_grows hgrows

end Effects

/-! ## The discipline

The invariant and the relation that the rules of the transaction library ask for, put together.
-/

/-- The commit is an effect on a store that satisfied the invariant. -/
structure Committed (e : Entry Database CredentialRequest) : Prop where
  before : StoreInvariant e.before
  effect : ∃ s : Shared Database LockKey CredentialRequest, s.store = e.before ∧
    Effect e.session s e.request e.after

/-- What holds of every reachable shared part, when the run began in `db₀`. -/
structure CredentialInvariant (db₀ : Database) (s : Shared Database LockKey CredentialRequest) :
    Prop where
  store : StoreInvariant s.store
  unused : ∀ n, s.minted.length ≤ n → s.store.Unused n
  history : ∀ e ∈ s.history, Committed e
  standing : ∀ id provider, s.store.provider id = some provider →
    (standing id s.history).Explains db₀ s.store id provider

def credentialDiscipline (db₀ : Database) : Discipline Database LockKey CredentialRequest where
  Inv := CredentialInvariant db₀
  Keep key := key.Protects
  Unused n db := db.Unused n
  Mono := Grows
  keep_refl := LockKey.protects_refl
  keep_trans _ _ _ _ := LockKey.protects_trans
  mono_refl := Grows.refl
  mono_trans _ _ _ := Grows.trans
  unused_of_inv _ n h hn := h.unused n hn
  inv_of_same _ _ hstore hhistory hminted _ _ h :=
    { store := hstore ▸ h.store
      unused := fun n hn ↦ hstore ▸ h.unused n (hminted.length_le.trans hn)
      history := hhistory ▸ h.history
      standing := hhistory ▸ hstore ▸ h.standing }

/-- **A commit that is an effect meets the discipline.** -/
theorem Effect.commit {i : ℕ} {s : Shared Database LockKey CredentialRequest}
    {r : CredentialRequest}
    {db₀ : Database} (snap : Database) {w : Database → Database} (hinv : CredentialInvariant db₀ s)
    (h : Effect i s r (w s.store)) :
    CredentialInvariant db₀ (s.commit i r snap w) ∧
      ∀ j, j ≠ i → (credentialDiscipline db₀).Rely j s (s.commit i r snap w) := by
  have hunused : ∀ n : ℕ, s.minted[n]? ≠ some (some i) → s.store.Unused n → (w s.store).Unused n :=
    fun n ↦ h.unused
  refine ⟨?_, Discipline.rely_commit (fun key ↦ h.protects) hunused h.grows⟩
  refine
    { store := h.storeInvariant hinv.store
      unused := fun n hn ↦ hunused n ?_ (hinv.unused n hn)
      history := List.forall_mem_append.mpr ⟨hinv.history, ?_⟩
      standing := fun id provider hp ↦ ?_ }
  · have hn : s.minted.length ≤ n := hn
    rw [List.getElem?_eq_none hn]
    exact nofun
  · rintro _ he
    rw [List.mem_singleton.mp he]
    exact ⟨hinv.store, s, rfl, h⟩
  · rw [Shared.commit, standing_concat]
    exact h.standing (hinv.standing id) hp

end Nayasetu
