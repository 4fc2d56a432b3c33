import Nayasetu.Credential.Revalidation
import Nayasetu.Intake.Rotation

/-!
# What the expiry worker changes for allocation

The directory, the selection and the rotation compare the stored tier of a provider with a minimum
and leave out a full verification that has expired; they do not read it as a document verification.
So a provider whose full verification is due may be found only after the expiry worker has come by:
`worker_invisible_iff` says when.
-/

namespace Nayasetu

open Values RowLock Collections

/-! ## The worker at work

The relation between a table before and after batches of the worker: some rows that were due are
degraded, and the others are the same.
-/

/-- Batches of the expiry worker at one instant, one after another until no provider is due. -/
inductive WorkedOff (t : ℤ) : Database → Database → Prop where
  | done {db : Database} (h : db.dueProviders t = []) : WorkedOff t db db
  | batch {db db' : Database} {adminActorId batchSize : ℕ} {requestId : String}
      (h : WorkedOff t (degradeAll t adminActorId requestId ((db.dueProviders t).take batchSize) db)
        db') : WorkedOff t db db'

def Provider.workedOff (provider : Provider) (t : ℤ) : Provider :=
  if provider.isDue t then provider.degrade t else provider

theorem Provider.workedOff_id (provider : Provider) (t : ℤ) :
    (provider.workedOff t).id = provider.id := by
  rw [workedOff]
  split <;> rfl

theorem Provider.workedOff_degrade {provider : Provider} {t : ℤ} (h : provider.isDue t = true) :
    (provider.degrade t).workedOff t = provider.workedOff t := by
  have hdegraded : (provider.degrade t).isDue t = false := rfl
  rw [workedOff, workedOff, if_pos h, hdegraded]
  exact if_neg (by simp)

section Degradations

variable {t : ℤ} {actorId : ℕ} {requestId : String}

variable (t actorId requestId) in
theorem degradeAll_eq (rows : List Provider) (db : Database) :
    ∃ providers auditEvents, degradeAll t actorId requestId rows db =
      { db with
        providers := providers
        auditEvents := auditEvents } := by
  induction rows generalizing db with
  | nil => exact ⟨db.providers, db.auditEvents, rfl⟩
  | cons row rows ih =>
    obtain ⟨providers, auditEvents, h⟩ := ih ((db.updateProvider (row.degrade t)).insertAudit
      [degradationAudit row t actorId requestId])
    exact ⟨providers, auditEvents, h⟩

/-- What a batch has degraded is as the worker would leave it. -/
theorem map_workedOff_degradeAll {rows : List Provider} {db : Database}
    (hids : (db.providers.map (·.id)).Nodup)
    (hrows : ∀ row ∈ rows, row ∈ db.providers ∧ row.isDue t = true)
    (hnodup : (rows.map (·.id)).Nodup) :
    (degradeAll t actorId requestId rows db).providers.map (·.workedOff t) =
      db.providers.map (·.workedOff t) := by
  induction rows generalizing db with
  | nil => rfl
  | cons row rows ih =>
    rw [List.forall_mem_cons] at hrows
    rw [List.map_cons, List.nodup_cons] at hnodup
    obtain ⟨⟨hrow, hdue⟩, hrest⟩ := hrows
    have hproviders : ((db.updateProvider (row.degrade t)).insertAudit
        [degradationAudit row t actorId requestId]).providers =
          replaceBy Provider.id (row.degrade t) db.providers := rfl
    refine (ih (nodup_map_replaceBy hids _) (fun other hother ↦ ⟨?_, (hrest other hother).2⟩)
      hnodup.2).trans ?_
    · rw [hproviders]
      refine mem_replaceBy_of_ne (hrest other hother).1 fun he ↦ hnodup.1 ?_
      exact List.mem_map.mpr ⟨other, hother, he⟩
    · rw [hproviders, replaceBy, List.map_map]
      refine List.map_congr_left fun provider hprovider ↦ ?_
      rw [Function.comp_apply]
      by_cases hid : provider.id = (row.degrade t).id
      · rw [if_pos hid, Provider.workedOff_degrade hdue]
        rw [List.inj_on_of_nodup_map hids hprovider hrow hid]
      · rw [if_neg hid]

/-- The worker degrades what is due and touches nothing else that allocation reads. -/
theorem WorkedOff.eq {db db' : Database} (h : WorkedOff t db db')
    (hids : (db.providers.map (·.id)).Nodup) :
    ∃ auditEvents, db' =
      { db with
        providers := db.providers.map (·.workedOff t)
        auditEvents := auditEvents } := by
  induction h with
  | @done db h =>
    refine ⟨db.auditEvents, ?_⟩
    have hnone : db.providers.map (·.workedOff t) = db.providers := by
      refine (List.map_congr_left fun provider hprovider ↦ ?_).trans (List.map_id' _)
      refine if_neg fun hdue ↦ ?_
      have hmem : provider ∈ db.dueProviders t := mem_dueProviders.mpr ⟨hprovider, hdue⟩
      rw [h] at hmem
      exact List.not_mem_nil hmem
    rw [hnone]
  | @batch db db' adminActorId batchSize requestId h ih =>
    have hrows : ∀ row ∈ (db.dueProviders t).take batchSize, row ∈ db.providers ∧
        row.isDue t = true :=
      fun row hrow ↦ mem_dueProviders.mp (List.mem_of_mem_take hrow)
    have hnodup : (((db.dueProviders t).take batchSize).map (·.id)).Nodup :=
      (dueProviders_nodup hids t).sublist ((List.take_sublist _ _).map _)
    obtain ⟨auditEvents, rfl⟩ := ih (by rw [(degradeAll_tables _ _).2.2.2]; exact hids)
    refine ⟨auditEvents, ?_⟩
    rw [map_workedOff_degradeAll hids hrows hnodup]
    obtain ⟨providers, auditEvents', hdb⟩ :=
      degradeAll_eq t adminActorId requestId ((db.dueProviders t).take batchSize) db
    rw [hdb]

end Degradations

/-- A worker that nobody contends with gets all due providers done. -/
theorem exec_workedOff {adminActorId : ℕ} {batchSize? : Option ℤ} {batchSize : ℕ}
    (hbatch : batchSize?.getD 100 = batchSize) (hsize : 1 ≤ batchSize ∧ batchSize ≤ 1000)
    {c : CredentialConfig} (hc : Uncontended adminActorId c) :
    ∃ ns c', exec credentialProgram c (batches adminActorId batchSize? c.sessions.length ns) =
    some c' ∧
      WorkedOff c.shared.clock c.shared.store c'.shared.store := by
  generalize hn : (c.shared.store.dueProviders c.shared.clock).length = n
  induction n using Nat.strong_induction_on generalizing c with
  | _ n ih =>
    by_cases hdue : c.shared.store.dueProviders c.shared.clock = []
    · exact ⟨[], c, rfl, .done hdue⟩
    · obtain ⟨statements, c₁, hexec, hdone⟩ := exec_batch hbatch hsize hc
      obtain ⟨u, hsessions, -⟩ := hdone.response
      have hlength : c₁.sessions.length = c.sessions.length + 1 := by
        rw [hsessions, List.length_append, List.length_singleton]
      have hpos := List.length_pos_of_ne_nil hdue
      have hless : (c₁.shared.store.dueProviders c₁.shared.clock).length < n := by
        rw [hdone.clock, hdone.due, List.length_drop]
        omega
      obtain ⟨ns, c', hrest, hworked⟩ := ih _ hless hdone.uncontended rfl
      obtain ⟨requestId, hstore⟩ := hdone.store
      rw [hdone.clock, hstore] at hworked
      refine ⟨statements :: ns, c', (exec_append_of_eq hexec).trans ?_, .batch hworked⟩
      rw [← hlength]
      exact hrest

/-! ## The queries

The queries of the allocation as functions of the store.
-/

section Queries

variable (config : AppConfig) (need : NeedRequest) (query : DirectoryQuery) (t : ℤ)

/-- The providers that the directory query finds. -/
def directoryIds (db : Database) : List ℕ :=
  (directoryCandidates config need query t db).map (·.1.providerId)

/-- Whether the selection query finds the provider, over one version of the rows. -/
def selects (db : Database) (providerId : ℕ) : Bool :=
  (db.provider providerId).any fun provider ↦ db.services.any fun service ↦
    service.providerId = providerId && decide (provider.Suits service config need query t)

/-- The selection query answers so when nobody contends with it. -/
theorem alone_selectEligibleProvider {Req : Type} {i : ℕ} {r : Req} {v : View Database LockKey Req}
    {providerId : ℕ} (hfree : v.shared.Available i (.provider providerId)) :
    ∃ w, alone i 0 r (selectEligibleProvider config need query providerId t) v =
      some (.ok (selects config need query t (v.pending v.shared.store) providerId), w) := by
  have hread : alone i 0 r (snapshot : Tx Database) v =
      some (.ok (v.pending v.shared.store), { v with snapshot := v.shared.store }) := rfl
  dsimp only [selectEligibleProvider]
  rw [alone_bind hread]
  cases hfound : selects config need query t (v.pending v.shared.store) providerId with
  | false =>
    refine ⟨{ v with snapshot := v.shared.store }, ?_⟩
    rw [selects] at hfound
    rw [if_pos]
    · rfl
    · rw [hfound]
      rfl
  | true =>
    have hlock : alone i 0 r (lock (.provider providerId) : Tx Database)
        { v with snapshot := v.shared.store } = some (.ok (v.pending v.shared.store),
          ⟨v.shared.acquire i (.provider providerId), v.pending, v.shared.store⟩) := if_pos hfree
    refine ⟨⟨v.shared.acquire i (.provider providerId), v.pending, v.shared.store⟩, ?_⟩
    rw [selects] at hfound
    rw [if_neg]
    · refine (alone_bind hlock).trans ?_
      rw [hfound]
      rfl
    · rw [hfound]
      exact Bool.false_ne_true

end Queries

/-! ## Tiers that are misread

A tier is misread if it is a full verification that has expired and a document verification would
be enough.
-/

def Provider.TierSuffices (provider : Provider) (minimumTier : VerificationTier) (t : ℤ) : Prop :=
  minimumTier ≤ provider.tier ∧ provider.TierCurrent t

/-- A full verification is due, and the tier condition does not read it as the document
verification it is about to become. -/
def Provider.Misread (provider : Provider) (minimumTier : VerificationTier) (t : ℤ) : Prop :=
  provider.isDue t = true ∧ ¬ (provider.TierCurrent t ↔ minimumTier ≤ .documentVerified)

theorem misread_iff (provider : Provider) (minimumTier : VerificationTier) (t : ℤ) :
    provider.Misread minimumTier t ↔
      ¬ (provider.TierSuffices minimumTier t ↔
        (provider.workedOff t).TierSuffices minimumTier t) := by
  rw [Provider.Misread, Provider.workedOff]
  by_cases hdue : provider.isDue t = true
  · rw [if_pos hdue]
    have hmost : minimumTier ≤ .fullyVerified := by cases minimumTier <;> decide
    have hbefore : provider.TierSuffices minimumTier t ↔ provider.TierCurrent t := by
      rw [Provider.TierSuffices, Provider.tier_of_isDue hdue, and_iff_right hmost]
    have hafter : (provider.degrade t).TierSuffices minimumTier t ↔
        minimumTier ≤ .documentVerified := and_iff_left (.inl nofun)
    rw [hbefore, hafter, and_iff_right hdue]
  · rw [if_neg hdue]
    exact ⟨fun h ↦ absurd h.1 hdue, fun h ↦ absurd Iff.rfl h⟩

/-! ## The directory and the selection

Both ask the same of a provider and a service, so they change in the same way.
-/

section Directory

variable {config : AppConfig} {need : NeedRequest} {query : DirectoryQuery} {t : ℤ}
  {db : Database}

/-- The other conditions of the directory and of the selection. -/
def Provider.Matches (provider : Provider) (service : ProviderService) (config : AppConfig)
    (need : NeedRequest) (query : DirectoryQuery) : Prop :=
  provider.providerType = query.providerType ∧ provider.status ∈ config.providerActiveStatuses ∧
    service.taxonomyCode = need.taxonomyCode ∧ provider.district = need.district ∧
    need.language ∈ provider.languages ∧ need.modePref ∈ provider.serviceModes ∧
    ∀ feeCeiling ∈ need.feeCeiling, service.feeMin ≤ feeCeiling

theorem suits_iff {provider : Provider} {service : ProviderService} :
    provider.Suits service config need query t ↔
      provider.Matches service config need query ∧ provider.TierSuffices query.minimumTier t := by
  simp only [Provider.Suits, Provider.Matches, Provider.TierSuffices, and_assoc]

/-- The worker changes only the tier. -/
theorem matches_workedOff {provider : Provider} {service : ProviderService} :
    (provider.workedOff t).Matches service config need query ↔
      provider.Matches service config need query := by
  rw [Provider.workedOff]
  split <;> exact Iff.rfl

def Provider.Offers (provider : Provider) (db : Database) (config : AppConfig) (need : NeedRequest)
    (query : DirectoryQuery) : Prop :=
  ∃ service ∈ db.services, service.providerId = provider.id ∧
    provider.Matches service config need query

theorem mem_directoryIds {id : ℕ} : id ∈ directoryIds config need query t db ↔
    ∃ provider ∈ db.providers, provider.id = id ∧ provider.Offers db config need query ∧
      provider.TierSuffices query.minimumTier t := by
  simp only [directoryIds, directoryCandidates, List.mem_map, List.mem_flatMap, List.mem_filter,
    Bool.and_eq_true, decide_eq_true_iff, suits_iff, Provider.Offers]
  constructor
  · rintro ⟨_, ⟨provider, hprovider, service, ⟨hservice, howner, hmatches, htier⟩, rfl⟩, rfl⟩
    exact ⟨provider, hprovider, rfl, ⟨service, hservice, howner, hmatches⟩, htier⟩
  · rintro ⟨provider, hprovider, rfl, ⟨service, hservice, howner, hmatches⟩, htier⟩
    exact ⟨_, ⟨provider, hprovider, service, ⟨hservice, howner, hmatches, htier⟩, rfl⟩, rfl⟩

theorem selects_iff_mem (hids : (db.providers.map (·.id)).Nodup) {id : ℕ} :
    selects config need query t db id = true ↔ id ∈ directoryIds config need query t db := by
  rw [mem_directoryIds]
  simp only [selects, Option.any_eq_true, List.any_eq_true, Bool.and_eq_true, decide_eq_true_iff,
    suits_iff, Provider.Offers]
  constructor
  · rintro ⟨provider, hprovider, service, hservice, howner, hmatches, htier⟩
    obtain ⟨hmem, rfl⟩ := Database.mem_of_provider hprovider
    exact ⟨provider, hmem, rfl, ⟨service, hservice, howner, hmatches⟩, htier⟩
  · rintro ⟨provider, hmem, rfl, ⟨service, hservice, howner, hmatches⟩, htier⟩
    exact ⟨provider, (lookupBy_eq_some_iff hids).mpr ⟨hmem, rfl⟩, service, hservice,
      howner, hmatches, htier⟩

variable {db' : Database} {auditEvents : List AuditEvent}

theorem mem_directoryIds_workedOff (hdb' : db' = { db with
      providers := db.providers.map (·.workedOff t)
      auditEvents := auditEvents }) {id : ℕ} : id ∈ directoryIds config need query t db' ↔
    ∃ provider ∈ db.providers, provider.id = id ∧ provider.Offers db config need query ∧
      (provider.workedOff t).TierSuffices query.minimumTier t := by
  subst hdb'
  rw [mem_directoryIds]
  have hoffers (provider : Provider) : (provider.workedOff t).Offers { db with
      providers := db.providers.map (·.workedOff t)
      auditEvents := auditEvents } config need query ↔ provider.Offers db config need query := by
    simp only [Provider.Offers, Provider.workedOff_id, matches_workedOff]
  constructor
  · rintro ⟨_, hmem, hid, hoffered, htier⟩
    obtain ⟨provider, hprovider, rfl⟩ := List.mem_map.mp hmem
    exact ⟨provider, hprovider, (provider.workedOff_id t).symm.trans hid,
      (hoffers provider).mp hoffered, htier⟩
  · rintro ⟨provider, hprovider, hid, hoffered, htier⟩
    exact ⟨_, List.mem_map_of_mem hprovider, (provider.workedOff_id t).trans hid,
      (hoffers provider).mpr hoffered, htier⟩

theorem directoryIds_workedOff_iff (hids : (db.providers.map (·.id)).Nodup) (hdb' : db' = { db with
      providers := db.providers.map (·.workedOff t)
      auditEvents := auditEvents }) :
    (∀ id, id ∈ directoryIds config need query t db ↔ id ∈ directoryIds config need query t db') ↔
      ∀ provider ∈ db.providers, provider.Offers db config need query →
        ¬ provider.Misread query.minimumTier t := by
  simp only [mem_directoryIds_workedOff hdb', mem_directoryIds, misread_iff, not_not]
  constructor
  · intro h provider hprovider hoffers
    have huse {P : Provider → Prop} : (∃ other ∈ db.providers, other.id = provider.id ∧
        other.Offers db config need query ∧ P other) ↔ P provider := by
      constructor
      · rintro ⟨other, hother, hid, -, hP⟩
        rwa [← List.inj_on_of_nodup_map hids hother hprovider hid]
      · exact fun hP ↦ ⟨provider, hprovider, rfl, hoffers, hP⟩
    have hid := h provider.id
    rwa [huse, huse] at hid
  · intro h id
    constructor
    · rintro ⟨provider, hprovider, hid, hoffers, htier⟩
      exact ⟨provider, hprovider, hid, hoffers, (h provider hprovider hoffers).mp htier⟩
    · rintro ⟨provider, hprovider, hid, hoffers, htier⟩
      exact ⟨provider, hprovider, hid, hoffers, (h provider hprovider hoffers).mpr htier⟩

end Directory

/-! ## The rotation

The rotation asks it of a member of the roster, through the row of the provider.
-/

section Rotation

variable {config : AppConfig} {need : NeedRequest} {route : EligibilityRoute} {t : ℤ}
  {db : Database} {key : ℕ × ℕ}

/-- The other conditions of the rotation on a member and its provider, and the minimum tier of its
roster. -/
def Fits (config : AppConfig) (need : NeedRequest) (route : EligibilityRoute) (db : Database)
    (key : ℕ × ℕ) (minimumTier : VerificationTier) (provider : Provider) : Prop :=
  db.provider key.2 = some provider ∧
    ∃ member, db.membership key = some member ∧ ∃ roster, db.roster key.1 = some roster ∧
      roster.minimumTier = some minimumTier ∧ ∃ service ∈ db.services,
        service.providerId = provider.id ∧ service.taxonomyCode = roster.taxonomyCode ∧
        roster.district = need.district ∧ roster.taxonomyCode = need.taxonomyCode ∧
        member.status = "AVAILABLE" ∧ member.activeMatters < member.capacity ∧
        member.conflictBlocked = false ∧ provider.status ∈ config.providerActiveStatuses ∧
        provider.providerType = roster.providerType ∧
        (route = .paid ∨ service.proBonoAvailable = true)

theorem memberEligible_iff : memberEligible config need route t db db key = true ↔
    ∃ minimumTier provider, Fits config need route db key minimumTier provider ∧
      provider.TierSuffices minimumTier t := by
  simp only [memberEligible, Option.any_eq_true, List.any_eq_true, decide_eq_true_iff,
    RosterMembership.Selectable, Option.mem_def, Fits, Provider.TierSuffices]
  constructor
  · rintro ⟨member, hmember, roster, hroster, provider, hprovider, service, hservice, howner, hcode,
      hdistrict, htaxonomy, havailable, hcapacity, hblocked, hstatus, htype, hbono,
      ⟨minimumTier, hminimum, hle⟩, hcurrent⟩
    exact ⟨minimumTier, provider, ⟨hprovider, member, hmember, roster, hroster, hminimum, service,
      hservice, howner, hcode, hdistrict, htaxonomy, havailable, hcapacity,
      hblocked, hstatus, htype, hbono⟩, hle, hcurrent⟩
  · rintro ⟨minimumTier, provider, ⟨hprovider, member, hmember, roster, hroster, hminimum, service,
      hservice, howner, hcode, hdistrict, htaxonomy, havailable, hcapacity,
      hblocked, hstatus, htype, hbono⟩, hle, hcurrent⟩
    exact ⟨member, hmember, roster, hroster, provider, hprovider, service, hservice, howner, hcode,
      hdistrict, htaxonomy, havailable, hcapacity, hblocked, hstatus, htype, hbono,
      ⟨minimumTier, hminimum, hle⟩, hcurrent⟩

theorem Fits.unique {minimumTier minimumTier' : VerificationTier} {provider provider' : Provider}
    (h : Fits config need route db key minimumTier provider)
    (h' : Fits config need route db key minimumTier' provider') :
    minimumTier = minimumTier' ∧ provider = provider' := by
  obtain ⟨hprovider, -, -, roster, hroster, hminimum, -⟩ := h
  obtain ⟨hprovider', -, -, roster', hroster', hminimum', -⟩ := h'
  obtain rfl := Option.some.inj (hroster.symm.trans hroster')
  exact ⟨Option.some.inj (hminimum.symm.trans hminimum'),
    Option.some.inj (hprovider.symm.trans hprovider')⟩

variable {db' : Database} {auditEvents : List AuditEvent}

theorem provider_workedOff (id : ℕ) :
    lookupBy (·.id) id (db.providers.map (·.workedOff t)) = (db.provider id).map
      (·.workedOff t) := by
  rw [Database.provider, lookupBy, lookupBy, List.find?_map]
  simp only [Function.comp_def, Provider.workedOff_id]

theorem fits_workedOff_iff (hdb' : db' = { db with
      providers := db.providers.map (·.workedOff t)
      auditEvents := auditEvents }) {minimumTier : VerificationTier} {provider : Provider} :
    Fits config need route db' key minimumTier provider ↔
      ∃ old, Fits config need route db key minimumTier old ∧ old.workedOff t = provider := by
  subst hdb'
  have hprovider (provider : Provider) : Database.provider { db with
      providers := db.providers.map (·.workedOff t)
      auditEvents := auditEvents } key.2 = some provider ↔
        ∃ old, db.provider key.2 = some old ∧ old.workedOff t = provider := by
    rw [Database.provider, provider_workedOff, Option.map_eq_some_iff]
  have hsame (old : Provider) : (old.workedOff t).status = old.status ∧
      (old.workedOff t).providerType = old.providerType ∧ (old.workedOff t).id = old.id := by
    rw [Provider.workedOff]
    split <;> exact ⟨rfl, rfl, rfl⟩
  rw [Fits, hprovider]
  constructor
  · rintro ⟨⟨old, hold, rfl⟩, hrest⟩
    obtain ⟨hstatus, htype, hid⟩ := hsame old
    rw [hstatus, htype, hid] at hrest
    exact ⟨old, ⟨hold, hrest⟩, rfl⟩
  · rintro ⟨old, ⟨hold, hrest⟩, rfl⟩
    obtain ⟨hstatus, htype, hid⟩ := hsame old
    rw [hstatus, htype, hid]
    exact ⟨⟨old, hold, rfl⟩, hrest⟩

theorem memberEligible_workedOff_iff (hdb' : db' = { db with
      providers := db.providers.map (·.workedOff t)
      auditEvents := auditEvents }) :
    memberEligible config need route t db db key = memberEligible config need route t db' db' key ↔
      ∀ minimumTier provider, Fits config need route db key minimumTier provider →
        ¬ provider.Misread minimumTier t := by
  have hafter : memberEligible config need route t db' db' key = true ↔
      ∃ minimumTier provider, Fits config need route db key minimumTier provider ∧
        (provider.workedOff t).TierSuffices minimumTier t := by
    simp only [memberEligible_iff, fits_workedOff_iff hdb']
    constructor
    · rintro ⟨minimumTier, _, ⟨provider, hfits, rfl⟩, htier⟩
      exact ⟨minimumTier, provider, hfits, htier⟩
    · rintro ⟨minimumTier, provider, hfits, htier⟩
      exact ⟨minimumTier, _, ⟨provider, hfits, rfl⟩, htier⟩
  rw [Bool.eq_iff_iff, memberEligible_iff, hafter]
  simp only [misread_iff, not_not]
  constructor
  · intro h minimumTier provider hfits
    have huse {P : VerificationTier → Provider → Prop} : (∃ minimumTier' provider',
        Fits config need route db key minimumTier' provider' ∧ P minimumTier' provider') ↔
          P minimumTier provider := by
      constructor
      · rintro ⟨minimumTier', provider', hfits', hP⟩
        obtain ⟨rfl, rfl⟩ := hfits.unique hfits'
        exact hP
      · exact fun hP ↦ ⟨minimumTier, provider, hfits, hP⟩
    rwa [huse (P := fun minimumTier provider ↦ provider.TierSuffices minimumTier t),
      huse (P := fun minimumTier provider ↦ (provider.workedOff t).TierSuffices minimumTier t)] at h
  · intro h
    constructor
    · rintro ⟨minimumTier, provider, hfits, htier⟩
      exact ⟨minimumTier, provider, hfits, (h _ _ hfits).mp htier⟩
    · rintro ⟨minimumTier, provider, hfits, htier⟩
      exact ⟨minimumTier, provider, hfits, (h _ _ hfits).mpr htier⟩

private theorem filter_eq_filter_iff {α : Type} {p q : α → Bool} {l : List α} :
    l.filter p = l.filter q ↔ ∀ a ∈ l, p a = q a := by
  refine ⟨fun h a ha ↦ ?_, fun h ↦ List.filter_congr h⟩
  have hmem : a ∈ l.filter p ↔ a ∈ l.filter q := by rw [h]
  rw [List.mem_filter, List.mem_filter, and_iff_right ha, and_iff_right ha] at hmem
  exact Bool.eq_iff_iff.mpr hmem

/-- The worker is invisible to a rotation if and only if it misreads no provider of a member that
fits. -/
theorem eligibleMembers_workedOff_iff {rosterId : ℕ} (hdb' : db' = { db with
      providers := db.providers.map (·.workedOff t)
      auditEvents := auditEvents }) :
    eligibleMembers config need route t db rosterId = eligibleMembers config need route
      t db' rosterId ↔
      ∀ member ∈ db.memberships, member.rosterId = rosterId → ∀ minimumTier provider,
        Fits config need route db member.key minimumTier provider →
        ¬ provider.Misread minimumTier t := by
  have hmembers : db'.memberships = db.memberships := by rw [hdb']
  rw [eligibleMembers, eligibleMembers, hmembers, filter_eq_filter_iff]
  refine forall₂_congr fun member _ ↦ ?_
  rw [← memberEligible_workedOff_iff hdb']
  by_cases hroster : member.rosterId = rosterId
  · simp [hroster]
  · simp [hroster]

end Rotation

/-! ## Visibility

What the worker changes for a request is what was misread, no more and no less.
-/

section Visibility

variable (config : AppConfig) (need : NeedRequest) (query : DirectoryQuery)
  (route : EligibilityRoute)
  (rosterId : ℕ) (t : ℤ)

/-- Every query finds the same in both databases. -/
structure WorkerInvisible (db db' : Database) : Prop where
  directory : ∀ id, id ∈ directoryIds config need query t db ↔
    id ∈ directoryIds config need query t db'
  selection : ∀ id, selects config need query t db id = selects config need query t db' id
  rotation : eligibleMembers config need route t db rosterId =
    eligibleMembers config need route t db' rosterId

/-- No query misreads the tier of a provider that fulfils its other conditions. -/
structure NoneMisread (db : Database) : Prop where
  directory : ∀ provider ∈ db.providers, provider.Offers db config need query →
    ¬ provider.Misread query.minimumTier t
  rotation : ∀ member ∈ db.memberships, member.rosterId = rosterId → ∀ minimumTier provider,
    Fits config need route db member.key minimumTier provider → ¬ provider.Misread minimumTier t

/-- **The expiry worker is invisible to allocation** if and only if the queries misread no provider
that is due. -/
theorem worker_invisible_iff {db db' : Database} (hids : (db.providers.map (·.id)).Nodup)
    (h : WorkedOff t db db') :
    WorkerInvisible config need query route rosterId t db db' ↔
      NoneMisread config need query route rosterId t db := by
  obtain ⟨auditEvents, hdb'⟩ := h.eq hids
  have hids' : (db'.providers.map (·.id)).Nodup := by
    have hsame : db'.providers.map (·.id) = db.providers.map (·.id) := by
      rw [hdb', List.map_map]
      exact List.map_congr_left fun provider _ ↦ provider.workedOff_id t
    rw [hsame]
    exact hids
  constructor
  · intro hinvisible
    exact
      { directory := (directoryIds_workedOff_iff hids hdb').mp hinvisible.directory
        rotation := (eligibleMembers_workedOff_iff hdb').mp hinvisible.rotation }
  · intro hnone
    have hdirectory := (directoryIds_workedOff_iff hids hdb').mpr hnone.directory
    refine
      { directory := hdirectory
        selection := fun id ↦ ?_
        rotation := (eligibleMembers_workedOff_iff hdb').mpr hnone.rotation }
    rw [Bool.eq_iff_iff, selects_iff_mem hids, selects_iff_mem hids']
    exact hdirectory id

end Visibility

/-! ## A provider that is due

An advocate whose full verification has lapsed offers what is asked for. -/

/-- The advocate offers help with rented homes. -/
def lapsedOffer : Database where
  roleGrants := [⟨2, .admin, "credentials:revalidate"⟩]
  providers := [lapsedAdvocate 1]
  services := [⟨1, "TENANCY", 0, 100000, false⟩]

/-- Somebody in the same district asks for it. -/
def tenancyNeed : NeedRequest where
  id := 7
  citizenUserId := 20
  operatorDelegationId := none
  taxonomyCode := "TENANCY"
  district := "Pune"
  language := "mr"
  modePref := "REMOTE"
  feeCeiling := none
  urgency := "NORMAL"
  channel := "APP"
  createdAt := 0
  directoryProviderType := none
  directoryMinimumTier := none
  directoryGeneratedAt := none

/-- A deployment that shows active providers. -/
def activeConfig : AppConfig where
  nodeEnv := .test
  taxonomyCodes := ["TENANCY"]
  districtFeeFloors := []
  providerActiveStatuses := ["ACTIVE"]

/-- One batch of the worker is enough. -/
def lapsedOfferAfter : Database :=
  degradeAll 3000 2 "batch" ((lapsedOffer.dueProviders 3000).take 1) lapsedOffer

theorem lapsedOffer_workedOff : WorkedOff 3000 lapsedOffer lapsedOfferAfter :=
  .batch (.done (by rfl))

theorem worker_invisible_iff_lapsedOffer :
    WorkerInvisible activeConfig tenancyNeed ⟨"ADVOCATE", .fullyVerified⟩ .paid 5 3000 lapsedOffer
        lapsedOfferAfter ↔
      NoneMisread activeConfig tenancyNeed ⟨"ADVOCATE", .fullyVerified⟩ .paid 5 3000 lapsedOffer :=
  worker_invisible_iff _ _ _ _ _ _ (List.nodup_singleton 1) lapsedOffer_workedOff

/-- The directory of document-verified advocates is empty until the worker has come by. -/
theorem worker_visible : WorkedOff 3000 lapsedOffer lapsedOfferAfter ∧
    ¬ WorkerInvisible activeConfig tenancyNeed ⟨"ADVOCATE", .documentVerified⟩ .paid 5
      3000 lapsedOffer
      lapsedOfferAfter := by
  refine ⟨lapsedOffer_workedOff, fun h ↦ ?_⟩
  have hafter : 1 ∈ directoryIds activeConfig tenancyNeed ⟨"ADVOCATE", .documentVerified⟩ 3000
      lapsedOfferAfter := by decide +kernel
  have hbefore : 1 ∉ directoryIds activeConfig tenancyNeed ⟨"ADVOCATE", .documentVerified⟩ 3000
      lapsedOffer := by decide +kernel
  exact hbefore ((h.directory 1).mpr hafter)

end Nayasetu
