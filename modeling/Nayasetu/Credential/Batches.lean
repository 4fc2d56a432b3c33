import Mathlib.Data.List.TakeWhile
import Nayasetu.Credential.Safety
import Nayasetu.RowLock.Alone

/-!
# Batches of the expiry worker

What one batch of the expiry worker does when nobody contends with it: it degrades the first due
providers, by expiry and then by id, and leaves the others.

The statement of the worker orders its rows and takes at most as many as the batch allows. When no
row is held by another session, none is skipped, and the batch is a function of the store.
-/

namespace Nayasetu

open Values RowLock Collections

/-! ## The due providers

The order is total and two different rows are never equal in it, so the list of the due providers
does not depend on how the table is stored.
-/

/-- By expiry, a missing one first, and then by id. -/
def compareDue (a b : Provider) : ℤ :=
  match a.tierExpiresAt, b.tierExpiresAt with
  | none, none => (a.id : ℤ) - b.id
  | none, some _ => -1
  | some _, none => 1
  | some s, some t => if s = t then (a.id : ℤ) - b.id else s - t

/-- The providers due at an instant, in the order of their degradation. -/
def Database.dueProviders (db : Database) (timestamp : ℤ) : List Provider :=
  sortBy compareDue (db.providers.filter (·.isDue timestamp))

theorem compareDue_total (a b : Provider) : compareDue a b ≤ 0 ∨ compareDue b a ≤ 0 := by
  rw [compareDue, compareDue]
  cases a.tierExpiresAt <;> cases b.tierExpiresAt <;> dsimp only
  · omega
  · exact .inl (by decide)
  · exact .inr (by decide)
  · split <;> split <;> omega

theorem compareDue_trans (a b c : Provider) (hab : compareDue a b ≤ 0) (hbc : compareDue b c ≤ 0) :
    compareDue a c ≤ 0 := by
  rw [compareDue] at hab hbc ⊢
  cases ha : a.tierExpiresAt <;> cases hb : b.tierExpiresAt <;> cases hc : c.tierExpiresAt <;>
    rw [ha, hb] at hab <;> rw [hb, hc] at hbc <;> dsimp only at hab hbc ⊢
  · omega
  · decide
  · omega
  · decide
  · omega
  · omega
  · omega
  · split at hab <;> split at hbc <;> split <;> omega

theorem id_eq_of_compareDue {a b : Provider} (hab : compareDue a b ≤ 0) (hba : compareDue b a ≤ 0) :
    a.id = b.id := by
  rw [compareDue] at hab hba
  cases ha : a.tierExpiresAt <;> cases hb : b.tierExpiresAt <;>
    rw [ha, hb] at hab <;> rw [hb, ha] at hba <;> dsimp only at hab hba
  · omega
  · omega
  · omega
  · split at hab <;> split at hba <;> omega

theorem dueProviders_pairwise (db : Database) (timestamp : ℤ) :
    (db.dueProviders timestamp).Pairwise fun a b ↦ compareDue a b ≤ 0 :=
  pairwise_sortBy compareDue_total compareDue_trans _

theorem dueProviders_perm (db : Database) (timestamp : ℤ) :
    (db.dueProviders timestamp).Perm (db.providers.filter (·.isDue timestamp)) := sortBy_perm _ _

theorem mem_dueProviders {db : Database} {timestamp : ℤ} {provider : Provider} :
    provider ∈ db.dueProviders timestamp ↔ provider ∈ db.providers ∧
    provider.isDue timestamp = true := by
  rw [(dueProviders_perm db timestamp).mem_iff, List.mem_filter]

theorem dueProviders_nodup {db : Database} (h : (db.providers.map (·.id)).Nodup) (timestamp : ℤ) :
    ((db.dueProviders timestamp).map (·.id)).Nodup := by
  rw [((dueProviders_perm db timestamp).map _).nodup_iff]
  exact h.sublist (List.filter_sublist.map _)

/-! ## What is left

A degraded provider is no longer due, so the next batch starts where this one ended.
-/

section Left

variable {db : Database} {timestamp : ℤ} {actorId : ℕ} {requestId : String}

private theorem filter_isDue_updateProvider (row : Provider) :
    (db.updateProvider (row.degrade timestamp)).providers.filter (·.isDue timestamp) =
      (db.providers.filter (·.isDue timestamp)).filter (·.id ≠ row.id) := by
  have hproviders : (db.updateProvider (row.degrade timestamp)).providers =
      replaceBy Provider.id (row.degrade timestamp) db.providers := rfl
  have hdegraded : (row.degrade timestamp).isDue timestamp = false := rfl
  have hid : (row.degrade timestamp).id = row.id := rfl
  rw [hproviders, replaceBy, List.filter_map, List.filter_filter, hid]
  have hleft : db.providers.filter ((fun provider ↦ provider.isDue timestamp) ∘ fun provider ↦
      if provider.id = row.id then row.degrade timestamp else provider) =
        db.providers.filter fun provider ↦ decide (provider.id ≠ row.id) &&
          provider.isDue timestamp := by
    refine List.filter_congr fun provider _ ↦ ?_
    rw [Function.comp_apply]
    by_cases h : provider.id = row.id
    · rw [if_pos h, hdegraded, decide_eq_false (not_not.mpr h), Bool.false_and]
    · rw [if_neg h, decide_eq_true h, Bool.true_and]
  rw [hleft]
  refine (List.map_congr_left fun provider hprovider ↦ if_neg ?_).trans (List.map_id' _)
  have hkept := (List.mem_filter.mp hprovider).2
  rw [Bool.and_eq_true, decide_eq_true_iff] at hkept
  exact hkept.1

theorem filter_isDue_degradeAll (rows : List Provider) :
    (degradeAll timestamp actorId requestId rows db).providers.filter (·.isDue timestamp) =
      (db.providers.filter (·.isDue timestamp)).filter (·.id ∉ rows.map (·.id)) := by
  induction rows generalizing db with
  | nil => simp [degradeAll]
  | cons row rows ih =>
    refine ih.trans ?_
    have hupdate : ((db.updateProvider (row.degrade timestamp)).insertAudit
        [degradationAudit row timestamp actorId requestId]).providers =
          (db.updateProvider (row.degrade timestamp)).providers := rfl
    rw [hupdate, filter_isDue_updateProvider, List.filter_filter]
    refine List.filter_congr fun provider _ ↦ ?_
    rw [List.map_cons, Bool.eq_iff_iff]
    rw [Bool.and_eq_true, decide_eq_true_iff, decide_eq_true_iff, decide_eq_true_iff, List.mem_cons,
      not_or]
    exact and_comm

theorem dueProviders_degradeAll (h : (db.providers.map (·.id)).Nodup) (b : ℕ) :
    (degradeAll timestamp actorId requestId ((db.dueProviders timestamp).take b) db).dueProviders
      timestamp = (db.dueProviders timestamp).drop b := by
  have hnodup := dueProviders_nodup h timestamp
  have hsplit : (db.dueProviders timestamp).take b ++ (db.dueProviders timestamp).drop b =
      db.dueProviders timestamp := List.take_append_drop b _
  have hleft : (db.dueProviders timestamp).filter
      (·.id ∉ ((db.dueProviders timestamp).take b).map (·.id)) =
        (db.dueProviders timestamp).drop b := by
    rw [← hsplit, List.map_append, List.nodup_append] at hnodup
    conv_lhs => arg 2; rw [← hsplit]
    rw [List.filter_append, List.filter_eq_nil_iff.mpr, List.nil_append, List.filter_eq_self.mpr]
    · intro provider hprovider
      rw [decide_eq_true_iff]
      exact fun htaken ↦ hnodup.2.2 _ htaken _ (List.mem_map_of_mem hprovider) rfl
    · intro provider hprovider
      rw [decide_eq_true_iff, not_not]
      exact List.mem_map_of_mem hprovider
  -- both lists hold the same providers in the same order
  refine List.Perm.eq_of_pairwise (fun a b ha hb hab hba ↦ ?_) (dueProviders_pairwise _ _)
    ((dueProviders_pairwise db timestamp).sublist (List.drop_sublist _ _)) ?_
  · have hdue := (dueProviders_perm _ timestamp).subset ha
    rw [filter_isDue_degradeAll] at hdue
    exact List.inj_on_of_nodup_map h (List.mem_filter.mp (List.mem_filter.mp hdue).1).1
      (mem_dueProviders.mp ((List.drop_sublist _ _).subset hb)).1 (id_eq_of_compareDue hab hba)
  · refine (dueProviders_perm _ timestamp).trans ?_
    rw [filter_isDue_degradeAll, ← hleft]
    exact ((dueProviders_perm db timestamp).filter _).symm

end Left

/-! ## A batch by itself -/

/-- A text with something other than blanks in it is not blank. -/
theorem btrim_ne_empty {text : String} {c : Char} (hc : c ∈ text.toList) (hblank : c ≠ ' ') :
    btrim text ≠ "" := by
  intro h
  rw [btrim, String.ofList_eq_empty_iff, List.reverse_eq_nil_iff,
    List.dropWhile_eq_nil_iff] at h
  have hrest : text.toList.dropWhile (· = ' ') ≠ [] := fun hnil ↦
    hblank (of_decide_eq_true (List.dropWhile_eq_nil_iff.mp hnil c hc))
  have hfirst := List.head_dropWhile_not (· = ' ') hrest
  have hall := h _ (List.mem_reverse.mpr (List.head_mem hrest))
  exact absurd (hall.symm.trans hfirst) (by decide)

private theorem btrim_requestId (n : ℕ) :
    btrim ("worker:credential-revalidation:" ++ uuidText n) ≠ "" := by
  have hfirst : 'w' ∈ ("worker:credential-revalidation:" ++ uuidText n).toList := by
    rw [String.toList_append]
    exact List.mem_append_left _ (by decide)
  exact btrim_ne_empty hfirst (by decide)

/-- The session can get the lock of every provider. -/
def ProvidersFree (i : ℕ) (s : Shared Database LockKey CredentialRequest) : Prop :=
  ∀ id, s.Available i (.provider id)

section Alone

variable {i : ℕ} {r : CredentialRequest} {v w : CredentialView}
  {s s' s'' : Shared Database LockKey CredentialRequest}

variable {timestamp : ℤ} {actorId : ℕ} {requestId : String}

/-- The loop of a batch that nobody contends with. -/
theorem alone_degradeRows {n : ℕ} {providers : List Provider} (hfree : ProvidersFree i v.shared)
    (hnodup : (providers.map (·.id)).Nodup)
    (hrows : ∀ row ∈ providers, (v.pending v.shared.store).provider row.id = some row ∧
      row.isDue timestamp = true) :
    ∃ w, alone i 0 r (degradeRows timestamp actorId requestId n providers) v =
        some (.ok ((providers.take n).map (·.id)), w) ∧ OnlyLocks i v.shared w.shared ∧
      w.pending = degradeAll timestamp actorId requestId (providers.take n) ∘ v.pending := by
  induction providers generalizing n v with
  | nil =>
    refine ⟨v, ?_, .refl _, ?_⟩
    · cases n <;> rfl
    · rw [List.take_nil]
      rfl
  | cons provider providers ih =>
    cases n with
    | zero => exact ⟨v, rfl, .refl _, rfl⟩
    | succ n =>
      obtain ⟨⟨hrow, hdue⟩, hrest⟩ := List.forall_mem_cons.mp hrows
      obtain ⟨hid, hnodup'⟩ := List.nodup_cons.mp hnodup
      have hfilter : ((v.pending v.shared.store).provider provider.id).filter (·.isDue timestamp) =
          some provider := by rw [hrow, Option.filter_some, hdue]; rfl
      have hlocks : OnlyLocks i v.shared (v.shared.acquire i (.provider provider.id)) := .acquire _
      -- the view behind the two writes for this provider
      obtain ⟨w, hw, hw', hpending⟩ := ih (n := n)
        (v := ⟨v.shared.acquire i (.provider provider.id),
          Database.insertAudit [degradationAudit provider timestamp actorId requestId] ∘
            Database.updateProvider (provider.degrade timestamp) ∘ v.pending, v.snapshot⟩)
        (fun id ↦ hlocks.available (hfree id)) hnodup' (fun row hmem ↦ by
          obtain ⟨hstored, hdue'⟩ := hrest row hmem
          refine ⟨?_, hdue'⟩
          change ((Database.updateProvider (provider.degrade timestamp)
            (v.pending v.shared.store)).insertAudit _).provider row.id = some row
          rw [Database.provider_insertAudit, Database.provider_updateProvider]
          refine (if_neg fun he ↦ hid ?_).trans hstored
          have hsame : row.id = provider.id := he
          exact List.mem_map.mpr ⟨row, hmem, hsame⟩)
      refine ⟨w, ?_, hlocks.trans hw', ?_⟩
      · rw [degradeRows, alone_bind (alone_tryLock (hfree provider.id))]
        simp only [hfilter]
        exact (alone_bind rfl).trans ((alone_bind rfl).trans ((alone_bind hw).trans rfl))
      · rw [hpending]
        rfl

/-- A batch that nobody contends with degrades the first due providers. -/
theorem alone_batch {adminActorId : ℕ} {batchSize? : Option ℤ} {batchSize : ℕ}
    (hbatch : batchSize?.getD 100 = batchSize) (hsize : 1 ≤ batchSize ∧ batchSize ≤ 1000)
    (hfree : ProvidersFree i v.shared) (hpending : v.pending = id)
    (hids : (v.shared.store.providers.map (·.id)).Nodup)
    (hgrant : ⟨adminActorId, .admin, "credentials:revalidate"⟩ ∈ v.shared.store.roleGrants) :
    ∃ w requestId, alone i 0 r (runCredentialRevalidationBatch adminActorId batchSize?) v =
        some (.ok (((v.shared.store.dueProviders v.shared.clock).take batchSize).map (·.id)), w) ∧
      w.shared.store = degradeAll v.shared.clock adminActorId requestId
        ((v.shared.store.dueProviders v.shared.clock).take batchSize) v.shared.store ∧
      w.shared.clock = v.shared.clock ∧ (∀ id, w.shared.holder (.provider id) = none) := by
  obtain ⟨hone, hmost⟩ := hsize
  have hrows : ∀ row ∈ v.shared.store.dueProviders v.shared.clock,
      (v.pending v.shared.store).provider row.id = some row ∧ row.isDue v.shared.clock = true := by
    intro row hrow
    obtain ⟨hmem, hdue⟩ := mem_dueProviders.mp hrow
    rw [hpending]
    exact ⟨(lookupBy_eq_some_iff hids).mpr ⟨hmem, rfl⟩, hdue⟩
  have hsafe : |(batchSize : ℤ)| ≤ MAX_SAFE_INTEGER ∧ 0 < (batchSize : ℤ) := by
    rw [abs_of_nonneg (Int.natCast_nonneg _), MAX_SAFE_INTEGER]
    omega
  -- the loop starts behind the snapshot of the due providers
  have hdegraded (requestId : String) : ∃ w, alone i 0 r (degradeRows v.shared.clock adminActorId
      requestId batchSize (v.shared.store.dueProviders v.shared.clock))
        ⟨v.shared.mint i, v.pending, v.shared.store⟩ =
          some (.ok (((v.shared.store.dueProviders v.shared.clock).take batchSize).map (·.id)), w) ∧
      OnlyLocks i (v.shared.mint i) w.shared ∧
      w.pending = degradeAll v.shared.clock adminActorId requestId
        ((v.shared.store.dueProviders v.shared.clock).take batchSize) ∘ v.pending :=
    alone_degradeRows hfree (dueProviders_nodup hids v.shared.clock) hrows
  obtain ⟨w, hw, hlocks, hwritten⟩ :=
    hdegraded ("worker:credential-revalidation:" ++ uuidText v.shared.minted.length)
  refine ⟨⟨w.shared.commit i r w.snapshot w.pending, id, w.snapshot⟩,
    "worker:credential-revalidation:" ++ uuidText v.shared.minted.length, ?_, ?_, ?_, ?_⟩
  · dsimp only [runCredentialRevalidationBatch]
    rw [hbatch, alone_bind (alone_ensure hsafe)]
    rw [alone_bind (v := v) (w := v.at (v.shared.mint i)) (a := v.shared.minted.length) rfl]
    refine alone_tryCatch ?_
    rw [alone_bind (v := v.at (v.shared.mint i)) (w := v.at (v.shared.mint i))
      (a := v.shared.clock) rfl]
    have hloop : alone i 0 r (degradeExpiredProviderTiers v.shared.clock adminActorId batchSize
        ("worker:credential-revalidation:" ++ uuidText v.shared.minted.length))
        (v.at (v.shared.mint i)) = some (.ok (((v.shared.store.dueProviders v.shared.clock).take
          batchSize).map (·.id)), w) := by
      rw [degradeExpiredProviderTiers, alone_bind (alone_ensure (btrim_requestId _)),
        alone_bind (alone_ensure (by omega))]
      rw [alone_bind (v := v.at (v.shared.mint i))
        (w := ⟨v.shared.mint i, v.pending, v.shared.store⟩)
        (a := v.pending v.shared.store) rfl]
      rw [hpending, id, alone_bind (alone_ensure hgrant)]
      rw [hpending] at hw
      exact (alone_bind rfl).trans hw
    rw [alone_bind hloop]
    exact (alone_bind rfl).trans rfl
  -- what was prepared is what the commit writes
  · change w.pending w.shared.store = _
    rw [hwritten, hpending, hlocks.store]
    rfl
  · exact hlocks.clock
  · intro id
    change w.shared.holderWithout i (.provider id) = none
    rw [Shared.holderWithout]
    split
    · rfl
    next hother =>
      rcases hlocks.available (hfree id) with hnone | hheld
      · exact hnone
      · exact absurd hheld hother

end Alone

end Nayasetu
