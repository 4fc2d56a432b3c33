import Nayasetu.Collections.LeastLoaded
import Nayasetu.Intake.Rotation
import Nayasetu.RowLock.Alone

/-!
# Rotations one after another

A rotation that nobody contends with takes the first candidate in the order of the selection, so it
assigns the request to a member with the fewest active matters of all that have a free place. A run
of such rotations is therefore a run of assignments to the least loaded (`Rotations.assignments`),
and balanced and free of starvation as those are: `rotation_fair`.
-/

namespace Nayasetu

open Values RowLock Collections

/-! ## The order of the selection

Fewer active matters come first, and of those with equally many the one that was assigned to
longest ago, where never is before any time.
-/

theorem compareMembers_nonpos_iff (left right : RosterMembership) :
    compareMembers left right ≤ 0 ↔ left.activeMatters < right.activeMatters ∨
      (left.activeMatters = right.activeMatters ∧
        ∀ leftAt ∈ left.lastAssignedAt, ∃ rightAt ∈ right.lastAssignedAt, leftAt ≤ rightAt) := by
  rw [compareMembers]
  by_cases h : left.activeMatters = right.activeMatters
  · rw [if_neg (by omega)]
    cases left.lastAssignedAt <;> cases right.lastAssignedAt <;> simp [h]
  · rw [if_pos (by omega)]
    constructor
    · exact fun hle ↦ .inl (by omega)
    · rintro (hlt | ⟨he, -⟩)
      · omega
      · exact absurd he h

theorem compareMembers_total (left right : RosterMembership) :
    compareMembers left right ≤ 0 ∨ compareMembers right left ≤ 0 := by
  rw [compareMembers_nonpos_iff, compareMembers_nonpos_iff]
  rcases lt_trichotomy left.activeMatters right.activeMatters with h | h | h
  · exact .inl (.inl h)
  · cases left.lastAssignedAt with
    | none => exact .inl (.inr ⟨h, by simp⟩)
    | some leftAt =>
      cases right.lastAssignedAt with
      | none => exact .inr (.inr ⟨h.symm, by simp⟩)
      | some rightAt =>
        simpa [h] using le_total leftAt rightAt
  · exact .inr (.inl h)

theorem compareMembers_trans (a b c : RosterMembership) (hab : compareMembers a b ≤ 0)
    (hbc : compareMembers b c ≤ 0) : compareMembers a c ≤ 0 := by
  rw [compareMembers_nonpos_iff] at hab hbc ⊢
  rcases hab with hab | ⟨hab, hatab⟩
  · exact .inl (hbc.elim hab.trans fun h ↦ hab.trans_eq h.1)
  · rcases hbc with hbc | ⟨hbc, hatbc⟩
    · exact .inl (hab.trans_lt hbc)
    · refine .inr ⟨hab.trans hbc, fun atA hA ↦ ?_⟩
      obtain ⟨atB, hB, hle⟩ := hatab atA hA
      obtain ⟨atC, hC, hle'⟩ := hatbc atB hB
      exact ⟨atC, hC, hle.trans hle'⟩

/-! ## One rotation by itself

The route by itself, statement after statement, down to the rows it has changed.
-/

section Alone

variable {Req : Type} {i n : ℕ} {r : Req} {v w : View Database LockKey Req} {config : AppConfig}
  {need : NeedRequest} {route : EligibilityRoute} {timestamp : ℤ} {rosterId : ℕ}

/-- The request and its route as they are stored. -/
theorem of_alone_selectNeedForUpdate {needId : ℕ}
    {found : Option (NeedRequest × EligibilityDecision)}
    (h : alone i n r (selectNeedForUpdate needId) v = some (.ok found, w)) :
    found = (v.pending v.shared.store).needWithRoute needId := by
  rw [selectNeedForUpdate] at h
  obtain ⟨_, _, hread, h⟩ := exists_of_alone_bind h
  cases hread
  split at h
  next hnone =>
    cases h
    exact hnone.symm
  next =>
    obtain ⟨_, _, hlock, h⟩ := exists_of_alone_bind h
    obtain ⟨rfl, rfl⟩ := of_alone_lock hlock
    obtain ⟨_, _, hlock', h⟩ := exists_of_alone_bind h
    obtain ⟨rfl, rfl⟩ := of_alone_lock hlock'
    cases h
    rfl

theorem of_alone_claimMember {member : RosterMembership} {members : List RosterMembership}
    {found : Option ℕ} (hfree : ∀ k, v.shared.Available i k) (hpending : v.pending = id)
    (heligible : memberEligible config need route timestamp v.shared.store
      v.shared.store member.key = true)
    (h : alone i n r (claimMember config need route timestamp v.shared.store (member :: members))
      v = some (.ok found, w)) : found = some member.providerId := by
  have hlocks : OnlyLocks i v.shared (v.shared.acquire i (.rosterMembership member.key)) :=
    .acquire _
  rw [claimMember, alone_bind (alone_tryLock (hfree _))] at h
  dsimp only at h
  rw [alone_bind (alone_tryLock (hlocks.available (hfree _)))] at h
  simp only [View.at_pending, View.at_shared, hpending, id] at h
  have hkept : memberEligible config need route timestamp v.shared.store
      (v.shared.acquire i (.rosterMembership member.key)).store member.key = true := heligible
  rw [if_pos hkept] at h
  cases h
  rfl

/-- The member is first among the candidates of the selection. -/
structure NextMember (config : AppConfig) (need : NeedRequest) (route : EligibilityRoute)
    (timestamp : ℤ) (db : Database) (rosterId : ℕ) (member : RosterMembership) : Prop where
  eligible : member ∈ eligibleMembers config need route timestamp db rosterId
  first : ∀ other ∈ eligibleMembers config need route timestamp db rosterId,
    compareMembers member other ≤ 0

theorem mem_eligibleMembers_iff {db : Database} {member : RosterMembership} :
    member ∈ eligibleMembers config need route timestamp db rosterId ↔ member ∈ db.memberships ∧
      member.rosterId = rosterId ∧
      memberEligible config need route timestamp db db member.key = true := by
  rw [eligibleMembers, List.mem_filter, Bool.and_eq_true, decide_eq_true_eq]

theorem NextMember.exists_membership {db : Database} {member : RosterMembership}
    (h : NextMember config need route timestamp db rosterId member) :
    ∃ current, db.membership (rosterId, member.providerId) = some current := by
  obtain ⟨-, rfl, heligible⟩ := mem_eligibleMembers_iff.mp h.eligible
  obtain ⟨current, hcurrent, -⟩ := exists_membership_of_eligible heligible
  exact ⟨current, hcurrent⟩

theorem of_alone_selectMember {providerId : ℕ} (hfree : ∀ k, v.shared.Available i k)
    (hpending : v.pending = id)
    (h : alone i n r (selectMember config need route timestamp rosterId) v =
      some (.ok (some providerId), w)) :
    ∃ member, NextMember config need route timestamp v.shared.store rosterId member ∧
      member.providerId = providerId := by
  rw [selectMember] at h
  obtain ⟨_, _, hread, h⟩ := exists_of_alone_bind h
  cases hread
  rw [hpending] at h
  obtain ⟨members, _, horder, h⟩ := exists_of_alone_bind h
  cases horder
  have hperm := perm_anyOrder
    (eligibleMembers config need route timestamp v.shared.store rosterId) n
  cases hsorted : sortBy compareMembers (((eligibleMembers config need route timestamp
      v.shared.store rosterId).permutations[n]?).getD
        (eligibleMembers config need route timestamp v.shared.store rosterId)) with
  | nil =>
    rw [id, hsorted] at h
    cases h
  | cons member rest =>
    rw [id, hsorted] at h
    obtain ⟨hmem, hfirst⟩ := head?_sortBy compareMembers_total compareMembers_trans
      (congrArg List.head? hsorted)
    have heligible := hperm.mem_iff.mp hmem
    refine ⟨member, ⟨heligible, fun other hother ↦ hfirst other (hperm.mem_iff.mpr hother)⟩, ?_⟩
    have hclaimed := of_alone_claimMember (v := ⟨v.shared, id, v.shared.store⟩) hfree rfl
      (mem_eligibleMembers_iff.mp heligible).2.2 h
    exact (Option.some.inj hclaimed).symm

/-- The counter goes up by one. -/
theorem of_alone_assignMember {key : ℕ × ℕ} {current : RosterMembership} {u : Unit}
    (hcurrent : (v.pending v.shared.store).membership key = some current)
    (h : alone i n r (assignMember key timestamp) v = some (.ok u, w)) :
    w.pending = Database.updateMembership (current.assign timestamp) ∘ v.pending := by
  rw [assignMember] at h
  obtain ⟨_, _, hlock, h⟩ := exists_of_alone_bind h
  obtain ⟨rfl, rfl⟩ := of_alone_lock hlock
  rw [hcurrent] at h
  obtain ⟨-, h⟩ := of_alone_ensure_bind h
  cases h
  rfl

def LeavesMemberships (f : Database → Database) : Prop := ∀ db, (f db).memberships = db.memberships

theorem LeavesMemberships.comp (f g : Database → Database) (hf : LeavesMemberships f)
    (hg : LeavesMemberships g) : LeavesMemberships (f ∘ g) := fun db ↦ (hf (g db)).trans (hg db)

/-- No write at all. -/
theorem eq_id_comp (f g : Database → Database) (hf : f = id) (hg : g = id) : f ∘ g = id := by
  rw [hf, hg, Function.comp_id]

/-- A statement that only reads leaves everything to the next one. -/
theorem of_alone_reading {α : Type} {p : Tx α} {x : Except Failure α} (hp : p.Writes (· = id))
    (hfree : ∀ k, v.shared.Available i k) (hpending : v.pending = id)
    (h : alone i n r p v = some (x, w)) : (∀ k, w.shared.Available i k) ∧ w.pending = id ∧
      w.shared.store = v.shared.store := by
  obtain ⟨hlocks, hw⟩ := of_alone_writes eq_id_comp hp h hpending
  exact ⟨fun k ↦ hlocks.available (hfree k), hw, hlocks.store⟩

/-- Two branches that only read. -/
theorem of_alone_ite_bind {α : Type} {condition : Prop} [Decidable condition] {p q : Tx Unit}
    {f : Unit → Tx α} {a : α} (hp : p.Writes (· = id)) (hq : q.Writes (· = id))
    (hfree : ∀ k, v.shared.Available i k) (hpending : v.pending = id)
    (h : alone i n r (if condition then p >>= f else q >>= f) v = some (.ok a, w)) :
    ∃ u, (∀ k, u.shared.Available i k) ∧ u.pending = id ∧ u.shared.store = v.shared.store ∧
      alone i n r (f ()) u = some (.ok a, w) := by
  split at h
  all_goals
    obtain ⟨_, u, hread, hrest⟩ := exists_of_alone_bind h
  · obtain ⟨hfree', hpending', hstore⟩ := of_alone_reading hp hfree hpending hread
    exact ⟨u, hfree', hpending', hstore, hrest⟩
  · obtain ⟨hfree', hpending', hstore⟩ := of_alone_reading hq hfree hpending hread
    exact ⟨u, hfree', hpending', hstore, hrest⟩

/-- What a rotation that nobody contends with comes to: the next member has one more matter. -/
structure Rotates (config : AppConfig) (needId rosterId : ℕ) (timestamp : ℤ) (db : Database)
    (providerId : ℕ) (memberships : List RosterMembership) : Prop where
  next : ∃ found ∈ db.needWithRoute needId, ∃ member,
    NextMember config found.1 found.2.route timestamp
    db rosterId member ∧ member.providerId = providerId
  assigned : ∃ current, db.membership (rosterId, providerId) = some current ∧
    memberships = replaceBy (·.key) (current.assign timestamp) db.memberships

theorem of_alone_rotateInTransaction {actor : ActorContext} {needId allocationId providerId : ℕ}
    (hfree : ∀ k, v.shared.Available i k) (hpending : v.pending = id)
    (h : alone i n r (rotateInTransaction config actor needId rosterId timestamp) v =
      some (.ok (allocationId, providerId), w)) :
    Rotates config needId rosterId timestamp v.shared.store providerId
      (w.pending w.shared.store).memberships := by
  rw [rotateInTransaction] at h
  obtain ⟨found, u₁, hfound, h⟩ := exists_of_alone_bind h
  obtain ⟨hfree₁, hpending₁, hstore₁⟩ :=
    of_alone_reading writes_selectNeedForUpdate hfree hpending hfound
  have hneed := of_alone_selectNeedForUpdate hfound
  rw [hpending] at hneed
  split at h
  next => cases h
  next need decision =>
    obtain ⟨u₂, hfree₂, hpending₂, hstore₂, h⟩ := of_alone_ite_bind writes_assertCitizenAuthority
      writes_assertInstitutionalRosterGrant hfree₁ hpending₁ h
    obtain ⟨-, h⟩ := of_alone_ensure_bind h
    obtain ⟨-, h⟩ := of_alone_ensure_bind h
    obtain ⟨selected, u₃, hselected, h⟩ := exists_of_alone_bind h
    obtain ⟨hfree₃, hpending₃, hstore₃⟩ := of_alone_reading writes_selectMember hfree₂ hpending₂
      hselected
    split at h
    next => cases h
    next chosen =>
      obtain ⟨member, hnext, rfl⟩ := of_alone_selectMember hfree₂ hpending₂ hselected
      obtain ⟨id, u₄, hinserted, h⟩ := exists_of_alone_bind h
      obtain ⟨hlocks₄, hleaves⟩ := of_alone_writes LeavesMemberships.comp
        (writes_insertAllocation fun _ _ ↦ rfl) hinserted (hpending₃ ▸ fun _ ↦ rfl)
      obtain ⟨_, u₅, hassigned, h⟩ := exists_of_alone_bind h
      have hstore : u₂.shared.store = v.shared.store := hstore₂.trans hstore₁
      have hsame (db : Database) (hdb : db = v.shared.store) :
          (u₄.pending db).memberships = v.shared.store.memberships := hdb ▸ hleaves db
      rw [hstore] at hnext
      obtain ⟨current, hcurrent⟩ := hnext.exists_membership
      have hstore₄ : u₄.shared.store = v.shared.store := (hlocks₄.store.trans hstore₃).trans hstore
      have hpending₅ := of_alone_assignMember
        ((congrArg (lookupBy _ _) (hsame _ hstore₄)).trans hcurrent) hassigned
      have hstore₅ := (of_alone_writes (W := fun _ ↦ True) (fun _ _ _ _ ↦ trivial)
        (writes_assignMember fun _ ↦ trivial) hassigned trivial).1.store
      obtain ⟨_, _, haudit, h⟩ := exists_of_alone_bind h
      cases haudit
      cases h
      refine ⟨⟨(need, decision), hneed.symm, member, hnext, rfl⟩, current, hcurrent, ?_⟩
      change (u₅.pending u₅.shared.store).memberships = _
      rw [hpending₅, hstore₅, hstore₄]
      exact congrArg (replaceBy _ _) (hsame _ rfl)

theorem of_alone_rotate {actor : ActorContext} {needId allocationId providerId : ℕ}
    (hfree : ∀ k, v.shared.Available i k) (hpending : v.pending = id)
    (h : alone i n r (rotate config actor needId rosterId) v =
      some (.ok (allocationId, providerId), w)) :
    Rotates config needId rosterId v.shared.clock v.shared.store providerId
      w.shared.store.memberships := by
  rw [rotate] at h
  obtain ⟨-, h⟩ := of_alone_ensure_bind h
  obtain ⟨u, hrun, rfl⟩ := exists_of_alone_withTransaction h
  exact of_alone_rotateInTransaction hfree hpending hrun

end Alone

/-! ## Rotations one after another

The loads of a roster and its places, and each rotation as one assignment of the abstract process.
-/

/-- How many active matters a member of a roster has. -/
def Database.load (db : Database) (rosterId providerId : ℕ) : ℤ :=
  ((db.membership (rosterId, providerId)).map (·.activeMatters)).getD 0

/-- How many active matters a member of a roster may have. -/
def Database.places (db : Database) (rosterId providerId : ℕ) : ℤ :=
  ((db.membership (rosterId, providerId)).map (·.capacity)).getD 0

/-- For this request, exactly these members of the roster are eligible as long as they have a free
place. -/
def EligibleMembers (config : AppConfig) (need : NeedRequest) (route : EligibilityRoute)
    (timestamp : ℤ) (rosterId : ℕ) (members : Finset ℕ) (db : Database) : Prop :=
  ∀ member ∈ db.memberships, member.rosterId = rosterId →
    (memberEligible config need route timestamp db db member.key = true ↔
      member.providerId ∈ members ∧ member.activeMatters < member.capacity)

instance (config : AppConfig) (need : NeedRequest) (route : EligibilityRoute) (timestamp : ℤ)
    (rosterId : ℕ) (members : Finset ℕ) (db : Database) :
    Decidable (EligibleMembers config need route timestamp rosterId members db) :=
  inferInstanceAs (Decidable (∀ _ ∈ _, _))

/-- Requests for a roster that are rotated one after another, each by itself, and the providers they
are assigned to. The eligible members stay the same; between two rotations time passes and other
tables may change. -/
inductive Rotations (config : AppConfig) (rosterId : ℕ) (members : Finset ℕ) :
    Database → List ℕ → Database → Prop where
  | nil {db : Database} : Rotations config rosterId members db [] db
  | next {db db' snap : Database} {assigned : List ℕ} {s : Shared Database LockKey Unit}
    {actor : ActorContext} {i n needId allocationId providerId : ℕ} {w : View Database LockKey Unit}
    (h : Rotations config rosterId members db assigned db')
    (hsame : s.store.memberships = db'.memberships) (hfree : ∀ k, s.holder k = none)
    (heligible : ∀ found ∈ s.store.needWithRoute needId,
      EligibleMembers config found.1 found.2.route s.clock rosterId members s.store)
    (hrun : alone i n () (rotate config actor needId rosterId) ⟨s, id, snap⟩ =
      some (.ok (allocationId, providerId), w)) :
    Rotations config rosterId members db (assigned ++ [providerId]) w.shared.store

section Runs

variable {config : AppConfig} {need : NeedRequest} {route : EligibilityRoute} {timestamp : ℤ}
  {rosterId : ℕ} {members : Finset ℕ} {db db' : Database}

theorem load_of_memberships (h : db.memberships = db'.memberships) : db.load = db'.load := by
  funext rosterId providerId
  rw [Database.load, Database.load, Database.membership, Database.membership, h]

theorem places_of_memberships (h : db.memberships = db'.memberships) : db.places = db'.places := by
  funext rosterId providerId
  rw [Database.places, Database.places, Database.membership, Database.membership, h]

theorem load_of_mem (hkeys : (db.memberships.map (·.key)).Nodup) {member : RosterMembership}
    (h : member ∈ db.memberships) : db.load member.rosterId member.providerId =
    member.activeMatters ∧
      db.places member.rosterId member.providerId = member.capacity := by
  have hlookup : db.membership (member.rosterId, member.providerId) = some member :=
    (lookupBy_eq_some_iff hkeys).mpr ⟨h, rfl⟩
  rw [Database.load, Database.places, hlookup]
  exact ⟨rfl, rfl⟩

/-- Only a member can have a free place. -/
theorem exists_of_load_lt {providerId : ℕ}
    (h : db.load rosterId providerId < db.places rosterId providerId) :
    ∃ member ∈ db.memberships, member.rosterId = rosterId ∧ member.providerId = providerId := by
  rw [Database.load, Database.places] at h
  cases hlookup : db.membership (rosterId, providerId) with
  | none => simp [hlookup] at h
  | some member =>
    obtain ⟨hmem, hkey⟩ := lookupBy_mem hlookup
    exact ⟨member, hmem, Prod.mk.inj hkey⟩

theorem NextMember.isLeastLoaded {member : RosterMembership}
    (h : NextMember config need route timestamp db rosterId member)
    (hkeys : (db.memberships.map (·.key)).Nodup)
    (heligible : EligibleMembers config need route timestamp rosterId members db) :
    IsLeastLoaded members (db.places rosterId) (db.load rosterId) member.providerId := by
  obtain ⟨hmem, rfl, hcondition⟩ := mem_eligibleMembers_iff.mp h.eligible
  obtain ⟨hmember, hfree⟩ := (heligible member hmem rfl).mp hcondition
  obtain ⟨hload, hplaces⟩ := load_of_mem hkeys hmem
  refine ⟨hmember, hload.trans_lt (hfree.trans_eq hplaces.symm), fun i hi hi' ↦ ?_⟩
  obtain ⟨other, hother, hroster, rfl⟩ := exists_of_load_lt hi'
  obtain ⟨hload', hplaces'⟩ := load_of_mem hkeys hother
  rw [hroster] at hload' hplaces'
  rw [hload', hplaces'] at hi'
  have hfirst := h.first other
    (mem_eligibleMembers_iff.mpr ⟨hother, hroster, (heligible other hother hroster).mpr ⟨hi, hi'⟩⟩)
  rw [hload, hload']
  exact ((compareMembers_nonpos_iff member other).mp hfirst).elim le_of_lt fun he ↦ he.1.le

/-- One more matter for one member. -/
theorem load_of_replaceBy {providerId : ℕ} {current : RosterMembership}
    (hcurrent : db.membership (rosterId, providerId) = some current)
    (h : db'.memberships = replaceBy (·.key) (current.assign timestamp) db.memberships) :
    db'.load rosterId = Function.update (db.load rosterId) providerId
      (db.load rosterId providerId + 1) ∧ db'.places rosterId = db.places rosterId := by
  have hkey : (current.assign timestamp).key = (rosterId, providerId) := (lookupBy_mem hcurrent).2
  have hlookup (id : ℕ) : db'.membership (rosterId, id) =
      if id = providerId then some (current.assign timestamp) else db.membership
        (rosterId, id) := by
    rw [Database.membership, h, lookupBy_replaceBy, hkey, ← Database.membership]
    by_cases hid : id = providerId
    · rw [if_pos (by rw [hid]), if_pos hid, hid, hcurrent, Option.map_some]
    · rw [if_neg (by simp [hid]), if_neg hid]
  refine ⟨funext fun id ↦ ?_, funext fun id ↦ ?_⟩
  · rw [Database.load, hlookup, Function.update_apply]
    by_cases hid : id = providerId
    · rw [if_pos hid, if_pos hid, Database.load, hcurrent]
      rfl
    · rw [if_neg hid, if_neg hid, Database.load]
  · rw [Database.places, hlookup]
    by_cases hid : id = providerId
    · rw [if_pos hid, hid, Database.places, hcurrent]
      rfl
    · rw [if_neg hid, Database.places]

/-- **Rotations are assignments** to the least loaded. -/
theorem Rotations.assignments {assigned : List ℕ}
    (h : Rotations config rosterId members db assigned db')
    (hkeys : (db.memberships.map (·.key)).Nodup) : (db'.memberships.map (·.key)).Nodup ∧
      db'.places rosterId = db.places rosterId ∧
      Assignments members (db.places rosterId) (db.load rosterId) assigned (db'.load rosterId) := by
  induction h with
  | nil => exact ⟨hkeys, rfl, .nil⟩
  | @next db' _ _ s _ _ _ _ _ _ w _ hsame hfree heligible hrun ih =>
    obtain ⟨hkeys', hplaces, hassignments⟩ := ih
    obtain ⟨⟨found, hfound, member, hnext, rfl⟩, current, hcurrent, hmemberships⟩ :=
      of_alone_rotate (fun k ↦ .inl (hfree k)) rfl hrun
    have hleast := hnext.isLeastLoaded (hsame ▸ hkeys') (heligible found hfound)
    obtain ⟨hload, hplaces'⟩ := load_of_replaceBy hcurrent hmemberships
    rw [load_of_memberships hsame] at hload hleast
    rw [places_of_memberships hsame, hplaces] at hplaces' hleast
    refine ⟨?_, hplaces', hload ▸ hassignments.concat hleast⟩
    rw [hmemberships, map_key_replaceBy]
    exact hsame ▸ hkeys'

/-- **Rotation is fair.** After rotations one after another, whoever has been assigned a request is
at most one ahead of every member with a free place, and a member with a free place is assigned one
as soon as the others are up to one ahead of it. -/
theorem rotation_fair {assigned : List ℕ} (hkeys : (db.memberships.map (·.key)).Nodup)
    (h : Rotations config rosterId members db assigned db') :
    (∀ i ∈ members, db'.load rosterId i < db'.places rosterId i →
      ∀ j ∈ assigned, db'.load rosterId j ≤ db'.load rosterId i + 1) ∧
    ∀ i ∈ members, db.load rosterId i < db.places rosterId i →
      deficit members (db.places rosterId) (db.load rosterId) i < assigned.length →
      i ∈ assigned.take (deficit members (db.places rosterId) (db.load rosterId) i + 1) := by
  obtain ⟨-, hplaces, hassignments⟩ := h.assignments hkeys
  refine ⟨fun i hi hfree j hj ↦ ?_, fun i hi hfree hlong ↦ hassignments.mem_take hi hfree hlong⟩
  exact hassignments.balanced hi (hplaces ▸ hfree) hj

end Runs

/-! ## A roster of two

One of the advocates has a matter already, the other has none. -/

def rosterAdvocate (id : ℕ) : Provider where
  id := id
  userId := 10 + id
  providerType := "ADVOCATE"
  displayName := "Advocate"
  district := "Pune"
  languages := ["mr"]
  serviceModes := ["REMOTE"]
  status := "ACTIVE"
  tier := .selfDeclared
  tierDecidedAt := none
  tierExpiresAt := none

def referredNeed (id : ℕ) : NeedRequest where
  id := id
  citizenUserId := 20
  operatorDelegationId := none
  taxonomyCode := "TENANCY"
  district := "Pune"
  language := "mr"
  modePref := "REMOTE"
  feeCeiling := none
  urgency := "NORMAL"
  channel := "APP"
  createdAt := 0
  directoryProviderType := none
  directoryMinimumTier := none
  directoryGeneratedAt := none

def referredCitizen : ActorContext where
  actorId := 20
  actorType := .citizen
  scopes := []
  requestId := "r"

def rosterOfTwo (memberships : List RosterMembership) : Database where
  needs := [referredNeed 0, referredNeed 1]
  decisions :=
    [⟨0, some "SC", true, .legalAidReferral, 0⟩, ⟨1, some "SC", true, .legalAidReferral, 0⟩]
  providers := [rosterAdvocate 1, rosterAdvocate 2]
  services := [⟨1, "TENANCY", 0, 100000, true⟩, ⟨2, "TENANCY", 0, 100000, true⟩]
  rosters := [⟨5, "Pune", "TENANCY", "ADVOCATE", some .selfDeclared⟩]
  memberships := memberships

/-- The first advocate has a matter and a free place, the second none and three. -/
def twoMembers : List RosterMembership :=
  [⟨5, 1, "AVAILABLE", 2, 1, none, false⟩, ⟨5, 2, "AVAILABLE", 3, 0, none, false⟩]

/-- After an assignment to the second. -/
def twoMembersLater : List RosterMembership :=
  [⟨5, 1, "AVAILABLE", 2, 1, none, false⟩, ⟨5, 2, "AVAILABLE", 3, 1, some 100, false⟩]

/-- A deployment that knows active providers. -/
def rosterConfig : AppConfig where
  nodeEnv := .test
  taxonomyCodes := ["TENANCY"]
  districtFeeFloors := []
  providerActiveStatuses := ["ACTIVE"]

def quietAt (db : Database) (timestamp : ℤ) : Shared Database LockKey Unit :=
  ⟨db, timestamp, [none, none], fun _ ↦ none, [], fun _ ↦ false⟩

/-- Two rotations: the second advocate's turn, and then the first one's. -/
theorem exists_rotations_two :
    ∃ db, Rotations rosterConfig 5 {1, 2} (rosterOfTwo twoMembers) [2, 1] db := by
  obtain ⟨w, hfirst⟩ : ∃ w, alone 0 0 () (rotate rosterConfig referredCitizen 0 5)
      ⟨quietAt (rosterOfTwo twoMembers) 100, id, {}⟩ = some (.ok (2, 2), w) :=
    exists_of_returned (by decide +kernel)
  obtain ⟨w', hsecond⟩ : ∃ w, alone 0 0 () (rotate rosterConfig referredCitizen 1 5)
      ⟨quietAt (rosterOfTwo twoMembersLater) 200, id, {}⟩ = some (.ok (2, 1), w) :=
    exists_of_returned (by decide +kernel)
  obtain ⟨-, current, hcurrent, hmemberships⟩ := of_alone_rotate (fun _ ↦ .inl rfl) rfl hfirst
  obtain rfl := Option.some.inj (hcurrent.symm.trans rfl)
  have hrun : Rotations rosterConfig 5 {1, 2} (rosterOfTwo twoMembers) [2] w.shared.store :=
    Rotations.nil.next rfl (fun _ ↦ rfl) (by decide +kernel) hfirst
  exact ⟨_, hrun.next hmemberships.symm (fun _ ↦ rfl) (by decide +kernel) hsecond⟩

theorem rotation_fair_two : ∃ db,
    Rotations rosterConfig 5 {1, 2} (rosterOfTwo twoMembers) [2, 1] db ∧
    ((∀ i ∈ ({1, 2} : Finset ℕ), db.load 5 i < db.places 5 i →
      ∀ j ∈ [2, 1], db.load 5 j ≤ db.load 5 i + 1) ∧
    ∀ i ∈ ({1, 2} : Finset ℕ), (rosterOfTwo twoMembers).load 5 i <
      (rosterOfTwo twoMembers).places 5 i →
      deficit {1, 2} ((rosterOfTwo twoMembers).places 5) ((rosterOfTwo twoMembers).load 5) i < 2 →
      i ∈ [2, 1].take (deficit {1, 2} ((rosterOfTwo twoMembers).places 5)
        ((rosterOfTwo twoMembers).load 5) i + 1)) := by
  obtain ⟨db, hrun⟩ := exists_rotations_two
  exact ⟨db, hrun, rotation_fair (by decide) hrun⟩

end Nayasetu
