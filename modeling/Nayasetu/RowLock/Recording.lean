import Nayasetu.RowLock.Attempt

/-!
# More about the record

A discipline whose invariant says more about the store and the history than another's. What a
session may rely on and owes is the same, so a walk under the weaker discipline counts under the
stronger one as long as it does not commit: `attempt_recording`. Along the way the writes of the
program are kept in a class that is closed under composition.

A stronger invariant is wanted where a later result is about more than an earlier one: the walks
that were made for the earlier one should count again. They do up to the commit, since nothing a
session relies on has changed, and the commit is looked at anew, with what the program has written
by then (`serves_recording_of_commit`).
-/

namespace RowLock

namespace Discipline

variable {σ κ ε α Req : Type} [DecidableEq κ] {D : Discipline σ κ Req}
  {Good : σ → List (Entry σ Req) → Prop} {i : ℕ}
  {r : Req} {s s' : Shared σ κ Req} {v w : View σ κ Req}

/-- The discipline with more in its invariant. -/
def recording (D : Discipline σ κ Req) (Good : σ → List (Entry σ Req) → Prop) :
    Discipline σ κ Req where
  Inv s := D.Inv s ∧ Good s.store s.history
  Keep := D.Keep
  Unused := D.Unused
  Mono := D.Mono
  keep_refl := D.keep_refl
  keep_trans := D.keep_trans
  mono_refl := D.mono_refl
  mono_trans := D.mono_trans
  unused_of_inv s n h := D.unused_of_inv s n h.1
  inv_of_same s s' hstore hhistory hminted hclock htouched h :=
    ⟨D.inv_of_same s s' hstore hhistory hminted hclock htouched h.1, hstore ▸ hhistory ▸ h.2⟩

omit [DecidableEq κ] in
theorem rely_recording_iff : (D.recording Good).Rely i s s' ↔ D.Rely i s s' :=
  ⟨fun h ↦ ⟨h.holds, h.minted, h.drawn, h.clock, h.history, h.commits, h.touched, h.keep, h.unused,
    h.mono⟩, fun h ↦ ⟨h.holds, h.minted, h.drawn, h.clock, h.history, h.commits, h.touched, h.keep,
    h.unused, h.mono⟩⟩

omit [DecidableEq κ] in
theorem since_recording_iff : (D.recording Good).Since i s s' ↔ D.Since i s s' :=
  ⟨fun h ↦ ⟨h.holds, h.minted, h.clock, h.history, h.commits, h.touched, h.keep, h.unused, h.mono⟩,
    fun h ↦ ⟨h.holds, h.minted, h.clock, h.history, h.commits, h.touched, h.keep, h.unused, h.mono⟩⟩

theorem later_of_recording (h : (D.recording Good).toProtocol.Later i s s') :
    D.toProtocol.Later i s s' := ⟨rely_recording_iff.mp h.rely, h.inv.1⟩

omit [DecidableEq κ] in
theorem onward_of_recording (h : (D.recording Good).Onward i v w) : D.Onward i v w :=
  ⟨since_recording_iff.mp h.since, h.inv.1, h.pending⟩

section Attempts

variable {Q : α → View σ κ Req → Prop} {E : ε → Prop} {p : Program σ κ ε α} {W : (σ → σ) → Prop}

/-- What a program without a commit comes to under the weaker discipline, it comes to under the
stronger one. -/
theorem attempt_recording (hcomp : ∀ f g, W f → W g → W (f ∘ g)) (hp : p.Writes W)
    (hv : W v.pending) (h : D.Attempt i r Q E p v) :
    (D.recording Good).Attempt i r (fun a w ↦ Q a w ∧ W w.pending) E p v :=
  fun huncommitted ↦ Protocol.wp_mono (fun _ _ hw ↦ ⟨hw.1.1, hw.1.2, hw.2⟩) (fun _ _ hw ↦ hw)
    (Protocol.wp_of_later (fun _ _ ↦ later_of_recording) hcomp hp hv (h huncommitted))

theorem serves_recording_of_commit
    (hGood : ∀ store history e, e.request = r → Good store (history ++ [e]))
    (h : D.Serves i r E p v) : (D.recording Good).Serves i r E p v :=
  fun huncommitted ↦ Protocol.wp_of_commit (fun _ _ ↦ later_of_recording)
    (fun _ _ _ hinv hrely ↦
      ⟨⟨hinv, hGood _ _ _ rfl⟩, fun j hj ↦ rely_recording_iff.mpr (hrely j hj)⟩)
    (h huncommitted)

end Attempts

end Discipline

end RowLock
