import Mathlib.Tactic.Common
import Nayasetu.Texts.Regex

/-!
# Replacing every match

The pieces a global replacement divides a text into: units that are kept, and matches that give way
to the marker of their category. Put together, the pieces are the text before and the text after.

`Scanned` says of pieces that they are those of a scan: at every kept unit there is no match, and
every replaced span is one.

## Passes one after the other

Each pass rewrites what the one before has left, and a marker could in principle complete a match
that was not there. It cannot if no replaced span has an *inner* unit right beside it (`Apart`),
and if every match has a core that begins and ends with inner units and has no unit in common with
a marker (`Cored`). Then what a later pass finds has been in the text before, with the same units
around it (`Apart.exists_of_foundIn`).

So the replacements of several passes can be laid side by side in the first text
(`exists_composed`), and none of them is in the way of another.
-/

namespace Texts

variable {κ α : Type}

/-- A unit that stays, or a span that is replaced. -/
inductive Piece (κ α : Type) where
  | kept (u : α)
  | replaced (category : κ) (span : List α)

/-- The text before. -/
def original : List (Piece κ α) → List α
  | [] => []
  | .kept u :: pieces => u :: original pieces
  | .replaced _ span :: pieces => span ++ original pieces

/-- The text after. -/
def rendered (marker : κ → List α) : List (Piece κ α) → List α
  | [] => []
  | .kept u :: pieces => u :: rendered marker pieces
  | .replaced category _ :: pieces => marker category ++ rendered marker pieces

/-- The replaced spans, with their categories. -/
def replacements : List (Piece κ α) → List (κ × List α)
  | [] => []
  | .kept _ :: pieces => replacements pieces
  | .replaced category span :: pieces => (category, span) :: replacements pieces

/-- The pieces of a text behind `prev`, of which `passed` units belong to the match before. Matches
are looked for from left to right, and the search goes on behind each; an empty one is passed with
the unit that follows it. -/
def scan (r : Regex α) (category : κ) : ℕ → Option α → List α → List (Piece κ α)
  | _, prev, [] => if r.places (prev, []) = [] then [] else [.replaced category []]
  | passed + 1, _, u :: text => scan r category passed (some u) text
  | 0, prev, u :: text =>
    match r.places (prev, u :: text) with
    | [] => .kept u :: scan r category 0 (some u) text
    | (_, rest) :: _ =>
      if rest.length ≤ text.length then
        .replaced category ((u :: text).take (text.length + 1 - rest.length)) ::
          scan r category (text.length - rest.length) (some u) text
      else .replaced category [] :: .kept u :: scan r category 0 (some u) text

open Regex

section

variable {marker : κ → List α} {r : Regex α} {category : κ} {prev : Option α}
  {pieces first rest : List (Piece κ α)} {text span : List α} {u : α}

@[simp] theorem original_nil : original ([] : List (Piece κ α)) = [] := rfl

@[simp] theorem rendered_nil : rendered marker [] = [] := rfl

@[simp] theorem original_kept :
    original (.kept u :: pieces : List (Piece κ α)) = u :: original pieces := rfl

@[simp] theorem original_replaced :
    original (.replaced category span :: pieces) = span ++ original pieces := rfl

@[simp] theorem rendered_kept :
    rendered marker (.kept u :: pieces) = u :: rendered marker pieces := rfl

@[simp] theorem rendered_replaced : rendered marker (.replaced category span :: pieces) =
    marker category ++ rendered marker pieces := rfl

@[simp] theorem replacements_kept :
    replacements (.kept u :: pieces : List (Piece κ α)) = replacements pieces := rfl

@[simp] theorem replacements_replaced : replacements (.replaced category span :: pieces) =
    (category, span) :: replacements pieces := rfl

@[simp] theorem original_append : original (first ++ rest) = original first ++ original rest := by
  induction first with
  | nil => rfl
  | cons piece first ih => cases piece <;> simp [ih]

@[simp] theorem rendered_append :
    rendered marker (first ++ rest) = rendered marker first ++ rendered marker rest := by
  induction first with
  | nil => rfl
  | cons piece first ih => cases piece <;> simp [ih]

@[simp] theorem original_map_kept : original (span.map (.kept : α → Piece κ α)) = span := by
  induction span with
  | nil => rfl
  | cons u span ih => rw [List.map_cons, original_kept, ih]

@[simp] theorem rendered_map_kept : rendered marker (span.map .kept) = span := by
  induction span with
  | nil => rfl
  | cons u span ih => rw [List.map_cons, rendered_kept, ih]

/-- Without replacements nothing changes. -/
theorem rendered_eq_original (h : replacements pieces = []) :
    rendered marker pieces = original pieces := by
  induction pieces with
  | nil => rfl
  | cons piece pieces ih =>
    cases piece with
    | kept u => rw [rendered_kept, original_kept, ih h]
    | replaced category span => cases h

/-! ## The pieces of a scan

A scan goes from left to right, takes the first match at each place, and goes on behind it. That
the pieces are those of a scan can be said without the search (`Scanned`), and `scan_spec` says
that the search finds such pieces.
-/

/-- There is no match at a unit that is kept, and every replaced span is a match. -/
inductive Scanned (r : Regex α) (category : κ) : Option α → List (Piece κ α) → Prop
  | nil {prev : Option α} : Scanned r category prev []
  | kept {prev : Option α} {u : α} {pieces : List (Piece κ α)}
      (hnone : ∀ span after, u :: original pieces = span ++ after → ¬ r.Matches prev span after)
      (hrest : Scanned r category (some u) pieces) : Scanned r category prev (.kept u :: pieces)
  | replaced {prev : Option α} {span : List α} {pieces : List (Piece κ α)} (hne : span ≠ [])
      (hmatch : r.Matches prev span (original pieces))
      (hrest : Scanned r category (behind prev span) pieces) :
      Scanned r category prev (.replaced category span :: pieces)

/-- An expression that does not match the empty text. -/
def Consumes (r : Regex α) : Prop := ∀ prev after, ¬ r.Matches prev [] after

theorem scan_nil : scan r category 0 prev [] =
    if r.places (prev, []) = [] then [] else [.replaced category []] := rfl

theorem scan_cons : scan r category 0 prev (u :: text) =
    match r.places (prev, u :: text) with
    | [] => .kept u :: scan r category 0 (some u) text
    | (_, rest) :: _ =>
      if rest.length ≤ text.length then
        .replaced category ((u :: text).take (text.length + 1 - rest.length)) ::
          scan r category (text.length - rest.length) (some u) text
      else .replaced category [] :: .kept u :: scan r category 0 (some u) text := rfl

theorem scan_passed : scan r category span.length prev (span ++ text) =
    scan r category 0 (behind prev span) text := by
  induction span generalizing prev with
  | nil => rfl
  | cons u span ih => exact ih

/-- The search that a scan goes through. -/
theorem scan_spec (hr : Consumes r) (prev : Option α) (text : List α) :
    original (scan r category 0 prev text) = text ∧
      Scanned r category prev (scan r category 0 prev text) := by
  induction hlength : text.length using Nat.strongRecOn generalizing prev text with
  | _ length ih =>
    cases text with
    | nil =>
      have hnone : r.places (prev, []) = [] := by
        refine List.eq_nil_iff_forall_not_mem.mpr fun place hplace ↦ ?_
        obtain ⟨span, hspan, -, hmatch⟩ := exists_matches_of_mem hplace
        rw [(List.append_eq_nil_iff.mp hspan.symm).1] at hmatch
        exact hr _ _ hmatch
      rw [scan_nil, if_pos hnone]
      exact ⟨rfl, .nil⟩
    | cons u text =>
      rw [List.length_cons] at hlength
      rw [scan_cons]
      split
      next hnone =>
        obtain ⟨hsame, hrest⟩ := ih text.length (by omega) (some u) text rfl
        refine ⟨by rw [original_kept, hsame], .kept (fun span after htext hmatch ↦ ?_) hrest⟩
        rw [Matches, ← htext, hsame, hnone] at hmatch
        cases hmatch
      next prev' rest _ hfound =>
        obtain ⟨span, htext, -, hmatch⟩ :=
          exists_matches_of_mem (hfound ▸ List.mem_cons_self : (prev', rest) ∈ _)
        -- a match consumes something, so what is left to scan is shorter
        cases span with
        | nil => exact absurd hmatch (hr _ _)
        | cons v span =>
          dsimp only at htext hmatch
          obtain ⟨rfl, htail⟩ := List.cons.inj htext
          have htext' : text = span ++ rest := htail
          subst htext'
          rw [List.length_append] at hlength
          have hle : rest.length ≤ (span ++ rest).length := by
            rw [List.length_append]
            omega
          have hspan : (u :: (span ++ rest)).take ((span ++ rest).length + 1 - rest.length) =
              u :: span := by
            rw [List.length_append, show span.length + rest.length + 1 - rest.length =
              (u :: span).length by rw [List.length_cons]; omega, ← List.cons_append,
              List.take_left']
            rfl
          have hpassed : (span ++ rest).length - rest.length = span.length := by
            rw [List.length_append]
            omega
          rw [if_pos hle, hspan, hpassed, scan_passed]
          obtain ⟨hsame, hrest⟩ := ih rest.length (by omega) (behind (some u) span) rest rfl
          refine ⟨by rw [original_replaced, hsame]; rfl, .replaced (List.cons_ne_nil _ _) ?_ hrest⟩
          rw [hsame]
          exact hmatch

theorem replacements_of_not_foundIn (hscan : Scanned r category prev pieces)
    (h : ∀ before span after, original pieces = before ++ (span ++ after) →
      ¬ r.Matches (behind prev before) span after) : replacements pieces = [] := by
  induction hscan with
  | nil => rfl
  | kept hnone hrest ih =>
    refine ih fun before span after htext ↦ h (_ :: before) span after ?_
    rw [original_kept, htext]
    rfl
  | replaced hne hmatch hrest ih => exact absurd hmatch (h [] _ _ rfl)

/-- The scan behind its first pieces. -/
theorem Scanned.of_append (h : Scanned r category prev (first ++ rest)) :
    Scanned r category (behind prev (original first)) rest := by
  induction first generalizing prev with
  | nil => exact h
  | cons piece first ih =>
    cases h with
    | kept hnone hrest => exact ih hrest
    | replaced hne hmatch hrest =>
      rw [original_replaced, behind_append]
      exact ih hrest

/-- The spans that a scan replaces are matches. -/
theorem Scanned.matches_of_mem (h : Scanned r category prev pieces) {x : κ × List α}
    (hx : x ∈ replacements pieces) :
    x.1 = category ∧ x.2 ≠ [] ∧ ∃ prev after, r.Matches prev x.2 after := by
  induction h with
  | nil => cases hx
  | kept hnone hrest ih => exact ih hx
  | replaced hne hmatch hrest ih =>
    rcases List.mem_cons.mp hx with rfl | hx
    · exact ⟨rfl, hne, _, _, hmatch⟩
    · exact ih hx

/-! ## Pieces of the text after

A unit that no marker has is one that was kept, and so is a span of such units.
-/

theorem exists_kept_of_rendered {after : List α} (hmarker : ∀ c, marker c ≠ [])
    (hspan : ∀ u ∈ span, ∀ c, u ∉ marker c) (h : rendered marker pieces = span ++ after) :
    ∃ rest, pieces = span.map .kept ++ rest ∧ rendered marker rest = after := by
  induction span generalizing pieces with
  | nil => exact ⟨pieces, rfl, h⟩
  | cons u span ih =>
    obtain ⟨hu, hspan'⟩ := List.forall_mem_cons.mp hspan
    cases pieces with
    | nil => cases h
    | cons piece pieces =>
      cases piece with
      | kept v =>
        obtain ⟨rfl, htext⟩ := List.cons.inj h
        obtain ⟨rest, rfl, hrest⟩ := ih hspan' htext
        exact ⟨rest, rfl, hrest⟩
      | replaced c replacedSpan =>
        obtain ⟨v, marked, hmarked⟩ := List.exists_cons_of_ne_nil (hmarker c)
        rw [rendered_replaced, hmarked, List.cons_append, List.cons_append] at h
        refine absurd ?_ (hu c)
        rw [hmarked, (List.cons.inj h).1]
        exact List.mem_cons_self

theorem exists_kept_of_rendered_eq {before after : List α} (hmarker : ∀ c, marker c ≠ [])
    (hne : span ≠ []) (hspan : ∀ u ∈ span, ∀ c, u ∉ marker c)
    (h : rendered marker pieces = before ++ (span ++ after)) :
    ∃ first rest, pieces = first ++ (span.map .kept ++ rest) ∧ rendered marker first = before ∧
      rendered marker rest = after := by
  induction pieces generalizing before with
  | nil =>
    have hnil := (List.append_eq_nil_iff.mp (List.append_eq_nil_iff.mp h.symm).2).1
    exact absurd hnil hne
  | cons piece pieces ih =>
    by_cases hstart : before = []
    · subst hstart
      obtain ⟨rest, hpieces, hrest⟩ := exists_kept_of_rendered hmarker hspan h
      exact ⟨[], rest, hpieces, rfl, hrest⟩
    cases piece with
    | kept u =>
      obtain ⟨v, before', rfl⟩ := List.exists_cons_of_ne_nil hstart
      obtain ⟨rfl, htext⟩ := List.cons.inj h
      obtain ⟨first, rest, hpieces, hfirst, hrest⟩ := ih htext
      exact ⟨.kept u :: first, rest, congrArg _ hpieces, congrArg _ hfirst, hrest⟩
    | replaced c replacedSpan =>
      rw [rendered_replaced] at h
      rcases List.append_eq_append_iff.mp h with ⟨tail, rfl, htail⟩ | ⟨tail, hc, htail⟩
      · obtain ⟨first, rest, hpieces, hfirst, hrest⟩ := ih htail
        exact ⟨.replaced c replacedSpan :: first, rest, congrArg _ hpieces,
          congrArg (marker c ++ ·) hfirst, hrest⟩
      · cases tail with
        | nil =>
          obtain ⟨first, rest, hpieces, hfirst, hrest⟩ := ih
            (show rendered marker pieces = [] ++ (span ++ after) from htail.symm)
          refine ⟨.replaced c replacedSpan :: first, rest, congrArg _ hpieces, ?_, hrest⟩
          rw [rendered_replaced, hfirst, hc]
          simp
        | cons u tail =>
          -- The marker would go on into the span.
          obtain ⟨v, span', rfl⟩ := List.exists_cons_of_ne_nil hne
          have huv : v = u := (List.cons.inj htail).1
          refine absurd ?_ (hspan v List.mem_cons_self c)
          rw [hc, huv]
          exact List.mem_append_right _ List.mem_cons_self

/-! ## Spans that stand apart

Beside an inner unit that is kept, the text before and the text after have the same unit, so an
assertion is answered alike in both.
-/

/-- No replaced span has an `inner` unit right beside it. -/
def Apart (inner : α → Bool) : Option α → List (Piece κ α) → Prop
  | _, [] => True
  | _, .kept u :: pieces => Apart inner (some u) pieces
  | prev, .replaced _ span :: pieces =>
    prev.any inner = false ∧ (original pieces).head?.any inner = false ∧
      Apart inner (behind prev span) pieces

variable {inner : α → Bool} {before after : List α}

theorem Scanned.apart (h : Scanned r category prev pieces)
    (hr : ∀ prev span after, r.Matches prev span after →
      prev.any inner = false ∧ after.head?.any inner = false) : Apart inner prev pieces := by
  induction h with
  | nil => trivial
  | kept hnone hrest ih => exact ih
  | replaced hne hmatch hrest ih =>
    obtain ⟨hbefore, hafter⟩ := hr _ _ _ hmatch
    exact ⟨hbefore, hafter, ih⟩

theorem Apart.of_append (h : Apart inner prev (first ++ rest)) :
    Apart inner (behind prev (original first)) rest := by
  induction first generalizing prev with
  | nil => exact h
  | cons piece first ih =>
    cases piece with
    | kept u => exact ih h
    | replaced c span =>
      rw [original_replaced, behind_append]
      exact ih h.2.2

/-- Before an inner unit that is kept both texts have the same unit. -/
theorem Apart.behind_rendered (h : Apart inner prev (first ++ .kept u :: rest))
    (hu : inner u = true) :
    behind prev (rendered marker first) = behind prev (original first) := by
  rcases List.eq_nil_or_concat first with rfl | ⟨first, piece, rfl⟩
  · rfl
  rw [List.concat_eq_append] at h ⊢
  cases piece with
  | kept v => simp
  | replaced c span =>
    rw [List.append_assoc] at h
    have hnext : (original (.kept u :: rest)).head?.any inner = false := h.of_append.2.1
    rw [original_kept, List.head?_cons, Option.any_some, hu] at hnext
    cases hnext

/-- Behind an inner unit that is kept both texts have the same unit. -/
theorem Apart.head_rendered (h : Apart inner prev (first ++ .kept u :: rest))
    (hu : inner u = true) : (rendered marker rest).head? = (original rest).head? := by
  cases rest with
  | nil => rfl
  | cons piece rest =>
    cases piece with
    | kept v => rfl
    | replaced c span =>
      have hprev := h.of_append.1
      rw [Option.any_some, hu] at hprev
      cases hprev

/-- A span between inner units that no marker contains was there before, between the same units. -/
theorem Apart.exists_of_rendered_eq (h : Apart inner none pieces) (hmarker : ∀ c, marker c ≠ [])
    (hspan : ∀ u ∈ span, ∀ c, u ∉ marker c) (hhead : span.head?.any inner = true)
    (hlast : span.getLast?.any inner = true)
    (htext : rendered marker pieces = before ++ (span ++ after)) :
    ∃ first rest, pieces = first ++ (span.map .kept ++ rest) ∧
      behind none (original first) = behind none before ∧
      (original rest).head? = after.head? := by
  have hne : span ≠ [] := by
    rintro rfl
    cases hhead
  obtain ⟨first, rest, rfl, rfl, rfl⟩ := exists_kept_of_rendered_eq hmarker hne hspan htext
  refine ⟨first, rest, rfl, ?_, ?_⟩
  · obtain ⟨u, span', rfl⟩ := List.exists_cons_of_ne_nil hne
    exact (h.behind_rendered hhead).symm
  · obtain ⟨span', u, rfl⟩ := (List.eq_nil_or_concat span).resolve_left hne
    rw [List.concat_eq_append] at h hlast
    rw [List.getLast?_concat] at hlast
    rw [List.map_append, List.append_assoc, ← List.append_assoc] at h
    exact (h.head_rendered hlast).symm

/-- An expression whose matches all end with a match between inner units that no marker contains. -/
def Cored (marker : κ → List α) (inner : α → Bool) (r : Regex α) : Prop :=
  ∀ prev span after, r.Matches prev span after → ∃ lead core, span = lead ++ core ∧
    r.Matches (behind prev lead) core after ∧ core.head?.any inner = true ∧
      core.getLast?.any inner = true ∧ ∀ u ∈ core, ∀ c, u ∉ marker c

/-- A match in the text after is one in the text before. -/
theorem Apart.exists_of_foundIn (h : Apart inner none pieces) (hmarker : ∀ c, marker c ≠ [])
    (hr : Cored marker inner r) (hfound : r.FoundIn (rendered marker pieces)) :
    ∃ first span rest, pieces = first ++ (span.map .kept ++ rest) ∧ span ≠ [] ∧
      r.Matches (behind none (original first)) span (original rest) := by
  obtain ⟨before, span, after, htext, hmatch⟩ := hfound
  obtain ⟨lead, core, rfl, hcore, hhead, hlast, hspan⟩ := hr _ _ _ hmatch
  rw [List.append_assoc, ← List.append_assoc] at htext
  obtain ⟨first, rest, hpieces, hbefore, hafter⟩ :=
    h.exists_of_rendered_eq hmarker hspan hhead hlast htext
  refine ⟨first, core, rest, hpieces, ?_, ?_⟩
  · rintro rfl
    cases hhead
  · rw [hbefore, behind_append]
    exact matches_congr hafter.symm hcore

/-- A replacement does not make up a match. -/
theorem Apart.not_foundIn (h : Apart inner none pieces) (hmarker : ∀ c, marker c ≠ [])
    (hr : Cored marker inner r) (hnone : ¬ r.FoundIn (original pieces)) :
    ¬ r.FoundIn (rendered marker pieces) := by
  intro hfound
  obtain ⟨first, span, rest, rfl, -, hmatch⟩ := h.exists_of_foundIn hmarker hr hfound
  exact hnone ⟨original first, span, original rest, by simp, hmatch⟩

/-- A scan leaves no match. -/
theorem Scanned.not_foundIn (hscan : Scanned r category none pieces)
    (h : Apart inner none pieces) (hmarker : ∀ c, marker c ≠ []) (hr : Cored marker inner r) :
    ¬ r.FoundIn (rendered marker pieces) := by
  intro hfound
  obtain ⟨first, span, rest, rfl, hne, hmatch⟩ := h.exists_of_foundIn hmarker hr hfound
  obtain ⟨u, span, rfl⟩ := List.exists_cons_of_ne_nil hne
  cases hscan.of_append with
  | kept hnone _ =>
    refine hnone (u :: span) (original rest) (congrArg (u :: ·) ?_) hmatch
    exact original_append.trans (congrArg (· ++ original rest) original_map_kept)

/-! ## Runs of inner units

A run of inner units is kept as a whole or lies in one of the replaced spans.
-/

theorem Apart.exists_kept (h : Apart inner prev pieces) (hprev : prev.any inner = true)
    (hrun : ∀ u ∈ span, inner u = true) (htext : original pieces = span ++ after) :
    ∃ rest, pieces = span.map .kept ++ rest ∧ original rest = after := by
  induction span generalizing pieces prev with
  | nil => exact ⟨pieces, rfl, htext⟩
  | cons u span ih =>
    obtain ⟨hu, hrun'⟩ := List.forall_mem_cons.mp hrun
    cases pieces with
    | nil => cases htext
    | cons piece pieces =>
      cases piece with
      | kept v =>
        obtain ⟨rfl, htail⟩ := List.cons.inj htext
        have hpieces : Apart inner (some v) pieces := h
        obtain ⟨rest, rfl, hrest⟩ := ih hpieces hu hrun' htail
        exact ⟨rest, rfl, hrest⟩
      | replaced c span' =>
        rw [h.1] at hprev
        cases hprev

theorem Apart.kept_or_replaced (h : Apart inner prev pieces) (hne : span ≠ [])
    (hrun : ∀ u ∈ span, inner u = true) (htext : original pieces = before ++ (span ++ after)) :
    (∃ first rest, pieces = first ++ (span.map .kept ++ rest) ∧ original first = before ∧
      original rest = after) ∨
    ∃ first c x y rest, pieces = first ++ .replaced c (x ++ (span ++ y)) :: rest ∧
      before = original first ++ x ∧ after = y ++ original rest := by
  induction pieces generalizing prev before with
  | nil =>
    have hnil := (List.append_eq_nil_iff.mp (List.append_eq_nil_iff.mp htext.symm).2).1
    exact absurd hnil hne
  | cons piece pieces ih =>
    cases piece with
    | kept u =>
      have htail : Apart inner (some u) pieces := h
      cases before with
      | nil =>
        obtain ⟨v, span', rfl⟩ := List.exists_cons_of_ne_nil hne
        obtain ⟨rfl, hspan⟩ := List.cons.inj htext
        obtain ⟨hu, hrun'⟩ := List.forall_mem_cons.mp hrun
        obtain ⟨rest, rfl, hrest⟩ := htail.exists_kept hu hrun' hspan
        exact .inl ⟨[], rest, rfl, rfl, hrest⟩
      | cons v before =>
        obtain ⟨rfl, hspan⟩ := List.cons.inj htext
        rcases ih htail hspan with ⟨first, rest, hpieces, hfirst, hrest⟩ |
          ⟨first, c, x, y, rest, hpieces, hx, hy⟩
        · exact .inl ⟨.kept u :: first, rest, congrArg _ hpieces, congrArg _ hfirst, hrest⟩
        · exact .inr ⟨.kept u :: first, c, x, y, rest, congrArg _ hpieces, congrArg _ hx, hy⟩
    | replaced c replacedSpan =>
      obtain ⟨-, hnext, hrest⟩ := h
      rw [original_replaced] at htext
      rcases List.append_eq_append_iff.mp htext with ⟨tail, rfl, htail⟩ | ⟨tail, rfl, htail⟩
      · rcases ih hrest htail with ⟨first, rest, hpieces, hfirst, hrest⟩ |
          ⟨first, c', x, y, rest, hpieces, hx, hy⟩
        · exact .inl ⟨.replaced c replacedSpan :: first, rest, congrArg _ hpieces,
            congrArg (replacedSpan ++ ·) hfirst, hrest⟩
        · refine .inr ⟨.replaced c replacedSpan :: first, c', x, y, rest,
            congrArg _ hpieces, ?_, hy⟩
          rw [hx, original_replaced, List.append_assoc]
      · rcases List.append_eq_append_iff.mp htail with ⟨y, rfl, hy⟩ | ⟨run, rfl, hrest⟩
        · exact .inr ⟨[], c, before, y, pieces, rfl, rfl, hy⟩
        · cases run with
          | nil =>
            refine .inr ⟨[], c, before, [], pieces, ?_, rfl, hrest.symm⟩
            rw [List.append_nil, List.append_nil]
            rfl
          | cons u run =>
            -- The run would go on right behind the span.
            rw [hrest, List.cons_append, List.head?_cons, Option.any_some,
              hrun u (List.mem_append_right _ List.mem_cons_self)] at hnext
            cases hnext

/-! ## Replacements one after the other -/

@[simp] theorem replacements_append :
    replacements (first ++ rest) = replacements first ++ replacements rest := by
  induction first with
  | nil => rfl
  | cons piece first ih => cases piece <;> simp [ih]

@[simp] theorem replacements_map_kept :
    replacements (span.map (.kept : α → Piece κ α)) = [] := by
  induction span with
  | nil => rfl
  | cons u span ih => exact ih

/-- A text that no replaced span meets has been kept. -/
theorem exists_kept_of_original {outer : List (Piece κ α)}
    (houter : ∀ x ∈ replacements outer, x.2 ≠ [] ∧ ∀ u ∈ x.2, u ∉ span)
    (htext : original outer = span ++ after) :
    ∃ rest, outer = span.map .kept ++ rest ∧ original rest = after := by
  induction span generalizing outer with
  | nil => exact ⟨outer, rfl, htext⟩
  | cons u span ih =>
    cases outer with
    | nil => cases htext
    | cons piece outer =>
      cases piece with
      | kept v =>
        obtain ⟨rfl, hspan⟩ := List.cons.inj htext
        have houter' : ∀ x ∈ replacements outer, x.2 ≠ [] ∧ ∀ u ∈ x.2, u ∉ span := by
          intro x hx
          obtain ⟨hne, hfree⟩ := houter x hx
          exact ⟨hne, fun u hu hmem ↦ hfree u hu (List.mem_cons_of_mem _ hmem)⟩
        obtain ⟨rest, rfl, hrest⟩ := ih houter' hspan
        exact ⟨rest, rfl, hrest⟩
      | replaced c replacedSpan =>
        obtain ⟨hne, hfree⟩ := houter (c, replacedSpan) List.mem_cons_self
        obtain ⟨v, replacedSpan, rfl⟩ := List.exists_cons_of_ne_nil hne
        obtain ⟨rfl, -⟩ := List.cons.inj htext
        exact absurd List.mem_cons_self (hfree v List.mem_cons_self)

/-- Replacements in a text whose markers they leave alone are replacements in the text before. -/
theorem exists_composed (hmarker : ∀ c, marker c ≠ []) {outer : List (Piece κ α)}
    (houter : ∀ x ∈ replacements outer, x.2 ≠ [] ∧ ∀ u ∈ x.2, ∀ c, u ∉ marker c)
    (htext : original outer = rendered marker pieces) :
    ∃ composed, original composed = original pieces ∧
      rendered marker composed = rendered marker outer ∧
      ∀ x, x ∈ replacements composed ↔ x ∈ replacements pieces ∨ x ∈ replacements outer := by
  induction hlength : pieces.length using Nat.strongRecOn generalizing pieces outer with
  | _ length ih =>
    cases pieces with
    | nil =>
      cases outer with
      | nil => exact ⟨[], rfl, rfl, fun x ↦ by simp [replacements]⟩
      | cons piece outer =>
        cases piece with
        | kept u => cases htext
        | replaced c span =>
          exact absurd (List.append_eq_nil_iff.mp htext).1 (houter (c, span) List.mem_cons_self).1
    | cons piece pieces =>
      rw [List.length_cons] at hlength
      cases piece with
      | kept u =>
        cases outer with
        | nil => cases htext
        | cons piece outer =>
          cases piece with
          | kept v =>
            obtain ⟨rfl, htail⟩ := List.cons.inj htext
            have houter' : ∀ x ∈ replacements outer, x.2 ≠ [] ∧ ∀ u ∈ x.2, ∀ c, u ∉ marker c :=
              houter
            obtain ⟨composed, horiginal, hrendered, hmem⟩ :=
              ih pieces.length (by omega) houter' htail rfl
            exact ⟨.kept v :: composed, congrArg (v :: ·) horiginal,
              congrArg (v :: ·) hrendered, hmem⟩
          | replaced c span =>
            -- All of the span has been kept so far.
            obtain ⟨⟨hne, hfree⟩, houter'⟩ := List.forall_mem_cons.mp houter
            obtain ⟨v, span, rfl⟩ := List.exists_cons_of_ne_nil hne
            obtain ⟨rfl, htail⟩ := List.cons.inj htext
            obtain ⟨rest, rfl, hrest⟩ := exists_kept_of_rendered hmarker
              (fun u hu ↦ hfree u (List.mem_cons_of_mem _ hu)) htail.symm
            rw [List.length_append] at hlength
            obtain ⟨composed, horiginal, hrendered, hmem⟩ :=
              ih rest.length (by omega) houter' hrest.symm rfl
            refine ⟨.replaced c (v :: span) :: composed, ?_, congrArg (marker c ++ ·) hrendered, ?_⟩
            · rw [original_replaced, original_kept, original_append, original_map_kept, horiginal,
                List.cons_append]
            · intro x
              simp only [replacements_kept, replacements_replaced, replacements_append,
                replacements_map_kept, List.nil_append, List.mem_cons, hmem]
              tauto
      | replaced c span =>
        -- a marker is left alone by the outer pass, unit by unit
        obtain ⟨rest, rfl, hrest⟩ := exists_kept_of_original
          (fun x hx ↦ ⟨(houter x hx).1, fun u hu ↦ (houter x hx).2 u hu c⟩) htext
        rw [replacements_append, replacements_map_kept, List.nil_append] at houter
        obtain ⟨composed, horiginal, hrendered, hmem⟩ :=
          ih pieces.length (by omega) houter hrest rfl
        refine ⟨.replaced c span :: composed, congrArg (span ++ ·) horiginal, ?_, ?_⟩
        · rw [rendered_replaced, rendered_append, rendered_map_kept, hrendered]
        · intro x
          simp only [replacements_replaced, replacements_append, replacements_map_kept,
            List.nil_append, List.mem_cons, hmem]
          tauto

end

end Texts
