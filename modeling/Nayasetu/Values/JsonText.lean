import Nayasetu.Values.JsNumber

/-!
# Parsing JSON

`JSON.parse`, on the code units of a text. The parser counts its calls down, and
`parseJson_of_measure_le` says that the count it is given is never used up: more of it gives the
same result.

A value, the rest of an array and the rest of an object are three goals of one parser
(`JsonGoal`), which answers each with what was read and the text behind it. The properties of an
object are listed in the order in which their keys first appear, and the last value of a key
counts; the key `__proto__` is one like any other.

Numbers are read by their digits and rounded, so two texts of numbers may be read as one. Escapes
are decoded into code units one by one: an escaped half of a surrogate pair is kept as it is.
-/

namespace Values

/-- A parsed document. The keys of an object are distinct. -/
inductive Json where
  | null
  | bool (b : Bool)
  | number (n : JsNumber)
  | string (s : JsString)
  | array (elements : List Json)
  | object (fields : List (JsString × Json))

/-- White space between tokens. -/
def isJsonSpace (u : UInt16) : Bool := decide (u = 9 ∨ u = 10 ∨ u = 13 ∨ u = 32)

def skipSpace (text : JsString) : JsString := text.dropWhile isJsonSpace

def simpleEscape (u : UInt16) : Option UInt16 :=
  if u = 34 ∨ u = 92 ∨ u = 47 then some u
  else if u = 98 then some 8
  else if u = 102 then some 12
  else if u = 110 then some 10
  else if u = 114 then some 13
  else if u = 116 then some 9
  else none

/-- `\u` with its four digits. -/
def hexEscape (digits : JsString) : Option UInt16 :=
  if digits.all (fun u ↦ decide (JsNumber.digitUnitValue u < 16)) then
    some (UInt16.ofNat (JsNumber.digitsNumber 16 digits))
  else none

/-- A string behind its opening quote, and what follows it. -/
def jsonString : JsString → Option (JsString × JsString)
  | [] => none
  | u :: text =>
    if u = 34 then some ([], text)
    else if u < 32 then none
    else if u ≠ 92 then (jsonString text).map fun (s, rest) ↦ (u :: s, rest)
    else match text with
      | [] => none
      | 117 :: a :: b :: c :: d :: text => do
        let v ← hexEscape [a, b, c, d]
        let (s, rest) ← jsonString text
        return (v :: s, rest)
      | e :: text => do
        let v ← simpleEscape e
        let (s, rest) ← jsonString text
        return (v :: s, rest)

/-- The digits behind the point of a number, with the point. -/
def jsonFraction (text : JsString) : Option (JsString × JsString) :=
  if text.head? = some 46 then
    let digits := text.tail.takeWhile isDigitUnit
    if digits = [] then none else some (46 :: digits, text.tail.dropWhile isDigitUnit)
  else some ([], text)

def jsonExponent (text : JsString) : Option (JsString × JsString) :=
  if text.head? = some 101 ∨ text.head? = some 69 then
    let sign := text.tail.takeWhile fun u ↦ decide (u = 43 ∨ u = 45)
    let digits := (text.tail.drop sign.length).takeWhile isDigitUnit
    if sign.length ≤ 1 ∧ digits ≠ [] then
      some (101 :: sign ++ digits, (text.tail.drop sign.length).dropWhile isDigitUnit)
    else none
  else some ([], text)

def jsonNumber (text : JsString) : Option (JsNumber × JsString) := do
  let negative := text.head? = some 45
  let unsigned := if negative then text.tail else text
  let whole := unsigned.takeWhile isDigitUnit
  if whole = [] ∨ (whole.head? = some 48 ∧ whole.length ≠ 1) then none
  else
    let (fraction, rest) ← jsonFraction (unsigned.dropWhile isDigitUnit)
    let (exponent, rest) ← jsonExponent rest
    let value ← JsNumber.decimalLiteral (whole ++ fraction ++ exponent)
    return (JsNumber.round (if negative then -value else value), rest)

/-- A document that has no parts, and what follows it. -/
def jsonScalar (text : JsString) : Option (Json × JsString) :=
  if text.head? = some 34 then (jsonString text.tail).map fun (s, rest) ↦ (.string s, rest)
  else if (units "null").isPrefixOf text then some (.null, text.drop 4)
  else if (units "true").isPrefixOf text then some (.bool true, text.drop 4)
  else if (units "false").isPrefixOf text then some (.bool false, text.drop 5)
  else (jsonNumber text).map fun (n, rest) ↦ (.number n, rest)

def setField (fields : List (JsString × Json)) (key : JsString) (value : Json) :
    List (JsString × Json) :=
  if fields.any (fun field ↦ decide (field.1 = key)) then
    fields.map fun field ↦ if field.1 = key then (key, value) else field
  else fields ++ [(key, value)]

/-- What the parser is about to read. -/
inductive JsonGoal where
  | value
  /-- An element of an array and the rest of it. -/
  | elements (read : List Json)
  /-- A member of an object and the rest of it. -/
  | members (read : List (JsString × Json))

/-- Read what is meant, and give what follows it. -/
def parseJson : ℕ → JsonGoal → JsString → Option (Json × JsString)
  | 0, _, _ => none
  | calls + 1, .value, text =>
    match skipSpace text with
    | [] => none
    | u :: rest =>
      if u = 123 then
        if (skipSpace rest).head? = some 125 then some (.object [], (skipSpace rest).tail)
        else parseJson calls (.members []) rest
      else if u = 91 then
        if (skipSpace rest).head? = some 93 then some (.array [], (skipSpace rest).tail)
        else parseJson calls (.elements []) rest
      else jsonScalar (u :: rest)
  | calls + 1, .elements read, text => do
    let (value, rest) ← parseJson calls .value text
    match skipSpace rest with
    | [] => none
    | u :: rest =>
      if u = 44 then parseJson calls (.elements (read ++ [value])) rest
      else if u = 93 then some (.array (read ++ [value]), rest)
      else none
  | calls + 1, .members read, text => do
    if (skipSpace text).head? ≠ some 34 then none
    else
      let (key, rest) ← jsonString (skipSpace text).tail
      if (skipSpace rest).head? ≠ some 58 then none
      else
        let (value, rest) ← parseJson calls .value (skipSpace rest).tail
        match skipSpace rest with
        | [] => none
        | u :: rest =>
          if u = 44 then parseJson calls (.members (setField read key value)) rest
          else if u = 125 then some (.object (setField read key value), rest)
          else none

/-- `JSON.parse(text)`. -/
def jsonParse (text : JsString) : Option Json := do
  let (value, rest) ← parseJson (2 * text.length + 1) .value text
  if skipSpace rest = [] then some value else none

/-- A property of what was parsed. -/
def jsonField (doc : Json) (key : String) : Option Json :=
  match doc with
  | .object fields => fields.lookup (units key)
  | _ => none

/-! ## The parser comes to an end

Every goal shortens the text or turns into one that does. `JsonGoal.measure` weighs the goal and
what is left of the text, and goes down with each call.
-/

section Progress

variable {text rest s digits : JsString} {value : Json} {calls : ℕ} {goal : JsonGoal}

theorem length_skipSpace_le (text : JsString) : (skipSpace text).length ≤ text.length :=
  (List.dropWhile_sublist _).length_le

theorem exists_of_escape {escape : Option UInt16}
    (h : (do
      let v ← escape
      let (s, rest) ← jsonString text
      return (v :: s, rest)) = some (s, rest)) :
    ∃ s', jsonString text = some (s', rest) := by
  obtain ⟨v, -, h⟩ := Option.bind_eq_some_iff.mp h
  obtain ⟨⟨s', rest'⟩, hrest, h⟩ := Option.bind_eq_some_iff.mp h
  cases h
  exact ⟨s', hrest⟩

theorem length_jsonString_lt (h : jsonString text = some (s, rest)) :
    rest.length < text.length := by
  fun_induction jsonString text generalizing s with
  | case1 => cases h
  | case2 text =>
    cases h
    exact Nat.lt_succ_self _
  | case3 text u hquote hcontrol => cases h
  | case4 text u hquote hcontrol hbackslash ih =>
    obtain ⟨⟨s', rest'⟩, hrest, heq⟩ := Option.map_eq_some_iff.mp h
    cases heq
    exact (ih hrest).trans (Nat.lt_succ_self _)
  | case5 => cases h
  | case6 u _ _ _ a b c d text ih =>
    obtain ⟨s', hrest⟩ := exists_of_escape h
    have := ih hrest
    simp only [List.length_cons]
    omega
  | case7 u _ _ _ e text _ ih =>
    obtain ⟨s', hrest⟩ := exists_of_escape h
    have := ih hrest
    simp only [List.length_cons]
    omega

theorem length_jsonFraction_le (h : jsonFraction text = some (digits, rest)) :
    rest.length ≤ text.length := by
  rw [jsonFraction] at h
  split at h
  · dsimp only at h
    split at h
    · cases h
    · cases h
      exact ((List.dropWhile_sublist _).length_le).trans (by simp)
  · cases h
    exact le_rfl

theorem length_jsonExponent_le (h : jsonExponent text = some (digits, rest)) :
    rest.length ≤ text.length := by
  rw [jsonExponent] at h
  split at h
  · dsimp only at h
    split at h
    · cases h
      refine ((List.dropWhile_sublist _).length_le).trans ?_
      simp only [List.length_drop, List.length_tail]
      omega
    · cases h
  · cases h
    exact le_rfl

theorem length_jsonNumber_lt {n : JsNumber} (h : jsonNumber text = some (n, rest)) :
    rest.length < text.length := by
  rw [jsonNumber] at h
  have hunsigned : (if text.head? = some 45 then text.tail else text).length ≤ text.length := by
    split <;> simp
  dsimp only at h
  generalize (if text.head? = some 45 then text.tail else text) = unsigned at h hunsigned
  split at h
  · cases h
  next hwhole =>
    obtain ⟨⟨fraction, rest₁⟩, hfraction, h⟩ := Option.bind_eq_some_iff.mp h
    obtain ⟨⟨exponent, rest₂⟩, hexponent, h⟩ := Option.bind_eq_some_iff.mp h
    obtain ⟨literal, -, h⟩ := Option.bind_eq_some_iff.mp h
    cases h
    have h₁ := length_jsonFraction_le hfraction
    have h₂ := length_jsonExponent_le hexponent
    have hlength :=
      congrArg List.length (List.takeWhile_append_dropWhile (p := isDigitUnit) (l := unsigned))
    have hpositive := List.length_pos_of_ne_nil (not_or.mp hwhole).1
    rw [List.length_append] at hlength
    dsimp only at h₂ ⊢
    omega

theorem length_drop_lt_of_isPrefixOf {literal : JsString} (hne : literal ≠ [])
    (h : literal.isPrefixOf text = true) : (text.drop literal.length).length < text.length := by
  obtain ⟨rest, rfl⟩ := List.isPrefixOf_iff_prefix.mp h
  have := List.length_pos_of_ne_nil hne
  simp only [List.length_drop, List.length_append]
  omega

theorem length_jsonScalar_lt (h : jsonScalar text = some (value, rest)) :
    rest.length < text.length := by
  rw [jsonScalar] at h
  split at h
  next hquote =>
    obtain ⟨⟨s, rest'⟩, hstring, heq⟩ := Option.map_eq_some_iff.mp h
    cases heq
    refine (length_jsonString_lt hstring).trans_le ?_
    simp
  split at h
  next hnull =>
    cases h
    exact length_drop_lt_of_isPrefixOf (by decide) hnull
  split at h
  next htrue =>
    cases h
    exact length_drop_lt_of_isPrefixOf (by decide) htrue
  split at h
  next hfalse =>
    cases h
    exact length_drop_lt_of_isPrefixOf (by decide) hfalse
  next =>
    obtain ⟨⟨n, rest'⟩, hnumber, heq⟩ := Option.map_eq_some_iff.mp h
    cases heq
    exact length_jsonNumber_lt hnumber

theorem length_parseJson_lt (h : parseJson calls goal text = some (value, rest)) :
    rest.length < text.length := by
  induction calls generalizing goal text value rest with
  | zero => cases h
  | succ calls ih =>
    have hskip := length_skipSpace_le text
    cases goal with
    | value =>
      rw [parseJson] at h
      split at h
      next => cases h
      next u rest' hcons =>
        rw [hcons, List.length_cons] at hskip
        have hskip' := length_skipSpace_le rest'
        split at h
        · split at h
          · cases h
            rw [List.length_tail]
            omega
          · have := ih h
            omega
        split at h
        · split at h
          · cases h
            rw [List.length_tail]
            omega
          · have := ih h
            omega
        have := length_jsonScalar_lt h
        rw [List.length_cons] at this
        omega
    -- an element, and then a comma or the end: each takes something off the text
    | elements read =>
      obtain ⟨⟨value', rest'⟩, hvalue, h⟩ := Option.bind_eq_some_iff.mp h
      have hshorter := ih hvalue
      have hskip' := length_skipSpace_le rest'
      dsimp only at h
      split at h
      next => cases h
      next u rest'' hcons =>
        rw [hcons, List.length_cons] at hskip'
        split at h
        · have := ih h
          omega
        split at h
        · cases h
          omega
        · cases h
    | members read =>
      rw [parseJson] at h
      split at h
      next => cases h
      next =>
        obtain ⟨⟨key, rest'⟩, hkey, h⟩ := Option.bind_eq_some_iff.mp h
        have hkey' := length_jsonString_lt hkey
        rw [List.length_tail] at hkey'
        dsimp only at h
        split at h
        next => cases h
        next =>
          obtain ⟨⟨value', rest''⟩, hvalue, h⟩ := Option.bind_eq_some_iff.mp h
          have hvalue' := ih hvalue
          rw [List.length_tail] at hvalue'
          have hskip' := length_skipSpace_le rest'
          have hskip'' := length_skipSpace_le rest''
          dsimp only at h
          split at h
          next => cases h
          next u rest₃ hcons =>
            rw [hcons, List.length_cons] at hskip''
            split at h
            · have := ih h
              omega
            split at h
            · cases h
              omega
            · cases h

/-- The calls that reading takes at most. -/
def JsonGoal.measure (goal : JsonGoal) (text : JsString) : ℕ :=
  match goal with
  | .value => 2 * text.length + 1
  | .elements _ | .members _ => 2 * text.length + 2

/-- One more call makes no difference once there are enough. -/
theorem parseJson_succ (h : goal.measure text ≤ calls) :
    parseJson (calls + 1) goal text = parseJson calls goal text := by
  induction calls generalizing goal text with
  | zero => cases goal <;> cases h
  | succ calls ih =>
    have hskip := length_skipSpace_le text
    cases goal with
    | value =>
      rw [JsonGoal.measure] at h
      rw [parseJson.eq_2, parseJson.eq_2]
      split
      next => rfl
      next u rest hcons =>
        rw [hcons, List.length_cons] at hskip
        have hmembers : (JsonGoal.members []).measure rest ≤ calls := by
          rw [JsonGoal.measure]
          omega
        have helements : (JsonGoal.elements []).measure rest ≤ calls := by
          rw [JsonGoal.measure]
          omega
        rw [ih hmembers, ih helements]
    | elements read =>
      rw [JsonGoal.measure] at h
      rw [parseJson.eq_3, parseJson.eq_3]
      have hfirst : JsonGoal.value.measure text ≤ calls := by
        rw [JsonGoal.measure]
        omega
      rw [ih hfirst]
      refine Option.bind_congr fun (value, rest) hvalue ↦ ?_
      have hshorter := length_parseJson_lt hvalue
      have hskip' := length_skipSpace_le rest
      dsimp only
      split
      next => rfl
      next u rest' hcons =>
        rw [hcons, List.length_cons] at hskip'
        have hrest : (JsonGoal.elements (read ++ [value])).measure rest' ≤ calls := by
          rw [JsonGoal.measure]
          omega
        rw [ih hrest]
    | members read =>
      rw [JsonGoal.measure] at h
      rw [parseJson.eq_4, parseJson.eq_4]
      split
      next => rfl
      next =>
        refine Option.bind_congr fun (key, rest) hkey ↦ ?_
        have hkey' := length_jsonString_lt hkey
        rw [List.length_tail] at hkey'
        have hskip' := length_skipSpace_le rest
        dsimp only
        split
        next => rfl
        next =>
          have hfirst : JsonGoal.value.measure (skipSpace rest).tail ≤ calls := by
            rw [JsonGoal.measure, List.length_tail]
            omega
          rw [ih hfirst]
          refine Option.bind_congr fun (value, rest') hvalue ↦ ?_
          have hshorter := length_parseJson_lt hvalue
          rw [List.length_tail] at hshorter
          have hskip'' := length_skipSpace_le rest'
          dsimp only
          split
          next => rfl
          next u rest'' hcons =>
            rw [hcons, List.length_cons] at hskip''
            have hrest : (JsonGoal.members (setField read key value)).measure rest'' ≤ calls := by
              rw [JsonGoal.measure]
              omega
            rw [ih hrest]

/-- The result does not depend on the count of calls. -/
theorem parseJson_of_measure_le (h : goal.measure text ≤ calls) :
    parseJson calls goal text = parseJson (goal.measure text) goal text := by
  induction calls, h using Nat.le_induction with
  | base => rfl
  | succ calls h ih => rw [parseJson_succ h, ih]

end Progress

/-- White space does not begin a value. -/
theorem jsonScalar_of_space {u : UInt16} {text : JsString} (h : isSpaceUnit u = true) :
    jsonScalar (u :: text) = none := by
  have hne : ∀ {v : UInt16}, isSpaceUnit v = false → u ≠ v := by
    rintro v hv rfl
    exact absurd (h.symm.trans hv) (by decide)
  have hdigit : isDigitUnit u = false := by
    by_contra hu
    have hspace := forall_of_isDigitUnit (P := fun u ↦ isSpaceUnit u = false) (by decide)
      (Bool.of_not_eq_false hu)
    exact hne hspace rfl
  have hliteral : ∀ {literal : JsString} (v : UInt16), literal.head? = some v →
      isSpaceUnit v = false → ¬ literal.isPrefixOf (u :: text) = true := by
    intro literal v hhead hv h
    obtain ⟨rest, hrest⟩ := List.isPrefixOf_iff_prefix.mp h
    cases literal with
    | nil => cases hhead
    | cons w literal =>
      cases hhead
      exact hne hv (List.cons.inj hrest).1.symm
  have hnumber : jsonNumber (u :: text) = none := by
    have hsign : ¬ u = 45 := hne (by decide)
    simp [jsonNumber, hsign, hdigit]
  have hquote : ¬ (u :: text).head? = some 34 := fun h ↦ hne (by decide) (Option.some.inj h)
  rw [jsonScalar, if_neg hquote, if_neg (hliteral 110 rfl (by decide)),
    if_neg (hliteral 116 rfl (by decide)), if_neg (hliteral 102 rfl (by decide)), hnumber]
  rfl

theorem jsonParse_of_space {text : JsString} (h : ∀ u ∈ text, isSpaceUnit u = true) :
    jsonParse text = none := by
  rw [jsonParse, parseJson.eq_2]
  split
  next => rfl
  next u rest hcons =>
    have hu : isSpaceUnit u = true :=
      h u ((List.dropWhile_sublist _).subset (hcons ▸ List.mem_cons_self))
    have hobject : ¬ u = 123 := by
      rintro rfl
      cases hu
    have harray : ¬ u = 91 := by
      rintro rfl
      cases hu
    rw [if_neg hobject, if_neg harray, jsonScalar_of_space hu]
    rfl

end Values
