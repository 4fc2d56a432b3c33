import Nayasetu.Values.JsonText

/-!
# Writing JSON

`JSON.stringify`, of values made of strings, arrays and objects. What it writes is read back as what
it was written from, whatever follows it, so two values never have one text.

## The shape of the proof

`Reads` says of a text that the parser reads it as a value and leaves whatever follows. It is the
statement the induction on documents needs: the elements of an array and the members of an object
are written one behind the other, and each has to be read without looking at the next. A document
with two properties of one name is written like any other, but is not read back; `Keyed` leaves it
out.

The other direction is about signatures. What arrives as a text and parses to a document without
double names (`jsonParse_keyed`) is the document that a canonical text of it was written from.
-/

namespace Values

/-- A value made of strings, arrays and objects, whose properties are in their order. -/
inductive Document where
  | text (s : JsString)
  | list (elements : List Document)
  | record (fields : List (JsString × Document))

namespace Document

/-- No object has two properties of one name. -/
inductive Keyed : Document → Prop
  | text (s : JsString) : Keyed (.text s)
  | list {elements : List Document} (h : ∀ d ∈ elements, Keyed d) : Keyed (.list elements)
  | record {fields : List (JsString × Document)} (hkeys : (fields.map Prod.fst).Nodup)
      (h : ∀ field ∈ fields, Keyed field.2) : Keyed (.record fields)

mutual

def json : Document → Json
  | .text s => .string s
  | .list elements => .array (jsonElements elements)
  | .record fields => .object (jsonFields fields)

def jsonElements : List Document → List Json
  | [] => []
  | d :: elements => d.json :: jsonElements elements

/-- The properties as they are parsed. -/
def jsonFields : List (JsString × Document) → List (JsString × Json)
  | [] => []
  | (key, d) :: fields => (key, d.json) :: jsonFields fields

end

end Document

mutual

/-- A parsed document that is made of strings, arrays and objects. -/
def Json.document : Json → Option Document
  | .string s => some (.text s)
  | .array elements => (Json.documents elements).map .list
  | .object fields => (Json.documentFields fields).map .record
  | _ => none

/-- Its elements. -/
def Json.documents : List Json → Option (List Document)
  | [] => some []
  | value :: elements => do
    let d ← value.document
    let rest ← Json.documents elements
    return d :: rest

/-- Its properties. -/
def Json.documentFields : List (JsString × Json) → Option (List (JsString × Document))
  | [] => some []
  | (key, value) :: fields => do
    let d ← value.document
    let rest ← Json.documentFields fields
    return (key, d) :: rest

end

mutual

/-- What is parsed is made of the same parts. -/
theorem Document.document_json : (d : Document) → d.json.document = some d
  | .text s => rfl
  | .list elements => by
    rw [Document.json, Json.document, Document.documents_jsonElements elements]
    rfl
  | .record fields => by
    rw [Document.json, Json.document, Document.documentFields_jsonFields fields]
    rfl

theorem Document.documents_jsonElements : (elements : List Document) →
    Json.documents (Document.jsonElements elements) = some elements
  | [] => rfl
  | d :: elements => by
    rw [Document.jsonElements, Json.documents, Document.document_json d,
      Document.documents_jsonElements elements]
    rfl

theorem Document.documentFields_jsonFields : (fields : List (JsString × Document)) →
    Json.documentFields (Document.jsonFields fields) = some fields
  | [] => rfl
  | (key, d) :: fields => by
    rw [Document.jsonFields, Json.documentFields, Document.document_json d,
      Document.documentFields_jsonFields fields]
    rfl

end

/-! ## Strings

Quotes, backslashes and control characters are escaped, and so is half of a surrogate pair that
stands alone. Everything else is written as it is.
-/

/-- A hexadecimal digit, in lower case. -/
def hexDigitUnit (n : ℕ) : UInt16 := if n < 10 then UInt16.ofNat (48 + n) else UInt16.ofNat (87 + n)

/-- `UnicodeEscape`. -/
def unicodeEscape (u : UInt16) : JsString :=
  [92, 117, hexDigitUnit (u.toNat / 4096), hexDigitUnit (u.toNat / 256 % 16),
    hexDigitUnit (u.toNat / 16 % 16), hexDigitUnit (u.toNat % 16)]

/-- The first half of a surrogate pair. -/
def isLeadUnit (u : UInt16) : Bool := decide (0xD800 ≤ u ∧ u ≤ 0xDBFF)

/-- The second half of a surrogate pair. -/
def isTrailUnit (u : UInt16) : Bool := decide (0xDC00 ≤ u ∧ u ≤ 0xDFFF)

/-- What is written for a unit outside of surrogate pairs. -/
def quotedUnit (u : UInt16) : JsString :=
  if u = 8 then [92, 98]
  else if u = 9 then [92, 116]
  else if u = 10 then [92, 110]
  else if u = 12 then [92, 102]
  else if u = 13 then [92, 114]
  else if u = 34 then [92, 34]
  else if u = 92 then [92, 92]
  else if u < 32 ∨ isLeadUnit u = true ∨ isTrailUnit u = true then unicodeEscape u
  else [u]

/-- What is written between the quotes of a string: pairs of surrogates stay, single ones are
escaped. -/
def quotedUnits : JsString → JsString
  | [] => []
  | [u] => quotedUnit u
  | u :: v :: rest =>
    if isLeadUnit u = true ∧ isTrailUnit v = true then u :: v :: quotedUnits rest
    else quotedUnit u ++ quotedUnits (v :: rest)

/-- `QuoteJSONString`. -/
def jsonQuote (s : JsString) : JsString := 34 :: (quotedUnits s ++ [34])

theorem hexDigitUnit_value {n : ℕ} (h : n < 16) : JsNumber.digitUnitValue (hexDigitUnit n) = n := by
  interval_cases n <;> rfl

theorem hexEscape_unicodeEscape (u : UInt16) : hexEscape [hexDigitUnit (u.toNat / 4096),
    hexDigitUnit (u.toNat / 256 % 16), hexDigitUnit (u.toNat / 16 % 16),
    hexDigitUnit (u.toNat % 16)] = some u := by
  have hlt : u.toNat < 65536 := u.toNat_lt
  have h₁ := hexDigitUnit_value (n := u.toNat / 4096) (by omega)
  have h₂ := hexDigitUnit_value (n := u.toNat / 256 % 16) (by omega)
  have h₃ := hexDigitUnit_value (n := u.toNat / 16 % 16) (by omega)
  have h₄ := hexDigitUnit_value (n := u.toNat % 16) (by omega)
  have hnumber : JsNumber.digitsNumber 16 [hexDigitUnit (u.toNat / 4096),
      hexDigitUnit (u.toNat / 256 % 16), hexDigitUnit (u.toNat / 16 % 16),
      hexDigitUnit (u.toNat % 16)] = u.toNat := by
    simp only [JsNumber.digitsNumber, List.foldl_cons, List.foldl_nil, h₁, h₂, h₃, h₄]
    omega
  rw [hexEscape, hnumber, UInt16.ofNat_toNat, if_pos]
  simp only [List.all_cons, List.all_nil, h₁, h₂, h₃, h₄, Bool.and_true, Bool.and_eq_true,
    decide_eq_true_eq]
  omega

/-- A unit that is written as it is. -/
theorem jsonString_cons {u : UInt16} {text : JsString} (hquote : u ≠ 34) (hcontrol : ¬ u < 32)
    (hbackslash : u ≠ 92) :
    jsonString (u :: text) = (jsonString text).map fun (s, rest) ↦ (u :: s, rest) := by
  rw [jsonString.eq_def]
  simp only [if_neg hquote, if_neg hcontrol, if_pos hbackslash]

theorem jsonString_unicodeEscape {u : UInt16} {text s rest : JsString}
    (h : jsonString text = some (s, rest)) :
    jsonString (unicodeEscape u ++ text) = some (u :: s, rest) := by
  have hread : jsonString (unicodeEscape u ++ text) = (do
      let v ← hexEscape [hexDigitUnit (u.toNat / 4096), hexDigitUnit (u.toNat / 256 % 16),
        hexDigitUnit (u.toNat / 16 % 16), hexDigitUnit (u.toNat % 16)]
      let (s, rest) ← jsonString text
      return (v :: s, rest)) := by
    rw [unicodeEscape, List.cons_append, jsonString.eq_def]
    rfl
  rw [hread, hexEscape_unicodeEscape, h]
  rfl

/-- A unit is read back from what is written for it. -/
theorem jsonString_quotedUnit {u : UInt16} {text s rest : JsString}
    (h : jsonString text = some (s, rest)) :
    jsonString (quotedUnit u ++ text) = some (u :: s, rest) := by
  have hescape {v e : UInt16} (he : simpleEscape e = some v) (hne : e ≠ 117) :
      jsonString (92 :: e :: text) = some (v :: s, rest) := by
    rw [jsonString.eq_def]
    simp [he, hne, h]
  by_cases h₁ : u = 8
  · exact h₁ ▸ hescape rfl (by decide)
  by_cases h₂ : u = 9
  · exact h₂ ▸ hescape rfl (by decide)
  by_cases h₃ : u = 10
  · exact h₃ ▸ hescape rfl (by decide)
  by_cases h₄ : u = 12
  · exact h₄ ▸ hescape rfl (by decide)
  by_cases h₅ : u = 13
  · exact h₅ ▸ hescape rfl (by decide)
  by_cases h₆ : u = 34
  · exact h₆ ▸ hescape rfl (by decide)
  by_cases h₇ : u = 92
  · exact h₇ ▸ hescape rfl (by decide)
  by_cases h₈ : u < 32 ∨ isLeadUnit u = true ∨ isTrailUnit u = true
  · rw [quotedUnit, if_neg h₁, if_neg h₂, if_neg h₃, if_neg h₄, if_neg h₅, if_neg h₆, if_neg h₇,
      if_pos h₈]
    exact jsonString_unicodeEscape h
  · rw [quotedUnit, if_neg h₁, if_neg h₂, if_neg h₃, if_neg h₄, if_neg h₅, if_neg h₆, if_neg h₇,
      if_neg h₈, List.singleton_append, jsonString_cons h₆ (fun hu ↦ h₈ (.inl hu)) h₇, h]
    rfl

theorem not_syntax_of_surrogate {u : UInt16} (h : 0xD800 ≤ u) : u ≠ 34 ∧ ¬ u < 32 ∧ u ≠ 92 := by
  have hle : 0xD800 ≤ u.toNat := h
  refine ⟨?_, fun hlt ↦ ?_, ?_⟩
  · rintro rfl
    exact absurd hle (by decide)
  · have hlt' : u.toNat < 32 := hlt
    omega
  · rintro rfl
    exact absurd hle (by decide)

/-- **A string is read back** from what is written for it. -/
theorem jsonString_quotedUnits (s rest : JsString) :
    jsonString (quotedUnits s ++ 34 :: rest) = some (s, rest) := by
  have hend : jsonString (34 :: rest) = some ([], rest) := by
    rw [jsonString.eq_def]
    rfl
  fun_induction quotedUnits s with
  | case1 => exact hend
  | case2 u => exact jsonString_quotedUnit hend
  | case3 u v text hpair ih =>
    obtain ⟨hlead, htrail⟩ := hpair
    obtain ⟨hu₁, hu₂, hu₃⟩ := not_syntax_of_surrogate (of_decide_eq_true hlead).1
    have hle : (0xD800 : UInt16) ≤ 0xDC00 := by decide
    have hv : 0xD800 ≤ v := UInt16.le_trans hle (of_decide_eq_true htrail).1
    obtain ⟨hv₁, hv₂, hv₃⟩ := not_syntax_of_surrogate hv
    rw [List.cons_append, List.cons_append, jsonString_cons hu₁ hu₂ hu₃,
      jsonString_cons hv₁ hv₂ hv₃, ih]
    rfl
  | case4 u v text hpair ih =>
    rw [List.append_assoc]
    exact jsonString_quotedUnit ih

/-! ## Documents

The parser is given more calls than it needs, so how many are left over never matters.
-/

namespace Document

mutual

/-- `JSON.stringify`. -/
def stringify : Document → JsString
  | .text s => jsonQuote s
  | .list [] => [91, 93]
  | .list (d :: elements) => 91 :: (d.stringify ++ stringifyElements elements)
  | .record [] => [123, 125]
  | .record ((key, d) :: fields) =>
    123 :: (jsonQuote key ++ 58 :: (d.stringify ++ stringifyFields fields))

/-- The elements behind the first one, and the end of the array. -/
def stringifyElements : List Document → JsString
  | [] => [93]
  | d :: elements => 44 :: (d.stringify ++ stringifyElements elements)

/-- The properties behind the first one, and the end of the object. -/
def stringifyFields : List (JsString × Document) → JsString
  | [] => [125]
  | (key, d) :: fields => 44 :: (jsonQuote key ++ 58 :: (d.stringify ++ stringifyFields fields))

end

end Document

def Reads (goal : JsonGoal) (text : JsString) (value : Json) (rest : JsString) : Prop :=
  ∃ n, ∀ calls, n ≤ calls → parseJson calls goal text = some (value, rest)

section Reads

variable {goal : JsonGoal} {text rest rest' key : JsString} {value first : Json} {u : UInt16}

/-- One more call is one more call. -/
theorem Reads.succ
    (h : ∃ n, ∀ calls, n ≤ calls → parseJson (calls + 1) goal text = some (value, rest)) :
    Reads goal text value rest := by
  obtain ⟨n, h⟩ := h
  refine ⟨n + 1, fun calls hcalls ↦ ?_⟩
  obtain ⟨m, rfl⟩ : ∃ m, calls = m + 1 := ⟨calls - 1, by omega⟩
  exact h m (by omega)

/-- There are enough calls for what can be read. -/
theorem Reads.parseJson_eq (h : Reads goal text value rest) :
    parseJson (goal.measure text) goal text = some (value, rest) := by
  obtain ⟨n, h⟩ := h
  rw [← parseJson_of_measure_le (le_max_right n (goal.measure text))]
  exact h _ (le_max_left _ _)

theorem Reads.jsonParse_eq (h : Reads .value text value []) : jsonParse text = some value := by
  have hread := h.parseJson_eq
  rw [JsonGoal.measure] at hread
  rw [jsonParse, hread]
  rfl

theorem skipSpace_cons (h : isJsonSpace u = false) : skipSpace (u :: text) = u :: text :=
  List.dropWhile_cons_of_neg (by rw [h]; exact Bool.false_ne_true)

theorem reads_string (s rest : JsString) : Reads .value (jsonQuote s ++ rest) (.string s) rest := by
  refine Reads.succ ⟨0, fun calls _ ↦ ?_⟩
  have hquote : jsonQuote s ++ rest = 34 :: (quotedUnits s ++ 34 :: rest) := by
    rw [jsonQuote, List.cons_append, List.append_assoc]
    rfl
  rw [hquote, parseJson.eq_2, skipSpace_cons rfl]
  dsimp only
  rw [if_neg (by decide), if_neg (by decide), jsonScalar, if_pos List.head?_cons, List.tail_cons,
    jsonString_quotedUnits]
  rfl

theorem reads_emptyList : Reads .value (91 :: 93 :: rest) (.array []) rest :=
  Reads.succ ⟨0, fun _ _ ↦ rfl⟩

theorem reads_emptyRecord : Reads .value (123 :: 125 :: rest) (.object []) rest :=
  Reads.succ ⟨0, fun _ _ ↦ rfl⟩

/-- A text that begins with `u` begins an array, if `u` is neither a space nor the end of one. -/
theorem Reads.list (hspace : isJsonSpace u = false) (hend : u ≠ 93)
    (h : Reads (.elements []) (u :: text) value rest) :
    Reads .value (91 :: u :: text) value rest := by
  obtain ⟨n, h⟩ := h
  refine Reads.succ ⟨n, fun calls hcalls ↦ ?_⟩
  rw [parseJson.eq_2, skipSpace_cons rfl]
  dsimp only
  rw [if_neg (by decide), if_pos rfl, skipSpace_cons hspace, if_neg (by simpa using hend)]
  exact h calls hcalls

/-- The same for objects. -/
theorem Reads.record (hspace : isJsonSpace u = false) (hend : u ≠ 125)
    (h : Reads (.members []) (u :: text) value rest) :
    Reads .value (123 :: u :: text) value rest := by
  obtain ⟨n, h⟩ := h
  refine Reads.succ ⟨n, fun calls hcalls ↦ ?_⟩
  rw [parseJson.eq_2, skipSpace_cons rfl]
  dsimp only
  rw [if_pos rfl, skipSpace_cons hspace, if_neg (by simpa using hend)]
  exact h calls hcalls

section Elements

variable {read : List Json}

theorem Reads.lastElement (h : Reads .value text first (93 :: rest)) :
    Reads (.elements read) text (.array (read ++ [first])) rest := by
  obtain ⟨n, h⟩ := h
  refine Reads.succ ⟨n, fun calls hcalls ↦ ?_⟩
  rw [parseJson.eq_3, h calls hcalls]
  rfl

theorem Reads.element (h : Reads .value text first (44 :: rest))
    (hrest : Reads (.elements (read ++ [first])) rest value rest') :
    Reads (.elements read) text value rest' := by
  obtain ⟨n, h⟩ := h
  obtain ⟨m, hrest⟩ := hrest
  refine Reads.succ ⟨max n m, fun calls hcalls ↦ ?_⟩
  rw [parseJson.eq_3, h calls (le_trans (le_max_left n m) hcalls)]
  exact hrest calls (le_trans (le_max_right n m) hcalls)

end Elements

section Members

variable {read : List (JsString × Json)}

theorem parseJson_member (calls : ℕ) :
    parseJson (calls + 1) (.members read) (jsonQuote key ++ 58 :: text) =
    (parseJson calls .value text).bind fun (value, rest) ↦
      match skipSpace rest with
      | [] => none
      | u :: rest =>
        if u = 44 then parseJson calls (.members (setField read key value)) rest
        else if u = 125 then some (.object (setField read key value), rest)
        else none := by
  have hquote : jsonQuote key ++ 58 :: text = 34 :: (quotedUnits key ++ 34 :: 58 :: text) := by
    rw [jsonQuote, List.cons_append, List.append_assoc]
    rfl
  rw [hquote, parseJson.eq_4, skipSpace_cons rfl, if_neg (by simp), List.tail_cons,
    jsonString_quotedUnits]
  rfl

theorem Reads.lastMember (h : Reads .value text first (125 :: rest)) :
    Reads (.members read) (jsonQuote key ++ 58 :: text)
      (.object (setField read key first)) rest := by
  obtain ⟨n, h⟩ := h
  refine Reads.succ ⟨n, fun calls hcalls ↦ ?_⟩
  rw [parseJson_member, h calls hcalls]
  rfl

theorem Reads.member (h : Reads .value text first (44 :: rest))
    (hrest : Reads (.members (setField read key first)) rest value rest') :
    Reads (.members read) (jsonQuote key ++ 58 :: text) value rest' := by
  obtain ⟨n, h⟩ := h
  obtain ⟨m, hrest⟩ := hrest
  refine Reads.succ ⟨max n m, fun calls hcalls ↦ ?_⟩
  rw [parseJson_member, h calls (le_trans (le_max_left n m) hcalls)]
  exact hrest calls (le_trans (le_max_right n m) hcalls)

theorem setField_of_not_mem (h : key ∉ read.map Prod.fst) :
    setField read key value = read ++ [(key, value)] := by
  rw [setField, if_neg]
  intro hany
  obtain ⟨field, hmem, hkey⟩ := List.any_eq_true.mp hany
  exact h (of_decide_eq_true hkey ▸ List.mem_map_of_mem hmem)

end Members

end Reads

/-! ## Reading what was written -/

namespace Document

/-- No text of a document begins with a space or the end of an array. -/
theorem exists_stringify_eq (d : Document) :
    ∃ u text, d.stringify = u :: text ∧ isJsonSpace u = false ∧ u ≠ 93 := by
  cases d with
  | text s => exact ⟨34, _, rfl, rfl, by decide⟩
  | list elements =>
    cases elements with
    | nil => exact ⟨91, _, rfl, rfl, by decide⟩
    | cons d elements => exact ⟨91, _, rfl, rfl, by decide⟩
  | record fields =>
    cases fields with
    | nil => exact ⟨123, _, rfl, rfl, by decide⟩
    | cons field fields => exact ⟨123, _, rfl, rfl, by decide⟩

theorem reads_elements {rest : JsString} {elements : List Document}
    (h : ∀ d ∈ elements, ∀ rest, Reads .value (d.stringify ++ rest) d.json rest) {d : Document}
    (hd : ∀ rest, Reads .value (d.stringify ++ rest) d.json rest) (read : List Json) :
    Reads (.elements read) (d.stringify ++ (stringifyElements elements ++ rest))
      (.array (read ++ jsonElements (d :: elements))) rest := by
  induction elements generalizing d read with
  | nil => exact Reads.lastElement (hd _)
  | cons d' elements ih =>
    obtain ⟨hd', helements⟩ := List.forall_mem_cons.mp h
    have htext : stringifyElements (d' :: elements) ++ rest =
        44 :: (d'.stringify ++ (stringifyElements elements ++ rest)) := by simp [stringifyElements]
    have hrest := ih helements hd' (read ++ [d.json])
    rw [List.append_assoc] at hrest
    rw [htext]
    exact Reads.element (hd _) hrest

/-- So are the properties of an object, since they have different names. -/
theorem reads_fields {rest : JsString} {fields : List (JsString × Document)}
    (h : ∀ field ∈ fields, ∀ rest, Reads .value (field.2.stringify ++ rest) field.2.json rest)
    {key : JsString} {d : Document} (hd : ∀ rest, Reads .value (d.stringify ++ rest) d.json rest)
    (read : List (JsString × Json))
    (hkeys : (read.map Prod.fst ++ key :: fields.map Prod.fst).Nodup) :
    Reads (.members read) (jsonQuote key ++ 58 :: (d.stringify ++ (stringifyFields fields ++ rest)))
      (.object (read ++ jsonFields ((key, d) :: fields))) rest := by
  induction fields generalizing key d read with
  | nil =>
    have hfresh : key ∉ read.map Prod.fst := fun hmem ↦
      (List.nodup_append.mp hkeys).2.2 key hmem key List.mem_cons_self rfl
    have hlast : Reads (.members read) (jsonQuote key ++ 58 :: (d.stringify ++ 125 :: rest))
        (.object (setField read key d.json)) rest := Reads.lastMember (hd (125 :: rest))
    rwa [setField_of_not_mem hfresh] at hlast
  | cons field fields ih =>
    obtain ⟨key', d'⟩ := field
    obtain ⟨hd', hfields⟩ := List.forall_mem_cons.mp h
    have hfresh : key ∉ read.map Prod.fst := fun hmem ↦
      (List.nodup_append.mp hkeys).2.2 key hmem key List.mem_cons_self rfl
    have htext : stringifyFields ((key', d') :: fields) ++ rest =
        44 :: (jsonQuote key' ++ 58 :: (d'.stringify ++ (stringifyFields fields ++ rest))) := by
      simp [stringifyFields]
    have hrest := ih hfields hd' (read ++ [(key, d.json)]) (by simpa using hkeys)
    rw [List.append_assoc] at hrest
    rw [htext]
    refine Reads.member (hd _) ?_
    rwa [setField_of_not_mem hfresh]

/-- **A document is read back** from what is written for it. -/
theorem Keyed.reads {d : Document} (h : d.Keyed) (rest : JsString) :
    Reads .value (d.stringify ++ rest) d.json rest := by
  induction h generalizing rest with
  | text s => exact reads_string s rest
  | @list elements h ih =>
    cases elements with
    | nil => exact reads_emptyList
    | cons d elements =>
      obtain ⟨hd, helements⟩ := List.forall_mem_cons.mp ih
      obtain ⟨u, text, htext, hspace, hend⟩ := d.exists_stringify_eq
      have hread := @reads_elements rest elements helements d hd []
      have hwhole : (Document.list (d :: elements)).stringify ++ rest =
          91 :: (d.stringify ++ (stringifyElements elements ++ rest)) := by simp [stringify]
      rw [htext, List.cons_append] at hread
      rw [hwhole, htext, List.cons_append]
      exact Reads.list hspace hend hread
  | @record fields hkeys h ih =>
    cases fields with
    | nil => exact reads_emptyRecord
    | cons field fields =>
      obtain ⟨key, d⟩ := field
      obtain ⟨hd, hfields⟩ := List.forall_mem_cons.mp ih
      have hread := @reads_fields rest fields hfields key d hd [] hkeys
      have hwhole : (Document.record ((key, d) :: fields)).stringify ++ rest =
          123 :: (jsonQuote key ++ 58 :: (d.stringify ++ (stringifyFields fields ++ rest))) := by
        simp [stringify]
      rw [hwhole]
      exact Reads.record (by decide) (by decide) hread

/-- **`JSON.parse` undoes `JSON.stringify`.** -/
theorem Keyed.jsonParse_stringify {d : Document} (h : d.Keyed) :
    jsonParse d.stringify = some d.json := by
  have hread := h.reads []
  rw [List.append_nil] at hread
  exact hread.jsonParse_eq

theorem Keyed.stringify_inj {d d' : Document} (h : d.Keyed) (h' : d'.Keyed)
    (heq : d.stringify = d'.stringify) : d = d' := by
  have hjson : some d.json = some d'.json := by
    rw [← h.jsonParse_stringify, ← h'.jsonParse_stringify, heq]
  have hdocument := congrArg (fun j ↦ j.bind Json.document) hjson
  rw [Option.bind_some, Option.bind_some, d.document_json, d'.document_json] at hdocument
  exact Option.some.inj hdocument

end Document

/-! ## What is parsed -/

/-- No object inside has two properties of one name. -/
inductive Json.Keyed : Json → Prop
  | null : Keyed .null
  | bool (b : Bool) : Keyed (.bool b)
  | number (n : JsNumber) : Keyed (.number n)
  | string (s : JsString) : Keyed (.string s)
  | array {elements : List Json} (h : ∀ value ∈ elements, Keyed value) : Keyed (.array elements)
  | object {fields : List (JsString × Json)} (hkeys : (fields.map Prod.fst).Nodup)
      (h : ∀ field ∈ fields, Keyed field.2) : Keyed (.object fields)

/-- What has been read so far has no object with two properties of one name. -/
def JsonGoal.Keyed : JsonGoal → Prop
  | .value => True
  | .elements read => ∀ value ∈ read, value.Keyed
  | .members read => (read.map Prod.fst).Nodup ∧ ∀ field ∈ read, field.2.Keyed

theorem jsonScalar_keyed {text rest : JsString} {value : Json}
    (h : jsonScalar text = some (value, rest)) : value.Keyed := by
  rw [jsonScalar] at h
  split at h
  · obtain ⟨⟨s, rest⟩, -, hs⟩ := Option.map_eq_some_iff.mp h
    obtain ⟨rfl, -⟩ := Prod.mk.inj hs
    exact .string s
  · split at h
    · obtain ⟨rfl, -⟩ := Prod.mk.inj (Option.some.inj h)
      exact .null
    · split at h
      · obtain ⟨rfl, -⟩ := Prod.mk.inj (Option.some.inj h)
        exact .bool true
      · split at h
        · obtain ⟨rfl, -⟩ := Prod.mk.inj (Option.some.inj h)
          exact .bool false
        · obtain ⟨⟨n, rest⟩, -, hn⟩ := Option.map_eq_some_iff.mp h
          obtain ⟨rfl, -⟩ := Prod.mk.inj hn
          exact .number n

/-- A property is set in place, or behind the others if it is new. -/
theorem members_setField {read : List (JsString × Json)} {key : JsString} {value : Json}
    (h : (JsonGoal.members read).Keyed) (hvalue : value.Keyed) :
    (JsonGoal.members (setField read key value)).Keyed := by
  obtain ⟨hkeys, hread⟩ := h
  by_cases hmem : key ∈ read.map Prod.fst
  · obtain ⟨field, hfield, hkey⟩ := List.mem_map.mp hmem
    have hany : read.any (fun field ↦ decide (field.1 = key)) = true :=
      List.any_eq_true.mpr ⟨field, hfield, decide_eq_true hkey⟩
    rw [setField, if_pos hany]
    refine ⟨?_, fun set hset ↦ ?_⟩
    · have hsame : (read.map fun field ↦
          if field.1 = key then (key, value) else field).map Prod.fst = read.map Prod.fst := by
        rw [List.map_map]
        refine List.map_congr_left fun field _ ↦ ?_
        rw [Function.comp_apply]
        split
        · rename_i h
          exact h.symm
        · rfl
      rw [hsame]
      exact hkeys
    · obtain ⟨field, hfield, rfl⟩ := List.mem_map.mp hset
      split
      · exact hvalue
      · exact hread field hfield
  · rw [setField_of_not_mem hmem]
    refine ⟨?_, List.forall_mem_append.mpr ⟨hread, List.forall_mem_singleton.mpr hvalue⟩⟩
    rw [List.map_append, List.nodup_append]
    refine ⟨hkeys, List.nodup_singleton _, fun name hname last hlast ↦ ?_⟩
    rw [List.mem_singleton.mp hlast]
    rintro rfl
    exact hmem hname

/-- What is read has none either. -/
theorem parseJson_keyed {calls : ℕ} {goal : JsonGoal} {text rest : JsString} {value : Json}
    (hgoal : goal.Keyed) (h : parseJson calls goal text = some (value, rest)) : value.Keyed := by
  have hvalue : JsonGoal.value.Keyed := trivial
  have helements : (JsonGoal.elements []).Keyed := List.forall_mem_nil _
  have hmembers : (JsonGoal.members []).Keyed := ⟨List.nodup_nil, List.forall_mem_nil _⟩
  induction calls generalizing goal text rest value with
  | zero => cases h
  | succ calls ih =>
    cases goal with
    | value =>
      rw [parseJson.eq_2] at h
      split at h
      next => cases h
      next u text' hcons =>
        split at h
        next =>
          split at h
          next =>
            obtain ⟨rfl, -⟩ := Prod.mk.inj (Option.some.inj h)
            exact .object hmembers.1 hmembers.2
          next => exact ih hmembers h
        next =>
          split at h
          next =>
            split at h
            next =>
              obtain ⟨rfl, -⟩ := Prod.mk.inj (Option.some.inj h)
              exact .array helements
            next => exact ih helements h
          next => exact jsonScalar_keyed h
    | elements read =>
      rw [parseJson.eq_3] at h
      obtain ⟨⟨first, rest'⟩, hfirst, h⟩ := Option.bind_eq_some_iff.mp h
      have hread : (JsonGoal.elements (read ++ [first])).Keyed :=
        List.forall_mem_append.mpr ⟨hgoal, List.forall_mem_singleton.mpr (ih hvalue hfirst)⟩
      dsimp only at h
      split at h
      next => cases h
      next u text' hcons =>
        split at h
        next => exact ih hread h
        next =>
          split at h
          next =>
            obtain ⟨rfl, -⟩ := Prod.mk.inj (Option.some.inj h)
            exact .array hread
          next => cases h
    | members read =>
      rw [parseJson.eq_4] at h
      split at h
      next => cases h
      next =>
        obtain ⟨⟨key, rest'⟩, -, h⟩ := Option.bind_eq_some_iff.mp h
        dsimp only at h
        split at h
        next => cases h
        next =>
          obtain ⟨⟨first, rest''⟩, hfirst, h⟩ := Option.bind_eq_some_iff.mp h
          -- a key that is read again replaces the field, so no name occurs twice
          have hread : (JsonGoal.members (setField read key first)).Keyed :=
            members_setField hgoal (ih hvalue hfirst)
          dsimp only at h
          split at h
          next => cases h
          next u text' hcons =>
            split at h
            next => exact ih hread h
            next =>
              split at h
              next =>
                obtain ⟨rfl, -⟩ := Prod.mk.inj (Option.some.inj h)
                exact .object hread.1 hread.2
              next => cases h

/-- What is parsed has no object with two properties of one name. -/
theorem jsonParse_keyed {text : JsString} {value : Json} (h : jsonParse text = some value) :
    value.Keyed := by
  rw [jsonParse] at h
  obtain ⟨⟨value', rest⟩, hvalue, h⟩ := Option.bind_eq_some_iff.mp h
  dsimp only at h
  split at h
  · obtain rfl := Option.some.inj h
    have hgoal : JsonGoal.value.Keyed := trivial
    exact parseJson_keyed hgoal hvalue
  · cases h

theorem Json.Keyed.field {doc value : Json} {key : String} (h : doc.Keyed)
    (hvalue : jsonField doc key = some value) : value.Keyed := by
  cases h with
  | object hkeys hfields =>
    rw [jsonField] at hvalue
    obtain ⟨before, after, rfl, -⟩ := List.lookup_eq_some_iff.mp hvalue
    exact hfields (units key, value) (List.mem_append_right _ List.mem_cons_self)
  | null | bool b | number n | string s | array h => cases hvalue

mutual

/-- Neither has the document that it is. -/
theorem Json.Keyed.document : (value : Json) → value.Keyed → ∀ {d : Document},
    value.document = some d → d.Keyed
  | .string s, _, d, h => by
    obtain rfl := Option.some.inj h
    exact .text s
  | .array elements, hkeyed, d, h => by
    obtain ⟨ds, hds, rfl⟩ := Option.map_eq_some_iff.mp h
    cases hkeyed with
    | array helements => exact .list (Json.Keyed.documents elements helements hds)
  | .object fields, hkeyed, d, h => by
    obtain ⟨ds, hds, rfl⟩ := Option.map_eq_some_iff.mp h
    cases hkeyed with
    | object hkeys hfields =>
      obtain ⟨hnames, hds⟩ := Json.Keyed.documentFields fields hfields hds
      exact .record (hnames ▸ hkeys) hds
  | .null, _, _, h => by cases h
  | .bool _, _, _, h => by cases h
  | .number _, _, _, h => by cases h

theorem Json.Keyed.documents : (elements : List Json) → (∀ value ∈ elements, value.Keyed) →
    ∀ {ds : List Document}, Json.documents elements = some ds → ∀ d ∈ ds, d.Keyed
  | [], _, ds, h => by
    obtain rfl := Option.some.inj h
    exact List.forall_mem_nil _
  | value :: elements, hkeyed, ds, h => by
    obtain ⟨d, hd, h⟩ := Option.bind_eq_some_iff.mp h
    obtain ⟨rest, hrest, h⟩ := Option.bind_eq_some_iff.mp h
    obtain rfl := Option.some.inj h
    obtain ⟨hvalue, helements⟩ := List.forall_mem_cons.mp hkeyed
    exact List.forall_mem_cons.mpr ⟨Json.Keyed.document value hvalue hd,
      Json.Keyed.documents elements helements hrest⟩

theorem Json.Keyed.documentFields : (fields : List (JsString × Json)) →
    (∀ field ∈ fields, field.2.Keyed) → ∀ {ds : List (JsString × Document)},
    Json.documentFields fields = some ds →
      ds.map Prod.fst = fields.map Prod.fst ∧ ∀ field ∈ ds, field.2.Keyed
  | [], _, ds, h => by
    obtain rfl := Option.some.inj h
    exact ⟨rfl, List.forall_mem_nil _⟩
  | (key, value) :: fields, hkeyed, ds, h => by
    obtain ⟨d, hd, h⟩ := Option.bind_eq_some_iff.mp h
    obtain ⟨rest, hrest, h⟩ := Option.bind_eq_some_iff.mp h
    obtain rfl := Option.some.inj h
    obtain ⟨hvalue, hfields⟩ := List.forall_mem_cons.mp hkeyed
    obtain ⟨hnames, hds⟩ := Json.Keyed.documentFields fields hfields hrest
    exact ⟨congrArg (key :: ·) hnames,
      List.forall_mem_cons.mpr ⟨Json.Keyed.document value hvalue hd, hds⟩⟩

end

end Values
