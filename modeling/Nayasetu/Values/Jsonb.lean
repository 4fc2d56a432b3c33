import Nayasetu.Values.Numeric

/-!
# JSON documents

The documents a `jsonb` column stores, with the operators SQL reads them with. The two operands
SQL cannot resolve, a missing key and a value of another kind, both give `none`.

A document is stored with one member for each key, the last one given, and it is such documents
that the operators are applied to (`IsStored`). The operators come in two kinds: `->` and `->>`
look for a member, and the functions on arrays and objects take a value apart that is known to be
one. A condition in SQL that meets neither is `NULL`, which a check takes for true and a `WHERE`
for false; where that makes a difference, the query is modelled with the `none` in it.
-/

namespace Values

/-- A JSON document. The keys of an object are distinct. -/
inductive Jsonb where
  | null
  | bool (b : Bool)
  | number (n : Numeric)
  | string (s : String)
  | array (elements : List Jsonb)
  | object (fields : List (String × Jsonb))

namespace Jsonb

/-- The kinds of documents, as `jsonb_typeof` names them. -/
inductive Kind where
  | null
  | boolean
  | number
  | string
  | array
  | object
  deriving DecidableEq, Repr

/-- `jsonb_typeof`. -/
def kind : Jsonb → Kind
  | .null => .null
  | .bool _ => .boolean
  | .number _ => .number
  | .string _ => .string
  | .array _ => .array
  | .object _ => .object

/-- `doc -> key`. -/
def get (doc : Jsonb) (key : String) : Option Jsonb :=
  match doc with
  | .object fields => fields.lookup key
  | _ => none

/-- `jsonb_typeof(doc -> key)`, which is `NULL` for a missing key. -/
def kindAt (doc : Jsonb) (key : String) : Option Kind := (doc.get key).map kind

/-- The text of a scalar: what `->>` and `jsonb_array_elements_text` give. Objects and arrays are
only read as text after a check of their kind has excluded them. -/
def text : Jsonb → Option String
  | .string s => some s
  | .number n => some (String.ofList n.text)
  | .bool b => some (if b then "true" else "false")
  | _ => none

/-- `doc ->> key`. -/
def textAt (doc : Jsonb) (key : String) : Option String := (doc.get key).bind text

/-- `jsonb_array_elements(doc)`, of an array. -/
def elements : Jsonb → List Jsonb
  | .array l => l
  | _ => []

/-- `jsonb_array_elements(doc -> key)`. -/
def elementsAt (doc : Jsonb) (key : String) : List Jsonb := ((doc.get key).map elements).getD []

/-- `jsonb_object_keys(doc)`. -/
def keys : Jsonb → List String
  | .object fields => fields.map Prod.fst
  | _ => []

/-- `doc ?& keys`, of an object. -/
def hasAll (doc : Jsonb) (names : List String) : Bool := names.all (· ∈ doc.keys)

/-- `doc - keys`, of an object. -/
def without : Jsonb → List String → Jsonb
  | .object fields, names => .object (fields.filter (·.1 ∉ names))
  | doc, _ => doc

/-- The documents a `jsonb` column can hold: no key twice in an object, no `NUL` in a string. -/
inductive IsStored : Jsonb → Prop where
  | null : IsStored .null
  | bool (b : Bool) : IsStored (.bool b)
  | number (n : Numeric) : IsStored (.number n)
  | string {s : String} (h : '\x00' ∉ s.toList) : IsStored (.string s)
  | array {elements : List Jsonb} (h : ∀ element ∈ elements, IsStored element) :
      IsStored (.array elements)
  | object {fields : List (String × Jsonb)} (hkeys : (fields.map Prod.fst).Nodup)
      (h : ∀ field ∈ fields, IsStored field.2) : IsStored (.object fields)

theorem IsStored.keys_nodup {doc : Jsonb} (h : doc.IsStored) : doc.keys.Nodup := by
  cases h with
  | object hkeys => exact hkeys
  | _ => exact List.nodup_nil

private theorem mem_of_lookup {key : String} {value : Jsonb} {fields : List (String × Jsonb)}
    (h : fields.lookup key = some value) : (key, value) ∈ fields := by
  induction fields with
  | nil => cases h
  | cons field fields ih =>
    obtain ⟨key', value'⟩ := field
    rw [List.lookup_cons] at h
    split at h
    next heq =>
      cases h
      rw [eq_of_beq heq]
      exact List.mem_cons_self
    next => exact List.mem_cons_of_mem _ (ih h)

theorem IsStored.get {doc value : Jsonb} {key : String} (h : doc.IsStored)
    (hget : doc.get key = some value) : value.IsStored := by
  cases h with
  | object _ hfields => exact hfields _ (mem_of_lookup hget)
  | _ => cases hget

theorem mem_keys_of_get {doc value : Jsonb} {key : String} (h : doc.get key = some value) :
    key ∈ doc.keys := by
  cases doc with
  | object fields => exact List.mem_map.mpr ⟨_, mem_of_lookup h, rfl⟩
  | _ => cases h

theorem IsStored.of_mem_elementsAt {doc element : Jsonb} {key : String} (h : doc.IsStored)
    (hmem : element ∈ doc.elementsAt key) : element.IsStored := by
  cases hget : doc.get key with
  | none => simp [elementsAt, hget] at hmem
  | some value =>
    have helement : element ∈ value.elements := by simpa [elementsAt, hget] using hmem
    cases h.get hget with
    | array helements => exact helements element helement
    | _ => exact absurd helement List.not_mem_nil

theorem kind_eq_string_iff {doc : Jsonb} : doc.kind = .string ↔ ∃ s, doc = .string s := by
  cases doc <;> simp [kind]

theorem kind_eq_array_iff {doc : Jsonb} : doc.kind = .array ↔ ∃ l, doc = .array l := by
  cases doc <;> simp [kind]

theorem kind_eq_number_iff {doc : Jsonb} : doc.kind = .number ↔ ∃ n, doc = .number n := by
  cases doc <;> simp [kind]

theorem kindAt_eq_some_iff {doc : Jsonb} {key : String} {k : Kind} :
    doc.kindAt key = some k ↔ ∃ value, doc.get key = some value ∧ value.kind = k := by
  rw [kindAt, Option.map_eq_some_iff]

theorem kindAt_string_iff {doc : Jsonb} {key : String} :
    doc.kindAt key = some .string ↔ ∃ s, doc.get key = some (.string s) := by
  simp only [kindAt_eq_some_iff, kind_eq_string_iff, exists_and_left.symm]
  constructor
  · rintro ⟨_, s, hget, rfl⟩
    exact ⟨s, hget⟩
  · rintro ⟨s, hget⟩
    exact ⟨_, s, hget, rfl⟩

theorem kindAt_array_iff {doc : Jsonb} {key : String} :
    doc.kindAt key = some .array ↔ ∃ l, doc.get key = some (.array l) := by
  simp only [kindAt_eq_some_iff, kind_eq_array_iff, exists_and_left.symm]
  constructor
  · rintro ⟨_, l, hget, rfl⟩
    exact ⟨l, hget⟩
  · rintro ⟨l, hget⟩
    exact ⟨_, l, hget, rfl⟩

theorem textAt_of_get {doc : Jsonb} {key s : String} (h : doc.get key = some (.string s)) :
    doc.textAt key = some s := by
  rw [textAt, h]
  rfl

theorem elementsAt_of_get {doc : Jsonb} {key : String} {l : List Jsonb}
    (h : doc.get key = some (.array l)) : doc.elementsAt key = l := by
  rw [elementsAt, h]
  rfl

end Jsonb

end Values
