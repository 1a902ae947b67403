import Mathlib.Data.Rat.Floor
import Quantora.Framework.Keyed
import Quantora.Python.Rendering

/-! # JSON in Go

    `encoding/json` as the services use it, over decoded documents.

    * `Any` — a value of type `any`. Every number is a `float64`, exact here; a
      `map[string]any` is the list of its entries, one per key.
    * `unmarshal` — from a document. A repeated key keeps its last value.
    * `marshal` — to a document. A whole number below `10^21` is written without
      a point, so Python reads it back as an integer.

    A `json.RawMessage` is the document its text denotes, and so is a `JSONB`
    column. The order of the keys of an object carries no meaning in any of
    them. -/

namespace Quantora

namespace Go

inductive Any where
  | nil
  | bool (value : Bool)
  | float64 (value : ℚ)
  | string (value : String)
  | slice (items : List Any)
  | map (entries : List (String × Any))

/-- `map[string]any`. -/
abbrev Map := List (String × Any)

namespace Map

/-- `m[key] = value`. -/
def set (m : Map) (key : String) (value : Any) : Map := Keyed.upsertList Prod.fst (key, value) m

/-- `m[key]`, `none` for a key that is absent. -/
def get (m : Map) (key : String) : Option Any :=
  (m.find? (fun entry => entry.1 = key)).map Prod.snd

/-- The map that a sequence of assignments builds. -/
def of (entries : List (String × Any)) : Map :=
  entries.foldl (fun m entry => m.set entry.1 entry.2) []

end Map

/-! ## Decoding -/

mutual

/-- `json.Unmarshal` into an `any`; `none` for a text that is not JSON. -/
def unmarshal : Json → Option Any
  | .null => some .nil
  | .bool b => some (.bool b)
  | .int n => some (.float64 n)
  | .float (.num x) => some (.float64 x)
  | .float _ => none
  | .str s => some (.string s)
  | .arr items => (unmarshal_items items).map .slice
  | .obj fields => (unmarshal_fields fields).map (fun entries => .map (Map.of entries))

def unmarshal_items : List Json → Option (List Any)
  | [] => some []
  | item :: items => do
      let value ← unmarshal item
      let values ← unmarshal_items items
      some (value :: values)

def unmarshal_fields : List (String × Json) → Option (List (String × Any))
  | [] => some []
  | (key, item) :: fields => do
      let value ← unmarshal item
      let entries ← unmarshal_fields fields
      some ((key, value) :: entries)

end

/-! ## Encoding -/

/-- A number from `10^21` on is written with an exponent. -/
def number (x : ℚ) : Json :=
  if x.den = 1 ∧ |x| < 1000000000000000000000 then .int x.num else .float (.num x)

theorem num_lt_of_whole {x : ℚ} (h : x.den = 1 ∧ |x| < 1000000000000000000000) :
    x.num.natAbs < 10 ^ 21 := by
  have hlt := h.2
  rw [← (Rat.den_eq_one_iff x).mp h.1] at hlt
  have habs : |x.num| < 10 ^ 21 := by exact_mod_cast hlt
  rw [Int.abs_eq_natAbs] at habs
  exact_mod_cast habs

mutual

/-- `json.Marshal`. -/
def marshal : Any → Json
  | .nil => .null
  | .bool b => .bool b
  | .float64 x => number x
  | .string s => .str s
  | .slice items => .arr (marshal_items items)
  | .map entries => .obj (marshal_entries entries)

def marshal_items : List Any → List Json
  | [] => []
  | item :: items => marshal item :: marshal_items items

def marshal_entries : List (String × Any) → List (String × Json)
  | [] => []
  | (key, value) :: entries => (key, marshal value) :: marshal_entries entries

end

/-! ## What a decoded document holds -/

theorem Map.of_eq {entries : List (String × Any)} (h : (entries.map Prod.fst).Nodup) :
    Map.of entries = entries := by
  -- Induction from the end: each entry is assigned after those before it.
  induction entries using List.reverseRecOn with
  | nil => rfl
  | append_singleton entries entry ih =>
    rw [List.map_append, List.nodup_append] at h
    obtain ⟨hbefore, -, hdisjoint⟩ := h
    have hnew : entry.1 ∉ entries.map Prod.fst := by
      intro hmem
      exact hdisjoint _ hmem entry.1 (by simp) rfl
    rw [Map.of, List.foldl_append]
    change (Map.of entries).set entry.1 entry.2 = _
    rw [ih hbefore, Map.set, Keyed.upsertList_of_notMem hnew]

theorem keys_unmarshal_fields {fields : List (String × Json)} {entries : List (String × Any)}
    (h : unmarshal_fields fields = some entries) : entries.map Prod.fst = fields.map Prod.fst := by
  induction fields generalizing entries with
  | nil =>
    obtain rfl := Option.some.inj h
    rfl
  | cons field fields ih =>
    obtain ⟨key, item⟩ := field
    rw [unmarshal_fields] at h
    obtain ⟨value, -, h⟩ := Option.bind_eq_some_iff.mp h
    obtain ⟨rest, hrest, h⟩ := Option.bind_eq_some_iff.mp h
    obtain rfl := Option.some.inj h
    simp [ih hrest]

/-- Looking a key up and decoding commute. -/
theorem get_unmarshal_fields {fields : List (String × Json)} {entries : List (String × Any)}
    (h : unmarshal_fields fields = some entries) (name : String) :
    Map.get entries name
      = (fields.find? (fun field => field.1 = name)).bind (fun field => unmarshal field.2) := by
  induction fields generalizing entries with
  | nil =>
    obtain rfl := Option.some.inj h
    rfl
  | cons field fields ih =>
    obtain ⟨key, item⟩ := field
    rw [unmarshal_fields] at h
    obtain ⟨value, hvalue, h⟩ := Option.bind_eq_some_iff.mp h
    obtain ⟨rest, hrest, h⟩ := Option.bind_eq_some_iff.mp h
    obtain rfl := Option.some.inj h
    by_cases hkey : key = name
    · simp [Map.get, hkey, hvalue]
    · have hget := ih hrest
      rw [Map.get] at hget ⊢
      rw [List.find?_cons_of_neg (by simpa using hkey),
        List.find?_cons_of_neg (by simpa using hkey)]
      exact hget

/-- A document that decodes has fields that decode. -/
theorem exists_unmarshal_of_mem {fields : List (String × Json)} {entries : List (String × Any)}
    (h : unmarshal_fields fields = some entries) {field : String × Json} (hmem : field ∈ fields) :
    ∃ value, unmarshal field.2 = some value := by
  induction fields generalizing entries with
  | nil => cases hmem
  | cons first fields ih =>
    obtain ⟨key, item⟩ := first
    rw [unmarshal_fields] at h
    obtain ⟨value, hvalue, h⟩ := Option.bind_eq_some_iff.mp h
    obtain ⟨rest, hrest, -⟩ := Option.bind_eq_some_iff.mp h
    rcases List.mem_cons.mp hmem with rfl | hmem
    · exact ⟨value, hvalue⟩
    · exact ih hrest hmem

/-- A document with distinct keys decodes to the map of its decoded fields. -/
theorem unmarshal_obj {fields : List (String × Json)} (hkeys : (fields.map Prod.fst).Nodup)
    {document : Any} (h : unmarshal (.obj fields) = some document) :
    ∃ entries, document = .map entries ∧ unmarshal_fields fields = some entries := by
  rw [unmarshal] at h
  obtain ⟨entries, hentries, rfl⟩ := Option.map_eq_some_iff.mp h
  have hnodup : (entries.map Prod.fst).Nodup := keys_unmarshal_fields hentries ▸ hkeys
  exact ⟨entries, by rw [Map.of_eq hnodup], hentries⟩

mutual

/-- Every document that could be rendered is decoded, with all its parts. -/
theorem exists_unmarshal_of_compliant : ∀ document : Json, document.compliant = true →
    ∃ value, unmarshal document = some value
  | .null, _ => ⟨_, rfl⟩
  | .bool _, _ => ⟨_, rfl⟩
  | .int _, _ => ⟨_, rfl⟩
  | .float (.num _), _ => ⟨_, rfl⟩
  | .str _, _ => ⟨_, rfl⟩
  | .arr items, h => by
    obtain ⟨values, hvalues⟩ := exists_unmarshal_items_of_compliant items h
    exact ⟨.slice values, by rw [unmarshal, hvalues, Option.map_some]⟩
  | .obj fields, h => by
    obtain ⟨entries, hentries⟩ := exists_unmarshal_fields_of_compliant fields h
    exact ⟨.map (Map.of entries), by rw [unmarshal, hentries, Option.map_some]⟩

theorem exists_unmarshal_items_of_compliant : ∀ items : List Json,
    Json.compliant_items items = true → ∃ values, unmarshal_items items = some values
  | [], _ => ⟨[], rfl⟩
  | item :: items, h => by
    rw [Json.compliant_items, Bool.and_eq_true] at h
    obtain ⟨value, hvalue⟩ := exists_unmarshal_of_compliant item h.1
    obtain ⟨values, hvalues⟩ := exists_unmarshal_items_of_compliant items h.2
    exact ⟨value :: values, by simp [unmarshal_items, hvalue, hvalues]⟩

theorem exists_unmarshal_fields_of_compliant : ∀ fields : List (String × Json),
    Json.compliant_fields fields = true → ∃ entries, unmarshal_fields fields = some entries
  | [], _ => ⟨[], rfl⟩
  | (key, item) :: fields, h => by
    rw [Json.compliant_fields, Bool.and_eq_true] at h
    obtain ⟨value, hvalue⟩ := exists_unmarshal_of_compliant item h.1
    obtain ⟨entries, hentries⟩ := exists_unmarshal_fields_of_compliant fields h.2
    exact ⟨(key, value) :: entries, by simp [unmarshal_fields, hvalue, hentries]⟩

end

/-! ## Encoding what was decoded -/

theorem unmarshal_number (x : ℚ) : unmarshal (number x) = some (.float64 x) := by
  unfold number
  split_ifs with hwhole
  · rw [unmarshal, (Rat.den_eq_one_iff x).mp hwhole.1]
  · rfl

mutual

/-- No map has a key twice. -/
def Any.Distinct : Any → Prop
  | .slice items => Distinct_items items
  | .map entries => (entries.map Prod.fst).Nodup ∧ Distinct_entries entries
  | _ => True

def Distinct_items : List Any → Prop
  | [] => True
  | item :: items => item.Distinct ∧ Distinct_items items

def Distinct_entries : List (String × Any) → Prop
  | [] => True
  | (_, value) :: entries => value.Distinct ∧ Distinct_entries entries

end

theorem distinct_entries_iff {entries : List (String × Any)} :
    Distinct_entries entries ↔ ∀ entry ∈ entries, entry.2.Distinct := by
  induction entries with
  | nil => simp [Distinct_entries]
  | cons entry entries ih => simp [Distinct_entries, ih]

/-- Assignments store nothing that was not assigned. -/
theorem Map.mem_of {entries : List (String × Any)} {entry : String × Any}
    (h : entry ∈ Map.of entries) : entry ∈ entries := by
  induction entries using List.reverseRecOn with
  | nil => cases h
  | append_singleton entries last ih =>
    rw [Map.of, List.foldl_append] at h
    rcases Keyed.mem_upsertList h with rfl | hmem
    · simp
    · exact List.mem_append_left _ (ih hmem)

theorem Map.distinct_of {entries : List (String × Any)} (h : Distinct_entries entries) :
    (Any.map (Map.of entries)).Distinct := by
  induction entries using List.reverseRecOn with
  | nil => exact ⟨List.nodup_nil, trivial⟩
  | append_singleton entries entry ih =>
    rw [distinct_entries_iff] at h
    have hbefore : Distinct_entries entries :=
      distinct_entries_iff.mpr (fun e he => h e (List.mem_append_left _ he))
    obtain ⟨hkeys, hvalues⟩ := ih hbefore
    have hof : Map.of (entries ++ [entry]) = (Map.of entries).set entry.1 entry.2 := by
      rw [Map.of, List.foldl_append]
      rfl
    rw [hof]
    refine ⟨Keyed.nodup_upsertList _ hkeys, distinct_entries_iff.mpr ?_⟩
    intro e he
    rcases Keyed.mem_upsertList he with rfl | hmem
    · exact h entry (by simp)
    · exact distinct_entries_iff.mp hvalues e hmem

mutual

theorem distinct_of_unmarshal : ∀ (document : Json) {value : Any},
    unmarshal document = some value → value.Distinct
  | .null, _, h => by
    obtain rfl := Option.some.inj h
    exact trivial
  | .bool _, _, h => by
    obtain rfl := Option.some.inj h
    exact trivial
  | .int _, _, h => by
    obtain rfl := Option.some.inj h
    exact trivial
  | .float (.num _), _, h => by
    obtain rfl := Option.some.inj h
    exact trivial
  | .float .nan, _, h => nomatch h
  | .float (.inf _), _, h => nomatch h
  | .str _, _, h => by
    obtain rfl := Option.some.inj h
    exact trivial
  | .arr items, _, h => by
    rw [unmarshal] at h
    obtain ⟨values, hvalues, rfl⟩ := Option.map_eq_some_iff.mp h
    exact distinct_of_unmarshal_items items hvalues
  | .obj fields, _, h => by
    rw [unmarshal] at h
    obtain ⟨entries, hentries, rfl⟩ := Option.map_eq_some_iff.mp h
    exact Map.distinct_of (distinct_of_unmarshal_fields fields hentries)

theorem distinct_of_unmarshal_items : ∀ (items : List Json) {values : List Any},
    unmarshal_items items = some values → Distinct_items values
  | [], _, h => by
    obtain rfl := Option.some.inj h
    exact trivial
  | item :: items, _, h => by
    rw [unmarshal_items] at h
    obtain ⟨value, hvalue, h⟩ := Option.bind_eq_some_iff.mp h
    obtain ⟨values, hvalues, h⟩ := Option.bind_eq_some_iff.mp h
    obtain rfl := Option.some.inj h
    exact ⟨distinct_of_unmarshal item hvalue, distinct_of_unmarshal_items items hvalues⟩

theorem distinct_of_unmarshal_fields : ∀ (fields : List (String × Json))
    {entries : List (String × Any)},
    unmarshal_fields fields = some entries → Distinct_entries entries
  | [], _, h => by
    obtain rfl := Option.some.inj h
    exact trivial
  | (key, item) :: fields, _, h => by
    rw [unmarshal_fields] at h
    obtain ⟨value, hvalue, h⟩ := Option.bind_eq_some_iff.mp h
    obtain ⟨entries, hentries, h⟩ := Option.bind_eq_some_iff.mp h
    obtain rfl := Option.some.inj h
    exact ⟨distinct_of_unmarshal item hvalue, distinct_of_unmarshal_fields fields hentries⟩

end

theorem marshal_entries_eq_map (entries : List (String × Any)) :
    marshal_entries entries = entries.map (fun entry => (entry.1, marshal entry.2)) := by
  induction entries with
  | nil => rfl
  | cons entry entries ih =>
    obtain ⟨key, value⟩ := entry
    rw [marshal_entries, List.map_cons, ih]

mutual

/-- **Round trip**: a value that was decoded is decoded again from its
    encoding. -/
theorem unmarshal_marshal : ∀ value : Any, value.Distinct →
    unmarshal (marshal value) = some value
  | .nil, _ => rfl
  | .bool _, _ => rfl
  | .float64 x, _ => unmarshal_number x
  | .string _, _ => rfl
  | .slice items, h => by
    rw [marshal, unmarshal, unmarshal_marshal_items items h]
    rfl
  | .map entries, h => by
    rw [marshal, unmarshal, unmarshal_marshal_entries entries h.2, Option.map_some,
      Map.of_eq h.1]

theorem unmarshal_marshal_items : ∀ items : List Any, Distinct_items items →
    unmarshal_items (marshal_items items) = some items
  | [], _ => rfl
  | item :: items, h => by
    rw [marshal_items, unmarshal_items, unmarshal_marshal item h.1,
      unmarshal_marshal_items items h.2]
    rfl

theorem unmarshal_marshal_entries : ∀ entries : List (String × Any), Distinct_entries entries →
    unmarshal_fields (marshal_entries entries) = some entries
  | [], _ => rfl
  | (key, value) :: entries, h => by
    rw [marshal_entries, unmarshal_fields, unmarshal_marshal value h.1,
      unmarshal_marshal_entries entries h.2]
    rfl

end

end Go

end Quantora
