import Quantora.Go.Json

/-! # Decoding into a struct

    `json.Decoder` with `DisallowUnknownFields`, into a value that is there
    already: what the document leaves out keeps its value, `null` changes
    nothing but a pointer or a map.

    * `decode_string`, `decode_bool`, … — one decoder for each type of a field.
      Each takes the value that the field holds.
    * `decode_struct` — the fields of an object, one after the other.
    * `decode_struct_field` — what a field of the struct holds afterwards. -/

namespace Quantora

namespace Go

variable {α β S : Type}

def decode_string (current : String) : Json → Option String
  | .null => some current
  | .str s => some s
  | _ => none

def decode_bool (current : Bool) : Json → Option Bool
  | .null => some current
  | .bool b => some b
  | _ => none

/-- A number that no `float64` is close to is an error. -/
def decode_float64 (current : ℚ) : Json → Option ℚ
  | .null => some current
  | .int n => if Python.too_large n then none else some n
  | .float (.num x) => some x
  | _ => none

/-- Into a `map[string]any`: entries are added to the map that is there. -/
def decode_map (current : Map) : Json → Option Map
  | .null => some []
  | .obj fields =>
    (unmarshal_fields fields).map fun entries =>
      entries.foldl (fun m entry => m.set entry.1 entry.2) current
  | _ => none

/-- Into a pointer: a nil pointer is first set to a fresh zero value. -/
def decode_pointer (decode : α → Json → Option α) (zero : α) (current : Option α) :
    Json → Option (Option α)
  | .null => some none
  | value => (decode (current.getD zero) value).map some

/-- Into a struct, `field` being the decoder of one field of it. -/
def decode_struct (field : S → String × Json → Option S) (current : S) : Json → Option S
  | .null => some current
  | .obj fields => fields.foldlM field current
  | _ => none

/-! ## What one field holds -/

section Field

variable {field : S → String × Json → Option S} {get : S → β} {name : String}
  {fields : List (String × Json)} {s s' : S}

/-- Fields of other names leave `get` as it is. -/
theorem foldlM_of_other
    (hother : ∀ t key value t', field t (key, value) = some t' → key ≠ name → get t' = get t)
    (habsent : ∀ f ∈ fields, f.1 ≠ name) (h : fields.foldlM field s = some s') :
    get s' = get s := by
  induction fields generalizing s with
  | nil =>
    obtain rfl := Option.some.inj h
    rfl
  | cons first fields ih =>
    obtain ⟨key, value⟩ := first
    rw [List.foldlM_cons] at h
    obtain ⟨t, ht, hrest⟩ := Option.bind_eq_some_iff.mp h
    rw [ih (fun f hf => habsent f (List.mem_cons_of_mem _ hf)) hrest]
    exact hother s key value t ht (habsent (key, value) List.mem_cons_self)

/-- **The field rule**: what `get` reads after an object without repeated keys was
    decoded is what it was before, or what the field of that name made of it. -/
theorem decode_struct_field
    (hother : ∀ t key value t', field t (key, value) = some t' → key ≠ name → get t' = get t)
    (hkeys : (fields.map Prod.fst).Nodup) (h : decode_struct field s (.obj fields) = some s') :
    ((∀ f ∈ fields, f.1 ≠ name) ∧ get s' = get s) ∨
      ∃ value t t', (name, value) ∈ fields ∧ get t = get s ∧
        field t (name, value) = some t' ∧ get s' = get t' := by
  -- Induction over the fields, from the first to the last.
  rw [decode_struct] at h
  induction fields generalizing s with
  | nil =>
    obtain rfl := Option.some.inj h
    exact Or.inl ⟨by simp, rfl⟩
  | cons first fields ih =>
    obtain ⟨key, value⟩ := first
    obtain ⟨hnew, hrest_keys⟩ := List.nodup_cons.mp hkeys
    rw [List.foldlM_cons] at h
    obtain ⟨t, ht, hrest⟩ := Option.bind_eq_some_iff.mp h
    by_cases hkey : key = name
    · -- The field is here, and not again among the others.
      subst hkey
      have habsent : ∀ f ∈ fields, f.1 ≠ key := by
        intro f hf heq
        exact hnew (List.mem_map.mpr ⟨f, hf, heq⟩)
      exact Or.inr ⟨value, s, t, List.mem_cons_self, rfl, ht, foldlM_of_other hother habsent hrest⟩
    · -- Another field, which `get` does not see.
      have hkept : get t = get s := hother s key value t ht hkey
      rcases ih hrest_keys hrest with ⟨habsent, hget⟩ | ⟨later, u, u', hmem, hu, hfield, hget⟩
      · refine Or.inl ⟨?_, hget.trans hkept⟩
        intro f hf
        rcases List.mem_cons.mp hf with rfl | hf
        · exact hkey
        · exact habsent f hf
      · exact Or.inr ⟨later, u, u', List.mem_cons_of_mem _ hmem, hu.trans hkept, hfield, hget⟩

end Field

end Go

end Quantora
