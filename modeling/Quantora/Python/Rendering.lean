import Quantora.Python.Conversions
import Quantora.Python.Floats

/-! # JSON responses

    `JSONResponse` writes a document with `allow_nan=False`: a document that
    holds NaN or an infinite number is refused. -/

namespace Quantora

open Python (PyError)

mutual

/-- No number in the document is NaN or infinite. -/
def Json.compliant : Json → Bool
  | .float x => x.is_finite
  | .arr items => Json.compliant_items items
  | .obj fields => Json.compliant_fields fields
  | _ => true

def Json.compliant_items : List Json → Bool
  | [] => true
  | item :: items => item.compliant && Json.compliant_items items

def Json.compliant_fields : List (String × Json) → Bool
  | [] => true
  | (_, value) :: fields => value.compliant && Json.compliant_fields fields

end

/-- `JSONResponse(document)`. -/
def render (document : Json) : Except PyError Json :=
  if document.compliant then .ok document
  else .error (.ValueError "Out of range float values are not JSON compliant")

theorem rendered_eq {document rendered : Json} (h : render document = .ok rendered) :
    rendered = document := by
  unfold render at h
  split_ifs at h
  exact (Except.ok.inj h).symm

theorem compliant_of_render {document rendered : Json} (h : render document = .ok rendered) :
    document.compliant = true := by
  unfold render at h
  split_ifs at h with hcompliant
  exact hcompliant

end Quantora
