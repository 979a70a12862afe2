import QueryAdvisor.Json.Reader
import QueryAdvisor.Text.Encoding

/-!
# JSON in bytes

A JSON document may come as bytes in any of the Unicode encodings.
-/

namespace QueryAdvisor.Json

/-- The value that bytes write. -/
def ofBytes (bytes : Bytes) : Except Fault Json :=
  match Text.ofBytes? bytes with
  | none => .error .undecodable
  | some t => ofText t

theorem ofBytes_of_text {bytes : Bytes} {t : Text} (h : Text.ofBytes? bytes = some t) :
    ofBytes bytes = ofText t := by
  rw [ofBytes, h]

/-- Anything but a fault of the encoding is what the text gives. -/
theorem exists_text_of_ofBytes {bytes : Bytes} {reading : Except Fault Json} (h : ofBytes bytes = reading)
    (hdecodable : reading ≠ .error .undecodable) :
    ∃ t, Text.ofBytes? bytes = some t ∧ ofText t = reading := by
  cases htext : Text.ofBytes? bytes with
  | none =>
    rw [ofBytes, htext] at h
    exact absurd h.symm hdecodable
  | some t => exact ⟨t, rfl, ofBytes_of_text htext ▸ h⟩

end QueryAdvisor.Json
