import PbrTelemetry.Json.Parser

/-!
# Text as bytes

The UTF-8 bytes of a text are read as that text.
-/

namespace PbrTelemetry

theorem Text.fromUTF8?_utf8 (text : String) :
    String.fromUTF8? ⟨text.toUTF8.data.toList.toArray⟩ = some text := by
  rw [Array.toArray_toList]
  exact dif_pos text.isValidUTF8

theorem Json.parseBytes?_utf8 (text : String) :
    Json.parseBytes? text.toUTF8.data.toList = Json.parse? text.toList := by
  rw [Json.parseBytes?, Text.fromUTF8?_utf8]
  rfl

end PbrTelemetry
