/-!
# Texts as bytes

Headers, bodies and tokens are bytes; a text crosses as its UTF-8 form.  Main statement: a text
is read back from its bytes.
-/

namespace FoodOrdering.Text

/-- The UTF-8 form of a text. -/
def utf8 (text : String) : List UInt8 :=
  text.toUTF8.data.toList

/-- The text that has this UTF-8 form. -/
def ofUtf8? (bytes : List UInt8) : Option String :=
  String.fromUTF8? ⟨bytes.toArray⟩

@[simp]
theorem ofUtf8?_utf8 (text : String) : ofUtf8? (utf8 text) = some text := by
  have hbytes : (⟨(utf8 text).toArray⟩ : ByteArray) = text.toByteArray := by
    simp [utf8]
  simp [ofUtf8?, String.fromUTF8?, hbytes, String.fromUTF8, text.isValidUTF8]

theorem utf8_injective {first second : String} (h : utf8 first = utf8 second) :
    first = second := by
  have hread := ofUtf8?_utf8 first
  rw [h, ofUtf8?_utf8 second] at hread
  exact (Option.some.inj hread).symm

end FoodOrdering.Text
