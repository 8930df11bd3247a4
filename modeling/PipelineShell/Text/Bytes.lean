/-
Byte strings.

What the system hands over and takes back (arguments, paths, file contents) is bytes, and what the
shell works with is text. This file names byte strings, encodes text as UTF-8, and decodes bytes
that are valid UTF-8.
-/

namespace PipelineShell

/-- A string of bytes. -/
abbrev Bytes := List UInt8

namespace Text

/-- The UTF-8 encoding of a text. -/
def encode (text : String) : Bytes := text.toByteArray.data.toList

/-- The text that these bytes encode, if they are valid UTF-8. -/
def decode? (bytes : Bytes) : Option String := String.fromUTF8? ⟨bytes.toArray⟩

/-- The offset of the first zero byte. The system ends a string there, so a string with one cannot
be handed over. -/
def nulOffset? (bytes : Bytes) : Option Nat := bytes.findIdx? (· == 0)

/-- Encoding loses nothing: decoding gives the text back. -/
@[simp] theorem decode?_encode (text : String) : decode? (encode text) = some text := by
  simp [decode?, encode, String.fromUTF8?, text.isValidUTF8]
  rfl

@[simp] theorem encode_append (first second : String) :
    encode (first ++ second) = encode first ++ encode second := by
  simp [encode]

/-- A byte string has no zero byte exactly when the search for one finds none. -/
theorem nulOffset?_eq_none_iff {bytes : Bytes} : nulOffset? bytes = none ↔ (0 : UInt8) ∉ bytes := by
  simp only [nulOffset?, List.findIdx?_eq_none_iff, beq_eq_false_iff_ne]
  exact ⟨fun absent mem => absent 0 mem rfl, fun absent byte mem same => absent (same ▸ mem)⟩

end Text

end PipelineShell
