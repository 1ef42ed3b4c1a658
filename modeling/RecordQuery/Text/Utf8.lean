/-!
# Bytes of texts

Texts are stored in UTF-8. `Text.ofBytes?` is the text that some bytes stand for, and
`Text.wellFormedLength` says how many of them come before the first one that begins no character,
which is where a message about bytes that are no text points to.
-/

namespace RecordQuery.Text

/-- The text that some bytes stand for. -/
def ofBytes? (bytes : List UInt8) : Option String := String.fromUTF8? ⟨bytes.toArray⟩

/-- The offset of the first byte from `i` on that begins no character, or that behind the last. -/
def wellFormedFrom (bytes : ByteArray) (i : Nat) : Nat :=
  if i < bytes.size then
    match bytes.utf8DecodeChar? i with
    | some c => wellFormedFrom bytes (i + c.utf8Size)
    | none => i
  else i
termination_by bytes.size - i
decreasing_by
  have := c.utf8Size_pos
  omega

/-- How many bytes come before the first one that begins no character. -/
def wellFormedLength (bytes : List UInt8) : Nat := wellFormedFrom ⟨bytes.toArray⟩ 0

end RecordQuery.Text
