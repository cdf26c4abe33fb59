/-!
# UTF-8

The bytes of a text, and the text of bytes when they are well-formed (`text?_bytes` : reading
the bytes of a text gives the text). `decode` reads any bytes, with a gap for each one that
belongs to no character; the bytes of a text have none (`decode_bytes`).
-/

namespace SignIn

/-- Bytes in order. -/
abbrev Bytes := List UInt8

/-- Characters in order, none for a byte that belongs to no character. -/
abbrev Decoded := List (Option Char)

namespace Utf8

/-- The UTF-8 bytes of a text. -/
def bytes (s : String) : Bytes := s.toUTF8.data.toList

/-- The text whose UTF-8 bytes these are, none when they are not well-formed. -/
def text? (bs : Bytes) : Option String := String.fromUTF8? ⟨bs.toArray⟩

/-- The characters and gaps from position `i` on, at most `fuel` of them. -/
def decodeFrom (b : ByteArray) : Nat → Nat → Decoded
  | 0, _ => []
  | fuel + 1, i =>
    if b.size ≤ i then []
    else match b.utf8DecodeChar? i with
      | none => none :: decodeFrom b fuel (i + 1)
      | some c => some c :: decodeFrom b fuel (i + c.utf8Size)

/-- The characters of bytes, with gaps. -/
def decode (bs : Bytes) : Decoded :=
  match text? bs with
  | some s => s.toList.map some
  | none => decodeFrom ⟨bs.toArray⟩ bs.length 0

/-- What a text is written as is read back as the same text. -/
theorem text?_bytes (s : String) : text? (bytes s) = some s := by
  have h : (⟨(bytes s).toArray⟩ : ByteArray) = s.toByteArray := rfl
  rw [text?, h, String.fromUTF8?, dif_pos s.isValidUTF8]
  rfl

/-- A text is decoded without gaps. -/
theorem decode_bytes (s : String) : decode (bytes s) = s.toList.map some := by
  rw [decode, text?_bytes]

/-- Two texts with the same bytes are one text. -/
theorem bytes_injective {s t : String} (h : bytes s = bytes t) : s = t := by
  have := (text?_bytes s).symm.trans ((congrArg text? h).trans (text?_bytes t))
  exact Option.some.inj this

end Utf8

end SignIn
