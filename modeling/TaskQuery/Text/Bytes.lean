/-
# Text in bytes

Positions in a query and the lengths of file names count the bytes of UTF-8.
-/

namespace TaskQuery.Text

/-- The number of bytes that characters take in UTF-8. -/
def byteLength : List Char → Nat
  | [] => 0
  | c :: cs => c.utf8Size + byteLength cs

/-- The bytes of characters in UTF-8. -/
def utf8Bytes (cs : List Char) : List UInt8 :=
  cs.flatMap String.utf8EncodeChar

end TaskQuery.Text
