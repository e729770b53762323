/-
# Byte forms of characters

A set of characters is read byte by byte in UTF-8. The characters of a range split into
runs of equal length whose byte sequences are a product: at each place of the sequence
any byte of one range. The module gives these products in increasing order.
-/

import TaskQuery.Pattern.CharSet

namespace TaskQuery.Pattern

/-- The bytes that may stand at one place of a sequence. -/
abbrev ByteRange := Nat × Nat

/-- Byte sequences as the bytes that may stand at each place. -/
abbrev ByteForm := List ByteRange

/-- The codes from `low` to `high` as products, with a leading value and as many values
of six bits behind it as there are `places`. -/
def codeForms : (places : Nat) → (low high : Nat) → List ByteForm
  | 0, low, high => [[(low, high)]]
  | places + 1, low, high =>
      let block := Nat.pow 64 (places + 1)
      let inside (leading low high : Nat) : List ByteForm :=
        (codeForms places low high).map ((leading, leading) :: ·)
      let first := low / block
      let last := high / block
      if first = last then inside first (low % block) (high % block)
      else
        let cutFirst : Bool := low % block ≠ 0
        let cutLast : Bool := high % block ≠ block - 1
        let wholeFirst := if cutFirst then first + 1 else first
        let wholeLast := if cutLast then last - 1 else last
        (if cutFirst then inside first (low % block) (block - 1) else [])
          ++ (if wholeFirst ≤ wholeLast then
                [(wholeFirst, wholeLast) :: List.replicate (places + 1) (0, 63)]
              else [])
          ++ (if cutLast then inside last 0 (high % block) else [])

/-- The codes of each length in UTF-8: how many bytes follow the leading one, what marks
the leading one, and the least and the greatest code. -/
def formLengths : List (Nat × Nat × Nat × Nat) :=
  [(0, 0, 0, 0x7F), (1, 0xC0, 0x80, 0x7FF), (2, 0xE0, 0x800, 0xD7FF), (2, 0xE0, 0xE000, 0xFFFF),
   (3, 0xF0, 0x10000, 0x10FFFF)]

/-- Marks the bytes of a product, the leading one and those that follow it. -/
def markBytes (leading : Nat) : ByteForm → ByteForm
  | first :: rest =>
      (first.1 + leading, first.2 + leading)
        :: rest.map fun (low, high) => (low + 0x80, high + 0x80)
  | [] => []

/-- The byte sequences of a set of characters as products, in increasing order. -/
def CharSet.byteForms (set : CharSet) : List ByteForm :=
  set.ranges.flatMap fun (low, high) =>
    formLengths.flatMap fun (places, mark, least, greatest) =>
      if max low least ≤ min high greatest then
        (codeForms places (max low least) (min high greatest)).map (markBytes mark)
      else []

end TaskQuery.Pattern
