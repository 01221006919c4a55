/-
# UTF-8

The bytes of characters.  A range of code points is given as the products of byte ranges that it
consists of, in ascending order: in each product, every byte of its range may follow every byte of
the range before it.
-/
namespace RecordFilter

namespace Utf8

/-- Bytes from `first` to `last`. -/
structure ByteRange where
  first : Nat
  last : Nat
deriving DecidableEq

/-- The bytes after the first one of a character. -/
def continuation : ByteRange := ⟨0x80, 0xBF⟩

/-- The products for the numbers from `first` to `last`, when a number is written as one digit on
top of `lead` and as many further bytes of six bits each as there are places. -/
def products (lead : Nat) : Nat → Nat → Nat → List (List ByteRange)
  | 0, first, last => [[⟨lead + first, lead + last⟩]]
  | places + 1, first, last =>
    let unit := 1 <<< (6 * (places + 1))
    let under (digit first last : Nat) : List (List ByteRange) :=
      (products 0x80 places first last).map (⟨lead + digit, lead + digit⟩ :: ·)
    let low := first / unit
    let high := last / unit
    if low = high then under low (first % unit) (last % unit)
    else
      let startsWhole := first % unit == 0
      let endsWhole := last % unit == unit - 1
      let head := if startsWhole then [] else under low (first % unit) (unit - 1)
      let tail := if endsWhole then [] else under high 0 (last % unit)
      let wholeFirst := if startsWhole then low else low + 1
      let wholeNext := if endsWhole then high + 1 else high
      let whole :=
        if wholeFirst < wholeNext then
          [⟨lead + wholeFirst, lead + wholeNext - 1⟩ :: List.replicate (places + 1) continuation]
        else []
      head ++ whole ++ tail

/-- The products for the code points from `first` to `last`.  Those of one length are written
alike, and surrogates are no characters. -/
def forms (first last : Nat) : List (List ByteRange) :=
  let band (low high lead places : Nat) : List (List ByteRange) :=
    if max first low ≤ min last high then products lead places (max first low) (min last high)
    else []
  band 0 0x7F 0 0 ++ band 0x80 0x7FF 0xC0 1 ++ band 0x800 0xD7FF 0xE0 2 ++
    band 0xE000 0xFFFF 0xE0 2 ++ band 0x10000 0x10FFFF 0xF0 3

/-- The bytes of a character. -/
def bytes (c : Char) : List Nat := (forms c.toNat c.toNat).flatten.map ByteRange.first

end Utf8

end RecordFilter
