import CallAtlas.Text.RangeTable

/-!
# Digits

Two notions of digit: the decimal digits of every script, which have a value and may be used in a
number, and the larger class that also holds superscripts and circled digits.
-/

namespace CallAtlas.Text

/-- Digits in the wide sense, as the points at which membership changes (Unicode 14). -/
def digitTable : RangeTable := .ofGaps [
  "30 a 78 2 5 1 5a6 a 86 a c6 a 19c a 76 a 76 a 76 a 76 a 76 a 76 a 76 a 76 a 76 a 60 a 76 a",
  "46 a 116 a 46 a 2cf 9 46e a 26 a 12c a 80 b a5 a 6 a b6 a 56 a 86 a 6 a 416 1 3 6 6 a 3d6 9",
  "b 9 b 9 59 1 a 9 1 1 276 9 1 9 1 9 7e8d a 2a6 a 26 a c6 a 16 a 56 a 196 a 5316 a 586 a 596 4",
  "2ec a 126 9 1e9 9 b a 80 a 3c a 90 a 116 a 156 a 76 a 176 a 66 a 66 a 1a6 a 66 a 2f6 a f6 a",
  "46 a 4cb6 a 56 a 86 a 6c74 32 940 a 1a6 a 656 a 7a6 b ae5 a"]

/-- Whether a character is a digit in the wide sense (`²` and `①` included). -/
def isDigitLike (c : Char) : Bool :=
  if c.val < 128 then c.isDigit else digitTable.contains c.toNat

/-- The zero of every script that writes numbers with ten decimal digits; the other nine digits
follow it. -/
def decimalZeros : List Nat := [
  0x30, 0x660, 0x6f0, 0x7c0, 0x966, 0x9e6, 0xa66, 0xae6, 0xb66, 0xbe6, 0xc66, 0xce6,
  0xd66, 0xde6, 0xe50, 0xed0, 0xf20, 0x1040, 0x1090, 0x17e0, 0x1810, 0x1946, 0x19d0, 0x1a80,
  0x1a90, 0x1b50, 0x1bb0, 0x1c40, 0x1c50, 0xa620, 0xa8d0, 0xa900, 0xa9d0, 0xa9f0, 0xaa50, 0xabf0,
  0xff10, 0x104a0, 0x10d30, 0x11066, 0x110f0, 0x11136, 0x111d0, 0x112f0, 0x11450, 0x114d0, 0x11650, 0x116c0,
  0x11730, 0x118e0, 0x11950, 0x11c50, 0x11d50, 0x11da0, 0x16a60, 0x16ac0, 0x16b50, 0x1d7ce, 0x1d7d8, 0x1d7e2,
  0x1d7ec, 0x1d7f6, 0x1e140, 0x1e2f0, 0x1e950, 0x1fbf0]

def decimalValue? (c : Char) : Option Nat :=
  if c.val < 128 then
    if c.isDigit then some (c.toNat - 48) else none
  else
    (decimalZeros.find? fun z => z ≤ c.toNat && c.toNat < z + 10).map (c.toNat - ·)

end CallAtlas.Text
