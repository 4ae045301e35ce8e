import TabletRecords.Text.Combining
import TabletRecords.Text.Unassigned

/-!
Characters that a quoted text shows as they are. A reader has to see a character, and to see it
apart from its neighbours; what is blank, joins another character or is no character is not shown.
Ranges of code points are inclusive and ascending.
-/
namespace TabletRecords.Text

/-- Controls, formats, private use, and every separator other than the space: the Unicode general
categories `Cc`, `Cf`, `Co`, `Zl`, `Zp` and `Zs`. -/
def invisibleRanges : List (Nat × Nat) :=
  [(0x0, 0x1f), (0x7f, 0xa0), (0xad, 0xad), (0x600, 0x605), (0x61c, 0x61c), (0x6dd, 0x6dd),
   (0x70f, 0x70f), (0x890, 0x891), (0x8e2, 0x8e2), (0x1680, 0x1680), (0x180e, 0x180e),
   (0x2000, 0x200f), (0x2028, 0x202f), (0x205f, 0x2064), (0x2066, 0x206f), (0x3000, 0x3000),
   (0xe000, 0xf8ff), (0xfeff, 0xfeff), (0xfff9, 0xfffb), (0x110bd, 0x110bd), (0x110cd, 0x110cd),
   (0x13430, 0x1343f), (0x1bca0, 0x1bca3), (0x1d173, 0x1d17a), (0xe0001, 0xe0001),
   (0xe0020, 0xe007f), (0xf0000, 0xffffd), (0x100000, 0x10fffd)]

/-- Letters that show nothing, as fillers of syllables: the letters with the Unicode property
`Default_Ignorable_Code_Point`. -/
def fillerRanges : List (Nat × Nat) :=
  [(0x115f, 0x1160), (0x3164, 0x3164), (0xffa0, 0xffa0)]

def inRanges (ranges : List (Nat × Nat)) (code : Nat) : Bool :=
  ranges.any fun (first, last) => first ≤ code && code ≤ last

/-- A character stands for itself only where a reader sees it, and sees it alone. -/
def isVisible (c : Char) : Bool :=
  !(inRanges invisibleRanges c.toNat || inRanges fillerRanges c.toNat
    || inRanges combiningRanges c.toNat || inRanges unassignedRanges c.toNat)

end TabletRecords.Text
