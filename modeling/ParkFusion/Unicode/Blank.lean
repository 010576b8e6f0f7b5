import ParkFusion.Unicode.Table

namespace ParkFusion.Unicode

/-- Characters with the White_Space property. -/
def isBlank (c : Char) : Bool :=
  within [(0x9, 0xD), (0x20, 0x20), (0x85, 0x85), (0xA0, 0xA0), (0x1680, 0x1680),
    (0x2000, 0x200A), (0x2028, 0x2029), (0x202F, 0x202F), (0x205F, 0x205F),
    (0x3000, 0x3000)] c.toNat

def trimLeft (s : List Char) : List Char :=
  s.dropWhile isBlank

/-- The text without the blanks at its two ends. -/
def trim (s : String) : String :=
  String.ofList (trimLeft (trimLeft s.toList).reverse).reverse

/-- Whether nothing but blanks stands in the text. -/
def isBlankText (s : String) : Bool :=
  s.toList.all isBlank

end ParkFusion.Unicode
