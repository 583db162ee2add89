/-!
# Character classes

A character class is a list of ranges of code points, both ends included. The blank characters
below are those of the Unicode property `White_Space`.
-/

namespace ChatScript.Text

/-- Ranges of code points, each given by its first and its last member. -/
abbrev CharClass := List (Nat × Nat)

/-- Whether `c` lies in one of the ranges of the class. -/
def CharClass.contains (ranges : CharClass) (c : Char) : Bool :=
  ranges.any fun range => range.1 ≤ c.toNat && c.toNat ≤ range.2

/-- The characters that separate words and are trimmed from the ends of a text. -/
def blanks : CharClass :=
  [(0x09, 0x0D), (0x20, 0x20), (0x85, 0x85), (0xA0, 0xA0), (0x1680, 0x1680), (0x2000, 0x200A),
    (0x2028, 0x2029), (0x202F, 0x202F), (0x205F, 0x205F), (0x3000, 0x3000)]

/-- Whether `c` is a blank character. -/
def isBlank (c : Char) : Bool :=
  blanks.contains c

end ChatScript.Text
