/-
This file defines the characters that count as white space and those that end a
line. White space is the Unicode property of that name; line ends are the
mandatory breaks of Unicode, of which a carriage return and a line feed together
make one.
-/

namespace CallTyping

namespace Report

/-- The code points with the property `White_Space`. -/
def blankPoints : List Nat :=
  [0x9, 0xA, 0xB, 0xC, 0xD, 0x20, 0x85, 0xA0, 0x1680, 0x2000, 0x2001, 0x2002, 0x2003, 0x2004,
    0x2005, 0x2006, 0x2007, 0x2008, 0x2009, 0x200A, 0x2028, 0x2029, 0x202F, 0x205F, 0x3000]

def isBlank (char : Char) : Bool := blankPoints.contains char.toNat

/-- The code points that end a line. -/
def lineEndPoints : List Nat := [0xA, 0xB, 0xC, 0xD, 0x85, 0x2028, 0x2029]

def isLineEnd (char : Char) : Bool := lineEndPoints.contains char.toNat

/-- Every line end is white space. -/
theorem isBlank_of_isLineEnd (char : Char) (ends : isLineEnd char = true) :
    isBlank char = true := by
  simp only [isLineEnd, lineEndPoints, isBlank, blankPoints, List.contains_eq_mem,
    decide_eq_true_eq, List.mem_cons, List.not_mem_nil, or_false] at *
  omega

end Report

end CallTyping
