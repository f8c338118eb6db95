/-!
# Blanks and line ends

Which characters separate the words of a command line, and which are cut from its end. Blanks are
the characters with the Unicode property White_Space; the standard fixes them, so they are given as
a table of ranges. Only carriage return and line feed end a line.
-/

namespace JobShell.Text

/-- The code point of `c` lies in one of the closed ranges. -/
def inRanges (ranges : List (Nat × Nat)) (c : Char) : Bool :=
  ranges.any fun r ↦ r.1 ≤ c.toNat && c.toNat ≤ r.2

/-- The code points with the property White_Space, as ascending closed ranges. -/
def blankRanges : List (Nat × Nat) :=
  [(0x09, 0x0D), (0x20, 0x20), (0x85, 0x85), (0xA0, 0xA0), (0x1680, 0x1680), (0x2000, 0x200A),
    (0x2028, 0x2029), (0x202F, 0x202F), (0x205F, 0x205F), (0x3000, 0x3000)]

/-- A blank separates words. -/
def isBlank (c : Char) : Bool := inRanges blankRanges c

/-- Carriage return and line feed. -/
def isLineEnd (c : Char) : Bool := c == '\r' || c == '\n'

/-- The characters left when every trailing line end is dropped. -/
def dropLineEnds (cs : List Char) : List Char := (cs.reverse.dropWhile isLineEnd).reverse

/-- A line without its trailing line ends. -/
def trimLineEnd (line : String) : String := String.ofList (dropLineEnds line.toList)

/-! ### What the table holds -/

/-- Every line end is a blank, so a line end inside a line separates words. -/
theorem isBlank_of_isLineEnd {c : Char} (h : isLineEnd c = true) : isBlank c = true := by
  rcases (by simpa [isLineEnd] using h : c = '\r' ∨ c = '\n') with rfl | rfl <;> decide

theorem toList_trimLineEnd (line : String) :
    (trimLineEnd line).toList = dropLineEnds line.toList := by
  simp [trimLineEnd]

end JobShell.Text
