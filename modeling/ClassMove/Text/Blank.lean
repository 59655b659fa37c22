/-!
# White space

The characters with the Unicode property White_Space, and the two of them that
may indent a line.
-/

namespace ClassMove

/-- Has the character the property White_Space? -/
def isBlank (c : Char) : Bool :=
  let n := c.toNat
  (0x09 ≤ n && n ≤ 0x0D) || n == 0x20 || n == 0x85 || n == 0xA0 || n == 0x1680 ||
    (0x2000 ≤ n && n ≤ 0x200A) || n == 0x2028 || n == 0x2029 || n == 0x202F || n == 0x205F ||
    n == 0x3000

/-- Lines are indented with spaces and tabs. -/
def isIndent (c : Char) : Bool :=
  c == ' ' || c == '\t'

theorem isBlank_of_isIndent {c : Char} (indent : isIndent c = true) : isBlank c = true := by
  simp only [isIndent, Bool.or_eq_true, beq_iff_eq] at indent
  rcases indent with rfl | rfl <;> decide

end ClassMove
