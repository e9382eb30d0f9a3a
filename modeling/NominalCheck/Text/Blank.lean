/-!
# Blanks

The characters that are taken off both ends of a numeral: the separators and the control
characters that lay out text.

## Main definitions

* `isBlank c` — the character `c` is blank.
* `trimmed s` — `s` without the blanks at its ends.
-/

namespace NominalCheck.Text

/-- The closed ranges of blank code points. -/
def blankRanges : List (Nat × Nat) :=
  [ (0x9, 0xd), (0x20, 0x20), (0x85, 0x85), (0xa0, 0xa0), (0x1680, 0x1680), (0x2000, 0x200a),
    (0x2028, 0x2029), (0x202f, 0x202f), (0x205f, 0x205f), (0x3000, 0x3000)]

/-- Whether a character is blank. -/
def isBlank (c : Char) : Bool :=
  blankRanges.any fun (low, high) => low ≤ c.toNat && c.toNat ≤ high

/-- A text without the blanks at its ends. -/
def trimmed (s : List Char) : List Char :=
  ((s.dropWhile isBlank).reverse.dropWhile isBlank).reverse

@[simp] theorem trimmed_nil : trimmed [] = [] := rfl

end NominalCheck.Text
