import ImportAlias.Text.Basic

/-!
# Blanks

The characters with the Unicode property `White_Space`, twenty-five of them.
-/
namespace ImportAlias

def isBlank (c : Char) : Bool :=
  let n := c.toNat
  (0x09 ≤ n && n ≤ 0x0D) || n == 0x20 || n == 0x85 || n == 0xA0 || n == 0x1680 ||
    (0x2000 ≤ n && n ≤ 0x200A) || n == 0x2028 || n == 0x2029 || n == 0x202F || n == 0x205F ||
    n == 0x3000

/-- A text without the blanks at its two ends. -/
def trimBlanks (t : Text) : Text := ((t.dropWhile isBlank).reverse.dropWhile isBlank).reverse

end ImportAlias
