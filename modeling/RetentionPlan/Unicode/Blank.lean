/-!
# White space

The characters that trimming removes: those with bidirectional class for white space or separators,
which takes in the information separators U+001C to U+001F.
-/
namespace RetentionPlan.Unicode

def isBlank (c : Char) : Bool :=
  let n := c.toNat
  (9 ≤ n && n ≤ 13) || (0x1C ≤ n && n ≤ 0x20) || n == 0x85 || n == 0xA0 || n == 0x1680 ||
    (0x2000 ≤ n && n ≤ 0x200A) || n == 0x2028 || n == 0x2029 || n == 0x202F || n == 0x205F ||
    n == 0x3000

/-- What remains of a text without the white space at its head. -/
def trimLeft (cs : List Char) : List Char := cs.dropWhile isBlank

/-- What remains of a text without the white space at both ends. -/
def trim (s : String) : String :=
  String.ofList (trimLeft (trimLeft s.toList).reverse).reverse

end RetentionPlan.Unicode
