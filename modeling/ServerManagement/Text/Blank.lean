/-!
# White space

The characters with the standard's white space property, and trimming by them.
-/

set_option autoImplicit false

namespace ServerManagement.Text

/-- The characters with the white space property; there are twenty-five. -/
def isBlank (c : Char) : Bool :=
  (9 ≤ c.toNat && c.toNat ≤ 13) || c.toNat == 32 || c.toNat == 133 || c.toNat == 160 ||
  c.toNat == 5760 || (8192 ≤ c.toNat && c.toNat ≤ 8202) || c.toNat == 8232 || c.toNat == 8233 ||
  c.toNat == 8239 || c.toNat == 8287 || c.toNat == 12288

def trimEnd (text : List Char) : List Char := (text.reverse.dropWhile isBlank).reverse

/-- A text without the blanks at its two ends. -/
def trim (text : List Char) : List Char := trimEnd (text.dropWhile isBlank)

end ServerManagement.Text
