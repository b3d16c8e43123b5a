/-
Module: LedgerAgent.Text.Blank
Purpose: Unicode white space and the trimming of text.
Main exports: Text.isBlank, Text.trim
-/

namespace LedgerAgent.Text

/-- Characters with the Unicode property `White_Space`.  Zero-width characters
such as U+FEFF and U+200B do not have it and are kept by `trim`. -/
def isBlank (c : Char) : Bool :=
  let n := c.toNat
  (9 ≤ n && n ≤ 13) || n == 0x20 || n == 0x85 || n == 0xA0 || n == 0x1680 ||
    (0x2000 ≤ n && n ≤ 0x200A) || n == 0x2028 || n == 0x2029 || n == 0x202F ||
    n == 0x205F || n == 0x3000

/-- The characters between the leading and the trailing white space. -/
def trimmed (cs : List Char) : List Char :=
  ((cs.dropWhile isBlank).reverse.dropWhile isBlank).reverse

def trim (s : String) : String :=
  String.ofList (trimmed s.toList)

/-- Text in which the ASCII capital letters are small; no other letter changes. -/
def asciiLower (s : String) : String :=
  String.ofList (s.toList.map Char.toLower)

@[simp] theorem trimmed_nil : trimmed [] = [] := rfl

end LedgerAgent.Text
