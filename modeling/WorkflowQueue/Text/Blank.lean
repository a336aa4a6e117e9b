namespace WorkflowQueue.Text

/-!
# White space

The characters with the Unicode property White_Space, and texts without them at
their ends.
-/

/-- Whether a character is Unicode white space. -/
def isWhiteSpace
    (c : Char) :
    Bool :=
  let point := c.toNat
  (9 ≤ point && point ≤ 13) || point = 0x20 || point = 0x85 || point = 0xA0 ||
    point = 0x1680 || (0x2000 ≤ point && point ≤ 0x200A) || point = 0x2028 ||
    point = 0x2029 || point = 0x202F || point = 0x205F || point = 0x3000

/-- A text without its leading white space. -/
def skipWhiteSpace
    (text : List Char) :
    List Char :=
  text.dropWhile isWhiteSpace

/-- A text without white space at either end. -/
def trim
    (text : List Char) :
    List Char :=
  ((skipWhiteSpace text).reverse.dropWhile isWhiteSpace).reverse

/-- Whether a text holds nothing but white space. -/
def isAllBlank
    (text : List Char) :
    Bool :=
  text.all isWhiteSpace

end WorkflowQueue.Text
