import Mathlib.Data.List.Basic

/-!
# Text from the environment

The string methods that settings and secrets are read with.

Main results:

- Definitions `PyText.strip`, `PyText.lower` and `PyText.ascii`.
-/

set_option autoImplicit false

namespace PyText

/-- The characters `str.strip` removes. -/
def isSpace (c : Char) : Bool :=
  [9, 10, 11, 12, 13, 28, 29, 30, 31, 32, 133, 160, 5760, 8192, 8193, 8194, 8195, 8196, 8197, 8198,
    8199, 8200, 8201, 8202, 8232, 8233, 8239, 8287, 12288].contains c.toNat

/-- `text.strip()`. -/
def strip (text : String) : String :=
  String.ofList ((text.toList.dropWhile isSpace).reverse.dropWhile isSpace).reverse

/-- `str.lower` of one character, as far as an ASCII text can tell: the Kelvin sign is the only
other character that is lowered to an ASCII text. -/
def lowerChar (c : Char) : Char :=
  if c.toNat = 0x212A then 'k' else c.toLower

/-- `text.lower()`. -/
def lower (text : String) : String :=
  String.ofList (text.toList.map lowerChar)

/-- `text.isascii()`. -/
def ascii (text : String) : Bool :=
  text.toList.all fun c => c.toNat < 128

end PyText
