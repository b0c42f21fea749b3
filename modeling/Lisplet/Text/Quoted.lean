import Lisplet.Text.Hidden

/-!
# Quoted names

A name is quoted between double quotes. A double quote and a backslash inside it get a backslash in
front; line feed, carriage return, tab and the null character are written `\n`, `\r`, `\t`, `\0`;
any other hidden character is written `\u` with its code point in braces, in lower-case hexadecimal
without leading zeros. All other characters stand for themselves.
-/

set_option autoImplicit false

namespace Lisplet.Text

/-- How one character is written inside a quoted name. -/
def escape (character : Char) : List Char :=
  match character with
  | '\"' => ['\\', '\"']
  | '\\' => ['\\', '\\']
  | '\n' => ['\\', 'n']
  | '\r' => ['\\', 'r']
  | '\t' => ['\\', 't']
  | '\x00' => ['\\', '0']
  | other =>
      if isHidden other then
        ['\\', 'u', '\x7b'] ++ Nat.toDigits 16 other.toNat ++ ['\x7d']
      else [other]

/-- The quoted form of a name. -/
def quote (name : String) : String :=
  String.ofList ('\"' :: name.toList.flatMap escape ++ ['\"'])

/-- A bracketed list of quoted names, separated by commas. -/
def quoteAll (names : List String) : String :=
  "[" ++ String.intercalate ", " (names.map quote) ++ "]"

end Lisplet.Text
