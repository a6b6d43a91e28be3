import DuplexHandshake.Text.Shapeless

/-!
# Quoted text

A text in double quotes, made safe for one line of a diagnostic. The quote and the backslash take a
backslash, some controls have a letter, and all other characters without a shape of their own are
written as their code point.
-/

namespace DuplexHandshake

/-- The code point of a character in braces, in hexadecimal without leading zeros. -/
def codePointEscape (c : Char) : List Char :=
  ['\\', 'u', '\x7b'] ++ Nat.toDigits 16 c.toNat ++ ['\x7d']

def quotedChar (c : Char) : List Char :=
  match c with
  | '\x00' => ['\\', '0']
  | '\t' => ['\\', 't']
  | '\r' => ['\\', 'r']
  | '\n' => ['\\', 'n']
  | '"' => ['\\', '"']
  | '\\' => ['\\', '\\']
  | _ => if isShapeless c then codePointEscape c else [c]

/-- A text in double quotes. -/
def quote (text : String) : String :=
  String.ofList ('"' :: text.toList.flatMap quotedChar ++ ['"'])

end DuplexHandshake
