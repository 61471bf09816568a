import FixtureLab.Text.Printable

/-!
This module contains string literals that spell every character that cannot be seen: quotes,
backslashes and a few controls have short escapes, and other characters that are not printable, or
that would merge with the character before them, are named by their code points.
-/

namespace FixtureLab
namespace Text

def codePointEscape (c : Char) : List Char :=
  ['\\', 'u', '{'] ++ Nat.toDigits 16 c.toNat ++ ['}']

def literalChar (c : Char) : List Char :=
  match c with
  | '\x00' => ['\\', '0']
  | '\t' => ['\\', 't']
  | '\r' => ['\\', 'r']
  | '\n' => ['\\', 'n']
  | '"' => ['\\', '"']
  | '\\' => ['\\', '\\']
  | _ => if isGraphemeExtend c || !isPrintable c then codePointEscape c else [c]

def literal (cs : List Char) : List Char := '"' :: cs.flatMap literalChar ++ ['"']

end Text
end FixtureLab
