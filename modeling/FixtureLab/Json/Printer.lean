import FixtureLab.Decimal.Shortest
import FixtureLab.Json.Basic

/-!
This module contains the text of JSON values, on one line or laid out on several.
-/

namespace FixtureLab
namespace Json

def hexDigit (n : Nat) : Char := Nat.digitChar (n % 16)

def escapeChar (c : Char) : List Char :=
  match c with
  | '"' => ['\\', '"']
  | '\\' => ['\\', '\\']
  | '\x08' => ['\\', 'b']
  | '\x0c' => ['\\', 'f']
  | '\n' => ['\\', 'n']
  | '\r' => ['\\', 'r']
  | '\t' => ['\\', 't']
  | _ =>
    if c.toNat < 0x20 then ['\\', 'u', '0', '0', hexDigit (c.toNat / 16), hexDigit c.toNat]
    else [c]

def quote (cs : List Char) : List Char := '"' :: cs.flatMap escapeChar ++ ['"']

def intText (n : Int) : List Char :=
  match n with
  | .ofNat n => Nat.toDigits 10 n
  | .negSucc n => '-' :: Nat.toDigits 10 (n + 1)

structure Layout where
  newline : Nat → List Char
  colon : List Char

namespace Layout

def compact : Layout := { newline := fun _ => [], colon := [':'] }

def pretty : Layout :=
  { newline := fun depth => '\n' :: List.replicate (2 * depth) ' '
    colon := [':', ' '] }

end Layout

mutual

def render (layout : Layout) (depth : Nat) : Json → List Char
  | .null => "null".toList
  | .bool true => "true".toList
  | .bool false => "false".toList
  | .int n => intText n
  | .float x => x.text Binary64.jsonFormat
  | .str s => quote s.toList
  | .arr [] => ['[', ']']
  | .arr (v :: rest) =>
    '[' :: layout.newline (depth + 1) ++ render layout (depth + 1) v ++
      renderItems layout depth rest
  | .obj [] => ['{', '}']
  | .obj ((k, v) :: rest) =>
    '{' :: layout.newline (depth + 1) ++ quote k.toList ++ layout.colon ++
      render layout (depth + 1) v ++ renderMembers layout depth rest

def renderItems (layout : Layout) (depth : Nat) : List Json → List Char
  | [] => layout.newline depth ++ [']']
  | v :: rest =>
    ',' :: layout.newline (depth + 1) ++ render layout (depth + 1) v ++
      renderItems layout depth rest

def renderMembers (layout : Layout) (depth : Nat) : List (String × Json) → List Char
  | [] => layout.newline depth ++ ['}']
  | (k, v) :: rest =>
    ',' :: layout.newline (depth + 1) ++ quote k.toList ++ layout.colon ++
      render layout (depth + 1) v ++ renderMembers layout depth rest

end

def compact (v : Json) : List Char := v.render .compact 0

def pretty (v : Json) : List Char := v.render .pretty 0

end Json
end FixtureLab
