import FixtureLab.Decimal.Literal

/-!
This module contains the tokens of JSON text. Text is read by one left fold: each character takes
the scanner to its next state, and possibly completes tokens.
-/

namespace FixtureLab
namespace Json

inductive Piece where
  | char (c : Char)
  | unit (value : Nat)
deriving DecidableEq, Repr

namespace Piece

def highSurrogate : Nat := 0xD800

def lowSurrogate : Nat := 0xDC00

def endSurrogates : Nat := 0xE000

/--
The text that pieces denote. A high surrogate is joined with the low surrogate that must follow it;
any other surrogate denotes nothing.
-/
def text? : List Piece → Option (List Char)
  | [] => some []
  | .char c :: rest => (text? rest).map (c :: ·)
  | .unit u :: rest =>
    if u < highSurrogate || endSurrogates ≤ u then (text? rest).map (Char.ofNat u :: ·)
    else if lowSurrogate ≤ u then none
    else
      match rest with
      | .unit v :: rest =>
        if lowSurrogate ≤ v && v < endSurrogates then
          let c := Char.ofNat (0x10000 + (u - highSurrogate) * 0x400 + (v - lowSurrogate))
          (text? rest).map (c :: ·)
        else none
      | _ => none

end Piece

inductive Token where
  | openArr
  | closeArr
  | openObj
  | closeObj
  | colon
  | comma
  | null
  | bool (value : Bool)
  | number (literal : Literal)
  | str (pieces : List Piece)
deriving DecidableEq, Repr

inductive Scan where
  -- What was gathered is in reverse order.
  | between
  | word (seen : List Char)
  | number (seen : List Char)
  | str (seen : List Piece)
  | escape (seen : List Piece)
  | hex (seen : List Piece) (digits : Nat) (value : Nat)
deriving DecidableEq, Repr

namespace Scan

def isBlank (c : Char) : Bool := c = ' ' || c = '\n' || c = '\t' || c = '\r'

def isWordChar (c : Char) : Bool := c.isLower

def isNumberChar (c : Char) : Bool :=
  c.isDigit || c = '-' || c = '+' || c = '.' || c = 'e' || c = 'E'

def wordToken? (cs : List Char) : Option Token :=
  if cs = "null".toList then some .null
  else if cs = "true".toList then some (.bool true)
  else if cs = "false".toList then some (.bool false)
  else none

def hexValue? (c : Char) : Option Nat :=
  if c.isDigit then some (c.toNat - '0'.toNat)
  else if 'a' ≤ c && c ≤ 'f' then some (c.toNat - 'a'.toNat + 10)
  else if 'A' ≤ c && c ≤ 'F' then some (c.toNat - 'A'.toNat + 10)
  else none

def escaped? (c : Char) : Option Char :=
  match c with
  | '"' => some '"'
  | '\\' => some '\\'
  | '/' => some '/'
  | 'b' => some '\x08'
  | 'f' => some '\x0c'
  | 'n' => some '\n'
  | 'r' => some '\r'
  | 't' => some '\t'
  | _ => none

def start (done : List Token) (c : Char) : Option (Scan × List Token) :=
  match c with
  | '[' => some (.between, .openArr :: done)
  | ']' => some (.between, .closeArr :: done)
  | '{' => some (.between, .openObj :: done)
  | '}' => some (.between, .closeObj :: done)
  | ':' => some (.between, .colon :: done)
  | ',' => some (.between, .comma :: done)
  | '"' => some (.str [], done)
  | _ =>
    if isBlank c then some (.between, done)
    else if isWordChar c then some (.word [c], done)
    else if c.isDigit || c = '-' then some (.number [c], done)
    else none

def step : Scan × List Token → Char → Option (Scan × List Token)
  | (.between, done), c => start done c
  | (.word seen, done), c =>
    if isWordChar c then some (.word (c :: seen), done)
    else (wordToken? seen.reverse).bind fun token => start (token :: done) c
  | (.number seen, done), c =>
    if isNumberChar c then some (.number (c :: seen), done)
    else (Literal.ofChars? seen.reverse).bind fun literal => start (.number literal :: done) c
  | (.str seen, done), c =>
    if c = '"' then some (.between, .str seen.reverse :: done)
    else if c = '\\' then some (.escape seen, done)
    else if c.toNat < 0x20 then none
    else some (.str (.char c :: seen), done)
  | (.escape seen, done), c =>
    if c = 'u' then some (.hex seen 0 0, done)
    else (escaped? c).map fun c => (.str (.char c :: seen), done)
  | (.hex seen digits value, done), c =>
    (hexValue? c).map fun d =>
      let value := 16 * value + d
      if digits = 3 then (.str (.unit value :: seen), done)
      else (.hex seen (digits + 1) value, done)

end Scan

def tokens? (cs : List Char) : Option (List Token) :=
  -- The blank completes a last word or number.
  match (cs ++ ['\n']).foldlM Scan.step (.between, []) with
  | some (.between, done) => some done.reverse
  | _ => none

end Json
end FixtureLab
