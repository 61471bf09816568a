import FixtureLab.Yaml.Scalar

/-!
This module contains the text of YAML documents in block style. Scalars are plain where that is
safe, texts of several lines are literal blocks, and quotes take what remains.
-/

namespace FixtureLab
namespace Yaml

inductive Value where
  | null
  | bool (value : Bool)
  | str (text : String)
  | seq (items : List Value)
  | map (members : List (String × Value))
deriving Repr, Inhabited

def step : Nat := 2

def pad (n : Nat) : List Char := List.replicate n ' '

namespace Text

def hasPair (p q : Char → Bool) : List Char → Bool
  | c :: d :: rest => (p c && q d) || hasPair p q (d :: rest)
  | _ => false

def isSpace (c : Char) : Bool := c = ' '

def startIndicators : List Char :=
  ['#', ',', '[', ']', '\x7b', '\x7d', '&', '*', '!', '|', '>', '\'', '"', '%', '@', '\x60']

def hasStartIndicator (cs : List Char) : Bool :=
  match cs with
  | '-' :: '-' :: '-' :: _ => true
  | '.' :: '.' :: '.' :: _ => true
  | c :: rest =>
    startIndicators.contains c || ((c = '?' || c = ':' || c = '-') && blankNext rest)
  | [] => false

def hasInnerIndicator : List Char → Bool
  | c :: d :: rest =>
    (d = ':' && blankNext rest) ||
      (d = '#' && (isBlank c || isBreak c || c.toNat = 0)) ||
      hasInnerIndicator (d :: rest)
  | _ => false

def hasBreak (cs : List Char) : Bool := cs.any isBreak

def hasSpecial (cs : List Char) : Bool := cs.any (!isPrintable ·)

def hasEdge (p : Char → Bool) (cs : List Char) : Bool :=
  (cs.head?.map p).getD false || (cs.getLast?.map p).getD false

def singleQuotable (cs : List Char) : Bool :=
  !hasPair isBreak isSpace cs && !hasPair isSpace isBreak cs && !hasSpecial cs

def plainable (cs : List Char) : Bool :=
  !hasEdge isSpace cs && !hasBreak cs && singleQuotable cs && !hasStartIndicator cs &&
    !hasInnerIndicator cs

def literalable (cs : List Char) : Bool :=
  !(cs.getLast?.map isSpace).getD false && !hasPair isSpace isBreak cs && !hasSpecial cs

def style (cs : List Char) : Style :=
  if cs.contains '\n' then if literalable cs then .literal else .doubleQuoted
  else if Scalar.isPlainText cs && plainable cs then .plain
  else if singleQuotable cs then .singleQuoted
  else .doubleQuoted

def singleBody (indent : Nat) (afterBreak : Bool) : List Char → List Char
  | [] => if afterBreak then pad indent else []
  | c :: rest =>
    if isSpace c then c :: singleBody indent afterBreak rest
    else if isBreak c then c :: singleBody indent true rest
    else
      (if afterBreak then pad indent else []) ++ (if c = '\'' then ['\''] else []) ++
        c :: singleBody indent false rest

def hexDigit (n : Nat) : Char := (Nat.digitChar (n % 16)).toUpper

def hexDigits : Nat → Nat → List Char
  | 0, _ => []
  | width + 1, n => hexDigits width (n / 16) ++ [hexDigit n]

def escapeChar (c : Char) : List Char :=
  if isPrintable c && !isBreak c && c != '"' && c != '\\' then [c]
  else
    '\\' ::
      match c.toNat with
      | 0x00 => ['0']
      | 0x07 => ['a']
      | 0x08 => ['b']
      | 0x09 => ['t']
      | 0x0A => ['n']
      | 0x0B => ['v']
      | 0x0C => ['f']
      | 0x0D => ['r']
      | 0x1B => ['e']
      | 0x22 => ['"']
      | 0x5C => ['\\']
      | 0x85 => ['N']
      | 0x2028 => ['L']
      | 0x2029 => ['P']
      | n =>
        if n ≤ 0xFF then 'x' :: hexDigits 2 n
        else if n ≤ 0xFFFF then 'u' :: hexDigits 4 n
        else 'U' :: hexDigits 8 n

def blockMarks (cs : List Char) : List Char :=
  let indentMark := match cs with
    | c :: _ => if isSpace c || isBreak c then Nat.toDigits 10 step else []
    | [] => []
  let endMark := match cs.reverse with
    | [] => ['-']
    | [c] => if isBreak c then ['+'] else ['-']
    | c :: d :: _ => if !isBreak c then ['-'] else if isBreak d then ['+'] else []
  indentMark ++ endMark

def literalBody (indent : Nat) (afterBreak : Bool) : List Char → List Char
  | [] => if afterBreak then [] else ['\n']
  | c :: rest =>
    if isBreak c then c :: literalBody indent true rest
    else (if afterBreak then pad indent else []) ++ c :: literalBody indent false rest

def render (indent : Nat) (cs : List Char) : List Char :=
  match style cs with
  | .plain => cs ++ ['\n']
  | .singleQuoted => '\'' :: singleBody indent false cs ++ ['\'', '\n']
  | .literal => '|' :: blockMarks cs ++ '\n' :: literalBody indent true cs
  | _ => '"' :: cs.flatMap escapeChar ++ ['"', '\n']

def utf8Length (cs : List Char) : Nat := (String.ofList cs).utf8ByteSize

def maxSimpleKey : Nat := 128

def isSimpleKey (cs : List Char) : Bool := !hasBreak cs && utf8Length cs ≤ maxSimpleKey

def renderKey (indent : Nat) (cs : List Char) : List Char :=
  if isSimpleKey cs then (render indent cs).dropLast ++ [':']
  else '?' :: ' ' :: render (indent + step) cs ++ pad indent ++ [':']

end Text

mutual

def block (indent : Nat) : Value → List Char
  | .null => "null\n".toList
  | .bool true => "true\n".toList
  | .bool false => "false\n".toList
  | .str s => Text.render indent s.toList
  | .seq [] => "[]\n".toList
  | .seq (v :: rest) => '-' :: ' ' :: block (indent + step) v ++ blockItems indent rest
  | .map [] => "\x7b\x7d\n".toList
  | .map ((k, v) :: rest) =>
    Text.renderKey indent k.toList ++ blockAfterKey indent v ++ blockMembers indent rest

def blockItems (indent : Nat) : List Value → List Char
  | [] => []
  | v :: rest => pad indent ++ '-' :: ' ' :: block (indent + step) v ++ blockItems indent rest

def blockMembers (indent : Nat) : List (String × Value) → List Char
  | [] => []
  | (k, v) :: rest =>
    pad indent ++ Text.renderKey indent k.toList ++ blockAfterKey indent v ++
      blockMembers indent rest

def blockAfterKey (indent : Nat) : Value → List Char
  | .seq (v :: rest) =>
    '\n' :: pad indent ++ '-' :: ' ' :: block (indent + step) v ++ blockItems indent rest
  | .map ((k, v) :: rest) =>
    '\n' :: pad (indent + step) ++ Text.renderKey (indent + step) k.toList ++
      blockAfterKey (indent + step) v ++ blockMembers (indent + step) rest
  | .null => " null\n".toList
  | .bool true => " true\n".toList
  | .bool false => " false\n".toList
  | .str s => ' ' :: Text.render (indent + step) s.toList
  | .seq [] => " []\n".toList
  | .map [] => " \x7b\x7d\n".toList

end

def Value.render (v : Value) : List Char := block 0 v

end Yaml
end FixtureLab
