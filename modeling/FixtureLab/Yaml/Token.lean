import FixtureLab.Yaml.BlockScalar
import FixtureLab.Yaml.FlowScalar
import FixtureLab.Yaml.Property

/-!
This module contains the tokens of YAML text. Indentation becomes tokens too: a block starts where a
line is indented further than the lines before, and it ends where a later line is indented less. A
key that is not marked is recognized only by the colon behind it, so that its token is inserted
afterwards.
-/

namespace FixtureLab
namespace Yaml

inductive Token where
  | directive (directive : Directive)
  | documentStart
  | documentEnd
  | blockSeq
  | blockMap
  | blockEnd
  | openSeq
  | closeSeq
  | openMap
  | closeMap
  | item
  | comma
  | key
  | value
  | reference (name : List Char)
  | anchor (name : List Char)
  | tag (tag : Tag)
  | scalar (style : Style) (text : List Char)
deriving DecidableEq, Repr

structure KeyStart where
  required : Bool
  index : Nat
  line : Nat
  column : Nat
deriving DecidableEq, Repr

/-- The state of reading tokens. Open blocks and outer keys are listed innermost first, the tokens
in reverse order. -/
structure Lexer where
  rest : Source
  indents : List Nat := []
  key : Option KeyStart := none
  outerKeys : List (Option KeyStart) := []
  keyAllowed : Bool := true
  tokens : List Token := []
  count : Nat := 0
deriving Repr

namespace Lexer

def inFlow (l : Lexer) : Bool := !l.outerKeys.isEmpty

def emit (t : Token) (l : Lexer) : Lexer := { l with tokens := t :: l.tokens, count := l.count + 1 }

def insert (index : Nat) (t : Token) (l : Lexer) : Lexer :=
  { l with tokens := l.tokens.insertIdx (l.count - index) t, count := l.count + 1 }

def dropKey (l : Lexer) : Option Lexer :=
  match l.key with
  | some k => if k.required then none else some { l with key := none }
  | none => some l

def saveKey (p : Placed) (l : Lexer) : Option Lexer :=
  if l.keyAllowed then
    l.dropKey.map fun l =>
      { l with
        key := some {
          required := !l.inFlow && l.indents.head? = some p.column
          index := l.count
          line := p.line
          column := p.column } }
  else some l

/-- A key ends on the line where it starts, after at most this many characters. -/
def maxKeyLength : Nat := 1024

def refreshKey (p : Placed) : Option KeyStart → Option (Option KeyStart)
  | some k =>
    if k.line < p.line || k.column + maxKeyLength < p.column then
      if k.required then none else some none
    else some (some k)
  | none => some none

def refreshKeys (p : Placed) (l : Lexer) : Option Lexer := do
  let key ← refreshKey p l.key
  let outerKeys ← l.outerKeys.mapM (refreshKey p)
  return { l with key, outerKeys }

def openBlock (column index : Nat) (t : Token) (l : Lexer) : Lexer :=
  if l.inFlow || !l.indents.head?.all (· < column) then l
  else { l.insert index t with indents := column :: l.indents }

def closeBlocks (column : Option Nat) (l : Lexer) : Lexer :=
  if l.inFlow then l
  else
    let closes (indent : Nat) : Bool := column.all (· < indent)
    let n := (l.indents.takeWhile closes).length
    { l with
      indents := l.indents.dropWhile closes
      tokens := List.replicate n .blockEnd ++ l.tokens
      count := l.count + n }

def skip (flow keyAllowed inComment : Bool) : Source → Bool × Source
  | [] => (keyAllowed, [])
  | p :: rest =>
    if isBreak p.char then skip flow (keyAllowed || !flow) false rest
    else if inComment then skip flow keyAllowed true rest
    else if p.char = '#' then skip flow keyAllowed true rest
    else if p.char = ' ' || (p.char = '\t' && (flow || !keyAllowed)) then
      skip flow keyAllowed false rest
    else (keyAllowed, p :: rest)

def readEdge (t : Token) (rest : Source) (l : Lexer) : Option Lexer :=
  (l.closeBlocks none).dropKey.map fun l => { l.emit t with rest, keyAllowed := false }

def readOpen (t : Token) (p : Placed) (rest : Source) (l : Lexer) : Option Lexer :=
  (l.saveKey p).map fun l =>
    { l.emit t with rest, key := none, outerKeys := l.key :: l.outerKeys, keyAllowed := true }

def readClose (t : Token) (rest : Source) (l : Lexer) : Option Lexer :=
  l.dropKey.map fun l =>
    let l := match l.outerKeys with
      | key :: outerKeys => { l with key, outerKeys }
      | [] => l
    { l.emit t with rest, keyAllowed := false }

def readComma (rest : Source) (l : Lexer) : Option Lexer :=
  l.dropKey.map fun l => { l.emit .comma with rest, keyAllowed := true }

def readItem (p : Placed) (rest : Source) (l : Lexer) : Option Lexer :=
  if !l.inFlow && !l.keyAllowed then none
  else
    (l.openBlock p.column l.count .blockSeq).dropKey.map fun l =>
      { l.emit .item with rest, keyAllowed := true }

def readKey (p : Placed) (rest : Source) (l : Lexer) : Option Lexer :=
  if !l.inFlow && !l.keyAllowed then none
  else
    (l.openBlock p.column l.count .blockMap).dropKey.map fun l =>
      { l.emit .key with rest, keyAllowed := !l.inFlow }

def readValue (p : Placed) (rest : Source) (l : Lexer) : Option Lexer :=
  match l.key with
  | some k =>
    let l := (l.insert k.index .key).openBlock k.column k.index .blockMap
    some { l.emit .value with rest, key := none, keyAllowed := false }
  | none =>
    if !l.inFlow && !l.keyAllowed then none
    else
      let l := l.openBlock p.column l.count .blockMap
      some { l.emit .value with rest, keyAllowed := !l.inFlow }

def readInline (t : Token) (p : Placed) (rest : Source) (l : Lexer) : Option Lexer :=
  (l.saveKey p).map fun l => { l.emit t with rest, keyAllowed := false }

def readBlockScalar (folded : Bool) (rest : Source) (l : Lexer) : Option Lexer := do
  let l ← l.dropKey
  let (text, rest) ← Source.blockScalar folded l.indents.head? rest
  let style := if folded then .folded else .literal
  return { l.emit (.scalar style text) with rest, keyAllowed := true }

def readPlain (p : Placed) (s : Source) (l : Lexer) : Option Lexer := do
  let indent := (l.indents.head?.map (· + 1)).getD 0
  let (text, broken, rest) ← Source.plain l.inFlow indent .empty s
  let l ← l.readInline (.scalar .plain text) p rest
  return { l with keyAllowed := broken }

def isIndicator (c : Char) : Bool :=
  Source.isFlowIndicator c || "-?:#&*!|>\'\"%@\x60".toList.contains c

def read (p : Placed) (rest : Source) (l : Lexer) : Option Lexer :=
  let s : Source := p :: rest
  if p.column = 0 && p.char = '%' then do
    let (directive, rest) ← Source.directive? rest
    l.readEdge (.directive directive) rest
  else if Source.atMarker '-' s then l.readEdge .documentStart (s.drop 3)
  else if Source.atMarker '.' s then l.readEdge .documentEnd (s.drop 3)
  else if p.char = '[' then l.readOpen .openSeq p rest
  else if p.char = '\x7b' then l.readOpen .openMap p rest
  else if p.char = ']' then l.readClose .closeSeq rest
  else if p.char = '\x7d' then l.readClose .closeMap rest
  else if p.char = ',' then l.readComma rest
  else if p.char = '-' && Source.atSpace rest then l.readItem p rest
  else if p.char = '?' && (l.inFlow || Source.atSpace rest) then l.readKey p rest
  else if p.char = ':' && (l.inFlow || Source.atSpace rest) then l.readValue p rest
  else if p.char = '*' then do
    let (name, rest) ← Source.anchorName? rest
    l.readInline (.reference name) p rest
  else if p.char = '&' then do
    let (name, rest) ← Source.anchorName? rest
    l.readInline (.anchor name) p rest
  else if p.char = '!' then do
    let (tag, rest) ← Source.tag? l.inFlow rest
    l.readInline (.tag tag) p rest
  else if p.char = '|' && !l.inFlow then l.readBlockScalar false rest
  else if p.char = '>' && !l.inFlow then l.readBlockScalar true rest
  else if p.char = '\'' then do
    let (text, rest) ← Source.singleQuoted .empty rest
    l.readInline (.scalar .singleQuoted text) p rest
  else if p.char = '"' then do
    let (text, rest) ← Source.doubleQuoted (.text .empty) rest
    l.readInline (.scalar .doubleQuoted text) p rest
  else if p.char = '-' || (!l.inFlow && (p.char = '?' || p.char = ':')) ||
      !(isBlank p.char || isIndicator p.char) then
    l.readPlain p s
  else none

def finish (l : Lexer) : Option (List Token) :=
  (l.closeBlocks none).dropKey.map (·.tokens.reverse)

def run : Nat → Lexer → Option (List Token)
  | 0, _ => none
  | steps + 1, l =>
    match skip l.inFlow l.keyAllowed false l.rest with
    | (_, []) => l.finish
    | (keyAllowed, p :: rest) =>
      match ({ l with keyAllowed } : Lexer).refreshKeys p with
      | none => none
      | some l =>
        match (l.closeBlocks (some p.column)).read p rest with
        | none => none
        | some l => run steps l

end Lexer

def tokens? (cs : List Char) : Option (List Token) :=
  match Source.ofChars? cs with
  | some s => Lexer.run (s.length + 1) { rest := s }
  | none => none

end Yaml
end FixtureLab
