import FixtureLab.Graph.Export
import FixtureLab.Tree.Path

/-!
This module contains the reading of command lines. A command line names a task, gives values to the
options of that task, and may ask for detailed errors.
-/

namespace FixtureLab
namespace Command

inductive TypeOrigin where
  | samples (pattern : String) (model : String)
  | document (path : Path)
deriving DecidableEq, Repr

inductive Task where
  | writeFixtures (directory : Path)
  | writeGraph (output : Path) (format : Graph.Format)
  | printUsages
  | writeTypes (pattern : String) (model : String) (output : Path)
  | writeSource (origin : TypeOrigin) (output : Path)
deriving DecidableEq, Repr

structure Invocation where
  task : Task
  verbose : Bool := false
deriving DecidableEq, Repr

inductive Stop where
  | misuse
  | helpWanted
  | versionWanted
deriving DecidableEq, Repr

inductive Slot where
  | output
  | format
  | types
  | model
  | pattern
deriving DecidableEq, Repr

structure Given where
  values : List (Slot × String) := []
  verbose : Bool := false
deriving Repr

namespace Given

def value? (g : Given) (slot : Slot) : Option String := g.values.lookup slot

def accepts : Slot → String → Bool
  | .output, s => !s.isEmpty
  | .types, s => !s.isEmpty
  | .format, s => (Graph.Format.ofName? s).isSome
  | _, _ => true

def give (slot : Slot) (s : String) (g : Given) : Except Stop Given :=
  if (g.value? slot).isSome || !accepts slot s then .error .misuse
  else .ok { g with values := (slot, s) :: g.values }

def beVerbose (g : Given) : Except Stop Given :=
  if g.verbose then .error .misuse else .ok { g with verbose := true }

end Given

inductive Verb where
  | makeJson
  | force
  | usageTree
  | jsonToTypes
  | jsonToSource
deriving DecidableEq, Repr

namespace Verb

def ofName? : String → Option Verb
  | "makejson" => some .makeJson
  | "force" => some .force
  | "usagetree" => some .usageTree
  | "json2type" => some .jsonToTypes
  | "json2rs" => some .jsonToSource
  | _ => none

def longOptions : Verb → List (String × Slot)
  | .makeJson => [("output", .output), ("outdir", .output)]
  | .force => [("output", .output), ("format", .format)]
  | .usageTree => []
  | .jsonToTypes => [("output", .output), ("model", .model)]
  | .jsonToSource => [("output", .output), ("model", .model), ("types", .types)]

def shortOptions : Verb → List (Char × Slot)
  | .makeJson => [('o', .output)]
  | .force => [('o', .output)]
  | .usageTree => []
  | .jsonToTypes => [('o', .output), ('m', .model)]
  | .jsonToSource => [('o', .output), ('m', .model), ('t', .types)]

def takesPattern : Verb → Bool
  | .jsonToTypes => true
  | .jsonToSource => true
  | _ => false

end Verb

inductive Argument where
  | separator
  | long (name : String) (value? : Option String)
  | short (letters : List Char)
  | plain (text : String)
deriving DecidableEq, Repr

def Argument.of (s : String) : Argument :=
  match s.toList with
  | ['-', '-'] => .separator
  | '-' :: '-' :: cs =>
    let name := cs.takeWhile (· != '=')
    match cs.dropWhile (· != '=') with
    | [] => .long (String.ofList name) none
    | _ :: value => .long (String.ofList name) (some (String.ofList value))
  | '-' :: c :: cs => .short (c :: cs)
  -- A single hyphen is no option.
  | _ => .plain s

def readLetters (verb : Verb) (g : Given) : List Char → Except Stop (Given × Option Slot)
  | [] => .ok (g, none)
  | c :: rest =>
    if c = 'v' then do readLetters verb (← g.beVerbose) rest
    else if c = 'h' then .error .helpWanted
    else
      match verb.shortOptions.lookup c with
      | none => .error .misuse
      | some slot =>
        match rest with
        | [] => .ok (g, some slot)
        | '=' :: value => do return (← g.give slot (String.ofList value), none)
        | value => do return (← g.give slot (String.ofList value), none)

def readPlain (verb : Verb) (g : Given) (s : String) : Except Stop Given :=
  if verb.takesPattern then g.give .pattern s else .error .misuse

def readLong (verb : Verb) (g : Given) (name : String) (value? : Option String) :
    Except Stop (Given × Option Slot) :=
  match name, value? with
  | "verbose", none => do return (← g.beVerbose, none)
  | "help", none => .error .helpWanted
  | _, _ =>
    match verb.longOptions.lookup name, value? with
    | some slot, some s => do return (← g.give slot s, none)
    | some slot, none => .ok (g, some slot)
    | none, _ => .error .misuse

def readArguments (verb : Verb) (g : Given) (pending : Option Slot) (onlyPlain : Bool) :
    List String → Except Stop Given
  | [] => if pending.isSome then .error .misuse else .ok g
  | s :: rest =>
    if onlyPlain then do readArguments verb (← readPlain verb g s) none true rest
    else
      match Argument.of s, pending with
      | .plain s, some slot => do readArguments verb (← g.give slot s) none false rest
      | _, some _ => .error .misuse
      | .plain s, none => do readArguments verb (← readPlain verb g s) none false rest
      | .separator, none => readArguments verb g none true rest
      | .long name value?, none => do
        let (g, pending) ← readLong verb g name value?
        readArguments verb g pending false rest
      | .short letters, none => do
        let (g, pending) ← readLetters verb g letters
        readArguments verb g pending false rest

def defaultModel : String := "Base"

def Given.task? (verb : Verb) (g : Given) : Option Task := do
  let model := (g.value? .model).getD defaultModel
  match verb with
  | .makeJson => return .writeFixtures (← g.value? .output)
  | .force =>
    let format ← Graph.Format.ofName? ((g.value? .format).getD "js")
    return .writeGraph (← g.value? .output) format
  | .usageTree => return .printUsages
  | .jsonToTypes => return .writeTypes (← g.value? .pattern) model (← g.value? .output)
  | .jsonToSource =>
    let output ← g.value? .output
    match g.value? .pattern, g.value? .types with
    | some pattern, none => return .writeSource (.samples pattern model) output
    | none, some path => return .writeSource (.document path) output
    | _, _ => none

def readGlobalLetters (verbose : Bool) : List Char → Except Stop Bool
  | [] => .ok verbose
  | 'v' :: rest => if verbose then .error .misuse else readGlobalLetters true rest
  | 'h' :: _ => .error .helpWanted
  | 'V' :: _ => .error .versionWanted
  | _ => .error .misuse

def readHelp : List String → Stop
  | [] => .helpWanted
  | [s] => if (Verb.ofName? s).isSome || s = "help" then .helpWanted else .misuse
  | _ => .misuse

def parseFrom (verbose : Bool) : List String → Except Stop Invocation
  | [] => .error .misuse
  | s :: rest =>
    match Argument.of s with
    | .long "verbose" none => if verbose then .error .misuse else parseFrom true rest
    | .long "help" none => .error .helpWanted
    | .long "version" none => .error .versionWanted
    | .short letters => do parseFrom (← readGlobalLetters verbose letters) rest
    | .plain "help" => .error (readHelp rest)
    | .plain name =>
      match Verb.ofName? name with
      | none => .error .misuse
      | some verb => do
        let g ← readArguments verb {} none false rest
        match g.task? verb with
        | some task => return { task, verbose := verbose || g.verbose }
        | none => .error .misuse
    | _ => .error .misuse

def parse (args : List String) : Except Stop Invocation := parseFrom false args

end Command
end FixtureLab
