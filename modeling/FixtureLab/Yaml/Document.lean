import FixtureLab.Table
import FixtureLab.Yaml.Node

/-!
This module contains YAML documents whose references are resolved, and the means to read typed
values out of them.
-/

namespace FixtureLab
namespace Yaml

abbrev Targets := List (Nat × Node Nat)

structure Document where
  root : Node Nat
  targets : Targets

namespace Node

abbrev Anchors := List (List Char × Nat)

def declare (p : Properties) (anchors : Anchors) : Anchors × Option Nat :=
  match p.anchor with
  | none => (anchors, none)
  | some name =>
    ((name, anchors.length) :: anchors.filter (·.1 ≠ name), some anchors.length)

def target (number? : Option Nat) (v : Node Nat) : Targets := number?.toList.map (·, v)

mutual

/--
Replace names by numbers. A reference leads to an anchor before it or around it. The targets are
listed in the order in which their nodes start.
-/
def link (anchors : Anchors) : Named → Option (Node Nat × Anchors × Targets)
  | .reference name => (anchors.lookup name).map fun number => (.reference number, anchors, [])
  | .scalar p style text =>
    let (anchors, number?) := declare p anchors
    let v := .scalar p style text
    some (v, anchors, target number? v)
  | .seq p items =>
    let (anchors, number?) := declare p anchors
    match linkItems anchors items with
    | none => none
    | some (items, anchors, targets) =>
      let v := .seq p items
      some (v, anchors, target number? v ++ targets)
  | .map p members =>
    let (anchors, number?) := declare p anchors
    match linkMembers anchors members with
    | none => none
    | some (members, anchors, targets) =>
      let v := .map p members
      some (v, anchors, target number? v ++ targets)

def linkItems (anchors : Anchors) : List Named → Option (List (Node Nat) × Anchors × Targets)
  | [] => some ([], anchors, [])
  | v :: rest =>
    match link anchors v with
    | none => none
    | some (v, anchors, targets) =>
      match linkItems anchors rest with
      | none => none
      | some (rest, anchors, others) => some (v :: rest, anchors, targets ++ others)

def linkMembers (anchors : Anchors) :
    List (Named × Named) → Option (List (Node Nat × Node Nat) × Anchors × Targets)
  | [] => some ([], anchors, [])
  | (k, v) :: rest =>
    match link anchors k with
    | none => none
    | some (k, anchors, keyTargets) =>
      match link anchors v with
      | none => none
      | some (v, anchors, targets) =>
        match linkMembers anchors rest with
        | none => none
        | some (rest, anchors, others) =>
          some ((k, v) :: rest, anchors, keyTargets ++ targets ++ others)

end

mutual

def size {α : Type} : Node α → Nat
  | .scalar .. => 1
  | .reference _ => 1
  | .seq _ items => sizeItems items + 2
  | .map _ members => sizeMembers members + 2

def sizeItems {α : Type} : List (Node α) → Nat
  | [] => 0
  | v :: rest => size v + sizeItems rest

def sizeMembers {α : Type} : List (Node α × Node α) → Nat
  | [] => 0
  | (k, v) :: rest => size k + size v + sizeMembers rest

end

end Node

namespace Document

def ofString? (s : String) : Option Document :=
  match Node.ofString? s with
  | none => none
  -- Of several nodes with one number, references lead to the last.
  | some v => (v.link []).map fun (root, _, targets) => { root, targets := targets.reverse }

/-- Reading typed values. The state is the number of references that may still be followed. -/
abbrev Decoder (α : Type) := ReaderT Targets (StateT Nat Option) α

def referencesPerMark : Nat := 100

def decode? {α : Type} (decoder : Node Nat → Decoder α) (d : Document) : Option α :=
  ((decoder d.root).run d.targets).run' (referencesPerMark * d.root.size)

namespace Decoder

def follow (v : Node Nat) : Decoder (Node Nat) := do
  match v with
  | .reference number =>
    match ← get with
    | 0 => failure
    | left + 1 =>
      set left
      match (← read).lookup number with
      | some v => return v
      | none => failure
  | v => return v

def text (v : Node Nat) : Decoder String := do
  match ← follow v with
  | .scalar _ _ text => return String.ofList text
  | _ => failure

def isMissing (style : Style) (text : List Char) : Bool := style = .plain && text.isEmpty

def isNull (style : Style) (text : List Char) : Bool :=
  style = .plain && (text.isEmpty || Scalar.isNull text)

def items (v : Node Nat) : Decoder (List (Node Nat)) := do
  match ← follow v with
  | .seq _ items => return items
  | .scalar _ style text => if isMissing style text then return [] else failure
  | _ => failure

def members (v : Node Nat) : Decoder (List (Node Nat × Node Nat)) := do
  match ← follow v with
  | .map _ members => return members
  | .scalar _ style text => if isMissing style text then return [] else failure
  | _ => failure

def entries (v : Node Nat) : Decoder (List (String × Node Nat)) := do
  (← members v).mapM fun (k, v) => return (← text k, v)

def record (known : List String) (v : Node Nat) : Decoder (List (String × Node Nat)) := do
  let found := (← entries v).filter (known.contains ·.1)
  if (found.map (·.1)).Nodup then return found else failure

def required {α : Type} (key : String) (decoder : Node Nat → Decoder α)
    (found : List (String × Node Nat)) : Decoder α :=
  match found.lookup key with
  | some v => decoder v
  | none => failure

def optional {α : Type} (key : String) (default : α) (decoder : Node Nat → Decoder α)
    (found : List (String × Node Nat)) : Decoder α :=
  match found.lookup key with
  | some v => decoder v
  | none => return default

def text? (v : Node Nat) : Decoder (Option String) := do
  match ← follow v with
  | .scalar p style text =>
    if style != .plain then return some (String.ofList text)
    match p.tag with
    | none => return if isNull style text then none else some (String.ofList text)
    | some tag =>
      if tag = "tag:yaml.org,2002:null".toList then
        if Scalar.isNull text then return none else failure
      else return some (String.ofList text)
  | _ => failure

/-- A truth value. Quotes make it a text, but a literal block with the tag of truth values is one.
-/
def bool (v : Node Nat) : Decoder Bool := do
  match ← follow v with
  | .scalar p style text =>
    if style = .plain || (style = .literal && p.tag = some "tag:yaml.org,2002:bool".toList) then
      match Scalar.bool? text with
      | some b => return b
      | none => failure
    else failure
  | _ => failure

def variant {α : Type} (ofName? : String → Option α) (v : Node Nat) : Decoder α := do
  match ← follow v with
  | .scalar p style text =>
    let name? : Option (List Char) :=
      match p.tag with
      | some ('!' :: name) => if isNull style text then some name else none
      | _ => some text
    match name?.bind (ofName? <| String.ofList ·) with
    | some a => return a
    | none => failure
  | _ => failure

def list {α : Type} (decoder : Node Nat → Decoder α) (v : Node Nat) : Decoder (List α) := do
  (← items v).mapM decoder

def table {α : Type} (decoder : Node Nat → Decoder α) (v : Node Nat) : Decoder (Table α) := do
  return Table.ofList (← (← entries v).mapM fun (k, v) => return (k, ← decoder v))

end Decoder

end Document

end Yaml
end FixtureLab
