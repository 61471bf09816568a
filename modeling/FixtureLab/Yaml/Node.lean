import FixtureLab.Yaml.Token

/-!
This module contains YAML documents as trees of nodes, which are read from tokens. What a document
leaves out, such as the value of a key, is an empty plain scalar.
-/

namespace FixtureLab
namespace Yaml

structure Properties where
  anchor : Option (List Char) := none
  tag : Option (List Char) := none
deriving DecidableEq, Repr

namespace Properties

def ofScalar (p : Properties) : Properties :=
  if p.tag = some ['!'] then { p with tag := none } else p

end Properties

inductive Node (α : Type) where
  | scalar (properties : Properties) (style : Style) (text : List Char)
  | seq (properties : Properties) (items : List (Node α))
  | map (properties : Properties) (members : List (Node α × Node α))
  | reference (target : α)
deriving Repr

namespace Node

instance {α : Type} : Inhabited (Node α) := ⟨.scalar {} .plain []⟩

def missing {α : Type} : Node α := .scalar {} .plain []

abbrev Named := Node (List Char)

abbrev Handles := List (List Char × List Char)

def defaultHandles : Handles :=
  [(['!'], ['!']), (['!', '!'], "tag:yaml.org,2002:".toList)]

def tagText? (handles : Handles) (tag : Tag) : Option (List Char) :=
  if tag.handle.isEmpty then some tag.suffix
  else (handles.lookup tag.handle).map (· ++ tag.suffix)

def properties? (handles : Handles) : List Token → Option (Properties × List Token)
  | .anchor name :: .tag tag :: rest =>
    (tagText? handles tag).map fun text => (⟨some name, some text⟩, rest)
  | .tag tag :: .anchor name :: rest =>
    (tagText? handles tag).map fun text => (⟨some name, some text⟩, rest)
  | .anchor name :: rest => some (⟨some name, none⟩, rest)
  | .tag tag :: rest => (tagText? handles tag).map fun text => (⟨none, some text⟩, rest)
  | rest => some ({}, rest)

inductive Position where
  | flow
  | block
  | member
deriving DecidableEq, Repr

def leftOut (tokens : List Token) : List Token → Bool
  | [] => false
  | t :: _ => tokens.contains t

def afterComma : List Token → Option (List Token)
  | .comma :: rest => some rest
  | _ => none

mutual

def node (handles : Handles) : Nat → Position → List Token → Option (Named × List Token)
  | 0, _, _ => none
  | fuel + 1, position, tokens =>
    match tokens with
    | .reference name :: rest => some (.reference name, rest)
    | _ =>
      match properties? handles tokens with
      | none => none
      | some (properties, tokens) =>
        match tokens, position with
        | .scalar style text :: rest, _ =>
          some (.scalar (Properties.ofScalar properties) style text, rest)
        | .openSeq :: rest, _ =>
          (flowItems handles fuel true rest).map fun (items, rest) => (.seq properties items, rest)
        | .openMap :: rest, _ =>
          (flowMembers handles fuel true rest).map fun (members, rest) =>
            (.map properties members, rest)
        | .item :: _, .member =>
          (openItems handles fuel tokens).map fun (items, rest) => (.seq properties items, rest)
        | .blockSeq :: rest, .block | .blockSeq :: rest, .member =>
          (blockItems handles fuel rest).map fun (items, rest) => (.seq properties items, rest)
        | .blockMap :: rest, .block | .blockMap :: rest, .member =>
          (blockMembers handles fuel rest).map fun (members, rest) =>
            (.map properties members, rest)
        | _, _ =>
          if properties = {} then none else some (.scalar properties .plain [], tokens)

def nodeBefore (handles : Handles) : Nat → Position → List Token → List Token →
    Option (Named × List Token)
  | 0, _, _, _ => none
  | fuel + 1, position, ends, tokens =>
    if leftOut ends tokens then some (missing, tokens) else node handles fuel position tokens

def blockItems (handles : Handles) : Nat → List Token → Option (List Named × List Token)
  | 0, _ => none
  | fuel + 1, tokens =>
    match tokens with
    | .item :: rest =>
      match nodeBefore handles fuel .block [.item, .blockEnd] rest with
      | none => none
      | some (v, rest) =>
        (blockItems handles fuel rest).map fun (items, rest) => (v :: items, rest)
    | .blockEnd :: rest => some ([], rest)
    | _ => none

def openItems (handles : Handles) : Nat → List Token → Option (List Named × List Token)
  | 0, _ => none
  | fuel + 1, tokens =>
    match tokens with
    | .item :: rest =>
      match nodeBefore handles fuel .block [.item, .key, .value, .blockEnd] rest with
      | none => none
      | some (v, rest) =>
        (openItems handles fuel rest).map fun (items, rest) => (v :: items, rest)
    | _ => some ([], tokens)

def blockMembers (handles : Handles) :
    Nat → List Token → Option (List (Named × Named) × List Token)
  | 0, _ => none
  | fuel + 1, tokens =>
    match tokens with
    | .key :: rest =>
      match nodeBefore handles fuel .member [.key, .value, .blockEnd] rest with
      | none => none
      | some (k, rest) =>
        match memberValue handles fuel .member [.key, .value, .blockEnd] rest with
        | none => none
        | some (v, rest) =>
          (blockMembers handles fuel rest).map fun (members, rest) => ((k, v) :: members, rest)
    | .blockEnd :: rest => some ([], rest)
    | _ => none

def memberValue (handles : Handles) : Nat → Position → List Token → List Token →
    Option (Named × List Token)
  | 0, _, _, _ => none
  | fuel + 1, position, ends, tokens =>
    match tokens with
    | .value :: rest => nodeBefore handles fuel position ends rest
    | _ => some (missing, tokens)

def flowItems (handles : Handles) : Nat → Bool → List Token → Option (List Named × List Token)
  | 0, _, _ => none
  | fuel + 1, first, tokens =>
    match tokens with
    | .closeSeq :: rest => some ([], rest)
    | _ =>
      let tokens? := if first then some tokens else afterComma tokens
      match tokens? with
      | none => none
      | some (.closeSeq :: rest) => some ([], rest)
      | some (.key :: rest) =>
        match flowPair handles fuel rest with
        | none => none
        | some (pair, rest) =>
          (flowItems handles fuel false rest).map fun (items, rest) =>
            (.map {} [pair] :: items, rest)
      | some tokens =>
        match node handles fuel .flow tokens with
        | none => none
        | some (v, rest) =>
          (flowItems handles fuel false rest).map fun (items, rest) => (v :: items, rest)

/--
Read the only member of a mapping in a flow sequence. If its key is left out, the token behind the
mark of the key is passed over.
-/
def flowPair (handles : Handles) : Nat → List Token → Option ((Named × Named) × List Token)
  | 0, _ => none
  | fuel + 1, tokens =>
    let ends : List Token := [.comma, .closeSeq]
    let key? : Option (Named × List Token) :=
      if leftOut (.value :: ends) tokens then some (missing, tokens.drop 1)
      else node handles fuel .flow tokens
    match key? with
    | none => none
    | some (k, rest) =>
      (memberValue handles fuel .flow ends rest).map fun (v, rest) => ((k, v), rest)

def flowMembers (handles : Handles) :
    Nat → Bool → List Token → Option (List (Named × Named) × List Token)
  | 0, _, _ => none
  | fuel + 1, first, tokens =>
    let ends : List Token := [.comma, .closeMap]
    match tokens with
    | .closeMap :: rest => some ([], rest)
    | _ =>
      let tokens? := if first then some tokens else afterComma tokens
      match tokens? with
      | none => none
      | some (.closeMap :: rest) => some ([], rest)
      | some (.key :: rest) =>
        match nodeBefore handles fuel .flow (.value :: ends) rest with
        | none => none
        | some (k, rest) =>
          match memberValue handles fuel .flow ends rest with
          | none => none
          | some (v, rest) =>
            (flowMembers handles fuel false rest).map fun (members, rest) =>
              ((k, v) :: members, rest)
      | some tokens =>
        match node handles fuel .flow tokens with
        | none => none
        | some (k, rest) =>
          (flowMembers handles fuel false rest).map fun (members, rest) =>
            ((k, missing) :: members, rest)

end

def directives (version : Bool) (handles : Handles) : List Token → Option (Handles × List Token)
  | .directive (.version major minor) :: rest =>
    if version || major != 1 || (minor != 1 && minor != 2) then none
    else directives true handles rest
  | .directive (.handle name stem) :: rest =>
    if (handles.lookup name).isSome then none
    else directives version ((name, stem) :: handles) rest
  | rest => some (handles, rest)

def content (handles : Handles) (fuel : Nat) (tokens : List Token) :
    Option (Named × List Token) :=
  match tokens with
  | [] | .directive _ :: _ | .documentStart :: _ | .documentEnd :: _ => some (missing, tokens)
  | _ => node handles fuel .block tokens

def document (tokens : List Token) : Option (Named × List Token) :=
  let fuel := 3 * tokens.length + 3
  match tokens with
  | [] => some (missing, [])
  | .documentStart :: rest => content defaultHandles fuel rest
  | .directive _ :: _ =>
    match directives false [] tokens with
    | some (handles, .documentStart :: rest) => content (handles ++ defaultHandles) fuel rest
    | _ => none
  | _ => node defaultHandles fuel .block tokens

def ofTokens? (tokens : List Token) : Option Named :=
  match document tokens with
  | some (v, rest) => if rest.all (· = .documentEnd) then some v else none
  | none => none

def ofString? (s : String) : Option Named := (tokens? s.toList).bind ofTokens?

end Node

end Yaml
end FixtureLab
