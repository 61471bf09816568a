import FixtureLab.Proofs.Yaml.BlockTokens
import FixtureLab.Yaml.Document

/-!
This module contains the node of a value, and that it is what is read of the tokens of the value.
-/

namespace FixtureLab
namespace Yaml

namespace Value

variable {α : Type}

theorem tokens_ne_nil (ofMember : Bool) (v : Value) : v.tokens ofMember ≠ [] := by
  match v, ofMember with
  | .null, _ | .bool true, _ | .bool false, _ | .str _, _ | .seq [], _ | .map [], _ =>
    exact List.cons_ne_nil _ _
  | .seq (_ :: _), false | .seq (_ :: _), true | .map (_ :: _), _ => exact List.cons_ne_nil _ _

def textNode (s : String) : Node α := .scalar {} (Text.style s.toList) s.toList

mutual

def node : Value → Node α
  | .null => .scalar {} .plain "null".toList
  | .bool true => .scalar {} .plain "true".toList
  | .bool false => .scalar {} .plain "false".toList
  | .str s => textNode s
  | .seq items => .seq {} (itemNodes items)
  | .map members => .map {} (memberNodes members)

def itemNodes : List Value → List (Node α)
  | [] => []
  | v :: rest => node v :: itemNodes rest

def memberNodes : List (String × Value) → List (Node α × Node α)
  | [] => []
  | (k, v) :: rest => (textNode k, node v) :: memberNodes rest

end

end Value

namespace Node

open Value (textNode)

variable {handles : Handles} {fuel : Nat} {position : Position} {rest : List Token}

theorem node_scalar {style : Style} {text : List Char} :
    node handles (fuel + 1) position (.scalar style text :: rest)
      = some (.scalar {} style text, rest) := rfl

theorem node_item : node handles (fuel + 1) .member (.item :: rest)
    = (openItems handles fuel (.item :: rest)).map fun (items, rest) => (.seq {} items, rest) := rfl

theorem node_blockSeq : node handles (fuel + 1) .block (.blockSeq :: rest)
    = (blockItems handles fuel rest).map fun (items, rest) => (.seq {} items, rest) := rfl

theorem node_blockMap (h : position ≠ .flow) : node handles (fuel + 1) position (.blockMap :: rest)
    = (blockMembers handles fuel rest).map fun (members, rest) => (.map {} members, rest) := by
  cases position with
  | flow => exact absurd rfl h
  | block => rfl
  | member => rfl

theorem nodeBefore_of_not_mem {t : Token} {ends : List Token} (h : t ∉ ends) :
    nodeBefore handles (fuel + 1) position ends (t :: rest)
      = node handles fuel position (t :: rest) := by
  simp [nodeBefore, leftOut, h]

theorem nodeBefore_tokens {ofMember : Bool} {ends : List Token}
    (hends : ∀ t ∈ ends, t ∈ [.key, .value, .blockEnd] ∨ ofMember = false ∧ t = .item) (v : Value) :
    nodeBefore handles (fuel + 1) position ends (v.tokens ofMember ++ rest)
      = node handles fuel position (v.tokens ofMember ++ rest) := by
  have hstart : ∀ t ts, v.tokens ofMember = t :: ts → t ∉ ends := by
    rintro t ts heq hmem
    have h := hends t hmem
    match v, ofMember with
    | .null, _ | .bool true, _ | .bool false, _ | .str _, _ | .seq [], _ | .map [], _ =>
      simp only [Value.tokens, textToken, List.cons.injEq] at heq
      simp [← heq.1] at h
    | .seq (_ :: _), false | .seq (_ :: _), true | .map (_ :: _), _ =>
      simp [Value.tokens] at heq
      simp [← heq.1] at h
  obtain ⟨t, ts, htokens⟩ := List.exists_cons_of_ne_nil (v.tokens_ne_nil ofMember)
  rw [htokens]
  exact nodeBefore_of_not_mem (hstart t ts htokens)

def valuePosition (ofMember : Bool) : Position := if ofMember then .member else .block

theorem valuePosition_ne_flow (ofMember : Bool) : valuePosition ofMember ≠ .flow := by
  cases ofMember <;> decide

theorem blockItems_item {v : Named} {rest' : List Token}
    (h : nodeBefore handles fuel .block [.item, .blockEnd] rest = some (v, rest')) :
    blockItems handles (fuel + 1) (.item :: rest)
      = (blockItems handles fuel rest').map fun (items, rest) => (v :: items, rest) := by
  rw [blockItems, h]

theorem openItems_item {v : Named} {rest' : List Token}
    (h : nodeBefore handles fuel .block [.item, .key, .value, .blockEnd] rest = some (v, rest')) :
    openItems handles (fuel + 1) (.item :: rest)
      = (openItems handles fuel rest').map fun (items, rest) => (v :: items, rest) := by
  rw [openItems, h]

theorem openItems_end (h : rest.head? ≠ some .item) :
    openItems handles (fuel + 1) rest = some ([], rest) := by
  rw [openItems]
  rintro rest' rfl
  exact h rfl

theorem blockMembers_key {k v : Named} {rest' rest'' : List Token}
    (hkey : nodeBefore handles (fuel + 1) .member [.key, .value, .blockEnd] rest
      = some (k, .value :: rest'))
    (hvalue : nodeBefore handles fuel .member [.key, .value, .blockEnd] rest'
      = some (v, rest'')) :
    blockMembers handles (fuel + 2) (.key :: rest)
      = (blockMembers handles (fuel + 1) rest'').map
        fun (members, rest) => ((k, v) :: members, rest) := by
  have hmember : memberValue handles (fuel + 1) .member [.key, .value, .blockEnd] (.value :: rest')
      = some (v, rest'') := hvalue
  rw [blockMembers, hkey]
  simp only [hmember]

theorem nodeBefore_key {k : String} :
    nodeBefore handles (fuel + 2) .member [.key, .value, .blockEnd] (textToken k :: rest)
      = some (textNode k, rest) :=
  (nodeBefore_of_not_mem (by simp [textToken])).trans node_scalar

mutual

theorem node_tokens (v : Value) (ofMember : Bool) (fuel : Nat) (rest : List Token)
    (hfuel : 3 * (v.tokens ofMember).length + 1 < fuel)
    (hrest : ofMember = true → rest.head? ≠ some .item) :
    node handles fuel (valuePosition ofMember) (v.tokens ofMember ++ rest)
      = some (v.node, rest) := by
  match v, fuel with
  | .null, fuel + 1 => exact node_scalar
  | .bool true, fuel + 1 => exact node_scalar
  | .bool false, fuel + 1 => exact node_scalar
  | .str s, fuel + 1 => exact node_scalar
  | .seq [], fuel + 2 => rfl
  | .map [], fuel + 2 => rfl
  | .seq (v :: items), fuel + 1 =>
    cases ofMember with
    | false =>
      have hitems := blockItems_tokens (v :: items) fuel rest (by
        simp [Value.tokens, Value.itemTokens] at hfuel ⊢
        omega)
      have htokens : (Value.seq (v :: items)).tokens false ++ rest
          = .blockSeq :: (Value.itemTokens (v :: items) ++ .blockEnd :: rest) := by
        simp [Value.tokens, Value.itemTokens]
      rw [htokens]
      exact node_blockSeq.trans (by rw [hitems]; rfl)
    | true =>
      have hitems := openItems_tokens (v :: items) fuel rest (by
        simp [Value.tokens, Value.itemTokens] at hfuel ⊢
        omega) (hrest rfl)
      have htokens : (Value.seq (v :: items)).tokens true ++ rest
          = Value.itemTokens (v :: items) ++ rest := by
        simp [Value.tokens, Value.itemTokens]
      have hitem := @node_item handles fuel ((v.tokens false ++ Value.itemTokens items) ++ rest)
      rw [← List.cons_append, ← List.cons_append, ← Value.itemTokens, hitems] at hitem
      rw [htokens]
      exact hitem
  | .map ((k, v) :: members), fuel + 1 =>
    have hmembers := blockMembers_tokens ((k, v) :: members) fuel rest (by
      simp [Value.tokens, Value.memberTokens] at hfuel ⊢
      omega)
    have htokens : (Value.map ((k, v) :: members)).tokens ofMember ++ rest
        = .blockMap :: (Value.memberTokens ((k, v) :: members) ++ .blockEnd :: rest) := by
      simp [Value.tokens, Value.memberTokens]
    rw [htokens]
    exact (node_blockMap (valuePosition_ne_flow _)).trans (by rw [hmembers]; rfl)

theorem blockItems_tokens (vs : List Value) (fuel : Nat) (rest : List Token)
    (hfuel : 3 * (Value.itemTokens vs).length < fuel) :
    blockItems handles fuel (Value.itemTokens vs ++ .blockEnd :: rest)
      = some (Value.itemNodes vs, rest) := by
  match vs, fuel with
  | [], fuel + 1 => rfl
  | v :: vs, fuel + 2 =>
    simp only [Value.itemTokens, List.length_append, List.length_cons] at hfuel
    have hvalue := node_tokens v false fuel (Value.itemTokens vs ++ .blockEnd :: rest) (by omega)
      (fun h => nomatch h)
    have hitems := blockItems_tokens vs (fuel + 1) rest (by omega)
    rw [Value.itemTokens, List.cons_append, List.cons_append, List.append_assoc,
      blockItems_item ((nodeBefore_tokens (by decide) v).trans hvalue), hitems]
    rfl

theorem openItems_tokens (vs : List Value) (fuel : Nat) (rest : List Token)
    (hfuel : 3 * (Value.itemTokens vs).length < fuel) (hrest : rest.head? ≠ some .item) :
    openItems handles fuel (Value.itemTokens vs ++ rest) = some (Value.itemNodes vs, rest) := by
  match vs, fuel with
  | [], fuel + 1 => exact openItems_end hrest
  | v :: vs, fuel + 2 =>
    simp only [Value.itemTokens, List.length_append, List.length_cons] at hfuel
    have hvalue := node_tokens v false fuel (Value.itemTokens vs ++ rest) (by omega)
      (fun h => nomatch h)
    have hitems := openItems_tokens vs (fuel + 1) rest (by omega) hrest
    rw [Value.itemTokens, List.cons_append, List.cons_append, List.append_assoc,
      openItems_item ((nodeBefore_tokens (by decide) v).trans hvalue), hitems]
    rfl

theorem blockMembers_tokens (ms : List (String × Value)) (fuel : Nat) (rest : List Token)
    (hfuel : 3 * (Value.memberTokens ms).length < fuel) :
    blockMembers handles fuel (Value.memberTokens ms ++ .blockEnd :: rest)
      = some (Value.memberNodes ms, rest) := by
  match ms, fuel with
  | [], fuel + 1 => rfl
  | (k, v) :: ms, fuel + 3 =>
    simp only [Value.memberTokens, List.length_append, List.length_cons] at hfuel
    have hrest : (Value.memberTokens ms ++ .blockEnd :: rest).head? ≠ some .item := by
      cases ms <;> simp [Value.memberTokens]
    have hvalue := node_tokens v true fuel (Value.memberTokens ms ++ .blockEnd :: rest) (by omega)
      fun _ => hrest
    have hmembers := blockMembers_tokens ms (fuel + 2) rest (by omega)
    have htokens : Value.memberTokens ((k, v) :: ms) ++ .blockEnd :: rest
        = .key :: textToken k :: .value ::
          (v.tokens true ++ (Value.memberTokens ms ++ .blockEnd :: rest)) := by
      simp [Value.memberTokens]
    rw [htokens]
    exact (blockMembers_key nodeBefore_key ((nodeBefore_tokens (by decide) v).trans hvalue)).trans
      (by rw [hmembers]; rfl)

end

theorem ofTokens?_tokens {v : Value} (hv : v.isInline = false) :
    ofTokens? (v.tokens false) = some v.node := by
  have hnode := @node_tokens defaultHandles v false (3 * (v.tokens false).length + 3) []
    (by omega) fun h => nomatch h
  rw [List.append_nil] at hnode
  have hdocument : document (v.tokens false) = some (v.node, []) := by
    match v with
    | .seq (_ :: _) | .map (_ :: _) => exact hnode
  rw [ofTokens?, hdocument]
  rfl

theorem ofString?_render {v : Value} (hv : v.isInline = false) :
    Node.ofString? (String.ofList v.render) = some v.node := by
  rw [Node.ofString?, String.toList_ofList, tokens?_render hv, Option.bind_some,
    ofTokens?_tokens hv]

mutual

theorem link_node (anchors : Anchors) (v : Value) :
    link anchors v.node = some (v.node, anchors, []) := by
  match v with
  | .null | .bool true | .bool false | .str _ => rfl
  | .seq items =>
    have hitems := linkItems_nodes anchors items
    simp [Value.node, link, declare, target, hitems]
  | .map members =>
    have hmembers := linkMembers_nodes anchors members
    simp [Value.node, link, declare, target, hmembers]

theorem linkItems_nodes (anchors : Anchors) (vs : List Value) :
    linkItems anchors (Value.itemNodes vs) = some (Value.itemNodes vs, anchors, []) := by
  match vs with
  | [] => rfl
  | v :: vs =>
    have hvalue := link_node anchors v
    have hitems := linkItems_nodes anchors vs
    simp [Value.itemNodes, linkItems, hvalue, hitems]

theorem linkMembers_nodes (anchors : Anchors) (ms : List (String × Value)) :
    linkMembers anchors (Value.memberNodes ms) = some (Value.memberNodes ms, anchors, []) := by
  match ms with
  | [] => rfl
  | (k, v) :: ms =>
    have hkey : link anchors (textNode k) = some (textNode k, anchors, []) := rfl
    have hvalue := link_node anchors v
    have hmembers := linkMembers_nodes anchors ms
    simp [Value.memberNodes, linkMembers, hkey, hvalue, hmembers]

end

end Node

theorem Document.ofString?_render {v : Value} (hv : v.isInline = false) :
    Document.ofString? (String.ofList v.render) = some ⟨v.node, []⟩ := by
  simp [Document.ofString?, Node.ofString?_render hv, Node.link_node]

end Yaml
end FixtureLab
