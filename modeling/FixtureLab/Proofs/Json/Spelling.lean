import FixtureLab.Json.Printer
import FixtureLab.Json.Raw
import FixtureLab.Proofs.Decimal.Literal

/-!
This module contains how a value is spelled: the document that its text is read as, and the tokens
of a document. A document is read from its tokens.
-/

namespace FixtureLab
namespace Json

namespace Piece

def ofChar (c : Char) : Piece :=
  if c.toNat < 0x20 ∧ c ∉ ['\x08', '\x0c', '\n', '\r', '\t'] then .unit c.toNat else .char c

theorem text?_cons_ofChar (c : Char) (pieces : List Piece) :
    text? (ofChar c :: pieces) = (text? pieces).map (c :: ·) := by
  unfold ofChar
  split
  . next h =>
    have hlow : c.toNat < highSurrogate := Nat.lt_trans h.1 (by decide)
    rw [text?.eq_def]
    simp [hlow, Char.ofNat_toNat]
  . rfl

theorem text?_map_ofChar (cs : List Char) : text? (cs.map ofChar) = some cs := by
  induction cs with
  | nil => rfl
  | cons c cs ih => rw [List.map_cons, text?_cons_ofChar, ih, Option.map_some]

end Piece

def pieces (s : String) : List Piece := s.toList.map Piece.ofChar

@[simp]
theorem text?_pieces (s : String) : Raw.text? (pieces s) = some s := by
  simp [Raw.text?, pieces, Piece.text?_map_ofChar]

mutual

def floatFree : Json → Bool
  | .float _ => false
  | .arr items => floatFreeItems items
  | .obj members => floatFreeMembers members
  | _ => true

def floatFreeItems : List Json → Bool
  | [] => true
  | v :: rest => floatFree v && floatFreeItems rest

def floatFreeMembers : List (String × Json) → Bool
  | [] => true
  | (_, v) :: rest => floatFree v && floatFreeMembers rest

end

theorem floatFreeItems_iff {items : List Json} :
    floatFreeItems items ↔ ∀ v ∈ items, v.floatFree := by
  induction items with
  | nil => simp [floatFreeItems]
  | cons v rest ih => simp [floatFreeItems, ih]

theorem floatFreeMembers_iff {members : List (String × Json)} :
    floatFreeMembers members ↔ ∀ m ∈ members, m.2.floatFree := by
  induction members with
  | nil => simp [floatFreeMembers]
  | cons m rest ih => simp [floatFreeMembers, ih]

mutual

/-- The document that spells a value. Doubles, whose spelling is left out, are put as null. -/
def toRaw : Json → Raw
  | .null => .null
  | .bool b => .bool b
  | .int n => .number (.ofInt n)
  | .float _ => .null
  | .str s => .str (pieces s)
  | .arr items => .arr (rawItems items)
  | .obj members => .obj (rawMembers members)

def rawItems : List Json → List Raw
  | [] => []
  | v :: rest => toRaw v :: rawItems rest

def rawMembers : List (String × Json) → List (List Piece × Raw)
  | [] => []
  | (k, v) :: rest => (pieces k, toRaw v) :: rawMembers rest

end

theorem rawItems_eq_map (items : List Json) : rawItems items = items.map toRaw := by
  induction items with
  | nil => rfl
  | cons v rest ih => simp [rawItems, ih]

namespace Raw

mutual

def tokens : Raw → List Token
  | .null => [.null]
  | .bool b => [.bool b]
  | .number l => [.number l]
  | .str s => [.str s]
  | .arr [] => [.openArr, .closeArr]
  | .arr (v :: rest) => .openArr :: tokens v ++ itemTokens rest
  | .obj [] => [.openObj, .closeObj]
  | .obj ((key, v) :: rest) => .openObj :: .str key :: .colon :: tokens v ++ memberTokens rest

def itemTokens : List Raw → List Token
  | [] => [.closeArr]
  | v :: rest => .comma :: tokens v ++ itemTokens rest

def memberTokens : List (List Piece × Raw) → List Token
  | [] => [.closeObj]
  | (key, v) :: rest => .comma :: .str key :: .colon :: tokens v ++ memberTokens rest

end

theorem foldlM_firstItem (v : Raw) (stack : List Frame) (rest : List Token) :
    (v.tokens ++ rest).foldlM step (.firstItem, stack)
      = (v.tokens ++ rest).foldlM step (.value, stack) := by
  cases v with
  | arr items => cases items <;> rfl
  | obj members => cases members <;> rfl
  | _ => rfl

mutual

theorem foldlM_tokens (v : Raw) (stack : List Frame) (rest : List Token) :
    (v.tokens ++ rest).foldlM step (.value, stack) = rest.foldlM step (.after v, stack) := by
  match v with
  | .null | .bool _ | .number _ | .str _ | .arr [] | .obj [] => rfl
  | .arr (v :: vs) =>
    have hopen : ((Raw.arr (v :: vs)).tokens ++ rest).foldlM step (.value, stack)
        = (v.tokens ++ (itemTokens vs ++ rest)).foldlM step (.firstItem, .arr [] :: stack) := by
      simp only [tokens, List.cons_append, List.append_assoc]
      rfl
    rw [hopen, foldlM_firstItem, foldlM_tokens v, foldlM_itemTokens vs]
    rfl
  | .obj ((key, v) :: ms) =>
    have hopen : ((Raw.obj ((key, v) :: ms)).tokens ++ rest).foldlM step (.value, stack)
        = (v.tokens ++ (memberTokens ms ++ rest)).foldlM step (.value, .obj [] key :: stack) := by
      simp only [tokens, List.cons_append, List.append_assoc]
      rfl
    rw [hopen, foldlM_tokens v, foldlM_memberTokens ms]
    rfl

-- What was seen of a container is on top of the stack, in reverse order.
theorem foldlM_itemTokens (vs : List Raw) (v : Raw) (seen : List Raw) (stack : List Frame)
    (rest : List Token) :
    (itemTokens vs ++ rest).foldlM step (.after v, .arr seen :: stack)
      = rest.foldlM step (.after (.arr (seen.reverse ++ v :: vs)), stack) := by
  match vs with
  | [] =>
    have hclose : (itemTokens [] ++ rest).foldlM step (.after v, .arr seen :: stack)
        = rest.foldlM step (.after (.arr (v :: seen).reverse), stack) := rfl
    rw [hclose, List.reverse_cons]
  | w :: ws =>
    have hcomma : (itemTokens (w :: ws) ++ rest).foldlM step (.after v, .arr seen :: stack)
        = (w.tokens ++ (itemTokens ws ++ rest)).foldlM step
            (.value, .arr (v :: seen) :: stack) := by
      simp only [itemTokens, List.cons_append, List.append_assoc]
      rfl
    rw [hcomma, foldlM_tokens w, foldlM_itemTokens ws, List.reverse_cons, List.append_assoc]
    rfl

theorem foldlM_memberTokens (ms : List (List Piece × Raw)) (key : List Piece) (v : Raw)
    (seen : List (List Piece × Raw)) (stack : List Frame) (rest : List Token) :
    (memberTokens ms ++ rest).foldlM step (.after v, .obj seen key :: stack)
      = rest.foldlM step (.after (.obj (seen.reverse ++ (key, v) :: ms)), stack) := by
  match ms with
  | [] =>
    have hclose : (memberTokens [] ++ rest).foldlM step (.after v, .obj seen key :: stack)
        = rest.foldlM step (.after (.obj ((key, v) :: seen).reverse), stack) := rfl
    rw [hclose, List.reverse_cons]
  | (key', w) :: ws =>
    have hcomma : (memberTokens ((key', w) :: ws) ++ rest).foldlM step
          (.after v, .obj seen key :: stack)
        = (w.tokens ++ (memberTokens ws ++ rest)).foldlM step
          (.value, .obj ((key, v) :: seen) key' :: stack) := by
      simp only [memberTokens, List.cons_append, List.append_assoc]
      rfl
    rw [hcomma, foldlM_tokens w, foldlM_memberTokens ws, List.reverse_cons, List.append_assoc]
    rfl

end

theorem ofTokens?_tokens (v : Raw) : ofTokens? v.tokens = some v := by
  have h := foldlM_tokens v [] []
  rw [List.append_nil] at h
  rw [ofTokens?, h]
  rfl

end Raw
end Json
end FixtureLab
