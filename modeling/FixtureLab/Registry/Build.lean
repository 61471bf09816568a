import FixtureLab.Graph.Record
import FixtureLab.Registry.Error

/-!
This module contains builders: the programs that make fixtures. A builder is a tree of requests to
the registry that branches on their answers, so each run of it makes finitely many requests.
-/

namespace FixtureLab
namespace Registry

open FixtureLab.Graph (Edge)

inductive Program (σ V α : Type) where
  | done (result : α)
  | fetch (edge : Edge) (id : String) (next : Except Error V → Program σ V α)
  | lookUp (id : String) (next : Except Error V → Program σ V α)
  | chain (next : List String → Program σ V α)
  | read (next : σ → Program σ V α)
  | write (shared : σ) (next : Program σ V α)

namespace Program

variable {σ V α β : Type}

def bind : Program σ V α → (α → Program σ V β) → Program σ V β
  | .done a, f => f a
  | .fetch edge id next, f => .fetch edge id fun r => (next r).bind f
  | .lookUp id next, f => .lookUp id fun r => (next r).bind f
  | .chain next, f => .chain fun ids => (next ids).bind f
  | .read next, f => .read fun s => (next s).bind f
  | .write s next, f => .write s (next.bind f)

instance : Monad (Program σ V) where
  pure := .done
  bind := bind

end Program

abbrev Build (σ V : Type) := ExceptT Error (Program σ V)

namespace Build

variable {σ V α : Type}

def fetch (edge : Edge) (id : String) : Build σ V V :=
  ExceptT.mk (.fetch edge id .done)

def fetchAs (cast? : V → Option α) (expected : String) (edge : Edge) (id : String) :
    Build σ V α := do
  let v ← fetch edge id
  match cast? v with
  | some a => return a
  | none =>
    let ids ← ExceptT.lift (.chain .done)
    throw (.typeMismatch id expected ids)

def lookUp (id : String) : Build σ V V := ExceptT.mk (.lookUp id .done)

def depth : Build σ V Nat :=
  ExceptT.lift (.chain fun ids => .done ids.length)

def dataId : Build σ V String :=
  ExceptT.lift (.chain fun ids => .done (ids.getLast?.getD ""))

def shared : Build σ V σ := ExceptT.lift (.read .done)

def setShared (s : σ) : Build σ V Unit := ExceptT.lift (.write s (.done ()))

end Build

end Registry
end FixtureLab
