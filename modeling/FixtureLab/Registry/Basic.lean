import FixtureLab.Graph.Store
import FixtureLab.Registry.Build

/-!
This module contains the fixture registry. Registering a fixture runs its builder once and keeps the
value; a fetch from inside a builder runs the fetched builder afresh. Each run has a frame that
gathers the edges of its composition record, and the records of a registration are stored when it
succeeds.
-/

namespace FixtureLab

inductive DuplicatePolicy where
  | overwrite
  | reject
deriving DecidableEq, Repr

open FixtureLab.Graph (Edge Record Store)
open Registry (Error Program Build)

structure Registry (σ V : Type) where
  policy : DuplicatePolicy := .overwrite
  builders : Table (Build σ V V) := []
  memo : Table V := []
  store : Store := {}
  stack : List Record := []
  staged : List Record := []
  shared : σ

namespace Registry

variable {σ V α : Type}

def chain (r : Registry σ V) : List String := (r.stack.map (·.id)).reverse

def depth (r : Registry σ V) : Nat := r.stack.length

def contains (r : Registry σ V) (id : String) : Bool := Table.contains id r.builders

def ids (r : Registry σ V) : List String := r.builders.keys

def size (r : Registry σ V) : Nat := r.builders.length

def records (r : Registry σ V) : List Record := r.store.toList

def get (r : Registry σ V) (id : String) : Except Error V :=
  match Table.find? id r.memo with
  | some v => .ok v
  | none => .error (.notRegistered id [])

def getAs (cast? : V → Option α) (expected : String) (r : Registry σ V) (id : String) :
    Except Error α :=
  match r.get id with
  | .error e => .error e
  | .ok v =>
    match cast? v with
    | some a => .ok a
    | none => .error (.typeMismatch id expected r.chain)

def resolve (r : Registry σ V) (id : String) : Except Error (Build σ V V) :=
  match Table.find? id r.builders with
  | none => .error (.notRegistered id r.chain)
  | some builder =>
    if r.stack.any (·.id = id) then .error (.cycle id r.chain) else .ok builder

def link (r : Registry σ V) (edge : Edge) (id : String) : Registry σ V :=
  match r.stack with
  | [] => r
  | frame :: rest => { r with stack := frame.link edge id :: rest }

abbrev Fetch (σ V : Type) := Edge → String → Registry σ V → Except Error V × Registry σ V

def run (fetch : Fetch σ V) : Program σ V α → Registry σ V → α × Registry σ V
  | .done a, r => (a, r)
  | .fetch edge id next, r =>
    let (answer, r) := fetch edge id r
    run fetch (next answer) r
  | .lookUp id next, r => run fetch (next (r.get id)) r
  | .chain next, r => run fetch (next r.chain) r
  | .read next, r => run fetch (next r.shared) r
  | .write s next, r => run fetch next { r with shared := s }

def push (r : Registry σ V) (id : String) : Registry σ V :=
  { r with stack := { id } :: r.stack }

def pop (r : Registry σ V) (succeeded : Bool) : Registry σ V :=
  match r.stack with
  | [] => r
  | frame :: rest =>
    { r with stack := rest, staged := if succeeded then r.staged ++ [frame] else r.staged }

def execute (fetch : Fetch σ V) (id : String) (builder : Build σ V V) (r : Registry σ V) :
    Except Error V × Registry σ V :=
  let (result, r) := run fetch builder (r.push id)
  (result, r.pop result.isOk)

/--
Answer a fetch, with at most `room` runs nested in it. A fixture is never run inside its own run, so
as many runs as there are registered fixtures is always room enough.
-/
def fetchWithin : Nat → Fetch σ V
  | room, edge, id, r =>
    if r.stack.isEmpty then (.error (.noActiveFrame id), r)
    else
      match r.resolve id with
      | .error e => (.error e, r)
      | .ok builder =>
        match room with
        | 0 => (.error (.cycle id r.chain), r)
        | room + 1 =>
          match execute (fetchWithin room) id builder r with
          | (.error e, r) => (.error e, r)
          | (.ok v, r) => (.ok v, r.link edge id)

def fetch : Fetch σ V := fun edge id r => fetchWithin r.size edge id r

def commit (r : Registry σ V) (id : String) (value : V) : Registry σ V :=
  { r with
    store := r.store.insertAll r.staged
    staged := []
    memo := Table.insert id value r.memo }

def rollback (r : Registry σ V) (id : String) (previous : Option (Build σ V V)) : Registry σ V :=
  { r with
    stack := []
    staged := []
    builders := match previous with
      | some builder => Table.insert id builder r.builders
      | none => Table.erase id r.builders }

def build (r : Registry σ V) (id : String) : Except Error V × Registry σ V :=
  match r.resolve id with
  | .error e => (.error e, r)
  | .ok builder => execute (fetchWithin r.size) id builder r

/--
Bind a builder to an identifier, run it once and keep its value. If it fails, the builder that was
bound before is bound again, and no record of the attempt is stored.
-/
def register (r : Registry σ V) (id : String) (builder : Build σ V V) :
    Except Error Unit × Registry σ V :=
  if id.isEmpty then (.error .invalidId, r)
  else if r.contains id && r.policy = .reject then (.error (.alreadyRegistered id), r)
  else
    let previous := Table.find? id r.builders
    match build { r with builders := Table.insert id builder r.builders } id with
    | (.ok value, r) => (.ok (), r.commit id value)
    | (.error e, r) => (.error e, r.rollback id previous)

end Registry

end FixtureLab
