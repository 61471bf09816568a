import FixtureLab.Graph.Record

/-!
This module contains the store of composition records, which keeps the last record of each fixture.
-/

namespace FixtureLab
namespace Graph

structure Store where
  table : Table Record := []
deriving DecidableEq, Repr, Inhabited

namespace Store

def insert (s : Store) (r : Record) : Store := { table := Table.insert r.id r s.table }

def insertAll (s : Store) (rs : List Record) : Store := rs.foldl insert s

def find? (s : Store) (id : String) : Option Record := Table.find? id s.table

def toList (s : Store) : List Record := s.table.values

def ids (s : Store) : List String := s.toList.map (·.id)

def size (s : Store) : Nat := s.table.length

theorem find?_insert (s : Store) (r : Record) (id : String) :
    (s.insert r).find? id = if r.id = id then some r else s.find? id := by
  unfold find? insert
  split
  . next h =>
    rw [← h, Table.find?_insert_self]
  . next h =>
    exact Table.find?_insert_of_ne h _ _

end Store

end Graph
end FixtureLab
