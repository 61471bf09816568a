import FixtureLab.Graph.Page
import FixtureLab.Graph.Record
import FixtureLab.Json.Printer
import FixtureLab.Text.Replace

/-!
This module contains the forms in which a composition graph is handed on: as a script, as JSON, and
as a page that draws it.
-/

namespace FixtureLab
namespace Graph

structure Summary where
  nodes : Nat
  parentEdges : Nat
  childEdges : Nat
deriving DecidableEq, Repr

namespace Summary

def of (records : List Record) : Summary :=
  { nodes := records.length
    parentEdges := (records.filter (·.parent.isSome)).length
    childEdges := (records.flatMap (·.children)).length }

def edges (s : Summary) : Nat := s.parentEdges + s.childEdges

end Summary

inductive Format where
  | js
  | json
  | html
deriving DecidableEq, Repr

namespace Format

def ofName? : String → Option Format
  | "js" => some .js
  | "json" => some .json
  | "html" => some .html
  | "htm" => some .html
  | _ => none

end Format

def recordsJson (records : List Record) : Json := .arr (records.map Record.toJson)

def script (records : List Record) : List Char :=
  "var forceData = ".toList ++ (recordsJson records).pretty ++ [';', '\n']

def usages (records : List Record) : List Char :=
  "var usages = ".toList ++ (recordsJson records).pretty ++ [';']

def document (records : List Record) : List Char := (recordsJson records).pretty ++ ['\n']

def escapeScript (cs : List Char) : List Char :=
  Text.replaceAll ['<', '/'] ['<', '\\', '/'] cs

def page (records : List Record) : List Char :=
  let summary := Summary.of records
  let filled := Text.replaceAll Page.recordsHole.toList
    (escapeScript (recordsJson records).compact) Page.template
  let filled := Text.replaceAll Page.nodesHole.toList (Nat.toDigits 10 summary.nodes) filled
  Text.replaceAll Page.edgesHole.toList (Nat.toDigits 10 summary.edges) filled

def render (format : Format) (records : List Record) : List Char :=
  match format with
  | .js => script records
  | .json => document records
  | .html => page records

end Graph
end FixtureLab
