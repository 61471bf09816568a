import FixtureLab.Proofs.Yaml.Decoding
import FixtureLab.Schema.Document

/-!
This module contains that the document of type definitions is read as the same definitions.
-/

namespace FixtureLab
namespace Schema

open Yaml (Value)
open Yaml.Document (Decoder)
open Yaml.Document.Decoder (record_map list_seq table_map text_str variant_str)

theorem FieldKind.ofName?_name (kind : FieldKind) : FieldKind.ofName? kind.name = some kind := by
  cases kind <;> decide

theorem Field.decode_toYaml (f : Field) : Field.decode f.toYaml.node = pure f := by
  obtain ⟨name, kind, objectName, isArray⟩ := f
  rw [Field.decode, Field.toYaml, record_map, pure_bind]
  . have hkind := variant_str kind.ofName?_name
    cases objectName <;> simp [Decoder.required, Decoder.optional, List.lookup_cons, hkind]
  . rfl
  . decide

theorem RecordType.decode_toYaml (t : RecordType) : RecordType.decode t.toYaml.node = pure t := by
  have hfields := @list_seq _ Field.toYaml Field.decode t.fields fun f _ => f.decode_toYaml
  rw [RecordType.decode, RecordType.toYaml, record_map, pure_bind]
  . simp [Decoder.required, Decoder.optional, List.lookup_cons, hfields]
  . rfl
  . decide

theorem Sample.decode_toYaml {s : Sample} (hs : Table.Sorted s.leaves) :
    Sample.decode s.toYaml.node = pure s := by
  have hleaves := @table_map _ Value.str Decoder.text s.leaves hs fun e _ => text_str e.2
  rw [Sample.decode, Sample.toYaml, record_map, pure_bind]
  . simp [Decoder.required, Decoder.optional, List.lookup_cons, hleaves]
  . rfl
  . decide

theorem Definitions.decode_toYaml {d : Definitions} (hd : ∀ s ∈ d.samples, Table.Sorted s.leaves) :
    Definitions.decode d.toYaml.node = pure d := by
  have htypes := @list_seq _ RecordType.toYaml RecordType.decode d.types
    fun t _ => t.decode_toYaml
  have hsamples := @list_seq _ Sample.toYaml Sample.decode d.samples
    fun s hmem => Sample.decode_toYaml (hd s hmem)
  rw [Definitions.decode, Definitions.toYaml, record_map, pure_bind]
  . simp [Decoder.optional, List.lookup_cons, htypes, hsamples]
  . rfl
  . decide

theorem Definitions.ofDocument_of_sorted {d : Definitions}
    (hd : ∀ s ∈ d.samples, Table.Sorted s.leaves) :
    Definitions.ofDocument d.document = .ok d := by
  have hread : Yaml.Document.ofString? d.document = some ⟨d.toYaml.node, []⟩ :=
    Yaml.Document.ofString?_render rfl
  have hdecode : Yaml.Document.decode? Definitions.decode ⟨d.toYaml.node, []⟩ = some d := by
    rw [Yaml.Document.decode?, decode_toYaml hd]
    rfl
  rw [ofDocument, hread, Option.bind_some, hdecode]

end Schema
end FixtureLab
