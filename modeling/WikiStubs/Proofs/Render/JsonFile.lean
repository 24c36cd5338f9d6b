import WikiStubs.Proofs.Json.Decode
import WikiStubs.Proofs.Json.Layout
import WikiStubs.Proofs.Json.Reader
import WikiStubs.Proofs.VarType
import WikiStubs.Render

/-!
# What a JSON file holds

A category of functions can be had back from its JSON file: whatever reader of JSON is used, and
in whatever order that leaves the fields, the value decodes to the name of the category and to the
records in their order (`render_json_lossless`). So different categories have different files.

Nothing is asked of the records. Their texts may hold any characters.
-/
namespace WikiStubs

open Json

/-! ## Types -/

def VarType.ofJson? (v : Json) : Option VarType := v.text?.bind VarType.ofLabel?

theorem VarType.decodes_label (t : VarType) : Decodes VarType.ofJson? (.string t.label) t := by
  intro w hw
  rw [VarType.ofJson?, decodes_text t.label w hw, Option.bind_some, VarType.ofLabel?_label]

/-! ## Parameters -/

namespace Parameter

def ofJson? (v : Json) : Option Parameter := do
  let name ← v.field? "name" text?
  let default ← v.field? "default" (nullable? text?)
  return ⟨name, default⟩

theorem nodup_keys : (["name", "default"] : List Text).Nodup := by
  decide

theorem decodes_default (default : Option Text) :
    Decodes (nullable? text?) ((default.map .string).getD .null) default := by
  cases default with
  | none => exact decodes_null text?
  | some t => exact decodes_some (decodes_text t) nofun

theorem decodes_toJson (p : Parameter) : Decodes ofJson? p.toJson p := by
  have hname : Decodes (field? "name" text?) p.toJson p.name :=
    decodes_field nodup_keys (.head _) (decodes_text p.name)
  have hdefault : Decodes (field? "default" (nullable? text?)) p.toJson p.default :=
    decodes_field nodup_keys (.tail _ (.head _)) (decodes_default p.default)
  intro w hw
  rw [ofJson?, hname w hw, hdefault w hw]
  rfl

theorem distinct_toJson (p : Parameter) : p.toJson.Distinct := by
  refine .object nodup_keys (List.forall_mem_cons.2 ⟨.string p.name, ?_⟩)
  refine List.forall_mem_singleton.2 ?_
  cases p.default with
  | none => exact .null
  | some t => exact .string t

end Parameter

/-! ## Signatures -/

theorem decodes_texts (ts : List Text) : Decodes (list? text?) (.array (ts.map .string)) ts :=
  decodes_list decodes_text ts

theorem distinct_texts (ts : List Text) : Distinct (.array (ts.map .string)) := by
  refine .array fun v hv => ?_
  obtain ⟨t, -, rfl⟩ := List.mem_map.1 hv
  exact .string t

namespace Signature

def ofJson? (v : Json) : Option Signature := do
  let params ← v.field? "params" (list? Parameter.ofJson?)
  let returns ← v.field? "returns" (list? text?)
  return ⟨params, returns⟩

theorem nodup_keys : (["params", "returns"] : List Text).Nodup := by
  decide

theorem decodes_toJson (s : Signature) : Decodes ofJson? s.toJson s := by
  have hparams : Decodes (field? "params" (list? Parameter.ofJson?)) s.toJson s.params :=
    decodes_field nodup_keys (.head _) (decodes_list Parameter.decodes_toJson s.params)
  have hreturns : Decodes (field? "returns" (list? text?)) s.toJson s.returns :=
    decodes_field nodup_keys (.tail _ (.head _)) (decodes_texts s.returns)
  intro w hw
  rw [ofJson?, hparams w hw, hreturns w hw]
  rfl

theorem distinct_toJson (s : Signature) : s.toJson.Distinct := by
  refine .object nodup_keys (List.forall_mem_cons.2 ⟨.array fun v hv => ?_, ?_⟩)
  · obtain ⟨p, -, rfl⟩ := List.mem_map.1 hv
    exact p.distinct_toJson
  · exact List.forall_mem_singleton.2 (distinct_texts s.returns)

end Signature

/-! ## Records -/

/-- A map whose values are written as strings has each key once. -/
theorem distinct_entries {α : Type} (m : TextMap α) (spell : α → Text) :
    Distinct (.object (m.map fun _ x => Json.string (spell x)).entries) := by
  refine .object (TextMap.nodup_keys _) fun f hf => ?_
  obtain ⟨e, -, rfl⟩ := List.mem_map.1 hf
  exact .string (spell e.2)

namespace Record

def ofJson? (v : Json) : Option Record := do
  let name ← v.field? "name" text?
  let signature ← v.field? "signature" Signature.ofJson?
  let descriptions ← v.field? "descriptions" (map? text?)
  let types ← v.field? "types" (map? VarType.ofJson?)
  let description ← v.field? "description" text?
  return ⟨name, signature, descriptions, types, description⟩

theorem nodup_keys :
    (["name", "signature", "descriptions", "types", "description"] : List Text).Nodup := by
  decide

theorem decodes_toJson (r : Record) : Decodes ofJson? r.toJson r := by
  have hname : Decodes (field? "name" text?) r.toJson r.name :=
    decodes_field nodup_keys (.head _) (decodes_text r.name)
  have hsignature : Decodes (field? "signature" Signature.ofJson?) r.toJson r.signature :=
    decodes_field nodup_keys (.tail _ (.head _)) r.signature.decodes_toJson
  have hdescriptions : Decodes (field? "descriptions" (map? text?)) r.toJson r.descriptions :=
    decodes_field nodup_keys (.tail _ (.tail _ (.head _))) (decodes_map decodes_text _)
  have htypes : Decodes (field? "types" (map? VarType.ofJson?)) r.toJson r.types :=
    decodes_field nodup_keys (.tail _ (.tail _ (.tail _ (.head _))))
      (decodes_map VarType.decodes_label _)
  have hdescription : Decodes (field? "description" text?) r.toJson r.description :=
    decodes_field nodup_keys (.tail _ (.tail _ (.tail _ (.tail _ (.head _)))))
      (decodes_text r.description)
  intro w hw
  rw [ofJson?, hname w hw, hsignature w hw, hdescriptions w hw, htypes w hw, hdescription w hw]
  rfl

theorem distinct_toJson (r : Record) : r.toJson.Distinct := by
  refine .object nodup_keys (List.forall_mem_cons.2 ⟨.string r.name, ?_⟩)
  refine List.forall_mem_cons.2 ⟨r.signature.distinct_toJson, ?_⟩
  refine List.forall_mem_cons.2 ⟨distinct_entries r.descriptions id, ?_⟩
  refine List.forall_mem_cons.2 ⟨distinct_entries r.types VarType.label, ?_⟩
  exact List.forall_mem_singleton.2 (.string r.description)

end Record

/-! ## Files -/

namespace JsonFile

def ofJson? (v : Json) : Option (Text × List Record) := do
  let category ← v.field? "category" text?
  let records ← v.field? "functions" (list? Record.ofJson?)
  return (category, records)

theorem nodup_keys : (["category", "functions"] : List Text).Nodup := by
  decide

variable (category : Text) (records : List Record)

theorem decodes_value : Decodes ofJson? (value category records) (category, records) := by
  have hcategory : Decodes (field? "category" text?) (value category records) category :=
    decodes_field nodup_keys (.head _) (decodes_text category)
  have hrecords : Decodes (field? "functions" (list? Record.ofJson?)) (value category records)
      records :=
    decodes_field nodup_keys (.tail _ (.head _)) (decodes_list Record.decodes_toJson records)
  intro w hw
  rw [ofJson?, hcategory w hw, hrecords w hw]
  rfl

theorem distinct_value : (value category records).Distinct := by
  refine .object nodup_keys (List.forall_mem_cons.2 ⟨.string category, ?_⟩)
  refine List.forall_mem_singleton.2 (.array fun v hv => ?_)
  obtain ⟨r, -, rfl⟩ := List.mem_map.1 hv
  exact r.distinct_toJson

/-- The file is a text of the category's value. -/
theorem denotes_file : Denotes (file category records) (value category records) :=
  denotes_layout 0 _ (space_singleton (by decide))

/-- A reader that conforms finds the category and the records in the file. -/
theorem exists_read_file {read : Text → Option Json} (h : Conforming read) :
    ∃ v, read (file category records) = some v ∧ (value category records).Same v ∧
      ofJson? v = some (category, records) := by
  obtain ⟨v, hread, hsame⟩ :=
    h _ _ (denotes_file category records) (distinct_value category records)
  exact ⟨v, hread, hsame, decodes_value category records v hsame⟩

theorem file_injective {category category' : Text} {records records' : List Record}
    (h : file category' records' = file category records) :
    category' = category ∧ records' = records := by
  obtain ⟨v, hread, -, hv⟩ := exists_read_file category records conforming_read
  obtain ⟨v', hread', -, hv'⟩ := exists_read_file category' records' conforming_read
  rw [h, hread] at hread'
  obtain rfl := Option.some.inj hread'
  rw [hv] at hv'
  obtain ⟨rfl, rfl⟩ := Prod.mk.inj (Option.some.inj hv')
  exact ⟨rfl, rfl⟩

/-- **A JSON file loses nothing.** Any reader that conforms reads it as the value of the category,
which decodes to the name of the category and to its records, and only this category is written
to this file. -/
theorem render_json_lossless :
    (∀ read, Conforming read → ∃ v, read (Format.json.render category records) = some v ∧
      (value category records).Same v ∧ ofJson? v = some (category, records)) ∧
    ∀ category' records', Format.json.render category' records' =
      Format.json.render category records → category' = category ∧ records' = records := by
  refine ⟨fun read h => exists_read_file category records h, fun category' records' h => ?_⟩
  exact file_injective h

/-- A category whose texts hold quotes, backslashes and controls, with empty lists and maps. A
parameter without default is told from one whose default is the text `null`. -/
theorem render_json_lossless_escapes :
    let record (default : Option Text) : Record :=
      { name := "pr\"int"
        signature := ⟨[⟨"text", default⟩], []⟩
        descriptions := .ofList [("text", "a \\ and\ta \x1f\r\n"), ("\"", "é \\u0022")]
        types := .ofList []
        description := [] }
    let records := [record none, record (some "null")]
    (∃ v, read (Format.json.render "a\"\\b" records) = some v ∧
      (value "a\"\\b" records).Same v ∧ ofJson? v = some ("a\"\\b".toList, records)) ∧
    Format.json.render "a\"\\b" [record none] ≠
      Format.json.render "a\"\\b" [record (some "null")] := by
  intro record records
  refine ⟨(render_json_lossless "a\"\\b" records).1 read conforming_read, fun h => ?_⟩
  have hrecords := ((render_json_lossless "a\"\\b" [record (some "null")]).2 _ _ h).2
  exact absurd hrecords (by decide)

end JsonFile
end WikiStubs
