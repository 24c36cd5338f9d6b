import WikiStubs.Proofs.Record.Outcome
import WikiStubs.Proofs.Runs
import WikiStubs.Proofs.Signature
import WikiStubs.Render
import WikiStubs.Resolve

/-!
# Stubs show what the record holds

A stub shows a type and a description for each variable, with fallbacks for a variable that the
record does not have. `Lua.block?` is the stub without the fallbacks, so it may not exist; for a
record that knows its variables (`Record.Knows`) it exists and is the stub (`Lua.block?_eq`).

Every record that is assembled knows its variables, wherever the pages come from and whichever
parts of it are corrected, so its stub needs no fallback (`assemble_shown`): the variables of the
signature are checked against the descriptions, and the types are made from the same descriptions.
-/
namespace WikiStubs

namespace Record

/-- The record has types for exactly the variables that it describes, and those of the signature
are among them. -/
structure Knows (r : Record) : Prop where
  keys : r.types.keys = r.descriptions.keys
  names : ∀ v ∈ r.signature.names, v ∈ r.descriptions.keys ∧ v ∈ r.types.keys

theorem knows_of_ofSection [PatternCompiler] {function : Text} {s : Section} {r : Record}
    (h : ofSection function s = .ok r) : r.Knows := by
  obtain ⟨signature, -, complete, d, -, rfl⟩ := eq_of_ofSection h
  have hkeys : (VarType.infer s.described signature.params).keys = s.described.keys :=
    TextMap.keys_map _ _
  refine ⟨hkeys, fun v hv => ?_⟩
  have hmem : v ∈ s.described.keys :=
    TextMap.mem_keys_iff.2 (Section.contains_described.2 (complete.names v hv))
  exact ⟨hmem, hkeys ▸ hmem⟩

variable {r : Record} {v : Text}

theorem Knows.description (h : r.Knows) (hv : v ∈ r.signature.names) :
    r.descriptions.get? v = some (Lua.descriptionOf r v) := by
  obtain ⟨d, hd⟩ := TextMap.contains_iff.1 (TextMap.mem_keys_iff.1 (h.names v hv).1)
  rw [Lua.descriptionOf, hd, Option.getD_some]

theorem Knows.type (h : r.Knows) (hv : v ∈ r.signature.names) :
    r.types.get? v = some (Lua.typeOf r v) := by
  obtain ⟨t, ht⟩ := TextMap.contains_iff.1 (TextMap.mem_keys_iff.1 (h.names v hv).2)
  rw [Lua.typeOf, ht, Option.getD_some]

end Record

/-! ## Stubs without fallbacks -/

theorem mapM_eq_some {α β : Type} {f : α → Option β} {g : α → β} {l : List α}
    (h : ∀ x ∈ l, f x = some (g x)) : l.mapM f = some (l.map g) := by
  induction l with
  | nil => rfl
  | cons x l ih =>
    rw [List.mapM_cons, h x (List.mem_cons_self ..), ih fun y hy => h y (List.mem_cons_of_mem _ hy)]
    rfl

namespace Lua

variable {r : Record}

/-- The line of a parameter, if the record has a type and a description for it. -/
def paramLine? (r : Record) (p : Parameter) : Option Text := do
  let type ← r.types.get? p.name
  let description ← r.descriptions.get? p.name
  return "\n---@param " ++ p.name ++ (if p.isOptional then ['?'] else []) ++ " " ++
    type.label ++ " # " ++ description ++ defaultNote description p.default

/-- The line of a return value, if the record has a type and a description for it. -/
def returnLine? (r : Record) (name : Text) : Option Text := do
  let type ← r.types.get? name
  let description ← r.descriptions.get? name
  return "\n---@return " ++ type.label ++ " " ++ name ++ " # " ++ description

/-- The doc comment and the definition, if the record has all that they show. -/
def block? (r : Record) : Option Text := do
  let params ← r.signature.params.mapM (paramLine? r)
  let returns ← r.signature.returns.mapM (returnLine? r)
  return "---\n" ++ comment r.description ++ "\n---" ++ params.flatten ++ returns.flatten ++ stub r

theorem paramLine?_eq (h : r.Knows) {p : Parameter} (hp : p ∈ r.signature.params) :
    paramLine? r p = some (paramLine r p) := by
  have hv := Signature.mem_names_of_mem_params hp
  rw [paramLine?, h.type hv, h.description hv]
  rfl

theorem returnLine?_eq (h : r.Knows) {v : Text} (hv : v ∈ r.signature.returns) :
    returnLine? r v = some (returnLine r v) := by
  have hmem := Signature.mem_names_of_mem_returns hv
  rw [returnLine?, h.type hmem, h.description hmem]
  rfl

/-- A stub shows nothing but what the record holds. -/
theorem block?_eq (h : r.Knows) : block? r = some (block r) := by
  rw [block?, mapM_eq_some fun p hp => paramLine?_eq h hp,
    mapM_eq_some fun v hv => returnLine?_eq h hv]
  rfl

end Lua

/-! ## Assembly -/

section
variable [PatternCompiler] {σ : Type} {start stop : σ}

/-- What is assembled comes from a section. -/
theorem exists_ofSection_of_assemble {src : PageSource (StateM σ)} {function : Text} {r : Record}
    (h : (assemble src function).run.run start = (.ok r, stop)) :
    ∃ s, Record.ofSection function s = .ok r := by
  obtain ⟨s, _, -, h⟩ := run_bind_eq_ok h
  obtain ⟨_, _, -, h⟩ := run_bind_eq_ok h
  exact ⟨s, congrArg Prod.fst h⟩

/-- **Stubs show what the record holds.** Wherever the pages come from, an assembled record has a
type and a description for each of its variables, so that its stub needs no fallback. -/
theorem assemble_shown {src : PageSource (StateM σ)} {function : Text} {r : Record}
    (h : (assemble src function).run.run start = (.ok r, stop)) :
    r.Knows ∧ Lua.block? r = some (Lua.block r) := by
  obtain ⟨s, hs⟩ := exists_ofSection_of_assemble h
  exact ⟨Record.knows_of_ofSection hs, Lua.block?_eq (Record.knows_of_ofSection hs)⟩

end

/-- A page with a parameter and a return value. -/
def peekPage : Text :=
  "# peek\n`peek(addr) -> byte`\n## Parameters\n* **addr** : any address\n" ++
    "## Returns\n* **byte** : the value there\n## Description\nReads a byte."

def peekRecord : Record where
  name := "peek"
  signature := ⟨[⟨"addr", none⟩], ["byte"]⟩
  descriptions := TextMap.ofList
    [("addr", "any address"), ("byte", "the value there"), ("bool", "a boolean")]
  types := TextMap.ofList [("addr", .number), ("byte", .missing), ("bool", .boolean)]
  description := "Reads a byte."

/-- The record that is assembled from the page, with what is noted on the way. -/
def peekRun : Except Fault Record × List Event :=
  (assemble (PageSource.ofPages fun _ => .ok peekPage) "peek").run.run []

theorem assemble_peekPage_shown :
    peekRun.1 = .ok peekRecord ∧ peekRecord.Knows ∧
      Lua.block? peekRecord = some (Lua.block peekRecord) := by
  have hok : peekRun.1 = .ok peekRecord := by decide +kernel
  have hrun : peekRun = (.ok peekRecord, peekRun.2) :=
    (Prod.eta peekRun).symm.trans (congrArg (·, peekRun.2) hok)
  exact ⟨hok, assemble_shown hrun⟩

end WikiStubs
