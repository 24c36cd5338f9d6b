import WikiStubs.Proofs.Json.Grammar
import WikiStubs.Proofs.TextMap
import Mathlib.Data.List.Perm.Basic

/-!
# From JSON values back to data

Decoders of texts, lists, maps and fields, and what they make of a value and of all values that
are the same but for the order of fields (`Decodes`). A map takes its entries in any order.
-/
namespace WikiStubs.Json

variable {α β : Type}

/-! ## Decoders -/

def text? : Json → Option Text
  | string t => some t
  | _ => none

def nullable? (decode : Json → Option α) : Json → Option (Option α)
  | null => some none
  | v => (decode v).map some

def list? (decode : Json → Option α) : Json → Option (List α)
  | array vs => vs.mapM decode
  | _ => none

def keyed? (decode : Json → Option α) (f : Text × Json) : Option (Text × α) :=
  (decode f.2).map (f.1, ·)

def map? (decode : Json → Option α) : Json → Option (TextMap α)
  | object fs => (fs.mapM (keyed? decode)).map .ofList
  | _ => none

def field? (k : Text) (decode : Json → Option α) : Json → Option α
  | object fs => (TextMap.lookup k fs).bind decode
  | _ => none

/-- The decoder reads the value, whatever the order of its fields, as `x`. -/
def Decodes (decode : Json → Option α) (v : Json) (x : α) : Prop :=
  ∀ w, v.Same w → decode w = some x

/-! ## What is decoded -/

theorem decodes_text (t : Text) : Decodes text? (.string t) t := by
  intro w hw
  cases hw
  rfl

theorem decodes_null (decode : Json → Option α) : Decodes (nullable? decode) .null none := by
  intro w hw
  cases hw
  rfl

theorem decodes_some {decode : Json → Option α} {v : Json} {x : α} (h : Decodes decode v x)
    (hv : v ≠ .null) : Decodes (nullable? decode) v (some x) := by
  intro w hw
  have hdecode := h w hw
  cases hw with
  | null => exact absurd rfl hv
  | string | array | object => exact congrArg (Option.map some) hdecode

theorem mapM_of_forall₂ {f : β → Option α} {ys : List β} {xs : List α}
    (h : List.Forall₂ (fun y x => f y = some x) ys xs) : ys.mapM f = some xs := by
  induction h with
  | nil => rfl
  | cons hx _ ih =>
    rw [List.mapM_cons, hx, ih]
    rfl

theorem decodes_list {decode : Json → Option α} {encode : α → Json}
    (h : ∀ x, Decodes decode (encode x) x) (xs : List α) :
    Decodes (list? decode) (.array (xs.map encode)) xs := by
  intro w hw
  cases hw with
  | array hws =>
    refine mapM_of_forall₂ ?_
    rw [List.forall₂_map_left_iff] at hws
    exact hws.flip.imp fun w x hw => h x w hw

theorem keyed?_of_sameField {decode : Json → Option α} {k : Text} {v : Json} {x : α}
    (h : Decodes decode v x) {g : Text × Json} (hg : SameField (k, v) g) :
    keyed? decode g = some (k, x) := by
  cases hg with
  | intro hw => rw [keyed?, h _ hw, Option.map_some]

theorem decodes_map {decode : Json → Option α} {encode : α → Json}
    (h : ∀ x, Decodes decode (encode x) x) (m : TextMap α) :
    Decodes (map? decode) (.object (m.map fun _ x => encode x).entries) m := by
  intro w hw
  cases hw with
  | object hgs hperm =>
    have hentries := hgs.flip
    unfold TextMap.map at hentries
    rw [List.forall₂_map_right_iff] at hentries
    have hread := hentries.imp fun g e hg => keyed?_of_sameField (h e.2) hg
    obtain ⟨es, hes, hperm⟩ := List.perm_comp_forall₂ hperm.symm hread
    rw [map?, mapM_of_forall₂ hes, Option.map_some, TextMap.ofList_of_perm hperm]

theorem keys_of_sameFields {fs gs : List (Text × Json)} (h : List.Forall₂ SameField fs gs) :
    gs.map (·.1) = fs.map (·.1) := by
  induction h with
  | nil => rfl
  | cons hf _ ih =>
    cases hf
    rw [List.map_cons, List.map_cons, ih]

theorem exists_sameField {fs gs : List (Text × Json)} (h : List.Forall₂ SameField fs gs)
    {f : Text × Json} (hf : f ∈ fs) : ∃ g ∈ gs, SameField f g := by
  induction h with
  | nil => cases hf
  | @cons _ g _ gs hsame _ ih =>
    rcases List.mem_cons.1 hf with rfl | hf
    · exact ⟨g, List.mem_cons_self, hsame⟩
    · obtain ⟨g', hmem, hg⟩ := ih hf
      exact ⟨g', List.mem_cons_of_mem g hmem, hg⟩

theorem decodes_field {decode : Json → Option α} {fs : List (Text × Json)} {k : Text} {v : Json}
    {x : α} (hkeys : (fs.map (·.1)).Nodup) (hmem : (k, v) ∈ fs) (h : Decodes decode v x) :
    Decodes (field? k decode) (.object fs) x := by
  intro w hw
  cases hw with
  | @object _ gs hs hgs hperm =>
    have hkeys' : (hs.map (·.1)).Nodup := by
      rw [← (hperm.map _).nodup_iff, keys_of_sameFields hgs]
      exact hkeys
    obtain ⟨g, hg, hsame⟩ := exists_sameField hgs hmem
    cases hsame with
    | intro hvalue =>
      have hlookup := (TextMap.lookup_eq_some_iff hkeys').2 (hperm.mem_iff.1 hg)
      rw [field?, hlookup, Option.bind_some, h _ hvalue]

end WikiStubs.Json
