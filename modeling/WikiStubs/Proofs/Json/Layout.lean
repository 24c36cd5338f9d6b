import WikiStubs.Proofs.Json.Grammar

/-!
# The layout of JSON texts

What is written is JSON: the layout of a value is one of the texts of the value, at every
indentation and for any characters in its strings (`denotes_layout`).
-/
namespace WikiStubs.Json

/-! ## Strings -/

theorem unit?_hexDigits (n : Fin 32) :
    unit? ['0', '0', hexDigit (n / 16), hexDigit n] = some n.val := by
  revert n
  decide

theorem spells_escape (c : Char) : Spells (escape c) c := by
  unfold escape
  split
  · next h => exact h ▸ .short rfl
  · next hquote =>
    split
    · next h => exact h ▸ .short rfl
    · next hback =>
      iterate 5
        split
        · next h => exact h ▸ .short rfl
      split
      · next hlow => exact .unit (unit?_hexDigits ⟨c.toNat, hlow⟩)
      · next hlow => exact .plain (by omega) hquote hback

theorem quoted_escape (t : Text) : Quoted (t.flatMap escape) t := by
  induction t with
  | nil => exact .nil
  | cons c t ih => exact .cons (spells_escape c) ih

/-! ## Values -/

theorem space_nil : Space [] := by
  intro c hc
  cases hc

theorem space_singleton {c : Char} (h : isSpace c = true) : Space [c] :=
  List.forall_mem_singleton.2 h

theorem space_newLine (indent : Nat) : Space (newLine indent) := by
  intro c hc
  rcases List.mem_cons.1 hc with rfl | hc
  · rfl
  · obtain rfl := List.eq_of_mem_replicate hc
    rfl

theorem written_quote (t : Text) : Written (.value (.string t)) (quote t) :=
  .string (quoted_escape t)

/-- A value on a line of its own. -/
theorem written_line {v : Json} {s b : Text} (indent : Nat) (h : Written (.value v) s)
    (hb : Space b) : Written (.element v) (newLine indent ++ s ++ b) :=
  .element (space_newLine indent) h hb

/-- A field on a line of its own. -/
theorem written_field {v : Json} {s b : Text} (indent : Nat) (k : Text)
    (h : Written (.value v) s) (hb : Space b) :
    Written (.member (k, v)) (newLine indent ++ quote k ++ ": " ++ s ++ b) := by
  have hvalue : Written (.element v) ([' '] ++ s ++ b) := .element (space_singleton rfl) h hb
  have hfield := Written.member (space_newLine indent) (quoted_escape k) space_nil hvalue
  have htext : newLine indent ++ quote k ++ ": " ++ s ++ b = newLine indent ++
      '"' :: (k.flatMap escape ++ '"' :: ([] ++ ':' :: ([' '] ++ s ++ b))) := by
    simp [quote]
  rw [htext]
  exact hfield

theorem layoutItems_cons_cons (indent : Nat) (v w : Json) (vs : List Json) :
    layoutItems indent (v :: w :: vs) = newLine (indent + 1) ++ layout (indent + 1) v ++
      ',' :: layoutItems indent (w :: vs) := rfl

theorem layoutFields_cons_cons (indent : Nat) (k : Text) (v : Json) (f : Text × Json)
    (fs : List (Text × Json)) : layoutFields indent ((k, v) :: f :: fs) =
      newLine (indent + 1) ++ quote k ++ ": " ++ layout (indent + 1) v ++
        ',' :: layoutFields indent (f :: fs) := rfl

mutual

theorem written_layout : ∀ (v : Json) (indent : Nat), Written (.value v) (layout indent v)
  | .null, _ => .null
  | .string t, _ => written_quote t
  | .array [], _ => .emptyArray space_nil
  | .array (v :: vs), indent => by
    rw [layout]
    exact .array (written_layoutItems (v :: vs) indent (List.cons_ne_nil v vs))
  | .object [], _ => .emptyObject space_nil
  | .object (f :: fs), indent => by
    rw [layout]
    exact .object (written_layoutFields (f :: fs) indent (List.cons_ne_nil f fs))

theorem written_layoutItems : ∀ (vs : List Json) (indent : Nat), vs ≠ [] →
    Written (.elements vs) (layoutItems indent vs ++ newLine indent)
  | [], _, hne => absurd rfl hne
  | [v], indent, _ => .oneElement (written_line (indent + 1) (written_layout v (indent + 1))
      (space_newLine indent))
  | v :: w :: vs, indent, _ => by
    have hfirst := written_line (indent + 1) (written_layout v (indent + 1)) space_nil
    have hrest := written_layoutItems (w :: vs) indent (List.cons_ne_nil w vs)
    rw [layoutItems_cons_cons, List.append_assoc, List.cons_append]
    rw [List.append_nil] at hfirst
    exact .elements hfirst hrest

theorem written_layoutFields : ∀ (fs : List (Text × Json)) (indent : Nat), fs ≠ [] →
    Written (.members fs) (layoutFields indent fs ++ newLine indent)
  | [], _, hne => absurd rfl hne
  | [(k, v)], indent, _ => .oneMember (written_field (indent + 1) k
      (written_layout v (indent + 1)) (space_newLine indent))
  | (k, v) :: f :: fs, indent, _ => by
    have hfirst := written_field (indent + 1) k (written_layout v (indent + 1)) space_nil
    have hrest := written_layoutFields (f :: fs) indent (List.cons_ne_nil f fs)
    rw [layoutFields_cons_cons, List.append_assoc, List.cons_append]
    rw [List.append_nil] at hfirst
    exact .members hfirst hrest

end

/-- What is written denotes the value, with blanks behind it too. -/
theorem denotes_layout (indent : Nat) (v : Json) {after : Text} (hafter : Space after) :
    Denotes (v.layout indent ++ after) v := by
  have h := Written.element space_nil (written_layout v indent) hafter
  rw [List.nil_append] at h
  exact h

end WikiStubs.Json
