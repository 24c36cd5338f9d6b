import WikiStubs.Proofs.Text.Trim
import WikiStubs.VarType

/-!
# Literals and the types of variables

The grammar of the literals that tell the type of a variable: the two truth values, and decimal
literals, which are digits, perhaps with a point and more digits behind them, and perhaps with one
minus sign in front (`Literal`).

The reader takes the texts of this grammar and no others. It looks for the minus sign, then for the
first point, and then at single characters, and there is one lemma for each of these
(`isDigits_iff`, `isUnsigned_iff`, `isDecimal_iff`); `ofLiteral?_eq_some_iff` is about the whole.

Among parameters of distinct names the type of a variable comes from the default of the one
parameter that has its name, if that is a literal, else from its name and description
(`ofParams?_of_mem`, `ofParams?_of_not_mem`). Types are told apart by their tags
(`ofLabel?_label`).
-/
namespace WikiStubs.VarType

/-! ## The grammar -/

def Digits (t : Text) : Prop := t ≠ [] ∧ ∀ c ∈ t, '0' ≤ c ∧ c ≤ '9'

/-- Digits, perhaps with a point and digits behind them. -/
inductive Unsigned : Text → Prop where
  | whole {ds : Text} (h : Digits ds) : Unsigned ds
  | fraction {ds fs : Text} (h : Digits ds) (h' : Digits fs) : Unsigned (ds ++ '.' :: fs)

inductive Decimal : Text → Prop where
  | plain {t : Text} (h : Unsigned t) : Decimal t
  | negative {t : Text} (h : Unsigned t) : Decimal ('-' :: t)

/-- The literals and their types. -/
inductive Literal : Text → VarType → Prop where
  | truth : Literal "true" boolean
  | falsehood : Literal "false" boolean
  | decimal {t : Text} (h : Decimal t) : Literal t number

/-! ## The reader -/

variable {t : Text}

theorem isDigits_iff : isDigits t = true ↔ Digits t := by
  unfold isDigits Digits isDigit
  simp

theorem Digits.isDigit_of_mem (h : Digits t) {c : Char} (hc : c ∈ t) : isDigit c = true := by
  simpa [isDigit] using h.2 c hc

theorem Digits.not_mem (h : Digits t) {c : Char} (hc : isDigit c = false) : c ∉ t := by
  intro hmem
  rw [h.isDigit_of_mem hmem] at hc
  cases hc

/-- What an unsigned literal starts with is a digit. -/
theorem Unsigned.head? (h : Unsigned t) : ∃ c, t.head? = some c ∧ '0' ≤ c ∧ c ≤ '9' := by
  have hfirst : ∀ {ds : Text}, Digits ds → ∃ c ds', ds = c :: ds' ∧ '0' ≤ c ∧ c ≤ '9' := by
    intro ds hds
    obtain ⟨c, ds', rfl⟩ := List.exists_cons_of_ne_nil hds.1
    exact ⟨c, ds', rfl, hds.2 c (List.mem_cons_self ..)⟩
  cases h with
  | whole h =>
    obtain ⟨c, ds', rfl, hc⟩ := hfirst h
    exact ⟨c, rfl, hc⟩
  | fraction h _ =>
    obtain ⟨c, ds', rfl, hc⟩ := hfirst h
    exact ⟨c, rfl, hc⟩

/-- Whether there are digits on both sides of the first point, or digits alone if there is none. -/
def isUnsigned (t : Text) : Bool :=
  match Text.splitAtFirst? "." t with
  | none => isDigits t
  | some (whole, fraction) => isDigits whole && isDigits fraction

theorem isUnsigned_iff : isUnsigned t = true ↔ Unsigned t := by
  unfold isUnsigned
  constructor
  · intro h
    cases hsplit : Text.splitAtFirst? "." t with
    | none =>
      rw [hsplit] at h
      exact .whole (isDigits_iff.1 h)
    | some parts =>
      obtain ⟨whole, fraction⟩ := parts
      simp only [hsplit, Bool.and_eq_true, isDigits_iff] at h
      rw [(Text.splitAtFirst?_singleton_eq_some_iff.1 hsplit).1]
      exact .fraction h.1 h.2
  · intro h
    cases h with
    | whole h =>
      have hsplit : Text.splitAtFirst? "." t = none :=
        Text.splitAtFirst?_eq_none (h.not_mem (by decide))
      rw [hsplit]
      exact isDigits_iff.2 h
    | @fraction ds fs h h' =>
      have hsplit : Text.splitAtFirst? "." (ds ++ '.' :: fs) = some (ds, fs) :=
        Text.splitAtFirst?_append (h.not_mem (by decide)) fs
      rw [hsplit]
      simp only [Bool.and_eq_true, isDigits_iff]
      exact ⟨h, h'⟩

theorem isDecimal_eq (t : Text) : isDecimal t = isUnsigned ((Text.after? "-" t).getD t) := rfl

theorem isDecimal_iff : isDecimal t = true ↔ Decimal t := by
  rw [isDecimal_eq, isUnsigned_iff]
  cases hminus : Text.after? "-" t with
  | some u =>
    obtain rfl : t = '-' :: u := Text.after?_eq_some.1 hminus
    rw [Option.getD_some]
    refine ⟨.negative, fun h => ?_⟩
    cases h with
    | negative h => exact h
    | plain h =>
      -- no unsigned literal starts with a minus sign
      obtain ⟨c, hc, hdigit⟩ := h.head?
      cases hc
      exact absurd hdigit (by decide)
  | none =>
    rw [Option.getD_none]
    refine ⟨.plain, fun h => ?_⟩
    cases h with
    | plain h => exact h
    | @negative u h =>
      have hfound : Text.after? "-" ('-' :: u) = some u := Text.after?_append ['-'] u
      rw [hfound] at hminus
      cases hminus

/-- A text that is no truth value is a literal if it is a decimal one. -/
theorem ofLiteral?_eq_some_iff {type : VarType} : ofLiteral? t = some type ↔ Literal t type := by
  unfold ofLiteral?
  split
  · next hbool =>
    have hdecimal : ¬ Decimal t := by
      rw [← isDecimal_iff]
      rcases hbool with rfl | rfl <;> decide
    constructor
    · intro h
      obtain rfl := Option.some.inj h
      rcases hbool with rfl | rfl
      · exact .truth
      · exact .falsehood
    · intro h
      cases h with
      | truth => rfl
      | falsehood => rfl
      | decimal h => exact absurd h hdecimal
  · next hbool =>
    rw [not_or] at hbool
    simp only [isDecimal_iff, Option.ite_none_right_eq_some, Option.some.injEq]
    constructor
    · rintro ⟨h, rfl⟩
      exact .decimal h
    · intro h
      cases h with
      | truth => exact absurd rfl hbool.1
      | falsehood => exact absurd rfl hbool.2
      | decimal h => exact ⟨h, rfl⟩

/-! ## Tags and parameters -/

variable {params : List Parameter} {name : Text}

/-- A tag is read back as the type that it tags. -/
theorem ofLabel?_label (t : VarType) : ofLabel? t.label = some t := by
  cases t <;> decide

theorem label_injective {t u : VarType} (h : t.label = u.label) : t = u := by
  have hread := congrArg ofLabel? h
  rw [ofLabel?_label, ofLabel?_label] at hread
  exact Option.some.inj hread

theorem ofParams?_of_not_mem (h : name ∉ params.map (·.name)) : ofParams? params name = none := by
  have hnone : params.filter (fun p => decide (p.name = name)) = [] := by
    rw [List.filter_eq_nil_iff]
    intro p hp he
    exact h (of_decide_eq_true he ▸ List.mem_map_of_mem hp)
  rw [ofParams?, hnone]
  rfl

theorem ofParams?_of_mem (h : (params.map (·.name)).Nodup) {p : Parameter} (hp : p ∈ params) :
    ofParams? params p.name = ofDefault? p := by
  have hone : params.filter (fun q => decide (q.name = p.name)) = [p] := by
    induction params with
    | nil => cases hp
    | cons q qs ih =>
      obtain ⟨hq, hqs⟩ := List.nodup_cons.1 h
      rcases List.mem_cons.1 hp with rfl | hp
      · rw [List.filter_cons_of_pos (by simp), List.filter_eq_nil_iff.2]
        intro r hr he
        exact hq (List.mem_map.2 ⟨r, hr, of_decide_eq_true he⟩)
      · have hne : q.name ≠ p.name := fun e => hq (List.mem_map.2 ⟨p, hp, e.symm⟩)
        rw [List.filter_cons_of_neg (by simpa using hne), ih hqs hp]
  rw [ofParams?, hone]
  cases hd : ofDefault? p <;> simp [hd]

theorem get?_infer (descriptions : TextMap Text) (params : List Parameter) (name : Text) :
    (infer descriptions params).get? name =
      (descriptions.get? name).map (inferOne params name) := by
  rw [infer, TextMap.get?_map]

end WikiStubs.VarType
