import WikiStubs.Call
import WikiStubs.Proofs.TextMap
import WikiStubs.Proofs.VarType

/-!
# What decides on the type of a variable

The type of a described variable comes from the parameters of its name: from the last of them whose
default is a literal (`LastLiteral`). If there is none (`NoLiteral`), it comes from the name and the
description. Other variables and other parameters do not matter (`get?_infer_congr`).

Results:
* `infer_pointwise`: types are inferred for exactly the described variables. Among parameters of
  distinct names, the type of a variable is that of its own literal default, else that which its
  name and description suggest.
* `boolean_default_iff`: a variable with the default `true` or `false` is a boolean unless a later
  parameter of its name has a number for its default, and no still later one a truth value again.

A call may list a name twice, so a variable with a truth value for its default may well come out as
a number (`boolean_default_overruled`).
-/
namespace WikiStubs.VarType

variable {params : List Parameter} {name d : Text} {type : VarType}

/-! ## Parameters of one name -/

/-- No parameter of the name has a literal for its default. -/
def NoLiteral (params : List Parameter) (name : Text) : Prop :=
  ∀ value type, ⟨name, some value⟩ ∈ params → ¬ Literal value type

/-- Of the parameters of the name that have a literal for their default, the last has one of the
type. -/
def LastLiteral (params : List Parameter) (name : Text) (type : VarType) : Prop :=
  ∃ before value after, params = before ++ ⟨name, some value⟩ :: after ∧ Literal value type ∧
    NoLiteral after name

/-- The type that one parameter gives to variables of a name. -/
def ofNamed? (name : Text) (p : Parameter) : Option VarType :=
  if p.name = name then ofDefault? p else none

theorem ofNamed?_eq_some_iff {p : Parameter} :
    ofNamed? name p = some type ↔ ∃ value, p = ⟨name, some value⟩ ∧ Literal value type := by
  unfold ofNamed? ofDefault?
  rw [Option.ite_none_right_eq_some, Option.bind_eq_some_iff]
  constructor
  · rintro ⟨rfl, value, hdefault, hliteral⟩
    refine ⟨value, ?_, ofLiteral?_eq_some_iff.1 hliteral⟩
    rw [← Option.mem_def.1 hdefault]
  · rintro ⟨value, rfl, hliteral⟩
    exact ⟨rfl, value, rfl, ofLiteral?_eq_some_iff.2 hliteral⟩

theorem noLiteral_iff : NoLiteral params name ↔ ∀ p ∈ params, ofNamed? name p = none := by
  simp only [Option.eq_none_iff_forall_ne_some, ne_eq, ofNamed?_eq_some_iff]
  constructor
  · rintro h p hp type ⟨value, rfl, hliteral⟩
    exact h value type hp hliteral
  · intro h value type hp hliteral
    exact h _ hp type ⟨value, rfl, hliteral⟩

/-- The parameters are searched from the last one on. -/
theorem ofParams?_eq (params : List Parameter) (name : Text) :
    ofParams? params name = params.reverse.findSome? (ofNamed? name) := by
  unfold ofParams?
  rw [List.filterMap_filter, List.getLast?_filterMap]
  simp only [decide_eq_true_eq]
  rfl

theorem ofParams?_eq_none_iff : ofParams? params name = none ↔ NoLiteral params name := by
  rw [ofParams?_eq, List.findSome?_eq_none_iff, noLiteral_iff]
  simp

theorem ofParams?_eq_some_iff : ofParams? params name = some type ↔
    LastLiteral params name type := by
  rw [ofParams?_eq, List.findSome?_eq_some_iff]
  simp only [List.reverse_eq_append_iff, ofNamed?_eq_some_iff]
  constructor
  · rintro ⟨after, p, before, hcut, ⟨value, rfl, hliteral⟩, hafter⟩
    refine ⟨before.reverse, value, after.reverse, by simpa using hcut, hliteral, ?_⟩
    exact noLiteral_iff.2 fun q hq => hafter q (List.mem_reverse.1 hq)
  · rintro ⟨before, value, after, rfl, hliteral, hafter⟩
    refine ⟨after.reverse, ⟨name, some value⟩, before.reverse, by simp, ⟨value, rfl, hliteral⟩, ?_⟩
    exact fun q hq => noLiteral_iff.1 hafter q (List.mem_reverse.1 hq)

theorem lastLiteral_or_none (params : List Parameter) (name : Text) :
    (∃ type, LastLiteral params name type) ∨ NoLiteral params name := by
  cases h : ofParams? params name with
  | none => exact Or.inr (ofParams?_eq_none_iff.1 h)
  | some type => exact Or.inl ⟨type, ofParams?_eq_some_iff.1 h⟩

theorem LastLiteral.unique {type' : VarType} (h : LastLiteral params name type)
    (h' : LastLiteral params name type') : type = type' := by
  rw [← ofParams?_eq_some_iff] at h h'
  exact Option.some.inj (h.symm.trans h')

instance (params : List Parameter) (name : Text) (type : VarType) :
    Decidable (LastLiteral params name type) :=
  decidable_of_iff _ ofParams?_eq_some_iff

/-- Among parameters of distinct names the only one of a name is the last one. -/
theorem lastLiteral_iff_of_nodup (h : (params.map (·.name)).Nodup) :
    LastLiteral params name type ↔ ∃ value, ⟨name, some value⟩ ∈ params ∧ Literal value type := by
  constructor
  · rintro ⟨before, value, after, rfl, hliteral, -⟩
    exact ⟨value, by simp, hliteral⟩
  · rintro ⟨value, hp, hliteral⟩
    rw [← ofParams?_eq_some_iff]
    exact (ofParams?_of_mem h hp).trans (ofLiteral?_eq_some_iff.2 hliteral)

/-! ## Types of described variables -/

theorem keys_infer (descriptions : TextMap Text) (params : List Parameter) :
    (infer descriptions params).keys = descriptions.keys :=
  TextMap.keys_map _ _

/-- Whatever else changes, a variable keeps its type as long as its description and the parameters
of its name stay as they are. -/
theorem get?_infer_congr {descriptions descriptions' : TextMap Text} {params' : List Parameter}
    (hd : descriptions'.get? name = descriptions.get? name)
    (hp : params'.filter (·.name = name) = params.filter (·.name = name)) :
    (infer descriptions' params').get? name = (infer descriptions params).get? name := by
  have hone : inferOne params' name = inferOne params name := by
    funext d
    unfold inferOne ofParams?
    rw [hp]
  rw [get?_infer, get?_infer, hd, hone]

variable {descriptions : TextMap Text}

theorem get?_infer_of_last (hd : descriptions.get? name = some d)
    (h : LastLiteral params name type) : (infer descriptions params).get? name = some type := by
  rw [get?_infer, hd, Option.map_some, inferOne, ofParams?_eq_some_iff.2 h, Option.getD_some]

theorem get?_infer_of_none (hd : descriptions.get? name = some d) (h : NoLiteral params name) :
    (infer descriptions params).get? name = some (classify name d) := by
  rw [get?_infer, hd, Option.map_some, inferOne, ofParams?_eq_none_iff.2 h, Option.getD_none]

/-- The type of a described variable among parameters of distinct names. -/
inductive Typed (params : List Parameter) (name d : Text) : VarType → Prop where
  /-- Its own default is a literal. -/
  | default {value : Text} {type : VarType} (hp : ⟨name, some value⟩ ∈ params)
      (literal : Literal value type) : Typed params name d type
  /-- It has no default that is a literal. -/
  | words (none : NoLiteral params name) : Typed params name d (classify name d)

theorem get?_infer_eq_some_iff (h : (params.map (·.name)).Nodup)
    (hd : descriptions.get? name = some d) :
    (infer descriptions params).get? name = some type ↔ Typed params name d type := by
  constructor
  · intro htype
    rcases lastLiteral_or_none params name with ⟨type', hlast⟩ | hnone
    · rw [get?_infer_of_last hd hlast] at htype
      obtain rfl := Option.some.inj htype
      obtain ⟨value, hp, hliteral⟩ := (lastLiteral_iff_of_nodup h).1 hlast
      exact .default hp hliteral
    · rw [get?_infer_of_none hd hnone] at htype
      obtain rfl := Option.some.inj htype
      exact .words hnone
  · intro htyped
    cases htyped with
    | default hp hliteral =>
      exact get?_infer_of_last hd ((lastLiteral_iff_of_nodup h).2 ⟨_, hp, hliteral⟩)
    | words hnone => exact get?_infer_of_none hd hnone

/-- **Each variable on its own.** Types are inferred for exactly the variables that are described.
Among parameters of distinct names, a variable has the type of the literal that its own default is,
or else the type that its name and description suggest. Changes to other variables and other
parameters do not change its type, and a parameter that is not described has none. -/
theorem infer_pointwise (h : (params.map (·.name)).Nodup) (descriptions : TextMap Text) :
    (infer descriptions params).keys = descriptions.keys ∧
    (∀ name d, descriptions.get? name = some d → ∀ type,
      (infer descriptions params).get? name = some type ↔ Typed params name d type) ∧
    (∀ name descriptions' params', descriptions'.get? name = descriptions.get? name →
      params'.filter (·.name = name) = params.filter (·.name = name) →
      (infer descriptions' params').get? name = (infer descriptions params).get? name) ∧
    ∀ p ∈ params, p.name ∉ descriptions.keys → (infer descriptions params).get? p.name = none := by
  refine ⟨keys_infer descriptions params, fun name d hd type => get?_infer_eq_some_iff h hd,
    fun name descriptions' params' => get?_infer_congr, fun p _ hp => ?_⟩
  rw [TextMap.mem_keys_iff, TextMap.contains, Bool.not_eq_true, Option.isSome_eq_false_iff,
    Option.isNone_iff_eq_none] at hp
  rw [get?_infer, hp, Option.map_none]

/-- A variable whose default is no literal, two with literals, and one that is not described. -/
theorem infer_musicParams :
    let params : List Parameter := [⟨"pan", some "nil"⟩, ⟨"frame", some "-1.5"⟩,
      ⟨"loop", some "true"⟩, ⟨"mute", some "false"⟩]
    let descriptions : TextMap Text := .ofList [("frame", "where to start"),
      ("loop", "the number of loops"), ("pan", "from left to right")]
    (params.map (·.name)).Nodup ∧ (infer descriptions params).get? "pan" = some missing ∧
      (infer descriptions params).get? "frame" = some number ∧
      (infer descriptions params).get? "loop" = some boolean ∧
      (infer descriptions params).get? "mute" = none := by
  intro params descriptions
  have hdistinct : (params.map (·.name)).Nodup := by decide
  obtain ⟨-, htype, -, hnone⟩ := infer_pointwise hdistinct descriptions
  have hpan : NoLiteral params "pan" := ofParams?_eq_none_iff.1 (by decide)
  have hframe : Literal "-1.5" number := ofLiteral?_eq_some_iff.1 (by decide)
  refine ⟨hdistinct, (htype "pan" "from left to right" (by decide) _).2 (.words hpan),
    (htype "frame" "where to start" (by decide) _).2 (.default (by decide) hframe),
    (htype "loop" "the number of loops" (by decide) _).2 (.default (by decide) .truth),
    hnone ⟨"mute", some "false"⟩ (by decide) (by decide)⟩

/-! ## Truth values -/

theorem Literal.eq_boolean_or_number {value : Text} (h : Literal value type) :
    type = boolean ∨ type = number := by
  cases h with
  | truth => exact Or.inl rfl
  | falsehood => exact Or.inl rfl
  | decimal => exact Or.inr rfl

/-- **Truth values as defaults.** A described variable that is the name of a parameter with the
default `true` or `false` is a boolean, unless the last literal among the defaults of its name is a
number; then it is a number. So it is a boolean if no name is repeated. -/
theorem boolean_default_iff {value : Text} (hd : name ∈ descriptions.keys)
    (hp : ⟨name, some value⟩ ∈ params)
    (hbool : value = ("true" : Text) ∨ value = ("false" : Text)) :
    ((infer descriptions params).get? name = some boolean ↔ ¬ LastLiteral params name number) ∧
    ((infer descriptions params).get? name = some number ↔ LastLiteral params name number) ∧
    ((params.map (·.name)).Nodup → (infer descriptions params).get? name = some boolean) := by
  obtain ⟨d, hd⟩ := TextMap.contains_iff.1 (TextMap.mem_keys_iff.1 hd)
  have hliteral : Literal value boolean := by
    rcases hbool with rfl | rfl
    · exact .truth
    · exact .falsehood
  obtain ⟨type, hlast⟩ := (lastLiteral_or_none params name).resolve_right
    fun hnone => hnone value boolean hp hliteral
  have htype := get?_infer_of_last hd hlast
  have hcases : type = boolean ∨ type = number := by
    obtain ⟨_, _, _, _, hvalue, _⟩ := hlast
    exact hvalue.eq_boolean_or_number
  have hnumber : LastLiteral params name number ↔ type = number :=
    ⟨hlast.unique, fun he => he ▸ hlast⟩
  refine ⟨?_, ?_, fun hdistinct => ?_⟩
  · rw [htype, hnumber]
    rcases hcases with rfl | rfl <;> simp
  · rw [htype, hnumber, Option.some.injEq]
  · exact get?_infer_of_last hd ((lastLiteral_iff_of_nodup hdistinct).2 ⟨value, hp, hliteral⟩)

/-- The parameters that a call with the given arguments shows. -/
def callParams (args : Text) : List Parameter :=
  (Signature.ofText "play" ("\x60play(" ++ args ++ ")\x60")).params

def loopDescriptions : TextMap Text := .ofList [("loop", "whether to go on")]

/-- A variable with the default `true` is a number when the call lists its name again. -/
theorem boolean_default_overruled :
    callParams "[loop=true], [loop=1]" = [⟨"loop", some "true"⟩, ⟨"loop", some "1"⟩] ∧
    (infer loopDescriptions (callParams "[loop=true], [loop=1]")).get? "loop" = some number := by
  decide +kernel

/-- It stays a boolean when the truth value comes last, or what follows it is no literal. -/
theorem boolean_default_last :
    let params := callParams "[loop=1], [loop=true], [loop=on]"
    ("loop" : Text) ∈ loopDescriptions.keys ∧ ⟨"loop", some "true"⟩ ∈ params ∧
      ¬ LastLiteral params "loop" number ∧
      (infer loopDescriptions params).get? "loop" = some boolean := by
  intro params
  have hd : ("loop" : Text) ∈ loopDescriptions.keys := by decide
  have hp : ⟨"loop", some "true"⟩ ∈ params := by decide +kernel
  have hlast : ¬ LastLiteral params "loop" number := by decide +kernel
  exact ⟨hd, hp, hlast, (boolean_default_iff hd hp (Or.inl rfl)).1.2 hlast⟩

end WikiStubs.VarType
