import WikiStubs.Proofs.Bullet.Grammar
import WikiStubs.Proofs.Runs
import WikiStubs.Proofs.TextMap
import WikiStubs.Record

/-!
# When a section gives a record

Once a function has a signature, a section gives its record unless one of three things is wrong
with it, and the first in this order is the fault: a bullet of another shape, a variable of the
signature that nothing describes, no description of the function (`Section.Fails`). There is no
other fault (`Record.ofSection_outcome`). A function has a signature when it is corrected or when
the pattern of its calls compiles; otherwise the refusal of the pattern is the fault, and nothing
else is looked at.

A variable is described by a bullet that names it, or because it is an extra variable of the
section (`Section.Describes`). Extra variables and corrected descriptions go by the name of the
section, corrected signatures by that of the function.

* `Bullet.mapM_ofLine`: bullets of the right shape are all read.
* `Section.contains_described`: the variables that end up with a description.
* `Record.eq_of_ofSection`: what a record holds, and what its section must have been like.
-/
namespace WikiStubs

/-! ## Bullets in order -/

namespace Bullet

theorem mapM_ofLine {ls : List Text} (h : ∀ l ∈ ls, WellFormed l) :
    ls.mapM ofLine = .ok (ls.filterMap ofLine?) := by
  induction ls with
  | nil => rfl
  | cons l ls ih =>
    have hl := ofLine?_isSome_iff.2 (h l (List.mem_cons_self ..))
    obtain ⟨b, hb⟩ := Option.isSome_iff_exists.1 hl
    rw [List.mapM_cons, ofLine_eq_ok hb, ih fun x hx => h x (List.mem_cons_of_mem _ hx),
      List.filterMap_cons_some hb]
    rfl

/-- The first line of another shape is the fault, whatever follows it. -/
theorem mapM_ofLine_append {before after : List Text} {line : Text}
    (hbefore : ∀ l ∈ before, WellFormed l) (hline : ¬ WellFormed line) :
    (before ++ line :: after).mapM ofLine = .error (.malformed .bullet line) := by
  rw [List.mapM_append, mapM_ofLine hbefore, List.mapM_cons, ofLine_eq_error hline]
  rfl

end Bullet

namespace Section

variable {function : Text} {s : Section} {signature : Signature}

/-! ## Descriptions of variables -/

/-- A bullet of the section names the variable, or it is an extra variable of the section. -/
def Describes (s : Section) (v : Text) : Prop :=
  (∃ line ∈ s.bullets, ∃ b, Bullet.ofLine? line = some b ∧ v ∈ b.names) ∨
    v ∈ (Corrections.extrasFor s.name).map (·.1)

/-- What the bullets of the section and the extra variables say; of several descriptions of one
variable the last counts. -/
def described (s : Section) : TextMap Text :=
  (TextMap.ofList ((s.bullets.filterMap Bullet.ofLine?).flatMap fun b =>
    b.names.map fun n => (n, b.description))).insertAll (Corrections.extrasFor s.name)

theorem contains_described {v : Text} : s.described.contains v = true ↔ s.Describes v := by
  unfold described Describes
  rw [TextMap.contains_insertAll, TextMap.contains_ofList, or_comm]
  refine or_congr_left ?_
  simp only [List.mem_map, List.mem_flatMap, List.mem_filterMap]
  constructor
  · rintro ⟨-, ⟨b, ⟨line, hline, hb⟩, n, hn, rfl⟩, rfl⟩
    exact ⟨line, hline, b, hb, hn⟩
  · rintro ⟨line, hline, b, hb, hv⟩
    exact ⟨_, ⟨b, ⟨line, hline, hb⟩, v, hv, rfl⟩, rfl⟩

instance (s : Section) (v : Text) : Decidable (s.Describes v) :=
  decidable_of_iff _ contains_described

/-! ## Faults -/

def noDescription (s : Section) : Fault :=
  .malformed .description ("section " ++ Fault.quoted s.name ++ " has no Description subsection")

/-- Why a section gives no record of a function with this signature. -/
inductive Fails (signature : Signature) (s : Section) : Fault → Prop where
  /-- The first bullet of another shape. -/
  | malformed {before after : List Text} {line : Text} (split : s.bullets = before ++ line :: after)
      (hbefore : ∀ l ∈ before, Bullet.WellFormed l) (hline : ¬ Bullet.WellFormed line) :
      Fails signature s (.malformed .bullet line)
  /-- The first variable of the signature that is not described. -/
  | undescribed {before after : List Text} {v : Text}
      (bullets : ∀ l ∈ s.bullets, Bullet.WellFormed l)
      (split : signature.names = before ++ v :: after)
      (hbefore : ∀ u ∈ before, s.Describes u) (hv : ¬ s.Describes v) :
      Fails signature s (s.undescribed v)
  /-- No description of the function, not even a corrected one. -/
  | noDescription (bullets : ∀ l ∈ s.bullets, Bullet.WellFormed l)
      (names : ∀ v ∈ signature.names, s.Describes v)
      (notCorrected : Corrections.descriptionFor? s.name = none)
      (absent : s.subsection? "Description" = none) : Fails signature s s.noDescription

section
variable [PatternCompiler]

theorem describedSignature_of_error {e : Fault} (h : s.signature function = .error e) :
    s.describedSignature function = .error e := by
  rw [describedSignature, h]
  rfl

theorem describedSignature_of_wellFormed (hsignature : s.signature function = .ok signature)
    (h : ∀ l ∈ s.bullets, Bullet.WellFormed l) :
    s.describedSignature function =
      match signature.names.find? (!s.described.contains ·) with
      | some v => .error (s.undescribed v)
      | none => .ok (signature, s.described) := by
  rw [describedSignature, hsignature, descriptions, Bullet.mapM_ofLine h]
  rfl

theorem describedSignature_of_malformed (hsignature : s.signature function = .ok signature)
    {before after : List Text} {line : Text} (split : s.bullets = before ++ line :: after)
    (hbefore : ∀ l ∈ before, Bullet.WellFormed l) (hline : ¬ Bullet.WellFormed line) :
    s.describedSignature function = .error (.malformed .bullet line) := by
  rw [describedSignature, hsignature, descriptions, split,
    Bullet.mapM_ofLine_append hbefore hline]
  rfl

theorem describedSignature_of_undescribed (hsignature : s.signature function = .ok signature)
    {before after : List Text} {v : Text} (bullets : ∀ l ∈ s.bullets, Bullet.WellFormed l)
    (split : signature.names = before ++ v :: after)
    (hbefore : ∀ u ∈ before, s.Describes u) (hv : ¬ s.Describes v) :
    s.describedSignature function = .error (s.undescribed v) := by
  have hfind : signature.names.find? (!s.described.contains ·) = some v := by
    refine List.find?_eq_some_iff_append.2 ⟨?_, before, after, split, fun u hu => ?_⟩
    · rw [Bool.not_eq_true', ← Bool.not_eq_true, contains_described]
      exact hv
    · rw [Bool.not_not, contains_described]
      exact hbefore u hu
  rw [describedSignature_of_wellFormed hsignature bullets, hfind]

theorem describedSignature_of_described (hsignature : s.signature function = .ok signature)
    (bullets : ∀ l ∈ s.bullets, Bullet.WellFormed l)
    (names : ∀ v ∈ signature.names, s.Describes v) :
    s.describedSignature function = .ok (signature, s.described) := by
  have hfind : signature.names.find? (!s.described.contains ·) = none := by
    refine List.find?_eq_none.2 fun v hv => ?_
    rw [Bool.not_eq_true', ← Bool.not_eq_true, not_not, contains_described]
    exact names v hv
  rw [describedSignature_of_wellFormed hsignature bullets, hfind]

end

/-! ## Success -/

/-- Nothing is wrong with a section as the documentation of a function with this signature. -/
structure Complete (signature : Signature) (s : Section) : Prop where
  bullets : ∀ l ∈ s.bullets, Bullet.WellFormed l
  names : ∀ v ∈ signature.names, s.Describes v
  description : Corrections.descriptionFor? s.name ≠ none ∨ s.subsection? "Description" ≠ none

theorem Complete.exists_freeDescription (h : s.Complete signature) :
    ∃ d, s.freeDescription = .ok d := by
  unfold freeDescription
  cases hfix : Corrections.descriptionFor? s.name with
  | some text => exact ⟨text, rfl⟩
  | none =>
    cases hsub : s.subsection? "Description" with
    | some d => exact ⟨Link.rewrite d.text, rfl⟩
    | none =>
      rcases h.description with hne | hne
      · exact absurd hfix hne
      · exact absurd hsub hne

/-- A section has everything or fails in one of the three ways. -/
theorem complete_or_fails (signature : Signature) (s : Section) :
    s.Complete signature ∨ ∃ e, s.Fails signature e := by
  rcases forall_or_first Bullet.WellFormed s.bullets with
    bullets | ⟨before, line, after, split, hbefore, hline⟩
  · rcases forall_or_first s.Describes signature.names with
      names | ⟨before, v, after, split, hbefore, hno⟩
    · by_cases hd : Corrections.descriptionFor? s.name = none ∧ s.subsection? "Description" = none
      · exact Or.inr ⟨_, .noDescription bullets names hd.1 hd.2⟩
      · exact Or.inl ⟨bullets, names, not_and_or.1 hd⟩
    · exact Or.inr ⟨_, .undescribed bullets split hbefore hno⟩
  · exact Or.inr ⟨_, .malformed split hbefore hline⟩

end Section

namespace Record

variable [PatternCompiler] {function : Text} {s : Section} {signature : Signature}

theorem ofSection_of_signature_error {e : Fault} (h : s.signature function = .error e) :
    ofSection function s = .error e := by
  rw [ofSection, Section.describedSignature_of_error h]
  rfl

theorem ofSection_of_fails (hsignature : s.signature function = .ok signature) {e : Fault}
    (h : s.Fails signature e) : ofSection function s = .error e := by
  unfold ofSection
  cases h with
  | malformed split hbefore hline =>
    rw [Section.describedSignature_of_malformed hsignature split hbefore hline]
    rfl
  | undescribed bullets split hbefore hv =>
    rw [Section.describedSignature_of_undescribed hsignature bullets split hbefore hv]
    rfl
  | noDescription bullets names notCorrected absent =>
    rw [Section.describedSignature_of_described hsignature bullets names, Section.freeDescription,
      notCorrected, absent]
    rfl

theorem ofSection_of_complete (hsignature : s.signature function = .ok signature)
    (h : s.Complete signature) {d : Text} (hd : s.freeDescription = .ok d) :
    ofSection function s = .ok {
      name := function
      signature := signature
      descriptions := s.described
      types := VarType.infer s.described signature.params
      description := d } := by
  rw [ofSection, Section.describedSignature_of_described hsignature h.bullets h.names, hd]
  rfl

/-- What a record holds, and what the section that gives it is like. -/
theorem eq_of_ofSection {r : Record} (h : ofSection function s = .ok r) :
    ∃ signature, s.signature function = .ok signature ∧ s.Complete signature ∧
      ∃ d, s.freeDescription = .ok d ∧ r = {
        name := function
        signature := signature
        descriptions := s.described
        types := VarType.infer s.described signature.params
        description := d } := by
  cases hsignature : s.signature function with
  | error e =>
    rw [ofSection_of_signature_error hsignature] at h
    cases h
  | ok signature =>
    rcases Section.complete_or_fails signature s with hc | ⟨e, he⟩
    · obtain ⟨d, hd⟩ := hc.exists_freeDescription
      rw [ofSection_of_complete hsignature hc hd] at h
      exact ⟨signature, rfl, hc, d, hd, (Except.ok.inj h).symm⟩
    · rw [ofSection_of_fails hsignature he] at h
      cases h

theorem name_of_ofSection {r : Record} (h : ofSection function s = .ok r) : r.name = function := by
  obtain ⟨_, -, -, d, -, rfl⟩ := eq_of_ofSection h
  rfl

theorem ofSection_eq_error_iff (hsignature : s.signature function = .ok signature) {e : Fault} :
    ofSection function s = .error e ↔ s.Fails signature e := by
  refine ⟨fun h => ?_, ofSection_of_fails hsignature⟩
  rcases Section.complete_or_fails signature s with hc | ⟨e', he⟩
  · obtain ⟨d, hd⟩ := hc.exists_freeDescription
    rw [ofSection_of_complete hsignature hc hd] at h
    cases h
  · obtain rfl := Except.error.inj ((ofSection_of_fails hsignature he).symm.trans h)
    exact he

end Record
end WikiStubs
