import WikiStubs.Proofs.Bullet
import WikiStubs.Proofs.Descriptions
import WikiStubs.Proofs.Record.Outcome

/-!
# Whose description of a variable counts

A record describes the variables that its page describes and the extra variables of the section.
The extra variables are put in last (`Section.exists_described`), so where both speak of one
variable the page's own description is gone, although extra variables are meant for what pages use
without describing it (`own_description_lost`).

Results:
* `Record.own_descriptions_iff`: an extra variable has the description of the table, any other
  variable has its own (`Section.Says`), that is, what the last bullet which names it says. So a
  record has all the page's own descriptions exactly if the page does not say of an extra variable
  what the table does not say.
-/
namespace WikiStubs

namespace Section

variable {s : Section} {v d : Text}

/-- What the page itself says of a variable: the description in the last bullet that names it. -/
def Says (s : Section) (v d : Text) : Prop :=
  ∃ before line after, s.bullets = before ++ line :: after ∧ Bullet.Names line v d ∧
    ∀ l ∈ after, ∀ d', ¬ Bullet.Names l v d'

/-- The descriptions of a section are those of its bullets, and over them the extra variables. -/
theorem exists_described (h : ∀ l ∈ s.bullets, Bullet.WellFormed l) :
    ∃ m, LastNamed s.bullets m ∧ s.described = m.insertAll (Corrections.extrasFor s.name) := by
  have hread : describeAll s.bullets = .ok (TextMap.ofList
      ((s.bullets.filterMap Bullet.ofLine?).flatMap Bullet.entries)) := by
    unfold describeAll
    rw [Bullet.mapM_ofLine h]
    rfl
  rcases describeAll_outcome s.bullets with ⟨m, hm, -, hlast⟩ | ⟨line, hfault, -⟩
  · obtain rfl := Except.ok.inj (hread.symm.trans hm)
    exact ⟨_, hlast, rfl⟩
  · rw [hread] at hfault
    cases hfault

/-- The table decides on an extra variable. -/
theorem get?_described_of_extra (h : (v, d) ∈ Corrections.extrasFor s.name) :
    s.described.get? v = some d :=
  TextMap.get?_insertAll_of_mem (Corrections.nodup_names_extrasFor s.name) h

/-- The page decides on every other variable. -/
theorem get?_described_of_not_extra (hbullets : ∀ l ∈ s.bullets, Bullet.WellFormed l)
    (hv : v ∉ (Corrections.extrasFor s.name).map (·.1)) :
    s.described.get? v = some d ↔ s.Says v d := by
  obtain ⟨m, hlast, hdescribed⟩ := exists_described hbullets
  rw [hdescribed, TextMap.get?_insertAll_of_not_mem hv]
  exact hlast.values v d

end Section

namespace Record

variable [PatternCompiler] {function : Text} {s : Section} {r : Record}

/-- **Own descriptions.** In the record of a section each extra variable has the description that
the table gives it, and every other variable the one that the page gives it, if any. So all of the
page's own descriptions are in the record exactly if the page describes no extra variable in other
words than the table. -/
theorem own_descriptions_iff (h : ofSection function s = .ok r) :
    (∀ v d, (v, d) ∈ Corrections.extrasFor s.name → r.descriptions.get? v = some d) ∧
    (∀ v d, v ∉ (Corrections.extrasFor s.name).map (·.1) →
      (r.descriptions.get? v = some d ↔ s.Says v d)) ∧
    ((∀ v d, s.Says v d → r.descriptions.get? v = some d) ↔
      ∀ v d x, s.Says v d → (v, x) ∈ Corrections.extrasFor s.name → x = d) := by
  obtain ⟨_, -, complete, -, -, rfl⟩ := eq_of_ofSection h
  refine ⟨fun v d => Section.get?_described_of_extra,
    fun v d => Section.get?_described_of_not_extra complete.bullets, ?_, ?_⟩
  · intro hown v d x hsays hextra
    have htable := Section.get?_described_of_extra hextra
    rw [hown v d hsays] at htable
    exact (Option.some.inj htable).symm
  · intro hsame v d hsays
    by_cases hv : v ∈ (Corrections.extrasFor s.name).map (·.1)
    · obtain ⟨⟨v, x⟩, hextra, rfl⟩ := List.mem_map.1 hv
      rw [← hsame v d x hsays hextra]
      exact Section.get?_described_of_extra hextra
    · exact (Section.get?_described_of_not_extra complete.bullets hv).2 hsays

end Record

/-! ## A description that gives way -/

/-- A section that describes its flag twice, and its return value, which is an extra variable of
every section. -/
def fgetSection : Section where
  name := "fget"
  body := "\x60fget(flag) -> bool\x60\n"
  subsections :=
    [⟨"Parameters", "* **flag** : any flag\n* **flag** : the flag index\n", [], ⟨0, 0⟩⟩,
     ⟨"Returns", "* **bool** : whether the flag is set\n", [], ⟨0, 0⟩⟩,
     ⟨"Description", "Reads a flag.\n", [], ⟨0, 0⟩⟩]
  span := ⟨0, 0⟩

def fgetRecord : Record where
  name := "fget"
  signature := ⟨[⟨"flag", none⟩], ["bool"]⟩
  descriptions := TextMap.ofList [("flag", "the flag index"), ("bool", "a boolean")]
  types := TextMap.ofList [("flag", .number), ("bool", .boolean)]
  description := "Reads a flag."

theorem ofSection_fgetSection : Record.ofSection "fget" fgetSection = .ok fgetRecord := by
  decide +kernel

theorem fgetSection_says_bool : fgetSection.Says "bool" "whether the flag is set" :=
  ⟨["* **flag** : any flag", "* **flag** : the flag index"],
    "* **bool** : whether the flag is set", [], by decide +kernel,
    ⟨⟨["bool"], "whether the flag is set"⟩, by decide +kernel, by decide, rfl⟩,
    List.forall_mem_nil _⟩

/-- A section may describe a variable itself, and its record has another description for it. -/
theorem own_description_lost : Record.ofSection "fget" fgetSection = .ok fgetRecord ∧
    fgetSection.Says "bool" "whether the flag is set" ∧
    fgetRecord.descriptions.get? "bool" ≠ some "whether the flag is set" :=
  ⟨ofSection_fgetSection, fgetSection_says_bool, by decide +kernel⟩

/-- Of the two bullets for the flag the last counts, that for the extra variable does not. -/
theorem own_descriptions_fget : Record.ofSection "fget" fgetSection = .ok fgetRecord ∧
    fgetSection.Says "flag" "the flag index" ∧
    fgetRecord.descriptions.get? "bool" = some "a boolean" ∧
    ¬ ∀ v d x, fgetSection.Says v d → (v, x) ∈ Corrections.extrasFor fgetSection.name → x = d := by
  have hextra : (("bool" : Text), ("a boolean" : Text)) ∈ Corrections.extrasFor fgetSection.name :=
    by decide +kernel
  obtain ⟨htable, hown, -⟩ := Record.own_descriptions_iff ofSection_fgetSection
  have hflag := (hown "flag" "the flag index" (by decide +kernel)).1 (by decide +kernel)
  refine ⟨ofSection_fgetSection, hflag, htable _ _ hextra, ?_⟩
  intro hsame
  exact absurd (hsame _ _ _ fgetSection_says_bool hextra) (by decide)

end WikiStubs
