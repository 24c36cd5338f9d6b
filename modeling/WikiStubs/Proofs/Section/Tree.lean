import Mathlib.Data.Nat.Find
import WikiStubs.Proofs.Section.Extent
import WikiStubs.Proofs.Section.Namesakes

/-!
# The tree of sections

`Section.within` looks for the least level that occurs (`LeastLevel`) and has one section for each
extent of that level (`within_of_least`), and none when no level occurs (`within_of_none`).

A section at any depth (`Section.Below`) is the section of an extent that stands in the lines of
the page (`Found`): the extent begins with the heading of the section, all headings in it are
deeper, and behind it comes nothing or a heading that is no deeper. One step down the tree keeps
this (`Found.trans`), so every section has it (`found_of_below`).
-/
namespace WikiStubs

/-- The least level from `low` on that a heading among the lines has. -/
structure LeastLevel (low level : Nat) (ls : List Line) : Prop where
  low_le : low ≤ level
  occurs : ∃ l ∈ ls, l.level? = some level
  least : ∀ l ∈ ls, ∀ k, l.level? = some k → low ≤ k → level ≤ k

namespace LeastLevel

variable {low level : Nat} {ls : List Line}

theorem le_maxLevel (h : LeastLevel low level ls) : level ≤ maxLevel := by
  obtain ⟨l, -, hl⟩ := h.occurs
  exact (Line.level?_eq_some_iff.1 hl).2.2

theorem level?_iff (hlow : 1 ≤ low) (h : LeastLevel low level ls) {l : Line} :
    l.level? = some level ↔ IsHeading level l.text := by
  rw [Line.level?_eq_some_iff]
  exact ⟨fun hl => hl.1, fun hl => ⟨hl, Nat.le_trans hlow h.low_le, h.le_maxLevel⟩⟩

theorem unique {k : Nat} (h : LeastLevel low level ls) (h' : LeastLevel low k ls) : level = k := by
  obtain ⟨l, hl, hk⟩ := h.occurs
  obtain ⟨l', hl', hk'⟩ := h'.occurs
  exact Nat.le_antisymm (h.least l' hl' k hk' h'.low_le) (h'.least l hl level hk h.low_le)

end LeastLevel

/-- Either no level from `low` on occurs, or there is a least one. -/
theorem leastLevel_or_none (low : Nat) (ls : List Line) :
    (∀ l ∈ ls, ∀ k, l.level? = some k → k < low) ∨ ∃ level, LeastLevel low level ls := by
  by_cases h : ∃ k, low ≤ k ∧ ∃ l ∈ ls, l.level? = some k
  · right
    classical
    obtain ⟨h1, h2⟩ := Nat.find_spec h
    exact ⟨Nat.find h, h1, h2, fun l hl k hk hlow => Nat.find_min' h ⟨hlow, l, hl, hk⟩⟩
  · left
    intro l hl k hk
    by_contra hlt
    exact h ⟨k, by omega, l, hl, hk⟩

namespace Section

/-! ## One level -/

/-- The section of an extent of the given level. -/
def ofExtent (level : Nat) (x : Extent) : Section where
  name := x.name
  body := x.body level
  subsections := keepLast (within (maxLevel - level) x.content)
  span := x.span

theorem within_of_none {depth : Nat} {ls : List Line} (hd : depth ≤ maxLevel)
    (h : ∀ l ∈ ls, ∀ k, l.level? = some k → k < maxLevel + 1 - depth) : within depth ls = [] := by
  induction depth with
  | zero => rfl
  | succ depth ih =>
    have hcut : (Extent.cut (maxLevel - depth) ls).2 = [] :=
      Extent.cut_eq_nil_iff.2 fun l hl hk => by have := h l hl _ hk; omega
    simp only [within, hcut]
    exact ih (by omega) fun l hl k hk => by have := h l hl k hk; omega

/-- The sections of some lines: one for each extent of the least level. -/
theorem within_of_least {depth level : Nat} {ls : List Line} (hd : depth ≤ maxLevel)
    (h : LeastLevel (maxLevel + 1 - depth) level ls) :
    within depth ls = (Extent.cut level ls).2.map (ofExtent level) := by
  induction depth with
  | zero => have := h.low_le; have := h.le_maxLevel; omega
  | succ depth ih =>
    by_cases hlevel : level = maxLevel - depth
    · subst hlevel
      obtain ⟨l, hl, hk⟩ := h.occurs
      have hne : (Extent.cut (maxLevel - depth) ls).2 ≠ [] := fun e =>
        Extent.cut_eq_nil_iff.1 e l hl hk
      obtain ⟨x, xs, hx⟩ := List.exists_cons_of_ne_nil hne
      have hdepth : maxLevel - (maxLevel - depth) = depth := by omega
      simp only [within, hx]
      refine List.map_congr_left fun y _ => ?_
      rw [ofExtent, hdepth]
    · have hlow := h.low_le
      have hcut : (Extent.cut (maxLevel - depth) ls).2 = [] :=
        Extent.cut_eq_nil_iff.2 fun l hl hk => by have := h.least l hl _ hk (by omega); omega
      simp only [within, hcut]
      exact ih (by omega)
        ⟨by omega, h.occurs, fun l hl k hk hle => h.least l hl k hk (by omega)⟩

/-- The sections of some lines at the least level from `low` on. -/
def fromLevel (low : Nat) (ls : List Line) : List Section := within (maxLevel + 1 - low) ls

theorem fromLevel_of_none {low : Nat} {ls : List Line} (hlow : 1 ≤ low)
    (h : ∀ l ∈ ls, ∀ k, l.level? = some k → k < low) : fromLevel low ls = [] := by
  refine within_of_none (by omega) fun l hl k hk => ?_
  have := h l hl k hk
  have := (Line.level?_eq_some_iff.1 hk).2.2
  omega

theorem fromLevel_of_least {low level : Nat} {ls : List Line} (hlow : 1 ≤ low)
    (h : LeastLevel low level ls) :
    fromLevel low ls = (Extent.cut level ls).2.map (ofExtent level) := by
  have h7 := h.le_maxLevel
  have hle := h.low_le
  refine within_of_least (by omega) ?_
  rwa [show maxLevel + 1 - (maxLevel + 1 - low) = low by omega]

/-- A heading above all others that count: its section is the only one. -/
theorem fromLevel_cons_of_deeper {low level : Nat} {l : Line} {ls : List Line} (hlow : 1 ≤ low)
    (hle : low ≤ level) (hl : l.level? = some level)
    (hdeeper : ∀ j ∈ ls, ∀ k, j.level? = some k → low ≤ k → level < k) :
    fromLevel low (l :: ls) = [ofExtent level ⟨Heading.nameOf (Heading.title l.text), l, ls⟩] := by
  have hleast : LeastLevel low level (l :: ls) := by
    refine ⟨hle, ⟨l, List.mem_cons_self .., hl⟩, fun j hj k hk hlk => ?_⟩
    rcases List.mem_cons.1 hj with rfl | hj
    · exact Nat.le_of_eq (Option.some.inj (hl.symm.trans hk))
    · exact Nat.le_of_lt (hdeeper j hj k hk hlk)
  have hnone : ∀ j ∈ ls, j.level? ≠ some level := fun j hj hk =>
    Nat.lt_irrefl level (hdeeper j hj level hk hle)
  rw [fromLevel_of_least hlow hleast, Extent.cut_cons_of_level hl, Extent.cut_of_none hnone,
    List.map_singleton]

theorem subsections_ofExtent (level : Nat) (x : Extent) :
    (ofExtent level x).subsections = keepLast (fromLevel (level + 1) x.content) := by
  rw [fromLevel, Nat.add_sub_add_right]; rfl

/-! ## All levels -/

/-- A section of a list of sections, at any depth. -/
inductive Below : Section → List Section → Prop where
  | here {s : Section} {ss : List Section} : s ∈ ss → Below s ss
  | inside {s u : Section} {ss : List Section} : u ∈ ss → Below s u.subsections → Below s ss

/-- A section and all sections below it. -/
theorem forall_below_singleton {u : Section} {P : Section → Prop} :
    (∀ d, Below d [u] → P d) ↔ P u ∧ ∀ v ∈ u.subsections, ∀ d, Below d [v] → P d := by
  constructor
  · intro h
    refine ⟨h u (.here (List.mem_singleton_self u)), fun v hv d hd => h d ?_⟩
    refine .inside (List.mem_singleton_self u) ?_
    cases hd with
    | here hd => exact .here (List.mem_singleton.1 hd ▸ hv)
    | inside hw hd => exact .inside hv (List.mem_singleton.1 hw ▸ hd)
  · rintro ⟨hu, hsub⟩ d hd
    cases hd with
    | here hd => exact List.mem_singleton.1 hd ▸ hu
    | inside hw hd =>
      rw [List.mem_singleton.1 hw] at hd
      cases hd with
      | here hd => exact hsub d hd d (.here (List.mem_singleton_self d))
      | inside hv hd => exact hsub _ hv d (.inside (List.mem_singleton_self _) hd)

/-- An extent of the given level found in some lines when headings from level `low` on count. -/
structure Found (low : Nat) (ls : List Line) (level : Nat) (x : Extent) : Prop where
  low_le : low ≤ level
  head : x.head.level? = some level
  name : x.name = Heading.nameOf (Heading.title x.head.text)
  place : ∃ pre post, ls = pre ++ (x.head :: x.content ++ post) ∧
    ∀ l ∈ post.head?, ∃ k, l.level? = some k ∧ low ≤ k ∧ k ≤ level
  deeper : ∀ l ∈ x.content, ∀ k, l.level? = some k → low ≤ k → level < k

namespace Found

variable {low level k : Nat} {ls : List Line} {x y : Extent}

theorem mem_head (h : Found low ls level x) : x.head ∈ ls := by
  obtain ⟨pre, post, e, -⟩ := h.place
  simp [e]

theorem content_subset (h : Found low ls level x) : x.content ⊆ ls := by
  obtain ⟨pre, post, e, -⟩ := h.place
  intro l hl
  simp [e, hl]

/-- What is found in an extent is found in the lines around it. -/
theorem trans (h : Found low ls level x) (h' : Found (level + 1) x.content k y) :
    Found low ls k y := by
  obtain ⟨pre, post, e, hpost⟩ := h.place
  obtain ⟨pre', post', e', hpost'⟩ := h'.place
  have hlow := h.low_le
  have hlow' := h'.low_le
  refine ⟨by omega, h'.head, h'.name, ⟨pre ++ x.head :: pre', post' ++ post, ?_, ?_⟩, ?_⟩
  · rw [e, e']; simp
  · intro l hl
    cases hp : post' with
    | nil =>
      obtain ⟨j, h1, h2, h3⟩ := hpost l (by simpa [hp] using hl)
      exact ⟨j, h1, h2, by omega⟩
    | cons p ps =>
      obtain ⟨j, h1, h2, h3⟩ := hpost' l (by simpa [hp] using hl)
      exact ⟨j, h1, by omega, h3⟩
  · intro l hl j hj hlj
    exact h'.deeper l hl j hj (h.deeper l (h'.content_subset hl) j hj hlj)

end Found

theorem found_of_mem_cut {low level : Nat} {ls : List Line} {x : Extent}
    (h : LeastLevel low level ls) (hx : x ∈ (Extent.cut level ls).2) : Found low ls level x := by
  obtain ⟨h1, h2⟩ := Extent.head_of_mem_cut hx
  obtain ⟨pre, post, e, hc, hp⟩ := Extent.exists_of_mem_cut hx
  refine ⟨h.low_le, h1, h2, ⟨pre, post, e, fun l hl => ?_⟩, fun l hl k hk hle => ?_⟩
  · exact ⟨level, hp l hl, h.low_le, Nat.le_refl _⟩
  · have hne : k ≠ level := fun e => hc l hl (e ▸ hk)
    have := h.least l (by rw [e]; simp [hl]) k hk hle
    omega

theorem found_of_mem {low : Nat} {ls : List Line} (hlow : 1 ≤ low) {s : Section}
    (hs : s ∈ fromLevel low ls) : ∃ level x, Found low ls level x ∧ s = ofExtent level x := by
  rcases leastLevel_or_none low ls with h | ⟨level, h⟩
  · rw [fromLevel_of_none hlow h] at hs; cases hs
  · rw [fromLevel_of_least hlow h] at hs
    obtain ⟨x, hx, rfl⟩ := List.mem_map.1 hs
    exact ⟨level, x, found_of_mem_cut h hx, rfl⟩

/-- Every section at any depth is the section of an extent of the lines. -/
theorem found_of_below {ss : List Section} {s : Section} (h : Below s ss) :
    ∀ {low : Nat} {ls : List Line}, 1 ≤ low → ss ⊆ fromLevel low ls →
      ∃ level x, Found low ls level x ∧ s = ofExtent level x := by
  induction h with
  | here hs => intro low ls hlow hss; exact found_of_mem hlow (hss hs)
  | inside hu _ ih =>
    intro low ls hlow hss
    obtain ⟨level, x, hx, rfl⟩ := found_of_mem hlow (hss hu)
    rw [subsections_ofExtent] at ih
    obtain ⟨k, y, hy, rfl⟩ := ih (by omega) fun _ hv => mem_keepLast hv
    exact ⟨k, y, hx.trans hy, rfl⟩

/-- Down the tree: what holds of an extent as soon as it holds of the extents that it is cut into
holds of every extent that is found. -/
theorem Found.induction {low : Nat} {ls : List Line} {P : Nat → Extent → Prop}
    (step : ∀ level x, Found low ls level x →
      (∀ least, LeastLevel (level + 1) least x.content →
        ∀ y ∈ (Extent.cut least x.content).2, P least y) → P level x) :
    ∀ level x, Found low ls level x → P level x := by
  intro level
  induction hn : maxLevel - level using Nat.strongRecOn generalizing level with
  | ind n ih =>
    intro x h
    refine step level x h fun least hleast y hy => ?_
    have h1 := hleast.low_le
    have h7 := hleast.le_maxLevel
    exact ih (maxLevel - least) (by omega) least rfl y (h.trans (found_of_mem_cut hleast hy))

end Section
end WikiStubs
