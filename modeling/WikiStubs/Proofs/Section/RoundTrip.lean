import Mathlib.Algebra.Order.BigOperators.Group.List
import Mathlib.Algebra.Order.Group.Nat
import WikiStubs.Proofs.Section.Spans

/-!
# Sections rebuilt

A section is rebuilt from its tree as its heading line, its body and its rebuilt subsections
(`Section.rebuild`). Two things can be missing then: the text of a section whose place a namesake
took, and the text between the first deeper heading, which ends the body, and the first heading
of the least deeper level, which opens the subsections. Nothing else is missing, so what is
rebuilt is the text of the span exactly when every section below is orderly (`Section.Orderly`):
its headings of the least deeper level have distinct names, and no other deeper heading comes
before the first of them.

* `rebuild_of_inOrder`: an extent whose headings are in order, with rebuilt subsections that are
  their texts, is rebuilt.
* `rebuild_eq_or_lt`: what is rebuilt is the text or is shorter, so that no loss is ever made up
  for.
* `rebuild_eq_covered_iff`: the equivalence.
-/
namespace WikiStubs.Section

/-! ## What a section covers -/

/-- The text that a section covers. -/
def covered (t : Text) (s : Section) : Text := t.slice s.span.start s.span.stop

/-- The lines that a section covers. -/
def lines (t : Text) (s : Section) : List Line :=
  (Line.ofText t).filter fun l => s.span.start ≤ l.start ∧ l.start < s.span.stop

/-- The level of a section: the number of hash signs that it starts with. -/
def level (t : Text) (s : Section) : Nat := ((s.covered t).takeWhile (· == '#')).length

section
variable {t : Text} {low level : Nat} {x : Extent}

theorem covered_ofExtent (h : Found low (Line.ofText t) level x) :
    (ofExtent level x).covered t = x.text := by
  obtain ⟨pre, post, e, -⟩ := h.place
  exact Extent.slice_span e

theorem lines_ofExtent (h : Found low (Line.ofText t) level x) :
    (ofExtent level x).lines t = x.head :: x.content := by
  obtain ⟨pre, post, e, -⟩ := h.place
  have hfrom := Line.from_ofText t
  rw [e] at hfrom
  have hfilter := Line.filter_between hfrom
  rw [← e, Nat.zero_add, ← Line.start_of_split e] at hfilter
  simpa [lines, ofExtent, Extent.span, Extent.text] using hfilter

theorem level_ofExtent (h : Found low (Line.ofText t) level x) :
    (ofExtent level x).level t = level := by
  unfold Section.level
  rw [covered_ofExtent h]
  have hhead := (Line.level?_eq_some_iff.1 h.head).1
  exact (isHeading_iff.1 (hhead.append (Line.join x.content))).1

theorem from_content (h : Found low (Line.ofText t) level x) :
    Line.From x.head.stop x.content := by
  obtain ⟨pre, post, e, -⟩ := h.place
  have hpage := Line.from_ofText t
  rw [e] at hpage
  exact (Line.from_append.1 (Line.from_append.1 hpage).2).1.2.2

theorem firstLine_text (h : Found low (Line.ofText t) level x) :
    x.text.rawLines.headD [] = x.head.text := by
  obtain ⟨pre, post, e, -⟩ := h.place
  have hlines := Line.rawLines_join (e.trans (List.append_assoc ..).symm)
  rw [Line.join_cons] at hlines
  rw [Extent.text, hlines]
  rfl

end

/-! ## Rebuilding -/

mutual

/-- The heading line of a section, its body, and its subsections rebuilt in order. -/
def rebuild (t : Text) : Section → Text
  | ⟨_, body, subsections, span⟩ =>
    (t.slice span.start span.stop).rawLines.headD [] ++ body ++ rebuildAll t subsections

def rebuildAll (t : Text) : List Section → Text
  | [] => []
  | s :: ss => rebuild t s ++ rebuildAll t ss

end

theorem rebuildAll_eq (t : Text) (ss : List Section) :
    rebuildAll t ss = ss.flatMap (rebuild t) := by
  induction ss with
  | nil => rfl
  | cons s ss ih => rw [rebuildAll, ih, List.flatMap_cons]

theorem rebuild_eq (t : Text) (s : Section) :
    rebuild t s =
      (s.covered t).rawLines.headD [] ++ s.body ++ s.subsections.flatMap (rebuild t) := by
  obtain ⟨name, body, subsections, span⟩ := s
  rw [rebuild, rebuildAll_eq]
  rfl

theorem rebuild_ofExtent {t : Text} {low level : Nat} {x : Extent}
    (h : Found low (Line.ofText t) level x) :
    rebuild t (ofExtent level x) = x.head.text ++ x.body level ++
      (keepLast (fromLevel (level + 1) x.content)).flatMap (rebuild t) := by
  rw [rebuild_eq, covered_ofExtent h, firstLine_text h, subsections_ofExtent]
  rfl

/-! ## Orderly sections -/

/-- The headings of the least level below that of a section have distinct names, and the first of
them comes before every other heading below. -/
def Orderly (t : Text) (s : Section) : Prop :=
  ∀ least, LeastHeading (s.level t + 1) least ((s.lines t).map (·.text)) →
    (((s.lines t).filter fun l => IsHeading least l.text).map
      fun l => Heading.nameOf (Heading.title l.text)).Nodup ∧
    ∃ first ∈ s.lines t, IsHeading least first.text ∧
      ∀ l ∈ s.lines t, IsHeadingFrom (s.level t + 1) l.text → first.start ≤ l.start

/-- The same of the lines of an extent, cut at their least level. -/
structure InOrder (level least : Nat) (x : Extent) : Prop where
  lead : ∀ l ∈ (Extent.cut least x.content).1, l.isDeeper level = false
  names : ((Extent.cut least x.content).2.map (·.name)).Nodup

section
variable {t : Text} {low level least : Nat} {x : Extent}

theorem leastHeading_lines_iff (h : Found low (Line.ofText t) level x) :
    LeastHeading (level + 1) least ((x.head :: x.content).map (·.text)) ↔
      LeastLevel (level + 1) least x.content := by
  constructor
  · intro hleast
    have hleast := hleast.leastLevel (Nat.le_add_left 1 level)
    obtain ⟨l, hl, hlevel⟩ := hleast.occurs
    have hlow := hleast.low_le
    refine ⟨hlow, ⟨l, ?_, hlevel⟩, fun l hl => hleast.least l (List.mem_cons_of_mem _ hl)⟩
    rcases List.mem_cons.1 hl with rfl | hl
    · have := Option.some.inj (h.head.symm.trans hlevel)
      omega
    · exact hl
  · intro hleast
    refine LeastLevel.leastHeading (Nat.le_add_left 1 level) ⟨hleast.low_le, ?_, ?_⟩
    · obtain ⟨l, hl, hlevel⟩ := hleast.occurs
      exact ⟨l, List.mem_cons_of_mem _ hl, hlevel⟩
    · intro l hl k hk hle
      rcases List.mem_cons.1 hl with rfl | hl
      · have := Option.some.inj (h.head.symm.trans hk)
        omega
      · exact hleast.least l hl k hk hle

theorem names_lines (h : Found low (Line.ofText t) level x)
    (hleast : LeastLevel (level + 1) least x.content) :
    ((x.head :: x.content).filter fun l => IsHeading least l.text).map
      (fun l => Heading.nameOf (Heading.title l.text)) =
      (Extent.cut least x.content).2.map (·.name) := by
  have hlow := hleast.low_le
  have hhead : ¬ IsHeading least x.head.text := by
    intro hh
    have := hh.unique (Line.level?_eq_some_iff.1 h.head).1
    omega
  have hlevel : ∀ l ∈ x.content,
      decide (IsHeading least l.text) = decide (l.level? = some least) := fun l _ =>
    decide_eq_decide.2 (hleast.level?_iff (Nat.le_add_left 1 level)).symm
  rw [List.filter_cons_of_neg (by simpa using hhead), List.filter_congr hlevel,
    ← Extent.heads_cut, List.map_map]
  exact List.map_congr_left fun y hy => (Extent.head_of_mem_cut hy).2.symm

theorem isDeeper_head (h : Found low (Line.ofText t) level x) : x.head.isDeeper level = false := by
  rw [← Bool.not_eq_true, Line.isDeeper_iff, h.head]
  rintro ⟨k, hk, hlt⟩
  cases hk
  omega

/-- The first heading of the least level comes before the others exactly when none of them stands
in the lead. -/
theorem first_iff (h : Found low (Line.ofText t) level x)
    (hleast : LeastLevel (level + 1) least x.content) :
    (∃ first ∈ x.head :: x.content, IsHeading least first.text ∧
      ∀ l ∈ x.head :: x.content, IsHeadingFrom (level + 1) l.text → first.start ≤ l.start) ↔
    ∀ l ∈ (Extent.cut least x.content).1, l.isDeeper level = false := by
  obtain ⟨f, rest, hsplit, hf⟩ := Extent.exists_first hleast.occurs
  have hfrom := from_content h
  rw [hsplit] at hfrom
  simp only [Line.isHeadingFrom_succ_iff, ← hleast.level?_iff (Nat.le_add_left 1 level)]
  constructor
  · rintro ⟨first, hfirst, hlevel, hbefore⟩ l hl
    -- a deeper heading in the lead would come before the first one of the least level
    by_contra hd
    rw [Bool.not_eq_false] at hd
    have hle := hbefore l (List.mem_cons_of_mem _ (hsplit ▸ List.mem_append_left _ hl)) hd
    have hmem : first ∈ f :: rest := by
      rcases List.mem_cons.1 hfirst with rfl | hfirst
      · have := Option.some.inj (h.head.symm.trans hlevel)
        have := hleast.low_le
        omega
      · rw [hsplit] at hfirst
        rcases List.mem_append.1 hfirst with hlead | hmem
        · exact absurd hlevel (Extent.level?_ne_of_mem_lead hlead)
        · exact hmem
    have := hfrom.lt_of_append hl hmem
    omega
  · intro hlead
    refine ⟨f, List.mem_cons_of_mem _ (hsplit ▸ by simp), hf, fun l hl hd => ?_⟩
    rcases List.mem_cons.1 hl with rfl | hl
    · rw [isDeeper_head h] at hd
      cases hd
    · rw [hsplit] at hl
      rcases List.mem_append.1 hl with hl | hl
      · rw [hlead l hl] at hd
        cases hd
      · obtain ⟨-, hf⟩ := Line.from_append.1 hfrom
        have := hf.bounds hl
        rw [← hf.1] at this
        exact this.1

/-- A section is orderly exactly when the headings of its extent are in order. -/
theorem orderly_ofExtent_iff (h : Found low (Line.ofText t) level x) :
    Orderly t (ofExtent level x) ↔
      ∀ least, LeastLevel (level + 1) least x.content → InOrder level least x := by
  unfold Orderly
  rw [lines_ofExtent h, level_ofExtent h]
  refine forall_congr' fun least => ?_
  rw [leastHeading_lines_iff h]
  refine forall_congr' fun hleast => ?_
  rw [names_lines h hleast, first_iff h hleast]
  exact ⟨fun ⟨h1, h2⟩ => ⟨h2, h1⟩, fun ⟨h1, h2⟩ => ⟨h2, h1⟩⟩

end

/-! ## What is lost -/

section
variable {t : Text} {low level least : Nat} {x : Extent}

theorem length_join_pos {ls : List Line} (hne : ls ≠ []) (h : ∀ l ∈ ls, l.text ≠ []) :
    0 < (Line.join ls).length := by
  obtain ⟨l, ls, rfl⟩ := List.exists_cons_of_ne_nil hne
  have := List.length_pos_iff.2 (h l (List.mem_cons_self ..))
  rw [Line.join_cons, List.length_append]
  omega

/-- The lead is the body and what is lost behind it. -/
theorem lead_eq_body_append (hlevel : level < least) (x : Extent) :
    Line.join (Extent.cut least x.content).1 =
      x.body level ++ Line.join ((Extent.cut least x.content).1.dropWhile (!·.isDeeper level)) := by
  have hbody : x.body level =
      Line.join ((Extent.cut least x.content).1.takeWhile (!·.isDeeper level)) := by
    unfold Extent.body
    rw [Extent.lead_eq, List.takeWhile_takeWhile]
    refine congrArg Line.join (takeWhile_congr fun l _ => ?_)
    rw [Bool.eq_iff_iff, decide_eq_true_iff, decide_eq_true_iff]
    refine ⟨fun hd => ⟨hd, fun hl => ?_⟩, fun hd => hd.1⟩
    rw [Line.isDeeper_iff.2 ⟨least, hl, hlevel⟩] at hd
    cases hd
  rw [hbody, ← Line.join_append, List.takeWhile_append_dropWhile]

theorem text_eq_append (hlevel : level < least) (x : Extent) :
    x.text = x.head.text ++ x.body level ++
      Line.join ((Extent.cut least x.content).1.dropWhile (!·.isDeeper level)) ++
      (Extent.cut least x.content).2.flatMap Extent.text := by
  rw [Extent.text, ← Extent.join_cut least x.content, lead_eq_body_append hlevel]
  simp only [List.append_assoc]

/-- The sections of an extent, before namesakes replace each other. -/
theorem fromLevel_content (hleast : LeastLevel (level + 1) least x.content) :
    fromLevel (level + 1) x.content = (Extent.cut least x.content).2.map (ofExtent least) :=
  fromLevel_of_least (Nat.le_add_left 1 level) hleast

theorem names_fromLevel (hleast : LeastLevel (level + 1) least x.content) :
    (fromLevel (level + 1) x.content).map (·.name) =
      (Extent.cut least x.content).2.map (·.name) := by
  rw [fromLevel_content hleast, List.map_map]
  rfl

/-- An extent without deeper headings is rebuilt. -/
theorem rebuild_of_none (h : Found low (Line.ofText t) level x)
    (hnone : ∀ l ∈ x.content, ∀ k, l.level? = some k → k < level + 1) :
    rebuild t (ofExtent level x) = x.text := by
  have hbody : x.body level = Line.join x.content := by
    unfold Extent.body
    rw [List.takeWhile_eq_self_iff.2]
    intro l hl
    rw [Bool.not_eq_true', ← Bool.not_eq_true, Line.isDeeper_iff]
    rintro ⟨k, hk, hlt⟩
    have := hnone l hl k hk
    omega
  rw [rebuild_ofExtent h, fromLevel_of_none (Nat.le_add_left 1 level) hnone, hbody]
  simp [Extent.text]

/-- An extent whose headings are in order is rebuilt as soon as its subsections are. -/
theorem rebuild_of_inOrder (h : Found low (Line.ofText t) level x)
    (hleast : LeastLevel (level + 1) least x.content) (horder : InOrder level least x)
    (hsub : ∀ y ∈ (Extent.cut least x.content).2, rebuild t (ofExtent least y) = y.text) :
    rebuild t (ofExtent level x) = x.text := by
  have hlost : (Extent.cut least x.content).1.dropWhile (!·.isDeeper level) = [] :=
    List.dropWhile_eq_nil_iff.2 fun l hl => by rw [horder.lead l hl]; rfl
  have hkept := keepLast_of_nodup ((names_fromLevel hleast).symm ▸ horder.names)
  rw [rebuild_ofExtent h, hkept, fromLevel_content hleast, List.flatMap_map,
    text_eq_append hleast.low_le x, hlost, Line.join_nil, List.append_nil]
  exact congrArg _ (List.flatMap_congr hsub)

theorem rebuild_ne_nil (h : Found low (Line.ofText t) level x) :
    rebuild t (ofExtent level x) ≠ [] := by
  have hhead := Line.text_ne_nil_of_mem h.mem_head
  rw [rebuild_ofExtent h]
  simp [hhead]

/-- What is rebuilt and what is dropped have together the length of the heading line, the body and
all rebuilt subsections. -/
theorem exists_length_rebuild (h : Found low (Line.ofText t) level x)
    (hleast : LeastLevel (level + 1) least x.content) :
    ∃ dropped, (fromLevel (level + 1) x.content).Perm
        (keepLast (fromLevel (level + 1) x.content) ++ dropped) ∧
      (rebuild t (ofExtent level x)).length + (dropped.flatMap (rebuild t)).length =
        x.head.text.length + (x.body level).length +
          ((Extent.cut least x.content).2.flatMap fun y =>
            rebuild t (ofExtent least y)).length := by
  obtain ⟨dropped, hperm⟩ := perm_keepLast (fromLevel (level + 1) x.content)
  refine ⟨dropped, hperm, ?_⟩
  have hlength := (hperm.flatMap_right (rebuild t)).length_eq
  rw [fromLevel_content hleast, List.flatMap_map, List.flatMap_append, List.length_append,
    ← fromLevel_content hleast] at hlength
  rw [rebuild_ofExtent h, List.length_append, List.length_append]
  omega

/-- Of an extent that loses no length the headings are in order and the subsections are
rebuilt. -/
theorem inOrder_of_length_le (h : Found low (Line.ofText t) level x)
    (hleast : LeastLevel (level + 1) least x.content)
    (hsub : ∀ y ∈ (Extent.cut least x.content).2, rebuild t (ofExtent least y) = y.text ∨
      (rebuild t (ofExtent least y)).length < y.text.length)
    (hle : x.text.length ≤ (rebuild t (ofExtent level x)).length) :
    InOrder level least x ∧
      ∀ y ∈ (Extent.cut least x.content).2, rebuild t (ofExtent least y) = y.text := by
  obtain ⟨dropped, hperm, hlength⟩ := exists_length_rebuild h hleast
  have hbound : ∀ y ∈ (Extent.cut least x.content).2,
      (rebuild t (ofExtent least y)).length ≤ y.text.length := fun y hy => by
    rcases hsub y hy with he | hlt
    · rw [he]
    · omega
  have hsum :
      ((Extent.cut least x.content).2.flatMap fun y => rebuild t (ofExtent least y)).length ≤
        ((Extent.cut least x.content).2.flatMap Extent.text).length := by
    rw [List.length_flatMap, List.length_flatMap]
    exact List.sum_le_sum hbound
  rw [text_eq_append hleast.low_le x] at hle
  simp only [List.length_append] at hle
  refine ⟨⟨fun l hl => ?_, ?_⟩, fun y hy => ?_⟩
  · -- nothing is lost between the body and the first subsection
    by_contra hd
    have hlost : (Extent.cut least x.content).1.dropWhile (!·.isDeeper level) ≠ [] := by
      intro hnil
      have := List.dropWhile_eq_nil_iff.1 hnil l hl
      rw [Bool.not_eq_true'] at this
      exact hd this
    have hpos := length_join_pos hlost fun k hk => by
      have hk := (List.dropWhile_suffix _).subset hk
      rw [Extent.lead_eq] at hk
      exact Line.text_ne_nil_of_mem (h.content_subset ((List.takeWhile_prefix _).subset hk))
    omega
  · -- no section is dropped
    have hdropped : dropped = [] := by
      cases dropped with
      | nil => rfl
      | cons s ss =>
        have hs := hperm.mem_iff.2 (List.mem_append_right _ (List.mem_cons_self ..))
        rw [fromLevel_content hleast] at hs
        obtain ⟨y, hy, rfl⟩ := List.mem_map.1 hs
        have hpos := List.length_pos_iff.2
          (rebuild_ne_nil (h.trans (found_of_mem_cut hleast hy)))
        rw [List.flatMap_cons, List.length_append] at hlength
        omega
    rw [← names_fromLevel hleast]
    rw [hdropped, List.append_nil] at hperm
    exact (hperm.map _).nodup_iff.2 (nodup_names_keepLast _)
  · -- no subsection is shorter than its text
    rcases hsub y hy with he | hlt
    · exact he
    · have hless := List.sum_lt_sum _ _ hbound ⟨y, hy, hlt⟩
      rw [← List.length_flatMap, ← List.length_flatMap] at hless
      omega

/-- What is rebuilt of a section is its text or is shorter. -/
theorem rebuild_eq_or_lt : ∀ level x, Found low (Line.ofText t) level x →
    rebuild t (ofExtent level x) = x.text ∨
      (rebuild t (ofExtent level x)).length < x.text.length := by
  refine Found.induction fun level x h ih => ?_
  rcases leastLevel_or_none (level + 1) x.content with hnone | ⟨least, hleast⟩
  · exact Or.inl (rebuild_of_none h hnone)
  · rcases Nat.lt_or_ge (rebuild t (ofExtent level x)).length x.text.length with hlt | hle
    · exact Or.inr hlt
    · obtain ⟨horder, hsub⟩ := inOrder_of_length_le h hleast (ih least hleast) hle
      exact Or.inl (rebuild_of_inOrder h hleast horder hsub)

/-- One step down the tree: a section is rebuilt when it is orderly and its subsections are
rebuilt, and only then. -/
theorem rebuild_ofExtent_eq_iff (h : Found low (Line.ofText t) level x) :
    rebuild t (ofExtent level x) = x.text ↔
      Orderly t (ofExtent level x) ∧ ∀ least, LeastLevel (level + 1) least x.content →
        ∀ y ∈ (Extent.cut least x.content).2, rebuild t (ofExtent least y) = y.text := by
  rw [orderly_ofExtent_iff h]
  constructor
  · intro he
    have hparts := fun least (hleast : LeastLevel (level + 1) least x.content) =>
      inOrder_of_length_le h hleast
        (fun y hy => rebuild_eq_or_lt least y (h.trans (found_of_mem_cut hleast hy)))
        (Nat.le_of_eq (congrArg List.length he.symm))
    exact ⟨fun least hleast => (hparts least hleast).1, fun least hleast => (hparts least hleast).2⟩
  · rintro ⟨horder, hsub⟩
    rcases leastLevel_or_none (level + 1) x.content with hnone | ⟨least, hleast⟩
    · exact rebuild_of_none h hnone
    · exact rebuild_of_inOrder h hleast (horder least hleast) (hsub least hleast)

/-! ## Down the tree -/

theorem subsections_of_orderly (h : Found low (Line.ofText t) level x)
    (horder : Orderly t (ofExtent level x)) (hleast : LeastLevel (level + 1) least x.content) :
    (ofExtent level x).subsections = (Extent.cut least x.content).2.map (ofExtent least) := by
  have hnames := ((orderly_ofExtent_iff h).1 horder least hleast).names
  rw [← names_fromLevel hleast] at hnames
  rw [subsections_ofExtent, keepLast_of_nodup hnames, fromLevel_content hleast]

theorem subsections_of_none (hnone : ∀ l ∈ x.content, ∀ k, l.level? = some k → k < level + 1) :
    (ofExtent level x).subsections = [] := by
  rw [subsections_ofExtent, fromLevel_of_none (Nat.le_add_left 1 level) hnone, keepLast_nil]

theorem rebuild_eq_text_iff : ∀ level x, Found low (Line.ofText t) level x →
    (rebuild t (ofExtent level x) = x.text ↔
      ∀ d, Below d [ofExtent level x] → Orderly t d) := by
  refine Found.induction fun level x h ih => ?_
  rw [rebuild_ofExtent_eq_iff h, forall_below_singleton]
  refine and_congr_right fun horder => ?_
  rcases leastLevel_or_none (level + 1) x.content with hnone | ⟨least, hleast⟩
  · rw [subsections_of_none hnone]
    refine ⟨fun _ v hv => (List.not_mem_nil hv).elim, fun _ least hleast => ?_⟩
    obtain ⟨l, hl, hlevel⟩ := hleast.occurs
    have := hnone l hl least hlevel
    have := hleast.low_le
    omega
  · rw [subsections_of_orderly h horder hleast, List.forall_mem_map]
    constructor
    · intro hsub y hy
      exact (ih least hleast y hy).1 (hsub least hleast y hy)
    · intro hbelow k hk y hy
      obtain rfl := hleast.unique hk
      exact (ih least hleast y hy).2 (hbelow y hy)

end

/-- **Round trip.** A section that is rebuilt from its heading line, its body and its rebuilt
subsections is the text of its span exactly when it and every section below it are orderly. -/
theorem rebuild_eq_covered_iff (m : Nat) (t : Text) {s : Section} (hs : s ∈ ofText m t) :
    s.rebuild t = s.covered t ↔ ∀ d, Below d [s] → d.Orderly t := by
  have hlow : 1 ≤ max m 1 := by omega
  obtain ⟨level, x, hx, rfl⟩ := found_of_mem hlow hs
  rw [covered_ofExtent hx]
  exact rebuild_eq_text_iff level x hx

/-- A page whose second subsection takes the place of the first one. -/
def replacedPage : Text := "# a\nlead\n## b\nx\n### c\n## b\ny\n"

def replacedSection : Section :=
  ⟨"a", "lead\n", [⟨"b", "y\n", [], ⟨22, 29⟩⟩], ⟨0, 29⟩⟩

/-- The first subsection is lost, and the section is not orderly. -/
theorem rebuild_replacedSection :
    replacedSection ∈ ofText 1 replacedPage ∧
      replacedSection.rebuild replacedPage = "# a\nlead\n## b\ny\n" ∧
      ∃ d, Below d [replacedSection] ∧ ¬ d.Orderly replacedPage := by
  have hmem : replacedSection ∈ ofText 1 replacedPage := by
    have hpage : ofText 1 replacedPage = [replacedSection] := rfl
    simp [hpage]
  have hrebuild : replacedSection.rebuild replacedPage = "# a\nlead\n## b\ny\n" := by decide
  have hcovered : replacedSection.covered replacedPage = replacedPage := by decide
  refine ⟨hmem, hrebuild, ?_⟩
  by_contra hall
  push Not at hall
  have he := (rebuild_eq_covered_iff 1 replacedPage hmem).2 hall
  rw [hrebuild, hcovered] at he
  revert he
  decide

end WikiStubs.Section
