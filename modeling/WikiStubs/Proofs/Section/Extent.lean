import WikiStubs.Section
import WikiStubs.Proofs.Heading

/-!
# Cutting lines into extents

`Extent.cut level` cuts lines before each heading of one level. The lines before the first such
heading are the lead (`lead_eq`), the extents have these headings as their first lines, in order
(`heads_cut`), and an extent runs up to the next of them (`exists_of_mem_cut`). The spans of the
extents tile the lines behind the lead: each stops where the next one starts (`tiles_cut`).
-/
namespace WikiStubs

/-- Spans that cover the offsets from `start` to `stop`, each starting where the one before it
stops. -/
def Tiles : Nat → List Span → Nat → Prop
  | start, [], stop => start = stop
  | start, s :: ss, stop => s.start = start ∧ Tiles s.stop ss stop

namespace Tiles

variable {start stop : Nat} {ss : List Span}

theorem bounds (h : Tiles start ss stop) (hle : ∀ s ∈ ss, s.start ≤ s.stop) :
    start ≤ stop ∧ ∀ s ∈ ss, start ≤ s.start ∧ s.stop ≤ stop := by
  induction ss generalizing start with
  | nil => exact ⟨Nat.le_of_eq h, fun s hs => absurd hs List.not_mem_nil⟩
  | cons s ss ih =>
    obtain ⟨rfl, hss⟩ := h
    have hs := hle s (List.mem_cons_self ..)
    obtain ⟨hstop, hall⟩ := ih hss fun u hu => hle u (List.mem_cons_of_mem _ hu)
    refine ⟨hs.trans hstop, fun u hu => ?_⟩
    rcases List.mem_cons.1 hu with rfl | hu
    · exact ⟨Nat.le_refl _, hstop⟩
    · exact ⟨hs.trans (hall u hu).1, (hall u hu).2⟩

/-- Each span starts where the ones before it have stopped, or behind that. -/
theorem pairwise (h : Tiles start ss stop) (hle : ∀ s ∈ ss, s.start ≤ s.stop) :
    ss.Pairwise fun s u => s.stop ≤ u.start := by
  induction ss generalizing start with
  | nil => exact .nil
  | cons s ss ih =>
    have hss := fun u hu => hle u (List.mem_cons_of_mem s hu)
    exact .cons (fun u hu => ((h.2.bounds hss).2 u hu).1) (ih h.2 hss)

end Tiles

namespace Extent

theorem cut_cons_of_level {level : Nat} {l : Line} (h : l.level? = some level) (ls : List Line) :
    cut level (l :: ls) =
      ([], ⟨Heading.nameOf (Heading.title l.text), l, (cut level ls).1⟩ :: (cut level ls).2) := by
  simp only [cut, Line.nameAt?_eq_some_iff.2 ⟨h, rfl⟩]

theorem cut_cons_of_other {level : Nat} {l : Line} (h : l.level? ≠ some level) (ls : List Line) :
    cut level (l :: ls) = (l :: (cut level ls).1, (cut level ls).2) := by
  simp only [cut, Line.nameAt?_eq_none_iff.2 h]

theorem lead_eq (level : Nat) (ls : List Line) :
    (cut level ls).1 = ls.takeWhile (fun l => l.level? ≠ some level) := by
  induction ls with
  | nil => rfl
  | cons l ls ih =>
    by_cases h : l.level? = some level
    · simp [cut_cons_of_level h, h]
    · simp [cut_cons_of_other h, h, ih]

theorem level?_ne_of_mem_lead {level : Nat} {ls : List Line} {l : Line}
    (h : l ∈ (cut level ls).1) : l.level? ≠ some level := by
  rw [lead_eq] at h
  simpa using List.mem_takeWhile_imp h

theorem cut_eq_nil_iff {level : Nat} {ls : List Line} :
    (cut level ls).2 = [] ↔ ∀ l ∈ ls, l.level? ≠ some level := by
  induction ls with
  | nil => simp [cut]
  | cons l ls ih =>
    by_cases h : l.level? = some level
    · simp [cut_cons_of_level h, h]
    · simp [cut_cons_of_other h, h, ih]

theorem cut_of_none {ls : List Line} (h : ∀ l ∈ ls, l.level? ≠ some level) :
    cut level ls = (ls, []) := by
  refine Prod.ext ?_ (cut_eq_nil_iff.2 h)
  rw [lead_eq, List.takeWhile_eq_self_iff]
  exact fun l hl => decide_eq_true (h l hl)

/-- The first heading of the level ends the lead. -/
theorem exists_first {level : Nat} {ls : List Line} (h : ∃ l ∈ ls, l.level? = some level) :
    ∃ first rest, ls = (cut level ls).1 ++ first :: rest ∧ first.level? = some level := by
  have hne : ls.dropWhile (fun l => l.level? ≠ some level) ≠ [] := by
    intro hnil
    obtain ⟨l, hl, hlevel⟩ := h
    simpa [hlevel] using List.dropWhile_eq_nil_iff.1 hnil l hl
  obtain ⟨first, rest, hrest⟩ := List.exists_cons_of_ne_nil hne
  refine ⟨first, rest, ?_, ?_⟩
  · rw [lead_eq, ← hrest, List.takeWhile_append_dropWhile]
  · have := List.head?_dropWhile_not (fun l : Line => decide (l.level? ≠ some level)) ls
    rw [hrest] at this
    simpa using this

theorem heads_cut (level : Nat) (ls : List Line) :
    (cut level ls).2.map (·.head) = ls.filter (fun l => l.level? = some level) := by
  induction ls with
  | nil => rfl
  | cons l ls ih =>
    by_cases h : l.level? = some level
    · simp [cut_cons_of_level h, h, ih]
    · simp [cut_cons_of_other h, h, ih]

theorem head_of_mem_cut {level : Nat} {ls : List Line} {x : Extent} (hx : x ∈ (cut level ls).2) :
    x.head.level? = some level ∧ x.name = Heading.nameOf (Heading.title x.head.text) := by
  induction ls with
  | nil => cases hx
  | cons l ls ih =>
    by_cases h : l.level? = some level
    · rw [cut_cons_of_level h] at hx
      rcases List.mem_cons.1 hx with rfl | hx
      · exact ⟨h, rfl⟩
      · exact ih hx
    · rw [cut_cons_of_other h] at hx
      exact ih hx

/-- An extent is a run of the lines: its heading, then lines without a heading of the level, and
behind them nothing or a heading of the level. -/
theorem exists_of_mem_cut {level : Nat} {ls : List Line} {x : Extent}
    (hx : x ∈ (cut level ls).2) :
    ∃ pre post, ls = pre ++ (x.head :: x.content ++ post) ∧
      (∀ l ∈ x.content, l.level? ≠ some level) ∧ ∀ l ∈ post.head?, l.level? = some level := by
  induction ls with
  | nil => cases hx
  | cons l ls ih =>
    by_cases h : l.level? = some level
    · rw [cut_cons_of_level h] at hx
      rcases List.mem_cons.1 hx with rfl | hx
      · refine ⟨[], ls.dropWhile (fun l => l.level? ≠ some level), ?_, ?_, ?_⟩
        · simp only [lead_eq, List.nil_append, List.cons_append,
            List.takeWhile_append_dropWhile]
        · intro k hk
          rw [lead_eq] at hk
          simpa using List.mem_takeWhile_imp hk
        · intro k hk
          have := List.head?_dropWhile_not (fun l : Line => decide (l.level? ≠ some level)) ls
          rw [hk] at this
          simpa using this
      · obtain ⟨pre, post, e, h1, h2⟩ := ih hx
        exact ⟨l :: pre, post, by rw [e]; rfl, h1, h2⟩
    · rw [cut_cons_of_other h] at hx
      obtain ⟨pre, post, e, h1, h2⟩ := ih hx
      exact ⟨l :: pre, post, by rw [e]; rfl, h1, h2⟩

/-- The spans of the extents tile the offsets behind the lead. -/
theorem tiles_cut (level : Nat) {offset : Nat} {ls : List Line} (h : Line.From offset ls) :
    Tiles (offset + (Line.join (cut level ls).1).byteSize) ((cut level ls).2.map span)
      (offset + (Line.join ls).byteSize) := by
  induction ls generalizing offset with
  | nil => rfl
  | cons l ls ih =>
    obtain ⟨rfl, -, hls⟩ := h
    have ih := ih hls
    simp only [Line.stop, Nat.add_assoc] at ih
    by_cases hl : l.level? = some level
    · rw [cut_cons_of_level hl]
      refine ⟨rfl, ?_⟩
      simpa [span, text, Nat.add_assoc] using ih
    · rw [cut_cons_of_other hl]
      simpa [Nat.add_assoc] using ih

/-- The text of an extent is the part of the page that its span covers. -/
theorem slice_span {t : Text} {pre post : List Line} {x : Extent}
    (h : Line.ofText t = pre ++ (x.head :: x.content ++ post)) :
    t.slice x.span.start x.span.stop = x.text := by
  have ht : t = Line.join pre ++ (x.text ++ Line.join post) := by
    rw [← Line.join_ofText t, h]; simp [text]
  simp only [span, Line.start_of_split h]
  rw [ht, Text.slice_append]

/-- A page is its lead, then what the spans of the extents cover. -/
theorem eq_lead_append_slices (level : Nat) (t : Text) :
    t = Line.join (cut level (Line.ofText t)).1 ++
      (cut level (Line.ofText t)).2.flatMap fun x => t.slice x.span.start x.span.stop := by
  have hslice : ∀ x ∈ (cut level (Line.ofText t)).2,
      t.slice x.span.start x.span.stop = x.text := fun x hx => by
    obtain ⟨pre, post, e, -⟩ := exists_of_mem_cut hx
    exact slice_span e
  rw [List.flatMap_def, List.map_congr_left hslice, ← List.flatMap_def, join_cut,
    Line.join_ofText]

/-- The lines of the lead are lines of the page. -/
theorem rawLines_lead (level : Nat) (t : Text) :
    (Line.join (cut level (Line.ofText t)).1).rawLines =
      (cut level (Line.ofText t)).1.map (·.text) := by
  have hsplit : Line.ofText t = [] ++ (cut level (Line.ofText t)).1 ++
      (Line.ofText t).dropWhile fun l => l.level? ≠ some level := by
    rw [lead_eq, List.nil_append, List.takeWhile_append_dropWhile]
  exact Line.rawLines_join hsplit

end Extent
end WikiStubs
