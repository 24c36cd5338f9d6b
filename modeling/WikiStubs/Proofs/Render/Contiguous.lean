import WikiStubs.Proofs.Link
import WikiStubs.Proofs.Render.CommentLines

/-!
# Whether the doc comment has a gap

A doc comment belongs to the definition under it as long as no line between them is blank. Each
line that a stub writes before its definition starts with the mark of a comment, but the lines of
the description are joined with line feeds, and so a description without any lines still takes up
one, which has no mark.

A description has no lines if no character of it is shown (`Shows`): it is empty, or all of it
does not print. Rewriting its links cannot make it so (`shows_rewrite_iff`), and corrected
descriptions all show something (`shows_descriptionFor?`), so whether there is a gap can be seen
from the section (`Section.ShowsDescription`). `prefix_mark_iff` says that the comment is
contiguous exactly if the section shows a description, and that otherwise the second line of the
stub is the only gap. A page with an empty subsection Description has such a stub
(`emptyDescription_gap`).
-/
namespace WikiStubs.Lua

/-! ## What is shown of a description -/

def isShown (c : Char) : Bool := c = '\n' || Text.isPrintable c

/-- Some character of the text is kept in a comment. -/
def Shows (t : Text) : Prop := ∃ c ∈ t, isShown c = true

instance (t : Text) : Decidable (Shows t) :=
  decidable_of_iff (t.any isShown = true) List.any_eq_true

def commentLines (t : Text) : List Text := (Text.lines (t.filter isShown)).map (mark ++ ·)

section
variable {t : Text}

theorem comment_eq (t : Text) : comment t = List.intercalate ['\n'] (commentLines t) := rfl

theorem commentLines_eq_nil : commentLines t = [] ↔ ¬ Shows t := by
  rw [commentLines, List.map_eq_nil_iff, Text.lines_eq_nil, List.filter_eq_nil_iff, Shows]
  simp

theorem mem_commentLines {l : Text} (h : l ∈ commentLines t) : '\n' ∉ l ∧ mark <+: l := by
  obtain ⟨line, hline, rfl⟩ := List.mem_map.1 h
  exact ⟨List.not_mem_append (by decide) (Text.mem_of_mem_lines hline).1,
    List.prefix_append mark line⟩

/-- The lines of a comment are those that were joined. -/
theorem splitOn_comment_of_shows (h : Shows t) : (comment t).splitOn '\n' = commentLines t := by
  rw [comment_eq]
  refine List.splitOn_intercalate '\n' (fun l hl => (mem_commentLines hl).1) fun hnil => ?_
  exact commentLines_eq_nil.1 hnil h

/-- A comment without lines is a blank line. -/
theorem splitOn_comment_of_not_shows (h : ¬ Shows t) : (comment t).splitOn '\n' = [[]] := by
  rw [comment_eq, commentLines_eq_nil.2 h]
  rfl

/-- A comment starts all its lines with the mark exactly if it shows something. -/
theorem prefix_mark_comment_iff :
    (∀ l ∈ (comment t).splitOn '\n', mark <+: l) ↔ Shows t := by
  constructor
  · intro hall
    by_contra hno
    rw [splitOn_comment_of_not_shows hno] at hall
    exact absurd (hall [] (List.mem_singleton_self [])) (by decide)
  · intro h l hl
    rw [splitOn_comment_of_shows h] at hl
    exact (mem_commentLines hl).2

/-- A link leaves brackets or backticks, which are shown. -/
theorem shows_rewrite_iff : Shows (Link.rewrite t) ↔ Shows t :=
  Link.exists_mem_rewrite_iff (by decide +kernel) (by decide +kernel)

theorem shows_descriptionFor? {name : Text}
    (h : Corrections.descriptionFor? name = some t) : Shows t := by
  have hall : ∀ e ∈ Corrections.sectionTexts, Shows e.text := by decide +kernel
  obtain ⟨e, he, rfl⟩ := Option.map_eq_some_iff.1 h
  exact hall e (List.mem_of_find?_eq_some he)

end
end WikiStubs.Lua

namespace WikiStubs.Section

/-- The description of the function is corrected, or shows something on the page. -/
def ShowsDescription (s : Section) : Prop :=
  Corrections.descriptionFor? s.name ≠ none ∨
    ∃ d, s.subsection? "Description" = some d ∧ Lua.Shows d.text

theorem shows_freeDescription_iff {s : Section} {t : Text} (h : s.freeDescription = .ok t) :
    Lua.Shows t ↔ s.ShowsDescription := by
  unfold freeDescription at h
  unfold ShowsDescription
  split at h
  · next text hfix =>
    cases h
    rw [hfix]
    exact iff_of_true (Lua.shows_descriptionFor? hfix) (Or.inl (Option.some_ne_none _))
  · next hfix =>
    rw [hfix]
    split at h
    · next d hsub =>
      cases h
      rw [Lua.shows_rewrite_iff, hsub]
      simp
    · cases h

end WikiStubs.Section

namespace WikiStubs.Lua

/-! ## The lines of a stub -/

section
variable [PatternCompiler] {function : Text} {s : Section} {r : Record}

theorem shows_description_iff (h : Record.ofSection function s = .ok r) :
    Shows r.description ↔ s.ShowsDescription := by
  obtain ⟨_, -, -, d, hd, rfl⟩ := Record.eq_of_ofSection h
  exact Section.shows_freeDescription_iff hd

/-- The lines of a stub: the description between two marks, the annotations, the definition. -/
theorem splitOn_block (hname : '\n' ∉ function) (h : Record.ofSection function s = .ok r)
    (hdefaults : ∀ p ∈ r.signature.params, ∀ value ∈ p.default, '\n' ∉ value) :
    (block r).splitOn '\n' = (mark :: (comment r.description).splitOn '\n' ++
      mark :: (tags r).map Tag.text) ++ [definition r] := by
  have hnames : ∀ v ∈ r.signature.names, Unbroken v := fun _ => unbroken_of_mem_names h
  have hlines : ∀ l ∈ mark :: ((tags r).map Tag.text ++ [definition r]), '\n' ∉ l := by
    intro l hl
    simp only [List.mem_cons, List.mem_append, List.mem_map, List.not_mem_nil, or_false] at hl
    rcases hl with rfl | ⟨a, ha, rfl⟩ | rfl
    · decide
    · exact lineFeed_not_mem_text hnames (fun v _ => lineFeed_not_mem_descriptionOf h v)
        hdefaults ha
    · rw [← Record.name_of_ofSection h] at hname
      exact not_mem_definition (by decide) hname fun v hv => (unbroken_iff.1 (hnames v hv)).1
  have hmark : mark.splitOn '\n' = [mark] := by decide
  rw [block_eq_lines, List.splitOn_append_cons_self, List.splitOn_append_cons_self,
    Text.splitOn_flatMap hlines, hmark]
  simp

/-- **Gaps in the doc comment.** For a function whose name is on one line, with defaults that are
each on one line, every line of the stub before the definition starts with the mark of a comment
exactly if the section shows a description. If it shows none, the second line is blank, and it is
the only one. -/
theorem prefix_mark_iff (hname : '\n' ∉ function) (h : Record.ofSection function s = .ok r)
    (hdefaults : ∀ p ∈ r.signature.params, ∀ value ∈ p.default, '\n' ∉ value) :
    ∃ lines, (block r).splitOn '\n' = lines ++ [definition r] ∧
      ((∀ l ∈ lines, mark <+: l) ↔ s.ShowsDescription) ∧
      (¬ s.ShowsDescription → ∃ rest, lines = mark :: [] :: rest ∧ ∀ l ∈ rest, mark <+: l) := by
  have hrest : ∀ l ∈ mark :: (tags r).map Tag.text, mark <+: l := by
    rw [List.forall_mem_cons]
    refine ⟨List.prefix_rfl, fun l hl => ?_⟩
    obtain ⟨a, ha, rfl⟩ := List.mem_map.1 hl
    exact (head_of_mem_tags h ha).2.trans (List.prefix_append ..)
  refine ⟨_, splitOn_block hname h hdefaults, ?_, ?_⟩
  · rw [← shows_description_iff h, ← prefix_mark_comment_iff, List.forall_mem_append,
      List.forall_mem_cons]
    exact ⟨fun hall => hall.1.2, fun hall => ⟨⟨List.prefix_rfl, hall⟩, hrest⟩⟩
  · intro hno
    rw [← shows_description_iff h] at hno
    rw [splitOn_comment_of_not_shows hno]
    exact ⟨_, rfl, hrest⟩

end

/-! ## An empty description -/

/-- A section that shows a call and a description. -/
def sectionSaying (description : Text) : Section where
  name := "f"
  body := "\x60f(a)\x60\n"
  subsections :=
    [⟨"Parameters", "* **a** : an index\n", [], ⟨0, 0⟩⟩, ⟨"Description", description, [], ⟨0, 0⟩⟩]
  span := ⟨0, 0⟩

def recordSaying (description : Text) : Record where
  name := "f"
  signature := ⟨[⟨"a", none⟩], []⟩
  descriptions := TextMap.ofList [("a", "an index"), ("bool", "a boolean")]
  types := TextMap.ofList [("a", .number), ("bool", .boolean)]
  description := description

/-- A description of which something prints leaves no gap. -/
theorem prefix_mark_recordSaying :
    Record.ofSection "f" (sectionSaying "\x00\nDoes it.\n") =
        .ok (recordSaying "\x00\nDoes it.") ∧
      (sectionSaying "\x00\nDoes it.\n").ShowsDescription ∧
      ∃ lines, (block (recordSaying "\x00\nDoes it.")).splitOn '\n' =
          lines ++ [definition (recordSaying "\x00\nDoes it.")] ∧ ∀ l ∈ lines, mark <+: l := by
  have hok : Record.ofSection "f" (sectionSaying "\x00\nDoes it.\n") =
      .ok (recordSaying "\x00\nDoes it.") := by decide +kernel
  have hshows : (sectionSaying "\x00\nDoes it.\n").ShowsDescription :=
    Or.inr ⟨_, rfl, by decide +kernel⟩
  obtain ⟨lines, hlines, hiff, -⟩ := prefix_mark_iff (by decide) hok (by decide)
  exact ⟨hok, hshows, lines, hlines, hiff.2 hshows⟩

/-- A page with an empty subsection Description: the second line of its stub is blank. -/
theorem emptyDescription_gap :
    Record.ofSection "f" (sectionSaying "\n") = .ok (recordSaying "") ∧
      (block (recordSaying "")).splitOn '\n' = ["---", "", "---",
        "---@param a number # an index", "function f(a) end"] ∧
      ¬ ∃ lines, (block (recordSaying "")).splitOn '\n' =
          lines ++ [definition (recordSaying "")] ∧ ∀ l ∈ lines, mark <+: l := by
  refine ⟨by decide +kernel, by decide +kernel, ?_⟩
  rintro ⟨lines, hlines, hall⟩
  have hmem : ([] : Text) ∈ (block (recordSaying "")).splitOn '\n' := by decide +kernel
  rw [hlines, List.mem_append, List.mem_singleton] at hmem
  rcases hmem with hmem | hmem
  · exact absurd (hall [] hmem) (by decide)
  · exact absurd hmem (by decide)

end WikiStubs.Lua
