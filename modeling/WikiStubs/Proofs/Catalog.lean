import WikiStubs.Catalog
import WikiStubs.Proofs.Runs
import WikiStubs.Proofs.Text.Edges

/-!
# The grammar of the catalog

The categories of a page are the subsections of the subsection Functions of its first section
(`Catalog.Holds`). Every line of a category that is not blank must be an entry: it has an opening
bracket and, somewhere behind it, a closing one (`IsEntry`), and it names what stands between the
first opening bracket and the first closing one behind that (`Names`).

The body of a category is trimmed before it is cut into lines. No name changes by this
(`map_bracketed?_trimEdges`), since no bracket is blank. But the line that a fault quotes is what
trimming leaves of it: the first line of a category is quoted without its indent, and the last one
without the blanks at its end (`Text.trimmedBetween`).

* `Catalog.reads_grammar`: a page is read exactly if it has the section and all lines are entries,
  the categories are those that the lines name, and otherwise the fault is for what is missing
  first (`Refuses`).
* `Catalog.indented_line_quoted`: an indented line is quoted without its indent.
-/
namespace WikiStubs

namespace Catalog

/-! ## Lines -/

/-- The line has an opening bracket and somewhere behind it a closing one. -/
def IsEntry (line : Text) : Prop := List.Sublist ['[', ']'] line

instance (line : Text) : Decidable (IsEntry line) := inferInstanceAs (Decidable (List.Sublist _ _))

/-- The name stands between the first opening bracket on the line and the first closing bracket
behind it. -/
def Names (line name : Text) : Prop :=
  ∃ before rest, line = before ++ '[' :: (name ++ ']' :: rest) ∧ '[' ∉ before ∧ ']' ∉ name

theorem bracketed?_eq_some_iff {line name : Text} :
    bracketed? line = some name ↔ Names line name := by
  unfold bracketed?
  constructor
  · intro h
    split at h
    · cases h
    · next before rest hopen =>
      obtain ⟨⟨_, rest'⟩, hclose, rfl⟩ := Option.map_eq_some_iff.1 h
      obtain ⟨rfl, hbefore⟩ := Text.splitAtFirst?_singleton_eq_some_iff.1 hopen
      obtain ⟨rfl, hname⟩ := Text.splitAtFirst?_singleton_eq_some_iff.1 hclose
      exact ⟨before, rest', rfl, hbefore, hname⟩
  · intro h
    obtain ⟨before, rest, rfl, hbefore, hname⟩ := h
    have hopen : Text.splitAtFirst? "[" (before ++ '[' :: (name ++ ']' :: rest)) = some _ :=
      Text.splitAtFirst?_append hbefore _
    have hclose : Text.splitAtFirst? "]" (name ++ ']' :: rest) = some _ :=
      Text.splitAtFirst?_append hname rest
    simp only [hopen, hclose, Option.map_some]

/-- A line is an entry exactly if it names something. -/
theorem isEntry_iff_names {line : Text} : IsEntry line ↔ ∃ name, Names line name := by
  constructor
  · intro h
    obtain ⟨start, rest, rfl, hopen, hclose⟩ := List.cons_sublist_iff.1 h
    obtain ⟨before, between, rfl, hbefore⟩ := List.eq_append_cons_of_mem hopen
    have hmem : ']' ∈ between ++ rest :=
      List.mem_append_right _ (List.singleton_sublist.1 hclose)
    obtain ⟨name, after, hcut, hname⟩ := List.eq_append_cons_of_mem hmem
    refine ⟨name, before, after, ?_, hbefore, hname⟩
    rw [List.append_assoc, List.cons_append, hcut]
  · intro h
    obtain ⟨name, before, rest, rfl, -, -⟩ := h
    have hclose : List.Sublist [']'] (name ++ ']' :: rest) :=
      List.singleton_sublist.2 (List.mem_append_right _ (List.mem_cons_self ..))
    exact (hclose.cons_cons '[').trans (List.sublist_append_right ..)

theorem isEntry_iff {line : Text} : IsEntry line ↔ (bracketed? line).isSome = true := by
  simp only [isEntry_iff_names, Option.isSome_iff_exists, bracketed?_eq_some_iff]

theorem functionOf_eq_ok_iff {line name : Text} : functionOf line = .ok name ↔ Names line name := by
  rw [← bracketed?_eq_some_iff, functionOf]
  cases bracketed? line <;> simp

theorem functionOf_eq_error {line : Text} (h : ¬ IsEntry line) :
    functionOf line = .error (malformed line) := by
  rw [isEntry_iff, Option.not_isSome_iff_eq_none] at h
  rw [functionOf, h]

/-! ## Trimmed lines -/

/-- Blanks around a line have no brackets. -/
theorem bracketed?_surround {a b : Text} (ha : ∀ c ∈ a, Text.isBlank c = true)
    (hb : ∀ c ∈ b, Text.isBlank c = true) (line : Text) :
    bracketed? (a ++ line ++ b) = bracketed? line := by
  cases hline : bracketed? line with
  | some name =>
    obtain ⟨before, rest, rfl, hbefore, hname⟩ := bracketed?_eq_some_iff.1 hline
    have hopen : '[' ∉ a := fun h => absurd (ha _ h) (by decide)
    refine bracketed?_eq_some_iff.2 ⟨a ++ before, rest ++ b, by simp, ?_, hname⟩
    rw [List.mem_append, not_or]
    exact ⟨hopen, hbefore⟩
  | none =>
    by_contra hsome
    have hentry : IsEntry (a ++ line ++ b) :=
      isEntry_iff.2 (Option.isSome_iff_ne_none.2 hsome)
    -- both brackets are among the characters of the line that are not blank
    have hkept := List.Sublist.filter (fun c => !Text.isBlank c) hentry
    have hnone : ∀ {u : Text}, (∀ c ∈ u, Text.isBlank c = true) →
        u.filter (fun c => !Text.isBlank c) = [] := fun hu =>
      List.filter_eq_nil_iff.2 fun c hc => by simp [hu c hc]
    rw [List.filter_append, List.filter_append, hnone ha, hnone hb, List.nil_append,
      List.append_nil] at hkept
    have hline' : IsEntry line := List.Sublist.trans hkept List.filter_sublist
    rw [isEntry_iff, hline] at hline'
    cases hline'

theorem bracketed?_dropWhile (line : Text) :
    bracketed? (line.dropWhile Text.isBlank) = bracketed? line := by
  have h := bracketed?_surround (a := line.takeWhile Text.isBlank) (b := [])
    (fun c hc => List.mem_takeWhile_imp hc) (List.forall_mem_nil _) (line.dropWhile Text.isBlank)
  rw [List.append_nil, List.takeWhile_append_dropWhile] at h
  exact h.symm

theorem bracketed?_trimEnd (line : Text) : bracketed? line.trimEnd = bracketed? line := by
  have h := bracketed?_surround (List.forall_mem_nil _)
    (fun c (hc : c ∈ line.endBlanks) => Text.isBlank_of_mem_endBlanks hc) line.trimEnd
  rw [List.nil_append, Text.trimEnd_append_endBlanks] at h
  exact h.symm

theorem map_bracketed?_modifyHead (ls : List Text) :
    (ls.modifyHead (List.dropWhile Text.isBlank)).map bracketed? = ls.map bracketed? := by
  cases ls with
  | nil => rfl
  | cons l ls => rw [List.modifyHead_cons, List.map_cons, bracketed?_dropWhile, List.map_cons]

theorem map_bracketed?_modifyLast (ls : List Text) :
    (ls.modifyLast Text.trimEnd).map bracketed? = ls.map bracketed? := by
  rcases List.eq_nil_or_concat ls with rfl | ⟨ls, l, rfl⟩
  · rfl
  · rw [List.concat_eq_append, List.modifyLast_concat, List.map_append, List.map_append,
      List.map_singleton, List.map_singleton, bracketed?_trimEnd]

/-- Trimming changes no name. -/
theorem map_bracketed?_trimEdges (ls : List Text) :
    (Text.trimEdges ls).map bracketed? = ls.map bracketed? := by
  rw [Text.trimEdges, map_bracketed?_modifyLast, map_bracketed?_modifyHead]

theorem isEntry_trimmedBetween_iff {before after : List Text} {line : Text} :
    IsEntry (Text.trimmedBetween before line after) ↔ IsEntry line := by
  have hsame : bracketed? (Text.trimmedBetween before line after) = bracketed? line := by
    unfold Text.trimmedBetween
    split <;> split <;> simp only [bracketed?_trimEnd, bracketed?_dropWhile]
  rw [isEntry_iff, isEntry_iff, hsame]

/-! ## One category -/

/-- The category that a section lists: each line that is not blank names one function. -/
structure Reads (s : Section) (c : Category) : Prop where
  name : c.name = s.name.lower
  functions : List.Forall₂ Names s.body.filled c.functions

/-- The section has a line that is no entry, and this is what is quoted of the first such line. -/
def Rejects (s : Section) (text : Text) : Prop :=
  ∃ before line after, s.body.filled = before ++ line :: after ∧
    (∀ l ∈ before, IsEntry l) ∧ ¬ IsEntry line ∧ text = Text.trimmedBetween before line after

theorem entries_eq (s : Section) : entries s = Text.trimEdges s.body.filled := by
  have hkept : (fun l : Text => decide (l.trim ≠ [])) = Text.isFilled := by
    funext l
    rw [Bool.eq_iff_iff, decide_eq_true_iff, Text.trim_ne_nil_iff]
  rw [entries, Section.text, ← Text.filled_trim, Text.filled, ← hkept]

/-- The lines of a section are read like the lines of its body. -/
theorem mapM_entries_eq_ok_iff {s : Section} {names : List Text} :
    (entries s).mapM functionOf = .ok names ↔ List.Forall₂ Names s.body.filled names := by
  have hnames : ∀ ls : List Text,
      List.Forall₂ Names ls names ↔ ls.map bracketed? = names.map some := by
    intro ls
    rw [← List.forall₂_eq_eq_eq, List.forall₂_map_left_iff, List.forall₂_map_right_iff]
    simp only [bracketed?_eq_some_iff]
  simp only [mapM_eq_ok_iff, functionOf_eq_ok_iff]
  rw [hnames, entries_eq, map_bracketed?_trimEdges, ← hnames]

theorem exists_mapM_functionOf_iff {ls : List Text} :
    (∃ names, ls.mapM functionOf = .ok names) ↔ ∀ l ∈ ls, IsEntry l := by
  simp only [exists_mapM_eq_ok_iff, functionOf_eq_ok_iff, isEntry_iff_names]

/-- Whether lines are entries depends on what is read from them only. -/
theorem forall_isEntry_congr {ls ls' : List Text}
    (h : ls.map bracketed? = ls'.map bracketed?) :
    (∀ l ∈ ls, IsEntry l) ↔ ∀ l ∈ ls', IsEntry l := by
  have hsome : ∀ ls : List Text, (∀ l ∈ ls, IsEntry l) ↔
      ∀ found ∈ ls.map bracketed?, found.isSome = true := by
    intro ls
    simp only [List.forall_mem_map, isEntry_iff]
  rw [hsome, h, ← hsome]

theorem categoryOf_eq_ok_iff {s : Section} {c : Category} :
    categoryOf s = .ok c ↔ Reads s c := by
  unfold categoryOf
  constructor
  · intro h
    cases hread : (entries s).mapM functionOf with
    | error e => rw [hread] at h; cases h
    | ok names =>
      rw [hread] at h
      cases h
      exact ⟨rfl, mapM_entries_eq_ok_iff.1 hread⟩
  · intro h
    rw [mapM_entries_eq_ok_iff.2 h.functions]
    exact congrArg (fun name => Except.ok (Category.mk name c.functions)) h.name.symm

theorem exists_categoryOf_iff {s : Section} :
    (∃ c, categoryOf s = .ok c) ↔ ∀ l ∈ s.body.filled, IsEntry l := by
  rw [← forall_isEntry_congr (map_bracketed?_trimEdges s.body.filled), ← entries_eq,
    ← exists_mapM_functionOf_iff]
  simp only [categoryOf_eq_ok_iff, mapM_entries_eq_ok_iff]
  constructor
  · intro h
    obtain ⟨c, hc⟩ := h
    exact ⟨c.functions, hc.functions⟩
  · intro h
    obtain ⟨names, hnames⟩ := h
    exact ⟨⟨s.name.lower, names⟩, rfl, hnames⟩

/-- The fault quotes the first line that is no entry. -/
theorem categoryOf_of_rejects {s : Section} {text : Text} (h : Rejects s text) :
    categoryOf s = .error (malformed text) := by
  obtain ⟨before, line, after, hlines, hbefore, hline, rfl⟩ := h
  have hread : (entries s).mapM functionOf =
      .error (malformed (Text.trimmedBetween before line after)) := by
    rw [entries_eq, hlines, Text.trimEdges_append]
    refine mapM_eq_error_iff.2 ⟨_, _, _, rfl, ?_, ?_⟩
    · apply exists_mapM_eq_ok_iff.1
      apply exists_mapM_functionOf_iff.2
      exact (forall_isEntry_congr (map_bracketed?_modifyHead before)).2 hbefore
    · exact functionOf_eq_error (mt isEntry_trimmedBetween_iff.1 hline)
  rw [categoryOf, hread]
  rfl

theorem categoryOf_eq_error_iff {s : Section} {e : Fault} :
    categoryOf s = .error e ↔ ∃ text, Rejects s text ∧ e = malformed text := by
  constructor
  · intro h
    rcases forall_or_first IsEntry s.body.filled with hall | ⟨before, line, after, hfirst⟩
    · obtain ⟨c, hc⟩ := exists_categoryOf_iff.2 hall
      rw [h] at hc
      cases hc
    · have hrejects : Rejects s (Text.trimmedBetween before line after) :=
        ⟨before, line, after, hfirst.1, hfirst.2.1, hfirst.2.2, rfl⟩
      exact ⟨_, hrejects, Except.error.inj (h.symm.trans (categoryOf_of_rejects hrejects))⟩
  · intro h
    obtain ⟨text, hrejects, rfl⟩ := h
    exact categoryOf_of_rejects hrejects

/-! ## The page -/

theorem message_malformed (text : Text) : (malformed text).message =
    "function catalog: unexpected structure in '" ++ text ++ "'" := by
  have hlabel : ("function catalog: unexpected structure in '" : Text) =
      Step.catalog.label ++ ": unexpected structure in '" := by decide +kernel
  rw [malformed, Fault.message_malformed, hlabel]

/-- The section whose subsections are the categories of a page. -/
def Holds (t : Text) (functions : Section) : Prop :=
  ∃ top, (Section.ofPage t).head? = some top ∧ top.subsection? "Functions" = some functions

/-- What a page that is no catalog is refused for, in the order in which it is looked at. -/
inductive Refuses (t : Text) : Text → Prop
  | noSection (h : Section.ofPage t = []) : Refuses t "no top-level section"
  | noFunctions {top : Section} (htop : (Section.ofPage t).head? = some top)
      (h : top.subsection? "Functions" = none) :
      Refuses t ("section '" ++ top.name ++ "' has no Functions subsection")
  /-- All categories before the first one that has another line have only entries. -/
  | line {functions s : Section} {before after : List Section} {text : Text}
      (h : Holds t functions) (hsections : functions.subsections = before ++ s :: after)
      (hbefore : ∀ u ∈ before, ∀ l ∈ u.body.filled, IsEntry l) (hs : Rejects s text) :
      Refuses t text

section
variable {t : Text} {functions : Section}

theorem holds_cases (t : Text) : Section.ofPage t = [] ∨
    (∃ top, (Section.ofPage t).head? = some top ∧ top.subsection? "Functions" = none) ∨
    ∃ functions, Holds t functions := by
  cases hpage : Section.ofPage t with
  | nil => exact Or.inl rfl
  | cons top rest =>
    have htop : (Section.ofPage t).head? = some top := by rw [hpage, List.head?_cons]
    cases hfunctions : top.subsection? "Functions" with
    | none => exact Or.inr (Or.inl ⟨top, rfl, hfunctions⟩)
    | some functions => exact Or.inr (Or.inr ⟨functions, top, htop, hfunctions⟩)

theorem ofPage_of_nil (h : Section.ofPage t = []) :
    ofPage t = .error (malformed "no top-level section") := by
  rw [ofPage, h]

theorem ofPage_of_none {top : Section} (htop : (Section.ofPage t).head? = some top)
    (h : top.subsection? "Functions" = none) :
    ofPage t = .error (malformed ("section '" ++ top.name ++ "' has no Functions subsection")) := by
  obtain ⟨rest, hpage⟩ := List.head?_eq_some_iff.1 htop
  have hopen : ("section '" : Text) = "section " ++ "'" := by decide +kernel
  have hclose : ("' has no Functions subsection" : Text) =
      "'" ++ " has no Functions subsection" := by decide +kernel
  simp only [ofPage, hpage, h, Fault.quoted, hopen, hclose, List.append_assoc]

theorem ofPage_of_holds (h : Holds t functions) :
    ofPage t = functions.subsections.mapM categoryOf := by
  obtain ⟨top, htop, hfunctions⟩ := h
  obtain ⟨rest, hpage⟩ := List.head?_eq_some_iff.1 htop
  simp only [ofPage, hpage, hfunctions]

/-- The categories of a catalog are read one by one from the subsections of one section. -/
theorem ofPage_eq_ok_iff {cs : List Category} : ofPage t = .ok cs ↔
    ∃ functions, Holds t functions ∧
      List.Forall₂ (fun s c => categoryOf s = .ok c) functions.subsections cs := by
  simp only [← mapM_eq_ok_iff]
  constructor
  · intro h
    rcases holds_cases t with hnil | ⟨top, htop, hnone⟩ | ⟨functions, hholds⟩
    · rw [ofPage_of_nil hnil] at h
      cases h
    · rw [ofPage_of_none htop hnone] at h
      cases h
    · exact ⟨functions, hholds, (ofPage_of_holds hholds).symm.trans h⟩
  · intro h
    obtain ⟨functions, hholds, hread⟩ := h
    rw [ofPage_of_holds hholds, hread]

theorem exists_of_ofPage {cs : List Category} (h : ofPage t = .ok cs) :
    ∃ top functions : Section, (Section.ofPage t).head? = some top ∧
      top.subsection? "Functions" = some functions ∧
      List.Forall₂ (fun s c => categoryOf s = .ok c) functions.subsections cs := by
  obtain ⟨functions, ⟨top, htop, hfunctions⟩, hread⟩ := ofPage_eq_ok_iff.1 h
  exact ⟨top, functions, htop, hfunctions, hread⟩

theorem exists_ofPage_iff : (∃ cs, ofPage t = .ok cs) ↔ ∃ functions, Holds t functions ∧
    ∀ s ∈ functions.subsections, ∀ l ∈ s.body.filled, IsEntry l := by
  have hall : ∀ functions : Section, (∃ cs, List.Forall₂ (fun s c => categoryOf s = .ok c)
      functions.subsections cs) ↔ ∀ s ∈ functions.subsections, ∀ l ∈ s.body.filled, IsEntry l := by
    intro functions
    simp only [← mapM_eq_ok_iff, exists_mapM_eq_ok_iff, exists_categoryOf_iff]
  simp only [ofPage_eq_ok_iff, ← hall]
  constructor
  · intro h
    obtain ⟨cs, functions, hholds, hread⟩ := h
    exact ⟨functions, hholds, cs, hread⟩
  · intro h
    obtain ⟨functions, hholds, cs, hread⟩ := h
    exact ⟨cs, functions, hholds, hread⟩

theorem ofPage_of_refuses {text : Text} (h : Refuses t text) :
    ofPage t = .error (malformed text) := by
  cases h with
  | noSection h => exact ofPage_of_nil h
  | noFunctions htop h => exact ofPage_of_none htop h
  | line h hsections hbefore hs =>
    rw [ofPage_of_holds h, mapM_eq_error_iff]
    exact ⟨_, _, _, hsections, fun u hu => exists_categoryOf_iff.2 (hbefore u hu),
      categoryOf_of_rejects hs⟩

theorem ofPage_eq_error_iff {e : Fault} :
    ofPage t = .error e ↔ ∃ text, Refuses t text ∧ e = malformed text := by
  constructor
  · intro h
    have hrefused : ∀ {text}, Refuses t text → ∃ text, Refuses t text ∧ e = malformed text :=
      fun {text} hr => ⟨text, hr, Except.error.inj (h.symm.trans (ofPage_of_refuses hr))⟩
    rcases holds_cases t with hnil | ⟨top, htop, hnone⟩ | ⟨functions, hholds⟩
    · exact hrefused (.noSection hnil)
    · exact hrefused (.noFunctions htop hnone)
    · rw [ofPage_of_holds hholds, mapM_eq_error_iff] at h
      obtain ⟨before, s, after, hsections, hbefore, hs⟩ := h
      obtain ⟨text, hrejects, he⟩ := categoryOf_eq_error_iff.1 hs
      exact ⟨text, .line hholds hsections
        (fun u hu => exists_categoryOf_iff.1 (hbefore u hu)) hrejects, he⟩
  · intro h
    obtain ⟨text, hr, rfl⟩ := h
    exact ofPage_of_refuses hr

end

/-- **The grammar of the catalog.** A page is read exactly if its first section has a subsection
Functions and all lines of its subsections that are not blank are entries. There is then one
category for each of these subsections, in their order, with the lower case of its name and with
one function for each line, in their order. Otherwise the fault is for the section that is missing,
or for the first line that is no entry. -/
theorem reads_grammar (t : Text) :
    ((∃ cs, ofPage t = .ok cs) ↔ ∃ functions, Holds t functions ∧
      ∀ s ∈ functions.subsections, ∀ l ∈ s.body.filled, IsEntry l) ∧
    (∀ cs, ofPage t = .ok cs ↔ ∃ functions, Holds t functions ∧
      List.Forall₂ Reads functions.subsections cs) ∧
    ∀ e, ofPage t = .error e ↔ ∃ text, Refuses t text ∧ e = malformed text ∧
      e.message = "function catalog: unexpected structure in '" ++ text ++ "'" := by
  refine ⟨exists_ofPage_iff, fun cs => ?_, fun e => ?_⟩
  · simp only [ofPage_eq_ok_iff, categoryOf_eq_ok_iff]
  · rw [ofPage_eq_error_iff]
    constructor
    · intro h
      obtain ⟨text, hr, he⟩ := h
      exact ⟨text, hr, he, he ▸ message_malformed text⟩
    · intro h
      obtain ⟨text, hr, he, -⟩ := h
      exact ⟨text, hr, he⟩

/-- A catalog with an indented line that is no entry. -/
def indentedCatalog : Text := "# API\n## Functions\n### a\n  x\n"

def indentedCategory : Section := ⟨"a", "  x\n", [], ⟨19, 29⟩⟩

/-- The line is not quoted as it stands on the page. -/
theorem indented_line_quoted :
    (∃ functions, Holds indentedCatalog functions ∧ functions.subsections = [indentedCategory]) ∧
      indentedCategory.body.filled = [("  x" : Text)] ∧ ¬ IsEntry "  x" ∧
      ofPage indentedCatalog = .error (malformed "x") ∧ malformed "x" ≠ malformed "  x" := by
  have hpage : Section.ofPage indentedCatalog =
      [⟨"API", [], [⟨"Functions", [], [indentedCategory], ⟨6, 29⟩⟩], ⟨0, 29⟩⟩] := rfl
  refine ⟨⟨_, ⟨_, congrArg List.head? hpage, rfl⟩, rfl⟩, by decide, by decide, ?_, by decide⟩
  decide +kernel

end Catalog
end WikiStubs
