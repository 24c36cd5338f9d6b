import Mathlib.Logic.Function.Basic
import WikiStubs.Proofs.Resolve.Outcome
import WikiStubs.Proofs.Section.Appended

/-!
# Trailing sections are inert

A record is put together from the name and the body of a section and from its subsections
Parameters, Returns and Description; sections that have these in common are `Section.Alike`, and
nothing tells them apart (`Section.Alike.ofSection`, `Section.Alike.notes`). A section of another
name that is written behind a page leaves the page alike, so every function keeps its record or its
fault, and the same pages are asked for (`assemble_append`), whatever the new section says.
-/
namespace WikiStubs

/-! ## What is read of a section -/

namespace Section

/-- The subsections that a record is put together from. -/
def partNames : List Text := ["Parameters", "Returns", "Description"]

/-- The sections have in common what a record is put together from. -/
structure Alike (s s' : Section) : Prop where
  name : s'.name = s.name
  body : s'.body = s.body
  parts : ∀ name ∈ partNames, s'.subsection? name = s.subsection? name

namespace Alike

variable {s s' : Section}

theorem bullets (h : s.Alike s') : s'.bullets = s.bullets := by
  have hparameters : s'.parameterLines = s.parameterLines := by
    rw [parameterLines, h.parts "Parameters" (by decide), h.body, parameterLines]
  have hreturns : s'.returnLines = s.returnLines := by
    rw [returnLines, h.parts "Returns" (by decide), returnLines]
  rw [Section.bullets, hparameters, hreturns, Section.bullets]

theorem signature [PatternCompiler] (h : s.Alike s') (function : Text) :
    s'.signature function = s.signature function := by
  rw [Section.signature, h.body, Section.signature]

theorem describedSignature [PatternCompiler] (h : s.Alike s') (function : Text) :
    s'.describedSignature function = s.describedSignature function := by
  have hdescriptions : s'.descriptions = s.descriptions := by
    rw [descriptions, h.bullets, descriptions]
  have hundescribed : s'.undescribed = s.undescribed := by
    funext v
    rw [undescribed, h.name, undescribed]
  rw [Section.describedSignature, hdescriptions, hundescribed, h.signature, h.name,
    Section.describedSignature]

theorem freeDescription (h : s.Alike s') : s'.freeDescription = s.freeDescription := by
  rw [Section.freeDescription, h.parts "Description" (by decide), h.name, Section.freeDescription]

/-- Sections that are alike give the same record, or the same fault. -/
theorem ofSection [PatternCompiler] (h : s.Alike s') (function : Text) :
    Record.ofSection function s' = Record.ofSection function s := by
  rw [Record.ofSection, h.describedSignature, h.freeDescription, Record.ofSection]

/-- The same is noted on the way. -/
theorem notes [PatternCompiler] (h : s.Alike s') (function : Text) :
    Record.notes function s' = Record.notes function s := by
  have hsignature : Record.signatureNotes function s' = Record.signatureNotes function s := by
    rw [Record.signatureNotes, h.body, Record.signatureNotes]
  have hdescription : Record.descriptionNotes s' = Record.descriptionNotes s := by
    rw [Record.descriptionNotes, h.name, Record.descriptionNotes]
  rw [Record.notes, hsignature, h.describedSignature, hdescription, Record.notes]

end Alike
end Section

/-! ## Pages that are alike -/

/-- The page stays, or it settles on a section that is alike, with the same notes. -/
inductive AlikePage : Except Fault Text → Except Fault Text → Prop where
  | same (page : Except Fault Text) : AlikePage page page
  | settled {t t' : Text} {s s' : Section} (before : settled? t = some s)
      (after : settled? t' = some s') (alike : s.Alike s')
      (notes : ∀ function, settleNotes function t' = settleNotes function t) :
      AlikePage (.ok t) (.ok t')

namespace AlikePage

variable {page' : Except Fault Text} {t : Text}

theorem of_error {e : Fault} (h : AlikePage (.error e) page') : page' = .error e := by
  cases h with | same => rfl

/-- A page without headings stays. -/
theorem of_unsettled (h : AlikePage (.ok t) page') (unsettled : settled? t = none) :
    page' = .ok t := by
  cases h with
  | same => rfl
  | settled before _ _ _ =>
    rw [unsettled] at before
    cases before

theorem of_settled (h : AlikePage (.ok t) page') {s : Section} (settled : settled? t = some s) :
    ∃ t' s', page' = .ok t' ∧ settled? t' = some s' ∧ s.Alike s' ∧
      ∀ function, settleNotes function t' = settleNotes function t := by
  cases h with
  | same => exact ⟨t, s, rfl, settled, ⟨rfl, rfl, fun _ _ => rfl⟩, fun _ => rfl⟩
  | settled before after alike notes =>
    rw [settled] at before
    cases before
    exact ⟨_, _, rfl, after, alike, notes⟩

end AlikePage

/-- A fault stays, and a section becomes one that is alike. -/
inductive Section.AlikeResult : Except Fault Section → Except Fault Section → Prop where
  | error (e : Fault) : AlikeResult (.error e) (.error e)
  | ok {s s' : Section} (alike : s.Alike s') : AlikeResult (.ok s) (.ok s')

section
variable {pages pages' : Text → Except Fault Text} {function : Text} {events : List Event}

/-- Over pages that are alike a function resolves in the same way. -/
theorem Resolves.alike (h : ∀ page, AlikePage (pages page) (pages' page))
    {result : Except Fault Section} (hr : Resolves pages function events result) :
    ∃ result', Resolves pages' function events result' ∧ Section.AlikeResult result result' := by
  cases hr with
  | unfetched page =>
    have page' := (page ▸ h function).of_error
    exact ⟨_, .unfetched page', .error _⟩
  | found page settled =>
    obtain ⟨t', s', page', settled', hs, hnotes⟩ := (page ▸ h function).of_settled settled
    refine ⟨_, ?_, .ok hs⟩
    rw [← hnotes]
    exact .found page' settled'
  | deadEnd page unsettled target =>
    have page' := (page ▸ h function).of_unsettled unsettled
    exact ⟨_, .deadEnd page' unsettled target, .error _⟩
  | lost page unsettled forwards second =>
    have page' := (page ▸ h function).of_unsettled unsettled
    exact ⟨_, .lost page' unsettled forwards (second ▸ h _).of_error, .error _⟩
  | forwarded page unsettled forwards second settled =>
    have page' := (page ▸ h function).of_unsettled unsettled
    obtain ⟨u', s', second', settled', hs, hnotes⟩ := (second ▸ h _).of_settled settled
    refine ⟨_, ?_, .ok hs⟩
    rw [← hnotes]
    exact .forwarded page' unsettled forwards second' settled'
  | bare page unsettled forwards second bare =>
    have page' := (page ▸ h function).of_unsettled unsettled
    exact ⟨_, .bare page' unsettled forwards ((second ▸ h _).of_unsettled bare) bare, .error _⟩

/-- Over pages that are alike a function has the same record or the same fault, and the same is
noted. -/
theorem Assembles.alike [PatternCompiler] (h : ∀ page, AlikePage (pages page) (pages' page))
    {result : Except Fault Record} (ha : Assembles pages function events result) :
    Assembles pages' function events result := by
  cases ha with
  | unresolved resolved =>
    obtain ⟨result', hr, hresult⟩ := resolved.alike h
    cases hresult
    exact .unresolved hr
  | resolved resolved =>
    obtain ⟨result', hr, hresult⟩ := resolved.alike h
    cases hresult with | ok hs =>
    rw [← hs.ofSection, ← hs.notes]
    exact .resolved hr

end

/-! ## A section behind the page -/

theorem settled?_of_single {t : Text} {s : Section} (h : Section.ofPage t = [s]) :
    settled? t = some s ∧ ∀ function, settleNotes function t = [] := by
  simp [settled?, settleNotes, h]

/-- **Trailing sections are inert.** On a page that ends with a line feed, has one top-level section
and, directly below it, some subsection, a new subsection at the end changes no record, unless it is
called like one of the parts of a record: every function has the same record or the same fault, and
the same is noted, whatever stands in the new section and whether or not there was one of its
name. -/
theorem assemble_append [PatternCompiler] {pages : Text → Except Fault Text} {page t : Text}
    {s u : Section} (hpage : pages page = .ok t) (hend : t.getLast? = some '\n')
    (hone : Section.ofPage t = [s]) (hu : u ∈ s.subsections)
    (hnext : u.level t = s.level t + 1) {gap name more : Text} (hgap : Heading.IsGap gap)
    (hname : Heading.IsTitle name) (hother : name ∉ Section.partNames)
    (hmore : ∀ l ∈ more.rawLines, ∀ k, 1 ≤ k → k ≤ s.level t + 1 → ¬ IsHeading k l)
    (function : Text) :
    let more' := Heading.written (s.level t + 1) gap name ++ more
    Noting.fromStart (assemble (.ofPages (Function.update pages page (.ok (t ++ more'))))
        function).run =
      Noting.fromStart (assemble (.ofPages pages) function).run := by
  intro more'
  obtain ⟨hhead, htitle⟩ := Heading.isHeading_written (s.level t + 1) hgap hname
  obtain ⟨s', v, hone', hv, hname', hbody, hsubsections⟩ :=
    Section.ofPage_append hend hone hu hnext (Heading.rawLines_written _ hgap hname)
      (List.getLast?_concat ..) hhead hmore
  have halike : s.Alike s' := by
    refine ⟨hname', hbody, fun part hpart => ?_⟩
    have hne : v.name ≠ part := fun e => hother (by rwa [← htitle, ← hv, e])
    rw [Section.subsection?, hsubsections, Section.find?_put_of_ne hne, Section.subsection?]
  obtain ⟨hsettled, hnotes⟩ := settled?_of_single hone
  obtain ⟨hsettled', hnotes'⟩ := settled?_of_single hone'
  have hpages : ∀ p, AlikePage (pages p) (Function.update pages page (.ok (t ++ more')) p) := by
    intro p
    by_cases hp : p = page
    · subst hp
      rw [Function.update_self, hpage]
      exact .settled hsettled hsettled' halike fun f => (hnotes' f).trans (hnotes f).symm
    · rw [Function.update_of_ne hp]
      exact .same _
  obtain ⟨events, result, ha⟩ := exists_assembles pages function
  rw [ha.fromStart_eq, (ha.alike hpages).fromStart_eq]

/-- A page of a function. -/
def notedPage : Text :=
  "# f\n`f(a)`\n## Notes\nold\n## Parameters\n* **a** : an index\n## Description\nD\n"

def notedSection : Section :=
  ⟨"f", "`f(a)`\n", [⟨"Notes", "old\n", [], ⟨11, 24⟩⟩,
    ⟨"Parameters", "* **a** : an index\n", [], ⟨24, 57⟩⟩,
    ⟨"Description", "D\n", [], ⟨57, 74⟩⟩], ⟨0, 74⟩⟩

/-- What is written behind the page: another call, a bullet that is none, a deeper heading and a
line that forwards. -/
def looseText : Text := "`f(b) -> c`\n* loose\n### Returns\nPlease see: [g](g)\n"

/-- Notes behind the page replace the ones on it and change nothing else. -/
theorem assemble_notedPage_append :
    let pages : Text → Except Fault Text := fun _ => .ok notedPage
    let pages' := Function.update pages "f"
      (.ok (notedPage ++ (Heading.written 2 [' '] "Notes" ++ looseText)))
    (∃ s, Section.ofPage notedPage = [s] ∧ ∃ u ∈ s.subsections,
        u.level notedPage = s.level notedPage + 1) ∧
      (Noting.fromStart (assemble (.ofPages pages) "f").run).1.isOk = true ∧
      Noting.fromStart (assemble (.ofPages pages') "f").run =
        Noting.fromStart (assemble (.ofPages pages) "f").run := by
  intro pages pages'
  have hone : Section.ofPage notedPage = [notedSection] := rfl
  have hlevel : notedSection.level notedPage = 1 := by decide
  have hu : (⟨"Notes", "old\n", [], ⟨11, 24⟩⟩ : Section) ∈ notedSection.subsections :=
    List.mem_cons_self
  have hnext : Section.level notedPage ⟨"Notes", "old\n", [], ⟨11, 24⟩⟩ =
      notedSection.level notedPage + 1 := by decide
  have hmore : ∀ l ∈ looseText.rawLines, ∀ k, 1 ≤ k → k ≤ notedSection.level notedPage + 1 →
      ¬ IsHeading k l := by
    intro l hl k h1 h2
    rw [hlevel] at h2
    obtain rfl | rfl : k = 1 ∨ k = 2 := by omega
    · exact (by decide : ∀ l ∈ looseText.rawLines, ¬ IsHeading 1 l) l hl
    · exact (by decide : ∀ l ∈ looseText.rawLines, ¬ IsHeading 2 l) l hl
  refine ⟨⟨_, hone, _, hu, hnext⟩, by decide +kernel, ?_⟩
  have hgap : Heading.IsGap [' '] := ⟨by simp, by simp⟩
  have hname : Heading.IsTitle "Notes" := ⟨by decide, by decide, by decide⟩
  have hpage : pages "f" = .ok notedPage := rfl
  have happend := assemble_append hpage (by decide) hone hu hnext hgap hname (by decide) hmore "f"
  rwa [hlevel] at happend

end WikiStubs
