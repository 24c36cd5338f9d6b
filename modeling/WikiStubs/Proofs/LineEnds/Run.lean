import WikiStubs.Catalog
import WikiStubs.Proofs.LineEnds.Record

/-!
# Line ends do not matter

On pages whose lines end in a carriage return and a line feed the same functions are listed, the
same pages are asked for, and the same records are put together as on the same pages with line
feeds alone (`assemble_crlfPages`). What is copied with its line ends has these carriage returns,
too: the defaults of parameters and the description of a function.
-/
namespace WikiStubs

open Text

/-! ## Catalogs -/

namespace Catalog

/-- A category lists the same functions. -/
theorem categoryOf_recoded {s s' : Section} (h : s.Recoded s') : categoryOf s' = categoryOf s := by
  have hr : '\r' ∉ s.body.trim := fun hmem => h.noReturn (mem_of_mem_trimBy hmem)
  have hentries : entries s' = entries s := by
    rw [entries, Section.text, h.body, trim_crlf, lines_crlf hr, entries, Section.text]
  rw [categoryOf, hentries, h.name, categoryOf]

theorem mapM_categoryOf_recoded {ss ss' : List Section}
    (h : List.Forall₂ Section.Recoded ss ss') : ss'.mapM categoryOf = ss.mapM categoryOf := by
  induction h with
  | nil => rfl
  | cons hs _ ih => rw [List.mapM_cons, categoryOf_recoded hs, ih, List.mapM_cons]

theorem ofPage_crlf {t : Text} (h : '\r' ∉ t) : ofPage (crlf t) = ofPage t := by
  have hpage := Section.recoded_ofPage h
  unfold ofPage
  generalize Section.ofPage t = ss, Section.ofPage (crlf t) = ss' at hpage
  cases hpage with
  | nil => rfl
  | cons htop _ =>
    rcases htop.subsection?_cases "Functions" with ⟨hnone, hnone'⟩ | ⟨u, u', hsome, hsome', hu⟩
    · simp only [hnone, hnone', htop.name]
    · simp only [hsome, hsome']
      exact mapM_categoryOf_recoded hu.subsections

end Catalog

/-! ## Runs -/

section
variable {pages : Text → Except Fault Text} {function : Text}

/-- The record of a function is put together in the same way. -/
theorem Assembles.crlf [PatternCompiler] (hpages : NoReturns pages)
    (hf : ∀ c ∈ function, c ≠ '\r' ∧ c ≠ '\n') {events : List Event}
    {result : Except Fault Record} (h : Assembles pages function events result) :
    ∃ events' result', Assembles (crlfPages pages) function events' result' ∧
      result'.map Record.withoutReturns = result := by
  cases h with
  | unresolved hr =>
    obtain ⟨events', result', hr', hrec⟩ := hr.crlf hpages
    cases hrec
    exact ⟨_, _, .unresolved hr', rfl⟩
  | resolved hr =>
    obtain ⟨events', result', hr', hrec⟩ := hr.crlf hpages
    cases hrec with | ok hs =>
    exact ⟨_, _, .resolved hr', Record.ofSection_recoded hs hf⟩

/-- **Line ends do not matter.** With a carriage return before every line feed of every page, the
same pages are asked for, and the record of a function is the same but for the carriage returns in
its description and its defaults, or there is none for the same reason. The catalog lists the same
categories. -/
theorem assemble_crlfPages [PatternCompiler] (hpages : NoReturns pages) :
    (∀ function : Text, '\r' ∉ function → '\n' ∉ function →
      let plain := Noting.fromStart (assemble (.ofPages pages) function).run
      let ended := Noting.fromStart (assemble (.ofPages (crlfPages pages)) function).run
      Event.pagesRead ended.2 = Event.pagesRead plain.2 ∧
        ended.1.map Record.withoutReturns = plain.1) ∧
    ∀ t : Text, '\r' ∉ t → Catalog.ofPage (crlf t) = Catalog.ofPage t := by
  refine ⟨fun function hr hn => ?_, fun t ht => Catalog.ofPage_crlf ht⟩
  have hf : ∀ c ∈ function, c ≠ '\r' ∧ c ≠ '\n' := fun c hc =>
    ⟨fun e => hr (e ▸ hc), fun e => hn (e ▸ hc)⟩
  obtain ⟨events, result, h⟩ := exists_assembles pages function
  obtain ⟨events', result', h', hresult⟩ := h.crlf hpages hf
  simp only [h.fromStart_eq, h'.fromStart_eq, h.pagesRead_eq, h'.pagesRead_eq,
    forward?_crlf hpages, hresult, and_self]

end

/-- A page with a call that has a default over two lines, and a description of two lines. -/
def twoLinePage : Text :=
  "# f\n`f([a=1\n2])`\n## Parameters\n* **a** : x\n## Description\nD\nE"

theorem assemble_twoLinePage_crlf :
    NoReturns (fun _ => .ok twoLinePage) ∧
    ((Noting.fromStart (assemble (.ofPages (crlfPages fun _ => .ok twoLinePage)) "f").run).1.map
      (·.description)) = .ok ("D\r\nE" : Text) ∧
    ((Noting.fromStart (assemble (.ofPages (crlfPages fun _ => .ok twoLinePage)) "f").run).1.map
      Record.withoutReturns) =
      (Noting.fromStart (assemble (.ofPages fun _ => .ok twoLinePage) "f").run).1 := by
  have hpages : NoReturns fun _ => .ok twoLinePage := by
    intro page t h
    cases h
    decide
  exact ⟨hpages, by decide +kernel,
    ((assemble_crlfPages hpages).1 "f" (by decide) (by decide)).2⟩

end WikiStubs
