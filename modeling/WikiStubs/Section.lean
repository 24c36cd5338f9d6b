import WikiStubs.Heading

/-!
# Sections

A page is a tree of sections. A section has the name of its heading, its own text (the body,
which ends at the first deeper heading), its subsections, and the span of the page that it
covers, in UTF-8 bytes from its heading line to the start of the next section.

A page need not start at level 1 nor go down level by level: a stretch of lines is cut at the
least level that occurs in it, and each section's lines are cut at deeper levels in turn.

* `Extent.cut` cuts lines before each heading of one level and loses nothing (`join_cut`).
* `Section.within` builds the sections of a stretch of lines, `Section.ofText` those of a page.
* Among the subsections of a section each name is unique (`keepLast`): a later section takes the
  place of an earlier one of its name.
-/
namespace WikiStubs

structure Span where
  start : Nat
  stop : Nat
  deriving DecidableEq

/-- A section of a page. -/
structure Section where
  name : Text
  body : Text
  subsections : List Section
  span : Span

/-! ## Extents -/

/-- A heading line, the name that it gives, and the lines up to the next heading of its level. -/
structure Extent where
  name : Text
  head : Line
  content : List Line

namespace Extent

/-- The whole text, heading line included. -/
def text (x : Extent) : Text := x.head.text ++ Line.join x.content

def span (x : Extent) : Span := ⟨x.head.start, x.head.start + x.text.byteSize⟩

/-- The lines before the first heading of `level`, and the extents of its headings. -/
def cut (level : Nat) : List Line → List Line × List Extent
  | [] => ([], [])
  | l :: ls =>
    let (lead, extents) := cut level ls
    match l.nameAt? level with
    | some name => ([], ⟨name, l, lead⟩ :: extents)
    | none => (l :: lead, extents)

theorem join_cut (level : Nat) (ls : List Line) :
    Line.join (cut level ls).1 ++ (cut level ls).2.flatMap text = Line.join ls := by
  induction ls with
  | nil => rfl
  | cons l ls ih =>
    simp only [cut]
    split <;> simp_all [Line.join, text]

/-- The text of the extent of a heading of `level` up to its first deeper heading
(`deeper_heading_start`). -/
def body (level : Nat) (x : Extent) : Text :=
  Line.join (x.content.takeWhile fun l => !l.isDeeper level)

end Extent

/-! ## Building the tree -/

namespace Section

/-- Adds a section to a list in which names are unique: it takes the place of its namesake.
Mirrors `insert_unique`. -/
def put (s : Section) : List Section → List Section
  | [] => [s]
  | t :: ts => if t.name = s.name then s :: ts else t :: put s ts

/-- Of the sections of one name the last, at the place of the first. -/
def keepLast (ss : List Section) : List Section := ss.foldl (fun acc s => put s acc) []

/-- The sections of the lines at the least level that occurs among the deepest `depth` levels.
Mirrors `build`. -/
def within : Nat → List Line → List Section
  | 0, _ => []
  | depth + 1, ls =>
    let level := maxLevel - depth
    match (Extent.cut level ls).2 with
    | [] => within depth ls
    | xs => xs.map fun x =>
      { name := x.name
        body := x.body level
        subsections := keepLast (within depth x.content)
        span := x.span }

/-- The top-level sections of a page, at the least level from `minLevel` on that occurs. Mirrors
`group_by_sections`. -/
def ofText (minLevel : Nat) (t : Text) : List Section :=
  within (maxLevel + 1 - max minLevel 1) (Line.ofText t)

/-- The sections of a page whatever level it starts at. -/
def ofPage (t : Text) : List Section := ofText 1 t

/-! ## Reading the tree -/

def subsection? (s : Section) (name : Text) : Option Section :=
  s.subsections.find? (·.name = name)

/-- The body without the blanks around it. -/
def text (s : Section) : Text := s.body.trim

end Section
end WikiStubs
