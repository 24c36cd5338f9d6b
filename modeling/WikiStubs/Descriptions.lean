import WikiStubs.Corrections
import WikiStubs.Fault
import WikiStubs.Link
import WikiStubs.Section
import WikiStubs.TextMap

/-!
# Variable descriptions

A section describes its variables in the bullets of its subsections Parameters and Returns, such
as

    * **text** : any string to be printed to the screen
    * **x, y** : the [coordinates](coordinate) of the circle's center
    * **x**, **y** : [coordinates](coordinate) of the top left of the clipping region

A bullet starts with `* **` or `- **`. Its names end at the last `**` on the line that is followed
by a colon (with blanks allowed around it) and a description, which runs to the end of the line. A
page without a subsection Parameters may have the bullets in its body, after a bold line
`**Parameters**`.

* `Bullet.split?` cuts a line into names and description.
* `Bullet.ofLine` reads a line; it fails with the line itself.
* `Section.bullets` are the bullet lines of a section in order.
* `Section.descriptions` reads them all; the first malformed one is the fault, and of several
  bullets for one variable the last counts.
-/
namespace WikiStubs

/-! ## Bullets -/

/-- The names that a bullet describes, and their description. -/
structure Bullet where
  names : List Text
  description : Text
  deriving DecidableEq

namespace Bullet

/-- The description after a colon. Blanks before it do not count, not even line feeds. When
nothing else follows, the description is empty, provided a blank other than a line feed does. -/
def descriptionOf? (t : Text) : Option Text :=
  match t.dropWhile Text.isBlank with
  | [] => if t.any (· ≠ '\n') then some [] else none
  | d => some (d.takeWhile (· ≠ '\n'))

def tail? (t : Text) : Option Text :=
  match Text.after? "**" t with
  | none => none
  | some t =>
    match Text.after? ":" (t.dropWhile Text.isBlank) with
    | none => none
    | some t => descriptionOf? t

/-- The names, which end as late as they can, and the description. -/
def split? : Text → Option (Text × Text)
  | [] => none
  | c :: t =>
    if c = '\n' then none
    else match split? t with
      | some (names, d) => some (c :: names, d)
      | none => (tail? t).map fun d => ([c], d)

def afterMark? (line : Text) : Option Text :=
  (Text.after? "* **" line).orElse fun _ => Text.after? "- **" line

/-- The variable name that one of the bold names spells. -/
def nameOf (raw : Text) : Text :=
  (raw.trimBy fun c => c == ' ' || c == '*').map fun c => if c = ' ' then '_' else c

def namesOf (list : Text) : List Text :=
  (list.splitOn ',').flatMap fun raw => Corrections.variablesOf (nameOf raw)

def ofLine? (line : Text) : Option Bullet :=
  ((afterMark? line).bind split?).map fun (names, d) =>
    ⟨namesOf names, Link.rewrite d.trimEnd⟩

/-- The bullet that a line spells; a line of another shape is a fault. Mirrors `parse_line`. -/
def ofLine (line : Text) : Except Fault Bullet :=
  match ofLine? line with
  | some b => .ok b
  | none => .error (.malformed .bullet line)

end Bullet

/-! ## Sections -/

/-- Whether a line is a bullet of the outermost list; mirrors `is_bullet`. -/
def isBulletLine (line : Text) : Bool :=
  Text.startsWith "* " line || Text.startsWith "- " line

namespace Section

def parametersMark : Text := "**Parameters**"

def parameterLines (s : Section) : List Text :=
  match s.subsection? "Parameters" with
  | some p => p.body.lines
  | none =>
    match Text.splitAtFirst? parametersMark s.body with
    | some (_, rest) => rest.trim.lines
    | none => []

def returnLines (s : Section) : List Text :=
  match s.subsection? "Returns" with
  | some r => r.body.lines
  | none => []

/-- The lines that must describe variables. -/
def bullets (s : Section) : List Text :=
  (s.parameterLines ++ s.returnLines).filter isBulletLine

/-- The descriptions of the variables of a section. -/
def descriptions (s : Section) : Except Fault (TextMap Text) := do
  let bullets ← s.bullets.mapM Bullet.ofLine
  return TextMap.ofList (bullets.flatMap fun b => b.names.map fun n => (n, b.description))

end Section

end WikiStubs
