import WikiStubs.Record

/-!
# Resolving functions

The page of a function has its name. A page without headings may forward to another page, in a
line such as

    Please see: [btn](btn)

The target runs from the last `](` that leaves a target to the last closing parenthesis of the
line. The first line of this shape counts. A page with several top-level sections has its first
heading one level too deep, so it is read again without its first character.

* `Redirect.target?` is the page that a page forwards to.
* `resolve` finds the section that documents a function, with at most two pages asked for.
* `assemble` reads the section into the record of the function.
-/
namespace WikiStubs

/-! ## Redirects -/

namespace Redirect

def opening : Text := "Please see: ["

/-- The text up to the last closing parenthesis, unless it is empty. -/
def untilLastParen? (t : Text) : Option Text :=
  match Text.splitAtLast? ')' t with
  | some ([], _) => none
  | some (target, _) => some target
  | none => none

/-- The target, from the text after the opening bracket. The label has at least one character and
is as long as it can be. -/
def afterOpening? : Text → Option Text
  | [] => none
  | _ :: t =>
    match afterOpening? t with
    | some target => some target
    | none => (Text.after? "](" t).bind untilLastParen?

def ofLine? (line : Text) : Option Text := (Text.after? opening line).bind afterOpening?

/-- The page that a page forwards to. -/
def target? (page : Text) : Option Text :=
  (page.rawLines.findSome? fun l => ofLine? (Text.dropFinal '\n' l)).map Text.trim

end Redirect

/-! ## Sections and records -/

variable {m : Type → Type} [Monad m]

/-- The first section of a page, re-read without its first character if it has several. -/
def settle (src : PageSource m) (function page : Text) : ExceptT Fault m Section :=
  match Section.ofPage page with
  | [] => throw (.unresolved function)
  | [s] => pure s
  | ss => do
    src.note (.releveled function ss.length)
    match Section.ofPage (page.drop 1) with
    | [] => throw (.unresolved function)
    | s :: _ => pure s

/-- The section that documents a function; mirrors `resolve_section`. -/
def resolve (src : PageSource m) (function : Text) : ExceptT Fault m Section := do
  let page ← src.fetch function
  match Section.ofPage page with
  | [] =>
    match Redirect.target? page with
    | none => throw (.unresolved function)
    | some target =>
      src.note (.redirected function target)
      settle src function (← src.fetch target)
  | _ :: _ => settle src function page

/-- The record of a function. -/
def assemble [PatternCompiler] (src : PageSource m) (function : Text) : ExceptT Fault m Record := do
  let s ← resolve src function
  src.noteAll (Record.notes function s)
  Record.ofSection function s

end WikiStubs
