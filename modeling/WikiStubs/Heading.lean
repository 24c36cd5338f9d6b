import WikiStubs.Text.Basic

/-!
# Headings

A heading line of level `k` (1 to 7) is exactly `k` hash signs, one or more spaces or tabs, and a
title that starts with a character that is not blank. The name of the heading is its title
without one final carriage return and without the spaces and tabs at its end.

* `Heading.ofLine?` reads a line, with or without its line feed.
* `Line.ofText` places the lines of a page, so that a heading knows its offset.
-/
namespace WikiStubs

/-- The deepest level of a heading; mirrors `MAX_LEVEL`. -/
def maxLevel : Nat := 7

/-- A space or a tab: what separates hash signs from a title. -/
def isGap (c : Char) : Bool := c == ' ' || c == '\t'

/-- A heading: its level, from 1 to `maxLevel`, and its name. -/
structure Heading where
  level : Nat
  name : Text
  deriving DecidableEq

namespace Heading

def nameOf (title : Text) : Text := (Text.dropFinal '\r' title).trimEndBy isGap

def ofLine? (line : Text) : Option Heading :=
  let body := Text.dropFinal '\n' line
  let hashes := body.takeWhile (· == '#')
  let rest := body.dropWhile (· == '#')
  let title := rest.dropWhile isGap
  if hashes ≠ [] ∧ hashes.length ≤ maxLevel ∧ title.length < rest.length ∧
      title.head?.any (fun c => !Text.isBlank c) then
    some ⟨hashes.length, nameOf title⟩
  else none

end Heading

/-! ## Placed lines -/

/-- A line of a page, with its line end, at a byte offset. -/
structure Line where
  start : Nat
  text : Text
  deriving DecidableEq

namespace Line

/-- The lines that start one after the other from an offset. -/
def placeFrom : Nat → List Text → List Line
  | _, [] => []
  | offset, l :: ls => ⟨offset, l⟩ :: placeFrom (offset + l.byteSize) ls

def ofText (t : Text) : List Line := placeFrom 0 t.rawLines

/-- The name of the heading of a given level that stands on the line. -/
def nameAt? (level : Nat) (l : Line) : Option Text :=
  match Heading.ofLine? l.text with
  | some h => if h.level = level then some h.name else none
  | none => none

def isDeeper (level : Nat) (l : Line) : Bool :=
  match Heading.ofLine? l.text with
  | some h => level < h.level
  | none => false

def join (ls : List Line) : Text := ls.flatMap (·.text)

theorem join_placeFrom (offset : Nat) (ls : List Text) :
    join (placeFrom offset ls) = ls.flatten := by
  induction ls generalizing offset with
  | nil => rfl
  | cons l ls ih =>
    have := ih (offset + l.byteSize)
    simp only [join] at this
    simp [placeFrom, join, this]

theorem join_ofText (t : Text) : join (ofText t) = t := by
  rw [ofText, join_placeFrom, Text.flatten_rawLines]

end Line
end WikiStubs
