import WikiStubs.Text.Basic

/-!
# Signatures

The parameters and return values of a function, as merged from the calls that its page shows.

* `Parameter.ofToken?` reads one argument of a call: `name`, `[name]` or `[name=value]`, with
  brackets allowed at odd places.
* `Signature.merge` merges one call: it may add trailing parameters, and it sets the return list
  when none is set yet.
-/
namespace WikiStubs

/-- A declared parameter. Its default is absent when the parameter is required, and `nil` when
it is optional without a default of its own. -/
structure Parameter where
  name : Text
  default : Option Text
  deriving DecidableEq

structure Signature where
  params : List Parameter
  returns : List Text
  deriving DecidableEq

namespace Parameter

/-- Whether a call may leave the parameter out. -/
def isOptional (p : Parameter) : Bool := p.default.isSome

/-- A bracket or a blank: what may surround a name or a default. -/
def isBracketing (c : Char) : Bool := c == '[' || c == ']' || Text.isBlank c

/-- Mirrors `strip_brackets`. -/
def unbracket (t : Text) : Text := t.trimBy isBracketing

/-- The default of an optional parameter that names none. -/
def nilDefault : Text := "nil"

/-- A parameter of the given spelling, unless nothing is left of its name. -/
def ofSpelling? (name : Text) (default : Option Text) : Option Parameter :=
  match Text.joinWords (unbracket name) with
  | [] => none
  | n => some ⟨n, default⟩

/-- The parameter that one argument of a call names; mirrors `parse_param`. -/
def ofToken? (token : Text) : Option Parameter :=
  match token.trim with
  | [] => none
  | t =>
    match Text.splitAtFirst? "=" t with
    | some (name, value) => ofSpelling? name (some (unbracket value))
    | none =>
      if t.head? = some '[' ∨ t.getLast? = some ']' then ofSpelling? t (some nilDefault)
      else ofSpelling? t none

def ofArgs (args : Text) : List Parameter := (args.splitOn ',').filterMap ofToken?

end Parameter

namespace Signature

def empty : Signature := ⟨[], []⟩

def returnsOf (list : Text) : List Text := ((list.splitOn ',').map Text.joinWords).filter (· ≠ [])

def names (s : Signature) : List Text := s.params.map (·.name) ++ s.returns

/-- Adds the parameters of a call that lie beyond those known, which keep their places. -/
def extend (known new : List Parameter) : List Parameter := known ++ new.drop known.length

/-- Merges a call, given its arguments and the return list that it may declare. Mirrors
`merge_call`. -/
def merge (s : Signature) (args : Text) (returns : Option Text) : Signature :=
  { params := extend s.params (Parameter.ofArgs args)
    returns := if s.returns = [] then (returns.map returnsOf).getD [] else s.returns }

end Signature
end WikiStubs
