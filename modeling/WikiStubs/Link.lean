import WikiStubs.Text.Basic

/-!
# Links

A link is `[label](target)` on one line. It runs from an opening bracket to the first `](` after
at least one character, and from there to the first closing parenthesis after at least one
character. Links within the wiki become inline code, since their targets mean nothing outside
it; links to other sites stay as they are.

* `Link.rewrite` rewrites all links of a text, from left to right, without overlap.
-/
namespace WikiStubs

structure Link where
  label : Text
  target : Text
  deriving DecidableEq

namespace Link

/-- The link that an opening bracket begins, from the text after the bracket, and what follows
the link. -/
def after? (t : Text) : Option (Link × Text) :=
  match Text.untilOnLine? "](" t with
  | none => none
  | some (label, t) =>
    match Text.untilOnLine? ")" t with
    | none => none
    | some (target, rest) => some (⟨label, target⟩, rest)

theorem eq_of_after? {t rest : Text} {l : Link} (h : after? t = some (l, rest)) :
    t = l.label ++ [']', '('] ++ l.target ++ [')'] ++ rest := by
  unfold after? at h
  split at h
  · cases h
  · next h1 =>
    split at h
    · cases h
    · next h2 =>
      cases h
      rw [Text.eq_of_untilOnLine? h1, Text.eq_of_untilOnLine? h2]
      simp

theorem length_after? {t rest : Text} {l : Link} (h : after? t = some (l, rest)) :
    rest.length < t.length := by
  rw [eq_of_after? h]; simp; omega

def isExternal (l : Link) : Bool := Text.startsWith "http" l.target

/-- The link as it is kept: as written if it is external, else its label as inline code. -/
def kept (l : Link) : Text :=
  if l.isExternal then '[' :: l.label ++ "](" ++ l.target ++ ")" else "`" ++ l.label ++ "`"

/-- Rewrites every link of the text; mirrors `replace_relative_links`. -/
def rewrite : Text → Text
  | [] => []
  | c :: t =>
    if c = '[' then
      match _h : after? t with
      | some (l, rest) => l.kept ++ rewrite rest
      | none => c :: rewrite t
    else c :: rewrite t
termination_by t => t.length
decreasing_by
  · have := length_after? _h; simp; omega
  · simp
  · simp

end Link
end WikiStubs
