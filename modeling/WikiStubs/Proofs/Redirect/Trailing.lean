import WikiStubs.Proofs.Link
import WikiStubs.Proofs.Resolve.Outcome

/-!
# What follows the link of a redirect line

A page such as

    Please see: [circ](circ) (filled)

forwards to a link, and more text may follow the link on its line. The reader takes the longest
label and then the longest target, so that text counts: a closing parenthesis in it lengthens the
target, and a further link in it takes the place of the first one. `Leads` lists the three cases.

* `afterOpening?_link`: what is read behind a link comes first, then what the link itself leaves.
* `asks_for_link_iff`: the target of the link is asked for exactly when no closing parenthesis
  follows it, or the last link of the line has the same target.
* `asks_for_lengthened_target`: a page whose remark in parentheses becomes part of the target.
-/
namespace WikiStubs

/-- A link that can be read in one way only: neither part is empty, no bracket stands in the label
and no parenthesis in the target. -/
structure Link.IsPlain (l : Link) : Prop where
  label_ne_nil : l.label ≠ []
  open_not_mem_label : '[' ∉ l.label
  close_not_mem_label : ']' ∉ l.label
  target_ne_nil : l.target ≠ []
  open_not_mem_target : '(' ∉ l.target
  close_not_mem_target : ')' ∉ l.target

namespace Redirect

/-! ## Reading behind a link -/

/-- A text without a middle of a link right behind its first character. -/
theorem afterOpening?_cons_of_no_middle {c : Char} {t : Text} (h : Text.after? "](" t = none) :
    afterOpening? (c :: t) = afterOpening? t := by
  rw [afterOpening?, h, Option.bind_none]
  cases afterOpening? t <;> rfl

/-- No middle of a link begins before the first opening parenthesis. -/
theorem after?_middle_eq_none {s t : Text} {c : Char} (hs : '(' ∉ s) (hc : c ≠ ']')
    (hc' : c ≠ '(') : Text.after? "](" (s ++ c :: t) = none := by
  match s with
  | [] => simp [Text.after?, hc.symm]
  | [d] => simp [Text.after?, hc'.symm]
  | d :: e :: s =>
    have he : '(' ≠ e := by
      rintro rfl
      simp at hs
    simp [Text.after?, he]

/-- The target of a link holds no middle, so reading goes on at its closing parenthesis. -/
theorem afterOpening?_target {s : Text} (hs : '(' ∉ s) (rest : Text) :
    afterOpening? (s ++ ')' :: rest) = afterOpening? (')' :: rest) := by
  induction s with
  | nil => rfl
  | cons c s ih =>
    rw [List.mem_cons, not_or] at hs
    rw [List.cons_append, afterOpening?_cons_of_no_middle
      (after?_middle_eq_none hs.2 (by decide) (by decide)), ih hs.2]

/-- The last character of a label stands before the middle of the link, the others do not. -/
theorem afterOpening?_label {label : Text} (hne : label ≠ []) (hclose : ']' ∉ label) (t : Text) :
    afterOpening? (label ++ ("](" ++ t)) = (afterOpening? ("](" ++ t)).or (untilLastParen? t) := by
  induction label with
  | nil => exact absurd rfl hne
  | cons c label ih =>
    rw [List.mem_cons, not_or] at hclose
    cases label with
    | nil =>
      rw [List.singleton_append, afterOpening?, Text.after?_append, Option.bind_some]
      cases afterOpening? ("](" ++ t) <;> rfl
    | cons d label =>
      have hd : ']' ≠ d := fun e => hclose.2 (e ▸ List.mem_cons_self ..)
      rw [List.cons_append, afterOpening?_cons_of_no_middle (by simp [Text.after?, hd])]
      exact ih (List.cons_ne_nil _ _) hclose.2

/-- Behind the opening bracket of a plain link: what is read from its closing parenthesis on, and
if that is nothing, its target up to the last closing parenthesis. -/
theorem afterOpening?_link {l : Link} (hl : l.IsPlain) (rest : Text) :
    afterOpening? (l.label ++ ("](" ++ (l.target ++ ')' :: rest))) =
      (afterOpening? (')' :: rest)).or (untilLastParen? (l.target ++ ')' :: rest)) := by
  have hparen : Text.after? "](" (l.target ++ ')' :: rest) = none :=
    after?_middle_eq_none hl.open_not_mem_target (by decide) (by decide)
  have hbracket : Text.after? "](" ('(' :: (l.target ++ ')' :: rest)) = none := rfl
  have hmiddle : afterOpening? ("](" ++ (l.target ++ ')' :: rest)) = afterOpening? (')' :: rest) :=
    calc afterOpening? ("](" ++ (l.target ++ ')' :: rest))
        = afterOpening? ('(' :: (l.target ++ ')' :: rest)) :=
          afterOpening?_cons_of_no_middle hbracket
      _ = afterOpening? (l.target ++ ')' :: rest) := afterOpening?_cons_of_no_middle hparen
      _ = afterOpening? (')' :: rest) := afterOpening?_target hl.open_not_mem_target rest
  rw [afterOpening?_label hl.label_ne_nil hl.close_not_mem_label, hmiddle]

/-! ## Where the line leads -/

/-- The target that a line forwards to when its link goes to `target` and `rest` follows the
link. -/
inductive Leads (target rest : Text) : Text → Prop where
  /-- No closing parenthesis follows: the target of the link. -/
  | link (closed : ')' ∉ rest) : Leads target rest target
  /-- No further link follows: all up to the last closing parenthesis. -/
  | lengthened {more behind : Text} (split : rest = more ++ ')' :: behind) (last : ')' ∉ behind)
      (alone : ∀ other, ¬ Longest (')' :: rest) other) : Leads target rest (target ++ ')' :: more)
  /-- A further link follows, for which the first one is part of the label. -/
  | relinked {other : Text} (further : Longest (')' :: rest) other) : Leads target rest other

/-- A further link needs a closing parenthesis of its own. -/
theorem not_longest_of_closed {rest : Text} (h : ')' ∉ rest) (other : Text) :
    ¬ Longest (')' :: rest) other := by
  rintro ⟨label, behind, hlinked, -⟩
  obtain ⟨c, label', rfl⟩ := List.exists_cons_of_ne_nil hlinked.label
  have heq := (List.cons.inj hlinked.eq).2
  exact h (heq ▸ by simp)

theorem exists_leads {l : Link} (hl : l.IsPlain) (rest : Text) : ∃ written,
    Leads l.target rest written ∧
      Longest (l.label ++ ("](" ++ (l.target ++ ')' :: rest))) written := by
  simp only [← afterOpening?_eq_some_iff, afterOpening?_link hl]
  cases hlater : afterOpening? (')' :: rest) with
  | some other =>
    exact ⟨other, .relinked (afterOpening?_eq_some_iff.1 hlater), rfl⟩
  | none =>
    by_cases hrest : ')' ∈ rest
    · obtain ⟨more, behind, hsplit⟩ := Text.exists_splitAtLast? hrest
      obtain ⟨rfl, hlast⟩ := Text.splitAtLast?_eq_some_iff.1 hsplit
      refine ⟨l.target ++ ')' :: more, .lengthened rfl hlast fun other h => ?_, ?_⟩
      · rw [← afterOpening?_eq_some_iff, hlater] at h
        cases h
      · exact untilLastParen?_eq_some_iff.2 ⟨by simp, behind, by simp, hlast⟩
    · exact ⟨l.target, .link hrest,
        untilLastParen?_eq_some_iff.2 ⟨hl.target_ne_nil, rest, rfl, hrest⟩⟩

/-- The line leads to the page that its link names exactly when no closing parenthesis follows the
link, or a further link names that page, too. -/
theorem Leads.trim_eq_iff {l : Link} (hl : l.IsPlain) {rest written : Text}
    (h : Leads l.target rest written) : written.trim = l.target.trim ↔
      ')' ∉ rest ∨ ∃ other, Longest (')' :: rest) other ∧ other.trim = l.target.trim := by
  cases h with
  | link closed => exact ⟨fun _ => Or.inl closed, fun _ => rfl⟩
  | @lengthened more behind split last alone =>
    have hmem : ')' ∈ (l.target ++ ')' :: more).trim :=
      Text.mem_trimBy (by simp) (by decide)
    constructor
    · intro he
      exact absurd (Text.mem_of_mem_trimBy (he ▸ hmem)) hl.close_not_mem_target
    · rintro (closed | ⟨other, further, -⟩)
      · exact absurd (split ▸ by simp) closed
      · exact absurd further (alone other)
  | relinked further =>
    constructor
    · exact fun he => Or.inr ⟨written, further, he⟩
    · rintro (closed | ⟨other, further', he⟩)
      · exact absurd further (not_longest_of_closed closed written)
      · rwa [further.unique further']

/-! ## Pages -/

/-- What a line that may forward starts with. -/
def lineStart : Text := "Please see: "

/-- The first line of the page that starts as a redirect has a plain link there, and behind the
link the rest of the line. -/
structure SeesFirst (page : Text) (link : Link) (rest : Text) : Prop where
  plain : link.IsPlain
  line : ∃ before after, lines page = before ++ (lineStart ++ (link.written ++ rest)) :: after ∧
    ∀ l ∈ before, Text.startsWith lineStart l = false

theorem opening_eq : opening = lineStart ++ ['['] := rfl

theorem Shaped.startsWith {line : Text} (h : Shaped line) :
    Text.startsWith lineStart line = true := by
  obtain ⟨label, target, rest, rfl, -⟩ := h
  rw [opening_eq, List.append_assoc]
  exact Text.startsWith_iff.2 (List.prefix_append _ _)

theorem SeesFirst.forwards {page rest : Text} {link : Link} (h : SeesFirst page link rest) :
    ∃ written, Leads link.target rest written ∧ Forwards page written.trim := by
  obtain ⟨before, after, hlines, hbefore⟩ := h.line
  obtain ⟨written, hleads, hlongest⟩ := exists_leads h.plain rest
  have hline : lineStart ++ (link.written ++ rest) =
      opening ++ (link.label ++ ("](" ++ (link.target ++ ')' :: rest))) := by
    simp [opening_eq, Link.written]
  rw [hline] at hlines
  refine ⟨written, hleads, before, _, after, written, hlines, fun l hl hshaped => ?_, hlongest,
    rfl⟩
  have hno := hbefore l hl
  rw [hshaped.startsWith] at hno
  cases hno

end Redirect

section
variable {pages : Text → Except Fault Text} {function page rest : Text} {link : Link}

/-- **Redirect lines.** A page without headings, whose first line that starts as a redirect has a
plain link, forwards to the page that this link names exactly when no closing parenthesis follows
the link on the line, or the last link of the line names that page, too. In any case the page
that the line leads to is asked for. -/
theorem asks_for_link_iff (hpage : pages function = .ok page) (hbare : ¬ HasHeading page)
    (hsees : Redirect.SeesFirst page link rest) :
    let asked := Event.pagesRead (Noting.fromStart (resolve (.ofPages pages) function).run).2
    (asked = [function, link.target.trim] ↔ ')' ∉ rest ∨
      ∃ other, Redirect.Longest (')' :: rest) other ∧ other.trim = link.target.trim) ∧
    ∃ written, Redirect.Leads link.target rest written ∧ asked = [function, written.trim] := by
  obtain ⟨written, hleads, hforwards⟩ := hsees.forwards
  have hasked := ((resolution pages function).second written.trim).2 ⟨page, hpage, hbare, hforwards⟩
  refine ⟨?_, written, hleads, hasked⟩
  rw [hasked, ← hleads.trim_eq_iff hsees.plain]
  simp

end

/-- A page that forwards from its second line, with more text behind the link. -/
def movedPage : Text := "Moved.\nPlease see: [circle]( circ ) instead\n"

theorem asks_for_link_of_moved :
    ¬ HasHeading movedPage ∧ Redirect.SeesFirst movedPage ⟨"circle", " circ "⟩ " instead" ∧
      Event.pagesRead
        (Noting.fromStart (resolve (.ofPages fun _ => .ok movedPage) "circb").run).2 =
          [("circb" : Text), ("circ" : Text)] := by
  have hbare : ¬ HasHeading movedPage := unsettled_iff.1 rfl
  have hsees : Redirect.SeesFirst movedPage ⟨"circle", " circ "⟩ " instead" :=
    ⟨⟨by decide, by decide, by decide, by decide, by decide, by decide⟩,
      ["Moved."], [], rfl, by decide⟩
  exact ⟨hbare, hsees,
    (@asks_for_link_iff (fun _ => .ok movedPage) "circb" _ _ _ rfl hbare hsees).1.2
      (Or.inl (by decide))⟩

/-- A page that forwards to `circ`, with a remark in parentheses behind the link. -/
def remarkPage : Text := "Please see: [circ](circ) (filled)\n"

/-- The remark is asked for as a part of the target. -/
theorem asks_for_lengthened_target :
    ¬ HasHeading remarkPage ∧ Redirect.SeesFirst remarkPage ⟨"circ", "circ"⟩ " (filled)" ∧
      Event.pagesRead
        (Noting.fromStart (resolve (.ofPages fun _ => .ok remarkPage) "circb").run).2 =
          [("circb" : Text), ("circ) (filled" : Text)] :=
  ⟨unsettled_iff.1 rfl,
    ⟨⟨by decide, by decide, by decide, by decide, by decide, by decide⟩, [], [], rfl, by decide⟩,
    rfl⟩

end WikiStubs
