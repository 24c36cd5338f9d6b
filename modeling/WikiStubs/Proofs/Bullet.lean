import Mathlib.Data.List.Infix
import WikiStubs.Descriptions
import WikiStubs.Proofs.Identifier
import WikiStubs.Proofs.Link

/-!
# Bullets that are written to be read

A bullet for one variable with a plain description (`IsPlain`) is read back as it was written
(`Bullet.ofLine_written`). The bold names of a bullet end at the last mark that could end them, so
a description must not hold the mark, and links are rewritten, so it must not hold one.

Corrections are keyed by exact names, so a name that is none of the keys is left alone. The extra
variables of a section have one description each (`Corrections.nodup_names_extrasFor`).
-/
namespace WikiStubs

/-! ## What is not corrected -/

namespace Corrections

theorem find?_eq_none_of_key {α : Type} {key : α → Text} {k : Text} {entries : List α}
    (h : k ∉ entries.map key) : entries.find? (fun e => key e = k) = none := by
  rw [List.find?_eq_none]
  intro e he hk
  exact h (of_decide_eq_true hk ▸ List.mem_map_of_mem he)

theorem signatureFor?_eq_none {f : Text} (h : f ∉ signatures.map (·.1)) :
    signatureFor? f = none := by
  rw [signatureFor?, find?_eq_none_of_key h, Option.map_none]

theorem descriptionFor?_eq_none {f : Text} (h : f ∉ sectionTexts.map (·.name)) :
    descriptionFor? f = none := by
  rw [descriptionFor?, find?_eq_none_of_key h, Option.map_none]

theorem splitName?_eq_none {name : Text} (h : name ∉ nameSplits.map (·.1)) :
    splitName? name = none := by
  rw [splitName?, find?_eq_none_of_key h, Option.map_none]

theorem nodup_names_extrasFor (name : Text) : ((extrasFor name).map (·.1)).Nodup := by
  have htable : (extraVariables.map (·.name)).Nodup := by decide
  have hnames : (extrasFor name).map (·.1) = (extraVariables.filter fun e =>
      e.sections.isEmpty || e.sections.contains name).map (·.name) := by
    simp [extrasFor, Function.comp_def]
  rw [hnames]
  exact htable.sublist (List.filter_sublist.map _)

/-- The names of sections with more extra variables have an asterisk. -/
theorem extrasFor_of_identifier {f : Text} (h : IsIdentifier f) :
    extrasFor f = [(("bool" : Text), ("a boolean" : Text))] := by
  have hstar : ∀ e ∈ extraVariables.dropLast, e.sections ≠ [] ∧ ∀ n ∈ e.sections, '*' ∈ n := by
    decide
  have hother : extraVariables.dropLast.filter
      (fun e => e.sections.isEmpty || e.sections.contains f) = [] := by
    rw [List.filter_eq_nil_iff]
    intro e he happlies
    obtain ⟨hne, hnames⟩ := hstar e he
    rcases Bool.or_eq_true_iff.1 happlies with hempty | hmem
    · exact hne (List.isEmpty_iff.1 hempty)
    · exact h.not_mem (by decide) (hnames f (List.contains_iff_mem.1 hmem))
  rw [extrasFor, show extraVariables = extraVariables.dropLast ++ [⟨[], "bool", "a boolean"⟩] from
    rfl, List.filter_append, hother]
  rfl

end Corrections

/-! ## Plain descriptions -/

/-- The marks that end bold text. -/
def bold : Text := ['*', '*']

/-- A description in one line, without blanks around it. -/
structure IsOneLine (d : Text) : Prop where
  ne_nil : d ≠ []
  oneLine : '\n' ∉ d
  trimmed : d.trim = d

instance (d : Text) : Decidable (IsOneLine d) :=
  decidable_of_iff (d ≠ [] ∧ '\n' ∉ d ∧ d.trim = d)
    ⟨fun ⟨h1, h2, h3⟩ => ⟨h1, h2, h3⟩, fun ⟨h1, h2, h3⟩ => ⟨h1, h2, h3⟩⟩

/-- A description that is kept as it is: one line without blanks around it, without the mark of
bold text and without a link. -/
structure IsPlain (d : Text) : Prop where
  ne_nil : d ≠ []
  oneLine : '\n' ∉ d
  trimmed : d.trim = d
  noBold : ¬ bold <:+: d
  noLink : ¬ linkMiddle <:+: d

instance (d : Text) : Decidable (IsPlain d) :=
  decidable_of_iff (d ≠ [] ∧ '\n' ∉ d ∧ d.trim = d ∧ ¬ bold <:+: d ∧ ¬ linkMiddle <:+: d)
    ⟨fun ⟨h1, h2, h3, h4, h5⟩ => ⟨h1, h2, h3, h4, h5⟩,
      fun ⟨h1, h2, h3, h4, h5⟩ => ⟨h1, h2, h3, h4, h5⟩⟩

theorem IsPlain.isOneLine {d : Text} (h : IsPlain d) : IsOneLine d :=
  ⟨h.ne_nil, h.oneLine, h.trimmed⟩

namespace Bullet

/-! ## Names and description -/

theorem tail?_of_no_mark {t : Text} (h : ¬ bold <+: t) : tail? t = none := by
  have hmark : Text.after? "**" t = none := by
    rw [Option.eq_none_iff_forall_ne_some]
    intro rest hrest
    exact h ⟨rest, (Text.after?_eq_some.1 hrest).symm⟩
  simp only [tail?, hmark]

theorem split?_cons_eq_none {t : Text} (c : Char) (h : split? t = none) (htail : tail? t = none) :
    split? (c :: t) = none := by
  rw [split?, h, htail]
  split <;> rfl

theorem tail?_eq_none {t : Text} (h : ¬ bold <:+: t) : tail? t = none :=
  tail?_of_no_mark fun hpre => h hpre.isInfix

theorem split?_eq_none {t : Text} (h : ¬ bold <:+: t) : split? t = none := by
  induction t with
  | nil => rfl
  | cons c t ih =>
    have ht := not_infix_tail h
    exact split?_cons_eq_none c (ih ht) (tail?_eq_none ht)

/-- The text between the names and the description. -/
def middle : Text := ['*', '*', ' ', ':', ' ']

theorem not_bold_infix_cons {c : Char} {t : Text} (hc : c ≠ '*') (h : ¬ bold <:+: t) :
    ¬ bold <:+: c :: t := by
  intro hin
  rcases List.infix_cons_iff.1 hin with hpre | hin
  · exact hc (List.cons_prefix_cons.1 hpre).1.symm
  · exact h hin

theorem not_bold_infix_append {s t : Text} (hs : ∀ c ∈ s, c ≠ '*') (h : ¬ bold <:+: t) :
    ¬ bold <:+: s ++ t := by
  induction s with
  | nil => exact h
  | cons c s ih =>
    exact not_bold_infix_cons (hs c (List.mem_cons_self ..))
      (ih fun d hd => hs d (List.mem_cons_of_mem _ hd))

/-- Nothing ends the names later than a mark that no other mark follows. -/
theorem split?_bold_append {t : Text} (hhead : t.head? ≠ some '*') (h : ¬ bold <:+: t) :
    split? (bold ++ t) = none := by
  have hstar : ¬ bold <:+: '*' :: t := by
    intro hin
    rcases List.infix_cons_iff.1 hin with hpre | hin
    · obtain ⟨c, u, rfl⟩ := List.exists_cons_of_ne_nil (l := t) (by
        rintro rfl
        exact absurd hpre (by decide))
      exact hhead (congrArg some (List.cons_prefix_cons.1 (List.cons_prefix_cons.1 hpre).2).1.symm)
    · exact h hin
  exact split?_cons_eq_none '*' (split?_eq_none hstar) (tail?_eq_none hstar)

theorem split?_middle_append {d : Text} (h : IsPlain d) : split? (middle ++ d) = none :=
  split?_bold_append (t := ' ' :: ':' :: ' ' :: d) (by simp)
    (not_bold_infix_cons (by decide) (not_bold_infix_cons (by decide)
      (not_bold_infix_cons (by decide) h.noBold)))

theorem descriptionOf?_space {d : Text} (h : IsOneLine d) : descriptionOf? (' ' :: d) = some d := by
  have hdrop : (' ' :: d).dropWhile Text.isBlank = d := by
    rw [List.dropWhile_cons_of_pos (by decide), (Text.of_trimBy_eq h.trimmed).1]
  have hline : d.takeWhile (fun c => decide (c ≠ '\n')) = d := by
    rw [List.takeWhile_eq_self_iff]
    intro c hc
    refine decide_eq_true ?_
    intro e
    subst e
    exact h.oneLine hc
  rw [descriptionOf?, hdrop]
  split
  · next he => exact absurd rfl h.ne_nil
  · rw [hline]

theorem tail?_middle_append {d : Text} (h : IsOneLine d) : tail? (middle ++ d) = some d := by
  have hbold : Text.after? "**" (middle ++ d) = some (' ' :: ':' :: ' ' :: d) :=
    Text.after?_append bold _
  have hcolon : Text.after? ":" ((' ' :: ':' :: ' ' :: d).dropWhile Text.isBlank) =
      some (' ' :: d) := Text.after?_append [':'] _
  rw [tail?, hbold]
  simp only [hcolon, descriptionOf?_space h]

/-- The names end where a description follows, if nothing ends them later. -/
theorem split?_append {names u d : Text} (hne : names ≠ []) (hline : '\n' ∉ names)
    (hlast : split? u = none) (htail : tail? u = some d) :
    split? (names ++ u) = some (names, d) := by
  induction names with
  | nil => exact absurd rfl hne
  | cons c names ih =>
    rw [List.mem_cons, not_or] at hline
    rw [List.cons_append, split?, if_neg (Ne.symm hline.1)]
    by_cases hnil : names = []
    · subst hnil
      rw [List.nil_append, hlast, htail, Option.map_some]
    · rw [ih hnil hline.2]

theorem split?_written {names d : Text} (hne : names ≠ []) (hline : '\n' ∉ names)
    (h : IsPlain d) : split? (names ++ (middle ++ d)) = some (names, d) :=
  split?_append hne hline (split?_middle_append h) (tail?_middle_append h.isOneLine)

/-- The bullet for one variable. -/
def written (name d : Text) : Text := ['*', ' ', '*', '*'] ++ name ++ (middle ++ d)

theorem namesOf_identifier {name : Text} (h : IsIdentifier name)
    (hsplit : Corrections.splitName? name = none) : namesOf name = [name] := by
  have hmark : ∀ c ∈ name, (c == ' ' || c == '*') = false := by
    intro c hc
    rw [Bool.or_eq_false_iff, beq_eq_false_iff_ne, beq_eq_false_iff_ne]
    constructor
    · intro e
      subst e
      exact h.not_mem (by decide) hc
    · intro e
      subst e
      exact h.not_mem (by decide) hc
  have hname : nameOf name = name := by
    rw [nameOf, Text.trimBy_of_none hmark]
    refine (List.map_congr_left fun c hc => if_neg ?_).trans (List.map_id _)
    intro e
    subst e
    exact h.not_mem (by decide) hc
  rw [namesOf, List.splitOn_eq_singleton (h.not_mem (by decide)), List.flatMap_singleton, hname,
    Corrections.variablesOf, hsplit, Option.getD_none]

/-- A bullet is read back as it was written. -/
theorem ofLine_written {name d : Text} (hname : IsIdentifier name)
    (hsplit : Corrections.splitName? name = none) (hd : IsPlain d) :
    ofLine (written name d) = .ok ⟨[name], d⟩ := by
  have hstar : Text.after? "* **" (written name d) = some (name ++ (middle ++ d)) := by
    rw [written, List.append_assoc]
    exact Text.after?_append ['*', ' ', '*', '*'] _
  have hmark : afterMark? (written name d) = some (name ++ (middle ++ d)) := by
    rw [afterMark?, hstar, Option.orElse_some]
  have hsplit' := split?_written hname.1 (hname.not_mem (by decide)) hd
  have hnames := namesOf_identifier hname hsplit
  have hdescription : Link.rewrite d.trimEnd = d := by
    rw [Text.trimEnd, (Text.of_trimBy_eq hd.trimmed).2, Link.rewrite_of_none hd.noLink]
  have hbullet : ofLine? (written name d) = some ⟨[name], d⟩ := by
    rw [ofLine?, hmark, Option.bind_some, hsplit', Option.map_some]
    simp only [hnames, hdescription]
  rw [ofLine, hbullet]

end Bullet

end WikiStubs
