import Mathlib.Data.List.TakeWhile
import WikiStubs.Proofs.Bullet

/-!
# Which lines are bullets

The lines that can be read as bullets, said without their reader: a mark, names in bold, a colon
with blanks allowed before it, and a description (`Bullet.WellFormed`). The reader takes these
lines and no others (`Bullet.ofLine?_isSome_iff`). It looks for the last end of the bold names
that a description follows, so it must be shown that it finds one whenever there is one.
-/
namespace WikiStubs.Bullet

/-- A bullet mark, names in bold, a colon and a description. A description need not start on the
line of the colon, for line feeds are blanks, but some of its characters is no line feed. -/
def WellFormed (line : Text) : Prop :=
  ∃ (mark : Char) (names blanks d : Text), (mark = '*' ∨ mark = '-') ∧
    names ≠ [] ∧ '\n' ∉ names ∧ (∀ c ∈ blanks, Text.isBlank c = true) ∧ (∃ c ∈ d, c ≠ '\n') ∧
    line = mark :: ' ' :: bold ++ (names ++ (bold ++ blanks ++ ':' :: d))

/-! ## From the end of a line to its start -/

theorem descriptionOf?_isSome_iff {t : Text} :
    (descriptionOf? t).isSome = true ↔ ∃ c ∈ t, c ≠ '\n' := by
  have hany : t.any (fun c => decide (c ≠ '\n')) = true ↔ ∃ c ∈ t, c ≠ '\n' := by
    simp only [List.any_eq_true, decide_eq_true_eq]
  unfold descriptionOf?
  split
  · split
    · next h => exact ⟨fun _ => hany.1 h, fun _ => rfl⟩
    · next h => exact ⟨(by cases ·), fun hex => absurd (hany.2 hex) h⟩
  · next hne =>
    refine ⟨fun _ => ?_, fun _ => rfl⟩
    obtain ⟨c, u, hd⟩ := List.exists_cons_of_ne_nil hne
    have hblank := List.head_dropWhile_not Text.isBlank hne
    simp only [hd, List.head_cons] at hblank
    refine ⟨c, (List.dropWhile_sublist Text.isBlank).subset (hd ▸ List.mem_cons_self ..), ?_⟩
    rintro rfl
    cases hblank

theorem tail?_isSome_iff {t : Text} :
    (tail? t).isSome = true ↔ ∃ blanks u, (∀ c ∈ blanks, Text.isBlank c = true) ∧
      t = bold ++ blanks ++ ':' :: u ∧ (descriptionOf? u).isSome = true := by
  unfold tail?
  constructor
  · intro h
    split at h
    · cases h
    · next t₁ hbold =>
      split at h
      · cases h
      · next u hcolon =>
        refine ⟨t₁.takeWhile Text.isBlank, u, fun c hc => List.mem_takeWhile_imp hc, ?_, h⟩
        rw [Text.after?_eq_some.1 hbold, List.append_assoc]
        refine congrArg (bold ++ ·) ?_
        change t₁ = t₁.takeWhile Text.isBlank ++ (":" ++ u)
        rw [← Text.after?_eq_some.1 hcolon, List.takeWhile_append_dropWhile]
  · rintro ⟨blanks, u, hblanks, rfl, hu⟩
    have hbold : Text.after? "**" (bold ++ blanks ++ ':' :: u) = some (blanks ++ ':' :: u) := by
      rw [List.append_assoc]
      exact Text.after?_append bold _
    have hdrop : (blanks ++ ':' :: u).dropWhile Text.isBlank = ':' :: u := by
      rw [List.dropWhile_append_of_pos hblanks]
      rfl
    have hcolon : Text.after? ":" (':' :: u) = some u := Text.after?_append [':'] u
    simp only [hbold, hdrop, hcolon, hu]

theorem split?_isSome_iff {t : Text} :
    (split? t).isSome = true ↔ ∃ names u, names ≠ [] ∧ '\n' ∉ names ∧ t = names ++ u ∧
      (tail? u).isSome = true := by
  induction t with
  | nil =>
    refine ⟨(by cases ·), ?_⟩
    rintro ⟨names, u, hne, -, ht, -⟩
    exact absurd (List.append_eq_nil_iff.1 ht.symm).1 hne
  | cons c t ih =>
    rw [split?]
    constructor
    · intro h
      split at h
      · cases h
      · next hc =>
        split at h
        · next hs =>
          obtain ⟨names, u, -, hline, rfl, hu⟩ := ih.1 (hs ▸ rfl)
          exact ⟨c :: names, u, List.cons_ne_nil _ _, by simp [Ne.symm hc, hline], rfl, hu⟩
        · rw [Option.isSome_map] at h
          exact ⟨[c], t, List.cons_ne_nil _ _, by simp [Ne.symm hc], rfl, h⟩
    · rintro ⟨names, u, hne, hline, ht, hu⟩
      obtain ⟨d, names, rfl⟩ := List.exists_cons_of_ne_nil hne
      obtain ⟨rfl, rfl⟩ := List.cons.inj ht
      rw [List.mem_cons, not_or] at hline
      rw [if_neg (Ne.symm hline.1)]
      split
      · rfl
      · next hs =>
        -- no later end of the names, so they end here
        have hnil : names = [] := by
          by_contra hne
          have hlater := ih.2 ⟨names, u, hne, hline.2, rfl, hu⟩
          exact absurd (hs ▸ hlater) (by simp)
        subst hnil
        rwa [Option.isSome_map]

theorem afterMark?_eq_some {line t : Text} : afterMark? line = some t ↔
    ∃ mark : Char, (mark = '*' ∨ mark = '-') ∧ line = mark :: ' ' :: bold ++ t := by
  unfold afterMark?
  constructor
  · intro h
    cases hstar : Text.after? "* **" line with
    | some u =>
      rw [hstar, Option.orElse_some] at h
      cases h
      exact ⟨'*', Or.inl rfl, Text.after?_eq_some.1 hstar⟩
    | none =>
      rw [hstar, Option.orElse_none] at h
      exact ⟨'-', Or.inr rfl, Text.after?_eq_some.1 h⟩
  · rintro ⟨mark, rfl | rfl, rfl⟩
    · have hstar := Text.after?_append ['*', ' ', '*', '*'] t
      exact (congrArg (Option.orElse · _) hstar).trans Option.orElse_some
    · exact Text.after?_append ['-', ' ', '*', '*'] t

/-- The reader takes the lines of the shape of a bullet and no others. -/
theorem ofLine?_isSome_iff {line : Text} : (ofLine? line).isSome = true ↔ WellFormed line := by
  unfold ofLine? WellFormed
  rw [Option.isSome_map]
  constructor
  · intro h
    cases hmark : afterMark? line with
    | none =>
      rw [hmark] at h
      cases h
    | some t =>
      rw [hmark, Option.bind_some] at h
      obtain ⟨mark, hm, hline⟩ := afterMark?_eq_some.1 hmark
      obtain ⟨names, u, hne, hnames, rfl, hu⟩ := split?_isSome_iff.1 h
      obtain ⟨blanks, d, hblanks, rfl, hd⟩ := tail?_isSome_iff.1 hu
      exact ⟨mark, names, blanks, d, hm, hne, hnames, hblanks, descriptionOf?_isSome_iff.1 hd,
        hline⟩
  · rintro ⟨mark, names, blanks, d, hm, hne, hnames, hblanks, hd, rfl⟩
    have hu : (tail? (bold ++ blanks ++ ':' :: d)).isSome = true :=
      tail?_isSome_iff.2 ⟨blanks, d, hblanks, rfl, descriptionOf?_isSome_iff.2 hd⟩
    rw [afterMark?_eq_some.2 ⟨mark, hm, rfl⟩, Option.bind_some]
    exact split?_isSome_iff.2 ⟨names, _, hne, hnames, rfl, hu⟩

instance (line : Text) : Decidable (WellFormed line) := decidable_of_iff _ ofLine?_isSome_iff

theorem ofLine_eq_ok {line : Text} {b : Bullet} (h : ofLine? line = some b) :
    ofLine line = .ok b := by
  rw [ofLine, h]

theorem ofLine_eq_error {line : Text} (h : ¬ WellFormed line) :
    ofLine line = .error (.malformed .bullet line) := by
  have hnone : ofLine? line = none := by
    rwa [← ofLine?_isSome_iff, Option.not_isSome_iff_eq_none] at h
  rw [ofLine, hnone]

end WikiStubs.Bullet
