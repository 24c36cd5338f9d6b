import Mathlib.Data.Bool.AllAny
import WikiStubs.Proofs.Bullet.Grammar
import WikiStubs.Proofs.Bullet

/-!
# Bullets that list several variables

A bullet may describe several variables at once, with their names in bold together or one by one
(`Bullet.listed`). The names end at the last mark of bold text that a colon and a description
follow, and that mark may stand in the description itself: `* **a** : see **b** : c` is read as a
bullet for one variable of a long name.

So a bullet is read back as it was written exactly if its description has no such mark
(`Bullet.EndsLater`), whatever other bold text, colons and commas it has. In any other case the
bullet is still read, and one of the names that it gives has an asterisk in it
(`Bullet.listed_read_iff`).
-/
namespace WikiStubs

namespace Text

/-- A part without the separator lies within one piece. -/
theorem exists_mem_splitOn {c : Char} {m : Text} (h : c ∉ m) (s t : Text) :
    ∃ a b, a ++ m ++ b ∈ (s ++ m ++ t).splitOn c := by
  induction s with
  | nil =>
    obtain ⟨p, ps, hcut, ht, hfree⟩ := exists_splitOn_eq c t
    refine ⟨[], p, ?_⟩
    have hwhole : ∀ q ∈ (m ++ p) :: ps, c ∉ q := by
      intro q hq hc
      rcases List.mem_cons.1 hq with rfl | hq
      · rcases List.mem_append.1 hc with hc | hc
        · exact h hc
        · exact hfree p (List.mem_cons_self ..) hc
      · exact hfree q (List.mem_cons_of_mem _ hq) hc
    rw [ht, List.nil_append, ← List.append_assoc, splitOn_flatMap hwhole]
    exact List.mem_cons_self ..
  | cons d s ih =>
    obtain ⟨a, b, hmem⟩ := ih
    rw [List.cons_append, List.cons_append, List.splitOn_cons_eq_if_modifyHead]
    split
    · exact ⟨a, b, List.mem_cons_of_mem _ hmem⟩
    · obtain ⟨p, ps, hcut⟩ := List.exists_cons_of_ne_nil (List.splitOn_ne_nil c (s ++ m ++ t))
      rw [hcut] at hmem ⊢
      rw [List.modifyHead_cons]
      rcases List.mem_cons.1 hmem with rfl | hmem
      · exact ⟨d :: a, b, List.mem_cons_self ..⟩
      · exact ⟨a, b, List.mem_cons_of_mem _ hmem⟩

end Text

namespace Bullet

/-- A name that can be listed: none of its characters ends the name or is dropped from it, and it
does not stand for other names. -/
structure IsBoldName (n : Text) : Prop where
  ne_nil : n ≠ []
  plain : ∀ c ∈ n, c ≠ '*' ∧ c ≠ ',' ∧ c ≠ ' ' ∧ c ≠ '\n'
  single : n ≠ ("x_y" : Text)

instance (n : Text) : Decidable (IsBoldName n) :=
  decidable_of_iff
    (n ≠ [] ∧ n.all (fun c => decide (c ≠ '*' ∧ c ≠ ',' ∧ c ≠ ' ' ∧ c ≠ '\n')) = true ∧
      n ≠ ("x_y" : Text))
    ⟨fun ⟨h1, h2, h3⟩ => ⟨h1, List.all_iff_forall_prop.1 h2, h3⟩,
      fun ⟨h1, h2, h3⟩ => ⟨h1, List.all_iff_forall_prop.2 h2, h3⟩⟩

/-- What stands between two names: a comma and a space, with the marks of bold text around them
where each name is in bold by itself. -/
def IsSeparator (sep : Text) : Prop := sep = [',', ' '] ∨ sep = bold ++ [',', ' '] ++ bold

def listed (mark : Char) (sep : Text) (names : List Text) (d : Text) : Text :=
  mark :: ' ' :: bold ++ (List.intercalate sep names ++ (middle ++ d))

/-- A description has a mark of bold text that a colon and more text follow, as if names ended
there. -/
def EndsLater (d : Text) : Prop :=
  ∃ u blanks v, (∀ c ∈ blanks, Text.isBlank c = true) ∧ v ≠ [] ∧
    d = u ++ (bold ++ blanks ++ ':' :: v)

/-! ## Where the names end -/

section
variable {d : Text}

/-- A later end of the names is the end of all names before it, too. -/
theorem split?_append_of_some {s t u : Text} (hs : '\n' ∉ s) (h : split? t = some (u, d)) :
    split? (s ++ t) = some (s ++ u, d) := by
  induction s with
  | nil => exact h
  | cons c s ih =>
    rw [List.mem_cons, not_or] at hs
    rw [List.cons_append, split?, if_neg (Ne.symm hs.1), ih hs.2]
    rfl

theorem endsLater_iff (hd : '\n' ∉ d) :
    EndsLater d ↔ (split? d).isSome = true ∨ (tail? d).isSome = true := by
  have hsome : ∀ {v : Text}, v ≠ [] → '\n' ∉ v → (descriptionOf? v).isSome = true := by
    intro v hne hv
    obtain ⟨c, t, rfl⟩ := List.exists_cons_of_ne_nil hne
    refine descriptionOf?_isSome_iff.2 ⟨c, List.mem_cons_self .., fun e => hv ?_⟩
    rw [e]
    exact List.mem_cons_self ..
  constructor
  · rintro ⟨u, blanks, v, hblanks, hv, rfl⟩
    have hline : '\n' ∉ u ∧ '\n' ∉ v := by simp at hd; tauto
    have htail : (tail? (bold ++ blanks ++ ':' :: v)).isSome = true :=
      tail?_isSome_iff.2 ⟨blanks, v, hblanks, rfl, hsome hv hline.2⟩
    by_cases hu : u = []
    · subst hu
      exact Or.inr htail
    · exact Or.inl (split?_isSome_iff.2 ⟨u, _, hu, hline.1, rfl, htail⟩)
  · have hends : ∀ {u t : Text}, d = u ++ t → (tail? t).isSome = true → EndsLater d := by
      intro u t hut ht
      obtain ⟨blanks, v, hblanks, rfl, hv⟩ := tail?_isSome_iff.1 ht
      obtain ⟨c, hc, -⟩ := descriptionOf?_isSome_iff.1 hv
      exact ⟨u, blanks, v, hblanks, List.ne_nil_of_mem hc, hut⟩
    rintro (h | h)
    · obtain ⟨u, t, -, -, hut, ht⟩ := split?_isSome_iff.1 h
      exact hends hut ht
    · exact hends (List.nil_append d).symm h

/-- No mark in the description, so none before it that could end the names. -/
theorem split?_middle_of_not_endsLater (hd : '\n' ∉ d) (h : ¬ EndsLater d) :
    split? (middle ++ d) = none := by
  rw [endsLater_iff hd, not_or, Option.not_isSome_iff_eq_none, Option.not_isSome_iff_eq_none] at h
  have hspace := split?_cons_eq_none ' ' h.1 h.2
  have hcolon := split?_cons_eq_none ':' hspace (tail?_of_no_mark (by simp [bold]))
  have hblank := split?_cons_eq_none ' ' hcolon (tail?_of_no_mark (by simp [bold]))
  have hstar := split?_cons_eq_none '*' hblank (tail?_of_no_mark (by simp [bold]))
  exact split?_cons_eq_none '*' hstar (tail?_of_no_mark (by simp [bold]))

/-- The names take in the mark that was to end them, and what follows it. -/
theorem split?_middle_of_endsLater (hd : '\n' ∉ d) (h : EndsLater d) :
    ∃ u rest, split? (middle ++ d) = some (middle ++ u, rest) := by
  have hmiddle : '\n' ∉ middle := by decide
  cases hsplit : split? d with
  | some p => exact ⟨p.1, p.2, split?_append_of_some hmiddle hsplit⟩
  | none =>
    rw [endsLater_iff hd, hsplit] at h
    obtain ⟨rest, hrest⟩ := Option.isSome_iff_exists.1 (h.resolve_left (by simp))
    have hread := split?_append (by decide) hmiddle hsplit hrest
    exact ⟨[], rest, by rw [List.append_nil]; exact hread⟩

end

/-! ## Names -/

section
variable {a b n : Text}

theorem trim_iff {c : Char} : (c == ' ' || c == '*') = true ↔ c = ' ' ∨ c = '*' := by
  rw [Bool.or_eq_true, beq_iff_eq, beq_iff_eq]

theorem IsBoldName.kept (h : IsBoldName n) : ∀ c ∈ n, (c == ' ' || c == '*') = false := by
  intro c hc
  rw [← Bool.not_eq_true, trim_iff]
  exact not_or.2 ⟨(h.plain c hc).2.2.1, (h.plain c hc).1⟩

theorem IsBoldName.comma_not_mem (h : IsBoldName n) : ',' ∉ n := fun hmem =>
  (h.plain _ hmem).2.1 rfl

theorem IsBoldName.variablesOf (h : IsBoldName n) : Corrections.variablesOf n = [n] := by
  have hkey : n ∉ Corrections.nameSplits.map (·.1) := by
    simpa [Corrections.nameSplits] using h.single
  rw [Corrections.variablesOf, Corrections.splitName?_eq_none hkey, Option.getD_none]

theorem IsBoldName.nameOf_surround (h : IsBoldName n) (ha : ∀ c ∈ a, c = ' ' ∨ c = '*')
    (hb : ∀ c ∈ b, c = ' ' ∨ c = '*') : nameOf (a ++ n ++ b) = n := by
  rw [nameOf, Text.trimBy_surround (fun c hc => trim_iff.2 (ha c hc)) fun c hc =>
    trim_iff.2 (hb c hc), Text.trimBy_of_none h.kept]
  exact (List.map_congr_left fun c hc => if_neg (h.plain c hc).2.2.1).trans (List.map_id _)

theorem namesOf_append_cons {p : Text} (hp : ',' ∉ p) (list : Text) :
    namesOf (p ++ ',' :: list) = Corrections.variablesOf (nameOf p) ++ namesOf list := by
  rw [namesOf, List.splitOn_append_cons_self_of_not_mem hp, List.flatMap_cons, namesOf]

theorem namesOf_of_not_mem {p : Text} (hp : ',' ∉ p) :
    namesOf p = Corrections.variablesOf (nameOf p) := by
  rw [namesOf, List.splitOn_eq_singleton hp, List.flatMap_singleton]

/-- A list is read name by name, with marks and spaces around each. -/
theorem namesOf_intercalate {names : List Text} (hne : names ≠ [])
    (hnames : ∀ n ∈ names, IsBoldName n) (ha : ∀ c ∈ a, c = ' ' ∨ c = '*')
    (hb : ∀ c ∈ b, c = ' ' ∨ c = '*') {before : Text} (hbefore : ∀ c ∈ before, c = ' ' ∨ c = '*') :
    namesOf (before ++ List.intercalate (a ++ ',' :: b) names) = names := by
  have hcomma : ∀ {s : Text}, (∀ c ∈ s, c = ' ' ∨ c = '*') → ',' ∉ s := by
    intro s hs hmem
    rcases hs _ hmem with e | e <;> cases e
  induction names generalizing before with
  | nil => exact absurd rfl hne
  | cons n names ih =>
    have hn := hnames n (List.mem_cons_self ..)
    cases names with
    | nil =>
      have hread := hn.nameOf_surround hbefore (List.forall_mem_nil _)
      rw [List.append_nil] at hread
      rw [List.intercalate_singleton, namesOf_of_not_mem, hread, hn.variablesOf]
      rw [List.mem_append, not_or]
      exact ⟨hcomma hbefore, hn.comma_not_mem⟩
    | cons m names =>
      have hrest := ih (List.cons_ne_nil m names) (fun k hk => hnames k (List.mem_cons_of_mem _ hk))
        hb
      have hpiece : ',' ∉ before ++ n ++ a := by
        rw [List.mem_append, List.mem_append, not_or, not_or]
        exact ⟨⟨hcomma hbefore, hn.comma_not_mem⟩, hcomma ha⟩
      rw [List.intercalate_cons_cons, show before ++ (n ++ (a ++ ',' :: b) ++
        List.intercalate (a ++ ',' :: b) (m :: names)) = (before ++ n ++ a) ++
          ',' :: (b ++ List.intercalate (a ++ ',' :: b) (m :: names)) by simp,
        namesOf_append_cons hpiece, hn.nameOf_surround hbefore ha, hn.variablesOf, hrest]
      rfl

/-- An asterisk that is not at an end of a name stays in it. -/
theorem star_mem_nameOf (hhead : ∀ c ∈ n.head?, (c == ' ' || c == '*') = false)
    (hlast : ∀ c ∈ n.getLast?, (c == ' ' || c == '*') = false) (hstar : '*' ∈ n) (a b : Text) :
    '*' ∈ nameOf (a ++ n ++ b) := by
  rw [nameOf, Text.trimBy_around (List.ne_nil_of_mem hstar) hhead hlast]
  have hmem := List.mem_append_left (Text.trimEndBy (fun c => c == ' ' || c == '*') b)
    (List.mem_append_right (a.dropWhile fun c => c == ' ' || c == '*') hstar)
  exact List.mem_map.2 ⟨'*', hmem, rfl⟩

/-- Where names take in the mark that was to end them, one of them has an asterisk. -/
theorem exists_star_mem (h : IsBoldName n) (before u : Text) :
    ∃ name ∈ namesOf (before ++ n ++ (middle ++ u)), '*' ∈ name := by
  have hcomma : ',' ∉ n ++ ['*', '*', ' ', ':'] := by simpa using h.comma_not_mem
  obtain ⟨a, b, hpiece⟩ := Text.exists_mem_splitOn hcomma before (' ' :: u)
  have hlist : before ++ (n ++ ['*', '*', ' ', ':']) ++ ' ' :: u =
      before ++ n ++ (middle ++ u) := by simp [middle]
  have hstar : '*' ∈ nameOf (a ++ (n ++ ['*', '*', ' ', ':']) ++ b) := by
    refine star_mem_nameOf (fun c hc => ?_) (fun c hc => ?_) (by simp) a b
    · rw [List.head?_append_of_ne_nil _ h.ne_nil] at hc
      exact h.kept c (List.mem_of_mem_head? hc)
    · rw [List.getLast?_append_of_ne_nil _ (List.cons_ne_nil _ _)] at hc
      cases hc
      decide
  rw [hlist] at hpiece
  have hkey : nameOf (a ++ (n ++ ['*', '*', ' ', ':']) ++ b) ∉
      Corrections.nameSplits.map (·.1) := by
    intro hmem
    rw [Corrections.nameSplits, List.map_singleton, List.mem_singleton] at hmem
    rw [hmem] at hstar
    exact absurd hstar (by decide)
  refine ⟨_, List.mem_flatMap.2 ⟨_, hpiece, ?_⟩, hstar⟩
  rw [Corrections.variablesOf, Corrections.splitName?_eq_none hkey, Option.getD_none]
  exact List.mem_singleton_self _

end

/-! ## Bullets -/

section
variable {sep : Text} {names : List Text}

theorem IsSeparator.exists_comma (h : IsSeparator sep) : ∃ a b, sep = a ++ ',' :: b ∧
    (∀ c ∈ a, c = ' ' ∨ c = '*') ∧ ∀ c ∈ b, c = ' ' ∨ c = '*' := by
  rcases h with rfl | rfl
  · exact ⟨[], [' '], rfl, by simp, by simp⟩
  · exact ⟨bold, ' ' :: bold, rfl, by simp [bold], by simp [bold]⟩

theorem lineFeed_not_mem_intercalate (hsep : IsSeparator sep)
    (hnames : ∀ n ∈ names, IsBoldName n) : '\n' ∉ List.intercalate sep names := by
  intro hmem
  rcases Text.mem_intercalate hmem with h | ⟨n, hn, h⟩
  · rcases hsep with rfl | rfl <;> exact absurd h (by decide)
  · exact ((hnames n hn).plain _ h).2.2.2 rfl

/-- A list of names ends with its last name. -/
theorem exists_intercalate_eq (hne : names ≠ []) (sep : Text) :
    ∃ before, ∃ n ∈ names, List.intercalate sep names = before ++ n := by
  induction names with
  | nil => exact absurd rfl hne
  | cons n names ih =>
    cases names with
    | nil => exact ⟨[], n, List.mem_cons_self .., List.intercalate_singleton⟩
    | cons m names =>
      obtain ⟨before, k, hk, hlist⟩ := ih (List.cons_ne_nil m names)
      refine ⟨n ++ sep ++ before, k, List.mem_cons_of_mem _ hk, ?_⟩
      rw [List.intercalate_cons_cons, hlist, List.append_assoc (n ++ sep)]

theorem ofLine_listed {mark : Char} (hmark : mark = '*' ∨ mark = '-') {list rest d : Text}
    (hsplit : split? (List.intercalate sep names ++ (middle ++ d)) = some (list, rest)) :
    ofLine (listed mark sep names d) = .ok ⟨namesOf list, Link.rewrite rest.trimEnd⟩ := by
  apply ofLine_eq_ok
  rw [ofLine?, listed, afterMark?_eq_some.2 ⟨mark, hmark, rfl⟩, Option.bind_some, hsplit,
    Option.map_some]

end

/-- **Bullets that list variables.** A bullet that lists names is always read. It is read as it was
written exactly if its description has no mark of bold text that a colon and more text follow.
Otherwise one of the names that are read has an asterisk, as no name of the list has. -/
theorem listed_read_iff {mark : Char} (hmark : mark = '*' ∨ mark = '-') {sep : Text}
    (hsep : IsSeparator sep) {names : List Text} (hne : names ≠ [])
    (hnames : ∀ n ∈ names, IsBoldName n) {d : Text} (hd : IsOneLine d) :
    ∃ b, ofLine (listed mark sep names d) = .ok b ∧
      (b = ⟨names, Link.rewrite d⟩ ↔ ¬ EndsLater d) ∧
      (EndsLater d → ∃ name ∈ b.names, '*' ∈ name) := by
  have hline := lineFeed_not_mem_intercalate hsep hnames
  obtain ⟨before, n, hn, hlast⟩ := exists_intercalate_eq hne sep
  by_cases h : EndsLater d
  · obtain ⟨u, rest, hlater⟩ := split?_middle_of_endsLater hd.oneLine h
    have hread := ofLine_listed hmark (split?_append_of_some hline hlater)
    obtain ⟨name, hname, hstar⟩ := exists_star_mem (hnames n hn) before u
    rw [← hlast] at hname
    refine ⟨_, hread, ⟨fun heq => ?_, fun hends => absurd h hends⟩, fun _ => ⟨name, hname, hstar⟩⟩
    -- No name of the list has an asterisk.
    have hlist := congrArg Bullet.names heq
    simp only at hlist
    rw [hlist] at hname
    exact absurd rfl ((hnames name hname).plain _ hstar).1
  · have hlist : List.intercalate sep names ≠ [] := by
      rw [hlast]
      exact List.append_ne_nil_of_right_ne_nil _ (hnames n hn).ne_nil
    have hsplit := split?_append hlist hline (split?_middle_of_not_endsLater hd.oneLine h)
      (tail?_middle_append hd)
    obtain ⟨a, b, hcomma, ha, hb⟩ := hsep.exists_comma
    have hread : namesOf (List.intercalate sep names) = names := by
      rw [hcomma]
      exact namesOf_intercalate hne hnames ha hb (List.forall_mem_nil _)
    refine ⟨_, ofLine_listed hmark hsplit, ⟨fun _ => h, fun _ => ?_⟩, fun hends => absurd hends h⟩
    rw [hread, Text.trimEnd, (Text.of_trimBy_eq hd.trimmed).2]

/-- A bullet for one name is read as a bullet for a longer one, as its description has bold text
with a colon behind it. -/
theorem listed_misread : IsSeparator [',', ' '] ∧ (∀ n ∈ [("a" : Text)], IsBoldName n) ∧
    IsOneLine "see **b** : c" ∧
    listed '*' [',', ' '] ["a"] "see **b** : c" = "* **a** : see **b** : c" ∧
    ofLine (listed '*' [',', ' '] ["a"] "see **b** : c") = .ok ⟨["a**_:_see_**b"], "c"⟩ ∧
    ofLine (listed '*' [',', ' '] ["a"] "see **b** : c") ≠
      .ok ⟨["a"], Link.rewrite "see **b** : c"⟩ := by
  exact ⟨Or.inl rfl, by decide, by decide, by decide, by decide +kernel, by decide +kernel⟩

theorem listed_read_with_bold_text :
    ∃ b, ofLine "- **x**, **y** : the **top, left** at [here](page): 1, 2" = .ok b ∧
      b = ⟨["x", "y"], Link.rewrite "the **top, left** at [here](page): 1, 2"⟩ := by
  have hnames : ∀ n ∈ [("x" : Text), "y"], IsBoldName n := by decide
  have hmark : '-' = '*' ∨ '-' = '-' := Or.inr rfl
  have hsep : IsSeparator (bold ++ [',', ' '] ++ bold) := Or.inr rfl
  have hd : IsOneLine "the **top, left** at [here](page): 1, 2" := by decide
  obtain ⟨b, hread, hiff, -⟩ := listed_read_iff hmark hsep (List.cons_ne_nil _ _) hnames hd
  refine ⟨b, hread, hiff.2 ?_⟩
  rw [endsLater_iff (by decide)]
  decide +kernel

end Bullet
end WikiStubs
