import WikiStubs.Descriptions
import WikiStubs.Proofs.Text.Trim
import WikiStubs.Proofs.TextMap

/-!
# What the descriptions of a section are

The lines that must describe variables are told apart by what stands in the section alone: a
subsection Parameters, or the first mark in the body, and a subsection Returns
(`Section.KeepsLines`). There is one list of such lines for each section (`keepsLines_iff`).

The lines are read one after the other (`describeAll_concat`). Reading ends at the first line that
is rejected, with this line as the fault. If no line is rejected, the variables are those that the
lines name, and the last line that names a variable describes it (`LastNamed`).

So a section's descriptions are known from these lines, and nothing else in the section matters
(`Section.descriptions_of_lines`).
-/
namespace WikiStubs

/-! ## The lines -/

theorem isBulletLine_iff {l : Text} :
    isBulletLine l = true ↔ ("* " : Text) <+: l ∨ ("- " : Text) <+: l := by
  rw [isBulletLine, Bool.or_eq_true, Text.startsWith_iff, Text.startsWith_iff]

namespace Section

variable {s : Section} {ls : List Text}

/-- The lines among which those for the parameters are. -/
inductive ParameterLines (s : Section) : List Text → Prop
  /-- A subsection of the name goes first. -/
  | named {p : Section} (hp : s.subsection? "Parameters" = some p) :
      ParameterLines s p.body.lines
  /-- Else what follows the first mark in the body. -/
  | marked {before rest : Text} (hno : s.subsection? "Parameters" = none)
      (hcut : Text.IsFirstCut "**Parameters**" s.body before rest) :
      ParameterLines s rest.trim.lines
  /-- There are no parameters. -/
  | none (hno : s.subsection? "Parameters" = none)
      (hmark : ¬ ("**Parameters**" : Text) <:+: s.body) : ParameterLines s []

/-- The lines among which those for the return values are. -/
inductive ReturnLines (s : Section) : List Text → Prop
  | named {r : Section} (hr : s.subsection? "Returns" = some r) : ReturnLines s r.body.lines
  | none (hno : s.subsection? "Returns" = none) : ReturnLines s []

/-- The lines that must describe variables are those that start with a mark of a list. -/
inductive KeepsLines (s : Section) : List Text → Prop
  | intro {ps rs : List Text} (parameters : s.ParameterLines ps) (returns : s.ReturnLines rs) :
      KeepsLines s ((ps ++ rs).filter fun l => ("* " : Text) <+: l ∨ ("- " : Text) <+: l)

theorem parameterLines_iff : s.ParameterLines ls ↔ ls = s.parameterLines := by
  unfold parameterLines
  constructor
  · rintro (hp | ⟨hno, hcut⟩ | ⟨hno, hmark⟩)
    · simp only [hp]
    · have hfound : Text.splitAtFirst? parametersMark s.body = some _ :=
        Text.splitAtFirst?_eq_some_iff.2 hcut
      rw [hno, hfound]
    · have hfound : Text.splitAtFirst? parametersMark s.body = none :=
        Text.splitAtFirst?_eq_none_iff.2 hmark
      rw [hno, hfound]
  · rintro rfl
    split
    · next hp => exact .named hp
    · next hno =>
      split
      · next hcut => exact .marked hno (Text.splitAtFirst?_eq_some_iff.1 hcut)
      · next hcut => exact .none hno (Text.splitAtFirst?_eq_none_iff.1 hcut)

theorem returnLines_iff : s.ReturnLines ls ↔ ls = s.returnLines := by
  unfold returnLines
  constructor
  · rintro (hr | hno)
    · simp only [hr]
    · simp only [hno]
  · rintro rfl
    split
    · next hr => exact .named hr
    · next hno => exact .none hno

/-- Each section has one list of lines that must describe variables. -/
theorem keepsLines_iff : s.KeepsLines ls ↔ ls = s.bullets := by
  have hkept : (fun l => decide (("* " : Text) <+: l ∨ ("- " : Text) <+: l)) = isBulletLine := by
    funext l
    rw [Bool.eq_iff_iff, decide_eq_true_iff, isBulletLine_iff]
  rw [bullets, ← hkept]
  constructor
  · rintro ⟨hps, hrs⟩
    rw [parameterLines_iff.1 hps, returnLines_iff.1 hrs]
  · rintro rfl
    exact ⟨parameterLines_iff.2 rfl, returnLines_iff.2 rfl⟩

end Section

/-! ## One line after the other -/

namespace Bullet

/-- What a bullet says of each variable that it names. -/
def entries (b : Bullet) : List (Text × Text) := b.names.map fun n => (n, b.description)

/-- The line is read as a bullet that names the variable and has the description. -/
def Names (line n d : Text) : Prop := ∃ b, ofLine line = .ok b ∧ n ∈ b.names ∧ b.description = d

theorem eq_of_ofLine_eq_error {line : Text} {e : Fault} (h : ofLine line = .error e) :
    e = .malformed .bullet line := by
  unfold ofLine at h
  split at h
  · cases h
  · exact (Except.error.inj h).symm

end Bullet

/-- The descriptions that lines give. -/
def describeAll (ls : List Text) : Except Fault (TextMap Text) := do
  let bullets ← ls.mapM Bullet.ofLine
  return TextMap.ofList (bullets.flatMap Bullet.entries)

/-- The map has what the lines say, and of several lines for one variable what the last says. -/
structure LastNamed (ls : List Text) (m : TextMap Text) : Prop where
  keys : ∀ n, n ∈ m.keys ↔ ∃ line ∈ ls, ∃ d, Bullet.Names line n d
  values : ∀ n d, m.get? n = some d ↔ ∃ before line after, ls = before ++ line :: after ∧
    Bullet.Names line n d ∧ ∀ l ∈ after, ∀ d', ¬ Bullet.Names l n d'

section
variable {ls : List Text} {line : Text} {m : TextMap Text}

theorem Section.descriptions_eq (s : Section) : s.descriptions = describeAll s.bullets := rfl

/-- One more line is read when all lines before it are. -/
theorem describeAll_concat (ls : List Text) (line : Text) : describeAll (ls ++ [line]) =
    (describeAll ls).bind fun m => (Bullet.ofLine line).map fun b => m.insertAll b.entries := by
  unfold describeAll
  rw [List.mapM_append]
  cases ls.mapM Bullet.ofLine with
  | error e => rfl
  | ok bs =>
    rw [List.mapM_cons, List.mapM_nil]
    cases Bullet.ofLine line with
    | error e => rfl
    | ok b =>
      refine congrArg Except.ok ?_
      rw [List.flatMap_append, List.flatMap_singleton, TextMap.ofList, TextMap.insertAll_append]
      rfl

theorem Bullet.names_iff {b : Bullet} (hb : ofLine line = .ok b) {n d : Text} :
    Names line n d ↔ n ∈ b.names ∧ b.description = d := by
  constructor
  · rintro ⟨b', hb', hn, hd⟩
    obtain rfl := Except.ok.inj (hb.symm.trans hb')
    exact ⟨hn, hd⟩
  · rintro ⟨hn, hd⟩
    exact ⟨b, hb, hn, hd⟩

/-- A place in a longer list is the last or a place in the list before. -/
theorem eq_or_exists_of_concat_eq {before after : List Text} {l : Text}
    (h : ls ++ [line] = before ++ l :: after) :
    (after = [] ∧ l = line) ∨ ∃ after', after = after' ++ [line] ∧ ls = before ++ l :: after' := by
  rcases List.eq_nil_or_concat after with rfl | ⟨after', last, rfl⟩
  · have hlast := (List.append_inj' h rfl).2
    exact Or.inl ⟨rfl, (List.cons.inj hlast).1.symm⟩
  · rw [List.concat_eq_append, ← List.cons_append, ← List.append_assoc] at h
    obtain ⟨hls, hlast⟩ := List.append_inj' h rfl
    rw [(List.cons.inj hlast).1]
    exact Or.inr ⟨after', List.concat_eq_append, hls⟩

theorem lastNamed_nil : LastNamed [] TextMap.empty where
  keys n := by simp [TextMap.keys, TextMap.empty]
  values n d := by simp [TextMap.get?, TextMap.empty, TextMap.lookup]

/-- The next line describes what it names, and leaves the other variables as they are. -/
theorem LastNamed.concat (h : LastNamed ls m) {b : Bullet} (hb : Bullet.ofLine line = .ok b) :
    LastNamed (ls ++ [line]) (m.insertAll b.entries) where
  keys n := by
    have hkeys : b.entries.map (·.1) = b.names := List.map_map.trans (List.map_id _)
    rw [TextMap.mem_keys_iff, TextMap.contains_insertAll, ← TextMap.mem_keys_iff, h.keys, hkeys]
    constructor
    · rintro (hn | ⟨l, hl, hnames⟩)
      · exact ⟨line, List.mem_append_right _ (List.mem_singleton_self _), _,
          (Bullet.names_iff hb).2 ⟨hn, rfl⟩⟩
      · exact ⟨l, List.mem_append_left _ hl, hnames⟩
    · rintro ⟨l, hl, d, hnames⟩
      rcases List.mem_append.1 hl with hl | hl
      · exact Or.inr ⟨l, hl, d, hnames⟩
      · rw [List.mem_singleton.1 hl, Bullet.names_iff hb] at hnames
        exact Or.inl hnames.1
  values n d := by
    rw [Bullet.entries, TextMap.get?_insertAll_map]
    -- the line names the variable, or it leaves the last line that did where it is
    split
    · next hn =>
      have hline : ∀ {after' : List Text}, ¬ ∀ l ∈ after' ++ [line], ∀ d', ¬ Bullet.Names l n d' :=
        fun hafter => hafter line (List.mem_append_right _ (List.mem_singleton_self _)) _
          ((Bullet.names_iff hb).2 ⟨hn, rfl⟩)
      constructor
      · intro hd
        exact ⟨ls, line, [], rfl, (Bullet.names_iff hb).2 ⟨hn, Option.some.inj hd⟩,
          List.forall_mem_nil _⟩
      · rintro ⟨before, l, after, hcut, hnames, hafter⟩
        rcases eq_or_exists_of_concat_eq hcut with ⟨rfl, rfl⟩ | ⟨after', rfl, -⟩
        · exact congrArg some ((Bullet.names_iff hb).1 hnames).2
        · exact absurd hafter hline
    · next hn =>
      have hline : ∀ d', ¬ Bullet.Names line n d' := fun d' hnames =>
        hn ((Bullet.names_iff hb).1 hnames).1
      rw [h.values]
      constructor
      · rintro ⟨before, l, after, rfl, hnames, hafter⟩
        refine ⟨before, l, after ++ [line], by simp, hnames, fun l' hl' => ?_⟩
        rcases List.mem_append.1 hl' with hl' | hl'
        · exact hafter l' hl'
        · rw [List.mem_singleton.1 hl']
          exact hline
      · rintro ⟨before, l, after, hcut, hnames, hafter⟩
        rcases eq_or_exists_of_concat_eq hcut with ⟨-, rfl⟩ | ⟨after', rfl, hls⟩
        · exact absurd hnames (hline d)
        · exact ⟨before, l, after', hls, hnames, fun l' hl' =>
            hafter l' (List.mem_append_left _ hl')⟩

end

/-! ## All lines -/

/-- The line is read as a bullet. -/
def Accepted (line : Text) : Prop := ∃ b, Bullet.ofLine line = .ok b

theorem accepted_iff {line : Text} : Accepted line ↔ (Bullet.ofLine? line).isSome = true := by
  unfold Accepted Bullet.ofLine
  cases Bullet.ofLine? line with
  | none => simp
  | some b => simp

instance (line : Text) : Decidable (Accepted line) := decidable_of_iff' _ accepted_iff

/-- The line is the first of the lines that is not read. -/
def FirstRejected (ls : List Text) (line : Text) : Prop :=
  ∃ before after, ls = before ++ line :: after ∧ (∀ l ∈ before, Accepted l) ∧ ¬ Accepted line

/-- All lines are read, or reading ends at the first that is rejected. -/
theorem describeAll_outcome (ls : List Text) :
    (∃ m, describeAll ls = .ok m ∧ (∀ l ∈ ls, Accepted l) ∧ LastNamed ls m) ∨
      ∃ line, describeAll ls = .error (.malformed .bullet line) ∧ FirstRejected ls line := by
  induction ls using List.reverseRecOn with
  | nil => exact Or.inl ⟨TextMap.empty, rfl, List.forall_mem_nil _, lastNamed_nil⟩
  | append_singleton ls line ih =>
    rw [describeAll_concat]
    rcases ih with ⟨m, hread, hall, hlast⟩ | ⟨first, hread, before, after, rfl, hbefore, hfirst⟩
    · rw [hread]
      cases hb : Bullet.ofLine line with
      | error e =>
        obtain rfl := Bullet.eq_of_ofLine_eq_error hb
        refine Or.inr ⟨line, rfl, ls, [], rfl, hall, ?_⟩
        rintro ⟨b, hok⟩
        rw [hb] at hok
        cases hok
      | ok b =>
        refine Or.inl ⟨_, rfl, fun l hl => ?_, hlast.concat hb⟩
        rcases List.mem_append.1 hl with hl | hl
        · exact hall l hl
        · rw [List.mem_singleton.1 hl]
          exact ⟨b, hb⟩
    · rw [hread]
      exact Or.inr ⟨first, rfl, before, after ++ [line], List.append_assoc .., hbefore, hfirst⟩

theorem FirstRejected.unique {ls : List Text} {line line' : Text} (h : FirstRejected ls line)
    (h' : FirstRejected ls line') : line = line' := by
  have hfind : ∀ {k}, FirstRejected ls k → ls.find? (fun l => decide (¬ Accepted l)) = some k := by
    rintro k ⟨before, after, hcut, hbefore, hk⟩
    refine List.find?_eq_some_iff_append.2 ⟨decide_eq_true hk, before, after, hcut, fun l hl => ?_⟩
    rw [decide_eq_false (not_not.2 (hbefore l hl))]
    rfl
  exact Option.some.inj ((hfind h).symm.trans (hfind h'))

theorem FirstRejected.exists_mem {ls : List Text} {line : Text} (h : FirstRejected ls line) :
    ∃ l ∈ ls, ¬ Accepted l := by
  obtain ⟨before, after, rfl, -, hline⟩ := h
  exact ⟨line, List.mem_append_right _ (List.mem_cons_self ..), hline⟩

/-- The fault quotes the line. -/
theorem message_malformed_bullet (line : Text) : (Fault.malformed .bullet line).message =
    "parameter description: unexpected structure in '" ++ line ++ "'" := by
  have hlabel : ("parameter description: unexpected structure in '" : Text) =
      Step.bullet.label ++ ": unexpected structure in '" := by decide +kernel
  rw [Fault.message_malformed, hlabel]

/-- **Descriptions.** A section has one list of lines that must describe variables. Its
descriptions fail exactly if one of these lines is rejected, and the fault quotes the first such
line. Otherwise they are what the lines say, where of several lines for one variable the last
counts. Sections with the same list have the same descriptions. -/
theorem Section.descriptions_of_lines (s : Section) : ∃ ls, (∀ ls', s.KeepsLines ls' ↔ ls' = ls) ∧
    ((∃ e, s.descriptions = .error e) ↔ ∃ line ∈ ls, ¬ Accepted line) ∧
    (∀ e, s.descriptions = .error e ↔ ∃ line, FirstRejected ls line ∧ e = .malformed .bullet line ∧
      e.message = "parameter description: unexpected structure in '" ++ line ++ "'") ∧
    ((∀ line ∈ ls, Accepted line) → ∃ m, s.descriptions = .ok m ∧ LastNamed ls m) ∧
    ∀ s' : Section, s'.KeepsLines ls → s'.descriptions = s.descriptions := by
  refine ⟨s.bullets, fun _ => keepsLines_iff, ?_⟩
  have hsame : ∀ s' : Section, s'.KeepsLines s.bullets → s'.descriptions = s.descriptions := by
    intro s' hs'
    rw [descriptions_eq, descriptions_eq, keepsLines_iff.1 hs']
  rcases describeAll_outcome s.bullets with ⟨m, hread, hall, hlast⟩ | ⟨line, hread, hfirst⟩
  · rw [← descriptions_eq] at hread
    have hno : ∀ e, s.descriptions ≠ .error e := by
      intro e he
      rw [hread] at he
      cases he
    refine ⟨⟨fun ⟨e, he⟩ => absurd he (hno e), fun ⟨l, hl, hline⟩ => absurd (hall l hl) hline⟩,
      fun e => ⟨fun he => absurd he (hno e), fun ⟨l, hfirst, _⟩ => ?_⟩,
      fun _ => ⟨m, hread, hlast⟩, hsame⟩
    obtain ⟨l', hl', hline⟩ := hfirst.exists_mem
    exact absurd (hall l' hl') hline
  · rw [← descriptions_eq] at hread
    refine ⟨⟨fun _ => hfirst.exists_mem, fun _ => ⟨_, hread⟩⟩, fun e => ⟨fun he => ?_, ?_⟩,
      fun hall => ?_, hsame⟩
    · obtain rfl := Except.error.inj (hread.symm.trans he)
      exact ⟨line, hfirst, rfl, message_malformed_bullet line⟩
    · rintro ⟨line', hfirst', rfl, -⟩
      rw [hread, hfirst.unique hfirst']
    · obtain ⟨l, hl, hline⟩ := hfirst.exists_mem
      exact absurd (hall l hl) hline

end WikiStubs
