import WikiStubs.Proofs.Record.OneLine
import WikiStubs.Proofs.Text.Lines
import WikiStubs.Render

/-!
# Which lines of a stub are code

A line feed ends a comment and so does a carriage return, so the code of a stub is what is left
when it is cut at both (`cut`) and the blank lines and the comments are taken away (`IsComment`).
Only the last line, the definition, should be left.

`cut_block` cuts a stub into its parts: the description of the function, whose lines are all
comments whatever is in it (`isComment_of_mem_cut_comment`), an annotation for each variable, and
the definition. An annotation is cut further where the text that it quotes from the page is
broken, and what follows the break is taken for code unless it happens to be a comment itself
(`Sealed`). So the definition is the only code of a stub exactly when the stub is sealed
(`isComment_iff_sealed`).

Stubs need not be sealed (`recordWith_leaks`): a call on a page may go over several lines, and
then so may the default of a parameter; and a description may hold carriage returns. These are the
only two ways (`sealed_of_unbroken`), since names have no blanks and a description has no line feed.
-/
namespace WikiStubs.Lua

/-- Whether a character ends a line of code. -/
def isBreak (c : Char) : Bool := c == '\n' || c == '\r'

/-- The text is on one line. -/
def Unbroken (t : Text) : Prop := ∀ c ∈ t, isBreak c = false

instance (t : Text) : Decidable (Unbroken t) :=
  decidable_of_iff (t.all (!isBreak ·) = true) (by simp [Unbroken])

/-- The lines of a text as code. -/
def cut (t : Text) : List Text := t.splitOnP isBreak

/-- A line that is no code. -/
def IsComment (line : Text) : Prop := (∀ c ∈ line, Text.isBlank c = true) ∨ mark <+: line

instance (line : Text) : Decidable (IsComment line) :=
  decidable_of_iff (line.all Text.isBlank = true ∨ mark.isPrefixOf line = true)
    (by simp [IsComment])

/-! ## Cutting -/

section
variable {s t : Text}

theorem unbroken_iff : Unbroken t ↔ '\n' ∉ t ∧ '\r' ∉ t := by
  have hbreak : ∀ c, isBreak c = false ↔ c ≠ '\n' ∧ c ≠ '\r' := fun c => by
    rw [isBreak, Bool.or_eq_false_iff, beq_eq_false_iff_ne, beq_eq_false_iff_ne]
  constructor
  · intro h
    exact ⟨fun hc => ((hbreak _).1 (h _ hc)).1 rfl, fun hc => ((hbreak _).1 (h _ hc)).2 rfl⟩
  · intro h c hc
    exact (hbreak c).2 ⟨fun e => h.1 (e ▸ hc), fun e => h.2 (e ▸ hc)⟩

theorem Unbroken.append (hs : Unbroken s) (ht : Unbroken t) : Unbroken (s ++ t) := by
  intro c hc
  exact (List.mem_append.1 hc).elim (hs c) (ht c)

theorem unbroken_of_not_blank (h : ∀ c ∈ t, Text.isBlank c = false) : Unbroken t :=
  unbroken_iff.2 ⟨fun hc => absurd (h _ hc) (by decide), fun hc => absurd (h _ hc) (by decide)⟩

theorem cut_lineFeed (s t : Text) : cut (s ++ '\n' :: t) = cut s ++ cut t :=
  List.splitOnP_append_cons s t rfl

theorem cut_unbroken (h : Unbroken t) : cut t = [t] := List.splitOnP_eq_singleton h

/-- Without a break before it, the first line of a text gets longer and no other line changes. -/
theorem cut_append (h : Unbroken s) (t : Text) :
    cut (s ++ t) = (s ++ (cut t).headD []) :: (cut t).tail := by
  unfold cut
  induction s with
  | nil =>
    obtain ⟨u, us, hcut⟩ := List.exists_cons_of_ne_nil (List.splitOnP_ne_nil isBreak t)
    rw [List.nil_append, hcut]
    rfl
  | cons c s ih =>
    have hc : isBreak c = false := h c (List.mem_cons_self ..)
    rw [List.cons_append, List.splitOnP_cons_eq_if_modifyHead, hc, if_neg Bool.false_ne_true,
      ih fun d hd => h d (List.mem_cons_of_mem _ hd)]
    rfl

/-- A comment that quotes a text is code only where the text is broken. -/
theorem isComment_cut_append_iff (h : Unbroken s) (hmark : mark <+: s) :
    (∀ l ∈ cut (s ++ t), IsComment l) ↔ ∀ l ∈ (cut t).tail, IsComment l := by
  rw [cut_append h, List.forall_mem_cons]
  exact and_iff_right (Or.inr (hmark.trans (List.prefix_append s _)))

theorem cut_intercalate {ls : List Text} (hne : ls ≠ []) (h : ∀ l ∈ ls, Unbroken l) :
    cut (List.intercalate ['\n'] ls) = ls := by
  induction ls with
  | nil => exact absurd rfl hne
  | cons l ls ih =>
    have hl := h l (List.mem_cons_self ..)
    cases ls with
    | nil => rw [List.intercalate_singleton, cut_unbroken hl]
    | cons k ks =>
      rw [List.intercalate_cons_cons, List.append_assoc, List.singleton_append, cut_lineFeed,
        cut_unbroken hl, ih (List.cons_ne_nil k ks) fun m hm => h m (List.mem_cons_of_mem _ hm)]
      rfl

end

/-! ## The description of the function -/

theorem unbroken_of_mem_lines {t line : Text}
    (h : line ∈ Text.lines (t.filter fun c => c = '\n' || Text.isPrintable c)) : Unbroken line := by
  obtain ⟨hfeed, hsub⟩ := Text.mem_of_mem_lines h
  refine unbroken_iff.2 ⟨hfeed, fun hreturn => ?_⟩
  -- a carriage return does not print, so it has been left out
  have hprints := (List.mem_filter.1 (hsub _ hreturn)).2
  exact absurd hprints (by decide +kernel)

/-- Whatever the description of a function says, it stays in the doc comment. -/
theorem isComment_of_mem_cut_comment {t l : Text} (h : l ∈ cut (comment t)) : IsComment l := by
  unfold comment at h
  by_cases hnone : Text.lines (t.filter fun c => c = '\n' || Text.isPrintable c) = []
  · rw [hnone, List.map_nil, List.intercalate_nil, cut, List.splitOnP_nil,
      List.mem_singleton] at h
    subst h
    exact Or.inl fun c hc => by cases hc
  · rw [cut_intercalate (by simpa using hnone)] at h
    · obtain ⟨line, -, rfl⟩ := List.mem_map.1 h
      exact Or.inr (List.prefix_append ..)
    · intro m hm
      obtain ⟨line, hline, rfl⟩ := List.mem_map.1 hm
      exact Unbroken.append (by decide) (unbroken_of_mem_lines hline)

/-! ## Annotations -/

/-- What a stub says of one variable: what it writes itself, and what it quotes from the page. -/
structure Tag where
  head : Text
  quoted : Text

def Tag.text (a : Tag) : Text := a.head ++ a.quoted

def paramTag (r : Record) (p : Parameter) : Tag where
  head := "---@param " ++ p.name ++ (if p.isOptional then ['?'] else []) ++ " " ++
    (typeOf r p.name).label ++ " # "
  quoted := descriptionOf r p.name ++ defaultNote (descriptionOf r p.name) p.default

def returnTag (r : Record) (v : Text) : Tag where
  head := "---@return " ++ (typeOf r v).label ++ " " ++ v ++ " # "
  quoted := descriptionOf r v

/-- The annotations of a stub in order. -/
def tags (r : Record) : List Tag :=
  r.signature.params.map (paramTag r) ++ r.signature.returns.map (returnTag r)

def definition (r : Record) : Text :=
  "function " ++ r.name ++ "(" ++ List.intercalate ", " (r.signature.params.map (·.name)) ++
    ") end"

/-- What annotations quote goes on over a line only with comments. -/
def Sealed (r : Record) : Prop :=
  ∀ a ∈ tags r, ∀ l ∈ (cut a.quoted).tail, IsComment l

instance (r : Record) : Decidable (Sealed r) :=
  inferInstanceAs (Decidable (∀ a ∈ tags r, ∀ l ∈ (cut a.quoted).tail, _))

section
variable (r : Record)

theorem paramLine_eq (p : Parameter) : paramLine r p =
    '\n' :: (paramTag r p).text :=
  List.append_assoc ('\n' :: (paramTag r p).head) _ _

theorem returnLine_eq (v : Text) : returnLine r v = '\n' :: (returnTag r v).text := rfl

theorem stub_eq : stub r = '\n' :: definition r := rfl

theorem block_eq : block r = mark ++ '\n' :: (comment r.description ++ '\n' ::
    (mark ++ ((tags r).flatMap (fun a => '\n' :: a.text) ++ '\n' :: definition r))) := by
  have hblock : block r = mark ++ ['\n'] ++ comment r.description ++ '\n' :: mark ++
    r.signature.params.flatMap (paramLine r) ++ r.signature.returns.flatMap (returnLine r) ++
      stub r := rfl
  rw [hblock, tags, List.flatMap_append, List.flatMap_map, List.flatMap_map, stub_eq,
    funext (paramLine_eq r), funext (returnLine_eq r)]
  simp only [List.append_assoc, List.cons_append, List.nil_append]

/-- The annotations and the definition each stand on a line of their own. -/
theorem block_eq_lines : block r = (mark ++ '\n' :: comment r.description) ++ '\n' ::
    (mark ++ ((tags r).map Tag.text ++ [definition r]).flatMap ('\n' :: ·)) := by
  rw [block_eq, List.flatMap_append, List.flatMap_map, List.flatMap_singleton, List.append_assoc,
    List.cons_append]

/-- Text, annotations and a last line are cut where they were put together. -/
theorem cut_tags {last : Text} (h : Unbroken last) (s : Text) (as : List Tag) :
    cut (s ++ (as.flatMap (fun a => '\n' :: a.text) ++ '\n' :: last)) =
      cut s ++ as.flatMap (fun a => cut a.text) ++ [last] := by
  induction as generalizing s with
  | nil => simp only [List.flatMap_nil, List.nil_append, List.append_nil, cut_lineFeed,
      cut_unbroken h]
  | cons a as ih =>
    rw [List.flatMap_cons, List.flatMap_cons, List.append_assoc, List.cons_append, cut_lineFeed,
      ih, List.append_assoc, List.append_assoc, List.append_assoc]

/-- The lines of a stub: the description, the annotations, and the definition. -/
theorem cut_block (h : Unbroken (definition r)) : cut (block r) =
    ([mark] ++ cut (comment r.description) ++ [mark] ++ (tags r).flatMap (fun a => cut a.text)) ++
      [definition r] := by
  have hmark : Unbroken mark := by decide
  rw [block_eq, cut_lineFeed, cut_lineFeed, cut_tags h, cut_unbroken hmark]
  simp only [List.append_assoc]

end

/-! ## Characters of a stub -/

section
variable {r : Record}

/-- A definition is made of what it writes itself and of names. -/
theorem not_mem_definition {c : Char} (hown : c ∉ ("function (, ) end" : Text))
    (hname : c ∉ r.name) (hnames : ∀ v ∈ r.signature.names, c ∉ v) : c ∉ definition r := by
  intro h
  unfold definition at h
  simp only [List.mem_append] at h
  rcases h with (((h | h) | h) | h) | h
  · exact hown (List.mem_append_left "(, ) end".toList h)
  · exact hname h
  · exact hown (List.mem_append_right "function ".toList (List.mem_append_left ", ) end".toList h))
  · rcases Text.mem_intercalate h with h | ⟨v, hv, h⟩
    · exact hown (List.mem_append_right "function (".toList (List.mem_append_left ") end".toList h))
    · exact hnames v (List.mem_append_left _ hv) h
  · exact hown (List.mem_append_right "function (, ".toList h)

theorem unbroken_label (t : VarType) : Unbroken t.label := by
  cases t <;> decide

/-- An annotation begins with the mark of a comment, and what the stub writes itself is unbroken. -/
theorem head_of_unbroken_names (hnames : ∀ v ∈ r.signature.names, Unbroken v) {a : Tag}
    (ha : a ∈ tags r) : Unbroken a.head ∧ mark <+: a.head := by
  rcases List.mem_append.1 ha with ha | ha
  · obtain ⟨p, hp, rfl⟩ := List.mem_map.1 ha
    have hname := hnames _ (Signature.mem_names_of_mem_params hp)
    have hoptional : Unbroken (if p.isOptional then ['?'] else []) := by
      cases p.isOptional <;> decide
    exact ⟨(((((by decide : Unbroken "---@param ").append hname).append hoptional).append
      (by decide)).append (unbroken_label _)).append (by decide), ⟨_, rfl⟩⟩
  · obtain ⟨v, hv, rfl⟩ := List.mem_map.1 ha
    have hname := hnames _ (Signature.mem_names_of_mem_returns hv)
    exact ⟨((((by decide : Unbroken "---@return ").append (unbroken_label _)).append
      (by decide)).append hname).append (by decide), ⟨_, rfl⟩⟩

/-- What the note on a default is made of. -/
theorem mem_defaultNote {description : Text} {default : Option Text} {c : Char}
    (h : c ∈ defaultNote description default) :
    c ∈ (" (default: )" : Text) ∨ ∃ value ∈ default, c ∈ value := by
  unfold defaultNote at h
  split at h
  · cases h
  · next value =>
    split at h
    · cases h
    · simp only [List.mem_append] at h
      rcases h with (h | h) | h
      · exact Or.inl (List.mem_append_left [')'] h)
      · exact Or.inr ⟨value, rfl, h⟩
      · exact Or.inl (List.mem_append_right " (default: ".toList h)

/-- Annotations quote descriptions and defaults. -/
theorem not_mem_quoted {c : Char} (hnote : c ∉ (" (default: )" : Text))
    (hdescriptions : ∀ v ∈ r.signature.names, c ∉ descriptionOf r v)
    (hdefaults : ∀ p ∈ r.signature.params, ∀ value ∈ p.default, c ∉ value) {a : Tag}
    (ha : a ∈ tags r) : c ∉ a.quoted := by
  rcases List.mem_append.1 ha with ha | ha
  · obtain ⟨p, hp, rfl⟩ := List.mem_map.1 ha
    have hname := Signature.mem_names_of_mem_params hp
    refine List.not_mem_append (hdescriptions _ hname) fun hc => ?_
    rcases mem_defaultNote hc with hc | ⟨value, hvalue, hc⟩
    · exact hnote hc
    · exact hdefaults p hp value hvalue hc
  · obtain ⟨v, hv, rfl⟩ := List.mem_map.1 ha
    exact hdescriptions v (Signature.mem_names_of_mem_returns hv)

/-- An annotation is on one line if what it quotes is. -/
theorem lineFeed_not_mem_text (hnames : ∀ v ∈ r.signature.names, Unbroken v)
    (hdescriptions : ∀ v ∈ r.signature.names, '\n' ∉ descriptionOf r v)
    (hdefaults : ∀ p ∈ r.signature.params, ∀ value ∈ p.default, '\n' ∉ value) {a : Tag}
    (ha : a ∈ tags r) : '\n' ∉ a.text :=
  List.not_mem_append (unbroken_iff.1 (head_of_unbroken_names hnames ha).1).1
    (not_mem_quoted (by decide) hdescriptions hdefaults ha)

end

/-! ## Records of sections -/

section
variable [PatternCompiler] {function : Text} {s : Section} {r : Record}

theorem unbroken_of_mem_names (h : Record.ofSection function s = .ok r) {v : Text}
    (hv : v ∈ r.signature.names) : Unbroken v :=
  unbroken_of_not_blank fun _ hc => Record.isBlank_of_mem_names h hv hc

theorem unbroken_definition (hname : Unbroken function) (h : Record.ofSection function s = .ok r) :
    Unbroken (definition r) := by
  rw [← Record.name_of_ofSection h] at hname
  have hnames := fun v hv => unbroken_iff.1 (unbroken_of_mem_names h (v := v) hv)
  exact unbroken_iff.2
    ⟨not_mem_definition (by decide) (unbroken_iff.1 hname).1 fun v hv => (hnames v hv).1,
    not_mem_definition (by decide) (unbroken_iff.1 hname).2 fun v hv => (hnames v hv).2⟩

theorem head_of_mem_tags (h : Record.ofSection function s = .ok r) {a : Tag}
    (ha : a ∈ tags r) : Unbroken a.head ∧ mark <+: a.head :=
  head_of_unbroken_names (fun _ => unbroken_of_mem_names h) ha

/-- **The code of a stub.** For a function whose name is on one line, the stub ends with the
definition, and everything before it is comment exactly if the stub is sealed. -/
theorem isComment_iff_sealed (hname : Unbroken function) (h : Record.ofSection function s = .ok r) :
    ∃ lines, cut (block r) = lines ++ [definition r] ∧
      ((∀ l ∈ lines, IsComment l) ↔ Sealed r) := by
  refine ⟨_, cut_block r (unbroken_definition hname h), ?_⟩
  have hmark : IsComment mark := Or.inr List.prefix_rfl
  constructor
  · intro hall a ha
    obtain ⟨hhead, hprefix⟩ := head_of_mem_tags h ha
    refine (isComment_cut_append_iff hhead hprefix).1 fun l hl => hall l ?_
    exact List.mem_append_right _ (List.mem_flatMap.2 ⟨a, ha, hl⟩)
  · intro hsealed l hl
    simp only [List.mem_append, List.mem_singleton, List.mem_flatMap] at hl
    rcases hl with ((rfl | hl) | rfl) | ⟨a, ha, hl⟩
    · exact hmark
    · exact isComment_of_mem_cut_comment hl
    · exact hmark
    · obtain ⟨hhead, hprefix⟩ := head_of_mem_tags h ha
      exact (isComment_cut_append_iff hhead hprefix).2 (hsealed a ha) l hl

theorem lineFeed_not_mem_descriptionOf (h : Record.ofSection function s = .ok r) (v : Text) :
    '\n' ∉ descriptionOf r v := by
  unfold descriptionOf
  cases hd : r.descriptions.get? v with
  | none => exact List.not_mem_nil
  | some d => exact Record.lineFeed_not_mem_description h hd

/-- A stub is sealed unless a default goes over several lines or a description has a carriage
return. -/
theorem sealed_of_unbroken (h : Record.ofSection function s = .ok r)
    (hdefaults : ∀ p ∈ r.signature.params, ∀ value ∈ p.default, Unbroken value)
    (hreturns : ∀ v ∈ r.signature.names, '\r' ∉ descriptionOf r v) : Sealed r := by
  have hquoted : ∀ a ∈ tags r, Unbroken a.quoted := fun a ha => unbroken_iff.2
    ⟨not_mem_quoted (by decide) (fun v _ => lineFeed_not_mem_descriptionOf h v)
      (fun p hp value hvalue => (unbroken_iff.1 (hdefaults p hp value hvalue)).1) ha,
    not_mem_quoted (by decide) hreturns
      (fun p hp value hvalue => (unbroken_iff.1 (hdefaults p hp value hvalue)).2) ha⟩
  intro a ha l hl
  rw [cut_unbroken (hquoted a ha)] at hl
  cases hl

end

/-! ## A default that leaks -/

/-- A section that shows a call with the given default. -/
def sectionWith (default : Text) : Section where
  name := "f"
  body := "\x60f(a=" ++ default ++ ")\x60\n"
  subsections :=
    [⟨"Parameters", "* **a** : an index\n", [], ⟨0, 0⟩⟩, ⟨"Description", "Does it.\n", [], ⟨0, 0⟩⟩]
  span := ⟨0, 0⟩

def recordWith (default : Text) : Record where
  name := "f"
  signature := ⟨[⟨"a", some default⟩], []⟩
  descriptions := TextMap.ofList [("a", "an index"), ("bool", "a boolean")]
  types := TextMap.ofList [("a", .number), ("bool", .boolean)]
  description := "Does it."

/-- A default on one line stays in the doc comment. -/
theorem isComment_recordWith : Record.ofSection "f" (sectionWith "1") = .ok (recordWith "1") ∧
    ∃ lines, cut (block (recordWith "1")) = lines ++ [definition (recordWith "1")] ∧
      ∀ l ∈ lines, IsComment l := by
  have hok : Record.ofSection "f" (sectionWith "1") = .ok (recordWith "1") := by decide +kernel
  obtain ⟨lines, hcut, hiff⟩ := isComment_iff_sealed (by decide) hok
  exact ⟨hok, lines, hcut, hiff.2 (by decide +kernel)⟩

/-- A default that goes over two lines becomes code. -/
theorem recordWith_leaks :
    Record.ofSection "f" (sectionWith "1\nos.exit()--") = .ok (recordWith "1\nos.exit()--") ∧
      ¬ ∃ lines, cut (block (recordWith "1\nos.exit()--")) =
          lines ++ [definition (recordWith "1\nos.exit()--")] ∧ ∀ l ∈ lines, IsComment l := by
  refine ⟨by decide +kernel, ?_⟩
  rintro ⟨lines, hcut, hall⟩
  have hmem : ("os.exit()--)" : Text) ∈ cut (block (recordWith "1\nos.exit()--")) := by
    decide +kernel
  rw [hcut, List.mem_append, List.mem_singleton] at hmem
  rcases hmem with hmem | hmem
  · exact absurd (hall _ hmem) (by decide +kernel)
  · exact absurd hmem (by decide +kernel)

end WikiStubs.Lua
