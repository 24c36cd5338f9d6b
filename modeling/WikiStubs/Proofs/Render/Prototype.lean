import WikiStubs.Proofs.Argument
import WikiStubs.Proofs.Render.CommentLines
import WikiStubs.Proofs.VarType

/-!
# What a stub declares

A stub declares a function: its name, its parameters and which of them may be left out, its return
values, and a type for each variable (`Prototype`). All of it can be read off the stub, so equal
stubs declare the same (`prototype_eq_of_block_eq`), even when the descriptions of the functions
hold lines that look like annotations or definitions of their own.

The description is no obstacle because the stub is read from its end. The last line is the
definition, and the lines before it are annotations up to a line that is nothing but the mark of a
comment. No annotation is such a line, so whatever the description holds lies before it
(`ending_block`).

The names must be words and what the annotations quote must be on one line (`Legible`). A carriage
return does no harm here.
-/
namespace WikiStubs.Lua

/-! ## What is declared -/

/-- The name of a function, its parameters with whether they may be left out and their types, and
its return values with their types. -/
structure Prototype where
  name : Text
  params : List (Text × Bool × VarType)
  returns : List (Text × VarType)
  deriving DecidableEq

/-- What the stub of a record declares. -/
def prototype (r : Record) : Prototype where
  name := r.name
  params := r.signature.params.map fun p => (p.name, p.isOptional, typeOf r p.name)
  returns := r.signature.returns.map fun v => (v, typeOf r v)

/-- A nonempty name of word characters. -/
def IsWord (t : Text) : Prop := t ≠ [] ∧ ∀ c ∈ t, Text.isWordChar c = true

instance (t : Text) : Decidable (IsWord t) :=
  decidable_of_iff (t ≠ [] ∧ t.all Text.isWordChar = true) (by rw [List.all_eq_true, IsWord])

theorem IsWord.not_mem {t : Text} (h : IsWord t) {c : Char} (hc : Text.isWordChar c = false) :
    c ∉ t := by
  intro hmem
  rw [h.2 c hmem] at hc
  cases hc

/-- All names are words, and no description of a variable and no default has a line feed. -/
structure Legible (r : Record) : Prop where
  name : IsWord r.name
  names : ∀ v ∈ r.signature.names, IsWord v
  descriptions : ∀ v ∈ r.signature.names, '\n' ∉ descriptionOf r v
  defaults : ∀ p ∈ r.signature.params, ∀ value ∈ p.default, '\n' ∉ value

/-! ## Definitions -/

section
variable {r r' : Record}

theorem definition_eq (r : Record) : definition r = "function " ++ (r.name ++
    '(' :: (List.intercalate [',', ' '] (r.signature.params.map (·.name)) ++ ") end")) := by
  have hparts : definition r = "function " ++ r.name ++ ['('] ++
      List.intercalate [',', ' '] (r.signature.params.map (·.name)) ++ ") end" := rfl
  rw [hparts]
  simp only [List.append_assoc, List.cons_append, List.nil_append]

/-- The names of the parameters are read back from their list. -/
theorem returnsOf_params (h : Legible r) :
    Signature.returnsOf (List.intercalate [',', ' '] (r.signature.params.map (·.name))) =
      r.signature.params.map (·.name) := by
  refine Signature.returnsOf_intercalate fun v hv => ?_
  have hword := h.names v (List.mem_append_left _ hv)
  exact ⟨hword.1, hword.not_mem (by decide +kernel),
    fun c hc => isBlank_of_isWordChar (hword.2 c hc)⟩

/-- Equal definitions define functions of one name with parameters of the same names. -/
theorem names_eq_of_definition_eq (h : Legible r) (h' : Legible r')
    (heq : definition r = definition r') : r.name = r'.name ∧
      r.signature.params.map (·.name) = r'.signature.params.map (·.name) := by
  rw [definition_eq, definition_eq] at heq
  obtain ⟨hname, hrest⟩ := Text.append_cons_inj (h.name.not_mem (by decide +kernel))
    (h'.name.not_mem (by decide +kernel)) (List.append_cancel_left heq)
  refine ⟨hname, ?_⟩
  rw [← returnsOf_params h, ← returnsOf_params h', List.append_cancel_right hrest]

/-! ## Annotations -/

theorem space_not_mem_label (t : VarType) : ' ' ∉ t.label := by
  cases t <;> decide

/-- The name of a parameter, with the mark of one that may be left out. -/
def spelled (p : Parameter) : Text := p.name ++ if p.isOptional then ['?'] else []

theorem paramTag_text (r : Record) (p : Parameter) : (paramTag r p).text =
    "---@param " ++ (spelled p ++ ' ' :: ((typeOf r p.name).label ++
      ' ' :: ("# " ++ (paramTag r p).quoted))) := by
  have hparts : (paramTag r p).text = "---@param " ++ p.name ++
      (if p.isOptional then ['?'] else []) ++ [' '] ++ (typeOf r p.name).label ++
        (' ' :: "# ") ++ (paramTag r p).quoted := rfl
  rw [hparts, spelled]
  simp only [List.append_assoc, List.cons_append, List.nil_append]

theorem returnTag_text (r : Record) (v : Text) : (returnTag r v).text =
    "---@return " ++ ((typeOf r v).label ++ ' ' :: (v ++
      ' ' :: ("# " ++ (returnTag r v).quoted))) := by
  have hparts : (returnTag r v).text = "---@return " ++ (typeOf r v).label ++ [' '] ++ v ++
      (' ' :: "# ") ++ (returnTag r v).quoted := rfl
  rw [hparts]
  simp only [List.append_assoc, List.cons_append, List.nil_append]

theorem space_not_mem_spelled {p : Parameter} (h : IsWord p.name) : ' ' ∉ spelled p := by
  refine List.not_mem_append (h.not_mem (by decide +kernel)) ?_
  cases p.isOptional <;> decide

/-- The name is what is spelled without the mark. -/
theorem filter_spelled {p : Parameter} (h : IsWord p.name) :
    (spelled p).filter (· ≠ '?') = p.name := by
  have hname : p.name.filter (· ≠ '?') = p.name := by
    rw [List.filter_eq_self]
    exact fun c hc => decide_eq_true fun e => h.not_mem (by decide +kernel) (e ▸ hc)
  unfold spelled
  rw [List.filter_append, hname]
  cases p.isOptional <;> simp

theorem spelled_inj {p q : Parameter} (hp : IsWord p.name) (hq : IsWord q.name)
    (h : spelled p = spelled q) : p.name = q.name ∧ p.isOptional = q.isOptional := by
  have hname : p.name = q.name := by rw [← filter_spelled hp, ← filter_spelled hq, h]
  refine ⟨hname, ?_⟩
  unfold spelled at h
  rw [hname] at h
  have hmark := List.append_cancel_left h
  revert hmark
  cases p.isOptional <;> cases q.isOptional <;> simp

/-- Equal annotations are of parameters that are declared alike. -/
theorem eq_of_paramTag_eq {p q : Parameter} (hp : IsWord p.name) (hq : IsWord q.name)
    (h : (paramTag r p).text = (paramTag r' q).text) :
    (p.name, p.isOptional, typeOf r p.name) = (q.name, q.isOptional, typeOf r' q.name) := by
  rw [paramTag_text, paramTag_text] at h
  obtain ⟨hspelled, hrest⟩ := Text.append_cons_inj (space_not_mem_spelled hp)
    (space_not_mem_spelled hq) (List.append_cancel_left h)
  obtain ⟨hlabel, -⟩ :=
    Text.append_cons_inj (space_not_mem_label _) (space_not_mem_label _) hrest
  obtain ⟨hname, hoptional⟩ := spelled_inj hp hq hspelled
  rw [hname] at hlabel ⊢
  rw [hoptional, VarType.label_injective hlabel]

/-- Equal annotations are of return values that are declared alike. -/
theorem eq_of_returnTag_eq {v w : Text} (hv : IsWord v) (hw : IsWord w)
    (h : (returnTag r v).text = (returnTag r' w).text) :
    (v, typeOf r v) = (w, typeOf r' w) := by
  rw [returnTag_text, returnTag_text] at h
  obtain ⟨hlabel, hrest⟩ := Text.append_cons_inj (space_not_mem_label _) (space_not_mem_label _)
    (List.append_cancel_left h)
  obtain ⟨hname, -⟩ := Text.append_cons_inj (hv.not_mem (by decide +kernel))
    (hw.not_mem (by decide +kernel)) hrest
  subst hname
  rw [VarType.label_injective hlabel]

/-! ## From the end of a stub -/

/-- The last lines of a text: what follows its last line that is nothing but a mark. -/
def ending (t : Text) : List Text :=
  ((t.splitOn '\n').reverse.takeWhile (· ≠ mark)).reverse

theorem ending_append {lines : List Text} (hfeed : ∀ l ∈ lines, '\n' ∉ l)
    (hmark : ∀ l ∈ lines, l ≠ mark) (t : Text) :
    ending (t ++ '\n' :: (mark ++ lines.flatMap ('\n' :: ·))) = lines := by
  have hcut : (mark ++ lines.flatMap ('\n' :: ·)).splitOn '\n' = mark :: lines :=
    Text.splitOn_flatMap (List.forall_mem_cons.2 ⟨by decide, hfeed⟩)
  have hlines : ∀ l ∈ lines.reverse, decide (l ≠ mark) = true := fun l hl =>
    decide_eq_true (hmark l (List.mem_reverse.1 hl))
  rw [ending, List.splitOn_append_cons_self, hcut, List.reverse_append, List.reverse_cons,
    List.append_assoc, List.takeWhile_append_of_pos hlines]
  simp

theorem IsWord.lineFeed_not_mem {t : Text} (h : IsWord t) : '\n' ∉ t :=
  h.not_mem (by decide +kernel)

theorem Legible.unbroken (h : Legible r) {v : Text} (hv : v ∈ r.signature.names) : Unbroken v :=
  unbroken_of_not_blank fun _ hc => isBlank_of_isWordChar ((h.names v hv).2 _ hc)

theorem lineFeed_not_mem_definition (h : Legible r) : '\n' ∉ definition r :=
  not_mem_definition (by decide) h.name.lineFeed_not_mem fun v hv => (h.names v hv).lineFeed_not_mem

/-- An annotation is a line of its own, and not the mark of a comment alone. -/
theorem line_of_mem_tags (h : Legible r) {a : Tag} (ha : a ∈ tags r) :
    '\n' ∉ a.text ∧ a.text ≠ mark := by
  have hlong : ∀ s t : Text, mark.length < s.length → s ++ t ≠ mark := by
    intro s t hs he
    have hlength := congrArg List.length he
    rw [List.length_append] at hlength
    omega
  refine ⟨lineFeed_not_mem_text (fun _ => h.unbroken) h.descriptions h.defaults ha, ?_⟩
  rcases List.mem_append.1 ha with ha | ha
  · obtain ⟨p, hp, rfl⟩ := List.mem_map.1 ha
    rw [paramTag_text]
    exact hlong _ _ (by decide)
  · obtain ⟨v, hv, rfl⟩ := List.mem_map.1 ha
    rw [returnTag_text]
    exact hlong _ _ (by decide)

/-- A stub ends with its annotations and its definition. -/
theorem ending_block (h : Legible r) :
    ending (block r) = (tags r).map Tag.text ++ [definition r] := by
  have hlines : ∀ l ∈ (tags r).map Tag.text ++ [definition r], '\n' ∉ l ∧ l ≠ mark := by
    intro l hl
    rcases List.mem_append.1 hl with hl | hl
    · obtain ⟨a, ha, rfl⟩ := List.mem_map.1 hl
      exact line_of_mem_tags h ha
    · obtain rfl := List.mem_singleton.1 hl
      refine ⟨lineFeed_not_mem_definition h, fun he => ?_⟩
      -- a definition does not start with a hyphen
      rw [definition_eq] at he
      have hhead : some 'f' = some '-' := congrArg List.head? he
      exact absurd hhead (by decide)
  rw [block_eq_lines, ending_append (fun l hl => (hlines l hl).1) fun l hl => (hlines l hl).2]

/-- What is equal of two lists of texts that are written the same way. -/
theorem map_eq_of_map_eq {α β : Type} {f f' : α → Text} {g g' : α → β} {l l' : List α}
    (h : ∀ x ∈ l, ∀ y ∈ l', f x = f' y → g x = g' y) (heq : l.map f = l'.map f') :
    l.map g = l'.map g' := by
  induction l generalizing l' with
  | nil =>
    obtain rfl : l' = [] := by simpa using heq.symm
    rfl
  | cons x l ih =>
    obtain ⟨y, l', rfl, hy, hl⟩ := List.map_eq_cons_iff.1 heq.symm
    rw [List.map_cons, List.map_cons, h x List.mem_cons_self y List.mem_cons_self hy.symm,
      ih (fun x hx y hy => h x (List.mem_cons_of_mem _ hx) y (List.mem_cons_of_mem _ hy)) hl.symm]

/-- **A stub determines what it declares.** Whatever is said about the functions, records with
equal stubs have the same name, the same parameters in the same order with the same of them
optional, the same return values in the same order, and the same types. -/
theorem prototype_eq_of_block_eq (h : Legible r) (h' : Legible r') (heq : block r = block r') :
    prototype r = prototype r' := by
  have hending := congrArg ending heq
  rw [ending_block h, ending_block h'] at hending
  obtain ⟨htags, hdefinition⟩ := List.append_inj' hending rfl
  obtain ⟨hname, hparams⟩ := names_eq_of_definition_eq h h' (List.singleton_inj.1 hdefinition)
  -- the definition tells how many of the annotations are of parameters
  have hlength : r.signature.params.length = r'.signature.params.length := by
    simpa using congrArg List.length hparams
  rw [tags, tags, List.map_append, List.map_append, List.map_map, List.map_map, List.map_map,
    List.map_map] at htags
  obtain ⟨hparamTags, hreturnTags⟩ := List.append_inj htags (by simpa using hlength)
  have hps := map_eq_of_map_eq (fun p hp q hq he => eq_of_paramTag_eq
    (h.names _ (Signature.mem_names_of_mem_params hp))
    (h'.names _ (Signature.mem_names_of_mem_params hq)) he) hparamTags
  have hrs := map_eq_of_map_eq (fun v hv w hw he => eq_of_returnTag_eq
    (h.names _ (Signature.mem_names_of_mem_returns hv))
    (h'.names _ (Signature.mem_names_of_mem_returns hw)) he) hreturnTags
  rw [prototype, hname, hps, hrs, prototype]

/-- Two records that differ in a default and two descriptions and have one stub. The description
of the function holds lines like those of a stub. -/
theorem prototype_eq_of_rival_records :
    let rival (default note description : Text) : Record :=
      { name := "sfx"
        signature := ⟨[⟨"id", some default⟩], ["channel"]⟩
        descriptions := .ofList [("channel", "the `index` of the channel"), ("id", note)]
        types := .ofList [("id", .number)]
        description := description ++ "\n@param key string # a key\n\nfunction btn(key) end" }
    let r := rival "0" "the `index`" "Plays.\n"
    let r' := rival "nil" "the `index` (default: 0)" "\x00Plays.\r\n"
    r ≠ r' ∧ Legible r ∧ Legible r' ∧ block r = block r' ∧ prototype r = prototype r' := by
  intro rival r r'
  have hlegible : Legible r :=
    ⟨by decide +kernel, by decide +kernel, by decide +kernel, by decide +kernel⟩
  have hlegible' : Legible r' :=
    ⟨by decide +kernel, by decide +kernel, by decide +kernel, by decide +kernel⟩
  have hblock : block r = block r' := by decide +kernel
  exact ⟨by decide +kernel, hlegible, hlegible', hblock,
    prototype_eq_of_block_eq hlegible hlegible' hblock⟩

end
end WikiStubs.Lua
