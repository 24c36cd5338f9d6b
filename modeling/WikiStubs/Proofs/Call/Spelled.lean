import Mathlib.Data.Bool.AllAny
import WikiStubs.Proofs.Call.Walk

/-!
# Every spelling of a call

A parameter can be written in a call in many ways (`Shown`): with any blanks between the words of
its name and around it, with brackets where it may be left out, and with brackets and blanks on
either side of the equals sign before its default. Return values are written with spaces and commas
(`ReturnShown`), after an arrow with any blanks around it.

All spellings are read as the same signature (`Signature.extract_spells`): the parameters and return
values in order, with the words of each name joined by underscores.

* `Spaced.words_append`: words are found again, whatever blanks stand between and behind them.
* `WordedArgument.ShownAs.ofToken?_eq`: one parameter.
* `CommaList.filterMap_splitOn`: a list of parts, from what is known of one part.
-/
namespace WikiStubs

/-! ## Names -/

/-- A name of one or more words, which have only certain characters. -/
structure Worded (isChar : Char → Bool) where
  words : List Text
  ne_nil : words ≠ []
  word : ∀ w ∈ words, w ≠ [] ∧ ∀ c ∈ w, isChar c = true

namespace Worded

variable {isChar : Char → Bool}

def ofWords (words : List Text) (hne : words ≠ [])
    (hall : words.all (fun w => decide (w ≠ []) && w.all isChar) = true) : Worded isChar where
  words := words
  ne_nil := hne
  word := by simpa using hall

def name (n : Worded isChar) : Text := List.intercalate ['_'] n.words

end Worded

/-- Words with some space between any two. -/
inductive Spaced (isSpace : Char → Bool) : List Text → Text → Prop
  | last (w : Text) : Spaced isSpace [w] w
  | cons (w : Text) {c : Char} {space t : Text} {ws : List Text}
      (hspace : ∀ d ∈ c :: space, isSpace d = true) (h : Spaced isSpace ws t) :
      Spaced isSpace (w :: ws) (w ++ c :: (space ++ t))

namespace Spaced

variable {isSpace : Char → Bool} {ws : List Text} {t : Text}

theorem mem {c : Char} (h : Spaced isSpace ws t) (hc : c ∈ t) :
    isSpace c = true ∨ ∃ w ∈ ws, c ∈ w := by
  induction h with
  | last w => exact Or.inr ⟨w, List.mem_singleton_self _, hc⟩
  | cons w hspace _ ih =>
    rw [List.mem_append, ← List.cons_append, List.mem_append] at hc
    rcases hc with hc | hc | hc
    · exact Or.inr ⟨w, List.mem_cons_self .., hc⟩
    · exact Or.inl (hspace c hc)
    · exact (ih hc).imp id fun ⟨v, hv, hcv⟩ => ⟨v, List.mem_cons_of_mem _ hv, hcv⟩

theorem ne_nil (h : Spaced isSpace ws t) (hws : ∀ w ∈ ws, w ≠ []) : t ≠ [] := by
  cases h with
  | last w => exact hws _ (List.mem_cons_self ..)
  | cons w => exact List.append_ne_nil_of_right_ne_nil _ (List.cons_ne_nil _ _)

/-- A text of words starts with a character of a word and ends with one. -/
theorem ends {c : Char} (h : Spaced isSpace ws t) (hws : ∀ w ∈ ws, w ≠ [])
    (hc : c ∈ t.head? ∨ c ∈ t.getLast?) : ∃ w ∈ ws, c ∈ w := by
  induction h with
  | last w =>
    exact ⟨w, List.mem_singleton_self _, hc.elim List.mem_of_mem_head? List.mem_of_getLast?⟩
  | @cons w d space t ws hspace h ih =>
    rw [List.forall_mem_cons] at hws
    rcases hc with hc | hc
    · rw [List.head?_append_of_ne_nil _ hws.1] at hc
      exact ⟨w, List.mem_cons_self .., List.mem_of_mem_head? hc⟩
    · rw [← List.cons_append, ← List.append_assoc,
        List.getLast?_append_of_ne_nil _ (h.ne_nil hws.2)] at hc
      obtain ⟨v, hv, hcv⟩ := ih hws.2 (Or.inr hc)
      exact ⟨v, List.mem_cons_of_mem _ hv, hcv⟩

/-- Words are found again. -/
theorem words_append (h : Spaced isSpace ws t)
    (hblank : ∀ c, isSpace c = true → Text.isBlank c = true)
    (hws : ∀ w ∈ ws, w ≠ [] ∧ ∀ c ∈ w, Text.isBlank c = false) {blanks : Text}
    (hblanks : ∀ c ∈ blanks, Text.isBlank c = true) : Text.words (t ++ blanks) = ws := by
  induction h with
  | last w =>
    obtain ⟨hne, hw⟩ := hws w (List.mem_singleton_self _)
    exact Text.words_append_blank hne hw hblanks
  | @cons w c space t ws hspace _ ih =>
    rw [List.forall_mem_cons] at hws hspace
    rw [List.append_assoc, List.cons_append, List.append_assoc,
      Text.words_append_cons hws.1.1 hws.1.2 (hblank c hspace.1),
      Text.words_append_of_blank fun d hd => hblank d (hspace.2 d hd), ih hws.2]

end Spaced

namespace Worded

variable {isChar isSpace : Char → Bool} (n : Worded isChar) {t : Text}

theorem name_ne_nil : n.name ≠ [] :=
  Text.intercalate_ne_nil n.ne_nil (fun w hw => (n.word w hw).1) ['_']

theorem ends (h : Spaced isSpace n.words t) {c : Char} (hc : c ∈ t.head? ∨ c ∈ t.getLast?) :
    isChar c = true := by
  obtain ⟨w, hw, hcw⟩ := h.ends (fun w hw => (n.word w hw).1) hc
  exact (n.word w hw).2 c hcw

/-- The words are joined again, with blanks anywhere but within them. -/
theorem joinWords_around (hchar : ∀ c, isChar c = true → Text.isBlank c = false)
    (hblank : ∀ c, isSpace c = true → Text.isBlank c = true) (h : Spaced isSpace n.words t)
    {a b : Text} (ha : ∀ c ∈ a, Text.isBlank c = true) (hb : ∀ c ∈ b, Text.isBlank c = true) :
    Text.joinWords (a ++ t ++ b) = n.name := by
  have hws : ∀ w ∈ n.words, w ≠ [] ∧ ∀ c ∈ w, Text.isBlank c = false := fun w hw =>
    ⟨(n.word w hw).1, fun c hc => hchar c ((n.word w hw).2 c hc)⟩
  rw [Text.joinWords, List.append_assoc, Text.words_append_of_blank ha,
    h.words_append hblank hws hb, name]

end Worded

/-! ## Parameters -/

/-- A character of a word of a parameter's name. -/
def isNameChar (c : Char) : Bool :=
  !(Parameter.isBracketing c || c == ',' || c == '=' || c == Call.tick)

theorem isNameChar_iff {c : Char} : isNameChar c = true ↔
    Parameter.isBracketing c = false ∧ c ≠ ',' ∧ c ≠ '=' ∧ c ≠ Call.tick := by
  simp [isNameChar, and_assoc]

/-- A default that can be told from the brackets and blanks around it. -/
def IsDefault (value : Text) : Prop :=
  (∀ c ∈ value, c ≠ ',' ∧ c ≠ Call.tick) ∧ (∀ c ∈ value.head?, Parameter.isBracketing c = false) ∧
    ∀ c ∈ value.getLast?, Parameter.isBracketing c = false

instance (value : Text) : Decidable (IsDefault value) :=
  decidable_of_iff (value.all (fun c => c != ',' && c != Call.tick) = true ∧
      value.head?.all (!Parameter.isBracketing ·) = true ∧
      value.getLast?.all (!Parameter.isBracketing ·) = true)
    (by simp [IsDefault, Option.all_eq_true])

/-- A parameter whose name has one or more words. -/
structure WordedArgument where
  name : Worded isNameChar
  presence : Presence
  isDefault : ∀ value, presence = .defaulted value → IsDefault value

/-- The parameter that is meant, whatever its spelling. -/
def WordedArgument.parameter (p : WordedArgument) : Parameter :=
  Argument.parameter ⟨p.name.name, p.presence⟩

/-- How a call can show a parameter whose name has the words. -/
inductive Shown (words : List Text) : Presence → Text → Prop
  /-- The words with blanks around them. -/
  | required {a t b : Text} (h : Spaced Text.isBlank words t)
      (ha : ∀ c ∈ a, Text.isBlank c = true) (hb : ∀ c ∈ b, Text.isBlank c = true) :
      Shown words .required (a ++ t ++ b)
  /-- Any number of opening brackets before the words and of closing ones after them. -/
  | optional {a t b : Text} (h : Spaced Text.isBlank words t)
      (ha : ∀ c ∈ a, c = '[' ∨ Text.isBlank c = true)
      (hb : ∀ c ∈ b, c = ']' ∨ Text.isBlank c = true) (hbracket : '[' ∈ a ∨ ']' ∈ b) :
      Shown words .optional (a ++ t ++ b)
  /-- Any brackets and blanks around the words and around the default. -/
  | defaulted {a t b a' value b' : Text} (h : Spaced Text.isBlank words t)
      (ha : ∀ c ∈ a, Parameter.isBracketing c = true)
      (hb : ∀ c ∈ b, Parameter.isBracketing c = true)
      (ha' : ∀ c ∈ a', Parameter.isBracketing c = true)
      (hb' : ∀ c ∈ b', Parameter.isBracketing c = true) :
      Shown words (.defaulted value) (a ++ t ++ b ++ '=' :: (a' ++ value ++ b'))

/-- How a call can show a parameter. -/
def WordedArgument.ShownAs (p : WordedArgument) (t : Text) : Prop :=
  Shown p.name.words p.presence t

section
variable {a b t : Text}

theorem isBracketing_iff {c : Char} :
    Parameter.isBracketing c = true ↔ c = '[' ∨ c = ']' ∨ Text.isBlank c = true := by
  simp only [Parameter.isBracketing, Bool.or_eq_true, beq_iff_eq, or_assoc]

theorem isBracketing_eq_false_iff {c : Char} :
    Parameter.isBracketing c = false ↔ c ≠ '[' ∧ c ≠ ']' ∧ Text.isBlank c = false := by
  rw [← Bool.not_eq_true, isBracketing_iff, not_or, not_or, Bool.not_eq_true]

theorem isBlank_of_isNameChar {c : Char} (h : isNameChar c = true) : Text.isBlank c = false :=
  (isBracketing_eq_false_iff.1 (isNameChar_iff.1 h).1).2.2

/-- The words of a name are what is read between brackets and blanks. -/
theorem ofSpelling?_around (n : Worded isNameChar) (h : Spaced Text.isBlank n.words t)
    (ha : ∀ c ∈ a, Parameter.isBracketing c = true) (hb : ∀ c ∈ b, Parameter.isBracketing c = true)
    (default : Option Text) :
    Parameter.ofSpelling? (a ++ t ++ b) default = some ⟨n.name, default⟩ := by
  have hends : ∀ {c}, c ∈ t.head? ∨ c ∈ t.getLast? → Parameter.isBracketing c = false :=
    fun hc => (isNameChar_iff.1 (n.ends h hc)).1
  have hname : Parameter.unbracket (a ++ t ++ b) = t := by
    rw [Parameter.unbracket, Text.trimBy_surround ha hb]
    exact Text.trimBy_of_ends (fun c hc => hends (Or.inl hc)) fun c hc => hends (Or.inr hc)
  have hjoin := n.joinWords_around (fun _ => isBlank_of_isNameChar) (fun _ => id) h
    (List.forall_mem_nil _) (List.forall_mem_nil _)
  rw [List.nil_append, List.append_nil] at hjoin
  obtain ⟨c, u, hcons⟩ := List.exists_cons_of_ne_nil n.name_ne_nil
  rw [Parameter.ofSpelling?, hname, hjoin, hcons]

/-- A default is what is read between brackets and blanks. -/
theorem IsDefault.unbracket_around {value : Text} (h : IsDefault value)
    (ha : ∀ c ∈ a, Parameter.isBracketing c = true)
    (hb : ∀ c ∈ b, Parameter.isBracketing c = true) :
    Parameter.unbracket (a ++ value ++ b) = value := by
  rw [Parameter.unbracket, Text.trimBy_surround ha hb, Text.trimBy_of_ends h.2.1 h.2.2]

/-- A word has none of the characters that mark a default, and is no blank. -/
theorem not_mem_around (n : Worded isNameChar) (h : Spaced Text.isBlank n.words t)
    (ha : ∀ c ∈ a, Parameter.isBracketing c = true) (hb : ∀ c ∈ b, Parameter.isBracketing c = true)
    {c : Char} (hchar : isNameChar c = false) (hbracketing : Parameter.isBracketing c = false) :
    c ∉ a ++ t ++ b := by
  have hno : Parameter.isBracketing c ≠ true := Bool.eq_false_iff.1 hbracketing
  rw [List.mem_append, List.mem_append]
  rintro ((hc | hc) | hc)
  · exact hno (ha c hc)
  · rcases h.mem hc with hblank | ⟨w, hw, hcw⟩
    · exact hno (Parameter.isBracketing_of_isBlank hblank)
    · rw [(n.word w hw).2 c hcw] at hchar
      cases hchar
  · exact hno (hb c hc)

/-- The only brackets before a word are opening ones, so the first that is left is one. -/
theorem head?_dropWhile_of_mem {bracket : Char} {s : Text} (hbracket : Text.isBlank bracket = false)
    (hs : ∀ c ∈ s, c = bracket ∨ Text.isBlank c = true) (hmem : bracket ∈ s) :
    (s.dropWhile Text.isBlank).head? = some bracket := by
  cases hdrop : s.dropWhile Text.isBlank with
  | nil =>
    have hblank := List.dropWhile_eq_nil_iff.1 hdrop bracket hmem
    rw [hbracket] at hblank
    cases hblank
  | cons c u =>
    have hc := List.head?_dropWhile_not Text.isBlank s
    rw [hdrop, List.head?_cons] at hc
    have hmem : c ∈ s := (List.dropWhile_sublist _).subset (hdrop ▸ List.mem_cons_self ..)
    rcases hs c hmem with rfl | hblank
    · rfl
    · simp [hblank] at hc

end

section
variable {t : Text}

theorem trim_around (n : Worded isNameChar) (h : Spaced Text.isBlank n.words t) (a b : Text) :
    (a ++ t ++ b).trim = a.dropWhile Text.isBlank ++ t ++ b.trimEnd :=
  Text.trimBy_around (h.ne_nil fun w hw => (n.word w hw).1)
    (fun _ hc => isBlank_of_isNameChar (n.ends h (Or.inl hc)))
    (fun _ hc => isBlank_of_isNameChar (n.ends h (Or.inr hc))) a b

/-- A name without a default may be left out if there is a bracket at one of its ends. -/
theorem ofToken?_of_name (n : Worded isNameChar) (h : Spaced Text.isBlank n.words t) {a b : Text}
    (ha : ∀ c ∈ a, Parameter.isBracketing c = true)
    (hb : ∀ c ∈ b, Parameter.isBracketing c = true) :
    Parameter.ofToken? (a ++ t ++ b) = some ⟨n.name,
      if (a ++ t ++ b).trim.head? = some '[' ∨ (a ++ t ++ b).trim.getLast? = some ']' then
        some Parameter.nilDefault
      else none⟩ := by
  have hne : (a ++ t ++ b).trim ≠ [] := by
    rw [trim_around n h, List.append_assoc]
    exact List.append_ne_nil_of_right_ne_nil _
      (List.append_ne_nil_of_left_ne_nil (h.ne_nil fun w hw => (n.word w hw).1) _)
  rw [Parameter.ofToken?_of_no_value (not_mem_around n h ha hb (by decide) (by decide)) hne,
    ofSpelling?_around n h ha hb]

/-- A parameter is read as it is meant, however it is shown. -/
theorem WordedArgument.ShownAs.ofToken?_eq {p : WordedArgument} (h : p.ShownAs t) :
    Parameter.ofToken? t = some p.parameter := by
  obtain ⟨n, presence, hdefault⟩ := p
  have hbracketing : ∀ {c d}, c = '[' ∨ c = ']' → d = c ∨ Text.isBlank d = true →
      Parameter.isBracketing d = true := by
    intro c d hc hd
    rcases hd with rfl | hd
    · exact isBracketing_iff.2 (hc.imp id Or.inl)
    · exact Parameter.isBracketing_of_isBlank hd
  cases h with
  | @required a u b h ha hb =>
    have htrim : (a ++ u ++ b).trim = u := by
      rw [Text.trim, Text.trimBy_surround ha hb]
      exact Text.trimBy_of_ends (fun _ hc => isBlank_of_isNameChar (n.ends h (Or.inl hc)))
        fun _ hc => isBlank_of_isNameChar (n.ends h (Or.inr hc))
    have hplain : ¬ (u.head? = some '[' ∨ u.getLast? = some ']') := by
      rintro (hc | hc)
      · exact absurd (n.ends h (Or.inl hc)) (by decide)
      · exact absurd (n.ends h (Or.inr hc)) (by decide)
    rw [ofToken?_of_name n h (fun c hc => Parameter.isBracketing_of_isBlank (ha c hc))
      fun c hc => Parameter.isBracketing_of_isBlank (hb c hc), htrim, if_neg hplain]
    rfl
  | @optional a u b h ha hb hbracket =>
    -- trimming leaves a bracket at one of the ends, wherever blanks stand among the brackets
    have hends : (a ++ u ++ b).trim.head? = some '[' ∨ (a ++ u ++ b).trim.getLast? = some ']' := by
      rw [trim_around n h]
      refine hbracket.imp (fun hmem => ?_) fun hmem => ?_
      · have hhead := head?_dropWhile_of_mem (by decide) ha hmem
        rw [List.append_assoc, List.head?_append, hhead, Option.some_or]
      · have hlast := head?_dropWhile_of_mem (by decide)
          (fun c hc => hb c (List.mem_reverse.1 hc)) (List.mem_reverse.2 hmem)
        rw [List.getLast?_append, Text.trimEnd, Text.trimEndBy, List.getLast?_reverse, hlast,
          Option.some_or]
    rw [ofToken?_of_name n h (fun c hc => hbracketing (Or.inl rfl) (ha c hc))
      fun c hc => hbracketing (Or.inr rfl) (hb c hc), if_pos hends]
    rfl
  | @defaulted a u b a' value b' h ha hb ha' hb' =>
    -- the name has no equals sign, so the first one is that before the default
    have hequals := not_mem_around n h ha hb (c := '=') (by decide) (by decide)
    rw [Parameter.ofToken?_of_value hequals, ofSpelling?_around n h ha hb,
      (hdefault value rfl).unbracket_around ha' hb']
    rfl

end

/-! ## Lists -/

/-- Items with a comma between any two, in a list that may have blank places. -/
inductive CommaList {α : Type} (isSpace : Char → Bool) (item : α → Text → Prop) :
    List α → Text → Prop
  | nil {space : Text} (hspace : ∀ c ∈ space, isSpace c = true) : CommaList isSpace item [] space
  | last {x : α} {t : Text} (h : item x t) : CommaList isSpace item [x] t
  | cons {x : α} {xs : List α} {t u : Text} (h : item x t) (rest : CommaList isSpace item xs u) :
      CommaList isSpace item (x :: xs) (t ++ ',' :: u)
  | blank {xs : List α} {space u : Text} (hspace : ∀ c ∈ space, isSpace c = true)
      (rest : CommaList isSpace item xs u) : CommaList isSpace item xs (space ++ ',' :: u)

namespace CommaList

variable {α β : Type} {isSpace : Char → Bool} {item : α → Text → Prop} {xs : List α} {t : Text}

theorem forall_mem {P : Char → Prop} (h : CommaList isSpace item xs t) (hcomma : P ',')
    (hspace : ∀ c, isSpace c = true → P c) (hitem : ∀ x u, item x u → ∀ c ∈ u, P c) :
    ∀ c ∈ t, P c := by
  induction h with
  | nil hblank => exact fun c hc => hspace c (hblank c hc)
  | last hx => exact hitem _ _ hx
  | cons hx _ ih =>
    intro c hc
    rcases List.mem_append.1 hc with hc | hc
    · exact hitem _ _ hx c hc
    · rcases List.mem_cons.1 hc with rfl | hc
      · exact hcomma
      · exact ih c hc
  | blank hblank _ ih =>
    intro c hc
    rcases List.mem_append.1 hc with hc | hc
    · exact hspace c (hblank c hc)
    · rcases List.mem_cons.1 hc with rfl | hc
      · exact hcomma
      · exact ih c hc

/-- A list is read item by item. -/
theorem filterMap_splitOn {read : Text → Option β} {value : α → β}
    (h : CommaList isSpace item xs t) (hcomma : isSpace ',' = false)
    (hitem : ∀ x u, item x u → ',' ∉ u ∧ read u = some (value x))
    (hblank : ∀ space : Text, (∀ c ∈ space, isSpace c = true) → read space = none) :
    (t.splitOn ',').filterMap read = xs.map value := by
  have hfree : ∀ {space : Text}, (∀ c ∈ space, isSpace c = true) → ',' ∉ space := by
    intro space hspace hmem
    rw [hspace _ hmem] at hcomma
    cases hcomma
  induction h with
  | nil hspace =>
    rw [List.splitOn_eq_singleton (hfree hspace), List.filterMap_cons_none (hblank _ hspace)]
    rfl
  | last hx =>
    obtain ⟨hno, hread⟩ := hitem _ _ hx
    rw [List.splitOn_eq_singleton hno, List.filterMap_cons_some hread]
    rfl
  | cons hx _ ih =>
    obtain ⟨hno, hread⟩ := hitem _ _ hx
    rw [List.splitOn_append_cons_self_of_not_mem hno, List.filterMap_cons_some hread, ih,
      List.map_cons]
  | blank hspace _ ih =>
    rw [List.splitOn_append_cons_self_of_not_mem (hfree hspace),
      List.filterMap_cons_none (hblank _ hspace), ih]

end CommaList

/-! ## Calls -/

/-- How a return value can be written: words with spaces between and around them. -/
inductive ReturnShown (r : Worded Text.isWordChar) : Text → Prop
  | intro {a t b : Text} (h : Spaced (· == ' ') r.words t) (ha : ∀ c ∈ a, (c == ' ') = true)
      (hb : ∀ c ∈ b, (c == ' ') = true) : ReturnShown r (a ++ t ++ b)

/-- The code of a call of `f` with parameters and return values, without its backticks. -/
inductive Spells (f : Text) (ps : List WordedArgument) :
    List (Worded Text.isWordChar) → Text → Prop
  | plain {blanks args : Text} (hblanks : ∀ c ∈ blanks, Text.isBlank c = true)
      (hargs : CommaList Text.isBlank WordedArgument.ShownAs ps args) :
      Spells f ps [] (f ++ blanks ++ '(' :: (args ++ [')']))
  | arrow {rs : List (Worded Text.isWordChar)} {blanks args before after list : Text}
      (hblanks : ∀ c ∈ blanks, Text.isBlank c = true)
      (hargs : CommaList Text.isBlank WordedArgument.ShownAs ps args)
      (hbefore : ∀ c ∈ before, Text.isBlank c = true)
      (hafter : ∀ c ∈ after, Text.isBlank c = true) (hne : list ≠ [])
      (hlist : CommaList (· == ' ') ReturnShown rs list) :
      Spells f ps rs
        (f ++ blanks ++ '(' :: (args ++ ')' :: (before ++ ['-', '>'] ++ after ++ list)))

section
variable {f args list t : Text} {ps : List WordedArgument} {rs : List (Worded Text.isWordChar)}

/-- A parameter has none of the characters that end an argument or the code. -/
theorem WordedArgument.ShownAs.not_mem {p : WordedArgument} (h : p.ShownAs t) {c : Char}
    (hc : c = ',' ∨ c = Call.tick) : c ∉ t := by
  have hchar : isNameChar c = false ∧ Parameter.isBracketing c = false ∧ c ≠ '=' := by
    rcases hc with rfl | rfl <;> decide
  obtain ⟨hname, hbracketing, hequals⟩ := hchar
  obtain ⟨n, presence, hdefault⟩ := p
  cases h with
  | required h ha hb =>
    exact not_mem_around n h (fun d hd => Parameter.isBracketing_of_isBlank (ha d hd))
      (fun d hd => Parameter.isBracketing_of_isBlank (hb d hd)) hname hbracketing
  | optional h ha hb =>
    refine not_mem_around n h (fun d hd => ?_) (fun d hd => ?_) hname hbracketing
    · exact isBracketing_iff.2 ((ha d hd).imp id Or.inr)
    · exact isBracketing_iff.2 (Or.inr (hb d hd))
  | @defaulted a u b a' value b' h ha hb ha' hb' =>
    have hvalue : c ∉ value := by
      intro hmem
      obtain ⟨hcomma, htick⟩ := (hdefault value rfl).1 c hmem
      exact hc.elim hcomma htick
    have hno : Parameter.isBracketing c ≠ true := Bool.eq_false_iff.1 hbracketing
    have hafter : c ∉ a' ++ value ++ b' := by
      rw [List.mem_append, List.mem_append]
      rintro ((hmem | hmem) | hmem)
      · exact hno (ha' c hmem)
      · exact hvalue hmem
      · exact hno (hb' c hmem)
    rw [List.mem_append, List.mem_cons, not_or, not_or]
    exact ⟨not_mem_around n h ha hb hname hbracketing, hequals, hafter⟩

theorem ofArgs_commaList
    (h : CommaList Text.isBlank WordedArgument.ShownAs ps args) :
    Parameter.ofArgs args = ps.map (·.parameter) := by
  refine h.filterMap_splitOn (by decide) (fun p u hu => ⟨hu.not_mem (Or.inl rfl), hu.ofToken?_eq⟩)
    fun space hspace => ?_
  have htrim : space.trim = [] := by
    have hnil := Text.trimBy_surround hspace (List.forall_mem_nil _) []
    rwa [List.append_nil, List.append_nil] at hnil
  rw [Parameter.ofToken?, htrim]

theorem ReturnShown.mem {r : Worded Text.isWordChar} (h : ReturnShown r t) {c : Char}
    (hc : c ∈ t) : Text.isWordChar c = true ∨ c = ' ' := by
  obtain ⟨h, ha, hb⟩ := h
  rw [List.mem_append, List.mem_append] at hc
  rcases hc with (hc | hc) | hc
  · exact Or.inr (beq_iff_eq.1 (ha c hc))
  · rcases h.mem hc with hspace | ⟨w, hw, hcw⟩
    · exact Or.inr (beq_iff_eq.1 hspace)
    · exact Or.inl ((r.word w hw).2 c hcw)
  · exact Or.inr (beq_iff_eq.1 (hb c hc))

theorem isBlank_of_eq_space {c : Char} (h : (c == ' ') = true) : Text.isBlank c = true := by
  rw [beq_iff_eq.1 h]
  decide

theorem ReturnShown.joinWords_eq {r : Worded Text.isWordChar} (h : ReturnShown r t) :
    Text.joinWords t = r.name := by
  obtain ⟨h, ha, hb⟩ := h
  exact r.joinWords_around (fun _ => isBlank_of_isWordChar) (fun _ => isBlank_of_eq_space) h
    (fun c hc => isBlank_of_eq_space (ha c hc)) fun c hc => isBlank_of_eq_space (hb c hc)

theorem returnsOf_commaList (h : CommaList (· == ' ') ReturnShown rs list) :
    Signature.returnsOf list = rs.map (·.name) := by
  have hcomma : ∀ {r : Worded Text.isWordChar} {u : Text}, ReturnShown r u → ',' ∉ u := by
    intro r u hu hmem
    rcases hu.mem hmem with hword | he
    · exact absurd hword (by decide +kernel)
    · exact absurd he (by decide)
  rw [Signature.returnsOf, ← List.filterMap_eq_filter, List.filterMap_map]
  refine h.filterMap_splitOn (by decide) (fun r u hu => ⟨hcomma hu, ?_⟩) fun space hspace => ?_
  · rw [Function.comp_apply, hu.joinWords_eq]
    simpa using r.name_ne_nil
  · have hblank := fun c hc => isBlank_of_eq_space (hspace c hc)
    rw [Function.comp_apply, Text.joinWords_eq_nil_iff.2 hblank]
    rfl

end

namespace Call

variable {f tail : Text} {returns : Option Text}

theorem Declares.not_mem (h : Declares tail returns) {c : Char} (hblank : Text.isBlank c = false)
    (hmark : c ∉ ['-', '>']) (hreturn : isReturnChar c = false) : c ∉ tail := by
  cases h with
  | nothing => exact List.not_mem_nil
  | arrow hblanks hblanks' _ hlist =>
    rw [List.mem_append, List.mem_append, List.mem_append]
    rintro (((hc | hc) | hc) | hc)
    · rw [hblanks c hc] at hblank
      cases hblank
    · exact hmark hc
    · rw [hblanks' c hc] at hblank
      cases hblank
    · rw [isReturnChar_iff.2 (hlist c hc)] at hreturn
      cases hreturn

end Call

section
variable {f code : Text} {ps : List WordedArgument} {rs : List (Worded Text.isWordChar)}

theorem tick_not_mem_args {args : Text}
    (h : CommaList Text.isBlank WordedArgument.ShownAs ps args) :
    Call.tick ∉ args := by
  have hall := h.forall_mem (P := (· ≠ Call.tick)) (by decide)
    (fun c hblank he => absurd (he ▸ hblank) (by decide))
    fun p u hu c hc he => hu.not_mem (Or.inr rfl) (he ▸ hc)
  exact fun hmem => hall _ hmem rfl

/-- The code shows a call with these parameters and return values. The closing parenthesis of the
call is its last one, as there is none in what declares return values. -/
theorem Spells.exists_shows (hf : Call.tick ∉ f) (h : Spells f ps rs code) :
    ∃ args returns, Call.Shows f code args returns ∧ Call.tick ∉ code ∧
      Parameter.ofArgs args = ps.map (·.parameter) ∧
      (returns.map Signature.returnsOf).getD [] = rs.map (·.name) := by
  have hcode : ∀ {blanks args tail : Text} {returns : Option Text},
      (∀ c ∈ blanks, Text.isBlank c = true) → Call.tick ∉ args → Call.Declares tail returns →
        Call.Shows f (f ++ blanks ++ '(' :: (args ++ ')' :: tail)) args returns ∧
          Call.tick ∉ f ++ blanks ++ '(' :: (args ++ ')' :: tail) := by
    intro blanks args tail returns hblanks hargs hdeclares
    have htick := hdeclares.not_mem (c := Call.tick) (by decide) (by decide) (by decide +kernel)
    have hclose := hdeclares.not_mem (c := ')') (by decide) (by decide) (by decide +kernel)
    have hblank : Call.tick ∉ blanks := fun hmem => absurd (hblanks _ hmem) (by decide)
    refine ⟨⟨blanks, tail, hblanks, hclose, hdeclares, rfl⟩, ?_⟩
    simp only [List.mem_append, List.mem_cons, not_or]
    exact ⟨⟨hf, hblank⟩, by decide, hargs, by decide, htick⟩
  cases h with
  | plain hblanks hargs =>
    obtain ⟨hshows, htick⟩ := hcode hblanks (tick_not_mem_args hargs) .nothing
    exact ⟨_, none, hshows, htick, ofArgs_commaList hargs, rfl⟩
  | @arrow _ blanks args before after list hblanks hargs hbefore hafter hne hlist =>
    have hchars : ∀ c ∈ list, Text.isWordChar c = true ∨ c = ',' ∨ c = ' ' :=
      hlist.forall_mem (Or.inr (Or.inl rfl)) (fun c hspace => Or.inr (Or.inr (beq_iff_eq.1 hspace)))
        fun r u hu c hc => (hu.mem hc).imp id Or.inr
    obtain ⟨hshows, htick⟩ := hcode hblanks (tick_not_mem_args hargs)
      (.arrow hbefore hafter hne hchars)
    exact ⟨_, some list, hshows, htick, ofArgs_commaList hargs, returnsOf_commaList hlist⟩

/-- **Spellings.** A call in a text without other code is read as the parameters and return values
that it spells, however it spells them, if the pattern of the calls compiles. If the pattern is
refused, that is the fault. -/
theorem Signature.extract_spells [PatternCompiler] (hf : Call.tick ∉ f) (h : Spells f ps rs code)
    {pre post : Text} (hpre : Call.tick ∉ pre) (hpost : Call.tick ∉ post) :
    (PatternCompiler.refusal? f = none →
      extract f (pre ++ Call.tick :: (code ++ Call.tick :: post)) =
        .ok ⟨ps.map (·.parameter), rs.map (·.name)⟩) ∧
    ∀ message, PatternCompiler.refusal? f = some message →
      extract f (pre ++ Call.tick :: (code ++ Call.tick :: post)) =
        .error (.malformed .callPattern message) := by
  constructor
  · intro hcompiles
    obtain ⟨args, returns, hshows, htick, hargs, hreturns⟩ := h.exists_shows hf
    obtain ⟨call, hafter, hmerge⟩ := Call.exists_after? htick hshows post
    refine extract_eq_ok_iff.2 ⟨hcompiles, ?_⟩
    rw [ofText_of_after? hpre hpost hafter, hmerge, merge_empty, hargs, hreturns]
  · intro message hrefused
    exact extract_eq_error_iff.2 ⟨message, hrefused, rfl⟩

end

/-- Five parameters: two that may be left out, one that may not, and two with defaults. -/
def flagArguments : List WordedArgument :=
  [⟨.ofWords ["flag", "index"] (by decide) (by decide), .optional, fun _ h => by cases h⟩,
    ⟨.ofWords ["x"] (by decide) (by decide), .optional, fun _ h => by cases h⟩,
    ⟨.ofWords ["y"] (by decide) (by decide), .required, fun _ h => by cases h⟩,
    ⟨.ofWords ["w"] (by decide) (by decide), .defaulted "1=2", fun _ h => by cases h; decide⟩,
    ⟨.ofWords ["h"] (by decide) (by decide), .defaulted "", fun _ h => by cases h; decide⟩]

def flagReturns : List (Worded Text.isWordChar) :=
  [.ofWords ["a", "b"] (by decide) (by decide +kernel),
    .ofWords ["c"] (by decide) (by decide +kernel)]

/-- A call with brackets and blanks nearly everywhere. -/
def flagCode : Text := "fget ([ flag\t index , [x]] ,y , [[w = [ 1=2 ]] ,h]=) ->\n a  b,c "

theorem spells_flag : Spells "fget" flagArguments flagReturns flagCode := by
  have hall : ∀ {P : Char → Prop} [DecidablePred P] {s : Text},
      s.all (fun c => decide (P c)) = true → ∀ c ∈ s, P c := List.all_iff_forall_prop.1
  have hflag : Spaced Text.isBlank ["flag", "index"] "flag\t index" :=
    @Spaced.cons _ "flag" '\t' " " "index" ["index"] (hall (by decide)) (.last "index")
  have hindex : flagArguments[0].ShownAs "[ flag\t index " :=
    @Shown.optional _ "[ " "flag\t index" " " hflag (hall (by decide)) (hall (by decide))
      (by decide)
  have hx : flagArguments[1].ShownAs " [x]] " :=
    @Shown.optional _ " [" "x" "]] " (.last "x") (hall (by decide)) (hall (by decide)) (by decide)
  have hy : flagArguments[2].ShownAs "y " :=
    @Shown.required _ "" "y" " " (.last "y") (hall (by decide)) (hall (by decide))
  have hw : flagArguments[3].ShownAs " [[w = [ 1=2 ]] " :=
    @Shown.defaulted _ " [[" "w" " " " [ " "1=2" " ]] " (.last "w") (hall (by decide))
      (hall (by decide)) (hall (by decide)) (hall (by decide))
  have hh : flagArguments[4].ShownAs "h]=" :=
    @Shown.defaulted _ "" "h" "]" "" "" "" (.last "h") (hall (by decide)) (hall (by decide))
      (hall (by decide)) (hall (by decide))
  have hwords : Spaced (· == ' ') ["a", "b"] "a  b" :=
    @Spaced.cons _ "a" ' ' " " "b" ["b"] (hall (by decide)) (.last "b")
  have hab : ReturnShown flagReturns[0] " a  b" :=
    @ReturnShown.intro _ " " "a  b" "" hwords (hall (by decide)) (hall (by decide))
  have hc : ReturnShown flagReturns[1] "c " :=
    @ReturnShown.intro _ "" "c" " " (.last "c") (hall (by decide)) (hall (by decide))
  have hcode : flagCode = "fget" ++ " " ++ '(' :: (("[ flag\t index " ++ ',' :: (" [x]] " ++
      ',' :: ("y " ++ ',' :: (" [[w = [ 1=2 ]] " ++ ',' :: "h]=")))) ++
        ')' :: (" " ++ ['-', '>'] ++ "\n" ++ (" a  b" ++ ',' :: "c "))) := by decide +kernel
  rw [hcode]
  exact .arrow (hall (by decide)) (.cons hindex (.cons hx (.cons hy (.cons hw (.last hh)))))
    (hall (by decide)) (hall (by decide)) (by decide) (.cons hab (.last hc))

theorem extract_spells_flag : Call.tick ∉ ("fget" : Text) ∧
    PatternCompiler.refusal? "fget" = none ∧
    Signature.extract "fget" ("Draws. " ++ Call.tick :: (flagCode ++ Call.tick :: " now.")) =
      .ok ⟨[⟨"flag_index", some "nil"⟩, ⟨"x", some "nil"⟩, ⟨"y", none⟩, ⟨"w", some "1=2"⟩,
        ⟨"h", some ""⟩], ["a_b", "c"]⟩ := by
  have hf : Call.tick ∉ ("fget" : Text) := by decide
  have hcompiles : PatternCompiler.refusal? "fget" = none := by decide
  have hpre : Call.tick ∉ ("Draws. " : Text) := by decide
  have hpost : Call.tick ∉ (" now." : Text) := by decide
  have hread := (Signature.extract_spells hf spells_flag hpre hpost).1 hcompiles
  exact ⟨hf, hcompiles, hread.trans (by decide +kernel)⟩

end WikiStubs
