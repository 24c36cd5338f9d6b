import WikiStubs.Proofs.Call
import WikiStubs.Proofs.Record.Outcome

/-!
# One spelling, in a call and in a bullet

A variable is spelled in one or more words (`Spelling`). Where a call writes the words as an
argument, with a space between them, its signature has a parameter whose name is the words joined
by underscores (`Spelling.exists_parameter`). Where a bullet writes them in bold, it names the
variable of that name, or the ones that the name is known to stand for
(`Spelling.exists_bullet`). So a parameter that is described under its spelling is not reported
as undescribed (`Spelling.named_alike`).

Only a name that stands for several variables makes a difference by intent: `x y` in a call is one
parameter, and in a bullet two variables. The two readers also differ on other blanks between
words, which the one drops and the other keeps (`Spelling.named_differently`).
-/
namespace WikiStubs

/-- A character of a word that spells a variable: neither a blank nor a mark around names. -/
def isSpellingChar (c : Char) : Bool :=
  !Text.isBlank c && !(['[', ']', ',', '=', '*', '(', ')', Call.tick].contains c)

/-- The words that spell a variable. -/
structure Spelling where
  words : List Text
  ne_nil : words ≠ []
  word : ∀ w ∈ words, w ≠ [] ∧ ∀ c ∈ w, isSpellingChar c = true

theorem isBlank_of_isSpellingChar {c : Char} (h : isSpellingChar c = true) :
    Text.isBlank c = false := by
  rw [isSpellingChar, Bool.and_eq_true, Bool.not_eq_true'] at h
  exact h.1

theorem ne_of_isSpellingChar {c d : Char} (h : isSpellingChar c = true)
    (hd : isSpellingChar d = false) : c ≠ d := by
  rintro rfl
  rw [h] at hd
  cases hd

theorem isBracketing_of_isSpellingChar {c : Char} (h : isSpellingChar c = true) :
    Parameter.isBracketing c = false := by
  rw [Parameter.isBracketing, isBlank_of_isSpellingChar h, Bool.or_false, Bool.or_eq_false_iff,
    beq_eq_false_iff_ne, beq_eq_false_iff_ne]
  exact ⟨ne_of_isSpellingChar h (by decide), ne_of_isSpellingChar h (by decide)⟩

namespace Spelling

def text (s : Spelling) : Text := List.intercalate [' '] s.words

def name (s : Spelling) : Text := List.intercalate ['_'] s.words

variable (s : Spelling)

theorem mem_text {c : Char} (h : c ∈ s.text) : c = ' ' ∨ isSpellingChar c = true := by
  rcases Text.mem_intercalate h with h | ⟨w, hw, hc⟩
  · exact Or.inl (List.mem_singleton.1 h)
  · exact Or.inr ((s.word w hw).2 c hc)

/-- A mark is not in the text. -/
theorem not_mem_text {c : Char} (hspace : c ≠ ' ') (h : isSpellingChar c = false) : c ∉ s.text :=
  fun hmem => by
    rcases s.mem_text hmem with he | hc
    · exact hspace he
    · rw [h] at hc
      cases hc

theorem ends {c : Char} (h : c ∈ s.text.head? ∨ c ∈ s.text.getLast?) : isSpellingChar c = true := by
  obtain ⟨w, hw, hc⟩ := Text.mem_ends_intercalate (fun w hw => (s.word w hw).1) h
  exact (s.word w hw).2 c hc

theorem trimBy_text {p : Char → Bool} (h : ∀ c, isSpellingChar c = true → p c = false) :
    s.text.trimBy p = s.text :=
  Text.trimBy_of_ends (fun c hc => h c (s.ends (Or.inl hc))) fun c hc => h c (s.ends (Or.inr hc))

theorem intercalate_ne_nil (sep : Text) : List.intercalate sep s.words ≠ [] :=
  Text.intercalate_ne_nil s.ne_nil (fun w hw => (s.word w hw).1) sep

theorem joinWords_text : s.text.joinWords = s.name := by
  rw [Text.joinWords, text, Text.words_intercalate fun w hw =>
    ⟨(s.word w hw).1, fun c hc => isBlank_of_isSpellingChar ((s.word w hw).2 c hc)⟩, name]

/-! ## In a call -/

/-- How a call can write a text as an argument: with any brackets and blanks around it, and with
or without a default. -/
inductive Token (t : Text) : Text → Prop where
  | plain {a b : Text} (ha : ∀ c ∈ a, Parameter.isBracketing c = true)
      (hb : ∀ c ∈ b, Parameter.isBracketing c = true) : Token t (a ++ t ++ b)
  | defaulted {a b : Text} (ha : ∀ c ∈ a, Parameter.isBracketing c = true)
      (hb : ∀ c ∈ b, Parameter.isBracketing c = true) (value : Text) :
      Token t (a ++ t ++ b ++ '=' :: value)

theorem unbracket_text {a b : Text} (ha : ∀ c ∈ a, Parameter.isBracketing c = true)
    (hb : ∀ c ∈ b, Parameter.isBracketing c = true) :
    Parameter.unbracket (a ++ s.text ++ b) = s.text := by
  rw [Parameter.unbracket, Text.trimBy_surround ha hb,
    s.trimBy_text fun _ => isBracketing_of_isSpellingChar]

theorem ofSpelling?_text {a b : Text} (ha : ∀ c ∈ a, Parameter.isBracketing c = true)
    (hb : ∀ c ∈ b, Parameter.isBracketing c = true) (default : Option Text) :
    Parameter.ofSpelling? (a ++ s.text ++ b) default = some ⟨s.name, default⟩ := by
  rw [Parameter.ofSpelling?, s.unbracket_text ha hb, s.joinWords_text]
  obtain ⟨c, t, ht⟩ := List.exists_cons_of_ne_nil (s.intercalate_ne_nil ['_'])
  rw [name, ht]

/-- Neither brackets and blanks nor the text that they stand around hold an equals sign. -/
theorem equals_not_mem {a b : Text} (ha : ∀ c ∈ a, Parameter.isBracketing c = true)
    (hb : ∀ c ∈ b, Parameter.isBracketing c = true) : '=' ∉ a ++ s.text ++ b := by
  have hbracketing : Parameter.isBracketing '=' ≠ true := by decide
  have htext : '=' ∉ s.text := s.not_mem_text (by decide) (by decide)
  rw [List.mem_append, List.mem_append]
  rintro ((h | h) | h)
  · exact hbracketing (ha _ h)
  · exact htext h
  · exact hbracketing (hb _ h)

/-- The argument is a parameter of the name that the words give. -/
theorem exists_parameter {token : Text} (h : Token s.text token) :
    ∃ default, Parameter.ofToken? token = some ⟨s.name, default⟩ := by
  cases h with
  | @plain a b ha hb =>
    obtain ⟨c, t, ht⟩ := List.exists_cons_of_ne_nil (s.intercalate_ne_nil [' '])
    have hhead : s.text.head? = some c := congrArg List.head? ht
    have hmem : c ∈ a ++ s.text ++ b :=
      List.mem_append_left _ (List.mem_append_right _ (List.mem_of_head? hhead))
    have hblank : Text.isBlank c = false := isBlank_of_isSpellingChar (s.ends (Or.inl hhead))
    -- Brackets at the ends give the default `nil`, and a bare name gives none.
    rw [Parameter.ofToken?_of_no_value (s.equals_not_mem ha hb)
      (List.ne_nil_of_mem (Text.mem_trimBy hmem hblank))]
    exact ⟨_, s.ofSpelling?_text ha hb _⟩
  | defaulted ha hb value =>
    rw [Parameter.ofToken?_of_value (s.equals_not_mem ha hb)]
    exact ⟨_, s.ofSpelling?_text ha hb _⟩

/-! ## In a bullet -/

theorem nameOf_text : Bullet.nameOf s.text = s.name := by
  have hchar : ∀ c, isSpellingChar c = true → (c == ' ' || c == '*') = false := by
    intro c hc
    rw [Bool.or_eq_false_iff, beq_eq_false_iff_ne, beq_eq_false_iff_ne]
    exact ⟨ne_of_isSpellingChar hc (by decide), ne_of_isSpellingChar hc (by decide)⟩
  rw [Bullet.nameOf, s.trimBy_text hchar, text, Text.map_intercalate, name]
  · rfl
  · intro w hw
    refine (List.map_congr_left fun c hc => if_neg ?_).trans (List.map_id _)
    exact ne_of_isSpellingChar ((s.word w hw).2 c hc) (by decide)

theorem namesOf_text : Bullet.namesOf s.text = Corrections.variablesOf s.name := by
  rw [Bullet.namesOf, List.splitOn_eq_singleton (s.not_mem_text (by decide) (by decide)),
    List.flatMap_singleton, s.nameOf_text]

/-- The line of a bullet, with blanks before the colon and a space after it. -/
def bullet (mark : Char) (blanks d : Text) : Text :=
  mark :: ' ' :: bold ++ (s.text ++ (bold ++ blanks ++ ':' :: ' ' :: d))

/-- The bullet names what the name stands for. -/
theorem exists_bullet {mark : Char} (hmark : mark = '*' ∨ mark = '-') {blanks d : Text}
    (hblanks : ∀ c ∈ blanks, Text.isBlank c = true) (hd : ¬ bold <:+: d) :
    ∃ b, Bullet.ofLine? (s.bullet mark blanks d) = some b ∧
      b.names = Corrections.variablesOf s.name := by
  have hstar : ∀ c ∈ blanks, c ≠ '*' := fun c hc e => by
    have hblank := hblanks c hc
    rw [e] at hblank
    exact absurd hblank (by decide)
  have hcolon : ¬ bold <:+: ':' :: ' ' :: d :=
    Bullet.not_bold_infix_cons (by decide) (Bullet.not_bold_infix_cons (by decide) hd)
  have hrest : ¬ bold <:+: blanks ++ ':' :: ' ' :: d := Bullet.not_bold_infix_append hstar hcolon
  have hhead : (blanks ++ ':' :: ' ' :: d).head? ≠ some '*' := by
    cases blanks with
    | nil => simp
    | cons c blanks => simpa using hstar c (List.mem_cons_self ..)
  have hlast : Bullet.split? (bold ++ blanks ++ ':' :: ' ' :: d) = none := by
    rw [List.append_assoc]
    exact Bullet.split?_bold_append hhead hrest
  have htail : (Bullet.tail? (bold ++ blanks ++ ':' :: ' ' :: d)).isSome :=
    Bullet.tail?_isSome_iff.2 ⟨blanks, _, hblanks, rfl,
      Bullet.descriptionOf?_isSome_iff.2 ⟨' ', List.mem_cons_self .., by decide⟩⟩
  obtain ⟨description, htail⟩ := Option.isSome_iff_exists.1 htail
  have hsplit := Bullet.split?_append (s.intercalate_ne_nil [' '])
    (s.not_mem_text (c := '\n') (by decide) (by decide)) hlast htail
  rw [Bullet.ofLine?, bullet, Bullet.afterMark?_eq_some.2 ⟨mark, hmark, rfl⟩, Option.bind_some]
  exact ⟨_, congrArg (Option.map _) hsplit, s.namesOf_text⟩

end Spelling

/-! ## Nothing left undescribed -/

namespace Section

theorem undescribed_inj {s : Section} {u v : Text} (h : s.undescribed u = s.undescribed v) :
    u = v := by
  injection h with _ htext
  have hquoted := List.append_cancel_left htext
  unfold Fault.quoted at hquoted
  exact List.append_cancel_left (List.append_cancel_right hquoted)

/-- A variable that is reported as undescribed is not described. -/
theorem not_describes_of_ofSection [PatternCompiler] {s : Section} {function v : Text}
    (h : Record.ofSection function s = .error (s.undescribed v)) : ¬ s.Describes v := by
  cases hsignature : s.signature function with
  | error e =>
    obtain ⟨-, message, -, rfl⟩ := signature_eq_error_iff.1 hsignature
    rw [Record.ofSection_of_signature_error hsignature] at h
    cases h
  | ok signature =>
    have hfails := (Record.ofSection_eq_error_iff hsignature).1 h
    generalize hfault : s.undescribed v = fault at hfails
    cases hfails with
    | malformed => cases hfault
    | undescribed _ _ _ hv => exact undescribed_inj hfault ▸ hv
    | noDescription => cases hfault

end Section

namespace Signature

/-- A call that is written into a text without other code is the only one, whatever its
arguments. -/
theorem ofText_call {args pre post : Text} (hargs : Call.tick ∉ args) (hpre : Call.tick ∉ pre)
    (hpost : Call.tick ∉ post) (function : Text) :
    ofText function
        (pre ++ Call.tick :: (function ++ ['('] ++ args ++ [')'] ++ [] ++ Call.tick :: post)) =
      empty.merge args none :=
  ofText_of_after? hpre hpost (Call.after?_written hargs List.not_mem_nil List.not_mem_nil rfl post)

end Signature

/-! ## The two readers -/

/-- **One spelling, one name.** Words with a space between them give a parameter its name when a
call has them as an argument, and they give a bullet the variables that this name stands for,
whatever else the call and the bullet hold. That is the name itself, unless it is known to stand for
several variables, so a section with the bullet does not leave the variable undescribed. -/
theorem Spelling.named_alike [PatternCompiler] (s : Spelling) {args token : Text}
    (htoken : Token s.text token) (harg : token ∈ args.splitOn ',')
    {mark : Char} (hmark : mark = '*' ∨ mark = '-')
    {blanks d : Text} (hblanks : ∀ c ∈ blanks, Text.isBlank c = true) (hd : ¬ bold <:+: d) :
    (∃ p ∈ Parameter.ofArgs args, Parameter.ofToken? token = some p ∧ p.name = s.name ∧
      ∀ function pre post : Text, Call.tick ∉ pre → Call.tick ∉ args → Call.tick ∉ post →
        p ∈ (Signature.ofText function (pre ++ Call.tick ::
          (function ++ ['('] ++ args ++ [')'] ++ [] ++ Call.tick :: post))).params) ∧
    (∃ b, Bullet.ofLine (s.bullet mark blanks d) = .ok b ∧
      b.names = Corrections.variablesOf s.name) ∧
    (Corrections.splitName? s.name = none → Corrections.variablesOf s.name = [s.name] ∧
      ∀ (function : Text) (u : Section), s.bullet mark blanks d ∈ u.bullets →
        Record.ofSection function u ≠ .error (u.undescribed s.name)) := by
  obtain ⟨default, hparameter⟩ := s.exists_parameter htoken
  obtain ⟨b, hb, hnames⟩ := s.exists_bullet hmark hblanks hd
  have hargs : ⟨s.name, default⟩ ∈ Parameter.ofArgs args :=
    List.mem_filterMap.2 ⟨token, harg, hparameter⟩
  refine ⟨⟨_, hargs, hparameter, rfl, fun function pre post hpre htick hpost => ?_⟩,
    ⟨b, Bullet.ofLine_eq_ok hb, hnames⟩, fun hname => ?_⟩
  · rw [Signature.ofText_call htick hpre hpost]
    exact hargs
  · have hvariables : Corrections.variablesOf s.name = [s.name] := by
      rw [Corrections.variablesOf, hname, Option.getD_none]
    refine ⟨hvariables, fun function u hline herror => ?_⟩
    have hmem : s.name ∈ b.names := by
      rw [hnames, hvariables]
      exact List.mem_singleton_self _
    exact Section.not_describes_of_ofSection herror (Or.inl ⟨_, hline, b, hb, hmem⟩)

/-- Two words. -/
def spriteId : Spelling where
  words := ["sprite", "id"]
  ne_nil := List.cons_ne_nil _ _
  word := List.forall_mem_cons.2 ⟨⟨by decide, List.all_eq_true.1 (by decide)⟩,
    List.forall_mem_singleton.2 ⟨by decide, List.all_eq_true.1 (by decide)⟩⟩

theorem Spelling.spriteId_named_alike :
    Parameter.ofToken? " [sprite id=1]" = some ⟨"sprite_id", some "1"⟩ ∧
      ∃ b, Bullet.ofLine (spriteId.bullet '*' [' '] "the index") = .ok b ∧
        b.names = [("sprite_id" : Text)] := by
  have hopen : ∀ c ∈ [' ', '['], Parameter.isBracketing c = true :=
    List.forall_mem_cons.2 ⟨by decide, List.forall_mem_singleton.2 (by decide)⟩
  have htoken : Token spriteId.text " [sprite id=1]" :=
    .defaulted hopen (List.forall_mem_nil _) "1]"
  have harg : (" [sprite id=1]" : Text) ∈ ("x, [sprite id=1]" : Text).splitOn ',' := by decide
  have hblanks : ∀ c ∈ [' '], Text.isBlank c = true := List.forall_mem_singleton.2 rfl
  have hd : ¬ bold <:+: ("the index" : Text) := by decide
  exact ⟨by decide, (spriteId.named_alike htoken harg (Or.inl rfl) hblanks hd).2.1⟩

/-- The call and the bullet name `x y` differently, and `a  b` and words with a tab between them,
too. -/
theorem Spelling.named_differently :
    (Parameter.ofToken? "x y" = some ⟨"x_y", none⟩ ∧
      Bullet.ofLine "* **x y** : d" = .ok ⟨["x", "y"], "d"⟩) ∧
    (Parameter.ofToken? "a  b" = some ⟨"a_b", none⟩ ∧
      Bullet.ofLine "* **a  b** : d" = .ok ⟨["a__b"], "d"⟩) ∧
    (Parameter.ofToken? "a\tb" = some ⟨"a_b", none⟩ ∧
      Bullet.ofLine "* **a\tb** : d" = .ok ⟨["a\tb"], "d"⟩) := by
  decide +kernel

end WikiStubs
