import Mathlib.Data.List.Basic
import WikiStubs.Call
import WikiStubs.Proofs.Identifier

/-!
# Arguments and return values that are written to be read

An argument is written in brackets where it may be left out, with an equals sign before its
default, and a comma and a space between any two. It is read back as it was declared
(`Parameter.ofToken?_token`), and so are all arguments (`Parameter.ofArgs_tokens`) and all return
values (`Signature.returnsOf_names`) of a call.
-/
namespace WikiStubs

/-- How a call may leave a parameter out. -/
inductive Presence where
  | required
  | optional
  | defaulted (value : Text)
  deriving DecidableEq

structure Argument where
  name : Text
  presence : Presence
  deriving DecidableEq

namespace Argument

/-- The argument as a call shows it. -/
def token (a : Argument) : Text :=
  match a.presence with
  | .required => a.name
  | .optional => ['['] ++ a.name ++ [']']
  | .defaulted value => ['['] ++ a.name ++ ['='] ++ value ++ [']']

def parameter (a : Argument) : Parameter where
  name := a.name
  default :=
    match a.presence with
    | .required => none
    | .optional => some Parameter.nilDefault
    | .defaulted value => some value

/-- A character that a default may have: no blank, comma, bracket or backtick. -/
def isValueChar (c : Char) : Bool :=
  !(Text.isBlank c || c == ',' || c == '[' || c == ']' || c == Call.tick)

theorem isValueChar_iff {c : Char} : isValueChar c = true ↔
    Text.isBlank c = false ∧ c ≠ ',' ∧ c ≠ '[' ∧ c ≠ ']' ∧ c ≠ Call.tick := by
  simp [isValueChar, and_assoc]

theorem isValueChar_of_isIdentifierChar {c : Char} (h : isIdentifierChar c = true) :
    isValueChar c = true := by
  have hne : ∀ {d}, isIdentifierChar d = false → c ≠ d := by
    intro d hd e
    subst e
    rw [hd] at h
    cases h
  exact isValueChar_iff.2 ⟨isBlank_of_isIdentifierChar h, hne (by decide), hne (by decide),
    hne (by decide), hne (by decide)⟩

/-- A default, if there is one, has nothing that ends it. -/
def PlainPresence : Presence → Prop
  | .required => True
  | .optional => True
  | .defaulted value => value ≠ [] ∧ ∀ c ∈ value, isValueChar c = true

instance : (presence : Presence) → Decidable (PlainPresence presence)
  | .required => inferInstanceAs (Decidable True)
  | .optional => inferInstanceAs (Decidable True)
  | .defaulted value =>
    decidable_of_iff (value ≠ [] ∧ value.all isValueChar = true)
      (by rw [List.all_eq_true, PlainPresence])

/-- The name is an identifier, and the default is plain. -/
structure Valid (a : Argument) : Prop where
  name : IsIdentifier a.name
  presence : PlainPresence a.presence

instance (a : Argument) : Decidable a.Valid :=
  decidable_of_iff (IsIdentifier a.name ∧ PlainPresence a.presence)
    ⟨fun ⟨h1, h2⟩ => ⟨h1, h2⟩, fun ⟨h1, h2⟩ => ⟨h1, h2⟩⟩

theorem isValueChar_of_mem_token {a : Argument} (h : a.Valid) {c : Char} (hc : c ∈ a.token) :
    isValueChar c = true ∨ c = '[' ∨ c = ']' := by
  have hname : ∀ c ∈ a.name, isValueChar c = true := fun c hc =>
    isValueChar_of_isIdentifierChar (h.name.2 c hc)
  have hpresence := h.presence
  unfold token at hc
  split at hc
  · exact Or.inl (hname c hc)
  · simp at hc
    grind
  · next value hvalue =>
    rw [hvalue] at hpresence
    have hall : ∀ c ∈ value, isValueChar c = true := hpresence.2
    have hequals : isValueChar '=' = true := by decide
    simp at hc
    grind

theorem token_ne_nil {a : Argument} (h : a.Valid) : a.token ≠ [] := by
  unfold token
  split
  · exact h.name.1
  · simp
  · simp

end Argument

/-! ## Arguments -/

namespace Parameter

theorem isBracketing_of_isValueChar {c : Char} (h : Argument.isValueChar c = true) :
    isBracketing c = false := by
  obtain ⟨h1, -, h2, h3, -⟩ := Argument.isValueChar_iff.1 h
  simp [isBracketing, h1, h2, h3]

/-- Brackets around a text that has none inside are dropped. -/
theorem unbracket_surround {a b t : Text} (ha : ∀ c ∈ a, isBracketing c = true)
    (hb : ∀ c ∈ b, isBracketing c = true) (ht : ∀ c ∈ t, isBracketing c = false) :
    unbracket (a ++ t ++ b) = t := by
  rw [unbracket, Text.trimBy_surround ha hb, Text.trimBy_of_none ht]

theorem ofSpelling?_surround {a b name : Text} (ha : ∀ c ∈ a, isBracketing c = true)
    (hb : ∀ c ∈ b, isBracketing c = true) (h : IsIdentifier name) (default : Option Text) :
    ofSpelling? (a ++ name ++ b) default = some ⟨name, default⟩ := by
  rw [ofSpelling?, unbracket_surround ha hb fun c hc =>
    isBracketing_of_isValueChar (Argument.isValueChar_of_isIdentifierChar (h.2 c hc)), h.joinWords]
  obtain ⟨c, t, rfl⟩ := List.exists_cons_of_ne_nil h.1
  rfl

/-- What a token is once the blanks around it are gone. -/
def ofTrimmed? (t : Text) : Option Parameter :=
  match Text.splitAtFirst? "=" t with
  | some (name, value) => ofSpelling? name (some (unbracket value))
  | none =>
    if t.head? = some '[' ∨ t.getLast? = some ']' then ofSpelling? t (some nilDefault)
    else ofSpelling? t none

theorem ofTrimmed?_of_value {name : Text} (h : '=' ∉ name) (value : Text) :
    ofTrimmed? (name ++ '=' :: value) = ofSpelling? name (some (unbracket value)) := by
  have hsplit : Text.splitAtFirst? "=" (name ++ '=' :: value) = some (name, value) :=
    Text.splitAtFirst?_append h value
  rw [ofTrimmed?, hsplit]

theorem ofTrimmed?_of_bracket {t : Text} (h : '=' ∉ t)
    (hbracket : t.head? = some '[' ∨ t.getLast? = some ']') :
    ofTrimmed? t = ofSpelling? t (some nilDefault) := by
  have hsplit : Text.splitAtFirst? "=" t = none := Text.splitAtFirst?_eq_none h
  rw [ofTrimmed?, hsplit]
  exact if_pos hbracket

theorem ofTrimmed?_of_plain {t : Text} (h : '=' ∉ t)
    (hplain : ¬ (t.head? = some '[' ∨ t.getLast? = some ']')) :
    ofTrimmed? t = ofSpelling? t none := by
  have hsplit : Text.splitAtFirst? "=" t = none := Text.splitAtFirst?_eq_none h
  rw [ofTrimmed?, hsplit]
  exact if_neg hplain

theorem ofToken?_of_ne_nil {token : Text} (h : token.trim ≠ []) :
    ofToken? token = ofTrimmed? token.trim := by
  unfold ofToken?
  split
  · next hnil => exact absurd hnil h
  · rfl

theorem isBracketing_of_isBlank {c : Char} (h : Text.isBlank c = true) : isBracketing c = true := by
  rw [isBracketing, h, Bool.or_true]

/-- Blanks around a text are dropped with its brackets. -/
theorem unbracket_around {a b : Text} (ha : ∀ c ∈ a, Text.isBlank c = true)
    (hb : ∀ c ∈ b, Text.isBlank c = true) (t : Text) : unbracket (a ++ t ++ b) = unbracket t :=
  Text.trimBy_surround (fun c hc => isBracketing_of_isBlank (ha c hc))
    (fun c hc => isBracketing_of_isBlank (hb c hc)) t

theorem ofSpelling?_congr {s t : Text} (h : unbracket s = unbracket t) (default : Option Text) :
    ofSpelling? s default = ofSpelling? t default := by
  rw [ofSpelling?, h, ofSpelling?]

/-- A token with an equals sign is read from both of its sides. -/
theorem ofToken?_of_value {name : Text} (h : '=' ∉ name) (value : Text) :
    ofToken? (name ++ '=' :: value) = ofSpelling? name (some (unbracket value)) := by
  obtain ⟨b, hb, hvalue⟩ := Text.exists_eq_trimEndBy Text.isBlank value
  have htrim : Text.trim (name ++ '=' :: value) =
      name.dropWhile Text.isBlank ++ '=' :: value.trimEnd := by
    have hequals : ∀ c, some '=' = some c → Text.isBlank c = false := by
      rintro c ⟨⟩
      decide
    have htoken := Text.trimBy_around (p := Text.isBlank) (t := ['=']) (List.cons_ne_nil _ _)
      hequals hequals name value
    simpa [Text.trim, Text.trimEnd] using htoken
  have hname : unbracket (name.dropWhile Text.isBlank) = unbracket name := by
    have haround := unbracket_around (a := name.takeWhile Text.isBlank) (b := [])
      (fun c hc => List.mem_takeWhile_imp hc) (List.forall_mem_nil _)
      (name.dropWhile Text.isBlank)
    rwa [List.append_nil, List.takeWhile_append_dropWhile, eq_comm] at haround
  have hunbracket : unbracket value.trimEnd = unbracket value := by
    have haround := unbracket_around (a := []) (List.forall_mem_nil _) hb value.trimEnd
    rwa [List.nil_append, Text.trimEnd, ← hvalue, eq_comm] at haround
  have hequals : '=' ∉ name.dropWhile Text.isBlank := fun hmem =>
    h ((List.dropWhile_sublist _).subset hmem)
  rw [ofToken?_of_ne_nil (by rw [htrim]; simp), htrim, ofTrimmed?_of_value hequals,
    ofSpelling?_congr hname, hunbracket]

/-- A token without an equals sign may be left out if its brackets say so. -/
theorem ofToken?_of_no_value {t : Text} (h : '=' ∉ t) (hne : t.trim ≠ []) : ofToken? t =
    ofSpelling? t (if t.trim.head? = some '[' ∨ t.trim.getLast? = some ']' then some nilDefault
      else none) := by
  obtain ⟨a, b, ha, hb, ht⟩ := Text.exists_eq_trimBy Text.isBlank t
  have hequals : '=' ∉ t.trim := fun hmem => h (Text.mem_of_mem_trimBy hmem)
  have hname : unbracket t.trim = unbracket t := by
    conv_rhs => rw [ht]
    exact (unbracket_around ha hb _).symm
  rw [ofToken?_of_ne_nil hne]
  split
  · next hbracket => rw [ofTrimmed?_of_bracket hequals hbracket, ofSpelling?_congr hname]
  · next hplain => rw [ofTrimmed?_of_plain hequals hplain, ofSpelling?_congr hname]

/-- A token without blanks around it. -/
theorem ofToken?_of_trimmed {t : Text} (hne : t ≠ []) (h : t.trim = t) :
    ofToken? t = ofTrimmed? t := by
  rw [ofToken?_of_ne_nil (h.symm ▸ hne), h]

theorem ofToken?_cons_space (t : Text) : ofToken? (' ' :: t) = ofToken? t := by
  have htrim : Text.trim (' ' :: t) = Text.trim t := by
    have h := Text.trimBy_surround (p := Text.isBlank) (a := [' ']) (b := [])
      (List.forall_mem_singleton.2 (by decide)) (List.forall_mem_nil _) t
    rwa [List.append_nil] at h
  rw [ofToken?, htrim, ofToken?]

/-- An argument is read back as it was declared. -/
theorem ofToken?_token {a : Argument} (h : a.Valid) : ofToken? a.token = some a.parameter := by
  have hblank : ∀ c ∈ a.token, Text.isBlank c = false := by
    intro c hc
    rcases Argument.isValueChar_of_mem_token h hc with hv | rfl | rfl
    · exact (Argument.isValueChar_iff.1 hv).1
    · decide
    · decide
  have heq := ofToken?_of_trimmed (Argument.token_ne_nil h) (Text.trimBy_of_none hblank)
  obtain ⟨name, presence⟩ := a
  have hname : IsIdentifier name := h.name
  have hequals : '=' ∉ name := hname.not_mem (by decide)
  have hnil : ∀ c ∈ ([] : Text), isBracketing c = true := List.forall_mem_nil _
  have hopen : ∀ c ∈ ['['], isBracketing c = true := List.forall_mem_singleton.2 (by decide)
  have hclose : ∀ c ∈ [']'], isBracketing c = true := List.forall_mem_singleton.2 (by decide)
  rw [heq]
  cases presence with
  | required =>
    have hhead : name.head? ≠ some '[' := fun e => hname.not_mem (by decide) (List.mem_of_head? e)
    have hlast : name.getLast? ≠ some ']' := fun e =>
      hname.not_mem (by decide) (List.mem_of_getLast? e)
    have hread := ofSpelling?_surround hnil hnil hname none
    rw [List.nil_append, List.append_nil] at hread
    exact (ofTrimmed?_of_plain hequals (not_or.2 ⟨hhead, hlast⟩)).trans hread
  | optional =>
    have hno : '=' ∉ ['['] ++ name ++ [']'] := by simpa using hequals
    exact (ofTrimmed?_of_bracket hno (Or.inl rfl)).trans
      (ofSpelling?_surround hopen hclose hname (some nilDefault))
  | defaulted value =>
    have hvalue : ∀ c ∈ value, isBracketing c = false := fun c hc =>
      isBracketing_of_isValueChar (h.presence.2 c hc)
    have hno : '=' ∉ ['['] ++ name := by simpa using hequals
    have hread := ofSpelling?_surround hopen hnil hname (some value)
    have hplain := unbracket_surround hnil hclose hvalue
    rw [List.append_nil] at hread
    rw [show (Argument.mk name (.defaulted value)).token =
      (['['] ++ name) ++ '=' :: (value ++ [']']) by simp [Argument.token],
      ofTrimmed?_of_value hno]
    exact (congrArg (fun v => ofSpelling? (['['] ++ name) (some v)) hplain).trans hread

/-- The arguments of a call are read back as they were declared. -/
theorem ofArgs_tokens {as : List Argument} (h : ∀ a ∈ as, a.Valid) :
    ofArgs (List.intercalate [',', ' '] (as.map (·.token))) = as.map (·.parameter) := by
  have hcomma : ∀ t ∈ as.map (·.token), ',' ∉ t := by
    intro t ht hc
    obtain ⟨a, ha, rfl⟩ := List.mem_map.1 ht
    rcases Argument.isValueChar_of_mem_token (h a ha) hc with hv | he | he
    · exact (Argument.isValueChar_iff.1 hv).2.1 rfl
    · cases he
    · cases he
  have hread : ∀ a ∈ as, (ofToken? ∘ fun a => a.token) a = (some ∘ fun a => a.parameter) a :=
    fun a ha => ofToken?_token (h a ha)
  rw [ofArgs, Text.filterMap_splitOn_comma ofToken?_cons_space rfl hcomma, List.filterMap_map,
    List.filterMap_congr hread, List.filterMap_eq_map]

end Parameter

namespace Signature

/-- Names that are written with a comma and a space between them are read back. -/
theorem returnsOf_intercalate {rs : List Text}
    (h : ∀ r ∈ rs, r ≠ [] ∧ ',' ∉ r ∧ ∀ c ∈ r, Text.isBlank c = false) :
    returnsOf (List.intercalate [',', ' '] rs) = rs := by
  have hcomma : ∀ r ∈ rs, ',' ∉ r := fun r hr => (h r hr).2.1
  have hspace : ∀ t : Text, (Option.guard (· ≠ []) ∘ Text.joinWords) (' ' :: t) =
      (Option.guard (· ≠ []) ∘ Text.joinWords) t := fun t => by
    rw [Function.comp_apply, Text.joinWords_cons_of_blank (by decide), Function.comp_apply]
  have hread : ∀ r ∈ rs, (Option.guard (· ≠ []) ∘ Text.joinWords) r = some r := fun r hr => by
    rw [Function.comp_apply, Text.joinWords_of_word (h r hr).1 (h r hr).2.2]
    simpa using (h r hr).1
  rw [returnsOf, ← List.filterMap_eq_filter, List.filterMap_map,
    Text.filterMap_splitOn_comma hspace rfl hcomma, List.filterMap_congr hread,
    List.filterMap_some]

/-- The return values of a call are read back as they were written. -/
theorem returnsOf_names {rs : List Text} (h : ∀ r ∈ rs, IsIdentifier r) :
    returnsOf (List.intercalate [',', ' '] rs) = rs :=
  returnsOf_intercalate fun r hr =>
    ⟨(h r hr).1, (h r hr).not_mem (by decide), (h r hr).isBlank_eq_false⟩

end Signature

end WikiStubs
