import WikiStubs.Proofs.Json.Grammar

/-!
# A reader of JSON texts

A machine that reads a text one character at a time, with the arrays and objects it is inside of
on a stack. It conforms to the grammar (`conforming_read`).

The proof follows the grammar: each of its rules says what the machine has done at the end of a
phrase (`Runs`), and a run over two texts is a run over the first and then one over the second
(`run_append`).
-/
namespace WikiStubs.Json

/-! ## Inside a string -/

/-- Where the reader stands inside a string. -/
inductive Part where
  /-- Between characters. -/
  | plain
  /-- After a backslash. -/
  | escape
  /-- Among the digits of a unit, the first or the second of a pair. -/
  | unit (high : Option Nat) (digits : Text)
  /-- Before the backslash of a second unit. -/
  | second (high : Nat)
  /-- After the backslash of a second unit. -/
  | secondMark (high : Nat)
  deriving DecidableEq

/-- A string read in part. -/
structure Partial where
  part : Part
  text : Text

/-- The string after a unit. -/
def Partial.finish (n : Nat) (t : Text) : Option Nat → Option Partial
  | none =>
    if isHigh n then some ⟨.second n, t⟩
    else if isLow n then none
    else some ⟨.plain, t ++ [Char.ofNat n]⟩
  | some high => if isLow n then some ⟨.plain, t ++ [Char.ofNat (joined high n)]⟩ else none

/-- The string after one more character, unless that ends the string or is out of place. -/
def Partial.step (p : Partial) (c : Char) : Option Partial :=
  match p.part with
  | .plain =>
    if c = '"' then none
    else if c = '\\' then some ⟨.escape, p.text⟩
    else if c.toNat < 32 then none
    else some ⟨.plain, p.text ++ [c]⟩
  | .escape =>
    if c = 'u' then some ⟨.unit none [], p.text⟩
    else (short? c).map fun d => ⟨.plain, p.text ++ [d]⟩
  | .unit high digits =>
    if digits.length < 3 then some ⟨.unit high (digits ++ [c]), p.text⟩
    else (unit? (digits ++ [c])).bind fun n => finish n p.text high
  | .second high => if c = '\\' then some ⟨.secondMark high, p.text⟩ else none
  | .secondMark high => if c = 'u' then some ⟨.unit (some high) [], p.text⟩ else none

theorem isHigh_toNat (c : Char) : isHigh c.toNat = false := by
  have hvalid : c.toNat < 0xD800 ∨ 0xDFFF < c.toNat ∧ c.toNat < 0x110000 := c.valid
  unfold isHigh
  simp only [Bool.and_eq_false_iff, decide_eq_false_iff_not]
  omega

theorem isLow_toNat (c : Char) : isLow c.toNat = false := by
  have hvalid : c.toNat < 0xD800 ∨ 0xDFFF < c.toNat ∧ c.toNat < 0x110000 := c.valid
  unfold isLow
  simp only [Bool.and_eq_false_iff, decide_eq_false_iff_not]
  omega

namespace Partial

theorem foldlM_unit {ds t : Text} {n : Nat} (h : unit? ds = some n) (high : Option Nat) :
    ds.foldlM step ⟨.unit high [], t⟩ = finish n t high := by
  unfold unit? at h
  split at h
  · next hdigits =>
    obtain ⟨a, b, c, d, rfl⟩ := List.length_eq_four.1 hdigits.1
    simp_all [step, unit?]
  · cases h

theorem foldlM_first {ds t : Text} {n : Nat} (h : unit? ds = some n) :
    ('\\' :: 'u' :: ds).foldlM step ⟨.plain, t⟩ = finish n t none :=
  foldlM_unit h none

theorem foldlM_second {ds t : Text} {high n : Nat} (h : unit? ds = some n) :
    ('\\' :: 'u' :: ds).foldlM step ⟨.second high, t⟩ = finish n t (some high) :=
  foldlM_unit h (some high)

/-- The reader makes of every spelling the character that it stands for. -/
theorem foldlM_spells {s t : Text} {c : Char} (h : Spells s c) :
    s.foldlM step ⟨.plain, t⟩ = some ⟨.plain, t ++ [c]⟩ := by
  cases h with
  | plain hc hquote hback =>
    have hlow : ¬ c.toNat < 32 := by omega
    simp [step, hquote, hback, hlow]
  | @short e _ he =>
    have hu : e ≠ 'u' := by
      rintro rfl
      cases he
    simp [step, hu, he]
  | unit hds =>
    rw [foldlM_first hds, finish, isHigh_toNat, isLow_toNat, Char.ofNat_toNat]
    rfl
  | @pair ds ds' high low _ hds hds' hhigh hlow hc =>
    have hfirst : finish high t none = some ⟨.second high, t⟩ := if_pos hhigh
    rw [← List.cons_append, ← List.cons_append, List.foldlM_append, foldlM_first hds, hfirst,
      Option.bind_eq_bind, Option.bind_some, foldlM_second hds', finish, if_pos hlow, ← hc,
      Char.ofNat_toNat]

theorem foldlM_quoted {b t : Text} (t' : Text) (h : Quoted b t) :
    b.foldlM step ⟨.plain, t'⟩ = some ⟨.plain, t' ++ t⟩ := by
  induction h generalizing t' with
  | nil => rw [List.append_nil]; rfl
  | cons hs _ ih =>
    rw [List.foldlM_append, foldlM_spells hs, Option.bind_eq_bind, Option.bind_some, ih,
      List.append_assoc, List.singleton_append]

end Partial

/-! ## The machine -/

/-- What the reader is inside of: an array with the items before the present one, or an object
with the fields before and the key of the present one. -/
inductive Frame where
  | array (before : List Json)
  | object (before : List (Text × Json)) (key : Text)

inductive Mode where
  /-- A value is to come, or the end of an array if it could be its first item. -/
  | element (first : Bool)
  /-- A key is to come after the fields before, or the end of an object at the first. -/
  | member (first : Bool) (before : List (Text × Json))
  /-- These characters are to come. -/
  | null (left : Text)
  /-- Inside a string that is a value. -/
  | string (p : Partial)
  /-- Inside a key. -/
  | key (before : List (Text × Json)) (p : Partial)
  /-- The colon after a key is to come. -/
  | colon (before : List (Text × Json)) (key : Text)
  /-- A value has been read. -/
  | done (v : Json)

/-- Whether the reader stands between two tokens. -/
def Mode.isBetween : Mode → Bool
  | null _ | string _ | key _ _ => false
  | _ => true

structure State where
  mode : Mode
  inside : List Frame

namespace State

def start (c : Char) (inside : List Frame) : Option State :=
  if c = 'n' then some ⟨.null "ull", inside⟩
  else if c = '"' then some ⟨.string ⟨.plain, []⟩, inside⟩
  else if c = '[' then some ⟨.element true, .array [] :: inside⟩
  else if c = '\x7b' then some ⟨.member true [], inside⟩
  else none

/-- The state after the first character that follows a value. -/
def follow (c : Char) (v : Json) : List Frame → Option State
  | [] => none
  | .array before :: inside =>
    if c = ',' then some ⟨.element false, .array (before ++ [v]) :: inside⟩
    else if c = ']' then some ⟨.done (.array (before ++ [v])), inside⟩
    else none
  | .object before k :: inside =>
    if c = ',' then some ⟨.member false (before ++ [(k, v)]), inside⟩
    else if c = '\x7d' then some ⟨.done (.object (before ++ [(k, v)])), inside⟩
    else none

/-- The state after one more character. -/
def step (s : State) (c : Char) : Option State :=
  match s.mode with
  | .element first =>
    if isSpace c then some s
    else if c = ']' ∧ first then some ⟨.done (.array []), s.inside.tail⟩
    else start c s.inside
  | .member first before =>
    if isSpace c then some s
    else if c = '\x7d' ∧ first then some ⟨.done (.object []), s.inside⟩
    else if c = '"' then some ⟨.key before ⟨.plain, []⟩, s.inside⟩
    else none
  | .null left =>
    match left with
    | [] => none
    | d :: left =>
      if c ≠ d then none
      else if left = [] then some ⟨.done .null, s.inside⟩
      else some ⟨.null left, s.inside⟩
  | .string p =>
    if p.part = .plain ∧ c = '"' then some ⟨.done (.string p.text), s.inside⟩
    else (p.step c).map fun p => ⟨.string p, s.inside⟩
  | .key before p =>
    if p.part = .plain ∧ c = '"' then some ⟨.colon before p.text, s.inside⟩
    else (p.step c).map fun p => ⟨.key before p, s.inside⟩
  | .colon before key =>
    if isSpace c then some s
    else if c = ':' then some ⟨.element false, .object before key :: s.inside⟩
    else none
  | .done v => if isSpace c then some s else follow c v s.inside

def run (s : State) (t : Text) : Option State := t.foldlM step s

theorem run_cons {s s' : State} {c : Char} (h : s.step c = some s') (t : Text) :
    s.run (c :: t) = s'.run t := by
  unfold run
  rw [List.foldlM_cons, h]
  rfl

theorem run_append {s s' : State} {t : Text} (h : s.run t = some s') (t' : Text) :
    s.run (t ++ t') = s'.run t' := by
  unfold run at h ⊢
  rw [List.foldlM_append, h]
  rfl

end State

def read (t : Text) : Option Json :=
  match State.run ⟨.element false, []⟩ t with
  | some ⟨.done v, []⟩ => some v
  | _ => none

/-! ## Runs over parts of a text -/

namespace State

variable {inside : List Frame}

/-- Space leaves the reader where it is between tokens. -/
theorem run_space (mode : Mode) (hmode : mode.isBetween = true) {t : Text} (ht : Space t) :
    run ⟨mode, inside⟩ t = some ⟨mode, inside⟩ := by
  induction t with
  | nil => rfl
  | cons c t ih =>
    have hc : isSpace c = true := ht c List.mem_cons_self
    have hstep : step ⟨mode, inside⟩ c = some ⟨mode, inside⟩ := by
      cases mode with
      | null | string | key => cases hmode
      | element | member | colon | done => exact if_pos hc
    rw [run_cons hstep]
    exact ih fun d hd => ht d (List.mem_cons_of_mem c hd)

section
variable (mode : Partial → Mode) (closed : Text → Mode)

/-- What is inside a string is read by the steps of the string. -/
theorem run_partial (h : ∀ p c, step ⟨mode p, inside⟩ c =
      if p.part = .plain ∧ c = '"' then some ⟨closed p.text, inside⟩
      else (p.step c).map fun p => ⟨mode p, inside⟩)
    {b : Text} {p p' : Partial} (hb : b.foldlM Partial.step p = some p') :
    run ⟨mode p, inside⟩ b = some ⟨mode p', inside⟩ := by
  induction b generalizing p with
  | nil =>
    cases hb
    rfl
  | cons c b ih =>
    rw [List.foldlM_cons] at hb
    obtain ⟨q, hq, hb⟩ := Option.bind_eq_some_iff.1 hb
    -- the string has a step here, so this is not where it ends
    have hopen : ¬ (p.part = .plain ∧ c = '"') := by
      rintro ⟨hplain, rfl⟩
      simp [Partial.step, hplain] at hq
    have hstep : step ⟨mode p, inside⟩ c = some ⟨mode q, inside⟩ := by
      rw [h, if_neg hopen, hq, Option.map_some]
    rw [run_cons hstep]
    exact ih hb

/-- A string is read up to its closing quote. -/
theorem run_quoted (h : ∀ p c, step ⟨mode p, inside⟩ c =
      if p.part = .plain ∧ c = '"' then some ⟨closed p.text, inside⟩
      else (p.step c).map fun p => ⟨mode p, inside⟩)
    {b t : Text} (hb : Quoted b t) :
    run ⟨mode ⟨.plain, []⟩, inside⟩ (b ++ ['"']) = some ⟨closed t, inside⟩ := by
  have hclose : step ⟨mode ⟨.plain, t⟩, inside⟩ '"' = some ⟨closed t, inside⟩ := by
    rw [h, if_pos ⟨rfl, rfl⟩]
  have hbody := run_partial mode closed h (Partial.foldlM_quoted [] hb)
  rw [run_append hbody, List.nil_append, run_cons hclose]
  rfl

end

theorem run_string {b t : Text} (h : Quoted b t) :
    run ⟨.string ⟨.plain, []⟩, inside⟩ (b ++ ['"']) = some ⟨.done (.string t), inside⟩ :=
  run_quoted .string (fun t => .done (.string t)) (fun _ _ => rfl) h

theorem run_key (before : List (Text × Json)) {b t : Text} (h : Quoted b t) :
    run ⟨.key before ⟨.plain, []⟩, inside⟩ (b ++ ['"']) = some ⟨.colon before t, inside⟩ :=
  run_quoted (.key before) (.colon before) (fun _ _ => rfl) h

/-- What the reader has done at the end of a phrase, and of the bracket after items and fields. -/
def Runs : Phrase → Text → Prop
  | .value v, s | .element v, s =>
    ∀ first inside, run ⟨.element first, inside⟩ s = some ⟨.done v, inside⟩
  | .elements vs, s => ∀ first before inside,
      run ⟨.element first, .array before :: inside⟩ (s ++ [']']) =
        some ⟨.done (.array (before ++ vs)), inside⟩
  | .member f, s => ∀ first before inside,
      run ⟨.member first before, inside⟩ s = some ⟨.done f.2, .object before f.1 :: inside⟩
  | .members fs, s => ∀ first before inside,
      run ⟨.member first before, inside⟩ (s ++ ['\x7d']) =
        some ⟨.done (.object (before ++ fs)), inside⟩

theorem runs_of_written {p : Phrase} {s : Text} (h : Written p s) : Runs p s := by
  -- an opening character is read by computation, whether or not the item is the first
  induction h with
  | null =>
    intro first inside
    rfl
  | string hb =>
    intro first inside
    exact run_string hb
  | @emptyArray a ha =>
    intro first inside
    have hopen : run ⟨.element true, .array [] :: inside⟩ a = some _ := run_space _ rfl ha
    exact run_append hopen [']']
  | array _ ih =>
    intro first inside
    exact ih true [] inside
  | @emptyObject a ha =>
    intro first inside
    have hopen : run ⟨.member true [], inside⟩ a = some _ := run_space _ rfl ha
    exact run_append hopen ['\x7d']
  | object _ ih =>
    intro first inside
    exact ih true [] inside
  | element ha _ hb ih =>
    intro first inside
    rw [List.append_assoc, run_append (run_space _ rfl ha), run_append (ih first inside),
      run_space _ rfl hb]
  | oneElement _ ih =>
    intro first before inside
    rw [run_append (ih first _)]
    rfl
  | @elements v vs s ss _ _ ih ihs =>
    intro first before inside
    have hcomma : step ⟨.done v, .array before :: inside⟩ ',' =
        some ⟨.element false, .array (before ++ [v]) :: inside⟩ := rfl
    rw [List.append_assoc, run_append (ih first _), List.cons_append, run_cons hcomma, ihs,
      List.append_assoc, List.singleton_append]
  | @member a q b s k v ha hq hb _ ih =>
    intro first before inside
    have hquote : step ⟨.member first before, inside⟩ '"' =
        some ⟨.key before ⟨.plain, []⟩, inside⟩ := rfl
    have hcolon : step ⟨.colon before k, inside⟩ ':' =
        some ⟨.element false, .object before k :: inside⟩ := rfl
    rw [run_append (run_space _ rfl ha), run_cons hquote, List.append_cons,
      run_append (run_key before hq), run_append (run_space _ rfl hb), run_cons hcolon, ih]
  | oneMember _ ih =>
    intro first before inside
    rw [run_append (ih first before inside)]
    rfl
  | @members f fs s ss _ _ ih ihs =>
    intro first before inside
    have hcomma : step ⟨.done f.2, .object before f.1 :: inside⟩ ',' =
        some ⟨.member false (before ++ [f]), inside⟩ := rfl
    rw [List.append_assoc, run_append (ih first before inside), List.cons_append,
      run_cons hcomma, ihs, List.append_assoc, List.singleton_append]

end State

theorem read_of_denotes {t : Text} {v : Json} (h : Denotes t v) : read t = some v := by
  have hrun := State.runs_of_written h false []
  rw [read, hrun]

/-- **The reader conforms**, and even keeps the order of fields. -/
theorem conforming_read : Conforming read :=
  fun _ v h _ => ⟨v, read_of_denotes h, Same.refl v⟩

end WikiStubs.Json
