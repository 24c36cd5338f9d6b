import WikiStubs.Json
import WikiStubs.Text.Basic
import Mathlib.Data.List.Forall2

/-!
# What a JSON text denotes

The grammar of JSON texts, as far as values go that are neither numbers nor booleans, and what is
asked of a reader of them.

* `Spells`: how a character of a string can be written, by itself or escaped.
* `Written`: how a value can be written, with blanks between the tokens.
* `Conforming`: a reader that gives back the value of every text of the grammar whose objects have
  each key once. The fields of an object have no order, so the value counts up to theirs (`Same`).

Nothing is asked of a reader about texts that the grammar does not derive. A reader of more values
conforms if it does so on these.
-/
namespace WikiStubs.Json

/-! ## Strings -/

/-- What a character means after a backslash. -/
def short? : Char → Option Char
  | '"' => some '"'
  | '\\' => some '\\'
  | '/' => some '/'
  | 'b' => some '\x08'
  | 'f' => some '\x0c'
  | 'n' => some '\n'
  | 'r' => some '\r'
  | 't' => some '\t'
  | _ => none

/-- The number that four hexadecimal digits spell. -/
def unit? (digits : Text) : Option Nat :=
  if digits.length = 4 ∧ Text.areDigits 16 digits then some (Text.number 16 digits) else none

/-- The first unit of a pair. -/
def isHigh (n : Nat) : Bool := 0xD800 ≤ n && n < 0xDC00

/-- The second unit of a pair. -/
def isLow (n : Nat) : Bool := 0xDC00 ≤ n && n < 0xE000

/-- The number of the character that a pair of units stands for. -/
def joined (high low : Nat) : Nat := 0x10000 + (high - 0xD800) * 0x400 + (low - 0xDC00)

/-- The ways to write a character inside a string. -/
inductive Spells : Text → Char → Prop
  | plain {c : Char} : 32 ≤ c.toNat → c ≠ '"' → c ≠ '\\' → Spells [c] c
  | short {e c : Char} : short? e = some c → Spells ['\\', e] c
  | unit {ds : Text} {c : Char} : unit? ds = some c.toNat → Spells ('\\' :: 'u' :: ds) c
  | pair {ds ds' : Text} {high low : Nat} {c : Char} : unit? ds = some high →
      unit? ds' = some low → isHigh high → isLow low → c.toNat = joined high low →
      Spells ('\\' :: 'u' :: (ds ++ '\\' :: 'u' :: ds')) c

/-- The ways to write a text between the quotes of a string. -/
inductive Quoted : Text → Text → Prop
  | nil : Quoted [] []
  | cons {s b : Text} {c : Char} {t : Text} : Spells s c → Quoted b t → Quoted (s ++ b) (c :: t)

/-! ## Values -/

def isSpace (c : Char) : Bool := c = ' ' || c = '\t' || c = '\n' || c = '\r'

def Space (t : Text) : Prop := ∀ c ∈ t, isSpace c = true

/-- What the grammar derives texts of: a value, a value with space around it, some items of an
array, one field of an object and some fields. -/
inductive Phrase where
  | value (v : Json)
  | element (v : Json)
  | elements (vs : List Json)
  | member (f : Text × Json)
  | members (fs : List (Text × Json))

/-- The ways to write a phrase. -/
inductive Written : Phrase → Text → Prop
  | null : Written (.value .null) "null"
  | string {b t : Text} : Quoted b t → Written (.value (.string t)) ('"' :: (b ++ ['"']))
  | emptyArray {a : Text} : Space a → Written (.value (.array [])) ('[' :: (a ++ [']']))
  | array {vs : List Json} {s : Text} : Written (.elements vs) s →
      Written (.value (.array vs)) ('[' :: (s ++ [']']))
  | emptyObject {a : Text} : Space a →
      Written (.value (.object [])) ('\x7b' :: (a ++ ['\x7d']))
  | object {fs : List (Text × Json)} {s : Text} : Written (.members fs) s →
      Written (.value (.object fs)) ('\x7b' :: (s ++ ['\x7d']))
  | element {a s b : Text} {v : Json} : Space a → Written (.value v) s → Space b →
      Written (.element v) (a ++ s ++ b)
  | oneElement {v : Json} {s : Text} : Written (.element v) s → Written (.elements [v]) s
  | elements {v : Json} {vs : List Json} {s ss : Text} : Written (.element v) s →
      Written (.elements vs) ss → Written (.elements (v :: vs)) (s ++ ',' :: ss)
  | member {a q b s k : Text} {v : Json} : Space a → Quoted q k → Space b →
      Written (.element v) s →
      Written (.member (k, v)) (a ++ '"' :: (q ++ '"' :: (b ++ ':' :: s)))
  | oneMember {f : Text × Json} {s : Text} : Written (.member f) s → Written (.members [f]) s
  | members {f : Text × Json} {fs : List (Text × Json)} {s ss : Text} : Written (.member f) s →
      Written (.members fs) ss → Written (.members (f :: fs)) (s ++ ',' :: ss)

/-- The text is one of the value. -/
def Denotes (t : Text) (v : Json) : Prop := Written (.element v) t

/-! ## Readers -/

/-- In every object of the value each key is there once. -/
inductive Distinct : Json → Prop
  | null : Distinct .null
  | string (t : Text) : Distinct (.string t)
  | array {vs : List Json} : (∀ v ∈ vs, Distinct v) → Distinct (.array vs)
  | object {fs : List (Text × Json)} : (fs.map (·.1)).Nodup → (∀ f ∈ fs, Distinct f.2) →
      Distinct (.object fs)

mutual

/-- The values are the same but for the order of fields. -/
inductive Same : Json → Json → Prop
  | null : Same .null .null
  | string (t : Text) : Same (.string t) (.string t)
  | array {vs ws : List Json} : List.Forall₂ Same vs ws → Same (.array vs) (.array ws)
  | object {fs gs hs : List (Text × Json)} : List.Forall₂ SameField fs gs → gs.Perm hs →
      Same (.object fs) (.object hs)

/-- The fields have one key and values that are the same. -/
inductive SameField : Text × Json → Text × Json → Prop
  | intro {k : Text} {v w : Json} : Same v w → SameField (k, v) (k, w)

end

/-- A reader that understands the grammar. -/
def Conforming (read : Text → Option Json) : Prop :=
  ∀ t v, Denotes t v → v.Distinct → ∃ w, read t = some w ∧ v.Same w

mutual

theorem Same.refl : ∀ v : Json, v.Same v
  | .null => .null
  | .string t => .string t
  | .array vs => .array (forall₂_same_refl vs)
  | .object fs => .object (forall₂_sameField_refl fs) (.refl fs)

theorem forall₂_same_refl : ∀ vs : List Json, List.Forall₂ Same vs vs
  | [] => .nil
  | v :: vs => .cons (Same.refl v) (forall₂_same_refl vs)

theorem forall₂_sameField_refl : ∀ fs : List (Text × Json), List.Forall₂ SameField fs fs
  | [] => .nil
  | (_, v) :: fs => .cons (.intro (Same.refl v)) (forall₂_sameField_refl fs)

end

end WikiStubs.Json
