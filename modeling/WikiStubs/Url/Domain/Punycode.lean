import WikiStubs.Text.Basic

/-!
# Punycode

A text as letters, digits and hyphens: its ASCII characters, a hyphen if there are any,
and where the others are to be put in, in the order of their code points. Each is written as the
number of places that are passed over since the last one, where going once through the text leads
to the next code point.

* `Punycode.encode` writes a text, `Punycode.decode?` reads it back.
-/
namespace WikiStubs.Punycode

/-- The number of digits: the letters and then the figures. -/
def base : Nat := 36

def firstCode : Nat := 0x80

def firstBias : Nat := 72

def maxNumber : Nat := 0xFFFFFFFF

/-! ## Numbers -/

def digitOf (value : Nat) : Char :=
  if value < 26 then Char.ofNat ('a'.toNat + value) else Char.ofNat ('0'.toNat + (value - 26))

def valueOf? (digit : Char) : Option Nat :=
  if digit.isDigit then some (digit.toNat - '0'.toNat + 26)
  else if digit.isAlpha then some (digit.toLower.toNat - 'a'.toNat)
  else none

/-- The value below which a digit is the last one of its number, given how many come before. -/
def threshold (bias before : Nat) : Nat := max 1 (min 26 (base * (before + 1) - bias))

/-- Divides a number until it is small, and counts the divisions. -/
def scaleDown (n : Nat) : Nat × Nat :=
  if 455 < n then
    let (rest, count) := scaleDown (n / 35)
    (rest, count + 1)
  else (n, 0)
termination_by n
decreasing_by exact Nat.div_lt_self (by omega) (by omega)

/-- The bias after a number, given the length of the text so far. -/
def nextBias (isFirst : Bool) (n length : Nat) : Nat :=
  let n := if isFirst then n / 700 else n / 2
  let (rest, count) := scaleDown (n + n / length)
  base * count + base * rest / (rest + 38)

/-- The digits of a number, the lowest first, given how many come before. -/
def digitsOf (bias before n : Nat) : Text :=
  let t := threshold bias before
  if n < t then [digitOf n]
  else digitOf (t + (n - t) % (base - t)) :: digitsOf bias (before + 1) ((n - t) / (base - t))
termination_by n
decreasing_by
  have h1 : 1 ≤ threshold bias before := Nat.le_max_left 1 _
  have h2 := Nat.div_le_self (n - threshold bias before) (base - threshold bias before)
  omega

/-- The number that digits spell, the lowest first, and what follows them, given how many come
before, the weight of the first and the sum so far. -/
def numberOf? (bias before weight sum : Nat) : Text → Option (Nat × Text)
  | [] => none
  | c :: t =>
    match valueOf? c with
    | none => none
    | some value =>
      let sum := sum + value * weight
      if maxNumber < sum then none
      else if value < threshold bias before then some (sum, t)
      else
        let weight := weight * (base - threshold bias before)
        if maxNumber < weight then none else numberOf? bias (before + 1) weight sum t

theorem length_lt_of_numberOf? {bias before weight sum n : Nat} {t rest : Text}
    (h : numberOf? bias before weight sum t = some (n, rest)) : rest.length < t.length := by
  induction t generalizing before weight sum with
  | nil => simp [numberOf?] at h
  | cons c t ih =>
    simp only [numberOf?] at h
    split at h
    · cases h
    · split at h
      · cases h
      · split at h
        · simp only [Option.some.injEq, Prod.mk.injEq] at h
          simp [← h.2]
        · split at h
          · cases h
          · have := ih h
            simp only [List.length_cons]
            omega

/-! ## Writing -/

/-- Where the writing of a text stands: what has been written, the places passed over since the
last character, the bias, and how many characters are done. -/
structure Writing where
  written : Text
  passed : Nat
  bias : Nat
  done : Nat

/-- Passes a character while those with the code point `code` are written, given the number of
ASCII characters. -/
def Writing.pass (ascii code : Nat) (w : Writing) (c : Char) : Writing :=
  if c.toNat < code then { w with passed := w.passed + 1 }
  else if c.toNat = code then
    { written := w.written ++ digitsOf w.bias 0 w.passed
      passed := 0
      bias := nextBias (w.done = ascii) w.passed (w.done + 1)
      done := w.done + 1 }
  else w

/-- Writes the characters of a text with the given code points, which ascend from `next` on. -/
def writeCodes (t : Text) (ascii next : Nat) (w : Writing) : List Nat → Text
  | [] => w.written
  | code :: codes =>
    let w := { w with passed := w.passed + (code - next) * (w.done + 1) }
    let w := t.foldl (Writing.pass ascii code) w
    writeCodes t ascii (code + 1) { w with passed := w.passed + 1 } codes

/-- Puts a number into an ascending list, unless it is there. -/
def insertCode (n : Nat) : List Nat → List Nat
  | [] => [n]
  | m :: ms => if n < m then n :: m :: ms else if n = m then m :: ms else m :: insertCode n ms

/-- The code points beyond ASCII of a text, ascending. -/
def codesOf (t : Text) : List Nat :=
  ((t.map Char.toNat).filter (firstCode ≤ ·)).foldr insertCode []

def encode (t : Text) : Text :=
  let ascii := t.filter (·.toNat < firstCode)
  let front := if ascii = [] then [] else ascii ++ ['-']
  writeCodes t ascii.length firstCode ⟨front, 0, firstBias, ascii.length⟩ (codesOf t)

/-! ## Reading -/

/-- Puts the characters that digits describe into a text, given the bias, and the code point and
the place from which the next one is counted. -/
def insertAll? (bias code place : Nat) (isFirst : Bool) (t : Text) (digits : Text) : Option Text :=
  if digits = [] then some t
  else
    match _h : numberOf? bias 0 1 place digits with
    | none => none
    | some (n, rest) =>
      let length := t.length + 1
      let code := code + n / length
      if code.isValidChar then
        insertAll? (nextBias isFirst (n - place) length) code (n % length + 1) false
          (t.insertIdx (n % length) (Char.ofNat code)) rest
      else none
termination_by digits.length
decreasing_by exact length_lt_of_numberOf? _h

def decode? (t : Text) : Option Text :=
  let (ascii, digits) :=
    match Text.splitAtLast? '-' t with
    | some ([], _) => ([], t)
    | some (ascii, digits) => (ascii, digits)
    | none => ([], t)
  if ascii.all (·.toNat < firstCode) then
    insertAll? firstBias firstCode 0 true (ascii.map Char.toLower) digits
  else none

end WikiStubs.Punycode
