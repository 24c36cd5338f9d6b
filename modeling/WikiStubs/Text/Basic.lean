/-!
# Text

A text is a list of characters. This module holds what the readers of wiki pages need on it:
classes of characters, lines, words, trimming, searching, digits, and offsets in UTF-8 bytes.

* `Ranges` are ascending ranges of code points, so that a search may stop early and still finds
  what lies in one of them (`inRanges_iff`). `isBlank` is such a class.
* `rawLines` cuts a text after every line feed and loses nothing (`flatten_rawLines`); every
  piece is nonempty (`ne_nil_of_mem_rawLines`).
* `lines` are the raw lines without their line ends.
* `after?` drops a leading mark, `splitAtFirst?` finds a mark, and `untilOnLine?` finds one on
  the same line, after at least one character (`eq_of_untilOnLine?`).
* `digit?` is the value of one digit of a base up to sixteen, `number` that of a text of digits.
-/
namespace WikiStubs

/-- A text: its characters in order. -/
abbrev Text := List Char

instance : Coe String Text := ⟨String.toList⟩

namespace Text

/-! ## Classes of characters -/

/-- Whether every range ends before the next one starts. -/
def areAscending : List (Nat × Nat) → Bool
  | [] => true
  | r :: rs => r.1 ≤ r.2 && rs.head?.all (r.2 < ·.1) && areAscending rs

theorem areAscending_cons {r : Nat × Nat} {rs : List (Nat × Nat)} :
    areAscending (r :: rs) ↔ r.1 ≤ r.2 ∧ rs.head?.all (r.2 < ·.1) ∧ areAscending rs := by
  simp [areAscending, and_assoc]

theorem lt_of_areAscending {r s : Nat × Nat} {rs : List (Nat × Nat)}
    (h : areAscending (r :: rs)) (hs : s ∈ rs) : r.2 < s.1 := by
  induction rs generalizing r with
  | nil => cases hs
  | cons q rs ih =>
    obtain ⟨-, hnext, hrest⟩ := areAscending_cons.1 h
    have hnext : r.2 < q.1 := by simpa using hnext
    rcases List.mem_cons.1 hs with rfl | hs
    · exact hnext
    · have hq : q.1 ≤ q.2 := (areAscending_cons.1 hrest).1
      have hlater : q.2 < s.1 := ih hrest hs
      omega

/-- A class of characters, as ascending ranges of code points. -/
structure Ranges where
  toList : List (Nat × Nat)
  ascending : areAscending toList := by decide +kernel

/-- Looks for `n` up to the first range that starts above it. -/
def searchRanges (n : Nat) : List (Nat × Nat) → Bool
  | [] => false
  | (lo, hi) :: rs => if n < lo then false else n ≤ hi || searchRanges n rs

theorem searchRanges_iff {n : Nat} {rs : List (Nat × Nat)} (h : areAscending rs) :
    searchRanges n rs ↔ ∃ r ∈ rs, r.1 ≤ n ∧ n ≤ r.2 := by
  induction rs with
  | nil => simp [searchRanges]
  | cons r rs ih =>
    have hlater : ∀ s ∈ rs, r.2 < s.1 := fun s hs => lt_of_areAscending h hs
    obtain ⟨hr, -, hrest⟩ := areAscending_cons.1 h
    simp only [searchRanges, List.mem_cons, exists_eq_or_imp]
    split
    · next hlt =>
      have : ¬∃ s ∈ rs, s.1 ≤ n ∧ n ≤ s.2 := by
        rintro ⟨s, hs, hle, -⟩
        have := hlater s hs
        omega
      simp [this, Nat.not_le.2 hlt]
    · next hge => simp [ih hrest, Nat.not_lt.1 hge]

def inRanges (n : Nat) (rs : Ranges) : Bool := searchRanges n rs.toList

theorem inRanges_iff {n : Nat} {rs : Ranges} :
    inRanges n rs ↔ ∃ r ∈ rs.toList, r.1 ≤ n ∧ n ≤ r.2 :=
  searchRanges_iff rs.ascending

/-- The characters of the White_Space property. The zero-width space, the byte order mark and the
information separators are not among them. -/
def blankRanges : Ranges where
  toList :=
    [(0x9, 0xD), (0x20, 0x20), (0x85, 0x85), (0xA0, 0xA0), (0x1680, 0x1680), (0x2000, 0x200A),
      (0x2028, 0x2029), (0x202F, 0x202F), (0x205F, 0x205F), (0x3000, 0x3000)]

/-- A blank: space, tab, line end or any other white space. -/
def isBlank (c : Char) : Bool := inRanges c.toNat blankRanges

/-! ## Sizes -/

def byteSize : Text → Nat
  | [] => 0
  | c :: t => c.utf8Size + byteSize t

@[simp] theorem byteSize_nil : byteSize [] = 0 := rfl

@[simp] theorem byteSize_cons (c : Char) (t : Text) :
    byteSize (c :: t) = c.utf8Size + byteSize t := rfl

@[simp] theorem byteSize_append (s t : Text) : byteSize (s ++ t) = byteSize s + byteSize t := by
  induction s with
  | nil => simp
  | cons c s ih => simp [ih, Nat.add_assoc]

/-! ## Trimming -/

/-- Drops the characters at the end that satisfy `p`. -/
def trimEndBy (p : Char → Bool) (t : Text) : Text := (t.reverse.dropWhile p).reverse

/-- Drops the characters at both ends that satisfy `p`. -/
def trimBy (p : Char → Bool) (t : Text) : Text := trimEndBy p (t.dropWhile p)

def trimEnd (t : Text) : Text := trimEndBy isBlank t

def trim (t : Text) : Text := trimBy isBlank t

/-- Drops one final `c`, if there is one. -/
def dropFinal (c : Char) (t : Text) : Text := if t.getLast? = some c then t.dropLast else t

/-! ## Lines -/

/-- The pieces of the text that end after each line feed; the last one may have none. -/
def rawLines : Text → List Text
  | [] => []
  | c :: cs =>
    if c = '\n' then [c] :: rawLines cs
    else match rawLines cs with
      | [] => [[c]]
      | l :: ls => (c :: l) :: ls

theorem flatten_rawLines (t : Text) : (rawLines t).flatten = t := by
  induction t with
  | nil => rfl
  | cons c cs ih =>
    simp only [rawLines]
    split
    · simp [ih]
    · split <;> simp_all

theorem ne_nil_of_mem_rawLines {t l : Text} (h : l ∈ rawLines t) : l ≠ [] := by
  induction t generalizing l with
  | nil => simp [rawLines] at h
  | cons c cs ih =>
    simp only [rawLines] at h
    split at h
    · rcases List.mem_cons.1 h with rfl | h
      · simp
      · exact ih h
    · cases heq : rawLines cs with
      | nil => simp_all
      | cons k ks =>
        rw [heq] at h
        rcases List.mem_cons.1 h with rfl | h
        · simp
        · exact ih (heq ▸ List.mem_cons_of_mem _ h)

/-- A raw line without its line end: a line feed and one carriage return before it. -/
def dropLineEnd (l : Text) : Text :=
  if l.getLast? = some '\n' then dropFinal '\r' l.dropLast else l

/-- The lines of the text without their line ends. A last line without a line feed keeps its
carriage return, and nothing follows a final line feed. -/
def lines (t : Text) : List Text := (rawLines t).map dropLineEnd

/-! ## Words -/

/-- The words of the text: what stands between blanks. -/
def words (t : Text) : List Text := (t.splitOnP isBlank).filter (· ≠ [])

/-- The words of the text, joined by underscores; mirrors `join_words`. -/
def joinWords (t : Text) : Text := List.intercalate ['_'] (words t)

/-! ## Searching -/

/-- The text after a leading `mark`. -/
def after? : Text → Text → Option Text
  | [], t => some t
  | _ :: _, [] => none
  | m :: mark, c :: t => if m = c then after? mark t else none

theorem after?_eq_some {mark t rest : Text} : after? mark t = some rest ↔ t = mark ++ rest := by
  induction mark generalizing t with
  | nil => simp [after?]
  | cons m mark ih =>
    cases t with
    | nil => simp [after?]
    | cons c t =>
      simp only [after?]
      split
      · next h => simp [ih, h]
      · next h =>
        simp only [List.cons_append, List.cons.injEq, false_iff, not_and, reduceCtorEq]
        exact fun hc => absurd hc.symm h

def startsWith (mark t : Text) : Bool := (after? mark t).isSome

/-- The text before and after the first occurrence of `mark`. -/
def splitAtFirst? (mark : Text) : Text → Option (Text × Text)
  | [] => if mark = [] then some ([], []) else none
  | c :: cs =>
    match after? mark (c :: cs) with
    | some rest => some ([], rest)
    | none => (splitAtFirst? mark cs).map fun (before, rest) => (c :: before, rest)

/-- The text before and after the last `c`. -/
def splitAtLast? (c : Char) : Text → Option (Text × Text)
  | [] => none
  | d :: ds =>
    match splitAtLast? c ds with
    | some (before, rest) => some (d :: before, rest)
    | none => if d = c then some ([], ds) else none

def contains (part t : Text) : Bool := (splitAtFirst? part t).isSome

/-- The text before and after the first occurrence of `mark` that has at least one character
and no line feed before it. -/
def untilOnLine? (mark : Text) : Text → Option (Text × Text)
  | [] => none
  | c :: cs =>
    if c = '\n' then none
    else match after? mark cs with
      | some rest => some ([c], rest)
      | none => (untilOnLine? mark cs).map fun (before, rest) => (c :: before, rest)

theorem eq_of_untilOnLine? {mark t before rest : Text}
    (h : untilOnLine? mark t = some (before, rest)) : t = before ++ mark ++ rest := by
  induction t generalizing before with
  | nil => simp [untilOnLine?] at h
  | cons c cs ih =>
    simp only [untilOnLine?] at h
    split at h
    · cases h
    · split at h
      · next r hr =>
        simp only [Option.some.injEq, Prod.mk.injEq] at h
        obtain ⟨rfl, rfl⟩ := h
        simp [after?_eq_some.1 hr]
      · obtain ⟨⟨b, r⟩, hb, he⟩ := Option.map_eq_some_iff.1 h
        simp only [Prod.mk.injEq] at he
        obtain ⟨rfl, rfl⟩ := he
        simp [ih hb]

/-! ## Digits -/

/-- The value of a hexadecimal digit. -/
def digit? (c : Char) : Option Nat :=
  if c.isDigit then some (c.toNat - '0'.toNat)
  else if 'a' ≤ c ∧ c ≤ 'f' then some (c.toNat - 'a'.toNat + 10)
  else if 'A' ≤ c ∧ c ≤ 'F' then some (c.toNat - 'A'.toNat + 10)
  else none

def areDigits (base : Nat) (t : Text) : Bool := t.all fun c => (digit? c).any (· < base)

def number (base : Nat) (digits : Text) : Nat :=
  digits.foldl (fun n c => base * n + (digit? c).getD 0) 0

end Text
end WikiStubs
