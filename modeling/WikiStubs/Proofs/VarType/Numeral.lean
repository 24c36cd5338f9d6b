import WikiStubs.Proofs.VarType

/-!
# The parts of a decimal literal

A decimal literal has a minus sign or none, digits, and behind them a point with more digits or
nothing (`Numeral`). The reader accepts exactly the texts that such parts make up, and no text is
made up of different parts (`isDecimal_iff_numeral`): the sign shows at the start
(`Numeral.negative_iff`), and the first digits end where a character stands that is no digit
(`Numeral.takeWhile_unsigned`).

Beside its digits a literal has its sign and its point, and nothing else (`Numeral.filter_text`).
Digits can be told from UTF-8 bytes as well as from characters, because the bytes of a character
beyond ASCII are beyond ASCII themselves (`isDigits_iff_bytes`).
-/
namespace WikiStubs.VarType

/-- The parts of a decimal literal. -/
@[ext]
structure Numeral where
  negative : Bool
  whole : Text
  fraction : Option Text
  whole_digits : Digits whole
  fraction_digits : ∀ ds ∈ fraction, Digits ds

namespace Numeral

def sign (n : Numeral) : Text := if n.negative then ['-'] else []

def point (n : Numeral) : Text := if n.fraction.isSome then ['.'] else []

def unsigned (n : Numeral) : Text := n.whole ++ n.fraction.elim [] ('.' :: ·)

def text (n : Numeral) : Text := n.sign ++ n.unsigned

/-! ## The texts of numerals -/

theorem unsigned_of_parts (n : Numeral) : Unsigned n.unsigned := by
  obtain ⟨_, whole, fraction, hwhole, hfraction⟩ := n
  cases fraction with
  | none =>
    rw [unsigned, Option.elim_none, List.append_nil]
    exact .whole hwhole
  | some ds => exact .fraction hwhole (hfraction ds rfl)

theorem decimal_text (n : Numeral) : Decimal n.text := by
  have hunsigned := n.unsigned_of_parts
  unfold text sign
  split
  · exact .negative hunsigned
  · exact .plain hunsigned

theorem exists_unsigned {t : Text} (negative : Bool) (h : Unsigned t) :
    ∃ n : Numeral, n.negative = negative ∧ n.unsigned = t := by
  cases h with
  | whole h => exact ⟨⟨negative, t, none, h, by simp⟩, rfl, List.append_nil t⟩
  | @fraction ds fs h h' => exact ⟨⟨negative, ds, some fs, h, by simpa using h'⟩, rfl, rfl⟩

/-- Every decimal literal is made up of parts. -/
theorem exists_text {t : Text} (h : Decimal t) : ∃ n : Numeral, n.text = t := by
  cases h with
  | plain h =>
    obtain ⟨n, hsign, rfl⟩ := exists_unsigned false h
    exact ⟨n, by simp [text, sign, hsign]⟩
  | negative h =>
    obtain ⟨n, hsign, rfl⟩ := exists_unsigned true h
    exact ⟨n, by simp [text, sign, hsign]⟩

/-! ## The parts of a text -/

/-- The sign is the only part that starts with a minus sign. -/
theorem negative_iff (n : Numeral) : n.negative = true ↔ n.text.head? = some '-' := by
  unfold text sign
  constructor
  · intro h
    rw [if_pos h]
    rfl
  · intro h
    by_contra hplain
    obtain ⟨c, hc, hdigit⟩ := n.unsigned_of_parts.head?
    rw [if_neg hplain, List.nil_append, hc] at h
    obtain rfl := Option.some.inj h
    exact absurd hdigit (by decide)

/-- The first digits end at the point, or where the literal ends. -/
theorem takeWhile_unsigned (n : Numeral) : n.unsigned.takeWhile isDigit = n.whole := by
  rw [unsigned, List.takeWhile_append_of_pos fun c hc => n.whole_digits.isDigit_of_mem hc]
  cases n.fraction with
  | none => exact List.append_nil _
  | some ds =>
    rw [Option.elim_some, List.takeWhile_cons_of_neg (by decide), List.append_nil]

/-- The parts are told by the text. -/
theorem text_inj {m n : Numeral} (h : m.text = n.text) : m = n := by
  have hnegative : m.negative = n.negative := by
    rw [Bool.eq_iff_iff, m.negative_iff, n.negative_iff, h]
  have hunsigned : m.unsigned = n.unsigned := by
    unfold text sign at h
    rw [hnegative] at h
    exact List.append_cancel_left h
  have hwhole : m.whole = n.whole := by
    rw [← m.takeWhile_unsigned, ← n.takeWhile_unsigned, hunsigned]
  have hfraction : m.fraction = n.fraction := by
    unfold unsigned at hunsigned
    rw [hwhole] at hunsigned
    have hrest := List.append_cancel_left hunsigned
    revert hrest
    cases m.fraction <;> cases n.fraction <;> simp
  exact Numeral.ext hnegative hwhole hfraction

/-- What is no digit in a literal is its sign and its point. -/
theorem filter_text (n : Numeral) : n.text.filter (fun c => !isDigit c) = n.sign ++ n.point := by
  have hdigits : ∀ {ds : Text}, Digits ds → ds.filter (fun c => !isDigit c) = [] := by
    intro ds h
    rw [List.filter_eq_nil_iff]
    intro c hc
    simp [h.isDigit_of_mem hc]
  have hsign : n.sign.filter (fun c => !isDigit c) = n.sign := by
    unfold sign
    split <;> decide
  have hfraction : (n.fraction.elim [] ('.' :: ·)).filter (fun c => !isDigit c) = n.point := by
    have hdigit := n.fraction_digits
    unfold point
    cases hcases : n.fraction with
    | none => rfl
    | some ds =>
      rw [Option.elim_some, List.filter_cons_of_pos (by decide), hdigits (hdigit ds hcases)]
      rfl
  rw [text, unsigned, List.filter_append, List.filter_append, hsign, hdigits n.whole_digits,
    hfraction, List.nil_append]

end Numeral

/-! ## Digits as bytes -/

/-- An ASCII digit as a byte. -/
def isDigitByte (b : UInt8) : Bool := 0x30 ≤ b && b ≤ 0x39

theorem isDigit_iff {c : Char} : isDigit c = true ↔ 0x30 ≤ c.toNat ∧ c.toNat ≤ 0x39 := by
  simp only [isDigit, Char.le_def, UInt32.le_iff_toNat_le, Bool.and_eq_true, decide_eq_true_eq]
  rfl

theorem isDigitByte_iff {b : UInt8} : isDigitByte b = true ↔ 0x30 ≤ b.toNat ∧ b.toNat ≤ 0x39 := by
  simp only [isDigitByte, UInt8.le_iff_toNat_le, Bool.and_eq_true, decide_eq_true_eq]
  rfl

/-- All bytes of a character beyond ASCII have their highest bit set. -/
theorem le_of_mem_utf8EncodeChar {c : Char} {b : UInt8} (hc : 0x80 ≤ c.toNat)
    (hb : b ∈ String.utf8EncodeChar c) : 0x80 ≤ b.toNat := by
  have hbyte : ∀ {low high n : Nat}, 0x80 ≤ low → 0 < high → low + high ≤ 0x100 →
      0x80 ≤ (UInt8.ofNat (n % high + low)).toNat := by
    intro low high n hlow hpos hhigh
    have hlt := Nat.mod_lt n hpos
    rw [UInt8.toNat_ofNat', Nat.mod_eq_of_lt (by omega)]
    omega
  have hval : c.val.toNat = c.toNat := rfl
  simp only [String.utf8EncodeChar, hval] at hb
  rw [if_neg (by omega)] at hb
  -- two, three or four bytes
  split at hb
  · simp only [List.mem_cons, List.not_mem_nil, or_false] at hb
    rcases hb with rfl | rfl <;> exact hbyte (by decide) (by decide) (by decide)
  · split at hb
    · simp only [List.mem_cons, List.not_mem_nil, or_false] at hb
      rcases hb with rfl | rfl | rfl <;> exact hbyte (by decide) (by decide) (by decide)
    · simp only [List.mem_cons, List.not_mem_nil, or_false] at hb
      rcases hb with rfl | rfl | rfl | rfl <;> exact hbyte (by decide) (by decide) (by decide)

theorem isDigit_iff_bytes {c : Char} :
    isDigit c = true ↔ ∀ b ∈ String.utf8EncodeChar c, isDigitByte b = true := by
  simp only [isDigit_iff, isDigitByte_iff]
  rcases Nat.lt_or_ge c.toNat 0x80 with hc | hc
  · have hsize : c.utf8Size = 1 :=
      Char.utf8Size_eq_one_iff.2 (UInt32.le_iff_toNat_le.2 (Nat.le_of_lt_succ hc))
    have hval : c.val.toNat = c.toNat := rfl
    have hbyte : c.val.toUInt8.toNat = c.toNat := by
      rw [UInt32.toNat_toUInt8, hval]
      exact Nat.mod_eq_of_lt (by omega)
    rw [String.utf8EncodeChar_eq_singleton hsize, List.forall_mem_singleton, hbyte]
  · constructor
    · omega
    · intro h
      obtain ⟨b, bs, hbytes⟩ := List.exists_cons_of_ne_nil (String.utf8EncodeChar_ne_nil (c := c))
      have hmem : b ∈ String.utf8EncodeChar c := hbytes ▸ List.mem_cons_self ..
      have hdigit := h b hmem
      have hbeyond := le_of_mem_utf8EncodeChar hc hmem
      omega

/-- A text is all digits if its bytes are. -/
theorem isDigits_iff_bytes {t : Text} : isDigits t = true ↔
    t ≠ [] ∧ ∀ b ∈ t.flatMap String.utf8EncodeChar, isDigitByte b = true := by
  simp only [isDigits, Bool.and_eq_true, decide_eq_true_eq, List.all_eq_true, isDigit_iff_bytes,
    List.forall_mem_flatMap]

/-! ## Decimal literals -/

/-- **Decimal literals.** A text is taken for a decimal literal exactly if it is a minus sign or
nothing, one or more ASCII digits, and nothing or a point and one or more ASCII digits. These parts
are then determined. Any other text is refused, since a literal has no character beside its digits
but the one sign and the one point: no second one of these, no exponent, no other digit and no
blank. Whether there are one or more digits in a place can be seen from characters or from bytes. -/
theorem isDecimal_iff_numeral (t : Text) : (isDecimal t = true ↔ ∃! n : Numeral, n.text = t) ∧
    (∀ n : Numeral, n.text.filter (fun c => !isDigit c) = n.sign ++ n.point) ∧
    ∀ ds : Text, isDigits ds = true ↔
      ds ≠ [] ∧ ∀ b ∈ ds.flatMap String.utf8EncodeChar, isDigitByte b = true := by
  refine ⟨?_, Numeral.filter_text, fun ds => isDigits_iff_bytes⟩
  rw [isDecimal_iff]
  constructor
  · intro h
    obtain ⟨n, rfl⟩ := Numeral.exists_text h
    exact ⟨n, rfl, fun m hm => Numeral.text_inj hm⟩
  · rintro ⟨n, rfl, -⟩
    exact n.decimal_text

example : isDecimal "-0.25" = true ∧ isDecimal "--1" = false ∧ isDecimal "1.2.3" = false ∧
    isDecimal "1." = false ∧ isDecimal "\u0663" = false := by
  decide

end WikiStubs.VarType
