import WikiStubs.Proofs.Text.Trim
import WikiStubs.Text.Word

/-!
# Identifiers

Names of ASCII letters, digits and underscores. None of their characters is a blank or one of the
marks that pages put around names, so every reader takes an identifier as it stands.
-/
namespace WikiStubs

def isIdentifierChar (c : Char) : Bool :=
  '0' ≤ c && c ≤ '9' || 'A' ≤ c && c ≤ 'Z' || c == '_' || 'a' ≤ c && c ≤ 'z'

/-- A nonempty name of ASCII letters, digits and underscores. -/
def IsIdentifier (t : Text) : Prop := t ≠ [] ∧ ∀ c ∈ t, isIdentifierChar c = true

instance (t : Text) : Decidable (IsIdentifier t) :=
  decidable_of_iff (t ≠ [] ∧ t.all isIdentifierChar = true) (by rw [List.all_eq_true, IsIdentifier])

theorem isIdentifierChar_iff {c : Char} : isIdentifierChar c = true ↔
    (0x30 ≤ c.toNat ∧ c.toNat ≤ 0x39) ∨ (0x41 ≤ c.toNat ∧ c.toNat ≤ 0x5A) ∨ c.toNat = 0x5F ∨
      (0x61 ≤ c.toNat ∧ c.toNat ≤ 0x7A) := by
  have hunderscore : c = '_' ↔ c.toNat = 0x5F := by rw [← Char.toNat_inj]; rfl
  simp only [isIdentifierChar, Char.le_def, UInt32.le_iff_toNat_le, Bool.or_eq_true,
    Bool.and_eq_true, decide_eq_true_eq, beq_iff_eq, hunderscore, or_assoc]
  rfl

theorem isWordChar_of_isIdentifierChar {c : Char} (h : isIdentifierChar c = true) :
    Text.isWordChar c = true := by
  have hascii : ∀ r ∈ [(0x30, 0x39), (0x41, 0x5A), (0x5F, 0x5F), (0x61, 0x7A)],
      r ∈ Text.wordRanges.toList := by decide +kernel
  refine Text.inRanges_iff.2 ?_
  rcases isIdentifierChar_iff.1 h with h | h | h | h
  · exact ⟨(0x30, 0x39), hascii _ (by simp), h⟩
  · exact ⟨(0x41, 0x5A), hascii _ (by simp), h⟩
  · exact ⟨(0x5F, 0x5F), hascii _ (by simp), h.ge, h.le⟩
  · exact ⟨(0x61, 0x7A), hascii _ (by simp), h⟩

/-- No character of a word is blank. -/
theorem isBlank_of_isWordChar {c : Char} (h : Text.isWordChar c = true) :
    Text.isBlank c = false := by
  have hapart : ∀ r ∈ Text.blankRanges.toList, ∀ s ∈ Text.wordRanges.toList,
      r.2 < s.1 ∨ s.2 < r.1 := by decide +kernel
  by_contra hblank
  obtain ⟨s, hs, hs1, hs2⟩ := Text.inRanges_iff.1 h
  obtain ⟨r, hr, hr1, hr2⟩ := Text.inRanges_iff.1 (Bool.not_eq_false _ ▸ hblank)
  have := hapart r hr s hs
  omega

theorem isBlank_of_isIdentifierChar {c : Char} (h : isIdentifierChar c = true) :
    Text.isBlank c = false :=
  isBlank_of_isWordChar (isWordChar_of_isIdentifierChar h)

namespace IsIdentifier

variable {t : Text} {d : Char}

theorem not_mem (h : IsIdentifier t) (hd : isIdentifierChar d = false) : d ∉ t := by
  intro hmem
  rw [h.2 d hmem] at hd
  cases hd

theorem isBlank_eq_false (h : IsIdentifier t) : ∀ c ∈ t, Text.isBlank c = false :=
  fun c hc => isBlank_of_isIdentifierChar (h.2 c hc)

theorem joinWords (h : IsIdentifier t) : Text.joinWords t = t :=
  Text.joinWords_of_word h.1 h.isBlank_eq_false

end IsIdentifier
end WikiStubs
