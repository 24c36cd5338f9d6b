import WikiStubs.Text.Mark
import WikiStubs.Url.Domain.Punycode
import WikiStubs.Url.Domain.Spelling

/-!
# Domain names

A domain name consists of labels with dots between them. Servers are found by names in ASCII, so a
label with other characters is written in an encoded form, with a prefix that tells it apart.

* A label that mixes writing directions could be shown in an order that misleads. If any character
  of a domain name runs from right to left, each label must run in one direction, start with a
  letter of it, and end with one or with a digit (`Direction.areUniform`).
* The two joiners do not show themselves, so they may stand only where they change how their
  neighbours are written: after a sign that takes the vowel away from a letter, and the one that
  keeps letters from joining also between letters that would join (`joinersFit`).
* `Domain.ascii?` gives the ASCII form of a name, or nothing if the name is refused.

Directions and joining letters are those of Unicode 18.0, for the characters that may occur in a
domain name.
-/
namespace WikiStubs.Domain
open Text

/-! ## Direction -/

/-- How a character takes part in the direction of a line. -/
inductive Direction where
  | left
  | right
  | digit
  /-- A digit of Arabic, which makes a line run from right to left, but itself does not. -/
  | arabicDigit
  | neutral
  /-- A mark, which goes where the character before it goes. -/
  | mark
  deriving DecidableEq

namespace Direction

/-- Ranges of the characters that run from right to left. -/
def rightRanges : Ranges where
  toList :=
    [(0x5BE, 0x5BE), (0x5C0, 0x5C0), (0x5C3, 0x5C3), (0x5C6, 0x5C6), (0x5D0, 0x5F4), (0x608, 0x608),
      (0x60B, 0x60B), (0x60D, 0x60D), (0x61B, 0x64A), (0x66D, 0x66F), (0x671, 0x6D5),
      (0x6E5, 0x6E6), (0x6EE, 0x6EF), (0x6FA, 0x710), (0x712, 0x72F), (0x74D, 0x7A5),
      (0x7B1, 0x7EA), (0x7F4, 0x7F5), (0x7FA, 0x7FA), (0x7FE, 0x815), (0x81A, 0x81A),
      (0x824, 0x824), (0x828, 0x828), (0x830, 0x858), (0x85E, 0x88F), (0x8A0, 0x8C9),
      (0xFBB2, 0xFBC2), (0xFE73, 0xFE73), (0x10800, 0x1091B), (0x10920, 0x10A00),
      (0x10A10, 0x10A35), (0x10A40, 0x10AE4), (0x10AEB, 0x10B35), (0x10B40, 0x10D23),
      (0x10D4A, 0x10D4F), (0x10D6F, 0x10D8F), (0x10E80, 0x10EA9), (0x10EAD, 0x10EC7),
      (0x10ED9, 0x10EEE), (0x10F00, 0x10F45), (0x10F51, 0x10F81), (0x10F86, 0x10FF6),
      (0x1E800, 0x1E8CF), (0x1E922, 0x1E943), (0x1E94B, 0x1ED3D)]

def arabicDigitRanges : Ranges where
  toList :=
    [(0x660, 0x669), (0x66B, 0x66C), (0x10D30, 0x10D49), (0x10E60, 0x10E7E), (0x10ECB, 0x10ECB),
      (0x10EF0, 0x10EF0)]

/-- Ranges of the other digits that are not letters of a direction. -/
def digitRanges : Ranges where
  toList :=
    [(0x30, 0x39), (0x6F0, 0x6F9), (0x102E1, 0x102FB)]

def neutralRanges : Ranges where
  toList :=
    [(0x21, 0x2F), (0x3A, 0x60), (0x7B, 0x7E), (0xA1, 0xD7), (0xF7, 0xF7), (0x2B9, 0x2BA),
      (0x2C2, 0x2CF), (0x2D2, 0x2ED), (0x2EF, 0x2FF), (0x375, 0x375), (0x3F6, 0x3F6),
      (0x58A, 0x58F), (0x606, 0x607), (0x609, 0x60A), (0x60C, 0x60C), (0x60E, 0x60F),
      (0x66A, 0x66A), (0x6DE, 0x6DE), (0x6E9, 0x6E9), (0x7F6, 0x7F9), (0x9F2, 0x9F3),
      (0x9FB, 0x9FB), (0xAF1, 0xAF1), (0xBF3, 0xBFA), (0xC78, 0xC7E), (0xE3F, 0xE3F),
      (0xF3A, 0xF3D), (0x1390, 0x1399), (0x1400, 0x1400), (0x169B, 0x169C), (0x17DB, 0x17DB),
      (0x17F0, 0x180A), (0x1940, 0x1945), (0x19DE, 0x19FF), (0x200C, 0x20C4), (0x2104, 0x214D),
      (0x218A, 0x2335), (0x237B, 0x2394), (0x2396, 0x26AB), (0x26AD, 0x27FF), (0x2900, 0x2BFF),
      (0x2CE5, 0x2CEA), (0x2CF9, 0x2CFF), (0x2E00, 0x3004), (0x3008, 0x3020), (0x3030, 0x3030),
      (0x3037, 0x3037), (0x303D, 0x303F), (0x30A0, 0x30A0), (0x30FB, 0x30FB), (0x31C0, 0x31E5),
      (0x4DC0, 0x4DFF), (0xA490, 0xA4C6), (0xA60D, 0xA60F), (0xA673, 0xA673), (0xA67E, 0xA67F),
      (0xA700, 0xA721), (0xA788, 0xA788), (0xA828, 0xA82B), (0xA838, 0xA839), (0xA874, 0xA877),
      (0xAB6A, 0xAB6B), (0xFBC3, 0xFDFF), (0xFE45, 0xFE46), (0x10101, 0x10101), (0x10140, 0x1018C),
      (0x10190, 0x101A0), (0x1091F, 0x1091F), (0x10B39, 0x10B3F), (0x10D6E, 0x10D6E),
      (0x10ED0, 0x10ED8), (0x11052, 0x11065), (0x11660, 0x1166C), (0x11FD5, 0x11FF1),
      (0x16FE2, 0x16FE2), (0x1CC00, 0x1CEFD), (0x1D1E9, 0x1D1EA), (0x1D200, 0x1D241),
      (0x1D245, 0x1D245), (0x1D300, 0x1D356), (0x1DB00, 0x1DB1C), (0x1E2FF, 0x1E2FF),
      (0x1EEF0, 0x1F12F), (0x1F16D, 0x1F16F), (0x1F1AD, 0x1F1AD), (0x1F260, 0x1F7D9),
      (0x1F7DB, 0x1FBFA)]

def leftMarkRanges : Ranges where
  toList :=
    [(0xCBF, 0xCBF), (0xCC6, 0xCC6), (0x11A07, 0x11A08), (0x11C3F, 0x11C3F)]

def ofChar (c : Char) : Direction :=
  let n := c.toNat
  if inRanges n rightRanges then right
  else if inRanges n arabicDigitRanges then arabicDigit
  else if inRanges n digitRanges then digit
  else if inRanges n neutralRanges then neutral
  else if isNonspacing c && !inRanges n leftMarkRanges then mark
  else left

/-- The directions of a label without the marks at its end. -/
def core (label : List Direction) : List Direction :=
  (label.reverse.dropWhile (· = mark)).reverse

/-- Whether the last direction of a label, but for marks, is one of those given. -/
def endsIn (allowed label : List Direction) : Bool :=
  (core label).getLast?.any (allowed.contains ·)

def isWithin (allowed label : List Direction) : Bool := label.all (allowed.contains ·)

/-- Whether a label that stands among others from right to left runs in one direction. -/
def isUniform (label : List Direction) : Bool :=
  match label with
  | [] => true
  | left :: _ => isWithin [left, digit, neutral, mark] label && endsIn [left, digit] label
  | right :: _ =>
    isWithin [right, arabicDigit, digit, neutral, mark] label &&
      endsIn [right, arabicDigit, digit] label &&
      !(label.contains digit && label.contains arabicDigit)
  | _ => false

/-- Whether some label holds a character that makes a line run from right to left. -/
def anyRight (labels : List (List Direction)) : Bool :=
  labels.any fun label => label.contains right || label.contains arabicDigit

/-- Whether the labels of a domain name may stand together. -/
def areUniform (labels : List (List Direction)) : Bool :=
  !anyRight labels || labels.all isUniform

end Direction

/-! ## Joiners -/

/-- Ranges of the letters that join on both sides. -/
def bothJoiningRanges : Ranges where
  toList :=
    [(0x620, 0x620), (0x626, 0x626), (0x628, 0x628), (0x62A, 0x62E), (0x633, 0x63F), (0x641, 0x647),
      (0x649, 0x64A), (0x66E, 0x66F), (0x679, 0x687), (0x69A, 0x6BF), (0x6C1, 0x6C2),
      (0x6CC, 0x6CC), (0x6CE, 0x6CE), (0x6D0, 0x6D1), (0x6FA, 0x6FC), (0x6FF, 0x6FF),
      (0x712, 0x714), (0x71A, 0x71D), (0x71F, 0x727), (0x729, 0x729), (0x72B, 0x72B),
      (0x72D, 0x72E), (0x74E, 0x758), (0x75C, 0x76A), (0x76D, 0x770), (0x772, 0x772),
      (0x775, 0x777), (0x77A, 0x77F), (0x7CA, 0x7EA), (0x841, 0x845), (0x848, 0x848),
      (0x84A, 0x853), (0x855, 0x855), (0x860, 0x860), (0x862, 0x865), (0x868, 0x868),
      (0x886, 0x886), (0x889, 0x88D), (0x88F, 0x88F), (0x8A0, 0x8A9), (0x8AF, 0x8B0),
      (0x8B3, 0x8B8), (0x8BA, 0x8C8), (0x1807, 0x1807), (0x1820, 0x1878), (0x1887, 0x18A8),
      (0x18AA, 0x18AA), (0xA840, 0xA871), (0x10AC0, 0x10AC4), (0x10AD3, 0x10AD6),
      (0x10AD8, 0x10ADC), (0x10ADE, 0x10AE0), (0x10AEB, 0x10AEE), (0x10B80, 0x10B80),
      (0x10B82, 0x10B82), (0x10B86, 0x10B88), (0x10B8A, 0x10B8B), (0x10B8D, 0x10B8D),
      (0x10B90, 0x10B90), (0x10BAD, 0x10BAE), (0x10D01, 0x10D21), (0x10D23, 0x10D23),
      (0x10EC3, 0x10EC4), (0x10EC6, 0x10EC7), (0x10F30, 0x10F32), (0x10F34, 0x10F44),
      (0x10F51, 0x10F53), (0x10F70, 0x10F73), (0x10F76, 0x10F81), (0x10FB0, 0x10FB0),
      (0x10FB2, 0x10FB3), (0x10FB8, 0x10FB8), (0x10FBB, 0x10FBC), (0x10FBE, 0x10FBF),
      (0x10FC1, 0x10FC1), (0x10FC4, 0x10FC4), (0x10FCA, 0x10FCA), (0x1E922, 0x1E943)]

/-- Ranges of the letters that join only what follows. -/
def forwardJoiningRanges : Ranges where
  toList :=
    [(0xA872, 0xA872), (0x10ACD, 0x10ACD), (0x10AD7, 0x10AD7), (0x10D00, 0x10D00),
      (0x10ED9, 0x10EEE), (0x10FCB, 0x10FCB)]

/-- Ranges of the letters that join only what precedes. -/
def backwardJoiningRanges : Ranges where
  toList :=
    [(0x622, 0x625), (0x627, 0x627), (0x629, 0x629), (0x62F, 0x632), (0x648, 0x648), (0x671, 0x673),
      (0x688, 0x699), (0x6C0, 0x6C0), (0x6C3, 0x6CB), (0x6CD, 0x6CD), (0x6CF, 0x6CF),
      (0x6D2, 0x6D3), (0x6D5, 0x6D5), (0x6EE, 0x6EF), (0x710, 0x710), (0x715, 0x719),
      (0x71E, 0x71E), (0x728, 0x728), (0x72A, 0x72A), (0x72C, 0x72C), (0x72F, 0x72F),
      (0x74D, 0x74D), (0x759, 0x75B), (0x76B, 0x76C), (0x771, 0x771), (0x773, 0x774),
      (0x778, 0x779), (0x840, 0x840), (0x846, 0x847), (0x849, 0x849), (0x854, 0x854),
      (0x856, 0x858), (0x867, 0x867), (0x869, 0x882), (0x88E, 0x88E), (0x8AA, 0x8AC),
      (0x8AE, 0x8AE), (0x8B1, 0x8B2), (0x8B9, 0x8B9), (0x10AC5, 0x10AC5), (0x10AC7, 0x10AC7),
      (0x10AC9, 0x10ACA), (0x10ACE, 0x10AD2), (0x10ADD, 0x10ADD), (0x10AE1, 0x10AE1),
      (0x10AE4, 0x10AE4), (0x10AEF, 0x10AEF), (0x10B81, 0x10B81), (0x10B83, 0x10B85),
      (0x10B89, 0x10B89), (0x10B8C, 0x10B8C), (0x10B8E, 0x10B8F), (0x10B91, 0x10B91),
      (0x10BA9, 0x10BAC), (0x10D22, 0x10D22), (0x10EC2, 0x10EC2), (0x10F33, 0x10F33),
      (0x10F54, 0x10F54), (0x10F74, 0x10F75), (0x10FB4, 0x10FB6), (0x10FB9, 0x10FBA),
      (0x10FBD, 0x10FBD), (0x10FC2, 0x10FC3), (0x10FC9, 0x10FC9)]

def joinsForward (c : Char) : Bool :=
  inRanges c.toNat bothJoiningRanges || inRanges c.toNat forwardJoiningRanges

def joinsBackward (c : Char) : Bool :=
  inRanges c.toNat bothJoiningRanges || inRanges c.toNat backwardJoiningRanges

/-- A character through which letters join. -/
def isTransparent (c : Char) : Bool := isNonspacing c || c.toNat = 0x1E94B

/-- The combining class of the signs that take the vowel away. -/
def viramaClass : Nat := 9

/-- Whether a joiner may stand after a text, of which the reverse is given, and before another. -/
def joinerFits (c : Char) (before after : Text) : Bool :=
  match before with
  | [] => false
  | d :: _ =>
    combiningClass d = viramaClass ||
      (c = nonJoiner && ((before.dropWhile isTransparent).head?.any joinsForward) &&
        ((after.dropWhile isTransparent).head?.any joinsBackward))

/-- Whether the joiners of a text stand where they may, given the reverse of what precedes it. -/
def joinersFitFrom (before : Text) : Text → Bool
  | [] => true
  | c :: t =>
    ((c ≠ nonJoiner && c ≠ joiner) || joinerFits c before t) && joinersFitFrom (c :: before) t

def joinersFit (label : Text) : Bool := joinersFitFrom [] label

/-! ## Labels -/

def encodedPrefix : Text := "xn--"

/-- The longest encoded form that is read. -/
def maxEncoded : Nat := 2000

/-- The longest label that is encoded. -/
def maxLabel : Nat := 1000

/-- What no domain name may hold, besides blanks and controls. -/
def forbidden : Text := "#%/:<>?@[\\]^|"

def isLabelChar (c : Char) : Bool := ' ' < c && c ≠ '\x7f' && !List.contains forbidden c

def isAscii (t : Text) : Bool := t.all (·.toNat < 0x80)

/-- What an encoded label stands for, given the form without the prefix. It must be something
that is in need of encoding, and in its one spelling. -/
def decoded? (form : Text) : Option Text :=
  if form = [] ∨ form.getLast? = some '-' ∨ maxEncoded < form.length then none
  else
    match Punycode.decode? form with
    | some label => if spelled? label = some label then some label else none
    | none => none

def isProper (label : Text) : Bool :=
  label.all isLabelChar && joinersFit label && !label.head?.any isMark &&
    (isAscii label || label.length ≤ maxLabel)

/-- The label that a text with one spelling stands for. -/
def label? (t : Text) : Option Text :=
  match (match after? encodedPrefix t with
    | some form => decoded? form
    | none => some t) with
  | some label => if isProper label then some label else none
  | none => none

def asciiLabel (label : Text) : Text :=
  if isAscii label then label else encodedPrefix ++ Punycode.encode label

def ascii? (name : Text) : Option Text :=
  match spelled? name with
  | none => none
  | some t =>
    match (t.splitOn '.').mapM label? with
    | none => none
    | some labels =>
      if Direction.areUniform (labels.map (·.map Direction.ofChar)) then
        some (List.intercalate ['.'] (labels.map asciiLabel))
      else none

end WikiStubs.Domain
