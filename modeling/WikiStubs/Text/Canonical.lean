import WikiStubs.Text.Basic

/-!
# Canonical form

A letter with accents can be written as one character or as several. The canonical form of a text
(normalization form C) takes every character apart, puts the marks into canonical order, and puts
together what stands for one character: two texts that mean the same have the same canonical form.

* `ImageTable` gives each of some characters a text, its image, and finds a character by its image.
* `partsOf` takes a character apart as far as it goes, by the canonical decompositions of
  Unicode 17.0, and `compose?` puts a part onto a character. A syllable of Hangul has its parts by
  a rule, all others by a table.
* `combiningClass` (Unicode 18.0) is zero for all that keeps its place, and `reorder` puts a text
  into canonical order: the classes of neighbouring marks do not fall, and marks of the same class
  keep their order.
* `canonical` is the canonical form.
-/
namespace WikiStubs.Text

/-! ## Image tables -/

/-- The images of characters with consecutive code points. -/
structure ImageRow where
  first : Nat
  images : List Text

structure ImageTable where
  rows : List ImageRow

namespace ImageRow

def ofWritten (first : Nat) (images : String) : ImageRow where
  first := first
  images := (words images).map fun image =>
    (image.splitOn '+').map fun digits => Char.ofNat (number 16 digits)

def image? (r : ImageRow) (n : Nat) : Option Text :=
  if r.first ≤ n then r.images[n - r.first]? else none

/-- The first code point that has the image, from the code point `n` of the first image on. -/
def sourceFrom? (accepts : Nat → Bool) (image : Text) (n : Nat) : List Text → Option Nat
  | [] => none
  | i :: is => if i = image ∧ accepts n then some n else sourceFrom? accepts image (n + 1) is

end ImageRow

namespace ImageTable

def ofRows (rows : List (Nat × String)) : ImageTable :=
  ⟨rows.map fun (first, images) => ImageRow.ofWritten first images⟩

def image? (table : ImageTable) (c : Char) : Option Text :=
  table.rows.findSome? (·.image? c.toNat)

/-- The first character that has the image, among those whose code points are accepted. -/
def source? (table : ImageTable) (accepts : Nat → Bool) (image : Text) : Option Char :=
  table.rows.findSome? fun r =>
    (ImageRow.sourceFrom? accepts image r.first r.images).map Char.ofNat

end ImageTable

/-! ## Canonical parts -/

/-- The parts of the characters that are not syllables of Hangul. -/
def partTable : ImageTable := ImageTable.ofRows
  [(0xC0, "41+300 41+301 41+302 41+303 41+308 41+30A"),
    (0xC7, "43+327 45+300 45+301 45+302 45+308 49+300 49+301 49+302 49+308"),
    (0xD1, "4E+303 4F+300 4F+301 4F+302 4F+303 4F+308"),
    (0xD9, "55+300 55+301 55+302 55+308 59+301"),
    (0xE0, "61+300 61+301 61+302 61+303 61+308 61+30A"),
    (0xE7, "63+327 65+300 65+301 65+302 65+308 69+300 69+301 69+302 69+308"),
    (0xF1, "6E+303 6F+300 6F+301 6F+302 6F+303 6F+308"),
    (0xF9, "75+300 75+301 75+302 75+308 79+301"),
    (0xFF, "79+308 41+304 61+304 41+306 61+306 41+328 61+328 43+301 63+301 43+302 63+302 43+307
      63+307 43+30C 63+30C 44+30C 64+30C"),
    (0x112, "45+304 65+304 45+306 65+306 45+307 65+307 45+328 65+328 45+30C 65+30C 47+302 67+302
      47+306 67+306 47+307 67+307 47+327 67+327 48+302 68+302"),
    (0x128, "49+303 69+303 49+304 69+304 49+306 69+306 49+328 69+328 49+307"),
    (0x134, "4A+302 6A+302 4B+327 6B+327"), (0x139, "4C+301 6C+301 4C+327 6C+327 4C+30C 6C+30C"),
    (0x143, "4E+301 6E+301 4E+327 6E+327 4E+30C 6E+30C"),
    (0x14C, "4F+304 6F+304 4F+306 6F+306 4F+30B 6F+30B"),
    (0x154, "52+301 72+301 52+327 72+327 52+30C 72+30C 53+301 73+301 53+302 73+302 53+327 73+327
      53+30C 73+30C 54+327 74+327 54+30C 74+30C"),
    (0x168, "55+303 75+303 55+304 75+304 55+306 75+306 55+30A 75+30A 55+30B 75+30B 55+328 75+328
      57+302 77+302 59+302 79+302 59+308 5A+301 7A+301 5A+307 7A+307 5A+30C 7A+30C"),
    (0x1A0, "4F+31B 6F+31B"), (0x1AF, "55+31B 75+31B"),
    (0x1CD, "41+30C 61+30C 49+30C 69+30C 4F+30C 6F+30C 55+30C 75+30C 55+308+304 75+308+304
      55+308+301 75+308+301 55+308+30C 75+308+30C 55+308+300 75+308+300"),
    (0x1DE, "41+308+304 61+308+304 41+307+304 61+307+304 C6+304 E6+304"),
    (0x1E6, "47+30C 67+30C 4B+30C 6B+30C 4F+328 6F+328 4F+328+304 6F+328+304 1B7+30C 292+30C
      6A+30C"), (0x1F4, "47+301 67+301"),
    (0x1F8, "4E+300 6E+300 41+30A+301 61+30A+301 C6+301 E6+301 D8+301 F8+301 41+30F 61+30F 41+311
      61+311 45+30F 65+30F 45+311 65+311 49+30F 69+30F 49+311 69+311 4F+30F 6F+30F 4F+311 6F+311
      52+30F 72+30F 52+311 72+311 55+30F 75+30F 55+311 75+311 53+326 73+326 54+326 74+326"),
    (0x21E, "48+30C 68+30C"),
    (0x226, "41+307 61+307 45+327 65+327 4F+308+304 6F+308+304 4F+303+304 6F+303+304 4F+307
      6F+307 4F+307+304 6F+307+304 59+304 79+304"), (0x340, "300 301"), (0x343, "313 308+301"),
    (0x374, "2B9"), (0x37E, "3B"), (0x385, "A8+301 391+301 B7 395+301 397+301 399+301"),
    (0x38C, "39F+301"), (0x38E, "3A5+301 3A9+301 3B9+308+301"),
    (0x3AA, "399+308 3A5+308 3B1+301 3B5+301 3B7+301 3B9+301 3C5+308+301"),
    (0x3CA, "3B9+308 3C5+308 3BF+301 3C5+301 3C9+301"), (0x3D3, "3D2+301 3D2+308"),
    (0x400, "415+300 415+308"), (0x403, "413+301"), (0x407, "406+308"),
    (0x40C, "41A+301 418+300 423+306"), (0x419, "418+306"), (0x439, "438+306"),
    (0x450, "435+300 435+308"), (0x453, "433+301"), (0x457, "456+308"),
    (0x45C, "43A+301 438+300 443+306"), (0x476, "474+30F 475+30F"), (0x4C1, "416+306 436+306"),
    (0x4D0, "410+306 430+306 410+308 430+308"), (0x4D6, "415+306 435+306"),
    (0x4DA, "4D8+308 4D9+308 416+308 436+308 417+308 437+308"),
    (0x4E2, "418+304 438+304 418+308 438+308 41E+308 43E+308"),
    (0x4EA, "4E8+308 4E9+308 42D+308 44D+308 423+304 443+304 423+308 443+308 423+30B 443+30B
      427+308 447+308"), (0x4F8, "42B+308 44B+308"),
    (0x622, "627+653 627+654 648+654 627+655 64A+654"), (0x6C0, "6D5+654"), (0x6C2, "6C1+654"),
    (0x6D3, "6D2+654"), (0x929, "928+93C"), (0x931, "930+93C"), (0x934, "933+93C"),
    (0x958, "915+93C 916+93C 917+93C 91C+93C 921+93C 922+93C 92B+93C 92F+93C"),
    (0x9CB, "9C7+9BE 9C7+9D7"), (0x9DC, "9A1+9BC 9A2+9BC"), (0x9DF, "9AF+9BC"), (0xA33, "A32+A3C"),
    (0xA36, "A38+A3C"), (0xA59, "A16+A3C A17+A3C A1C+A3C"), (0xA5E, "A2B+A3C"), (0xB48, "B47+B56"),
    (0xB4B, "B47+B3E B47+B57"), (0xB5C, "B21+B3C B22+B3C"), (0xB94, "B92+BD7"),
    (0xBCA, "BC6+BBE BC7+BBE BC6+BD7"), (0xC48, "C46+C56"), (0xCC0, "CBF+CD5"),
    (0xCC7, "CC6+CD5 CC6+CD6"), (0xCCA, "CC6+CC2 CC6+CC2+CD5"), (0xD4A, "D46+D3E D47+D3E D46+D57"),
    (0xDDA, "DD9+DCA"), (0xDDC, "DD9+DCF DD9+DCF+DCA DD9+DDF"), (0xF43, "F42+FB7"),
    (0xF4D, "F4C+FB7"), (0xF52, "F51+FB7"), (0xF57, "F56+FB7"), (0xF5C, "F5B+FB7"),
    (0xF69, "F40+FB5"), (0xF73, "F71+F72"), (0xF75, "F71+F74 FB2+F80"), (0xF78, "FB3+F80"),
    (0xF81, "F71+F80"), (0xF93, "F92+FB7"), (0xF9D, "F9C+FB7"), (0xFA2, "FA1+FB7"),
    (0xFA7, "FA6+FB7"), (0xFAC, "FAB+FB7"), (0xFB9, "F90+FB5"), (0x1026, "1025+102E"),
    (0x1B06, "1B05+1B35"), (0x1B08, "1B07+1B35"), (0x1B0A, "1B09+1B35"), (0x1B0C, "1B0B+1B35"),
    (0x1B0E, "1B0D+1B35"), (0x1B12, "1B11+1B35"), (0x1B3B, "1B3A+1B35"), (0x1B3D, "1B3C+1B35"),
    (0x1B40, "1B3E+1B35 1B3F+1B35"), (0x1B43, "1B42+1B35"),
    (0x1E00, "41+325 61+325 42+307 62+307 42+323 62+323 42+331 62+331 43+327+301 63+327+301
      44+307 64+307 44+323 64+323 44+331 64+331 44+327 64+327 44+32D 64+32D 45+304+300 65+304+300
      45+304+301 65+304+301 45+32D 65+32D 45+330 65+330 45+327+306 65+327+306 46+307 66+307
      47+304 67+304 48+307 68+307 48+323 68+323 48+308 68+308 48+327 68+327 48+32E 68+32E 49+330
      69+330 49+308+301 69+308+301 4B+301 6B+301 4B+323 6B+323 4B+331 6B+331 4C+323 6C+323
      4C+323+304 6C+323+304 4C+331 6C+331 4C+32D 6C+32D 4D+301 6D+301 4D+307 6D+307 4D+323 6D+323
      4E+307 6E+307 4E+323 6E+323 4E+331 6E+331 4E+32D 6E+32D 4F+303+301 6F+303+301 4F+303+308
      6F+303+308 4F+304+300 6F+304+300 4F+304+301 6F+304+301 50+301 70+301 50+307 70+307 52+307
      72+307 52+323 72+323 52+323+304 72+323+304 52+331 72+331 53+307 73+307 53+323 73+323
      53+301+307 73+301+307 53+30C+307 73+30C+307 53+323+307 73+323+307 54+307 74+307 54+323
      74+323 54+331 74+331 54+32D 74+32D 55+324 75+324 55+330 75+330 55+32D 75+32D 55+303+301
      75+303+301 55+304+308 75+304+308 56+303 76+303 56+323 76+323 57+300 77+300 57+301 77+301
      57+308 77+308 57+307 77+307 57+323 77+323 58+307 78+307 58+308 78+308 59+307 79+307 5A+302
      7A+302 5A+323 7A+323 5A+331 7A+331 68+331 74+308 77+30A 79+30A"), (0x1E9B, "17F+307"),
    (0x1EA0, "41+323 61+323 41+309 61+309 41+302+301 61+302+301 41+302+300 61+302+300 41+302+309
      61+302+309 41+302+303 61+302+303 41+323+302 61+323+302 41+306+301 61+306+301 41+306+300
      61+306+300 41+306+309 61+306+309 41+306+303 61+306+303 41+323+306 61+323+306 45+323 65+323
      45+309 65+309 45+303 65+303 45+302+301 65+302+301 45+302+300 65+302+300 45+302+309
      65+302+309 45+302+303 65+302+303 45+323+302 65+323+302 49+309 69+309 49+323 69+323 4F+323
      6F+323 4F+309 6F+309 4F+302+301 6F+302+301 4F+302+300 6F+302+300 4F+302+309 6F+302+309
      4F+302+303 6F+302+303 4F+323+302 6F+323+302 4F+31B+301 6F+31B+301 4F+31B+300 6F+31B+300
      4F+31B+309 6F+31B+309 4F+31B+303 6F+31B+303 4F+31B+323 6F+31B+323 55+323 75+323 55+309
      75+309 55+31B+301 75+31B+301 55+31B+300 75+31B+300 55+31B+309 75+31B+309 55+31B+303
      75+31B+303 55+31B+323 75+31B+323 59+300 79+300 59+323 79+323 59+309 79+309 59+303 79+303"),
    (0x1F00, "3B1+313 3B1+314 3B1+313+300 3B1+314+300 3B1+313+301 3B1+314+301 3B1+313+342
      3B1+314+342 391+313 391+314 391+313+300 391+314+300 391+313+301 391+314+301 391+313+342
      391+314+342 3B5+313 3B5+314 3B5+313+300 3B5+314+300 3B5+313+301 3B5+314+301"),
    (0x1F18, "395+313 395+314 395+313+300 395+314+300 395+313+301 395+314+301"),
    (0x1F20, "3B7+313 3B7+314 3B7+313+300 3B7+314+300 3B7+313+301 3B7+314+301 3B7+313+342
      3B7+314+342 397+313 397+314 397+313+300 397+314+300 397+313+301 397+314+301 397+313+342
      397+314+342 3B9+313 3B9+314 3B9+313+300 3B9+314+300 3B9+313+301 3B9+314+301 3B9+313+342
      3B9+314+342 399+313 399+314 399+313+300 399+314+300 399+313+301 399+314+301 399+313+342
      399+314+342 3BF+313 3BF+314 3BF+313+300 3BF+314+300 3BF+313+301 3BF+314+301"),
    (0x1F48, "39F+313 39F+314 39F+313+300 39F+314+300 39F+313+301 39F+314+301"),
    (0x1F50, "3C5+313 3C5+314 3C5+313+300 3C5+314+300 3C5+313+301 3C5+314+301 3C5+313+342
      3C5+314+342"), (0x1F59, "3A5+314"), (0x1F5B, "3A5+314+300"), (0x1F5D, "3A5+314+301"),
    (0x1F5F, "3A5+314+342 3C9+313 3C9+314 3C9+313+300 3C9+314+300 3C9+313+301 3C9+314+301
      3C9+313+342 3C9+314+342 3A9+313 3A9+314 3A9+313+300 3A9+314+300 3A9+313+301 3A9+314+301
      3A9+313+342 3A9+314+342 3B1+300 3B1+301 3B5+300 3B5+301 3B7+300 3B7+301 3B9+300 3B9+301
      3BF+300 3BF+301 3C5+300 3C5+301 3C9+300 3C9+301"),
    (0x1F80, "3B1+313+345 3B1+314+345 3B1+313+300+345 3B1+314+300+345 3B1+313+301+345
      3B1+314+301+345 3B1+313+342+345 3B1+314+342+345 391+313+345 391+314+345 391+313+300+345
      391+314+300+345 391+313+301+345 391+314+301+345 391+313+342+345 391+314+342+345 3B7+313+345
      3B7+314+345 3B7+313+300+345 3B7+314+300+345 3B7+313+301+345 3B7+314+301+345 3B7+313+342+345
      3B7+314+342+345 397+313+345 397+314+345 397+313+300+345 397+314+300+345 397+313+301+345
      397+314+301+345 397+313+342+345 397+314+342+345 3C9+313+345 3C9+314+345 3C9+313+300+345
      3C9+314+300+345 3C9+313+301+345 3C9+314+301+345 3C9+313+342+345 3C9+314+342+345 3A9+313+345
      3A9+314+345 3A9+313+300+345 3A9+314+300+345 3A9+313+301+345 3A9+314+301+345 3A9+313+342+345
      3A9+314+342+345 3B1+306 3B1+304 3B1+300+345 3B1+345 3B1+301+345"),
    (0x1FB6, "3B1+342 3B1+342+345 391+306 391+304 391+300 391+301 391+345"), (0x1FBE, "3B9"),
    (0x1FC1, "A8+342 3B7+300+345 3B7+345 3B7+301+345"),
    (0x1FC6, "3B7+342 3B7+342+345 395+300 395+301 397+300 397+301 397+345 1FBF+300 1FBF+301
      1FBF+342 3B9+306 3B9+304 3B9+308+300 3B9+308+301"),
    (0x1FD6, "3B9+342 3B9+308+342 399+306 399+304 399+300 399+301"),
    (0x1FDD, "1FFE+300 1FFE+301 1FFE+342 3C5+306 3C5+304 3C5+308+300 3C5+308+301 3C1+313 3C1+314
      3C5+342 3C5+308+342 3A5+306 3A5+304 3A5+300 3A5+301 3A1+314 A8+300 A8+301 60"),
    (0x1FF2, "3C9+300+345 3C9+345 3C9+301+345"),
    (0x1FF6, "3C9+342 3C9+342+345 39F+300 39F+301 3A9+300 3A9+301 3A9+345 B4"),
    (0x2000, "2002 2003"), (0x2126, "3A9"), (0x212A, "4B 41+30A"), (0x219A, "2190+338 2192+338"),
    (0x21AE, "2194+338"), (0x21CD, "21D0+338 21D4+338 21D2+338"), (0x2204, "2203+338"),
    (0x2209, "2208+338"), (0x220C, "220B+338"), (0x2224, "2223+338"), (0x2226, "2225+338"),
    (0x2241, "223C+338"), (0x2244, "2243+338"), (0x2247, "2245+338"), (0x2249, "2248+338"),
    (0x2260, "3D+338"), (0x2262, "2261+338"), (0x226D, "224D+338 3C+338 3E+338 2264+338 2265+338"),
    (0x2274, "2272+338 2273+338"), (0x2278, "2276+338 2277+338"), (0x2280, "227A+338 227B+338"),
    (0x2284, "2282+338 2283+338"), (0x2288, "2286+338 2287+338"),
    (0x22AC, "22A2+338 22A8+338 22A9+338 22AB+338"),
    (0x22E0, "227C+338 227D+338 2291+338 2292+338"),
    (0x22EA, "22B2+338 22B3+338 22B4+338 22B5+338"), (0x2329, "3008 3009"), (0x2ADC, "2ADD+338"),
    (0x304C, "304B+3099"), (0x304E, "304D+3099"), (0x3050, "304F+3099"), (0x3052, "3051+3099"),
    (0x3054, "3053+3099"), (0x3056, "3055+3099"), (0x3058, "3057+3099"), (0x305A, "3059+3099"),
    (0x305C, "305B+3099"), (0x305E, "305D+3099"), (0x3060, "305F+3099"), (0x3062, "3061+3099"),
    (0x3065, "3064+3099"), (0x3067, "3066+3099"), (0x3069, "3068+3099"),
    (0x3070, "306F+3099 306F+309A"), (0x3073, "3072+3099 3072+309A"),
    (0x3076, "3075+3099 3075+309A"), (0x3079, "3078+3099 3078+309A"),
    (0x307C, "307B+3099 307B+309A"), (0x3094, "3046+3099"), (0x309E, "309D+3099"),
    (0x30AC, "30AB+3099"), (0x30AE, "30AD+3099"), (0x30B0, "30AF+3099"), (0x30B2, "30B1+3099"),
    (0x30B4, "30B3+3099"), (0x30B6, "30B5+3099"), (0x30B8, "30B7+3099"), (0x30BA, "30B9+3099"),
    (0x30BC, "30BB+3099"), (0x30BE, "30BD+3099"), (0x30C0, "30BF+3099"), (0x30C2, "30C1+3099"),
    (0x30C5, "30C4+3099"), (0x30C7, "30C6+3099"), (0x30C9, "30C8+3099"),
    (0x30D0, "30CF+3099 30CF+309A"), (0x30D3, "30D2+3099 30D2+309A"),
    (0x30D6, "30D5+3099 30D5+309A"), (0x30D9, "30D8+3099 30D8+309A"),
    (0x30DC, "30DB+3099 30DB+309A"), (0x30F4, "30A6+3099"),
    (0x30F7, "30EF+3099 30F0+3099 30F1+3099 30F2+3099"), (0x30FE, "30FD+3099"),
    (0xF900, "8C48 66F4 8ECA 8CC8 6ED1 4E32 53E5 9F9C 9F9C 5951 91D1 5587 5948 61F6 7669 7F85
      863F 87BA 88F8 908F 6A02 6D1B 70D9 73DE 843D 916A 99F1 4E82 5375 6B04 721B 862D 9E1E 5D50
      6FEB 85CD 8964 62C9 81D8 881F 5ECA 6717 6D6A 72FC 90CE 4F86 51B7 52DE 64C4 6AD3 7210 76E7
      8001 8606 865C 8DEF 9732 9B6F 9DFA 788C 797F 7DA0 83C9 9304 9E7F 8AD6 58DF 5F04 7C60 807E
      7262 78CA 8CC2 96F7 58D8 5C62 6A13 6DDA 6F0F 7D2F 7E37 964B 52D2 808B 51DC 51CC 7A1C 7DBE
      83F1 9675 8B80 62CF 6A02 8AFE 4E39 5BE7 6012 7387 7570 5317 78FB 4FBF 5FA9 4E0D 6CCC 6578
      7D22 53C3 585E 7701 8449 8AAA 6BBA 8FB0 6C88 62FE 82E5 63A0 7565 4EAE 5169 51C9 6881 7CE7
      826F 8AD2 91CF 52F5 5442 5973 5EEC 65C5 6FFE 792A 95AD 9A6A 9E97 9ECE 529B 66C6 6B77 8F62
      5E74 6190 6200 649A 6F23 7149 7489 79CA 7DF4 806F 8F26 84EE 9023 934A 5217 52A3 54BD 70C8
      88C2 8AAA 5EC9 5FF5 637B 6BAE 7C3E 7375 4EE4 56F9 5BE7 5DBA 601C 73B2 7469 7F9A 8046 9234
      96F6 9748 9818 4F8B 79AE 91B4 96B8 60E1 4E86 50DA 5BEE 5C3F 6599 6A02 71CE 7642 84FC 907C
      9F8D 6688 962E 5289 677B 67F3 6D41 6E9C 7409 7559 786B 7D10 985E 516D 622E 9678 502B 5D19
      6DEA 8F2A 5F8B 6144 6817 7387 9686 5229 540F 5C65 6613 674E 68A8 6CE5 7406 75E2 7F79 88CF
      88E1 91CC 96E2 533F 6EBA 541D 71D0 7498 85FA 96A3 9C57 9E9F 6797 6DCB 81E8 7ACB 7B20 7C92
      72C0 7099 8B58 4EC0 8336 523A 5207 5EA6 62D3 7CD6 5B85 6D1E 66B4 8F3B 884C 964D 898B 5ED3
      5140 55C0"), (0xFA10, "585A"), (0xFA12, "6674"),
    (0xFA15, "51DE 732A 76CA 793C 795E 7965 798F 9756 7CBE 7FBD"), (0xFA20, "8612"),
    (0xFA22, "8AF8"), (0xFA25, "9038 90FD"),
    (0xFA2A, "98EF 98FC 9928 9DB4 90DE 96B7 4FAE 50E7 514D 52C9 52E4 5351 559D 5606 5668 5840
      58A8 5C64 5C6E 6094 6168 618E 61F2 654F 65E2 6691 6885 6D77 6E1A 6F22 716E 722B 7422 7891
      793E 7949 7948 7950 7956 795D 798D 798E 7A40 7A81 7BC0 7DF4 7E09 7E41 7F72 8005 81ED 8279
      8279 8457 8910 8996 8B01 8B39 8CD3 8D08 8FB6 9038 96E3 97FF 983B 6075 242EE 8218"),
    (0xFA70, "4E26 51B5 5168 4F80 5145 5180 52C7 52FA 559D 5555 5599 55E2 585A 58B3 5944 5954
      5A62 5B28 5ED2 5ED9 5F69 5FAD 60D8 614E 6108 618E 6160 61F2 6234 63C4 641C 6452 6556 6674
      6717 671B 6756 6B79 6BBA 6D41 6EDB 6ECB 6F22 701E 716E 77A7 7235 72AF 732A 7471 7506 753B
      761D 761F 76CA 76DB 76F4 774A 7740 78CC 7AB1 7BC0 7C7B 7D5B 7DF4 7F3E 8005 8352 83EF 8779
      8941 8986 8996 8ABF 8AF8 8ACB 8B01 8AFE 8AED 8B39 8B8A 8D08 8F38 9072 9199 9276 967C 96E3
      9756 97DB 97FF 980B 983B 9B12 9F9C 2284A 22844 233D5 3B9D 4018 4039 25249 25CD0 27ED3 9F43
      9F8E"), (0xFB1D, "5D9+5B4"), (0xFB1F, "5F2+5B7"),
    (0xFB2A, "5E9+5C1 5E9+5C2 5E9+5BC+5C1 5E9+5BC+5C2 5D0+5B7 5D0+5B8 5D0+5BC 5D1+5BC 5D2+5BC
      5D3+5BC 5D4+5BC 5D5+5BC 5D6+5BC"), (0xFB38, "5D8+5BC 5D9+5BC 5DA+5BC 5DB+5BC 5DC+5BC"),
    (0xFB3E, "5DE+5BC"), (0xFB40, "5E0+5BC 5E1+5BC"), (0xFB43, "5E3+5BC 5E4+5BC"),
    (0xFB46, "5E6+5BC 5E7+5BC 5E8+5BC 5E9+5BC 5EA+5BC 5D5+5B9 5D1+5BF 5DB+5BF 5E4+5BF"),
    (0x105C9, "105D2+307"), (0x105E4, "105DA+307"), (0x1109A, "11099+110BA"),
    (0x1109C, "1109B+110BA"), (0x110AB, "110A5+110BA"), (0x1112E, "11131+11127 11132+11127"),
    (0x1134B, "11347+1133E 11347+11357"), (0x11383, "11382+113C9"), (0x11385, "11384+113BB"),
    (0x1138E, "1138B+113C2"), (0x11391, "11390+113C9"), (0x113C5, "113C2+113C2"),
    (0x113C7, "113C2+113B8 113C2+113C9"), (0x114BB, "114B9+114BA 114B9+114B0"),
    (0x114BE, "114B9+114BD"), (0x115BA, "115B8+115AF 115B9+115AF"), (0x11938, "11935+11930"),
    (0x16121, "1611E+1611E 1611E+16129 1611E+1611F 16129+1611F 1611E+16120 1611E+1611E+1611F
      1611E+16129+1611F 1611E+1611E+16120"), (0x16D68, "16D67+16D67 16D63+16D67 16D63+16D67+16D67"),
    (0x1D15E, "1D157+1D165 1D158+1D165 1D158+1D165+1D16E 1D158+1D165+1D16F 1D158+1D165+1D170
      1D158+1D165+1D171 1D158+1D165+1D172"),
    (0x1D1BB, "1D1B9+1D165 1D1BA+1D165 1D1B9+1D165+1D16E 1D1BA+1D165+1D16E 1D1B9+1D165+1D16F
      1D1BA+1D165+1D16F"),
    (0x2F800, "4E3D 4E38 4E41 20122 4F60 4FAE 4FBB 5002 507A 5099 50E7 50CF 349E 2063A 514D 5154
      5164 5177 2051C 34B9 5167 518D 2054B 5197 51A4 4ECC 51AC 51B5 291DF 51F5 5203 34DF 523B
      5246 5272 5277 3515 52C7 52C9 52E4 52FA 5305 5306 5317 5349 5351 535A 5373 537D 537F 537F
      537F 20A2C 7070 53CA 53DF 20B63 53EB 53F1 5406 549E 5438 5448 5468 54A2 54F6 5510 5553 5563
      5584 5584 5599 55AB 55B3 55C2 5716 5606 5717 5651 5674 5207 58EE 57CE 57F4 580D 578B 5832
      5831 58AC 214E4 58F2 58F7 5906 591A 5922 5962 216A8 216EA 59EC 5A1B 5A27 59D8 5A66 36EE
      36FC 5B08 5B3E 5B3E 219C8 5BC3 5BD8 5BE7 5BF3 21B18 5BFF 5C06 5F53 5C22 3781 5C60 5C6E 5CC0
      5C8D 21DE4 5D43 21DE6 5D6E 5D6B 5D7C 5DE1 5DE2 382F 5DFD 5E28 5E3D 5E69 3862 22183 387C
      5EB0 5EB3 5EB6 5ECA 2A392 5EFE 22331 22331 8201 5F22 5F22 38C7 232B8 261DA 5F62 5F6B 38E3
      5F9A 5FCD 5FD7 5FF9 6081 393A 391C 6094 226D4 60C7 6148 614C 614E 614C 617A 618E 61B2 61A4
      61AF 61DE 61F2 61F6 6210 621B 625D 62B1 62D4 6350 22B0C 633D 62FC 6368 6383 63E4 22BF1 6422
      63C5 63A9 3A2E 6469 647E 649D 6477 3A6C 654F 656C 2300A 65E3 66F8 6649 3B19 6691 3B08 3AE4
      5192 5195 6700 669C 80AD 43D9 6717 671B 6721 675E 6753 233C3 3B49 67FA 6785 6852 6885 2346D
      688E 681F 6914 3B9D 6942 69A3 69EA 6AA8 236A3 6ADB 3C18 6B21 238A7 6B54 3C4E 6B72 6B9F 6BBA
      6BBB 23A8D 21D0B 23AFA 6C4E 23CBC 6CBF 6CCD 6C67 6D16 6D3E 6D77 6D41 6D69 6D78 6D85 23D1E
      6D34 6E2F 6E6E 3D33 6ECB 6EC7 23ED1 6DF9 6F6E 23F5E 23F8E 6FC6 7039 701E 701B 3D96 704A
      707D 7077 70AD 20525 7145 24263 719C 243AB 7228 7235 7250 24608 7280 7295 24735 24814 737A
      738B 3EAC 73A5 3EB8 3EB8 7447 745C 7471 7485 74CA 3F1B 7524 24C36 753E 24C92 7570 2219F
      7610 24FA1 24FB8 25044 3FFC 4008 76F4 250F3 250F2 25119 25133 771E 771F 771F 774A 4039 778B
      4046 4096 2541D 784E 788C 78CC 40E3 25626 7956 2569A 256C5 798F 79EB 412F 7A40 7A4A 7A4F
      2597C 25AA7 25AA7 7AEE 4202 25BAB 7BC6 7BC9 4227 25C80 7CD2 42A0 7CE8 7CE3 7D00 25F86 7D63
      4301 7DC7 7E02 7E45 4334 26228 26247 4359 262D9 7F7A 2633E 7F95 7FFA 8005 264DA 26523 8060
      265A8 8070 2335F 43D5 80B2 8103 440B 813E 5AB5 267A7 267B5 23393 2339C 8201 8204 8F9E 446B
      8291 828B 829D 52B3 82B1 82B3 82BD 82E6 26B3C 82E5 831D 8363 83AD 8323 83BD 83E7 8457 8353
      83CA 83CC 83DC 26C36 26D6B 26CD5 452B 84F1 84F3 8516 273CA 8564 26F2C 455D 4561 26FB1 270D2
      456B 8650 865C 8667 8669 86A9 8688 870E 86E2 8779 8728 876B 8786 45D7 87E1 8801 45F9 8860
      8863 27667 88D7 88DE 4635 88FA 34BB 278AE 27966 46BE 46C7 8AA0 8AED 8B8A 8C55 27CA8 8CAB
      8CC1 8D1B 8D77 27F2F 20804 8DCB 8DBC 8DF0 208DE 8ED4 8F38 285D2 285ED 9094 90F1 9111 2872E
      911B 9238 92D7 92D8 927C 93F9 9415 28BFA 958B 4995 95B7 28D77 49E6 96C3 5DB2 9723 29145
      2921A 4A6E 4A76 97E0 2940A 4AB2 29496 980B 980B 9829 295B6 98E2 4B33 9929 99A7 99C2 99FE
      4BCE 29B30 9B12 9C40 9CFD 4CCE 4CED 9D67 2A0CE 4CF8 2A105 2A20E 2A291 9EBB 4D56 9EF9 9EFE
      9F05 9F0F 9F16 9F3B 2A600")]

/-- Ranges that hold, of the characters with several parts, those that are never put together
again. -/
def apartRanges : Ranges where
  toList :=
    [(0x344, 0x344), (0x958, 0x95F), (0x9DC, 0xA5E), (0xB5C, 0xB5D), (0xF43, 0xFB9),
      (0x1F71, 0x1F71), (0x1F73, 0x1F73), (0x1F75, 0x1F75), (0x1F77, 0x1F77), (0x1F79, 0x1F79),
      (0x1F7B, 0x1F7B), (0x1F7D, 0x1F7D), (0x1FBB, 0x1FBB), (0x1FC9, 0x1FC9), (0x1FCB, 0x1FCB),
      (0x1FD3, 0x1FD3), (0x1FDB, 0x1FDB), (0x1FE3, 0x1FE3), (0x1FEB, 0x1FEB), (0x1FEE, 0x1FEE),
      (0x1FF9, 0x1FF9), (0x1FFB, 0x1FFB), (0x212B, 0x212B), (0x2ADC, 0x2ADC), (0xFB1D, 0xFB4E),
      (0x1D15E, 0x1D1C0)]

/-! ### Hangul -/

def firstSyllable : Nat := 0xAC00

/-- The first of the leading consonants, of which there are nineteen. -/
def firstLead : Nat := 0x1100

/-- The first of the twenty-one vowels. -/
def firstVowel : Nat := 0x1161

/-- What stands for no trailing consonant; the twenty-seven that there are follow. -/
def noTrail : Nat := 0x11A7

def isSyllable (n : Nat) : Bool := firstSyllable ≤ n && n < firstSyllable + 19 * 21 * 28

def syllableParts (n : Nat) : Text :=
  let i := n - firstSyllable
  let front := [firstLead + i / (21 * 28), firstVowel + i / 28 % 21]
  (if i % 28 = 0 then front else front ++ [noTrail + i % 28]).map Char.ofNat

/-- The syllable of a leading consonant and a vowel, or of a syllable and the trailing consonant
that it lacks. -/
def joinSyllable? (a b : Nat) : Option Nat :=
  if firstLead ≤ a ∧ a < firstLead + 19 ∧ firstVowel ≤ b ∧ b < firstVowel + 21 then
    some (firstSyllable + ((a - firstLead) * 21 + (b - firstVowel)) * 28)
  else if isSyllable a ∧ (a - firstSyllable) % 28 = 0 ∧ noTrail < b ∧ b < noTrail + 28 then
    some (a + (b - noTrail))
  else none

/-! ### Taking apart and putting together -/

/-- The parts of a character: itself, if it has no others. -/
def partsOf (c : Char) : Text :=
  if isSyllable c.toNat then syllableParts c.toNat
  else (partTable.image? c).getD [c]

/-- Below this code point nothing is put onto another character. -/
def firstPart : Nat := 0x300

/-- The character that stands for a character and a part after it. -/
def compose? (a b : Char) : Option Char :=
  if b.toNat < firstPart then none
  else match joinSyllable? a.toNat b.toNat with
  | some n => some (Char.ofNat n)
  | none => partTable.source? (fun n => !inRanges n apartRanges) (partsOf a ++ [b])

/-! ## Canonical order -/

/-- The combining classes above zero, with the ranges of their marks. -/
def combiningClasses : List (Nat × Ranges) :=
  [(1, .mk [(0x334, 0x338), (0x1CD4, 0x1CD4), (0x1CE2, 0x1CE8), (0x20D2, 0x20D3), (0x20D8, 0x20DA),
      (0x20E5, 0x20E6), (0x20EA, 0x20EB), (0x10A39, 0x10A39), (0x16AF0, 0x16AF4),
      (0x1BC9E, 0x1BC9E), (0x1D167, 0x1D169)]),
    (6, .mk [(0x16FF0, 0x16FF1)]),
    (7, .mk [(0x93C, 0x93C), (0x9BC, 0x9BC), (0xA3C, 0xA3C), (0xABC, 0xABC), (0xB3C, 0xB3C),
      (0xC3C, 0xC3C), (0xCBC, 0xCBC), (0x1037, 0x1037), (0x1B34, 0x1B34), (0x1BE6, 0x1BE6),
      (0x1C37, 0x1C37), (0xA9B3, 0xA9B3), (0x110BA, 0x110BA), (0x11173, 0x11173),
      (0x111CA, 0x111CA), (0x11236, 0x11236), (0x112E9, 0x112E9), (0x1133B, 0x1133C),
      (0x11446, 0x11446), (0x114C3, 0x114C3), (0x115C0, 0x115C0), (0x116B7, 0x116B7),
      (0x1183A, 0x1183A), (0x11943, 0x11943), (0x11D42, 0x11D42), (0x1E94A, 0x1E94A)]),
    (8, .mk [(0x3099, 0x309A)]),
    (9, .mk [(0x94D, 0x94D), (0x9CD, 0x9CD), (0xA4D, 0xA4D), (0xACD, 0xACD), (0xB4D, 0xB4D),
      (0xBCD, 0xBCD), (0xC4D, 0xC4D), (0xCCD, 0xCCD), (0xD3B, 0xD3C), (0xD4D, 0xD4D),
      (0xDCA, 0xDCA), (0xE3A, 0xE3A), (0xEBA, 0xEBA), (0xF84, 0xF84), (0x1039, 0x103A),
      (0x1714, 0x1715), (0x1734, 0x1734), (0x17D2, 0x17D2), (0x1A60, 0x1A60), (0x1B44, 0x1B44),
      (0x1BAA, 0x1BAB), (0x1BF2, 0x1BF3), (0x2D7F, 0x2D7F), (0xA806, 0xA806), (0xA82C, 0xA82C),
      (0xA8C4, 0xA8C4), (0xA953, 0xA953), (0xA9C0, 0xA9C0), (0xAAF6, 0xAAF6), (0xABED, 0xABED),
      (0x10A3F, 0x10A3F), (0x11046, 0x11046), (0x11070, 0x11070), (0x1107F, 0x1107F),
      (0x110B9, 0x110B9), (0x11133, 0x11134), (0x111C0, 0x111C0), (0x11235, 0x11235),
      (0x112EA, 0x112EA), (0x1134D, 0x1134D), (0x113CE, 0x113D0), (0x11442, 0x11442),
      (0x114C2, 0x114C2), (0x115BF, 0x115BF), (0x1163F, 0x1163F), (0x116B6, 0x116B6),
      (0x1172B, 0x1172B), (0x11839, 0x11839), (0x1193D, 0x1193E), (0x119E0, 0x119E0),
      (0x11A34, 0x11A34), (0x11A47, 0x11A47), (0x11A99, 0x11A99), (0x11C3F, 0x11C3F),
      (0x11D44, 0x11D45), (0x11D97, 0x11D97), (0x11F41, 0x11F42), (0x1612F, 0x1612F)]),
    (10, .mk [(0x5B0, 0x5B0)]), (11, .mk [(0x5B1, 0x5B1)]), (12, .mk [(0x5B2, 0x5B2)]),
    (13, .mk [(0x5B3, 0x5B3)]), (14, .mk [(0x5B4, 0x5B4)]), (15, .mk [(0x5B5, 0x5B5)]),
    (16, .mk [(0x5B6, 0x5B6)]), (17, .mk [(0x5B7, 0x5B7)]),
    (18, .mk [(0x5B8, 0x5B8), (0x5C7, 0x5C7)]), (19, .mk [(0x5B9, 0x5BA)]),
    (20, .mk [(0x5BB, 0x5BB)]), (21, .mk [(0x5BC, 0x5BC)]), (22, .mk [(0x5BD, 0x5BD)]),
    (23, .mk [(0x5BF, 0x5BF)]), (24, .mk [(0x5C1, 0x5C1)]), (25, .mk [(0x5C2, 0x5C2)]),
    (26, .mk [(0xFB1E, 0xFB1E)]), (27, .mk [(0x64B, 0x64B), (0x8F0, 0x8F0)]),
    (28, .mk [(0x64C, 0x64C), (0x8F1, 0x8F1)]), (29, .mk [(0x64D, 0x64D), (0x8F2, 0x8F2)]),
    (30, .mk [(0x618, 0x618), (0x64E, 0x64E)]), (31, .mk [(0x619, 0x619), (0x64F, 0x64F)]),
    (32, .mk [(0x61A, 0x61A), (0x650, 0x650)]), (33, .mk [(0x651, 0x651)]),
    (34, .mk [(0x652, 0x652)]), (35, .mk [(0x670, 0x670)]), (36, .mk [(0x711, 0x711)]),
    (84, .mk [(0xC55, 0xC55)]), (91, .mk [(0xC56, 0xC56)]), (103, .mk [(0xE38, 0xE39)]),
    (107, .mk [(0xE48, 0xE4B)]), (118, .mk [(0xEB8, 0xEB9)]), (122, .mk [(0xEC8, 0xECB)]),
    (129, .mk [(0xF71, 0xF71)]), (130, .mk [(0xF72, 0xF72), (0xF7A, 0xF7D), (0xF80, 0xF80)]),
    (132, .mk [(0xF74, 0xF74)]), (202, .mk [(0x321, 0x322), (0x327, 0x328), (0x1DD0, 0x1DD0)]),
    (214, .mk [(0x1DCE, 0x1DCE)]),
    (216, .mk [(0x31B, 0x31B), (0xF39, 0xF39), (0x1D165, 0x1D166), (0x1D16E, 0x1D172)]),
    (218, .mk [(0x1DFA, 0x1DFA), (0x302A, 0x302A)]),
    (220, .mk [(0x316, 0x319), (0x31C, 0x320), (0x323, 0x326), (0x329, 0x333), (0x339, 0x33C),
      (0x347, 0x349), (0x34D, 0x34E), (0x353, 0x356), (0x359, 0x35A), (0x591, 0x591),
      (0x596, 0x596), (0x59B, 0x59B), (0x5A2, 0x5A7), (0x5AA, 0x5AA), (0x5C5, 0x5C5),
      (0x655, 0x656), (0x65C, 0x65C), (0x65F, 0x65F), (0x6E3, 0x6E3), (0x6EA, 0x6EA),
      (0x6ED, 0x6ED), (0x731, 0x731), (0x734, 0x734), (0x737, 0x739), (0x73B, 0x73C),
      (0x73E, 0x73E), (0x742, 0x742), (0x744, 0x744), (0x746, 0x746), (0x748, 0x748),
      (0x7F2, 0x7F2), (0x7FD, 0x7FD), (0x859, 0x85B), (0x899, 0x89B), (0x8CF, 0x8D3),
      (0x8E3, 0x8E3), (0x8E6, 0x8E6), (0x8E9, 0x8E9), (0x8ED, 0x8EF), (0x8F6, 0x8F6),
      (0x8F9, 0x8FA), (0x952, 0x952), (0xF18, 0xF19), (0xF35, 0xF35), (0xF37, 0xF37),
      (0xFC6, 0xFC6), (0x108D, 0x108D), (0x193B, 0x193B), (0x1A18, 0x1A18), (0x1A7F, 0x1A7F),
      (0x1AB5, 0x1ABA), (0x1ABD, 0x1ABD), (0x1ABF, 0x1AC0), (0x1AC3, 0x1AC4), (0x1ACA, 0x1ACA),
      (0x1ADD, 0x1ADD), (0x1AE6, 0x1AE6), (0x1B6C, 0x1B6C), (0x1CD5, 0x1CD9), (0x1CDC, 0x1CDF),
      (0x1CED, 0x1CED), (0x1DC2, 0x1DC2), (0x1DCA, 0x1DCA), (0x1DCF, 0x1DCF), (0x1DF9, 0x1DF9),
      (0x1DFD, 0x1DFD), (0x1DFF, 0x1DFF), (0x20E8, 0x20E8), (0x20EC, 0x20EF), (0xA92B, 0xA92D),
      (0xAAB4, 0xAAB4), (0xFE27, 0xFE2D), (0x101FD, 0x101FD), (0x102E0, 0x102E0),
      (0x10A0D, 0x10A0D), (0x10A3A, 0x10A3A), (0x10AE6, 0x10AE6), (0x10EFA, 0x10EFB),
      (0x10EFD, 0x10EFF), (0x10F46, 0x10F47), (0x10F4B, 0x10F4B), (0x10F4D, 0x10F50),
      (0x10F83, 0x10F83), (0x10F85, 0x10F85), (0x1D17B, 0x1D182), (0x1D18A, 0x1D18B),
      (0x1E4EE, 0x1E4EE), (0x1E5EF, 0x1E5EF), (0x1E8D0, 0x1E8D6)]),
    (222, .mk [(0x59A, 0x59A), (0x5AD, 0x5AD), (0x1939, 0x1939), (0x302D, 0x302D)]),
    (224, .mk [(0x302E, 0x302F)]), (226, .mk [(0x1D16D, 0x1D16D)]),
    (228, .mk [(0x5AE, 0x5AE), (0x18A9, 0x18A9), (0x1DF7, 0x1DF8), (0x302B, 0x302B)]),
    (230, .mk [(0x300, 0x314), (0x33D, 0x344), (0x346, 0x346), (0x34A, 0x34C), (0x350, 0x352),
      (0x357, 0x357), (0x35B, 0x35B), (0x363, 0x36F), (0x483, 0x487), (0x592, 0x595),
      (0x597, 0x599), (0x59C, 0x5A1), (0x5A8, 0x5A9), (0x5AB, 0x5AC), (0x5AF, 0x5AF),
      (0x5C4, 0x5C4), (0x610, 0x617), (0x653, 0x654), (0x657, 0x65B), (0x65D, 0x65E),
      (0x6D6, 0x6DC), (0x6DF, 0x6E2), (0x6E4, 0x6E4), (0x6E7, 0x6E8), (0x6EB, 0x6EC),
      (0x730, 0x730), (0x732, 0x733), (0x735, 0x736), (0x73A, 0x73A), (0x73D, 0x73D),
      (0x73F, 0x741), (0x743, 0x743), (0x745, 0x745), (0x747, 0x747), (0x749, 0x74A),
      (0x7EB, 0x7F1), (0x7F3, 0x7F3), (0x816, 0x819), (0x81B, 0x823), (0x825, 0x827),
      (0x829, 0x82D), (0x897, 0x898), (0x89C, 0x89F), (0x8CA, 0x8CE), (0x8D4, 0x8E1),
      (0x8E4, 0x8E5), (0x8E7, 0x8E8), (0x8EA, 0x8EC), (0x8F3, 0x8F5), (0x8F7, 0x8F8),
      (0x8FB, 0x8FF), (0x951, 0x951), (0x953, 0x954), (0x9FE, 0x9FE), (0xF82, 0xF83),
      (0xF86, 0xF87), (0x135D, 0x135F), (0x17DD, 0x17DD), (0x193A, 0x193A), (0x1A17, 0x1A17),
      (0x1A75, 0x1A7C), (0x1AB0, 0x1AB4), (0x1ABB, 0x1ABC), (0x1AC1, 0x1AC2), (0x1AC5, 0x1AC9),
      (0x1ACB, 0x1ADC), (0x1ADE, 0x1AE5), (0x1AE7, 0x1AEA), (0x1AEC, 0x1AF0), (0x1B6B, 0x1B6B),
      (0x1B6D, 0x1B73), (0x1CD0, 0x1CD2), (0x1CDA, 0x1CDB), (0x1CE0, 0x1CE0), (0x1CF4, 0x1CF4),
      (0x1CF8, 0x1CF9), (0x1DC0, 0x1DC1), (0x1DC3, 0x1DC9), (0x1DCB, 0x1DCC), (0x1DD1, 0x1DF5),
      (0x1DFB, 0x1DFB), (0x1DFE, 0x1DFE), (0x20D0, 0x20D1), (0x20D4, 0x20D7), (0x20DB, 0x20DC),
      (0x20E1, 0x20E1), (0x20E7, 0x20E7), (0x20E9, 0x20E9), (0x20F0, 0x20F0), (0x2CEF, 0x2CF1),
      (0x2DE0, 0x2DFF), (0xA66F, 0xA66F), (0xA674, 0xA67D), (0xA69E, 0xA69F), (0xA6F0, 0xA6F1),
      (0xA8E0, 0xA8F1), (0xAAB0, 0xAAB0), (0xAAB2, 0xAAB3), (0xAAB7, 0xAAB8), (0xAABE, 0xAABF),
      (0xAAC1, 0xAAC1), (0xFE20, 0xFE26), (0xFE2E, 0xFE2F), (0x10376, 0x1037A), (0x10A0F, 0x10A0F),
      (0x10A38, 0x10A38), (0x10AE5, 0x10AE5), (0x10D24, 0x10D27), (0x10D69, 0x10D6D),
      (0x10EAB, 0x10EAC), (0x10F48, 0x10F4A), (0x10F4C, 0x10F4C), (0x10F82, 0x10F82),
      (0x10F84, 0x10F84), (0x11100, 0x11102), (0x11366, 0x1136C), (0x11370, 0x11374),
      (0x1145E, 0x1145E), (0x16B30, 0x16B36), (0x1D185, 0x1D189), (0x1D1AA, 0x1D1AD),
      (0x1D242, 0x1D244), (0x1E000, 0x1E006), (0x1E008, 0x1E018), (0x1E01B, 0x1E021),
      (0x1E023, 0x1E024), (0x1E026, 0x1E02A), (0x1E08F, 0x1E08F), (0x1E130, 0x1E136),
      (0x1E2AE, 0x1E2AE), (0x1E2EC, 0x1E2EF), (0x1E4EF, 0x1E4EF), (0x1E5EE, 0x1E5EE),
      (0x1E6E3, 0x1E6E3), (0x1E6E6, 0x1E6E6), (0x1E6EE, 0x1E6EF), (0x1E6F5, 0x1E6F5),
      (0x1E944, 0x1E949)]),
    (232, .mk [(0x315, 0x315), (0x31A, 0x31A), (0x358, 0x358), (0x1DF6, 0x1DF6), (0x302C, 0x302C),
      (0x1E4EC, 0x1E4ED)]),
    (233, .mk [(0x35C, 0x35C), (0x35F, 0x35F), (0x362, 0x362), (0x1DFC, 0x1DFC)]),
    (234, .mk [(0x35D, 0x35E), (0x360, 0x361), (0x1AEB, 0x1AEB), (0x1DCD, 0x1DCD)]),
    (240, .mk [(0x345, 0x345)])]

def combiningClass (c : Char) : Nat :=
  ((combiningClasses.find? fun (_, ranges) => inRanges c.toNat ranges).map (·.1)).getD 0

/-- The text in canonical order: each character with the marks after it, sorted by class. -/
def reorder (t : Text) : Text :=
  ((t.map fun c => (combiningClass c, c)).splitBy fun _ next => next.1 ≠ 0).flatMap fun group =>
    (group.mergeSort fun a b => a.1 ≤ b.1).map (·.2)

/-! ## Composition -/

/-- Puts parts together onto the character `base`, given the reverse of the marks after it that
have stayed apart. A mark reaches the base only past marks of lower classes. -/
def composeOnto (base : Char) (apart : Text) : Text → Text
  | [] => base :: apart.reverse
  | c :: t =>
    let k := combiningClass c
    let reaches := apart.head?.all (combiningClass · < k)
    match (if reaches then compose? base c else none) with
    | some d => composeOnto d apart t
    | none =>
      if k = 0 then base :: (apart.reverse ++ composeOnto c [] t)
      else composeOnto base (c :: apart) t

def compose : Text → Text
  | [] => []
  | c :: t => composeOnto c [] t

def canonical (t : Text) : Text := compose (reorder (t.flatMap partsOf))

end WikiStubs.Text
