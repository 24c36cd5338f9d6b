import WikiStubs.Signature

/-!
# Corrections

Hand-written corrections for pages that break the usual layout, each keyed by the exact name of
a function or section.
-/
namespace WikiStubs.Corrections

structure SectionText where
  name : Text
  text : Text

/-- A description of a variable that pages use without describing it. It applies to the sections
named, or to all sections if none is. -/
structure ExtraVariable where
  sections : List Text
  name : Text
  text : Text

/-- Functions whose calls cannot be read, with their signatures. The call of `keyp` has
unbalanced brackets, and `vbank` shows no call. -/
def signatures : List (Text × Signature) :=
  [("keyp",
     ⟨[⟨"code", some "nil"⟩, ⟨"hold", some "nil"⟩, ⟨"period", some "nil"⟩], ["pressed"]⟩),
   ("vbank", ⟨[⟨"id", none⟩], []⟩)]

/-- Bold names that stand for several variables: `mouse` has its coordinates as one. -/
def nameSplits : List (Text × List Text) := [("x_y", ["x", "y"])]

/-- The section of the reading memory functions, and that of the writing ones. -/
def peekPoke : List Text := ["peek*", "poke*"]

def extraVariables : List ExtraVariable :=
  [⟨["peek*"], "value", "a number that depends on how many bits were read"⟩,
   ⟨peekPoke, "bitaddr", "the address of `RAM` you desire to write"⟩,
   ⟨peekPoke, "bitval", "the integer value write to RAM"⟩,
   ⟨peekPoke, "addr2", "the address of `RAM` you desire to write (segmented on 2)"⟩,
   ⟨peekPoke, "val2", "the integer value write to RAM (segmented on 2)"⟩,
   ⟨peekPoke, "addr4", "the address of `RAM` you desire to write (segmented on 4)"⟩,
   ⟨peekPoke, "val4", "the integer value write to RAM (segmented on 4)"⟩,
   ⟨[], "bool", "a boolean"⟩]

def sectionTexts : List SectionText :=
  [⟨"exit",
     "This function causes program execution to be terminated **after** the current `TIC` " ++
     "function ends. The entire function is executed, including any code that follows " ++
     "`exit()`. When the program ends you are returned to the [console](console).\n\n" ++
     "See the example below for a demonstration of this behavior."⟩,
   ⟨"reset",
     "Resets the TIC virtual \"hardware\" and immediately restarts the cartridge.\n\n" ++
     "To simply return to the console, please use `exit`.\n\nSee also:\n\n- `exit`"⟩]

/-- The signature of a function, if it is corrected; mirrors `signature_for`. -/
def signatureFor? (function : Text) : Option Signature :=
  (signatures.find? (·.1 = function)).map (·.2)

/-- The variables that a bold name stands for, if it is known to stand for several. Mirrors
`split_name`. -/
def splitName? (name : Text) : Option (List Text) :=
  (nameSplits.find? (·.1 = name)).map (·.2)

def variablesOf (name : Text) : List Text := (splitName? name).getD [name]

/-- The variables to describe in a section beside those that its page describes. Mirrors
`extra_descriptions_for`. -/
def extrasFor (sectionName : Text) : List (Text × Text) :=
  (extraVariables.filter fun e => e.sections.isEmpty || e.sections.contains sectionName).map
    fun e => (e.name, e.text)

/-- Mirrors `description_for`. -/
def descriptionFor? (sectionName : Text) : Option Text :=
  (sectionTexts.find? (·.name = sectionName)).map (·.text)

end WikiStubs.Corrections
