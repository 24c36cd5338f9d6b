import WikiStubs.Text.Basic

/-!
# Terminal text

What is left of a text when the control sequences for a terminal are taken out of it. An escape
character begins a sequence, whose further extent depends on the characters after it; a string
sequence, such as a window title, reaches up to its terminator. Outside sequences the controls
are dropped, except those that count as white space.

* `Terminal.plain` takes the sequences out.
-/
namespace WikiStubs.Terminal

/-- Where a position stands with respect to control sequences. -/
inductive Place where
  /-- Outside all sequences. -/
  | ground
  /-- After an escape character. -/
  | escape
  /-- In an escape sequence with intermediate characters. -/
  | escapeMore
  /-- In a control sequence, between its introducer and its final character. -/
  | control
  /-- In a device control string, before its parameters. -/
  | deviceStart
  /-- In the parameters of a device control string. -/
  | deviceParams
  /-- In the intermediate characters of a device control string. -/
  | deviceMore
  /-- In a string that a string terminator ends. -/
  | string
  /-- In an operating system command, which a bell ends. -/
  | command
  deriving DecidableEq

/-- A control that counts as white space. -/
def isSpacing (c : Char) : Bool := c == '\t' || c == '\n' || c == '\x0c' || c == '\r'

def isControl (c : Char) : Bool := c.toNat < 0x20

def between (lo hi c : Char) : Bool := lo ≤ c && c ≤ hi

/-- Whether the byte of the string terminator occurs in the UTF-8 form of the character. -/
def holdsTerminator (c : Char) : Bool := (String.utf8EncodeChar c).contains 0x9c

/-- The place after an ASCII character that is no escape, cancel or substitute. -/
def Place.afterAscii (p : Place) (c : Char) : Place :=
  match p with
  | ground => ground
  | escape =>
    if isControl c || c == '\x7f' then escape
    else if between ' ' '/' c then escapeMore
    else if c = '[' then control
    else if c = ']' then command
    else if c = 'P' then deviceStart
    else if c = 'X' || c = '^' || c = '_' then string
    else ground
  | escapeMore => if between '0' '~' c then ground else escapeMore
  | control => if between '@' '~' c then ground else control
  | deviceStart =>
    if between ' ' '/' c then deviceMore
    else if between '0' '?' c then deviceParams
    else if between '@' '~' c then string
    else deviceStart
  | deviceParams =>
    if between ' ' '/' c then deviceMore
    else if between '<' '~' c then string
    else deviceParams
  | deviceMore => if between '0' '~' c then string else deviceMore
  | string => string
  | command => if c = '\x07' then ground else command

/-- The place after a character that is not shown. -/
def Place.after (p : Place) (c : Char) : Place :=
  if c = '\x18' ∨ c = '\x1a' then ground
  else if c = '\x1b' then escape
  else if c.toNat < 0x80 then p.afterAscii c
  else if p = string ∧ holdsTerminator c then ground
  else p

def isShown (c : Char) : Bool := if isControl c then isSpacing c else c ≠ '\x7f'

/-- Whether a character at a place within a sequence ends the hiding of what follows: outside
sequences every shown character does, and spacing does where a sequence may contain controls. -/
def Place.shows (p : Place) (c : Char) : Bool :=
  match p with
  | ground => isShown c
  | escape | escapeMore | control => isSpacing c
  | _ => false

/-- Takes the sequences out of a text from a place on. While text is being shown, `shown` holds,
and the place is where hiding goes on if the next hidden character is a mere control. -/
def plainFrom (p : Place) (shown : Bool) : Text → Text
  | [] => []
  | c :: cs =>
    if (shown && isShown c) || p.shows c then
      c :: plainFrom (if c.toNat < 0x80 then p else .ground) true cs
    else plainFrom (p.after c) false cs

/-- The text without control sequences. -/
def plain (t : Text) : Text := plainFrom .ground false t

end WikiStubs.Terminal
