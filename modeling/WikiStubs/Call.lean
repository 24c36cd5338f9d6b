import WikiStubs.Fault
import WikiStubs.Signature
import WikiStubs.Text.Word

/-!
# Calls

A page shows how to call a function `f` in inline code: a backtick, `f`, blanks, `(`, arguments,
`)`, perhaps an arrow `->` with a list of return values, and a backtick. The code ends at the
first backtick after `(`, and the arguments end at the last `)` before it.

* `Call.scan` finds the calls of a function in a text, from left to right, without overlap.
* `Signature.ofText` merges them all.
* `Signature.extract` does so if the pattern of the calls can be compiled (`PatternCompiler`).
-/
namespace WikiStubs

/-- A call that a page shows: the whole code with its backticks, the arguments, and the return
list if there is an arrow. -/
structure Call where
  code : Text
  args : Text
  returns : Option Text
  deriving DecidableEq

namespace Call

def tick : Char := '\x60'

def isReturnChar (c : Char) : Bool := Text.isWordChar c || c == ',' || c == ' '

/-- The return list that what follows the arguments declares: `some none` when nothing follows,
`none` when something else than an arrow with a return list follows. -/
def returnsOfTail? : Text → Option (Option Text)
  | [] => some none
  | tail =>
    match Text.after? "->" (tail.dropWhile Text.isBlank) with
    | none => none
    | some list =>
      match list.dropWhile Text.isBlank with
      | [] => if list.getLast? = some ' ' then some (some [' ']) else none
      | names => if names.all isReturnChar then some (some names) else none

/-- The call of `f` that a backtick begins, from the text after it, and what follows the closing
backtick. -/
def after? (f t : Text) : Option (Call × Text) :=
  match Text.after? f t with
  | none => none
  | some t₁ =>
    match Text.after? "(" (t₁.dropWhile Text.isBlank) with
    | none => none
    | some t₂ =>
      match t₂.dropWhile (· ≠ tick) with
      | [] => none
      | _ :: rest =>
        match Text.splitAtLast? ')' (t₂.takeWhile (· ≠ tick)) with
        | none => none
        | some (args, tail) =>
          match returnsOfTail? tail with
          | none => none
          | some returns =>
            some (⟨tick :: t.take (t.length - rest.length), args, returns⟩, rest)

theorem length_after? {f t rest : Text} {c : Call} (h : after? f t = some (c, rest)) :
    rest.length < t.length := by
  unfold after? at h
  split at h
  · cases h
  · next t₁ h₁ =>
    split at h
    · cases h
    · next t₂ h₂ =>
      split at h
      · cases h
      · next d rest' h₃ =>
        split at h
        · cases h
        · split at h
          · cases h
          · simp only [Option.some.injEq, Prod.mk.injEq] at h
            obtain ⟨-, rfl⟩ := h
            have e₁ : t.length = f.length + t₁.length := by
              rw [Text.after?_eq_some.1 h₁]; simp
            have e₂ : (t₁.dropWhile Text.isBlank).length = 1 + t₂.length := by
              rw [Text.after?_eq_some.1 h₂]; simp [Nat.add_comm]
            have e₃ : (t₂.dropWhile (· ≠ tick)).length = rest'.length + 1 := by rw [h₃]; simp
            have l₁ := (List.dropWhile_sublist (l := t₁) Text.isBlank).length_le
            have l₂ := (List.dropWhile_sublist (l := t₂) (· ≠ tick)).length_le
            omega

/-- The calls of `f` in a text. -/
def scan (f : Text) : Text → List Call
  | [] => []
  | c :: t =>
    if c = tick then
      match _h : after? f t with
      | some (call, rest) => call :: scan f rest
      | none => scan f t
    else scan f t
termination_by t => t.length
decreasing_by
  · have := length_after? _h; simp; omega
  · simp
  · simp

end Call

/-- What compiles the pattern by which the calls of a function are found (`call_pattern`). The
pattern holds the name of the function, and is refused if it is too large. -/
class PatternCompiler where
  /-- The message with which the pattern of a function is refused, if it is. -/
  refusal? (function : Text) : Option Text

namespace PatternCompiler

/-- The room that a compiled pattern may take, in bytes. -/
def sizeLimit : Nat := 10485760

/-- A compiler with this limit. It takes each byte of the name for 32 bytes of the compiled
pattern; the exact size matters only for names of some hundred kilobytes. -/
instance limited : PatternCompiler where
  refusal? function :=
    if 32 * Text.byteSize function ≤ sizeLimit then none
    else some ("Compiled regex exceeds size limit of " ++ Nat.toDigits 10 sizeLimit ++ " bytes.")

end PatternCompiler

namespace Signature

def mergeAll (s : Signature) (calls : List Call) : Signature :=
  calls.foldl (fun s c => s.merge c.args c.returns) s

/-- The signature of `f` as the calls in a text show it. -/
def ofText (f t : Text) : Signature := empty.mergeAll (Call.scan f t)

/-- The signature of `f` as the calls in a text show it. When the pattern of the calls is refused,
the text is not looked at. Mirrors `extract`, which asks `call_pattern` for the pattern first. -/
def extract [PatternCompiler] (f t : Text) : Except Fault Signature :=
  match PatternCompiler.refusal? f with
  | some message => .error (.malformed .callPattern message)
  | none => .ok (ofText f t)

section
variable [PatternCompiler] {f t : Text}

theorem extract_eq_ok_iff {s : Signature} :
    extract f t = .ok s ↔ PatternCompiler.refusal? f = none ∧ ofText f t = s := by
  unfold extract
  cases PatternCompiler.refusal? f <;> simp

theorem extract_eq_error_iff {e : Fault} : extract f t = .error e ↔
    ∃ message, PatternCompiler.refusal? f = some message ∧ e = .malformed .callPattern message := by
  unfold extract
  cases PatternCompiler.refusal? f <;> simp [eq_comm]

end
end Signature
end WikiStubs
