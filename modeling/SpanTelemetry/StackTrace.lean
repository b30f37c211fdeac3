import SpanTelemetry.Mapping

namespace SpanTelemetry.StackTrace

open Text

/-!
# Stack traces

A recorded stack trace is described by its outermost exception.

* `summary` — the line that names the exception: the last line that is not indented, where frames
  come before the exception; the first line otherwise.
* `splitSummary` — its type and its message.
* `frame?` — the call that a line describes.
* `read` — the description of a stack trace.
-/

/-- What the first line of a stack trace begins with whose frames come before the exception. -/
def header : List Char := "Traceback (most recent call last):".toList

/-- Whether a line begins a list of frames. -/
def isHeader (line : List Char) : Bool := beginsWith header line

/-- Whether frames come before the exception. -/
def framesComeFirst : List (List Char) → Bool
  | [] => false
  | line :: _ => isHeader line

/-! ### The exception -/

/-- A line that is neither empty nor indented. -/
def isUnindented : List Char → Bool
  | [] => false
  | c :: _ => !isBlank c

/-- The line that names the exception. -/
def summary (lines : List (List Char)) : List Char :=
  if framesComeFirst lines then (lines.reverse.find? isUnindented).getD []
  else lines.head?.getD []

/-- The parts of a line before and after its first colon that a space follows. -/
def cutAtColon : List Char → Option (List Char × List Char)
  | ':' :: ' ' :: rest => some ([], rest)
  | c :: rest => (cutAtColon rest).map fun (before, after) => (c :: before, after)
  | [] => none

/-- The type and the message of an exception. A line without a message is the type alone; a
    blank one names no type. -/
def splitSummary (line : List Char) : Option String × String :=
  match cutAtColon line with
  | some (type, message) => (some (String.ofList (trim type)), String.ofList message)
  | none =>
      let type := trim line
      (if type.isEmpty then none else some (String.ofList type), "")

/-! ### Frames -/

/-- A call as a line describes it. -/
structure FrameLine where
  file : List Char
  /-- The digits of the line number, in any script. -/
  lineDigits : List Char
  method : List Char
  deriving DecidableEq, Repr

/-- The most digits that a line number may have. -/
def maxLineDigits : Nat := maxDigits

/-- The call that a line describes: an indented file name in quotes, a line number and the name of
    the method, which reaches to the end of the line. -/
def frame? (line : List Char) : Option FrameLine := do
  let afterOpening ← dropStart? "File \"".toList (line.dropWhile isBlank)
  let (file, afterFile) ← cutFirst '"' afterOpening
  let afterLabel ← dropStart? ", line ".toList afterFile
  let isDigit := fun c => (decimalDigit? c).isSome
  let method ← dropStart? ", in ".toList (afterLabel.dropWhile isDigit)
  let digits := afterLabel.takeWhile isDigit
  if file.isEmpty || digits.isEmpty || method.isEmpty then none
  else some ⟨file, digits, method⟩

/-- The lines of the calls, from the innermost one outwards: those after the last header, because
    chained exceptions repeat it and the last one was raised. -/
def frameLines (lines : List (List Char)) : List FrameLine :=
  if framesComeFirst lines then
    (lines.reverse.takeWhile fun line => !isHeader line).filterMap frame?
  else []

/-- A call on the stack; `none` if its line number has too many digits. -/
def FrameLine.read? (f : FrameLine) (level : Nat) : Option StackFrame :=
  if f.lineDigits.length ≤ maxLineDigits then
    (readDecimal? f.lineDigits).map fun line =>
      { level, method := String.ofList f.method, fileName := some (String.ofList f.file),
        line := some (line : Int) }
  else none

/-- The description of a stack trace, with the innermost call at level 0. -/
def read (text : String) : Except MappingError ExceptionDetails :=
  let lines := lines text.toList
  let (typeName, message) := splitSummary (summary lines)
  match (frameLines lines).zipIdx.mapM fun (f, level) => f.read? level with
  | none => .error .lineNumberTooLong
  | some parsedStack =>
      .ok { typeName, message, hasFullStack := true, stack := some text, parsedStack }

end SpanTelemetry.StackTrace
