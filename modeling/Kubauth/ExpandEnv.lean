import Kubauth.Delimited

/-!
# Environment variables in configuration files

`ExpandEnv` replaces the references to environment variables in a text by their
values.  It reads the bytes of the text once, keeping the chunk that it has not
copied yet as a range of indexes, and copies the chunk when the reference after
it is complete.  The output is kept here as the list of what is appended to it,
so that copied bytes can be told from values.
-/

namespace Kubauth.ExpandEnv

abbrev Bytes := List UInt8

/-- The bytes of an ASCII text. -/
def ascii (text : String) : Bytes :=
  text.toList.map Char.toUInt8

def newline : UInt8 := '\n'.toUInt8
def dollar : UInt8 := '$'.toUInt8
def leftBrace : UInt8 := '\x7b'.toUInt8
def rightBrace : UInt8 := '\x7d'.toUInt8

def isAlphanumeric (b : UInt8) : Bool :=
  ('a'.toUInt8 ≤ b && b ≤ 'z'.toUInt8) ||
    ('A'.toUInt8 ≤ b && b ≤ 'Z'.toUInt8) ||
    ('0'.toUInt8 ≤ b && b ≤ '9'.toUInt8) || b = '_'.toUInt8

/-- `state`. -/
inductive ScanState where
  | nominal
  | afterToken
  | inVar
  deriving Repr, DecidableEq

structure MissingVariableError where
  line : Nat
  variableName : Bytes
  deriving Repr, DecidableEq

/-- `Error`. -/
def MissingVariableError.error (failure : MissingVariableError) : Bytes :=
  ascii "environment variable '" ++ failure.variableName ++
    ascii ("' at line " ++ toString failure.line ++ " is not defined")

/-- How the function ends without a text: with an error, or with the panic of a
slice expression whose bounds are out of range. -/
inductive Stop where
  | missing (failure : MissingVariableError)
  | outOfRange
  deriving Repr, DecidableEq

/-- What is appended to the output. -/
inductive Piece where
  | copied (chunk : Bytes)
  | expanded (value : Bytes)
  deriving Repr, DecidableEq

def Piece.bytes : Piece → Bytes
  | .copied chunk => chunk
  | .expanded value => value

/-- The local variables of the loop.  `chunkEnd` is -1 if no reference is
started. -/
structure Scanner where
  output : List Piece
  variableName : Bytes
  chunkStart : Int
  line : Nat
  state : ScanState
  chunkEnd : Int
  deriving Repr, DecidableEq

def Scanner.start : Scanner :=
  { output := []
    variableName := []
    chunkStart := 0
    line := 1
    state := .nominal
    chunkEnd := -1 }

/-- The slice expression `s[low:high]`. -/
def slice (s : Bytes) (low high : Int) : Except Stop Bytes :=
  if 0 ≤ low ∧ low ≤ high ∧ high ≤ s.length then
    .ok ((s.take high.toNat).drop low.toNat)
  else .error .outOfRange

/-- The case `STATE_NOMINAL`. -/
def nominalStep (scanner : Scanner) (i : Nat) (byte : UInt8) : Scanner :=
  if byte = dollar then
    { scanner with state := .afterToken, chunkEnd := i }
  else scanner

/-- The case `STATE_AFTER_TOKEN`. -/
def afterTokenStep (scanner : Scanner) (byte : UInt8) : Scanner :=
  if byte = leftBrace then
    { scanner with state := .inVar, variableName := [] }
  else { scanner with state := .nominal, chunkEnd := -1 }

/-- The case `STATE_IN_VAR`. -/
def inVarStep (getenv : Bytes → Bytes) (s : Bytes) (scanner : Scanner)
    (i : Nat) (byte : UInt8) : Except Stop Scanner :=
  if byte = rightBrace then
    let value := getenv scanner.variableName
    if value = [] then
      .error (.missing
        { line := scanner.line, variableName := scanner.variableName })
    else
      match slice s scanner.chunkStart scanner.chunkEnd with
      | .error stop => .error stop
      | .ok chunk =>
          .ok { scanner with
            output := scanner.output ++ [.copied chunk, .expanded value]
            chunkStart := i + 1
            chunkEnd := -1
            state := .nominal }
  else if isAlphanumeric byte then
    .ok { scanner with variableName := scanner.variableName ++ [byte] }
  else .ok { scanner with state := .nominal, chunkEnd := -1 }

def Scanner.countLine (scanner : Scanner) (byte : UInt8) : Scanner :=
  { scanner with
    line := if byte = newline then scanner.line + 1 else scanner.line }

/-- The body of the loop. -/
def step (getenv : Bytes → Bytes) (s : Bytes) (scanner : Scanner) (i : Nat)
    (byte : UInt8) : Except Stop Scanner :=
  let scanner := scanner.countLine byte
  match scanner.state with
  | .nominal => .ok (nominalStep scanner i byte)
  | .afterToken => .ok (afterTokenStep scanner byte)
  | .inVar => inVarStep getenv s scanner i byte

/-- The loop, from the index `i` at which `rest` begins. -/
def scan (getenv : Bytes → Bytes) (s : Bytes) (scanner : Scanner) (i : Nat) :
    Bytes → Except Stop Scanner
  | [] => .ok scanner
  | byte :: rest =>
      match step getenv s scanner i byte with
      | .error stop => .error stop
      | .ok next => scan getenv s next (i + 1) rest

/-- The pieces of the output.  `getenv` is `os.Getenv`, which answers the empty
string for a variable that is not set. -/
def expandPieces (getenv : Bytes → Bytes) (s : Bytes) :
    Except Stop (List Piece) :=
  match scan getenv s .start 0 s with
  | .error stop => .error stop
  | .ok scanner =>
      match slice s scanner.chunkStart s.length with
      | .error stop => .error stop
      | .ok chunk => .ok (scanner.output ++ [.copied chunk])

def expandEnv (getenv : Bytes → Bytes) (s : Bytes) : Except Stop Bytes :=
  (expandPieces getenv s).map fun pieces => pieces.flatMap Piece.bytes

/-- How references to variables are written. -/
def delimiters : Delimiters UInt8 :=
  { marker := dollar
    opening := leftBrace
    closing := rightBrace
    isName := isAlphanumeric
    marker_not_name := by decide
    closing_not_name := by decide
    marker_ne_opening := by decide
    marker_ne_closing := by decide }

/-! ## Slices and lines -/

theorem slice_middle (first middle last : Bytes) :
    slice (first ++ middle ++ last) first.length (first ++ middle).length =
      .ok middle := by
  have bounds : (0 : Int) ≤ first.length ∧
      (first.length : Int) ≤ (first ++ middle).length ∧
      ((first ++ middle).length : Int) ≤
        (first ++ middle ++ last).length := by
    simp only [List.length_append]
    omega
  rw [slice, if_pos bounds, Int.toNat_natCast, Int.toNat_natCast,
    List.take_left', List.drop_left']
  · rfl
  · rfl

@[simp] theorem Scanner.variableName_countLine (scanner : Scanner)
    (byte : UInt8) :
    (scanner.countLine byte).variableName = scanner.variableName := rfl

theorem Scanner.line_countLine {scanner : Scanner} {before : Bytes}
    (line : scanner.line = 1 + before.count newline) (byte : UInt8) :
    (scanner.countLine byte).line = 1 + (before ++ [byte]).count newline := by
  rw [Scanner.countLine, List.count_append, List.count_singleton, line]
  by_cases same : byte = newline
  · rw [if_pos same, if_pos (beq_iff_eq.mpr same), Nat.add_assoc]
  · rw [if_neg same, if_neg (fun equal => same (beq_iff_eq.mp equal))]
    rfl

end Kubauth.ExpandEnv
