import PbrTelemetry.Text.Reader

/-!
# Writing configuration texts

Text is quoted in the plainest way that it allows: in double quotes, in single quotes, in three
double quotes, in three single quotes, and only then with escapes.  Text of several lines starts on
a line of its own.
-/

namespace PbrTelemetry.Toml

/-! ## The choice of quotes -/

inductive Quotes where
  | basic
  | literal
  | multilineBasic
  | multilineLiteral
  deriving DecidableEq, Repr

/-- The length of the longest run of a character, of which `run` are in front of the text. -/
def longestRun (mark : Char) (run : Nat) : List Char → Nat
  | [] => run
  | c :: rest =>
    if c = mark then longestRun mark (run + 1) rest else max run (longestRun mark 0 rest)

/-- Whether a character has to be escaped in every way of quoting. -/
def needsCode (c : Char) : Bool :=
  (c.toNat ≤ 0x1F && c ≠ '\t' && c ≠ '\n') || c.toNat = 0x7F

def Quotes.of (text : List Char) : Quotes :=
  let doubles := longestRun '"' 0 text
  let singles := longestRun '\'' 0 text
  let hasCode := text.any needsCode
  let hasBackslash := text.contains '\\'
  let hasNewline := text.contains '\n'
  if !hasCode ∧ !hasBackslash ∧ doubles = 0 ∧ !hasNewline then basic
  else if !hasCode ∧ singles = 0 ∧ !hasNewline then literal
  else if !hasCode ∧ !hasBackslash ∧ doubles ≤ 2 then multilineBasic
  else if !hasCode ∧ singles ≤ 2 then multilineLiteral
  else if hasNewline then multilineBasic
  else basic

/-! ## Escapes -/

def fourDigits (n : Nat) : List Char :=
  let digits := (Nat.toDigits 16 n).map Char.toUpper
  List.replicate (4 - digits.length) '0' ++ digits

def escapeChar (multiline : Bool) (c : Char) : List Char :=
  if c.toNat = 8 then ['\\', 'b']
  else if c = '\t' then ['\\', 't']
  else if c = '\n' then if multiline then ['\n'] else ['\\', 'n']
  else if c.toNat = 12 then ['\\', 'f']
  else if c = '\r' then ['\\', 'r']
  else if c = '\\' then ['\\', '\\']
  else if needsCode c then ['\\', 'u'] ++ fourDigits c.toNat
  else [c]

/-- Text in double quotes behind `run` quotes that are not escaped.  In three quotes, two quotes in
a row need no escape. -/
def escapeText (multiline : Bool) (run : Nat) : List Char → List Char
  | [] => []
  | c :: rest =>
    if c = '"' then
      if multiline ∧ run < 2 then '"' :: escapeText multiline (run + 1) rest
      else '\\' :: '"' :: escapeText multiline 0 rest
    else escapeChar multiline c ++ escapeText multiline 0 rest

/-! ## Lines -/

def openingBreak (text : List Char) : List Char := if text.contains '\n' then ['\n'] else []

def renderText (text : List Char) : List Char :=
  match Quotes.of text with
  | .basic => '"' :: escapeText false 0 text ++ ['"']
  | .literal => '\'' :: text ++ ['\'']
  | .multilineBasic =>
    ['"', '"', '"'] ++ openingBreak text ++ escapeText true 0 text ++ ['"', '"', '"']
  | .multilineLiteral =>
    ['\'', '\'', '\''] ++ openingBreak text ++ text ++ ['\'', '\'', '\'']

def renderPair (name : String) (value : List Char) : List Char :=
  name.toList ++ [' ', '=', ' '] ++ value ++ ['\n']

def renderTextPair (name value : String) : List Char :=
  renderPair name (renderText value.toList)

def renderNaturalPair (name : String) (value : Nat) : List Char :=
  renderPair name (Nat.toDigits 10 value)

def renderFlagPair (name : String) (value : Bool) : List Char :=
  renderPair name (if value then "true" else "false").toList

def renderHeader (name : String) : List Char := '[' :: name.toList ++ [']', '\n']

def renderElementHeader (name : String) : List Char :=
  ['[', '['] ++ name.toList ++ [']', ']', '\n']

end PbrTelemetry.Toml
