import PbrTelemetry.Text.Reader

/-!
# Quoted text in configurations

Text stands in double quotes, where a backslash escapes, or in single quotes, where nothing does.
Either quote can be tripled, and then the text may span lines; a line break right behind the
opening quotes does not count, and every other one reads as a newline.

Every reader here starts behind the opening quotes.
-/

namespace PbrTelemetry.Toml

open Text (Reader hexNumber)

/-- Whether a character may stand for itself in a comment and in quoted text, quotes and
backslashes apart: no control but the tab. -/
def isPlain (c : Char) : Bool := c = '\t' || (' ' ≤ c && c.toNat ≠ 0x7F)

def isBlank (c : Char) : Bool := c = ' ' || c = '\t'

def skipBlanks (text : List Char) : List Char := text.dropWhile isBlank

def lineBreak? : List Char → Option (List Char)
  | '\n' :: rest => some rest
  | '\r' :: '\n' :: rest => some rest
  | _ => none

def scalar? (n : Nat) : Option Char := if n.isValidChar then some (Char.ofNat n) else none

def numberedChar (count : Nat) (text : List Char) : Option (Char × List Char) := do
  let (n, rest) ← hexNumber 0 count text
  return (← scalar? n, rest)

def escape : Reader Char
  | 'b' :: rest => some (Char.ofNat 8, rest)
  | 't' :: rest => some ('\t', rest)
  | 'n' :: rest => some ('\n', rest)
  | 'f' :: rest => some (Char.ofNat 12, rest)
  | 'r' :: rest => some ('\r', rest)
  | '"' :: rest => some ('"', rest)
  | '\\' :: rest => some ('\\', rest)
  | 'u' :: rest => numberedChar 4 rest
  | 'U' :: rest => numberedChar 8 rest
  | _ => none

def basicBody : Nat → Reader (List Char)
  | 0, _ => none
  | _, [] => none
  | _ + 1, '"' :: rest => some ([], rest)
  | fuel + 1, '\\' :: rest => do
    let (c, rest) ← escape rest
    let (body, rest) ← basicBody fuel rest
    return (c :: body, rest)
  | fuel + 1, c :: rest =>
    if isPlain c then do
      let (body, rest) ← basicBody fuel rest
      return (c :: body, rest)
    else none

def literalBody : Reader (List Char)
  | [] => none
  | '\'' :: rest => some ([], rest)
  | c :: rest =>
    if isPlain c then do
      let (body, rest) ← literalBody rest
      return (c :: body, rest)
    else none

/-- The text behind a line continuation: blanks, a line break, and then blanks and line breaks. -/
def continuation? (text : List Char) : Option (List Char) := do
  let rest ← lineBreak? (skipBlanks text)
  return skipSpace (rest.length + 1) rest
where
  skipSpace : Nat → List Char → List Char
    | 0, text => text
    | fuel + 1, text =>
      let text := skipBlanks text
      match lineBreak? text with
      | some rest => skipSpace fuel rest
      | none => text

/-- Text up to three double quotes.  Up to two more quotes right before them are text. -/
def multilineBasicBody : Nat → Reader (List Char)
  | 0, _ => none
  | _, [] => none
  | _ + 1, '"' :: '"' :: '"' :: '"' :: '"' :: rest => some (['"', '"'], rest)
  | _ + 1, '"' :: '"' :: '"' :: '"' :: rest => some (['"'], rest)
  | _ + 1, '"' :: '"' :: '"' :: rest => some ([], rest)
  | fuel + 1, '\\' :: rest =>
    match continuation? rest with
    | some rest => multilineBasicBody fuel rest
    | none => do
      let (c, rest) ← escape rest
      let (body, rest) ← multilineBasicBody fuel rest
      return (c :: body, rest)
  | fuel + 1, c :: rest =>
    match lineBreak? (c :: rest) with
    | some rest => do
      let (body, rest) ← multilineBasicBody fuel rest
      return ('\n' :: body, rest)
    | none =>
      if isPlain c then do
        let (body, rest) ← multilineBasicBody fuel rest
        return (c :: body, rest)
      else none

/-- Text up to three single quotes.  Up to two more quotes right before them are text. -/
def multilineLiteralBody : Nat → Reader (List Char)
  | 0, _ => none
  | _, [] => none
  | _ + 1, '\'' :: '\'' :: '\'' :: '\'' :: '\'' :: rest => some (['\'', '\''], rest)
  | _ + 1, '\'' :: '\'' :: '\'' :: '\'' :: rest => some (['\''], rest)
  | _ + 1, '\'' :: '\'' :: '\'' :: rest => some ([], rest)
  | fuel + 1, c :: rest =>
    match lineBreak? (c :: rest) with
    | some rest => do
      let (body, rest) ← multilineLiteralBody fuel rest
      return ('\n' :: body, rest)
    | none =>
      if isPlain c then do
        let (body, rest) ← multilineLiteralBody fuel rest
        return (c :: body, rest)
      else none

def dropLineBreak (text : List Char) : List Char := (lineBreak? text).getD text

def lineString : Reader String
  | '"' :: rest => (basicBody (rest.length + 1) rest).map fun (s, rest) => (String.ofList s, rest)
  | '\'' :: rest => (literalBody rest).map fun (s, rest) => (String.ofList s, rest)
  | _ => none

def quotedString : Reader String
  | '"' :: '"' :: '"' :: rest =>
    let rest := dropLineBreak rest
    (multilineBasicBody (rest.length + 1) rest).map fun (s, rest) => (String.ofList s, rest)
  | '\'' :: '\'' :: '\'' :: rest =>
    let rest := dropLineBreak rest
    (multilineLiteralBody (rest.length + 1) rest).map fun (s, rest) => (String.ofList s, rest)
  | text => lineString text

end PbrTelemetry.Toml
