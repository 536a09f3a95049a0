/-
  TOML strings, keys, blanks and comments. Every reader takes the front of the text and returns
  what follows.
-/
import WorkbookQuery.Json.Token

namespace WorkbookQuery.Toml

/-- A reader of the front of a text. -/
abbrev Reader (α : Type) := List Char → Option (α × List Char)

def isSpace (c : Char) : Bool := c == ' ' || c == '\t'

def skipSpace (s : List Char) : List Char := s.dropWhile isSpace

/-- What follows the end of a line. -/
def newline? : List Char → Option (List Char)
  | '\n' :: s => some s
  | '\r' :: '\n' :: s => some s
  | _ => none

/-- The characters that may stand as they are in comments and strings. -/
def isPlain (c : Char) : Bool := c == '\t' || (0x20 ≤ c.toNat && c.toNat != 0x7F)

/-- What follows a comment, if there is one. -/
def skipComment : List Char → List Char
  | '#' :: s => s.dropWhile isPlain
  | s => s

/-- What follows a line of which only blanks and a comment are left. -/
def lineEnd? (s : List Char) : Option (List Char) :=
  match skipComment (skipSpace s) with
  | [] => some []
  | s => newline? s

/-- Blanks, comments and ends of lines passed over, at most `n` of them. -/
def skipLines : (n : Nat) → List Char → List Char
  | 0, s => s
  | n + 1, s =>
    let s := skipSpace s
    match newline? (skipComment s) with
    | some rest => skipLines n rest
    | none => s

def skipGaps (s : List Char) : List Char := skipLines s.length s

/-- Blanks and ends of lines passed over, at most `n` lines. -/
def skipBlankLines : (n : Nat) → List Char → List Char
  | 0, s => s
  | n + 1, s =>
    let s := skipSpace s
    match newline? s with
    | some rest => skipBlankLines n rest
    | none => s

/-! ## Strings -/

/-- The character with this code, if there is one. -/
def charOfCode? (n : Nat) : Option Char := if n.isValidChar then some (Char.ofNat n) else none

/-- The character named by `n` hexadecimal digits. -/
def codeEscape? (n : Nat) (s : List Char) : Option (Char × List Char) := do
  let ds ← (s.take n).mapM JsonToken.hexValue?
  if ds.length = n then
    return (← charOfCode? (ds.foldl (fun v d => 16 * v + d) 0), s.drop n)
  else none

/-- What stands after a backslash. -/
def escape? : Reader Char
  | 'u' :: s => codeEscape? 4 s
  | 'U' :: s => codeEscape? 8 s
  | '/' :: _ => none
  | c :: s => (JsonToken.escaped? c).map (·, s)
  | [] => none

/-- The rest of a string between double quotes, at most `n` characters. -/
def basicBody : (n : Nat) → Reader (List Char)
  | 0, _ => none
  | n + 1, s =>
    match s with
    | '"' :: s => some ([], s)
    | '\\' :: s => do
      let (c, s) ← escape? s
      let (cs, s) ← basicBody n s
      return (c :: cs, s)
    | c :: s =>
      if isPlain c then (basicBody n s).map fun (cs, s) => (c :: cs, s) else none
    | [] => none

/-- The rest of a string between single quotes. -/
def literalBody (s : List Char) : Option (List Char × List Char) :=
  let body := s.takeWhile fun c => isPlain c && c != '\''
  match s.drop body.length with
  | '\'' :: rest => some (body, rest)
  | _ => none

/-- Up to two quotes in front of the closing ones belong to the string. -/
def closingQuotes (q : Char) (s : List Char) : List Char × List Char :=
  let extra := (s.takeWhile (· == q)).take 2
  (extra, s.drop extra.length)

/-- The rest of a string over several lines; `q` is its quotation mark. Backslashes mean
something between double quotes only; one at the end of a line joins the next text to it. -/
def longBody (q : Char) : (n : Nat) → Reader (List Char)
  | 0, _ => none
  | n + 1, s =>
    if s.take 3 == [q, q, q] then some (closingQuotes q (s.drop 3))
    else match newline? s with
      | some s => (longBody q n s).map fun (cs, s) => ('\n' :: cs, s)
      | none =>
        match s with
        | [] => none
        | c :: s =>
          if c = '\\' ∧ q = '"' then
            match newline? (skipSpace s) with
            | some rest => longBody q n (skipBlankLines rest.length rest)
            | none => do
              let (c, s) ← escape? s
              let (cs, s) ← longBody q n s
              return (c :: cs, s)
          else if isPlain c then (longBody q n s).map fun (cs, s) => (c :: cs, s)
          else none

/-- A string on one line. -/
def shortString? : Reader String
  | '"' :: s => (basicBody (s.length + 1) s).map fun (cs, s) => (String.ofList cs, s)
  | '\'' :: s => (literalBody s).map fun (cs, s) => (String.ofList cs, s)
  | _ => none

/-- A string of any kind. The end of a line right after the opening quotes does not count. -/
def string? (s : List Char) : Option (String × List Char) :=
  let long (q : Char) (s : List Char) : Option (String × List Char) :=
    let s := (newline? s).getD s
    (longBody q (s.length + 1) s).map fun (cs, s) => (String.ofList cs, s)
  match s with
  | '"' :: '"' :: '"' :: s => long '"' s
  | '\'' :: '\'' :: '\'' :: s => long '\'' s
  | s => shortString? s

/-! ## Keys -/

def isBareKeyChar (c : Char) : Bool := c.isAlphanum || c == '-' || c == '_'

def simpleKey? (s : List Char) : Option (String × List Char) :=
  match s with
  | '"' :: _ | '\'' :: _ => shortString? s
  | s =>
    let bare := s.takeWhile isBareKeyChar
    if bare = [] then none else some (String.ofList bare, s.drop bare.length)

/-- Simple keys with points between them, at most `n`; blanks do not count. -/
def keyParts? : (n : Nat) → Reader (List String)
  | 0, _ => none
  | n + 1, s => do
    let (k, s) ← simpleKey? (skipSpace s)
    match skipSpace s with
    | '.' :: s => do
      let (ks, s) ← keyParts? n s
      return (k :: ks, s)
    | s => return ([k], s)

/-- A key: the parts before its last, and its last. A key has fewer than eighty parts. -/
def key? (s : List Char) : Option ((List String × String) × List Char) := do
  let (parts, s) ← keyParts? 79 s
  return ((parts.dropLast, ← parts.getLast?), s)

end WorkbookQuery.Toml
