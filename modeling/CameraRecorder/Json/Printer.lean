import CameraRecorder.Json.Basic

/-!
# Printing structured text

A value has a compact form without blanks and a pretty form with one member or item a line, two
blanks deeper than the brackets around it. Only quotes, backslashes and control characters are
escaped.
-/

namespace CameraRecorder.Json

/-- A hexadecimal digit in lower case. -/
def hexDigit (n : Nat) : Char := Nat.digitChar (n % 16)

/-- A character as it stands between quotes. -/
def escapeChar (c : Char) : List Char :=
  if c = '"' then ['\\', '"']
  else if c = '\\' then ['\\', '\\']
  else if c = '\x08' then ['\\', 'b']
  else if c = '\x0c' then ['\\', 'f']
  else if c = '\n' then ['\\', 'n']
  else if c = '\r' then ['\\', 'r']
  else if c = '\t' then ['\\', 't']
  else if c < ' ' then ['\\', 'u', '0', '0', hexDigit (c.toNat / 16), hexDigit c.toNat]
  else [c]

/-- A text between quotes. -/
def quoted (s : String) : List Char :=
  '"' :: s.toList.flatMap escapeChar ++ ['"']

/-- A number in decimal. -/
def decimal : Int → List Char
  | .ofNat n => Nat.toDigits 10 n
  | .negSucc n => '-' :: Nat.toDigits 10 (n + 1)

/-- The word for a truth value. -/
def flagWord (b : Bool) : List Char := if b then "true".toList else "false".toList

/-- Pieces with a comma after each but the last. -/
def commaSeparated : List (List Char) → List Char
  | [] => []
  | [piece] => piece
  | piece :: rest => piece ++ ',' :: commaSeparated rest

mutual

def compact : Json → List Char
  | .null => "null".toList
  | .flag b => flagWord b
  | .number n => decimal n
  | .text s => quoted s
  | .list items => '[' :: commaSeparated (compactItems items) ++ [']']
  | .object members => '{' :: commaSeparated (compactMembers members) ++ ['}']

def compactItems : List Json → List (List Char)
  | [] => []
  | item :: rest => compact item :: compactItems rest

def compactMembers : List (String × Json) → List (List Char)
  | [] => []
  | (name, value) :: rest => (quoted name ++ ':' :: compact value) :: compactMembers rest

end

/-- A line break followed by two blanks for each level. -/
def lineBreak (depth : Nat) : List Char := '\n' :: List.replicate (2 * depth) ' '

/-- Pieces between brackets, each on a line of its own unless there are none. -/
def bracketed (depth : Nat) (opening closing : Char) : List (List Char) → List Char
  | [] => [opening, closing]
  | pieces =>
    opening :: commaSeparated (pieces.map (lineBreak (depth + 1) ++ ·)) ++
      lineBreak depth ++ [closing]

mutual

/-- The pretty form of a value that stands `depth` brackets deep. -/
def prettyAt (depth : Nat) : Json → List Char
  | .null => "null".toList
  | .flag b => flagWord b
  | .number n => decimal n
  | .text s => quoted s
  | .list items => bracketed depth '[' ']' (prettyItems (depth + 1) items)
  | .object members => bracketed depth '\x7b' '\x7d' (prettyMembers (depth + 1) members)

def prettyItems (depth : Nat) : List Json → List (List Char)
  | [] => []
  | item :: rest => prettyAt depth item :: prettyItems depth rest

def prettyMembers (depth : Nat) : List (String × Json) → List (List Char)
  | [] => []
  | (name, value) :: rest =>
    (quoted name ++ ':' :: ' ' :: prettyAt depth value) :: prettyMembers depth rest

end

def pretty (value : Json) : List Char := prettyAt 0 value

end CameraRecorder.Json
