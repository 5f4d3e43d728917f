import CameraRecorder.Json.Basic

/-!
# Scanning structured text

The pieces that values are made of: blanks, words, strings and numbers. Each scanner gives what it
read and the characters after it, or the first fault. A value that is not wanted is skipped: it
still has to be well formed, but its strings and numbers need not stand for anything.

Each step of a loop takes at least one character. So a list that is no shorter than the text bounds
the number of steps, and a loop starts with the text itself as its `bound`.
-/

namespace CameraRecorder.Json

/-- Why a document is refused: it ends too early, it breaks the grammar, or it is well formed so
far but not of the expected shape. -/
inductive Fault where
  | truncated
  | malformed
  | mismatch
deriving DecidableEq, Repr

/-- Whether a character may stand between any two pieces. -/
def isBlank (c : Char) : Bool := c = ' ' || c = '\n' || c = '\t' || c = '\r'

/-- The document from its first character that is not blank. -/
def skipBlanks (cs : List Char) : List Char := cs.dropWhile isBlank

/-- The document after the rest of a word. -/
def scanWord : List Char → List Char → Except Fault (List Char)
  | [], cs => .ok cs
  | _ :: _, [] => .error .truncated
  | w :: word, c :: cs => if c = w then scanWord word cs else .error .malformed

/-! ## Strings -/

def hexValue? (c : Char) : Option Nat :=
  if '0' ≤ c ∧ c ≤ '9' then some (c.toNat - '0'.toNat)
  else if 'a' ≤ c ∧ c ≤ 'f' then some (c.toNat - 'a'.toNat + 10)
  else if 'A' ≤ c ∧ c ≤ 'F' then some (c.toNat - 'A'.toNat + 10)
  else none

/-- The value of four hexadecimal digits. -/
def hexWord? (a b c d : Char) : Option Nat := do
  let a ← hexValue? a
  let b ← hexValue? b
  let c ← hexValue? c
  let d ← hexValue? d
  return ((a * 16 + b) * 16 + c) * 16 + d

/-- Scans four hexadecimal digits. The document ends too early if fewer than four bytes are left
of it. -/
def scanHexWord : List Char → Except Fault (Nat × List Char)
  | a :: b :: c :: d :: rest =>
    match hexWord? a b c d with
    | some n => .ok (n, rest)
    | none => .error .malformed
  | cs => if (String.ofList cs).utf8ByteSize < 4 then .error .truncated else .error .malformed

/-- Scans the second half of a surrogate pair whose first half is `high`. -/
def scanLowSurrogate (high : Nat) : List Char → Except Fault (Char × List Char)
  | [] => .error .truncated
  | '\\' :: [] => .error .truncated
  | '\\' :: 'u' :: rest =>
    match scanHexWord rest with
    | .error fault => .error fault
    | .ok (low, rest) =>
      if 0xDC00 ≤ low ∧ low ≤ 0xDFFF then
        .ok (Char.ofNat ((high - 0xD800) * 0x400 + (low - 0xDC00) + 0x10000), rest)
      else .error .malformed
  | _ => .error .malformed

/-- The character that a one-letter escape stands for. -/
def escaped? (c : Char) : Option Char :=
  if c = '"' ∨ c = '\\' ∨ c = '/' then some c
  else if c = 'b' then some '\x08'
  else if c = 'f' then some '\x0c'
  else if c = 'n' then some '\n'
  else if c = 'r' then some '\r'
  else if c = 't' then some '\t'
  else none

/-- Scans an escape after its backslash. A surrogate has to be one of a pair. -/
def scanEscape : List Char → Except Fault (Char × List Char)
  | [] => .error .truncated
  | 'u' :: rest =>
    match scanHexWord rest with
    | .error fault => .error fault
    | .ok (n, rest) =>
      if 0xDC00 ≤ n ∧ n ≤ 0xDFFF then .error .malformed
      else if 0xD800 ≤ n ∧ n ≤ 0xDBFF then scanLowSurrogate n rest
      else .ok (Char.ofNat n, rest)
  | c :: rest =>
    match escaped? c with
    | some e => .ok (e, rest)
    | none => .error .malformed

/-- Scans the characters of a string and its closing quote. -/
def scanCharacters (bound cs : List Char) : Except Fault (List Char × List Char) :=
  match bound, cs with
  | [], _ => .error .truncated
  | _ :: _, [] => .error .truncated
  | _ :: bound, c :: rest =>
    if c = '"' then .ok ([], rest)
    else if c = '\\' then do
      let (e, rest) ← scanEscape rest
      let (s, rest) ← scanCharacters bound rest
      return (e :: s, rest)
    else if c < ' ' then .error .malformed
    else do
      let (s, rest) ← scanCharacters bound rest
      return (c :: s, rest)

/-- Scans a string after its opening quote. -/
def scanText (cs : List Char) : Except Fault (String × List Char) := do
  let (s, rest) ← scanCharacters cs cs
  return (String.ofList s, rest)

/-- Skips an escape after its backslash. Any four hexadecimal digits will do. -/
def skipEscape : List Char → Except Fault (List Char)
  | [] => .error .truncated
  | 'u' :: rest => (scanHexWord rest).map (·.2)
  | c :: rest => if (escaped? c).isSome then .ok rest else .error .malformed

/-- Skips the characters of a string and its closing quote. -/
def skipCharacters (bound cs : List Char) : Except Fault (List Char) :=
  match bound, cs with
  | [], _ => .error .truncated
  | _ :: _, [] => .error .truncated
  | _ :: bound, c :: rest =>
    if c = '"' then .ok rest
    else if c = '\\' then do
      let rest ← skipEscape rest
      skipCharacters bound rest
    else if c < ' ' then .error .malformed
    else skipCharacters bound rest

/-- Skips a string after its opening quote. -/
def skipText (cs : List Char) : Except Fault (List Char) := skipCharacters cs cs

/-! ## Numbers -/

def isDigit (c : Char) : Bool := '0' ≤ c && c ≤ '9'

def digitValue (c : Char) : Nat := c.toNat - '0'.toNat

/-- Leading digits as far as they fit in 64 bits, with the number of digits that were read and
of those left over. -/
structure Significand where
  value : Nat := 0
  digits : Nat := 0
  excess : Nat := 0
deriving DecidableEq, Repr

/-- Appends a digit. Once one does not fit, no later one is looked at. -/
def Significand.push (s : Significand) (c : Char) : Significand :=
  let value := s.value * 10 + digitValue c
  if s.excess = 0 ∧ value < UInt64.size then { s with value, digits := s.digits + 1 }
  else { s with excess := s.excess + 1 }

/-- A number cut to its 53 leading binary digits, a half going to the even neighbour. -/
def roundToDouble (n : Nat) : Nat :=
  let unit := 1 <<< (n.log2 + 1 - 53)
  let half := n % unit * 2
  let down := n / unit
  if unit < half ∨ unit = half ∧ down % 2 = 1 then (down + 1) * unit else down * unit

/-- The least number that double precision rounds to infinity. -/
def doubleOverflow : Nat := 1 <<< 1024 - 1 <<< 970

/-- Whether a number with an exponent is beyond double precision. The scaled number is the
product of its two rounded factors, and no power of ten above 308 is one. -/
def outOfRange (significand : Nat) (exponent : Int) : Bool :=
  significand ≠ 0 && 0 ≤ exponent &&
    (308 < exponent ||
      doubleOverflow ≤ roundToDouble significand * roundToDouble (Nat.pow 10 exponent.toNat))

/-- Ends a number that is not plain: it has to be in the range of double precision. -/
def finishScaled (significand : Nat) (exponent : Int) (rest : List Char) :
    Except Fault (Option Nat × List Char) :=
  if outOfRange significand exponent then .error .malformed else .ok (none, rest)

/-- Scans an exponent after its letter. -/
def scanExponent (significand : Nat) (start : Int) (cs : List Char) :
    Except Fault (Option Nat × List Char) :=
  let (negative, cs) := match cs with
    | '+' :: rest => (false, rest)
    | '-' :: rest => (true, rest)
    | cs => (false, cs)
  match cs with
  | [] => .error .truncated
  | c :: _ =>
    if isDigit c then
      let exponent : Int := (cs.takeWhile isDigit).foldl (fun n c => n * 10 + digitValue c) 0
      finishScaled significand (if negative then start - exponent else start + exponent)
        (cs.dropWhile isDigit)
    else .error .malformed

/-- Scans what may follow the digits of a number that is no longer plain. -/
def scanScaled (significand : Nat) (exponent : Int) :
    List Char → Except Fault (Option Nat × List Char)
  | 'e' :: rest | 'E' :: rest => scanExponent significand exponent rest
  | rest => finishScaled significand exponent rest

/-- Scans decimal places after their point. -/
def scanPlaces (significand : Nat) (exponent : Int) (cs : List Char) :
    Except Fault (Option Nat × List Char) :=
  match cs with
  | [] => .error .truncated
  | c :: _ =>
    if isDigit c then
      let s := (cs.takeWhile isDigit).foldl Significand.push { value := significand }
      scanScaled s.value (exponent - s.digits) (cs.dropWhile isDigit)
    else .error .malformed

/-- Scans a number without its sign. The result is its value if it is plain digits that fit in 64
bits; any other number is read but has no result. -/
def scanNumber : List Char → Except Fault (Option Nat × List Char)
  | [] => .error .truncated
  | c :: rest =>
    if c = '0' ∧ rest.head?.any isDigit then .error .malformed
    else if isDigit c then
      let digits := (c :: rest).takeWhile isDigit
      let s := digits.foldl Significand.push {}
      match (c :: rest).dropWhile isDigit with
      | '.' :: rest => scanPlaces s.value s.excess rest
      | 'e' :: rest | 'E' :: rest => scanExponent s.value s.excess rest
      | rest =>
        if s.excess = 0 then .ok (some s.value, rest) else finishScaled s.value s.excess rest
    else .error .malformed

/-- Skips an exponent after its letter. -/
def skipExponent (cs : List Char) : Except Fault (List Char) :=
  let cs := match cs with
    | '+' :: rest | '-' :: rest => rest
    | cs => cs
  if cs.head?.any isDigit then .ok (cs.dropWhile isDigit) else .error .malformed

/-- Skips what may follow the digits of a number. -/
def skipScale : List Char → Except Fault (List Char)
  | 'e' :: rest | 'E' :: rest => skipExponent rest
  | rest => .ok rest

/-- Skips a number without its sign. A number that stops short is malformed, also at the end of the
document. -/
def skipNumber (cs : List Char) : Except Fault (List Char) :=
  match cs with
  | [] => .error .malformed
  | c :: rest =>
    if c = '0' ∧ rest.head?.any isDigit then .error .malformed
    else if isDigit c then
      match cs.dropWhile isDigit with
      | '.' :: rest =>
        if rest.head?.any isDigit then skipScale (rest.dropWhile isDigit) else .error .malformed
      | rest => skipScale rest
    else .error .malformed

/-! ## Separators -/

/-- What stands before the next item of a list: the item, or the closing bracket. -/
def nextItem (isFirst : Bool) (cs : List Char) : Except Fault (Option (List Char)) :=
  match skipBlanks cs with
  | [] => .error .truncated
  | ']' :: _ => .ok none
  | ',' :: rest =>
    if isFirst then .ok (some (',' :: rest))
    else match skipBlanks rest with
      | [] => .error .truncated
      | ']' :: _ => .error .malformed
      | item => .ok (some item)
  | item => if isFirst then .ok (some item) else .error .malformed

/-- What stands before the next member of an object: its name after the opening quote, or the
closing bracket. -/
def nextMember (isFirst : Bool) (cs : List Char) : Except Fault (Option (List Char)) :=
  match skipBlanks cs with
  | [] => .error .truncated
  | '\x7d' :: _ => .ok none
  | '"' :: name => if isFirst then .ok (some name) else .error .malformed
  | ',' :: rest =>
    if isFirst then .error .malformed
    else match skipBlanks rest with
      | [] => .error .truncated
      | '"' :: name => .ok (some name)
      | _ => .error .malformed
  | _ => .error .malformed

/-- The document after the next character, which has to be `mark`. -/
def scanMark (mark : Char) (cs : List Char) : Except Fault (List Char) :=
  match skipBlanks cs with
  | [] => .error .truncated
  | c :: rest => if c = mark then .ok rest else .error .malformed

/-! ## Skipping whole values -/

mutual

/-- Skips a value. -/
def skipValue (bound cs : List Char) : Except Fault (List Char) :=
  match bound with
  | [] => .error .truncated
  | _ :: bound =>
    match skipBlanks cs with
    | [] => .error .truncated
    | 'n' :: rest => scanWord "ull".toList rest
    | 't' :: rest => scanWord "rue".toList rest
    | 'f' :: rest => scanWord "alse".toList rest
    | '-' :: rest => skipNumber rest
    | '"' :: rest => skipText rest
    | '[' :: rest => do
      match ← nextItem true rest with
      | none => scanMark ']' rest
      | some item => do
        let rest ← skipValue bound item
        skipItems bound rest
    | '\x7b' :: rest => do
      match ← nextMember true rest with
      | none => scanMark '\x7d' rest
      | some name => do
        let rest ← skipText name
        let rest ← scanMark ':' rest
        let rest ← skipValue bound rest
        skipMembers bound rest
    | c :: rest => if isDigit c then skipNumber (c :: rest) else .error .malformed
termination_by structural bound

/-- Skips the items of a list that are left after one of them, and its closing bracket. -/
def skipItems (bound cs : List Char) : Except Fault (List Char) :=
  match bound with
  | [] => .error .truncated
  | _ :: bound => do
    match ← nextItem false cs with
    | none => scanMark ']' cs
    | some item => do
      let rest ← skipValue bound item
      skipItems bound rest
termination_by structural bound

/-- Skips the members of an object that are left after one of them, and its closing bracket. -/
def skipMembers (bound cs : List Char) : Except Fault (List Char) :=
  match bound with
  | [] => .error .truncated
  | _ :: bound => do
    match ← nextMember false cs with
    | none => scanMark '\x7d' cs
    | some name => do
      let rest ← skipText name
      let rest ← scanMark ':' rest
      let rest ← skipValue bound rest
      skipMembers bound rest
termination_by structural bound

end

end CameraRecorder.Json
