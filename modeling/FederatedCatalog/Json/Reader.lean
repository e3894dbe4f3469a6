import FederatedCatalog.Json.Basic

namespace FederatedCatalog.Json

def isBlank (c : Char) : Bool :=
  c = ' ' || c = '\t' || c = '\n' || c = '\r'

def skipBlanks (s : List Char) : List Char :=
  s.dropWhile isBlank

def digit? (c : Char) : Option Nat :=
  if '0' ≤ c ∧ c ≤ '9' then some (c.toNat - '0'.toNat) else none

def hexDigit? (c : Char) : Option Nat :=
  if '0' ≤ c ∧ c ≤ '9' then some (c.toNat - '0'.toNat)
  else if 'a' ≤ c ∧ c ≤ 'f' then some (c.toNat - 'a'.toNat + 10)
  else if 'A' ≤ c ∧ c ≤ 'F' then some (c.toNat - 'A'.toNat + 10)
  else none

def readDigits : List Char → List Nat × List Char
  | [] => ([], [])
  | c :: s =>
    match digit? c with
    | none => ([], c :: s)
    | some d =>
      let (digits, rest) := readDigits s
      (d :: digits, rest)

/-- A number's whole part: a single zero, or digits of which the first is none. -/
def readWhole (s : List Char) : Option (List Nat × List Char) :=
  match readDigits s with
  | ([], _) => none
  | (0 :: _ :: _, _) => none
  | read => some read

def readFraction : List Char → Option (Option (List Nat) × List Char)
  | '.' :: s =>
    match readDigits s with
    | ([], _) => none
    | (digits, rest) => some (some digits, rest)
  | s => some (none, s)

def readSign : List Char → Bool × List Char
  | '-' :: s => (true, s)
  | '+' :: s => (false, s)
  | s => (false, s)

def readExponent : List Char → Option (Option (Bool × List Nat) × List Char)
  | c :: s =>
    if c = 'e' ∨ c = 'E' then
      let (negative, s) := readSign s
      match readDigits s with
      | ([], _) => none
      | (digits, rest) => some (some (negative, digits), rest)
    else some (none, c :: s)
  | [] => some (none, [])

def readNumber (s : List Char) : Option (Numeral × List Char) := do
  let (negative, s) := match s with
    | '-' :: s => (true, s)
    | s => (false, s)
  let (whole, s) ← readWhole s
  let (fraction?, s) ← readFraction s
  let (exponent?, s) ← readExponent s
  return (⟨negative, whole, fraction?, exponent?⟩, s)

/-- One item of a string: a character, or the code of an escape, which may be half a pair. -/
inductive Piece
  | char (c : Char)
  | code (n : Nat)
  deriving DecidableEq

def simpleEscape? (c : Char) : Option Char :=
  if c = '"' ∨ c = '\\' ∨ c = '/' then some c
  else if c = 'b' then some '\x08'
  else if c = 'f' then some '\x0c'
  else if c = 'n' then some '\n'
  else if c = 'r' then some '\r'
  else if c = 't' then some '\t'
  else none

def hexCode? (a b c d : Char) : Option Nat := do
  return (((← hexDigit? a) * 16 + (← hexDigit? b)) * 16 + (← hexDigit? c)) * 16 + (← hexDigit? d)

/-- A string's items, from behind its opening mark, and what follows its closing mark. -/
def readPieces : List Char → Option (List Piece × List Char)
  | [] => none
  | '"' :: s => some ([], s)
  | '\\' :: 'u' :: a :: b :: c :: d :: s =>
    match hexCode? a b c d with
    | none => none
    | some code => (readPieces s).map fun (pieces, rest) => (.code code :: pieces, rest)
  | '\\' :: c :: s =>
    match simpleEscape? c with
    | none => none
    | some c => (readPieces s).map fun (pieces, rest) => (.char c :: pieces, rest)
  | c :: s =>
    if c.toNat < 0x20 ∨ c = '\\' then none
    else (readPieces s).map fun (pieces, rest) => (.char c :: pieces, rest)

def isHighSurrogate (code : Nat) : Bool :=
  0xD800 ≤ code && code < 0xDC00

def isLowSurrogate (code : Nat) : Bool :=
  0xDC00 ≤ code && code < 0xE000

/-- The characters of a string, if every surrogate is one of a pair. -/
def joinPieces : List Piece → Option (List Char)
  | [] => some []
  | .char c :: rest => (joinPieces rest).map (c :: ·)
  | .code high :: .code low :: rest =>
    if isHighSurrogate high then
      if isLowSurrogate low then
        (joinPieces rest).map
          (Char.ofNat (0x10000 + (high - 0xD800) * 0x400 + (low - 0xDC00)) :: ·)
      else none
    else if isLowSurrogate high then none
    else (joinPieces (.code low :: rest)).map (Char.ofNat high :: ·)
  | .code code :: rest =>
    if isHighSurrogate code || isLowSurrogate code then none
    else (joinPieces rest).map (Char.ofNat code :: ·)

def readString (s : List Char) : Option (Option String × List Char) :=
  (readPieces s).map fun (pieces, rest) => ((joinPieces pieces).map String.ofList, rest)

/-- A member's name and the colon behind it, where a name is to come. -/
def readName (s : List Char) : Option (Option String × List Char) :=
  match skipBlanks s with
  | '"' :: s =>
    (readString s).bind fun (name?, s) =>
      match skipBlanks s with
      | ':' :: s => some (name?, s)
      | _ => none
  | _ => none

mutual

def readValue : Nat → List Char → Option (Json × List Char)
  | 0, _ => none
  | fuel + 1, s =>
    match skipBlanks s with
    | 'n' :: 'u' :: 'l' :: 'l' :: s => some (.null, s)
    | 't' :: 'r' :: 'u' :: 'e' :: s => some (.bool true, s)
    | 'f' :: 'a' :: 'l' :: 's' :: 'e' :: s => some (.bool false, s)
    | '"' :: s => (readString s).map fun (value?, s) => (.string value?, s)
    | '[' :: s =>
      match skipBlanks s with
      | ']' :: s => some (.array [], s)
      | s =>
        match readValue fuel s with
        | none => none
        | some (item, s) => (readItems fuel s).map fun (items, s) => (.array (item :: items), s)
    | '\x7b' :: s =>
      match skipBlanks s with
      | '\x7d' :: s => some (.object [], s)
      | s =>
        match readName s with
        | none => none
        | some (name?, s) =>
          match readValue fuel s with
          | none => none
          | some (value, s) =>
            (readMembers fuel s).map fun (members, s) => (.object ((name?, value) :: members), s)
    | s => (readNumber s).map fun (numeral, s) => (.number numeral, s)

def readItems : Nat → List Char → Option (List Json × List Char)
  | 0, _ => none
  | fuel + 1, s =>
    match skipBlanks s with
    | ']' :: s => some ([], s)
    | ',' :: s =>
      match readValue fuel s with
      | none => none
      | some (item, s) => (readItems fuel s).map fun (items, s) => (item :: items, s)
    | _ => none

def readMembers : Nat → List Char → Option (List (Option String × Json) × List Char)
  | 0, _ => none
  | fuel + 1, s =>
    match skipBlanks s with
    | '\x7d' :: s => some ([], s)
    | ',' :: s =>
      match readName s with
      | none => none
      | some (name?, s) =>
        match readValue fuel s with
        | none => none
        | some (value, s) =>
          (readMembers fuel s).map fun (members, s) => ((name?, value) :: members, s)
    | _ => none

end

def read (text : String) : Option Json :=
  let s := text.toList
  match readValue (s.length + 1) s with
  | some (json, rest) => if skipBlanks rest = [] then some json else none
  | none => none

end FederatedCatalog.Json
