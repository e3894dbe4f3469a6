import FederatedCatalog.Json.Basic
import FederatedCatalog.Text.Quoted

namespace FederatedCatalog.Json

def writeDigits (digits : List Nat) : List Char :=
  digits.map Nat.digitChar

def writeNumber (numeral : Numeral) : List Char :=
  (if numeral.negative then ['-'] else []) ++ writeDigits numeral.whole
    ++ (match numeral.fraction? with
        | none => []
        | some digits => '.' :: writeDigits digits)
    ++ (match numeral.exponent? with
        | none => []
        | some (negative, digits) => 'e' :: (if negative then ['-'] else []) ++ writeDigits digits)

def writeChar (c : Char) : List Char :=
  if c = '"' ∨ c = '\\' then ['\\', c]
  else if c = '\x08' then ['\\', 'b']
  else if c = '\x0c' then ['\\', 'f']
  else if c = '\n' then ['\\', 'n']
  else if c = '\r' then ['\\', 'r']
  else if c = '\t' then ['\\', 't']
  else if c.toNat < 0x20 then
    ['\\', 'u', '0', '0', Nat.digitChar (c.toNat / 16), Nat.digitChar (c.toNat % 16)]
  else [c]

/-- A string. One that is not known is written as half a surrogate pair. -/
def writeString : Option String → List Char
  | some s => '"' :: s.toList.flatMap writeChar ++ ['"']
  | none => ['"', '\\', 'u', 'd', '8', '0', '0', '"']

mutual

def writeValue : Json → List Char
  | .null => ['n', 'u', 'l', 'l']
  | .bool true => ['t', 'r', 'u', 'e']
  | .bool false => ['f', 'a', 'l', 's', 'e']
  | .number numeral => writeNumber numeral
  | .string value? => writeString value?
  | .array [] => ['[', ']']
  | .array (item :: rest) => '[' :: writeValue item ++ writeItems rest
  | .object [] => ['\x7b', '\x7d']
  | .object ((name?, value) :: rest) =>
    '\x7b' :: writeString name? ++ ':' :: writeValue value ++ writeMembers rest

def writeItems : List Json → List Char
  | [] => [']']
  | item :: rest => ',' :: writeValue item ++ writeItems rest

def writeMembers : List (Option String × Json) → List Char
  | [] => ['\x7d']
  | (name?, value) :: rest =>
    ',' :: writeString name? ++ ':' :: writeValue value ++ writeMembers rest

end

def write (json : Json) : String :=
  String.ofList (writeValue json)

end FederatedCatalog.Json
