import FederatedCatalog.Text.Combining
import FederatedCatalog.Text.Printable

namespace FederatedCatalog.Text

/-- The digits of a number in base sixteen, lower case, without leading zeros. -/
def hexDigits (n : Nat) : List Char :=
  Nat.toDigits 16 n

/-- A character inside a quoted text whose quotation mark is `mark`. -/
def escapeChar (mark c : Char) : List Char :=
  if c = '\t' then ['\\', 't']
  else if c = '\r' then ['\\', 'r']
  else if c = '\n' then ['\\', 'n']
  else if c = '\x00' then ['\\', '0']
  else if c = '\\' ∨ c = mark then ['\\', c]
  else if isCombining c || !isPrintable c then
    ['\\', 'u', '\x7b'] ++ hexDigits c.toNat ++ ['\x7d']
  else [c]

def quoted (s : String) : String :=
  String.ofList ('"' :: s.toList.flatMap (escapeChar '"') ++ ['"'])

def quotedChar (c : Char) : String :=
  String.ofList ('\'' :: escapeChar '\'' c ++ ['\''])

end FederatedCatalog.Text
