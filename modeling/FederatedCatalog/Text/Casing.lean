import FederatedCatalog.Text.Ranges
import FederatedCatalog.Text.CaseTable

namespace FederatedCatalog.Text

def isCased (c : Char) : Bool :=
  inRanges c.toNat casedRanges

/-- Marks and signs that are looked through when the end of a word is sought. -/
def isCaseIgnorable (c : Char) : Bool :=
  inRanges c.toNat caseIgnorableRanges

def lowerPoint (c : Nat) : List CaseRun → Nat
  | [] => c
  | run :: rest =>
    if c < run.first then c
    else if c ≤ run.last ∧ (c - run.first) % run.stride = 0 then run.image + (c - run.first)
    else lowerPoint c rest

/-- Whether a cased letter follows, case-ignorable characters skipped. -/
def meetsCased (s : List Char) : Bool :=
  match s.dropWhile isCaseIgnorable with
  | c :: _ => isCased c
  | [] => false

/-- The lower-case form of a character between the text before it, read backwards, and the text
after it. -/
def lowerChar (before : List Char) (c : Char) (after : List Char) : List Char :=
  if c = 'Σ' then [if meetsCased before && !meetsCased after then 'ς' else 'σ']
  else if c = 'İ' then ['i', '\u0307']
  else [Char.ofNat (lowerPoint c.toNat caseRuns)]

def lowerFrom (before : List Char) : List Char → List Char
  | [] => []
  | c :: after => lowerChar before c after ++ lowerFrom (c :: before) after

def lower (s : String) : String :=
  String.ofList (lowerFrom [] s.toList)

end FederatedCatalog.Text
