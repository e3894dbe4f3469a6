import FederatedCatalog.Text.Blank
import FederatedCatalog.Text.Quoted

namespace FederatedCatalog

/-- One or more segments, outermost first. -/
structure Path where
  first : String
  rest : List String
  deriving DecidableEq

namespace Path

def segments (path : Path) : List String :=
  path.first :: path.rest

/-- The path of one segment, which is taken as it is, dots included. -/
def single (name : String) : Path :=
  ⟨name, []⟩

def isSingle (path : Path) : Bool :=
  path.rest.isEmpty

def last (path : Path) : String :=
  path.rest.getLast?.getD path.first

def parents (path : Path) : List String :=
  path.segments.dropLast

def under (name : String) (path : Path) : Path :=
  ⟨name, path.segments⟩

end Path

/-- Why a text is no path. Positions count the bytes of the text in UTF-8. -/
inductive PathError
  | empty
  | emptySegment (position : Nat)
  | unterminated (position : Nat)
  | unexpected (position : Nat) (found : Char)
  deriving DecidableEq

def PathError.position? : PathError → Option Nat
  | empty => none
  | emptySegment position => some position
  | unterminated position => some position
  | unexpected position _ => some position

def PathError.message : PathError → String
  | empty => "empty path"
  | emptySegment position => "empty segment at position " ++ toString position
  | unterminated position => "unterminated quoted segment starting at position " ++ toString position
  | unexpected position found =>
    "unexpected character " ++ Text.quotedChar found ++ " at position " ++ toString position

namespace Path

abbrev tick : Char := '\x60'

def byteSize (s : List Char) : Nat :=
  s.foldr (fun c size => c.utf8Size + size) 0

/-- The content of a quoted segment, from behind its opening mark, and what follows its closing
mark. -/
def quotedBody : List Char → Option (List Char × List Char)
  | [] => none
  | '\x60' :: '\x60' :: s => (quotedBody s).map fun (body, rest) => (tick :: body, rest)
  | '\x60' :: s => some ([], s)
  | c :: s => (quotedBody s).map fun (body, rest) => (c :: body, rest)

def isPlain (c : Char) : Bool :=
  c ≠ '.' && c ≠ tick

/-- The first segment of `s` and what follows it, where `s` ends a text of `size` bytes. -/
def readSegment (size : Nat) (s : List Char) : Except PathError (List Char × List Char) :=
  match s with
  | '\x60' :: body =>
    match quotedBody body with
    | none => .error (.unterminated (size - byteSize s))
    | some read => .ok read
  | _ =>
    let rest := s.dropWhile isPlain
    if rest.head? = some tick then .error (.unexpected (size - byteSize rest) tick)
    else
      match Text.trim (s.takeWhile isPlain) with
      | [] => .error (.emptySegment (size - byteSize s))
      | name => .ok (name, rest)

theorem quotedBody_length {s body rest : List Char} (h : quotedBody s = some (body, rest)) :
    rest.length < s.length := by
  fun_induction quotedBody s generalizing body rest with
  | case1 => simp at h
  | case2 s ih =>
    obtain ⟨⟨b, r⟩, hb, eq⟩ := Option.map_eq_some_iff.mp h
    cases eq
    have := ih hb
    simp only [List.length_cons]
    omega
  | case3 => simp_all
  | case4 c s _ _ ih =>
    obtain ⟨⟨b, r⟩, hb, eq⟩ := Option.map_eq_some_iff.mp h
    cases eq
    have := ih hb
    simp only [List.length_cons]
    omega

theorem readSegment_length {size : Nat} {s name rest : List Char}
    (h : readSegment size s = .ok (name, rest)) : rest.length ≤ s.length := by
  unfold readSegment at h
  split at h
  next body =>
    split at h
    next => simp at h
    next read hr =>
      cases h
      exact Nat.le_succ_of_le (Nat.le_of_lt (quotedBody_length hr))
  next =>
    simp only at h
    split at h
    next => simp at h
    next =>
      split at h
      next => simp at h
      next =>
        cases h
        exact (List.dropWhile_sublist _).length_le

/-- The path that `s` spells, where `s` ends a text of `size` bytes. -/
def read (size : Nat) (s : List Char) : Except PathError Path :=
  match _ : readSegment size s with
  | .error e => .error e
  | .ok (name, []) => .ok (single (String.ofList name))
  | .ok (_, ['.']) => .error (.emptySegment size)
  | .ok (name, '.' :: rest) =>
    match read size rest with
    | .error e => .error e
    | .ok path => .ok (path.under (String.ofList name))
  | .ok (_, c :: rest) => .error (.unexpected (size - byteSize (c :: rest)) c)
termination_by s.length
decreasing_by exact readSegment_length ‹_›

def parse (s : String) : Except PathError Path :=
  match Text.trim s.toList with
  | [] => .error .empty
  | _ => read (byteSize s.toList) s.toList

def enclose (name : List Char) : List Char :=
  tick :: name.flatMap (fun c => if c = tick then [tick, tick] else [c]) ++ [tick]

def spell (first : List Char) : List (List Char) → List Char
  | [] => enclose first
  | next :: rest => enclose first ++ '.' :: spell next rest

/-- The path with every segment between backticks, a text that spells it. -/
def text (path : Path) : String :=
  String.ofList (spell path.first.toList (path.rest.map String.toList))

def pieces : List Char → List (List Char)
  | [] => [[]]
  | c :: s =>
    if c = '.' then [] :: pieces s
    else
      match pieces s with
      | [] => [[c]]
      | piece :: rest => (c :: piece) :: rest

def dotted (name : String) : List String :=
  (pieces name.toList).map String.ofList

end Path

end FederatedCatalog
