namespace FederatedCatalog.Command

structure Arguments where
  catalog? : Option String
  user? : Option String
  caseSensitive : Bool
  tables : List String
  paths : List String
  deriving DecidableEq

def Arguments.blank : Arguments :=
  ⟨none, none, false, [], []⟩

inductive Stop
  | usage
  | help
  | version
  deriving DecidableEq

inductive ValueOption
  | catalog
  | user
  | table
  deriving DecidableEq

namespace ValueOption

def ofName? (name : String) : Option ValueOption :=
  if name = "catalog" then some catalog
  else if name = "user" then some user
  else if name = "table" then some table
  else none

def ofLetter? (letter : Char) : Option ValueOption :=
  if letter = 'c' then some catalog
  else if letter = 'u' then some user
  else if letter = 't' then some table
  else none

end ValueOption

namespace Arguments

/-- Takes in an option's value. Only tables may be named more than once, and the catalog's name may
not be empty. -/
def give (arguments : Arguments) (option : ValueOption) (value : String) :
    Except Stop Arguments :=
  match option with
  | .catalog =>
    if arguments.catalog?.isSome || value.isEmpty then .error .usage
    else .ok { arguments with catalog? := some value }
  | .user =>
    if arguments.user?.isSome then .error .usage else .ok { arguments with user? := some value }
  | .table => .ok { arguments with tables := arguments.tables ++ [value] }

/-- Whether a word is read as an option where a value might stand. -/
def looksLikeOption (word : String) : Bool :=
  match word.toList with
  | '-' :: _ :: _ => true
  | _ => false

/-- An option's name, and its value if there is an equals sign behind the name. -/
def splitValue (word : List Char) : String × Option String :=
  let name := word.takeWhile (· ≠ '=')
  match word.dropWhile (· ≠ '=') with
  | _ :: value => (String.ofList name, some (String.ofList value))
  | [] => (String.ofList name, none)

/-- The value that follows a one-letter option at once. -/
def attached? : List Char → Option String
  | [] => none
  | '=' :: value => some (String.ofList value)
  | value => some (String.ofList value)

def readFrom (arguments : Arguments) : List String → Except Stop Arguments
  | [] => .ok arguments
  | word :: rest =>
    let withValue (option : ValueOption) (value? : Option String) : Except Stop Arguments :=
      match value? with
      | some value =>
        match arguments.give option value with
        | .ok arguments => readFrom arguments rest
        | .error stop => .error stop
      | none =>
        match rest with
        | [] => .error .usage
        | value :: rest =>
          if looksLikeOption value then .error .usage
          else
            match arguments.give option value with
            | .ok arguments => readFrom arguments rest
            | .error stop => .error stop
    match word.toList with
    | ['-', '-'] => .ok { arguments with paths := arguments.paths ++ rest }
    | '-' :: '-' :: long =>
      match splitValue long with
      | ("case-sensitive", none) =>
        if arguments.caseSensitive then .error .usage
        else readFrom { arguments with caseSensitive := true } rest
      | ("help", none) => .error .help
      | ("version", none) => .error .version
      | (name, value?) =>
        match ValueOption.ofName? name with
        | some option => withValue option value?
        | none => .error .usage
    | '-' :: letter :: following =>
      if letter = 'h' then .error .help
      else if letter = 'V' then .error .version
      else
        match ValueOption.ofLetter? letter with
        | some option => withValue option (attached? following)
        | none => .error .usage
    | _ => readFrom { arguments with paths := arguments.paths ++ [word] } rest

def read (words : List String) : Except Stop Arguments :=
  match Arguments.blank.readFrom words with
  | .ok arguments => if arguments.catalog?.isSome then .ok arguments else .error .usage
  | .error stop => .error stop

end Arguments

end FederatedCatalog.Command
