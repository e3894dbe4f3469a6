import FederatedCatalog.Command.Arguments
import FederatedCatalog.Description.Format

namespace FederatedCatalog

/-- An error's message, with the message of what it came from. -/
def LookupError.fullMessage (error : LookupError) : String :=
  match error.source? with
  | some source => error.message ++ ": " ++ source
  | none => error.message

namespace Command

structure Report where
  exitCode : Nat
  output : String
  /-- What is wrong, for the user to read. -/
  complaint : String
  deriving DecidableEq

def schemaLines (tree : Tree) (heading : String) (id : NodeId) : List String :=
  match tree.node? (tree.follow id) with
  | none => []
  | some node =>
    [heading ++ ": " ++ tree.fullName id ++ " (" ++ node.kind.typeName ++ ")"]
      ++ (tree.children id).keys.map ("  schema " ++ ·)
      ++ node.tables.keys.map ("  table " ++ ·)

def tableLines (name : String) : Option TableEntry → List String
  | none => [name ++ ": not found"]
  | some entry =>
    (name ++ ": " ++ entry.table.type.label)
      :: (entry.definition?.map ("  " ++ ·)).toList

def pathReport (context : LookupContext) (caseSensitive : Bool) (text : String)
    (state : LookupState) : List String × LookupState :=
  match Path.parse text with
  | .error error => ([text ++ ": " ++ error.message], state)
  | .ok path =>
    let run := state.findPath context path caseSensitive
    match run.answer with
    | .error error => ([text ++ ": " ++ error.fullMessage], run.after)
    | .ok none => ([path.text ++ ": not found"], run.after)
    | .ok (some id) => (schemaLines run.after.tree path.text id, run.after)

def tableReport (context : LookupContext) (caseSensitive : Bool) (name : String)
    (state : LookupState) : List String × LookupState :=
  let run := state.findTable context name caseSensitive
  match run.answer with
  | .error error => ([name ++ ": " ++ error.fullMessage], run.after)
  | .ok found? => (tableLines name found?, run.after)

def reports (report : String → LookupState → List String × LookupState) :
    List String → LookupState → List String × LookupState
  | [], state => ([], state)
  | name :: rest, state =>
    let (lines, state) := report name state
    let (more, state) := reports report rest state
    (lines ++ more, state)

def catalogLines (arguments : Arguments) (catalog : Catalog) : List String :=
  let settings := match arguments.user? with
    | some user => catalog.settings.withUser user
    | none => catalog.settings
  let caseSensitive := settings.caseSensitive || arguments.caseSensitive
  let session : Session := ⟨.bare, settings⟩
  let context := catalog.context session
  let (paths, state) :=
    reports (pathReport context caseSensitive) arguments.paths (catalog.state session)
  let (tables, _) := reports (tableReport context caseSensitive) arguments.tables state
  ("schemas: " ++ ", ".intercalate catalog.registry.enabledNames) :: paths ++ tables

def commandName : String :=
  "lazy-catalog"

def version : String :=
  commandName ++ " 0.1.0\n"

def usage : String :=
  "Usage: " ++ commandName ++ " [OPTIONS] --catalog <CATALOG> [PATHS]...\n"

def help : String :=
  "Lazily loaded, connector-backed catalog tree with per-user aliases\n\n" ++ usage
    ++ "\nArguments:\n"
    ++ "  [PATHS]...  Schema paths to resolve, e.g. `dfs.tmp` or `` `dfs.tmp` ``\n"
    ++ "\nOptions:\n"
    ++ "  -c, --catalog <CATALOG>  Catalog definition file (JSON)\n"
    ++ "  -u, --user <USER>        Resolve on behalf of this user instead of the configured one\n"
    ++ "      --case-sensitive     Match table names case-sensitively\n"
    ++ "  -t, --table <TABLE>      Tables to resolve under the root, "
    ++ "possibly through table aliases\n"
    ++ "  -h, --help               Print help\n"
    ++ "  -V, --version            Print version\n"

/-- What is printed for a command line that is not carried out. -/
def stopReport : Stop → Report
  | .usage => ⟨2, "", usage⟩
  | .help => ⟨0, help, ""⟩
  | .version => ⟨0, version, ""⟩

def descriptionComplaint (error : DescriptionError) : String :=
  match error.message? with
  | some message => "Error: " ++ message ++ "\n"
  | none => "Error: the catalog can not be read\n"

def fileReport [JsonCodec] (arguments : Arguments) (file? : Option ByteArray) : Report :=
  match (CatalogDescription.load file?).bind CatalogDescription.build with
  | .error error => ⟨1, "", descriptionComplaint error⟩
  | .ok catalog => ⟨0, String.join ((catalogLines arguments catalog).map (· ++ "\n")), ""⟩

/-- What a command line prints, where `file` finds files by name. -/
def run [JsonCodec] (words : List String) (file : String → Option ByteArray) : Report :=
  match Arguments.read words with
  | .error stop => stopReport stop
  | .ok arguments => fileReport arguments (arguments.catalog?.bind file)

end Command

end FederatedCatalog
