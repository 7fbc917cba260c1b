import SdlProjection.Command.Arguments
import SdlProjection.Json.Printer
import SdlProjection.Projection
import SdlProjection.Schema.Sources

/-!
Contract: what the subcommands do.

Owns: the search for the schema files of a run, `Subcommand.run`, its texts
with the outputs they go to, and the rendering of an error together with the
failures behind it. A run is a function of the files it can see; it gives back
the files it leaves.

Does not own: the arguments (`Command.Arguments`).
-/

namespace SdlProjection

/-- A message with those of the failures behind it, from the outside in. -/
def chain (messages : List String) : String :=
  ": ".intercalate messages

def failureMark : String := "\u274c "

def successMark : String := "\u2705 "

/-- Texts in quotes, as a list. -/
def quotedList (texts : List String) : String :=
  "[" ++ ", ".intercalate (texts.map Text.quoted) ++ "]"

inductive ExitCode where
  | success
  | failure
deriving DecidableEq, Repr

/-- What the system and the user are given at the end. -/
structure CommandResult where
  exitCode : ExitCode
  stderr : Option String
  stdout : Option String
deriving DecidableEq, Repr

namespace CommandResult

def ofStderr (text : String) : CommandResult := ⟨.failure, some text, none⟩

def ofStdout (text : String) : CommandResult := ⟨.success, none, some text⟩

end CommandResult

/-- What a run leaves behind. -/
structure Outcome where
  /-- The text for the user, an error if the run failed. -/
  result : Except String String
  log : List LogRecord
  files : FileTree

/-- The text of a run on the output that it belongs to. -/
def Outcome.printed (outcome : Outcome) : CommandResult :=
  match outcome.result with
  | .ok text => .ofStdout text
  | .error text => .ofStderr text

namespace SchemaInputs

def filter (inputs : SchemaInputs) : ExtensionFilter :=
  .ofExtensions inputs.extensions

/-- What is said about a file that is named although the filter does not accept it. -/
def proceedRecord (filter : ExtensionFilter) (path : String) : LogRecord :=
  ⟨.warn, "Proceeding to parse " ++ Text.quoted path ++
    " even though it doesn't match any of the --graphql-file-exts (" ++ filter.describe ++ ")."⟩

def skipRecord (filter : ExtensionFilter) (path : String) : LogRecord :=
  ⟨.debug, "Skipping " ++ Text.quoted path ++ ": it doesn't match " ++ filter.describe ++ "."⟩

/-- The files the paths stand for, in order. A file that is named alone is taken whatever
its extension. -/
def discoverAll (tree : FileTree) (filter : ExtensionFilter) (alone : Bool) :
    List String → Except String (List String) × List LogRecord
  | [] => (.ok [], [])
  | path :: rest =>
    if !tree.pathExists path then
      (.error ("No such file or directory: " ++ Text.quoted path), [])
    else
      let unwanted := tree.isFile path && !filter.accepts path
      if unwanted && !alone then
        let (later, records) := discoverAll tree filter alone rest
        (later, skipRecord filter path :: records)
      else
        let warning := if unwanted then [proceedRecord filter path] else []
        match discover tree path filter with
        | (.error error, records) =>
          (.error (chain (("Failed to scan " ++ Text.quoted path) :: error.message ::
            error.causes)), warning ++ records)
        | (.ok found, records) =>
          let (later, laterRecords) := discoverAll tree filter alone rest
          (later.map (found ++ ·), warning ++ records ++ laterRecords)

/-- All schema files of a run. -/
def discover (inputs : SchemaInputs) (tree : FileTree) :
    Except String (List String) × List LogRecord :=
  let scanning : LogRecord :=
    ⟨.debug, "Scanning " ++ toString inputs.paths.length ++ " input paths..."⟩
  match discoverAll tree inputs.filter (inputs.paths.length ≤ 1) inputs.paths with
  | (.ok found, records) =>
    (.ok found, scanning :: records ++
      [⟨.debug, "Found " ++ toString found.length ++ " GraphQL files to be parsed."⟩])
  | (.error message, records) => (.error message, scanning :: records)

/-- The number of files and the schema they declare. -/
def load (inputs : SchemaInputs) (tree : FileTree) :
    Except String (Nat × Schema) × List LogRecord :=
  match inputs.discover tree with
  | (.error message, records) => (.error message, records)
  | (.ok [], records) =>
    (.error ("No GraphQL files found in " ++ quotedList inputs.paths), records)
  | (.ok paths, records) =>
    match Schema.readFiles tree paths Journal.empty with
    | (.error error, journal) =>
      (.error (chain ("Failed to parse the GraphQL schema" :: error.message :: error.causes)),
        records ++ journal.log)
    | (.ok schema, journal) =>
      (.ok (paths.length, schema), records ++ journal.log ++
        journal.diagnostics.map fun diagnostic => ⟨.warn, diagnostic.message⟩)

end SchemaInputs

/-- The lines about one kind of operation. -/
def Schema.summarizeKind (schema : Schema) (kind : OperationKind) : List String :=
  let names := (schema.operations.get kind).keys
  ("  * " ++ toString names.length ++ " " ++ kind.name ++ " operations (root type \x60" ++
    schema.rootName kind ++ "\x60)" ++ (if names.isEmpty then "." else ":")) ::
    names.map fun name => "      - " ++ name

/-- The operations of a schema by kind, and the numbers of its types and unions. -/
def Schema.summarize (schema : Schema) : String :=
  "\n".intercalate
    (OperationKind.all.flatMap schema.summarizeKind ++
      ["  * " ++ toString schema.types.size ++ " types.",
        "  * " ++ toString schema.unions.size ++ " unions."])

def SchemaInputs.runList (inputs : SchemaInputs) (tree : FileTree) : Outcome :=
  match inputs.load tree with
  | (.error message, log) => ⟨.error (failureMark ++ message), log, tree⟩
  | (.ok (count, schema), log) =>
    ⟨.ok (successMark ++ "Parsed " ++ toString count ++ " files:\n" ++ schema.summarize), log, tree⟩

namespace Conversion

/-- The text of an operation's document. -/
def document (conversion : Conversion) (schema : Schema) (kind : OperationKind) (name : String) :
    Except ProjectionError String :=
  (schema.convert kind name).map fun node =>
    (if conversion.wrap then wrapDocument name node else node).render conversion.pretty

/-- How texts about a conversion name its operation. -/
def describe (kind : OperationKind) (name : String) : String :=
  "the " ++ kind.name ++ " \x60" ++ name ++ "\x60"

def wroteText (kind : OperationKind) (name path : String) : String :=
  successMark ++ "Wrote the JSON Schema for " ++ describe kind name ++ " to " ++
    Text.quoted path ++ "."

def unwrittenText (path : String) (cause : IoError) : String :=
  failureMark ++ "Unable to write " ++ Text.quoted path ++ ": " ++ cause.message

/-- The document of a conversion, with the operation it is the document of. -/
structure Draft where
  kind : OperationKind
  name : String
  text : String

/-- What a conversion comes to before anything is written: a document, or the reason why there is
none. -/
def draft (conversion : Conversion) (tree : FileTree) : Except String Draft × List LogRecord :=
  match conversion.selected? with
  | none => (.error "One of --query, --mutation or --subscription is required.", [])
  | some (kind, name) =>
    match conversion.inputs.load tree with
    | (.error message, log) => (.error message, log)
    | (.ok (count, schema), loadLog) =>
      let log := loadLog ++ ⟨.debug, "Parsed " ++ toString count ++ " GraphQL files."⟩ ::
        schema.convertLog kind name
      match conversion.document schema kind name with
      | .error error =>
        (.error ("Unable to convert " ++ describe kind name ++ ": " ++ error.message), log)
      | .ok text => (.ok ⟨kind, name, text⟩, log)

/-- The document's text goes to the file that was asked for, or else to the user. -/
def deliver (conversion : Conversion) (tree : FileTree) (draft : Draft) (log : List LogRecord) :
    Outcome :=
  match conversion.out with
  | none => ⟨.ok draft.text, log, tree⟩
  | some path =>
    match tree.write path draft.text with
    | .ok written => ⟨.ok (wroteText draft.kind draft.name path), log, written⟩
    | .error cause => ⟨.error (unwrittenText path cause), log, tree⟩

def run (conversion : Conversion) (tree : FileTree) : Outcome :=
  match conversion.draft tree with
  | (.error message, log) => ⟨.error (failureMark ++ message), log, tree⟩
  | (.ok draft, log) => conversion.deliver tree draft log

end Conversion

def Subcommand.run (subcommand : Subcommand) (tree : FileTree) : Outcome :=
  match subcommand with
  | .list inputs => inputs.runList tree
  | .convert conversion => conversion.run tree

end SdlProjection
