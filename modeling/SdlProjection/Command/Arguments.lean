import SdlProjection.Schema
import SdlProjection.Text.Lines

/-!
Contract: the command line of the program.

Owns: the two subcommands with their options, and `Invocation.parse`, which
reads a list of arguments. What an option or a path stands for is settled when
the next one begins or the arguments end: only then a missing or an empty
value, or a second occurrence, is an error. A name that is not known is an
error at once. Conflicts between options come before options that are missing.

Does not own: what the subcommands do (`Command.Run`).
-/

namespace SdlProjection

/-- Why arguments are not accepted, or ask for a text about the program instead. -/
inductive UsageError where
  | missingRequired
  | conflict
  | invalidValue
  | tooManyValues
  | unknownArgument
  | invalidSubcommand
  | help
  | version
deriving DecidableEq, Repr

/-- Where schema files are looked for. -/
structure SchemaInputs where
  extensions : List String
  paths : List String
deriving DecidableEq, Repr

/-- One operation to convert, and the form of the document. -/
structure Conversion where
  inputs : SchemaInputs
  /-- The names given for each kind. The arguments of the program give exactly one. -/
  operations : PerOperation (Option String)
  out : Option String
  pretty : Bool
  wrap : Bool
deriving DecidableEq, Repr

/-- The operations that are named, by kind. -/
def PerOperation.named (operations : PerOperation (Option String)) :
    List (OperationKind × String) :=
  OperationKind.all.filterMap fun kind => (operations.get kind).map fun name => (kind, name)

/-- The operation to convert: the first that is named. -/
def Conversion.selected? (conversion : Conversion) : Option (OperationKind × String) :=
  conversion.operations.named.head?

inductive Subcommand where
  | list (inputs : SchemaInputs)
  | convert (conversion : Conversion)
deriving DecidableEq, Repr

structure Invocation where
  subcommand : Option Subcommand
  verbose : Bool
deriving DecidableEq, Repr

namespace Arguments

/-- An argument by its form. -/
inductive Token where
  /-- Two dashes alone: what follows is plain. -/
  | escape
  | long (name : String) (attached : Option String)
  | short (letters : List Char)
  | plain (text : String)
deriving DecidableEq

def Token.of (argument : String) : Token :=
  match argument.toList with
  | ['-', '-'] => .escape
  | '-' :: '-' :: name =>
    .long (String.ofList (Text.before '=' name)) ((Text.after? '=' name).map String.ofList)
  | '-' :: letter :: letters => .short (letter :: letters)
  | _ => .plain argument

/-- An option with a value. -/
inductive Valued where
  | extensions
  | operation (kind : OperationKind)
  | out
deriving DecidableEq

/-- An option without a value. -/
inductive Switch where
  | verbose
  | pretty
  | wrap
  | help
deriving DecidableEq

inductive Subject where
  | list
  | convert
deriving DecidableEq

def valued? (subject : Subject) (name : String) : Option Valued :=
  match subject, name with
  | _, "graphql-file-exts" => some .extensions
  | .convert, "query" => some (.operation .query)
  | .convert, "mutation" => some (.operation .mutation)
  | .convert, "subscription" => some (.operation .subscription)
  | .convert, "out" => some .out
  | _, _ => none

def switch? (subject : Subject) (name : String) : Option Switch :=
  match subject, name with
  | _, "verbose" => some .verbose
  | _, "help" => some .help
  | .convert, "pretty" => some .pretty
  | .convert, "wrap" => some .wrap
  | _, _ => none

def shortSwitch? : Char → Option Switch
  | 'v' => some .verbose
  | 'h' => some .help
  | _ => none

/-- What has begun and is not settled yet. -/
inductive Open where
  | nothing
  | option (valued : Valued) (value : Option String)
  | paths (paths : List String)

/-- What has been given so far. -/
structure Given where
  extensions : Option (List String)
  operations : PerOperation (Option String)
  out : Option String
  pretty : Bool
  wrap : Bool
  verbose : Bool
  paths : List String
  unsettled : Open
  /-- Whether two dashes have been passed. -/
  escaped : Bool

def Given.nothing : Given :=
  ⟨none, .all none, none, false, false, false, [], .nothing, false⟩

/-- The parts of a value between commas. -/
def splitCommas (value : String) : List String :=
  (Text.split ',' value.toList).map String.ofList

namespace Given

/-- An option with its value. -/
def setOption (given : Given) (valued : Valued) (value : String) : Except UsageError Given :=
  match valued with
  | .extensions =>
    .ok { given with extensions := some (given.extensions.getD [] ++ splitCommas value) }
  | .operation kind =>
    if (given.operations.get kind).isSome then .error .conflict
    else .ok { given with operations := given.operations.set kind (some value) }
  | .out =>
    if given.out.isSome then .error .conflict
    else if value = "" then .error .invalidValue
    else .ok { given with out := some value }

/-- Settles what has begun. -/
def settle (given : Given) : Except UsageError Given :=
  let settled := { given with unsettled := .nothing }
  match given.unsettled with
  | .nothing => .ok settled
  | .option _ none => .error .invalidValue
  | .option valued (some value) => settled.setOption valued value
  | .paths paths =>
    if paths.contains "" then .error .invalidValue
    else .ok { settled with paths := settled.paths ++ paths }

def setSwitch (given : Given) (switch : Switch) : Except UsageError Given :=
  match switch with
  | .verbose => if given.verbose then .error .conflict else .ok { given with verbose := true }
  | .pretty => if given.pretty then .error .conflict else .ok { given with pretty := true }
  | .wrap => if given.wrap then .error .conflict else .ok { given with wrap := true }
  | .help => .error .help

/-- A switch settles what has begun before. -/
def addSwitch (given : Given) (switch : Switch) : Except UsageError Given := do
  (← given.settle).setSwitch switch

def addLong (subject : Subject) (given : Given) (name : String) (attached : Option String) :
    Except UsageError Given :=
  match valued? subject name, switch? subject name with
  | some valued, _ => do
    let settled ← given.settle
    match attached with
    | some value => settled.setOption valued value
    | none => .ok { settled with unsettled := .option valued none }
  | none, some switch =>
    if attached.isSome then .error .tooManyValues else given.addSwitch switch
  | none, none => .error .unknownArgument

/-- Switches behind one dash. -/
def addShort (given : Given) : List Char → Except UsageError Given
  | [] => .ok given
  | letter :: rest =>
    match shortSwitch? letter with
    | some switch => do (← given.addSwitch switch).addShort rest
    | none => .error .unknownArgument

/-- One more path. Neighbouring paths are settled together. -/
def addPath (given : Given) (path : String) : Except UsageError Given :=
  match given.unsettled with
  | .paths paths => .ok { given with unsettled := .paths (paths ++ [path]) }
  | _ => do .ok { (← given.settle) with unsettled := .paths [path] }

/-- A plain argument is the value of an option that still lacks it, or else a path. -/
def addPlain (given : Given) (text : String) : Except UsageError Given :=
  match given.unsettled with
  | .option valued none => .ok { given with unsettled := .option valued (some text) }
  | _ => given.addPath text

def add (subject : Subject) (given : Given) (argument : String) : Except UsageError Given :=
  if given.escaped then given.addPath argument
  else
    match Token.of argument with
    | .escape => .ok { given with escaped := true }
    | .long name attached => given.addLong subject name attached
    | .short letters => given.addShort letters
    | .plain text => given.addPlain text

/-- The extensions a search looks for unless others are given. -/
def defaultExtensions : List String := ["graphql", "graphqls"]

def inputs (given : Given) : SchemaInputs :=
  ⟨given.extensions.getD defaultExtensions, given.paths⟩

/-- The subcommand, once all arguments are settled. -/
def finish (subject : Subject) (given : Given) : Except UsageError Subcommand :=
  match subject, given.operations.named with
  | .list, _ => if given.paths = [] then .error .missingRequired else .ok (.list given.inputs)
  | .convert, [] => .error .missingRequired
  | .convert, [_] =>
    if given.paths = [] then .error .missingRequired
    else
      .ok (.convert ⟨given.inputs, given.operations, given.out, given.pretty, given.wrap⟩)
  | .convert, _ => .error .conflict

end Given

/-- The arguments after a subcommand's name, and whether they ask for more output. -/
def parseSubcommand (subject : Subject) (arguments : List String) :
    Except UsageError (Subcommand × Bool) := do
  let given ← arguments.foldlM (Given.add subject) Given.nothing
  let settled ← given.settle
  .ok (← settled.finish subject, settled.verbose)

/-- The subcommand of that name. -/
def subject? : String → Option Subject
  | "list" => some .list
  | "convert" => some .convert
  | _ => none

/-- The arguments after `help`: at most one, the name of a subcommand. -/
def helpAbout : List String → UsageError
  | [] => .help
  | [name] => if (subject? name).isSome ∨ name = "help" then .help else .invalidSubcommand
  | _ => .invalidSubcommand

/-- Switches behind one dash before the subcommand. -/
def leadingShort (verbose : Bool) : List Char → Except UsageError Bool
  | [] => .ok verbose
  | 'v' :: rest => if verbose then .error .conflict else leadingShort true rest
  | 'h' :: _ => .error .help
  | 'V' :: _ => .error .version
  | _ => .error .unknownArgument

/-- A long switch before the subcommand. -/
def leadingLong (verbose : Bool) (name : String) (attached : Option String) :
    Except UsageError Bool :=
  if name = "verbose" ∨ name = "help" ∨ name = "version" then
    if attached.isSome then .error .tooManyValues
    else if name = "help" then .error .help
    else if name = "version" then .error .version
    else if verbose then .error .conflict
    else .ok true
  else .error .unknownArgument

/-- Nothing but a subcommand's name may stand between the switches, and not after two
dashes. -/
def afterEscape (verbose : Bool) : List String → Except UsageError Invocation
  | [] => .ok ⟨none, verbose⟩
  | name :: _ =>
    if (subject? name).isSome ∨ name = "help" then .error .unknownArgument
    else .error .invalidSubcommand

/-- The arguments of the program. -/
def parseFrom (verbose : Bool) : List String → Except UsageError Invocation
  | [] => .ok ⟨none, verbose⟩
  | argument :: rest =>
    match Token.of argument with
    | .escape => afterEscape verbose rest
    | .long name attached => do parseFrom (← leadingLong verbose name attached) rest
    | .short letters => do parseFrom (← leadingShort verbose letters) rest
    | .plain name =>
      match subject? name with
      | some subject => do
        let (subcommand, more) ← parseSubcommand subject rest
        .ok ⟨some subcommand, verbose || more⟩
      | none => .error (if name = "help" then helpAbout rest else .invalidSubcommand)

end Arguments

/-- Reads the arguments of the program, its own name not included. -/
def Invocation.parse (arguments : List String) : Except UsageError Invocation :=
  Arguments.parseFrom false arguments

end SdlProjection
