/-
The command line.

Options for all commands stand before the command, and a command has options of its own.
`CommandLine.parse?` reads the arguments, and `Invocation.run` answers what is printed and with
which code the program ends. Files are handed to it, so that it needs nothing else from outside.
-/
import EntitySchema.ChangeSet.Between
import EntitySchema.Database
import EntitySchema.Document
import EntitySchema.Report.Failure
import EntitySchema.Report.Summary
import EntitySchema.Snapshot.Json
import EntitySchema.Text.Utf8

set_option autoImplicit false

namespace EntitySchema

/-! ## Arguments -/

/-- An option: its names, and whether it takes a value. -/
structure OptionSpec where
  long : String
  short : Char
  takesValue : Bool
  deriving DecidableEq, Repr, Inhabited

/-- The options and the other arguments of a command. An option that takes no value has an empty
one. -/
structure Arguments where
  options : List (String × String) := []
  positional : List String := []
  deriving DecidableEq, Repr, Inhabited

namespace Arguments

/-- The value of an option, the last one if it is given several times. -/
def value? (arguments : Arguments) (long : String) : Option String :=
  (arguments.options.reverse.find? (·.1 = long)).map (·.2)

/-- Whether an option is given. -/
def isGiven (arguments : Arguments) (long : String) : Bool := (arguments.value? long).isSome

/-- Adds an option. -/
def withOption (arguments : Arguments) (long value : String) : Arguments :=
  { arguments with options := arguments.options ++ [(long, value)] }

/-- Adds another argument. -/
def withPositional (arguments : Arguments) (value : String) : Arguments :=
  { arguments with positional := arguments.positional ++ [value] }

/-- Reads options in a row after one dash. The last one may take the rest of the argument or the
argument that follows, and `rest` holds the arguments that follow. -/
def readCluster? (specs : List OptionSpec) (arguments : Arguments) (rest : List String) :
    List Char → Option (Arguments × List String)
  | [] => some (arguments, rest)
  | c :: cs =>
    match specs.find? (·.short = c) with
    | none => none
    | some spec =>
      if spec.takesValue then
        if cs.isEmpty then
          match rest with
          | value :: rest => some (arguments.withOption spec.long value, rest)
          | [] => none
        else some (arguments.withOption spec.long (String.ofList cs), rest)
      else readCluster? specs (arguments.withOption spec.long "") rest cs

/-- Reads an option after two dashes. -/
def readLong? (specs : List OptionSpec) (arguments : Arguments) (rest : List String)
    (option : List Char) : Option (Arguments × List String) :=
  let name := String.ofList (option.takeWhile (· != '='))
  let value := option.dropWhile (· != '=')
  match specs.find? (·.long = name) with
  | none => none
  | some spec =>
    match spec.takesValue, value with
    | true, _ :: value => some (arguments.withOption spec.long (String.ofList value), rest)
    | true, [] =>
      match rest with
      | value :: rest => some (arguments.withOption spec.long value, rest)
      | [] => none
    | false, [] => some (arguments.withOption spec.long "", rest)
    | false, _ :: _ => none

/-- Reads arguments. Options may stand between the others if `mixed` holds; else all that follows
the first other argument is left as it is. Each step uses up an argument, so their number is fuel
enough. -/
def read? (specs : List OptionSpec) (mixed : Bool) :
    Nat → Arguments → List String → Option Arguments
  | 0, arguments, _ => some arguments
  | _, arguments, [] => some arguments
  | fuel + 1, arguments, argument :: rest =>
    let next (result : Option (Arguments × List String)) : Option Arguments :=
      match result with
      | none => none
      | some (arguments, rest) => read? specs mixed fuel arguments rest
    match argument.toList with
    | ['-', '-'] => some (rest.foldl withPositional arguments)
    | '-' :: '-' :: option => next (readLong? specs arguments rest option)
    | '-' :: c :: cs => next (readCluster? specs arguments rest (c :: cs))
    | _ =>
      if mixed then read? specs mixed fuel (arguments.withPositional argument) rest
      else some ((argument :: rest).foldl withPositional arguments)

/-- Reads all arguments of a command. -/
def ofList? (specs : List OptionSpec) (mixed : Bool) (arguments : List String) :
    Option Arguments :=
  read? specs mixed (arguments.length + 1) {} arguments

end Arguments

/-! ## Commands -/

/-- What the program is asked to do. -/
inductive Command where
  | version
  | tables (path : String)
  | describe (path : String) (model : Option String)
  | relations (path : String)
  | changes (path : String) (snapshot : Option String)
  | snapshot
  deriving DecidableEq, Repr, Inhabited

/-- A command with the options for all commands. -/
structure Invocation where
  command : Command
  database : Option String := none
  json : Bool := false
  deriving DecidableEq, Repr, Inhabited

namespace CommandLine

/-- The variable of the environment that names the database. -/
def databaseVariable : String := "SCHEMAFORGE_DATABASE_URL"

/-- The version that is told. -/
def versionText : String := "schemaforge v0.1.0"

/-- The options for all commands. -/
def globalOptions : List OptionSpec :=
  [⟨"database", 'd', true⟩, ⟨"json", 'j', false⟩, ⟨"verbose", 'v', false⟩]

/-- A text that is not empty. -/
def nonempty (text : Option String) : Option String := text.filter (· ≠ "")

/-- Splits the name of a command from what follows it. An option before the name is not
understood, but two dashes are. -/
def splitCommand? (arguments : List String) : Option (String × List String) := do
  match (← Arguments.ofList? [] false arguments).positional with
  | name :: rest => some (name, rest)
  | [] => none

/-- The arguments of a command that takes one path. -/
def onePath? (specs : List OptionSpec) (arguments : List String) :
    Option (String × Arguments) := do
  let read ← Arguments.ofList? specs true arguments
  match read.positional with
  | [path] => some (path, read)
  | _ => none

/-- Reads the arguments of a command that takes none. -/
def noArguments? (command : Command) (arguments : List String) : Option Command := do
  let read ← Arguments.ofList? [] true arguments
  if read.positional.isEmpty then some command else none

/-- Reads a command on schemas. -/
def schemaCommand? (name : String) (arguments : List String) : Option Command := do
  match name with
  | "tables" => return .tables (← onePath? [] arguments).1
  | "relations" => return .relations (← onePath? [] arguments).1
  | "describe" =>
    let (path, read) ← onePath? [⟨"model", 'm', true⟩] arguments
    return .describe path (nonempty (read.value? "model"))
  | _ => none

/-- Reads a command on databases. -/
def migrateCommand? (name : String) (arguments : List String) : Option Command := do
  match name with
  | "snapshot" => noArguments? .snapshot arguments
  | "diff" =>
    let (path, read) ← onePath? [⟨"snapshot", 's', true⟩] arguments
    return .changes path (nonempty (read.value? "snapshot"))
  | _ => none

/-- Reads the name of a command, which may have two parts, and its arguments. -/
def command? : List String → Option Command
  | "version" :: arguments => noArguments? .version arguments
  | "schema" :: arguments => do
    let (name, arguments) ← splitCommand? arguments
    schemaCommand? name arguments
  | "migrate" :: arguments => do
    let (name, arguments) ← splitCommand? arguments
    migrateCommand? name arguments
  | _ => none

/-- Reads the arguments of the program. Without a database among them the one of the environment
is taken, if it names one. -/
def parse? (arguments : List String) (environment : Option String) : Option Invocation := do
  let options ← Arguments.ofList? globalOptions false arguments
  return {
    command := ← command? options.positional
    database := (nonempty (options.value? "database")).or (nonempty environment)
    json := options.isGiven "json" }

end CommandLine

/-! ## Running -/

/-- What a command answers: a text as it is, or a report for readers. -/
inductive Answer where
  | plain (text : String)
  | report (blocks : List Block)

/-- What the program prints, and the code with which it ends. -/
structure Outcome where
  exitCode : Nat
  output : String
  deriving DecidableEq, Repr, Inhabited

/-- An outcome that prints lines, each with a line end. -/
def Outcome.ofLines (exitCode : Nat) (lines : List (List Char)) : Outcome :=
  ⟨exitCode, String.ofList (lines.flatMap (· ++ ['\n']))⟩

namespace Invocation

/-- The paths of the files that a command reads. -/
def paths (invocation : Invocation) : List Path :=
  match invocation.command with
  | .version | .snapshot => []
  | .tables path | .describe path _ | .relations path => [.ofString path]
  | .changes path snapshot => (path :: snapshot.toList).map .ofString

/-- Reads files at their paths. -/
abbrev Files := Path → Except FileFault (List Nat)

/-- Reads the file at a path, and tells by `failure` why it cannot be read. -/
def textIn (files : Files) (path : String) (failure : FileFault → Error) : Except Error String :=
  if path.toList.contains '\x00' then .error .nullInPath
  else
    match files (.ofString path) with
    | .ok bytes => Text.Utf8.readFile bytes
    | .error fault => .error (failure fault)

/-- Reads the schema in a file. -/
def schemaIn (files : Files) (path : String) : Except Error Schema := do
  Schema.parse {} (← textIn files path (.unreadableSchema path))

/-- Reads the snapshot in a file. -/
def snapshotIn (files : Files) (path : String) : Except Error Snapshot := do
  Snapshot.ofText (← textIn files path (.unreadableSnapshot path))

/-- The JSON or the report that a command prints, whichever is asked for. -/
def answer (invocation : Invocation) (json : String) (blocks : List Block) : Answer :=
  if invocation.json then .plain json else .report blocks

/-- What a command answers when it succeeds. -/
def evaluate (invocation : Invocation) (files : Files) : Except Error Answer := do
  match invocation.command with
  | .version => return .plain CommandLine.versionText
  | .tables path =>
    let schema ← schemaIn files path
    let names ← tableNames schema
    return invocation.answer (Json.strings names).pretty [.grid (tableGrid schema names)]
  | .describe path model =>
    let schema ← schemaIn files path
    let entities ← match model with
      | some name => do pure [← schema.getEntity name]
      | none => pure schema.entities
    let summaries ← Tracked.evaluate (entities.mapM (EntitySummary.of schema))
    return invocation.answer (Json.array (summaries.map (·.toJson))).pretty
      (summaries.flatMap (·.blocks))
  | .relations path =>
    let descriptions ← Relation.descriptions (← schemaIn files path)
    return invocation.answer (Json.array (descriptions.map (·.toJson))).pretty
      [.grid (RelationDescription.grid descriptions)]
  | .changes path snapshotPath =>
    let schema ← schemaIn files path
    let snapshot ← match snapshotPath, invocation.database with
      | some path, _ => snapshotIn files path
      | none, some url => (Database.openAt url).map (·.snapshot)
      | none, none => pure .empty
    let changeSet ← changesFrom schema snapshot
    return invocation.answer changeSet.toJson.prettyUnicode changeSet.blocks
  | .snapshot =>
    match invocation.database with
    | none => throw .noDatabase
    | some url => return .plain (← Database.openAt url).snapshot.toText

/-- Whether the command answers in JSON. -/
def answersInJson (invocation : Invocation) : Bool :=
  invocation.json || invocation.command = .snapshot

/-- Runs a command. A report that cannot be shown ends the program like an error does, after what
can be shown. -/
def run (invocation : Invocation) (files : Files) : Outcome :=
  match invocation.evaluate files with
  | .ok (.plain text) => .ofLines 0 [text.toList]
  | .ok (.report blocks) =>
    let printed := Block.print blocks
    match printed.fault with
    | none => .ofLines 0 printed.lines
    | some fault => .ofLines 1 (printed.lines ++ fault.box)
  | .error error =>
    .ofLines 1 (if invocation.answersInJson then [error.toReport.pretty.toList] else error.box)

end Invocation

/-- Runs the program with arguments, the database of the environment and files. Arguments that
are not understood end it with code 2. -/
def CommandLine.run (arguments : List String) (environment : Option String)
    (files : Invocation.Files) : Outcome :=
  match CommandLine.parse? arguments environment with
  | none => ⟨2, ""⟩
  | some invocation => invocation.run files

end EntitySchema
