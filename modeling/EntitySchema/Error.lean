/-
What can go wrong, and how it is told.

An error is a cause with its data. `Error.category?`, `Error.message` and `Error.context` say how
the cause is reported: the family it belongs to, a sentence for the reader (where possible with
the line that would fix the document), and the same data for programs. A few causes lie outside
all families; they have no context and are told by their sentence alone.
-/
import EntitySchema.Directory
import EntitySchema.Json.Basic
import EntitySchema.Text.Blank
import EntitySchema.Text.Digit
import EntitySchema.Text.Letter

set_option autoImplicit false

namespace EntitySchema

/-! ## Families of errors -/

/-- The family of an error, as programs see it. -/
inductive ErrorCategory where
  | general
  | parseFailure
  | grammar
  | pluralEntityName
  | joinSyntax
  | polymorphicArray
  | unknownTag
  | namespacePath
  | inverseFormat
  | entityNotFound
  | ambiguousShortName
  | methodNotFound
  | fieldNotFound
  | namespaceNotFound
  | resolution
  | inverseMethodNotFound
  | missingForeignKey
  | ambiguousOneToOne
  | unsupportedRelation
  | inverseCycle
  | integrity
  | duplicateTable
  | alterCommandConflict
  | introspection
  | snapshot
  deriving DecidableEq, Repr, Inhabited

/-- The name of a family. -/
def ErrorCategory.name : ErrorCategory → String
  | general => "SchemaForgeError"
  | parseFailure => "ParseFailure"
  | grammar => "GrammarError"
  | pluralEntityName => "PluralEntityNameError"
  | joinSyntax => "JoinSyntaxError"
  | polymorphicArray => "PolymorphicArrayError"
  | unknownTag => "UnknownTagError"
  | namespacePath => "NamespacePathError"
  | inverseFormat => "InverseFormatError"
  | entityNotFound => "EntityNotFoundError"
  | ambiguousShortName => "MultipleModelsWithSameShortNameError"
  | methodNotFound => "MethodNotFoundError"
  | fieldNotFound => "FieldNotFoundError"
  | namespaceNotFound => "NamespaceNotFoundError"
  | resolution => "ResolutionError"
  | inverseMethodNotFound => "InverseMethodNotFoundError"
  | missingForeignKey => "MissingForeignKeyError"
  | ambiguousOneToOne => "AmbiguousOneToOneError"
  | unsupportedRelation => "UnsupportedRelationError"
  | inverseCycle => "InverseCycleError"
  | integrity => "SchemaIntegrityError"
  | duplicateTable => "DuplicateTableError"
  | alterCommandConflict => "AlterCommandConflictError"
  | introspection => "IntrospectionError"
  | snapshot => "SnapshotError"

/-! ## Causes -/

/-- The cause of a failure. -/
inductive Error where
  /-- A line matches no rule of the grammar. The text is trimmed. -/
  | unparsedLine (line : Int) (text : String)
  /-- An entity is declared with a plural name. -/
  | pluralEntityName (name : String)
  /-- A join is malformed, or has a shape that is told in `reason`. -/
  | joinSyntax (join : String) (reason : Option String)
  /-- A union of types is marked as an array. -/
  | polymorphicArray (method returnType : String)
  /-- A tag is not known at the place where it stands. -/
  | unknownTag (place owner tag : String)
  /-- No path is given for a namespace, and none can be derived. -/
  | namespacePath (name : String)
  /-- A pointer to the inverse is not of the form `Model.method()`. -/
  | inverseFormat (pointer : String)
  /-- No entity has the name. -/
  | entityNotFound (name : String) (available : List String)
  /-- Several entities have the name. -/
  | ambiguousShortName (name : String) (candidates : List String)
  /-- An entity lacks a method. -/
  | methodNotFound (method entity : String)
  /-- An entity lacks a field. -/
  | fieldNotFound (field entity : String) (available : List String)
  /-- A namespace was never declared. -/
  | namespaceNotFound (name : String) (available : List String)
  /-- No method can be the inverse of a method. -/
  | inverseNotFound (method hint : String)
  /-- A method for one thing has neither a field nor an inverse. -/
  | missingForeignKey (method entity methodName field suggestion : String)
  /-- Neither side of a one-to-one relation has the field. -/
  | ambiguousOneToOne (this that : String)
  /-- A lookup came back to a method whose lookup is still running. -/
  | inverseCycle (chain : List String)
  /-- A pivot join does not mention the entity. -/
  | pivotJoinWithoutOwner (join entity : String)
  /-- No method of the entity in between returns the type. -/
  | noThroughMethod (method returnType through : String)
  /-- Several methods of the entity in between return the type. -/
  | severalThroughMethods (method returnType through : String)
  /-- The related entity of a method is not known. -/
  | unknownRelated (method returnType : String)
  /-- An entity has no primary key, although one is needed. -/
  | noPrimaryKey (entity reason : String)
  /-- An entity has several primary keys, although one is needed. -/
  | compositePrimaryKey (entity reason : String) (keys : List String)
  /-- A polymorphic pivot has a primary key other than `id`. -/
  | customMorphKey (method entity : String)
  /-- A relation through an entity has no entity to go through. -/
  | noThroughEntity (method : String)
  /-- Two entities are stored in one table. -/
  | duplicateTable (table first second : String)
  /-- A field is declared and also renamed. -/
  | renamedFieldDeclared (entity field target : String)
  /-- An index is declared and also renamed. -/
  | renamedIndexDeclared (entity field index target : String)
  /-- An index is declared and also deleted. -/
  | deletedIndexDeclared (entity field index : String)
  /-- A table that is to be created exists. -/
  | tableExists (table : String)
  /-- A table that is to be updated does not exist. -/
  | tableMissing (table : String)
  /-- A command acts on a column that does not exist. -/
  | columnMissing (table column : String)
  /-- A command acts on an index that does not exist. -/
  | indexMissing (table index : String)
  /-- A text is no snapshot. -/
  | invalidSnapshot
  /-- A snapshot file cannot be read. -/
  | unreadableSnapshot (path : String) (fault : FileFault)
  /-- A schema file cannot be read. -/
  | unreadableSchema (path : String) (fault : FileFault)
  /-- A path holds the character that ends paths. -/
  | nullInPath
  /-- A database address is not understood. -/
  | unknownDatabase (url : String)
  /-- A database cannot be reached. -/
  | unreachableDatabase
  /-- A database is needed and none is given. -/
  | noDatabase
  /-- A value has the wrong type. -/
  | invalidValue
  /-- A number has more digits than are read. -/
  | numberTooLong (digits : Nat)
  /-- No method of a polymorphic pivot returns the related type. -/
  | noMorphMethod
  /-- A file is not text. -/
  | undecodable (reason : String)
  /-- Any other failure of a family. -/
  | other (category : ErrorCategory) (message : String) (context : List (String × Json))
  deriving DecidableEq, Repr, Inhabited

namespace Error

/-- The failure of a line that matches no rule. -/
def ofLine (line : Int) (text : String) : Error :=
  .unparsedLine line (String.ofList (Text.trim text.toList))

/-- The shape that a join of two conditions must have. -/
def pivotShape (join : String) : String :=
  "Joins with \"AND\" are currently used only for many-to-many relations and so should " ++
  "reference the same table twice, like this: \"table1.X = table2.Y AND table2.Z = table3.A\" " ++
  s!"see: \"{join}\""

/-- The family of an error, if it belongs to one. -/
def category? : Error → Option ErrorCategory
  | unparsedLine .. => some .parseFailure
  | pluralEntityName .. => some .pluralEntityName
  | joinSyntax .. => some .joinSyntax
  | polymorphicArray .. => some .polymorphicArray
  | unknownTag .. => some .unknownTag
  | namespacePath .. => some .namespacePath
  | inverseFormat .. => some .inverseFormat
  | entityNotFound .. => some .entityNotFound
  | ambiguousShortName .. => some .ambiguousShortName
  | methodNotFound .. => some .methodNotFound
  | fieldNotFound .. => some .fieldNotFound
  | namespaceNotFound .. => some .namespaceNotFound
  | inverseNotFound .. => some .inverseMethodNotFound
  | missingForeignKey .. => some .missingForeignKey
  | ambiguousOneToOne .. => some .ambiguousOneToOne
  | inverseCycle .. => some .inverseCycle
  | pivotJoinWithoutOwner .. | noThroughMethod .. | severalThroughMethods .. => some .resolution
  | unknownRelated .. | noPrimaryKey .. | compositePrimaryKey .. | customMorphKey .. =>
    some .unsupportedRelation
  | duplicateTable .. => some .duplicateTable
  | renamedFieldDeclared .. | renamedIndexDeclared .. | deletedIndexDeclared .. =>
    some .alterCommandConflict
  | tableExists .. | tableMissing .. | columnMissing .. | indexMissing .. | invalidSnapshot
  | unreadableSnapshot .. => some .snapshot
  | unknownDatabase .. | unreachableDatabase => some .introspection
  | unreadableSchema .. | noDatabase => some .general
  | other category .. => some category
  | invalidValue | numberTooLong .. | noMorphMethod | noThroughEntity .. | undecodable ..
  | nullInPath => none

/-- The sentence for the reader. -/
def message : Error → String
  | unparsedLine line text => s!"Cannot parse: line {line}: {text}"
  | pluralEntityName name => s!"You are using plural \"{name}\" as model name"
  | joinSyntax join reason =>
    match reason with
    | none | some "" => s!"Cannot parse join: {join}"
    | some text => text
  | polymorphicArray method returnType =>
    let letters := returnType.toList
    let suggestion :=
      if "[]".toList.isSuffixOf letters then
        let single := String.ofList (letters.take (letters.length - 2))
        s!", did you mean just `{single}` instead of `{returnType}`?"
      else
        "."
    s!"Your `{method}` method asks for polymorphic relation with array, " ++
      s!"I am not sure how to do it{suggestion}"
  | unknownTag place owner tag => s!"Cannot parse tag for {place} \"{owner}\": '{tag}'"
  | namespacePath name =>
    s!"Cannot infer what path should be for namespace {name}, " ++
      s!"use form `namespace {name} app/Path/Path`"
  | inverseFormat pointer =>
    s!"Inverse of (<-) should be in format `Model.method()`, got `{pointer}`"
  | entityNotFound name available =>
    if available.isEmpty then s!"Model '{name}' not found. No models are declared."
    else s!"Model '{name}' not found. Available models: " ++ ", ".intercalate available
  | ambiguousShortName name _ => s!"Multiple models match {name}, use fully qualified name"
  | methodNotFound method entity => s!"Method \"{method}\" in the model \"{entity}\" not found"
  | fieldNotFound field entity available =>
    s!"Field \"{field}\" in the model \"{entity}\" not found" ++
      if available.isEmpty then "" else ". Available fields: " ++ ", ".intercalate available
  | namespaceNotFound name available =>
    s!"Namespace {name} is not declared. Declared: " ++ ", ".intercalate available
  | inverseNotFound method hint => s!"Cannot deduce inverse method for `{method}`, {hint}"
  | missingForeignKey method entity methodName field suggestion =>
    s!"Method `{method}` returns only one thing, so it is probably of type `Belongs To`, " ++
      s!"which requires field `{field}`, but I'm not sure if I should create it " ++
      s!"(fix: define method `{suggestion}` or define field in model `{entity}` as " ++
      s!"`{methodName}() via {field}` or as `{field}: integer` field)"
  | ambiguousOneToOne this that =>
    let toThat := String.ofList (Text.lower that.toList)
    let toThis := String.ofList (Text.lower this.toList)
    s!"Model {this} contains a confusing One to One definition between " ++
      s!"`{this}.{toThat}()` and `{that}.{toThis}()`. " ++
      "One to one requires a field in one of these tables. " ++
      s!"To resolve it: if {this} (usually) belongs to {that} - then add " ++
      s!"`{toThat}() via {toThat}_id` to {this}; " ++
      s!"otherwise if {that} (usually) belongs to {this} - then add " ++
      s!"`{toThis}() via {toThis}_id` to {that}."
  | inverseCycle chain =>
    "Inverse methods form a cycle: " ++ " -> ".intercalate chain ++ ". " ++
      "Check the `<-` pointers, each should name the method on the other side."
  | pivotJoinWithoutOwner join entity =>
    s!"Trying to parse '{join}' I needed to find part that matches table or " ++
      s!"model {entity}, but couldn't"
  | noThroughMethod _ returnType through =>
    s!"There is no method returning `{returnType}` in `{through}`"
  | severalThroughMethods _ returnType through =>
    s!"There are several methods returning `{returnType}` in `{through}`, " ++
      "keep only one of them"
  | unknownRelated method returnType =>
    s!"Cannot tell which model `{method}` returns, declare model `{returnType}`"
  | noPrimaryKey entity reason => s!"Model `{entity}` has no primary key, but {reason}"
  | compositePrimaryKey entity reason keys =>
    s!"Model `{entity}` has a complex primary key (" ++ ",".intercalate keys ++ s!"), {reason}"
  | customMorphKey method entity =>
    "Currently, we don't support polymorphic many-to-many with custom Primary Key " ++
      s!"(see `{method}` and model `{entity}`)"
  | noThroughEntity method => s!"Method `{method}` names no model to go through"
  | duplicateTable table first second =>
    s!"There are two models with table_name is `{table}`: " ++
      s!"{first} and {second}. You must have exactly 1 Model for 1 Table."
  | renamedFieldDeclared entity field target =>
    s!"You have a `RENAME FIELD {field}` command and you also try to " ++
      s!"create the same field `{field}` (in {entity}). " ++
      s!"You probably want to change the field name to `{target}`"
  | renamedIndexDeclared entity field index target =>
    s!"You have a `RENAME INDEX {index}` command and you also try to " ++
      s!"create Index({index}) on a field `{entity}.{field}`. You probably want to " ++
      s!"update the name of index to Index({target})"
  | deletedIndexDeclared entity field index =>
    s!"You have a `DELETE INDEX {index}` command and you also try to " ++
      s!"create Index({index}) on a field `{entity}.{field}`. You probably want to " ++
      s!"remove Index({index}) from the field."
  | tableExists table => s!"Cannot create table {table}: it already exists"
  | tableMissing table => s!"Cannot update table {table}: it does not exist"
  | columnMissing table column => s!"Column {table}.{column} does not exist"
  | indexMissing table index => s!"Index {index} does not exist on {table}"
  | invalidSnapshot => "Invalid snapshot"
  | unreadableSnapshot path fault =>
    s!"Cannot read snapshot {path}: " ++ fault.describe (.ofString path)
  | unreadableSchema path fault =>
    s!"Cannot read schema file {path}: " ++ fault.describe (.ofString path)
  | nullInPath => "embedded null byte"
  | unknownDatabase _ => "Failed to create database engine"
  | unreachableDatabase => "Database connection test failed"
  | noDatabase => "No database given, use --database or set SCHEMAFORGE_DATABASE_URL"
  | invalidValue => ""
  | numberTooLong digits =>
    s!"Exceeds the limit ({Text.digitLimit} digits) for integer string conversion: value has " ++
      s!"{digits} digits; use sys.set_int_max_str_digits() to increase the limit"
  | noMorphMethod => "list index out of range"
  | undecodable reason => reason
  | other _ message _ => message

/-- The data of an error, in the order in which it is reported. -/
def context : Error → List (String × Json)
  | unparsedLine line text => [("line_number", .int line), ("raw_line", .string text)]
  | pluralEntityName name => [("entity_name", .string name)]
  | joinSyntax join _ => [("join", .string join)]
  | polymorphicArray method returnType =>
    [("method", .string method), ("return_type", .string returnType)]
  | unknownTag place owner tag =>
    [("kind", .string place), ("owner", .string owner), ("tag", .string tag)]
  | namespacePath name => [("namespace", .string name)]
  | inverseFormat pointer => [("inverse_of", .string pointer)]
  | entityNotFound name available =>
    [("entity_name", .string name), ("available_entities", .strings available)]
  | ambiguousShortName name candidates =>
    [("name", .string name), ("candidates", .strings candidates)]
  | methodNotFound method entity =>
    [("method_name", .string method), ("entity_name", .string entity)]
  | fieldNotFound field entity available =>
    [("field_name", .string field), ("entity_name", .string entity),
     ("available_fields", .strings available)]
  | namespaceNotFound name available =>
    [("namespace", .string name), ("available", .strings available)]
  | inverseNotFound method _ => [("method", .string method)]
  | missingForeignKey method _ _ field suggestion =>
    [("method", .string method), ("field_name", .string field),
     ("suggested_method", .string suggestion)]
  | ambiguousOneToOne this that => [("entities", .strings [this, that])]
  | inverseCycle chain => [("chain", .strings chain)]
  | pivotJoinWithoutOwner join entity =>
    [("join", .string join), ("entity_name", .string entity)]
  | noThroughMethod method _ through | severalThroughMethods method _ through =>
    [("method", .string method), ("through", .string through)]
  | unknownRelated method _ => [("method", .string method)]
  | noPrimaryKey entity _ => [("entity_name", .string entity)]
  | compositePrimaryKey entity _ keys =>
    [("entity_name", .string entity), ("primary_key", .strings keys)]
  | customMorphKey method entity =>
    [("method", .string method), ("entity_name", .string entity)]
  | duplicateTable table first second =>
    [("table_name", .string table), ("entities", .strings [first, second])]
  | renamedFieldDeclared entity field _ =>
    [("entity_name", .string entity), ("field_name", .string field)]
  | renamedIndexDeclared entity _ index _ | deletedIndexDeclared entity _ index =>
    [("entity_name", .string entity), ("index_name", .string index)]
  | tableExists table | tableMissing table => [("table", .string table)]
  | columnMissing table column => [("table", .string table), ("column", .string column)]
  | indexMissing table index => [("table", .string table), ("index", .string index)]
  | unreadableSnapshot path _ | unreadableSchema path _ => [("path", .string path)]
  | unknownDatabase url => [("url", .string url)]
  | invalidSnapshot | unreachableDatabase | noDatabase | invalidValue | numberTooLong _
  | noMorphMethod | noThroughEntity _ | undecodable _ | nullInPath => []
  | other _ _ context => context

/-- Whether an error only says that a lookup found nothing, so that a question which could go
on without the answer may do so. -/
def isFailedLookup (error : Error) : Bool :=
  match error.category? with
  | some .inverseMethodNotFound | some .methodNotFound | some .entityNotFound
  | some .inverseFormat => true
  | _ => false

/-- Whether an error says that no inverse can be deduced. -/
def isMissingInverse (error : Error) : Bool := error.category? == some .inverseMethodNotFound

end Error

end EntitySchema
