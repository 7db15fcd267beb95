/-
The schema: entities with their fields, methods and commands.

Entities stand in a list, and fields, methods and commands name the entity they belong to by
its place in that list. The place is given when an item is added: a field that has just been made
of a line belongs to no entity yet, and an entity that has just been made stands nowhere. A method
also knows its place among the methods of its entity, so the two numbers together tell apart any
two methods of a schema.

A relation is never stored. What a method line says is kept here; the kind of the relation is
derived from the whole schema by `EntitySchema.Relation`.
-/
import EntitySchema.Config
import EntitySchema.Declaration.Basic
import EntitySchema.Naming
import EntitySchema.OrderedMap

set_option autoImplicit false

namespace EntitySchema

/-- What holds for fields that do not say otherwise. -/
structure Policy where
  nullable : Bool := true
  guarded : Bool := false
  deriving DecidableEq, Repr, Inhabited

/-- A column of the table of an entity, declared or implied. -/
structure Field where
  name : String
  type : String
  /-- Place of the entity it belongs to, once it is added to one. -/
  owner? : Option Nat := none
  param1 : Option Parameter := none
  param2 : Option Int := none
  nullable : Option Bool := none
  primaryKey : Bool := false
  indexNames : List String := []
  uniqueNames : List String := []
  default : Option String := none
  guarded : Option Bool := none
  /-- Whether no line declares it. -/
  implied : Bool := false
  /-- The policy in force where it was declared. -/
  policy : Policy := {}
  deriving DecidableEq, Repr, Inhabited

/-- Tells apart the methods of a schema. -/
structure MethodKey where
  /-- Place of the entity, if the method belongs to one. -/
  owner? : Option Nat
  /-- Place among the methods of the entity. -/
  position : Nat
  deriving DecidableEq, Repr, Inhabited

/-- A relation as its line declares it. -/
structure Method where
  name : String
  /-- Place of the entity it belongs to, once it is added to one. -/
  owner? : Option Nat := none
  /-- Place among the methods of its entity. -/
  position : Nat := 0
  declaredType : Option String := none
  via : Option String := none
  inverseOf : Option String := none
  join : Option Join := none
  pivotAlias : Option String := none
  pivotWithTimestamps : Bool := false
  nullable : Option Bool := none
  deriving DecidableEq, Repr, Inhabited

/-- A command that renames or deletes what the table already has. -/
structure AlterCommand where
  kind : AlterKind
  source : String
  target : Option String := none
  /-- Place of the entity it belongs to, once it is added to one. -/
  owner? : Option Nat := none
  deriving DecidableEq, Repr, Inhabited

/-- A model that is stored in one table. -/
structure Entity where
  shortName : String
  /-- Its namespace, between backslashes. -/
  namespaceName : String
  table : String
  /-- Its place among the entities of the schema, once it is added to one. -/
  index? : Option Nat := none
  fields : List Field := []
  methods : List Method := []
  commands : List AlterCommand := []
  deriving DecidableEq, Repr, Inhabited

/-- Everything that a document says. -/
structure Schema where
  config : Config := {}
  entities : List Entity := []
  /-- Paths of the namespaces, in the order of their registration. -/
  namespaces : OrderedMap String String := ∅
  /-- The policy in force. -/
  policy : Policy := {}
  deriving DecidableEq, Inhabited

/-! ## Fields -/

namespace Field

/-- The place of the entity that a field was added to, as a plain number. -/
def owner (field : Field) : Nat := field.owner?.getD 0

/-- Whether the column may be null. -/
def mayBeNull (field : Field) : Bool := field.nullable.getD field.policy.nullable

/-- Whether the field is guarded against mass assignment. -/
def isGuarded (field : Field) : Bool := field.guarded.getD field.policy.guarded

end Field

/-! ## Methods -/

namespace Method

/-- The place of the entity that a method was added to, as a plain number. -/
def owner (method : Method) : Nat := method.owner?.getD 0

/-- Tells the method apart from all others. -/
def key (method : Method) : MethodKey := ⟨method.owner?, method.position⟩

/-- The return type that is written on the line, if it is not empty. -/
def writtenType? (method : Method) : Option String :=
  method.declaredType.filter (· ≠ "")

/-- Whether a return type is marked as an array. -/
def isArrayType (type : String) : Bool := "[]".toList.isSuffixOf type.toList

/-- The return type, written or implied by the name: `roles()` returns `Role[]`, `home_phone()`
returns `HomePhone`. -/
def returnType (method : Method) : String :=
  match method.writtenType? with
  | some type => type
  | none =>
    if isPlural method.name then studly (singularize method.name) ++ "[]"
    else studly method.name

/-- The return type without its array mark. -/
def singleType (method : Method) : String :=
  if isArrayType method.returnType then
    String.ofList (method.returnType.toList.take (method.returnType.toList.length - 2))
  else
    method.returnType

/-- Whether the method returns many things. -/
def returnsMany (method : Method) : Bool :=
  match method.writtenType? with
  | some type => isArrayType type
  | none => isPlural method.name

/-- Whether the method returns one thing. -/
def returnsOne (method : Method) : Bool := !method.returnsMany

/-- Whether the method returns one of several types. -/
def isPolymorphic (method : Method) : Bool := method.returnType.toList.contains '|'

/-- The types between the bars of the return type. -/
def unionTypes (method : Method) : List String :=
  (Text.splitOn '|' method.returnType.toList).map String.ofList

/-- Whether the return type is, or includes, a type. -/
def mayReturn (method : Method) (type : String) : Bool :=
  method.returnType == type || (method.isPolymorphic && method.unionTypes.contains type)

/-- A method of a line. -/
def ofLine (line : MethodLine) : Method where
  name := line.name
  declaredType := line.returnType
  via := line.via
  inverseOf := line.inverseOf
  join := line.join
  pivotAlias := line.pivotAlias
  pivotWithTimestamps := line.pivotWithTimestamps
  nullable := line.nullable

/-- What `via` names, if it is there and not empty. -/
def viaName? (method : Method) : Option String := method.via.filter (· ≠ "")

end Method

/-! ## Commands -/

namespace AlterCommand

/-- The place of the entity that a command was added to, as a plain number. -/
def owner (command : AlterCommand) : Nat := command.owner?.getD 0

/-- A command of a line. -/
def ofLine (line : AlterLine) : AlterCommand where
  kind := line.kind
  source := line.source
  target := line.target

/-- The command as a line. -/
def text (command : AlterCommand) : String :=
  match command.target with
  | none | some "" => command.kind.keywords ++ " " ++ command.source
  | some target => command.kind.keywords ++ " " ++ command.source ++ " TO " ++ target

end AlterCommand

/-! ## Entities -/

namespace Entity

/-- The place of an entity that was added to a schema, as a plain number. -/
def index (entity : Entity) : Nat := entity.index?.getD 0

/-- The name with its namespace. -/
def fullName (entity : Entity) : String := entity.namespaceName ++ entity.shortName

/-- Whether a name is the short or the full name of an entity. A full name may be written with
any number of backslashes at its start. -/
def isNamed (entity : Entity) (name : String) : Bool :=
  name == entity.shortName || name == entity.fullName ||
    (name.toList.contains '\\' &&
      '\\' :: name.toList.dropWhile (· == '\\') == entity.fullName.toList)

/-- Adds a field at the end. -/
def addField (entity : Entity) (field : Field) : Entity :=
  { entity with fields := entity.fields ++ [{ field with owner? := entity.index? }] }

/-- Adds a field at the start. -/
def prependField (entity : Entity) (field : Field) : Entity :=
  { entity with fields := { field with owner? := entity.index? } :: entity.fields }

/-- Adds a method at the end. -/
def addMethod (entity : Entity) (method : Method) : Entity :=
  { entity with
    methods := entity.methods ++
      [{ method with owner? := entity.index?, position := entity.methods.length }] }

/-- Adds a command at the end. -/
def addCommand (entity : Entity) (command : AlterCommand) : Entity :=
  { entity with commands := entity.commands ++ [{ command with owner? := entity.index? }] }

/-- The names of the fields in order. -/
def fieldNames (entity : Entity) : List String := entity.fields.map (·.name)

/-- Whether there is a field with a name. -/
def hasField (entity : Entity) (name : String) : Bool := entity.fieldNames.contains name

/-- The first field with a name. -/
def findField? (entity : Entity) (name : String) : Option Field :=
  entity.fields.find? (·.name == name)

/-- The first field with a name, or the reason why there is none. -/
def getField (entity : Entity) (name : String) : Except Error Field :=
  match entity.findField? name with
  | some field => .ok field
  | none => .error (.fieldNotFound name entity.shortName entity.fieldNames)

/-- The first method with a name. -/
def findMethod? (entity : Entity) (name : String) : Option Method :=
  entity.methods.find? (·.name == name)

/-- The first method with a name, or the reason why there is none. -/
def getMethod (entity : Entity) (name : String) : Except Error Method :=
  match entity.findMethod? name with
  | some method => .ok method
  | none => .error (.methodNotFound name entity.shortName)

/-- The methods whose return type is, or includes, a type. -/
def methodsReturning (entity : Entity) (type : String) : List Method :=
  entity.methods.filter (·.mayReturn type)

/-- The names of the primary keys in order. -/
def primaryKeys (entity : Entity) : List String :=
  (entity.fields.filter (·.primaryKey)).map (·.name)

/-- The fields that are guarded. -/
def guardedFields (entity : Entity) : List Field := entity.fields.filter (·.isGuarded)

end Entity

end EntitySchema
