/-
Settings of the compiler.

They fix where entities live before any namespace line, and the types of the columns that no line of
the document declares.

Settings are texts, and none of them is checked: a type may be any word, and a path is normalized
where it is registered and not here. A key that is absent has its default, a key with a value that
is no text makes the settings unreadable, and keys without a meaning are ignored.
-/
import EntitySchema.Json.Basic

set_option autoImplicit false

namespace EntitySchema

/-- Settings that shape what a document implies. -/
structure Config where
  /-- Namespace of the entities before any namespace line. -/
  defaultNamespace : String := "\\App\\"
  /-- Directory of the default namespace. -/
  defaultNamespacePath : String := "app/"
  /-- Type of the implied primary key `id`. -/
  primaryKeyType : String := "increments"
  /-- Type of implied foreign keys. -/
  foreignKeyType : String := "integer"
  /-- Type of the columns of implied pivot tables. -/
  pivotKeyType : String := "unsignedInteger"
  /-- Type of the column that names the type of a polymorphic relation. -/
  morphTypeType : String := "string"
  deriving DecidableEq, Repr, Inhabited

namespace Config

/-- A setting: the default if it is absent, nothing if it is no text. -/
def setting? (settings : Json) (key fallback : String) : Option String :=
  match settings.get? key with
  | none => some fallback
  | some value => value.asString?

/-- Settings from their JSON form. Keys without a meaning are ignored. -/
def ofJson? (settings : Json) : Option Config := do
  let fallback : Config := {}
  return {
    defaultNamespace := ← setting? settings "default_namespace" fallback.defaultNamespace
    defaultNamespacePath :=
      ← setting? settings "default_namespace_path" fallback.defaultNamespacePath
    primaryKeyType := ← setting? settings "primary_key_type" fallback.primaryKeyType
    foreignKeyType := ← setting? settings "foreign_key_type" fallback.foreignKeyType
    pivotKeyType := ← setting? settings "pivot_key_type" fallback.pivotKeyType
    morphTypeType := ← setting? settings "morph_type_type" fallback.morphTypeType
  }

end Config

end EntitySchema
