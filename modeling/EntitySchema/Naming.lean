/-
Conventions for names.

An entity is named in studly case (`HomePhone`), its table, its columns and its methods in snake
case (`home_phones`). Namespaces are written between backslashes and paths end with a slash.

Both cases are defined by recursion over the characters with a little context, the character before
or whether a word starts. They are defined for all texts, and inverse to each other on names of the
right shape: once the separators are gone, a word that starts with a digit can no longer be told
from the one before it, and neither can two separators in a row from one.

Normalizing a namespace or a path strips the separators at its ends and puts them back, so that it
is the same done twice. In between nothing is touched, and two separators in a row stay two.
-/
import EntitySchema.Inflection.Number
import EntitySchema.Text.Scan

set_option autoImplicit false

namespace EntitySchema

namespace Naming

/-- Snake case of what follows `previous`: a capital starts a new word, unless it stands at the
start or right after a separator. -/
def snakeAfter (previous : Option Char) : List Char → List Char
  | [] => []
  | c :: rest =>
    let startsWord := Text.isUpper c && previous.any fun p => p != '_' && p != '-'
    (if startsWord then ['_'] else []) ++ Text.lowerChar c ++ snakeAfter (some c) rest

/-- Whether a character separates the words of a name. -/
def isSeparator (c : Char) : Bool := c = '-' || c = '_' || Text.isBlank c

/-- Drops separators and capitalizes the character after each of them; `starting` says whether
a word starts here. -/
def studlyAfter (starting : Bool) : List Char → List Char
  | [] => []
  | c :: rest =>
    if isSeparator c then studlyAfter true rest
    else (if starting then Text.upperChar c else [c]) ++ studlyAfter false rest

end Naming

/-- Snake case of a studly name: `RoleUserCustom` becomes `role_user_custom`. -/
def snake (name : String) : String := String.ofList (Naming.snakeAfter none name.toList)

/-- Studly case of a snake name: `home_phone` becomes `HomePhone`. -/
def studly (name : String) : String := String.ofList (Naming.studlyAfter true name.toList)

/-- The table of an entity by convention: `Person` is stored in `people`. -/
def conventionalTable (shortName : String) : String := pluralize (snake shortName)

/-- Drops every character `c` at both ends. -/
def Naming.strip (c : Char) (cs : List Char) : List Char :=
  ((cs.dropWhile (· == c)).reverse.dropWhile (· == c)).reverse

/-- A namespace between single backslashes: `App\Models` becomes `\App\Models\`. -/
def normalizeNamespace (name : String) : String :=
  String.ofList ('\\' :: Naming.strip '\\' name.toList ++ ['\\'])

/-- A path without slashes at its start and with one at its end: `/app/Models` becomes
`app/Models/`. -/
def normalizePath (path : String) : String :=
  String.ofList (Naming.strip '/' path.toList ++ ['/'])

end EntitySchema
