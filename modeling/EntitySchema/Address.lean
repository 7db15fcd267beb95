/-
Addresses of databases.

An address names a driver, and after a colon and two slashes perhaps a user, as `user:password@`,
a server, as `name:number`, a file, as `/path`, and options, as `?name=value`. A database in a file
has no server, and without a file it is in memory.
-/
import EntitySchema.Path
import EntitySchema.Text.Letter

set_option autoImplicit false

namespace EntitySchema

/-- The address of a database. -/
structure Address where
  driver : String
  /-- Whether a user or a server is named. -/
  hasServer : Bool
  /-- The file, which is empty if none is named. -/
  file : String
  deriving DecidableEq, Repr, Inhabited

namespace Address

/-- What follows the user, and whether there is one. The password may hold slashes, and the name
of the user may hold the sign that ends it. -/
def afterUser (cs : List Char) : Bool × List Char :=
  let isPart (c : Char) : Bool := c != ':' && c != '/'
  let name := cs.takeWhile isPart
  let rest := cs.dropWhile isPart
  let password := (rest.drop 1).takeWhile (· != '@')
  match rest.head?, (rest.drop 1).dropWhile (· != '@') with
  | some ':', _ :: rest => (!(name ++ password).isEmpty, rest)
  | _, _ =>
    let server := (name.reverse.takeWhile (· != '@')).reverse
    if name.contains '@' then (server.length + 1 < name.length, server ++ rest) else (false, cs)

/-- Reads an address. -/
def read? (text : String) : Option Address := do
  let (driver, rest) ← Text.run? (fun c => Text.isWordChar c || c = '+') text.toList
  let (hasUser, rest) := afterUser (← Text.after? "://".toList rest)
  let server := rest.takeWhile fun c => c != '/' && c != '?'
  let file := (rest.drop (server.length + 1)).takeWhile (· != '?')
  let hasFile := rest[server.length]? = some '/'
  return {
    driver := String.ofList driver
    hasServer := hasUser || !server.isEmpty
    file := if hasFile then String.ofList file else "" }

/-- Takes a step from a place below a directory, if it stays there. -/
def step? (names : List String) (name : String) : Option (List String) :=
  if name = ".." then if names.isEmpty then none else some names.dropLast
  else some (names ++ [name])

/-- Whether a file lies in the directory that one is in. -/
def isNear (file : String) : Bool :=
  let path := Path.ofString file
  !path.isAbsolute && (path.names.foldlM step? []).any (·.length = 1)

end Address

end EntitySchema
