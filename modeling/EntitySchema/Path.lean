/-
Paths of files.

A path is a root and the names on the way from there. Slashes after one another count as one, a
single dot says nothing, and neither does a slash at the end, so `./a//b/` and `a/b` are one
path. Two dots are kept, since what they lead to depends on the directory before them. One slash
at the start is the root, and so are three and more, while two slashes are a root of their own.
-/
import EntitySchema.Text.Scan

set_option autoImplicit false

namespace EntitySchema

/-- A path to a file. -/
structure Path where
  /-- The slashes at the start: one or two, or none if the path starts from where one is. -/
  root : String := ""
  names : List String
  deriving DecidableEq, Repr, Inhabited

namespace Path

/-- The root of a path. -/
def rootOf (cs : List Char) : String :=
  match (cs.takeWhile (· = '/')).length with
  | 0 => ""
  | 2 => "//"
  | _ => "/"

/-- Whether a piece between slashes leads somewhere. -/
def isStep (piece : List Char) : Bool := piece != [] && piece != ['.']

/-- Reads a path. -/
def ofString (text : String) : Path where
  root := rootOf text.toList
  names := ((Text.splitOn '/' text.toList).filter isStep).map String.ofList

/-- Whether a path starts at the root. -/
def isAbsolute (path : Path) : Bool := path.root != ""

/-- A path as text. The path that leads nowhere is a dot. -/
def toString (path : Path) : String :=
  if path.names.isEmpty && !path.isAbsolute then "." else path.root ++ "/".intercalate path.names

/-- No step of a path that was read says nothing. -/
theorem ne_dot_of_mem_names {text name : String} (h : name ∈ (ofString text).names) :
    name ≠ "" ∧ name ≠ "." := by
  simp only [ofString, List.mem_map, List.mem_filter, isStep] at h
  obtain ⟨piece, ⟨-, hstep⟩, rfl⟩ := h
  simp only [Bool.and_eq_true, bne_iff_ne, ne_eq] at hstep
  refine ⟨fun e => hstep.1 ?_, fun e => hstep.2 ?_⟩
  · simpa using congrArg String.toList e
  · simpa using congrArg String.toList e

end Path

end EntitySchema
