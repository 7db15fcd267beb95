/-
Names as declarations.

The shortest line that declares an entity is its name, and the shortest one that declares a method
is its name with an empty pair of parentheses. Other kinds of lines are tried first, and a name
could be mistaken for one of them only by a blank, a colon or a small letter at its start, none of
which is there.

`Document.readLine_entity` and `Document.readLine_call` say what such a line does to a document.
With `Lines.ofText_laidOut` they compute the schema of any document that is written in this way,
whatever the names in it are, and that is how the documents by convention are read: no text is
evaluated there, since the names are variables.

A short line is also where conventions show. What it does not say is filled in by them: the table is
that of the name, the namespace the one that is in force, and the return type follows the name of
the method. The first two are done here; the third is a matter of relations.
-/
import EntitySchema.Document
import EntitySchema.Proofs.Declaration.Tags
import EntitySchema.Proofs.Lines.LaidOut
import EntitySchema.Proofs.Naming.Studly
import EntitySchema.Proofs.Outcome

set_option autoImplicit false

namespace EntitySchema

open Outcome

/-! ## Lines of one name -/

/-- A name stands on a line as it is: it holds neither blanks nor a line feed, does not start a
comment and does not end in a comma. -/
theorem IsName.isOneLine {name : List Char} (h : IsName name) : Line.IsOneLine name := by
  have hchars : ∀ c ∈ name, Text.isBlank c = false ∧ c ≠ '#' ∧ c ≠ '\n' ∧ c ≠ ',' := by
    intro c hc
    have hname := h.nameChars c hc
    exact Text.forall_ascii (P := fun c => Text.isNameChar c = true →
        Text.isBlank c = false ∧ c ≠ '#' ∧ c ≠ '\n' ∧ c ≠ ',')
      (by decide +kernel) (Text.toNat_lt_of_isNameChar hname) hname
  constructor
  case nonempty => exact h.nonempty
  case noFeed => exact fun hmem => (hchars '\n' hmem).2.2.1 rfl
  case first =>
    intro c hc
    obtain ⟨hblank, hcomment, -⟩ := hchars c (List.mem_of_mem_head? hc)
    exact ⟨hblank, hcomment⟩
  case last =>
    intro c hc
    obtain ⟨hblank, -, -, hcomma⟩ := hchars c (List.mem_of_getLast? hc)
    exact ⟨hblank, hcomma⟩

/-- So does a name with parentheses. -/
theorem IsName.isOneLine_call {name : String} (h : IsName name.toList) :
    Line.IsOneLine (name ++ "()").toList := by
  rw [String.toList_append]
  constructor
  case nonempty => simp
  case noFeed =>
    rw [List.mem_append, not_or]
    exact ⟨h.isOneLine.noFeed, by decide⟩
  case first =>
    rw [List.head?_append_of_ne_nil _ h.nonempty]
    exact h.isOneLine.first
  case last =>
    rw [List.getLast?_append_of_ne_nil _ (by decide)]
    intro c hc
    obtain rfl : ')' = c := Option.some.inj hc
    decide

/-! ## The name of an entity -/

section Entities

variable {name : String} (h : IsStudly name)
include h

/-- A policy starts with a word and a blank, and a name has no blank. The reader takes the word in
any case, so a capital at the start would not be enough. -/
theorem DefaultLine.read_name : DefaultLine.read name = .ok none := by
  have hnot : (name.toList.take 8).map Char.toLower ≠ "default ".toList := by
    intro heq
    have hblank : ' ' ∈ (name.toList.take 8).map Char.toLower := by
      rw [heq]
      decide
    obtain ⟨c, hc, hlower⟩ := List.mem_map.1 hblank
    have hname := h.isName.nameChars c (List.mem_of_mem_take hc)
    exact Text.forall_ascii (P := fun c => Text.isNameChar c = true → c.toLower ≠ ' ')
      (by decide +kernel) (Text.toNat_lt_of_isNameChar hname) hname hlower
  rw [read, tagsText?, if_neg hnot]

/-- A namespace line starts with a small letter, a studly name with a capital. -/
theorem NamespaceLine.read_name (config : Config) : NamespaceLine.read config name = .ok none := by
  have hafter : Text.after? "namespace".toList name.toList = none := by
    rw [Option.eq_none_iff_forall_ne_some]
    intro rest hrest
    obtain ⟨c, hc, hupper⟩ := h.capital
    rw [Text.eq_append_of_after? hrest] at hc
    obtain rfl : 'n' = c := Option.some.inj hc
    exact absurd hupper (by decide)
  rw [read, parts?, hafter]
  rfl

/-- A name alone is an entity without a table of its own. -/
theorem EntityLine.read?_name : EntityLine.read? name = some ⟨name, none⟩ := by
  have hchars : ∀ c ∈ name.toList, isEntityChar c = true := by
    intro c hc
    rw [isEntityChar, h.alphanumeric c hc]
    rfl
  have hrun : Text.run? isEntityChar (name.toList ++ []) = some (name.toList, []) :=
    Text.run?_append h.isName.nonempty hchars (by simp)
  rw [List.append_nil] at hrun
  rw [read?, hrun]
  exact congrArg (fun read => some (⟨read, none⟩ : EntityLine)) String.ofList_toList

/-- **A name on a line of its own declares an entity.** The other two kinds of lines are tried and
answer nothing. -/
theorem Declaration.readTopLevel_name (config : Config) :
    Declaration.readTopLevel config name = .ok (some (.ofEntity ⟨name, none⟩)) := by
  rw [readTopLevel, DefaultLine.read_name h, ok_bind]
  dsimp only
  rw [NamespaceLine.read_name h, ok_bind, EntityLine.read?_name h]
  rfl

end Entities

/-! ## The name of a method -/

section Methods

variable {name : String} (h : IsName name.toList)
include h

/-- The name is read up to the parentheses. -/
theorem name?_call : Text.name? (name ++ "()").toList = some (name.toList, ['(', ')']) := by
  rw [String.toList_append]
  refine Text.run?_append h.nonempty h.nameChars ?_
  intro c hc
  obtain rfl : '(' = c := Option.some.inj hc
  decide

/-- A field has a colon behind its name, and a call has none. -/
theorem FieldLine.read_call (owner : String) : FieldLine.read owner (name ++ "()") = .ok none := by
  rw [read, parts?, name?_call h]
  rfl

/-- A call alone is a method of which everything else is left open. -/
theorem MethodLine.read_call (owner : String) :
    MethodLine.read owner (name ++ "()") = .ok (some { name }) := by
  have hparts : parts? (name ++ "()").toList = some ({ name }, []) := by
    rw [parts?, name?_call h]
    exact congrArg (fun read => some (({ name := read } : MethodLine), [])) String.ofList_toList
  rw [read, hparts]

/-- **A name with parentheses declares a method.** -/
theorem Declaration.readNested_call (owner : String) :
    Declaration.readNested owner (name ++ "()") = .ok (some (.ofMethod { name })) := by
  rw [readNested, FieldLine.read_call h, ok_bind]
  dsimp only
  rw [MethodLine.read_call h, ok_bind]
  rfl

end Methods

/-! ## What they do to a document -/

namespace Document

variable {document : Document} {name : String}

/-- The line of a singular name adds an entity, unless its table is taken. The entity is in the
namespace in force and in the table of its name, and it becomes the current one. -/
theorem readLine_entity (hname : IsStudly name) (hsingular : isPlural name = false)
    (htable : document.schema.entityStoredIn? (conventionalTable name) = none) (number : Nat) :
    document.readLine ⟨number, name, true⟩ =
      .ok { document with
        schema := { document.schema with
          entities := document.schema.entities ++ [
            { shortName := name, namespaceName := normalizeNamespace document.namespaceName
              table := conventionalTable name, index? := document.schema.entities.length }] }
        current := some document.schema.entities.length } := by
  have hbackslash : name.toList.contains '\\' = false := by
    rw [List.contains_eq_mem, decide_eq_false_iff_not]
    exact hname.backslash_not_mem
  have hentity : (⟨name, none⟩ : EntityLine).toEntity document.namespaceName =
      .ok { shortName := name, namespaceName := normalizeNamespace document.namespaceName
            table := conventionalTable name } := by
    rw [EntityLine.toEntity, EntityLine.nameParts, EntityLine.holdsNamespace, hbackslash,
      if_neg Bool.false_ne_true]
    dsimp only
    rw [hsingular, if_neg Bool.false_ne_true]
    rfl
  rw [readLine, declarationOf, if_pos rfl, Declaration.readTopLevel_name hname, ok_bind]
  dsimp only
  rw [declare, hentity, ok_bind, Schema.addEntity, htable, ok_bind]
  rfl

/-- The line of a name with parentheses adds a method to the entity that is being read. -/
theorem readLine_call (hname : IsName name.toList) {entity : Entity}
    (hentity : document.currentEntity? = some entity) (number : Nat) :
    document.readLine ⟨number, name ++ "()", false⟩ =
      .ok (document.modifyCurrent (·.addMethod { name })) := by
  rw [readLine, declarationOf, if_neg Bool.false_ne_true, hentity]
  dsimp only
  rw [Declaration.readNested_call hname, ok_bind]
  rfl

end Document

end EntitySchema
