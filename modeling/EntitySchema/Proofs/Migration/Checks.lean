/-
What is checked while the table of an entity is built.

A command is to act on what is no longer declared. So each field is checked before it is added to
the table of its entity: it is refused if a command renames it, or if a command renames or deletes
one of its indexes. The indexes of a field that is left to a pending rename are not looked at, since
the field is not added.

`Reports` is what a check is good for: it fails, and with a conflict, exactly if there is something
to be found. The lemmas below carry this from the checks of one field to the whole table, which is
`reports_toTable`.

Checks compose, and that is all the structure there is: two checks in a row find what one of them
finds, a check for each item of a list finds what is found at some item, and the same with a state
that is carried along. In each case the proposition that is found is put together in the same way as
the program, so that the proof about a table follows the text of the program that builds it. What
comes out is then brought into the form in which it is read, by `Reports.congr`.

Two notions of contradiction are set against each other. `ActsOn` is what a reader would call one, a
command that acts on a field or on something the field declares. `IsFoundAt` is what the checks look
for, and it is less. The difference between the two is the subject of `Migration.Conflicts`.
-/
import EntitySchema.Table

set_option autoImplicit false

namespace EntitySchema

/-! ## Checks -/

/-- A check passes if there is nothing to be found, and otherwise fails with a conflict. -/
inductive Reports {α : Type} (found : Prop) : Except Error α → Prop where
  | passed {value : α} (nothing : ¬ found) : Reports found (.ok value)
  | refused {error : Error} (something : found)
      (category : error.category? = some .alterCommandConflict) : Reports found (.error error)

namespace Reports

variable {α β : Type} {found later : Prop} {outcome : Except Error α}

/-- What is found may be said in other words. -/
theorem congr (h : Reports found outcome) (hiff : found ↔ later) : Reports later outcome :=
  propext hiff ▸ h

/-- Two checks in a row find what either of them finds. The second is not made if the first has
found something. -/
theorem bind {next : α → Except Error β} (h : Reports found outcome)
    (hnext : ∀ value, Reports later (next value)) : Reports (found ∨ later) (outcome >>= next) := by
  cases h with
  | refused something category => exact .refused (.inl something) category
  | @passed value nothing =>
    -- only the second step is left to find anything
    exact (hnext value).congr (or_iff_right nothing).symm

/-- A check of every item finds what is found at some item. -/
theorem forM {check : β → Except Error Unit} {items : List β} {found : β → Prop}
    (h : ∀ item ∈ items, Reports (found item) (check item)) :
    Reports (∃ item ∈ items, found item) (items.forM check) := by
  induction items with
  | nil => exact .passed (by simp)
  | cons item items ih =>
    have hrest := ih fun other hother => h other (List.mem_cons_of_mem _ hother)
    exact ((h item List.mem_cons_self).bind fun _ => hrest).congr (by simp)

/-- The same where a state is carried along, if what is found at an item does not depend on the
state. -/
theorem foldlM {step : α → β → Except Error α} {items : List β} {found : β → Prop}
    (h : ∀ item ∈ items, ∀ state, Reports (found item) (step state item)) (start : α) :
    Reports (∃ item ∈ items, found item) (items.foldlM step start) := by
  induction items generalizing start with
  | nil => exact .passed (by simp)
  | cons item items ih =>
    rw [List.foldlM_cons]
    have hrest := ih fun other hother => h other (List.mem_cons_of_mem _ hother)
    exact ((h item List.mem_cons_self start).bind fun next => hrest next).congr (by simp)

/-- A check fails with a conflict if something is found, and never with anything else. -/
theorem exists_error_iff (h : Reports found outcome) :
    (∃ error, outcome = .error error ∧ error.category? = some .alterCommandConflict) ↔ found := by
  cases h with
  | passed nothing => exact iff_of_false nofun nothing
  | refused something category => exact iff_of_true ⟨_, rfl, category⟩ something

/-- If nothing is found a check passes. -/
theorem exists_ok (h : Reports found outcome) (hnothing : ¬ found) :
    ∃ value, outcome = .ok value := by
  cases h with
  | passed _ => exact ⟨_, rfl⟩
  | refused something _ => exact absurd something hnothing

/-- A check passes or fails with a conflict, and there is no third way. -/
theorem ok_or_error (h : Reports found outcome) : (∃ value, outcome = .ok value) ∨
    ∃ error, outcome = .error error ∧ error.category? = some .alterCommandConflict := by
  cases h with
  | passed nothing => exact .inl ⟨_, rfl⟩
  | refused something category => exact .inr ⟨_, rfl, category⟩

end Reports

/-! ## Contradictions -/

namespace Entity

variable {pending : List AlterCommand}

/-- Whether a field is left to a pending rename. Then its column is not added, because the rename is
going to bring it about. -/
def isHidden (pending : List AlterCommand) (field : Field) : Bool :=
  isRenamedTo pending .renameField field.name

/-- A field is not left to a rename if no pending one has its name as target. -/
theorem isHidden_eq_false_iff {field : Field} :
    isHidden pending field = false ↔
      ∀ command ∈ pending, command.kind = .renameField → command.target ≠ some field.name := by
  simp [isHidden, isRenamedTo, List.any_eq_false]

/-- More pending commands leave more fields to renames. -/
theorem isHidden_of_subset {fewer : List AlterCommand} {field : Field} (hsub : fewer ⊆ pending)
    (h : isHidden fewer field = true) : isHidden pending field = true := by
  rw [isHidden, isRenamedTo, List.any_eq_true] at h ⊢
  obtain ⟨command, hcommand, hrenames⟩ := h
  exact ⟨command, hsub hcommand, hrenames⟩

end Entity

namespace AlterCommand

/-- A command acts on a field: on one of its indexes or unique constraints, or else on its column.
This is meant as a contradiction of the declaration. -/
def ActsOn (command : AlterCommand) (field : Field) : Prop :=
  if command.kind.actsOnIndex then
    command.source ∈ field.indexNames ∨ command.source ∈ field.uniqueNames
  else command.source = field.name

/-- A command is found at a field: it renames the field, or it acts on one of its indexes and the
field is not left to a pending rename. -/
def IsFoundAt (pending : List AlterCommand) (command : AlterCommand) (field : Field) : Prop :=
  (command.kind = .renameField ∧ command.source = field.name) ∨
    (Entity.isHidden pending field = false ∧ command.kind.actsOnIndex = true ∧
      command.source ∈ field.indexNames)

variable {pending fewer : List AlterCommand} {command : AlterCommand} {field : Field}

instance : Decidable (command.ActsOn field) :=
  inferInstanceAs (Decidable (if command.kind.actsOnIndex then _ else _))

instance : Decidable (command.IsFoundAt pending field) :=
  inferInstanceAs (Decidable (_ ∨ _))

/-- Whatever is found is a contradiction. The converse fails, for deletions of fields, for unique
constraints, and for fields that are left to a rename. -/
theorem IsFoundAt.actsOn (h : command.IsFoundAt pending field) : command.ActsOn field := by
  rw [ActsOn]
  rcases h with ⟨hkind, hsame⟩ | ⟨-, hkind, hcarried⟩
  · rw [hkind, if_neg (by decide)]
    exact hsame
  · rw [hkind, if_pos rfl]
    exact .inl hcarried

/-- The fewer renames are pending, the more is found. -/
theorem IsFoundAt.of_fewer (h : command.IsFoundAt pending field)
    (hfewer : Entity.isHidden fewer field = true → Entity.isHidden pending field = true) :
    command.IsFoundAt fewer field := by
  refine h.imp_right fun ⟨hshown, hcarried⟩ => ⟨?_, hcarried⟩
  rw [Bool.eq_false_iff] at hshown ⊢
  exact mt hfewer hshown

end AlterCommand

namespace Entity

/-- Some command of an entity acts on one of its fields. -/
def Contradicts (entity : Entity) : Prop :=
  ∃ field ∈ entity.fields, ∃ command ∈ entity.commands, command.ActsOn field

/-- Some command of an entity is found at one of its fields while commands are pending. -/
def IsRefused (entity : Entity) (pending : List AlterCommand) : Prop :=
  ∃ field ∈ entity.fields, ∃ command ∈ entity.commands, command.IsFoundAt pending field

variable {entity : Entity} {pending fewer : List AlterCommand}

instance : Decidable entity.Contradicts :=
  inferInstanceAs (Decidable (∃ field ∈ entity.fields, _))

instance : Decidable (entity.IsRefused pending) :=
  inferInstanceAs (Decidable (∃ field ∈ entity.fields, _))

/-- An entity that is refused has a contradiction. -/
theorem IsRefused.contradicts (h : entity.IsRefused pending) : entity.Contradicts := by
  obtain ⟨field, hfield, command, hcommand, hfound⟩ := h
  exact ⟨field, hfield, command, hcommand, hfound.actsOn⟩

/-- What is found while commands are pending is found while fewer are. -/
theorem IsRefused.of_fewer (h : entity.IsRefused pending)
    (hfewer : ∀ field, isHidden fewer field = true → isHidden pending field = true) :
    entity.IsRefused fewer := by
  obtain ⟨field, hfield, command, hcommand, hfound⟩ := h
  exact ⟨field, hfield, command, hcommand, hfound.of_fewer (hfewer field)⟩

/-! ## Building the table -/

/-- The check of a field looks for a rename of it. -/
theorem reports_checkField (entity : Entity) (field : Field) :
    Reports (∃ command ∈ entity.commands, command.kind = .renameField ∧
      command.source = field.name) (entity.checkField field) := by
  rw [checkField]
  split
  · next command hfound =>
    refine .refused ⟨command, List.mem_of_find?_eq_some hfound, ?_⟩ rfl
    simpa using List.find?_some hfound
  · next hnone => exact .passed (by simpa using hnone)

/-- The check of an index looks for a command that renames or deletes it. The error depends on which
of the two it is, but both are conflicts. -/
theorem reports_checkIndex (entity : Entity) (field : Field) (index : String) :
    Reports (∃ command ∈ entity.commands, command.kind.actsOnIndex = true ∧
      command.source = index) (entity.checkIndex field index) := by
  rw [checkIndex]
  split
  · next command hfound =>
    have hthere : ∃ command ∈ entity.commands, command.kind.actsOnIndex = true ∧
        command.source = index :=
      ⟨command, List.mem_of_find?_eq_some hfound, by simpa using List.find?_some hfound⟩
    split
    · exact .refused hthere rfl
    · exact .refused hthere rfl
  · next hnone => exact .passed (by simpa using hnone)

/-- What the checks of one field look for, in the order in which the program makes them: first at
the field and then, if it is not left out, at its indexes. -/
theorem exists_isFoundAt_iff {field : Field} :
    (∃ command ∈ entity.commands, command.IsFoundAt pending field) ↔
      (∃ command ∈ entity.commands, command.kind = .renameField ∧ command.source = field.name) ∨
        (isHidden pending field = false ∧ ∃ index ∈ field.indexNames,
          ∃ command ∈ entity.commands, command.kind.actsOnIndex = true ∧
            command.source = index) := by
  constructor
  · rintro ⟨command, hcommand, hrename | ⟨hshown, hkind, hcarried⟩⟩
    · exact .inl ⟨command, hcommand, hrename⟩
    · exact .inr ⟨hshown, command.source, hcarried, command, hcommand, hkind, rfl⟩
  · rintro (⟨command, hcommand, hrename⟩ | ⟨hshown, index, hindex, command, hcommand, hkind, rfl⟩)
    · exact ⟨command, hcommand, .inl hrename⟩
    · exact ⟨command, hcommand, .inr ⟨hshown, hkind, hindex⟩⟩

/-- **One field.** It is refused if a command is found at it. -/
theorem reports_addFieldToTable (entity : Entity) (table : Table) (field : Field) :
    Reports (∃ command ∈ entity.commands, command.IsFoundAt pending field)
      (entity.addFieldToTable pending table field) := by
  rw [exists_isFoundAt_iff, addFieldToTable]
  refine (entity.reports_checkField field).bind fun _ => ?_
  rw [isHidden]
  cases isRenamedTo pending .renameField field.name with
  | true =>
    -- the field is left out, and its indexes with it
    exact .passed nofun
  | false =>
    have hindexes := Reports.forM fun index (_ : index ∈ field.indexNames) =>
      entity.reports_checkIndex field index
    exact (hindexes.bind fun _ => .passed not_false).congr (by simp)

/-- **The table of an entity.** It is refused if a command is found at one of its fields. The fields
are gone through one by one, and what is found at one does not depend on the table so far. -/
theorem reports_toTable (entity : Entity) (snapshot : Snapshot) :
    Reports (entity.IsRefused (entity.pendingCommands snapshot)) (entity.toTable snapshot) :=
  Reports.foldlM (fun field _ table => entity.reports_addFieldToTable table field) _

end Entity

end EntitySchema
