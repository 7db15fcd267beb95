/-
What a change does to one table.

A change runs its commands and then adds its columns and indexes. For the theory of migration a
table is seen through two questions, what the column of a name is and whether there is an index of a
name, and the lemmas of this file answer them after each of these operations.

Commands are the interesting part. Each of them takes a source away, and a rename puts something
under its target. If no two commands on columns share a source, no two commands on indexes do, and
no source is the target of a command of the same sort, then commands do not get in each other's way:
all of them can be run, every source is gone afterwards, and what is no source and no target is as
it was. `Altered` collects these facts, and `exists_run` shows them of a whole list of commands.

An index may be listed twice, and then a command takes away only the first. This is why the source
of a command on indexes must not be listed more than once.

`Altered` is made for the induction. It is proved of one command in each of four cases
(`exists_run_one`), and `Altered.cons` joins what one command does with what the rest do after it,
for which it needs that they are clear of each other. That the rest can be run at all is another
matter: `Offers.of_altered` says that a command leaves in place what the later ones act on.

What `Altered` says of indexes is less than of columns. A column other than the sources and targets
is the same as before, but of an index it is only said that it is still there, and that it is not
listed more often. This is as much as the later commands need of it.
-/
import EntitySchema.Proofs.Outcome
import EntitySchema.Snapshot.Apply

set_option autoImplicit false

namespace EntitySchema

open Outcome

/-! ## Looking at a table -/

namespace TableState

/-- The column of a name. Columns without a name are not asked for; they come of a rename without a
target. -/
def column? (state : TableState) (name : String) : Option ColumnState :=
  state.columns.get? (some name)

/-- Whether there is an index of a name. -/
def hasIndex (state : TableState) (name : String) : Bool := state.indexes.contains (some name)

variable {state : TableState} {name : String}

/-- An index is there if its name is listed. -/
theorem hasIndex_iff : state.hasIndex name = true ↔ some name ∈ state.indexes :=
  List.contains_iff_mem

/-! ## Adding columns -/

/-- Adding a column does not touch those of other names. -/
theorem column?_addColumn_of_ne {column : ColumnChange} (h : name ≠ column.name) :
    (state.addColumn column).column? name = state.column? name := by
  rw [column?, addColumn, OrderedMap.get?_insert, if_neg (by simpa using h)]
  rfl

/-- A column that was added may be null if it was asked for so, whether it is new or not. -/
theorem nullable_addColumn (state : TableState) (column : ColumnChange) :
    ((state.addColumn column).column? column.name).map (·.nullable) = some column.nullable := by
  rw [column?, addColumn, OrderedMap.get?_insert, if_pos rfl]
  cases state.columns.get? (some column.name) <;> rfl

/-- A name that is not among the added columns keeps its column. -/
theorem column?_foldl_addColumn {columns : List ColumnChange}
    (h : name ∉ columns.map (·.name)) :
    (columns.foldl addColumn state).column? name = state.column? name := by
  induction columns generalizing state with
  | nil => rfl
  | cons column columns ih =>
    rw [List.map_cons, List.mem_cons, not_or] at h
    rw [List.foldl_cons, ih h.2, column?_addColumn_of_ne h.1]

/-- Of columns with different names each may be null if it was asked for so. With a repeated name
the last one would decide. -/
theorem nullable_foldl_addColumn {columns : List ColumnChange}
    (hnodup : (columns.map (·.name)).Nodup) {column : ColumnChange} (hmem : column ∈ columns) :
    ((columns.foldl addColumn state).column? column.name).map (·.nullable) =
      some column.nullable := by
  induction columns generalizing state with
  | nil => cases hmem
  | cons first columns ih =>
    rw [List.map_cons, List.nodup_cons] at hnodup
    rw [List.foldl_cons]
    rcases List.mem_cons.1 hmem with heq | hrest
    · rw [heq, column?_foldl_addColumn hnodup.1, nullable_addColumn]
    · exact ih hnodup.2 hrest

/-- Columns are added without regard to the indexes. -/
theorem indexes_foldl_addColumn (columns : List ColumnChange) :
    (columns.foldl addColumn state).indexes = state.indexes := by
  induction columns generalizing state with
  | nil => rfl
  | cons column columns ih =>
    rw [List.foldl_cons, ih]
    rfl

/-! ## Adding indexes -/

/-- After an index was added it is there, and those from before still are. One that was listed is
not listed again, which makes no difference here. -/
theorem hasIndex_addIndex {index : String} :
    (state.addIndex index).hasIndex name = true ↔ state.hasIndex name = true ∨ name = index := by
  rw [addIndex, hasIndex_iff, hasIndex_iff]
  split
  · next hthere =>
    rw [List.contains_iff_mem] at hthere
    constructor
    · exact .inl
    · rintro (hmem | rfl)
      · exact hmem
      · exact hthere
  · simp

/-- An index is added without regard to the columns. -/
theorem columns_addIndex (state : TableState) (index : String) :
    (state.addIndex index).columns = state.columns := by
  rw [addIndex]
  split <;> rfl

/-- So are any number of them. -/
theorem columns_foldl_addIndex (indexes : List IndexChange) :
    (indexes.foldl (fun state index => state.addIndex index.name) state).columns =
      state.columns := by
  induction indexes generalizing state with
  | nil => rfl
  | cons index indexes ih => rw [List.foldl_cons, ih, columns_addIndex]

/-- After indexes were added those are there that were there before, and those that were added. -/
theorem hasIndex_foldl_addIndex {indexes : List IndexChange} :
    (indexes.foldl (fun state index => state.addIndex index.name) state).hasIndex name = true ↔
      state.hasIndex name = true ∨ name ∈ indexes.map (·.name) := by
  induction indexes generalizing state with
  | nil => simp
  | cons index indexes ih =>
    rw [List.foldl_cons, ih, hasIndex_addIndex, List.map_cons, List.mem_cons, or_assoc]

/-! ## Adding all -/

/-- The columns afterwards are decided by the columns of the change alone. -/
theorem column?_addAll (state : TableState) (change : TableChange) (name : String) :
    (state.addAll change).column? name =
      (change.columns.foldl addColumn state).column? name := by
  rw [column?, addAll, columns_foldl_addIndex]
  rfl

/-- The indexes afterwards are those from before and those of the change. Unique constraints count
as indexes, here as in a snapshot. -/
theorem hasIndex_addAll (state : TableState) (change : TableChange) (name : String) :
    (state.addAll change).hasIndex name = true ↔
      state.hasIndex name = true ∨
        name ∈ change.indexes.map (·.name) ∨ name ∈ change.uniques.map (·.name) := by
  rw [addAll, hasIndex_foldl_addIndex, List.map_append, List.mem_append, hasIndex_iff,
    indexes_foldl_addColumn, ← hasIndex_iff]

end TableState

/-! ## Lists in which one element is replaced or taken away -/

section Replace

variable {α : Type} [BEq α] [LawfulBEq α] [DecidableEq α] {l : List α} {old new other : α}

omit [DecidableEq α] in
/-- What takes the place of an element is there. -/
theorem mem_replace_of_mem (h : old ∈ l) : new ∈ l.replace old new := by
  induction l with
  | nil => cases h
  | cons head tail ih =>
    rw [List.replace_cons]
    cases hhead : old == head with
    | true => exact List.mem_cons_self
    | false =>
      rcases List.mem_cons.1 h with heq | htail
      · simp [heq] at hhead
      · exact List.mem_cons_of_mem _ (ih htail)

omit [DecidableEq α] in
/-- The elements other than the old one stay. -/
theorem mem_replace_of_ne (h : other ∈ l) (hold : other ≠ old) : other ∈ l.replace old new := by
  induction l with
  | nil => cases h
  | cons head tail ih =>
    rw [List.replace_cons]
    cases hhead : old == head with
    | true =>
      rw [eq_of_beq hhead] at hold
      rcases List.mem_cons.1 h with heq | htail
      · exact absurd heq hold
      · exact List.mem_cons_of_mem _ htail
    | false =>
      rcases List.mem_cons.1 h with heq | htail
      · rw [heq]
        exact List.mem_cons_self
      · exact List.mem_cons_of_mem _ (ih htail)

/-- In place of an element another one is listed. This holds whatever the two elements are, equal
ones included, and is what the balance of index names rests on. -/
theorem count_replace_add (h : old ∈ l) (new other : α) :
    (l.replace old new).count other + (if old = other then 1 else 0) =
      l.count other + (if new = other then 1 else 0) := by
  induction l with
  | nil => cases h
  | cons head tail ih =>
    by_cases hhead : head = old
    · subst hhead
      rw [List.replace_cons_self, List.count_cons, List.count_cons]
      simp only [beq_iff_eq]
      omega
    · have hmem : old ∈ tail := (List.mem_cons.1 h).resolve_left (Ne.symm hhead)
      have hrest := ih hmem
      rw [List.replace_cons, show (old == head) = false by simpa using Ne.symm hhead]
      simp only [List.count_cons]
      omega

/-- How often the elements other than the new one occur. Only the first of several is replaced, so
one that is listed twice does not vanish. -/
theorem count_replace (hnew : other ≠ new) :
    (l.replace old new).count other =
      if other = old then l.count other - 1 else l.count other := by
  by_cases hmem : old ∈ l
  · have hcount := count_replace_add hmem new other
    rw [if_neg (Ne.symm hnew)] at hcount
    by_cases hold : other = old
    · rw [if_pos hold.symm] at hcount
      rw [if_pos hold]
      omega
    · rw [if_neg (Ne.symm hold)] at hcount
      rw [if_neg hold]
      exact hcount
  · rw [List.replace_of_not_mem hmem]
    split
    · next hold =>
      rw [hold, List.count_eq_zero.2 hmem]
    · rfl

/-- An element that is taken away is listed once less. -/
theorem count_erase_add (h : old ∈ l) (other : α) :
    (l.erase old).count other + (if old = other then 1 else 0) = l.count other := by
  by_cases hother : old = other
  · subst hother
    have hpos : 0 < l.count old := List.count_pos_iff.2 h
    rw [List.count_erase_self, if_pos rfl]
    omega
  · rw [List.count_erase_of_ne (Ne.symm hother), if_neg hother, Nat.add_zero]

end Replace

/-! ## Commands -/

/-- No two commands of one sort, on columns or on indexes, share a source, and no source is the
target of a command of the same sort. A command must not rename something to its own source
either. -/
structure CommandChange.AreClear (commands : List CommandChange) : Prop where
  sources : commands.Pairwise fun first second =>
    first.kind.actsOnIndex = second.kind.actsOnIndex → first.source ≠ second.source
  targets : ∀ first ∈ commands, ∀ second ∈ commands,
    first.kind.actsOnIndex = second.kind.actsOnIndex → first.target ≠ some second.source

namespace TableState

/-- Whether a table has what a command acts on. An index must not be listed twice, for otherwise it
would still be there after it was renamed or deleted. -/
def Offers (state : TableState) (command : CommandChange) : Prop :=
  (command.kind.actsOnIndex = false → (state.column? command.source).isSome = true) ∧
    (command.kind.actsOnIndex = true → state.hasIndex command.source = true ∧
      state.indexes.count (some command.source) ≤ 1)

/-- What commands do to a table. The sources are gone, targets of renamed indexes are there, and the
rest is left in place. -/
structure Altered (commands : List CommandChange) (before after : TableState) : Prop where
  column_source : ∀ command ∈ commands, command.kind.actsOnIndex = false →
    after.column? command.source = none
  column_other : ∀ name, (∀ command ∈ commands, command.kind.actsOnIndex = false →
      command.source ≠ name ∧ (command.kind = .renameField → command.target ≠ some name)) →
    after.column? name = before.column? name
  index_source : ∀ command ∈ commands, command.kind.actsOnIndex = true →
    after.hasIndex command.source = false
  index_target : ∀ command ∈ commands, command.kind = .renameIndex →
    ∀ name, command.target = some name → after.hasIndex name = true
  index_kept : ∀ name, (∀ command ∈ commands, command.kind.actsOnIndex = true →
      command.source ≠ name) →
    before.hasIndex name = true → after.hasIndex name = true
  index_count : ∀ name, (∀ command ∈ commands, command.kind.actsOnIndex = true →
      command.target ≠ some name) →
    after.indexes.count (some name) ≤ before.indexes.count (some name)

variable {before middle after : TableState} {command : CommandChange}

/-- **When a command can be run, and what it does then.** Everything about single commands, here and
in other files, begins with this description, one case for each kind. -/
theorem run_eq_ok {table : String} :
    before.run table command = .ok after ↔
      match command.kind with
      | .renameField => ∃ column, before.columns.get? (some command.source) = some column ∧
          { before with columns :=
            (before.columns.erase (some command.source)).insert command.target column } = after
      | .deleteField => before.columns.contains (some command.source) = true ∧
          { before with columns := before.columns.erase (some command.source) } = after
      | .renameIndex => some command.source ∈ before.indexes ∧
          { before with indexes :=
            before.indexes.replace (some command.source) command.target } = after
      | .deleteIndex => some command.source ∈ before.indexes ∧
          { before with indexes := before.indexes.erase (some command.source) } = after := by
  rw [run]
  cases command.kind with
  | renameField => cases before.columns.get? (some command.source) <;> simp
  | deleteField =>
    rw [OrderedMap.contains]
    cases before.columns.get? (some command.source) <;> simp
  | renameIndex => by_cases hthere : some command.source ∈ before.indexes <;> simp [hthere]
  | deleteIndex => by_cases hthere : some command.source ∈ before.indexes <;> simp [hthere]

/-- An index is not there if it is listed no time. Counting is needed because a name may be listed
more than once. -/
theorem hasIndex_eq_false_iff {state : TableState} {name : String} :
    state.hasIndex name = false ↔ state.indexes.count (some name) = 0 := by
  rw [Bool.eq_false_iff, ne_eq, hasIndex_iff, List.count_eq_zero]

/-- A command on columns leaves the indexes alone. What is to be shown of it is what it does to its
source and to the other columns. -/
theorem altered_of_columns (hkind : command.kind.actsOnIndex = false)
    (hindexes : after.indexes = before.indexes) (hsource : after.column? command.source = none)
    (hother : ∀ name, command.source ≠ name →
      (command.kind = .renameField → command.target ≠ some name) →
        after.column? name = before.column? name) : Altered [command] before after := by
  have hnot : ¬ command.kind.actsOnIndex = true := by rw [hkind]; exact Bool.false_ne_true
  constructor
  · intro other hmem _
    rw [List.mem_singleton.1 hmem]
    exact hsource
  · intro name hname
    obtain ⟨hne, htarget⟩ := hname command List.mem_cons_self hkind
    exact hother name hne htarget
  · intro other hmem hindex
    rw [List.mem_singleton.1 hmem] at hindex
    exact absurd hindex hnot
  · intro other hmem hrename
    rw [List.mem_singleton.1 hmem] at hrename
    exact absurd (by rw [hrename]; rfl) hnot
  · intro name _ hbefore
    rwa [hasIndex, hindexes]
  · intro name _
    exact Nat.le_of_eq (by rw [hindexes])

/-- A command on indexes leaves the columns alone. What is to be shown of it concerns its source,
its target, and the indexes that stay. -/
theorem altered_of_indexes (hkind : command.kind.actsOnIndex = true)
    (hcolumns : after.columns = before.columns)
    (hsource : after.hasIndex command.source = false)
    (htarget : command.kind = .renameIndex → ∀ name, command.target = some name →
      after.hasIndex name = true)
    (hkept : ∀ name, command.source ≠ name → before.hasIndex name = true →
      after.hasIndex name = true)
    (hcount : ∀ name, command.target ≠ some name →
      after.indexes.count (some name) ≤ before.indexes.count (some name)) :
    Altered [command] before after := by
  constructor
  · intro other hmem hcolumn
    rw [List.mem_singleton.1 hmem, hkind] at hcolumn
    cases hcolumn
  · intro name _
    rw [column?, column?, hcolumns]
  · intro other hmem _
    rw [List.mem_singleton.1 hmem]
    exact hsource
  · intro other hmem
    rw [List.mem_singleton.1 hmem]
    exact htarget
  · intro name hname
    exact hkept name (hname command List.mem_cons_self hkind)
  · intro name hname
    exact hcount name (hname command List.mem_cons_self hkind)

/-- **One command.** It can be run if the table offers its source, and then it alters the table. -/
theorem exists_run_one (table : String) (htarget : command.target ≠ some command.source)
    (hoffers : before.Offers command) :
    ∃ after, before.run table command = .ok after ∧ Altered [command] before after := by
  obtain ⟨kind, source, target⟩ := command
  dsimp only at htarget
  cases kind with
  | renameField =>
    obtain ⟨column, hcolumn⟩ := Option.isSome_iff_exists.1 (hoffers.1 rfl)
    rw [column?] at hcolumn
    refine ⟨{ before with
      columns := (before.columns.erase (some source)).insert target column }, ?_, ?_⟩
    · simp only [run, hcolumn]
    · refine altered_of_columns rfl rfl ?_ fun name hsource hrename => ?_
      · rw [column?, OrderedMap.get?_insert, if_neg (Ne.symm htarget), OrderedMap.get?_erase,
          if_pos rfl]
      · rw [column?, OrderedMap.get?_insert, if_neg (Ne.symm (hrename rfl)),
          OrderedMap.get?_erase, if_neg (by simpa using Ne.symm hsource)]
        rfl
  | deleteField =>
    obtain ⟨column, hcolumn⟩ := Option.isSome_iff_exists.1 (hoffers.1 rfl)
    rw [column?] at hcolumn
    refine ⟨{ before with columns := before.columns.erase (some source) }, ?_, ?_⟩
    · simp only [run, hcolumn]
    · refine altered_of_columns rfl rfl ?_ fun name hsource _ => ?_
      · rw [column?, OrderedMap.get?_erase, if_pos rfl]
      · rw [column?, OrderedMap.get?_erase, if_neg (by simpa using Ne.symm hsource)]
        rfl
  | renameIndex =>
    -- the source is listed once, so that its replacement takes it away for good
    obtain ⟨hindex, hcount⟩ := hoffers.2 rfl
    have hmem : some source ∈ before.indexes := hasIndex_iff.1 hindex
    have hgone : (before.indexes.replace (some source) target).count (some source) = 0 := by
      rw [count_replace (Ne.symm htarget), if_pos rfl]
      exact Nat.sub_eq_zero_of_le hcount
    have hnew : ∀ name, target = some name →
        some name ∈ before.indexes.replace (some source) target := by
      rintro name rfl
      exact mem_replace_of_mem hmem
    refine ⟨{ before with indexes := before.indexes.replace (some source) target }, ?_, ?_⟩
    · rw [run]
      exact if_pos hindex
    · refine altered_of_indexes rfl rfl (hasIndex_eq_false_iff.2 hgone)
        (fun _ name hname => hasIndex_iff.2 (hnew name hname)) ?_ ?_
      · intro name hsource hname
        refine hasIndex_iff.2 ?_
        -- another index is there as often as before, unless it is the target itself
        by_cases htaken : target = some name
        · exact hnew name htaken
        · have hne : some name ≠ some source := by simpa using Ne.symm hsource
          have hsame : (before.indexes.replace (some source) target).count (some name) =
              before.indexes.count (some name) := by
            rw [count_replace (Ne.symm htaken), if_neg hne]
          rw [hasIndex_iff, ← List.count_pos_iff, ← hsame] at hname
          exact List.count_pos_iff.1 hname
      · intro name hname
        change (before.indexes.replace (some source) target).count (some name) ≤ _
        rw [count_replace (Ne.symm hname)]
        split
        · exact Nat.sub_le _ _
        · exact Nat.le_refl _
  | deleteIndex =>
    obtain ⟨hindex, hcount⟩ := hoffers.2 rfl
    have hgone : (before.indexes.erase (some source)).count (some source) = 0 := by
      rw [List.count_erase_self]
      exact Nat.sub_eq_zero_of_le hcount
    refine ⟨{ before with indexes := before.indexes.erase (some source) }, ?_, ?_⟩
    · rw [run]
      exact if_pos hindex
    · refine altered_of_indexes rfl rfl (hasIndex_eq_false_iff.2 hgone)
        (fun hrename => by cases hrename) ?_ ?_
      · intro name hsource hname
        have hne : some name ≠ some source := by simpa using Ne.symm hsource
        exact hasIndex_iff.2 ((List.mem_erase_of_ne hne).2 (hasIndex_iff.1 hname))
      · intro name _
        exact List.Sublist.count_le _ List.erase_sublist

/-- A command leaves in place what a later one acts on, if the source of the later one is neither
its source nor its target. -/
theorem Offers.of_altered {later : CommandChange} (h : before.Offers later)
    (haltered : Altered [command] before middle)
    (hsource : command.kind.actsOnIndex = later.kind.actsOnIndex → command.source ≠ later.source)
    (htarget : command.kind.actsOnIndex = later.kind.actsOnIndex →
      command.target ≠ some later.source) : middle.Offers later := by
  constructor
  · intro hcolumn
    rw [haltered.column_other later.source ?_]
    · exact h.1 hcolumn
    · intro other hmem hkind
      rw [List.mem_singleton.1 hmem] at hkind ⊢
      exact ⟨hsource (hkind.trans hcolumn.symm), fun _ => htarget (hkind.trans hcolumn.symm)⟩
  · intro hindex
    obtain ⟨hthere, hcount⟩ := h.2 hindex
    constructor
    · refine haltered.index_kept later.source ?_ hthere
      intro other hmem hkind
      rw [List.mem_singleton.1 hmem] at hkind ⊢
      exact hsource (hkind.trans hindex.symm)
    · refine Nat.le_trans (haltered.index_count later.source ?_) hcount
      intro other hmem hkind
      rw [List.mem_singleton.1 hmem] at hkind ⊢
      exact htarget (hkind.trans hindex.symm)

/-- What one command does and what the others do after it, taken together. Each field of `Altered`
is one case, and in each the command is the first one or one of the others. -/
theorem Altered.cons {commands : List CommandChange} (hfirst : Altered [command] before middle)
    (hrest : Altered commands middle after)
    (hclear : CommandChange.AreClear (command :: commands)) :
    Altered (command :: commands) before after := by
  have hsources : ∀ other ∈ commands, command.kind.actsOnIndex = other.kind.actsOnIndex →
      command.source ≠ other.source := (List.pairwise_cons.1 hclear.sources).1
  have htargets := hclear.targets
  constructor
  · intro other hmem hkind
    rcases List.mem_cons.1 hmem with rfl | hmem
    · -- the first command has taken its source away, and no later one brings it back
      rw [hrest.column_other other.source ?_]
      · exact hfirst.column_source other List.mem_cons_self hkind
      · intro later hlater hlaterKind
        refine ⟨Ne.symm (hsources later hlater (hkind.trans hlaterKind.symm)), fun _ => ?_⟩
        exact htargets later (List.mem_cons_of_mem _ hlater) other List.mem_cons_self
          (hlaterKind.trans hkind.symm)
    · exact hrest.column_source other hmem hkind
  · intro name hname
    rw [hrest.column_other name fun other hmem => hname other (List.mem_cons_of_mem _ hmem)]
    refine hfirst.column_other name fun other hmem => ?_
    rw [List.mem_singleton.1 hmem]
    exact hname command List.mem_cons_self
  · intro other hmem hkind
    rcases List.mem_cons.1 hmem with rfl | hmem
    · have hgone := hfirst.index_source other List.mem_cons_self hkind
      rw [hasIndex_eq_false_iff] at hgone ⊢
      refine Nat.le_zero.1 (hgone ▸ hrest.index_count other.source ?_)
      intro later hlater hlaterKind
      exact htargets later (List.mem_cons_of_mem _ hlater) other List.mem_cons_self
        (hlaterKind.trans hkind.symm)
    · exact hrest.index_source other hmem hkind
  · intro other hmem hrename name hname
    rcases List.mem_cons.1 hmem with rfl | hmem
    · -- what the first command has put under its target no later one takes away
      refine hrest.index_kept name ?_
        (hfirst.index_target other List.mem_cons_self hrename name hname)
      intro later hlater hlaterKind heq
      refine htargets other List.mem_cons_self later (List.mem_cons_of_mem _ hlater) ?_ ?_
      · rw [hlaterKind, hrename]
        rfl
      · rw [hname, heq]
    · exact hrest.index_target other hmem hrename name hname
  · intro name hname hbefore
    refine hrest.index_kept name (fun other hmem => hname other (List.mem_cons_of_mem _ hmem)) ?_
    refine hfirst.index_kept name (fun other hmem => ?_) hbefore
    rw [List.mem_singleton.1 hmem]
    exact hname command List.mem_cons_self
  · intro name hname
    refine Nat.le_trans
      (hrest.index_count name fun other hmem => hname other (List.mem_cons_of_mem _ hmem)) ?_
    refine hfirst.index_count name fun other hmem => ?_
    rw [List.mem_singleton.1 hmem]
    exact hname command List.mem_cons_self

/-- **All commands.** Commands that are clear of each other can be run one after the other on a
table that offers all their sources. The table is left open in the induction: the rest is run on
what the first command has made of it. -/
theorem exists_run (table : String) {commands : List CommandChange}
    (hclear : CommandChange.AreClear commands)
    (hoffers : ∀ command ∈ commands, before.Offers command) :
    ∃ after, commands.foldlM (run table) before = .ok after ∧ Altered commands before after := by
  induction commands generalizing before with
  | nil =>
    refine ⟨before, rfl, ?_⟩
    constructor <;> simp
  | cons command commands ih =>
    obtain ⟨middle, hrun, haltered⟩ := exists_run_one table
      (hclear.targets command List.mem_cons_self command List.mem_cons_self rfl)
      (hoffers command List.mem_cons_self)
    have hrest : CommandChange.AreClear commands := by
      refine ⟨(List.pairwise_cons.1 hclear.sources).2, fun first hfirst second hsecond => ?_⟩
      exact hclear.targets first (List.mem_cons_of_mem _ hfirst) second
        (List.mem_cons_of_mem _ hsecond)
    -- the first command has left the table such that it offers the sources of the later ones
    obtain ⟨after, hruns, haltereds⟩ := ih hrest fun later hlater =>
      (hoffers later (List.mem_cons_of_mem _ hlater)).of_altered haltered
        ((List.pairwise_cons.1 hclear.sources).1 later hlater)
        (hclear.targets command List.mem_cons_self later (List.mem_cons_of_mem _ hlater))
    refine ⟨after, ?_, haltered.cons haltereds hclear⟩
    rw [List.foldlM_cons, hrun, ok_bind, hruns]

end TableState

end EntitySchema
