/-
Snapshots as they are written are read back.

The text of a snapshot is that of a JSON value, so by `Json.parseWithin?_pretty` only the value has
to be read back. The maps in it are objects. Writing one gives each key a name and keeps the order;
reading takes a key from each name and inserts the entries one after the other, which leaves the
order as it is since no key occurs twice. `Json.readMap?_toJson` says so for any map, and it serves
for the tables and for the columns of each table.

A column or an index that lost its name in a rename cannot be read back: it is written as null, and
no name that is read is missing. `Snapshot.IsNamed` leaves these out. It asks for names and for
nothing else: a name may be empty or hold any characters, an index may be listed twice, and a type
may be missing.

Two things have to be shown of each part of a snapshot, that its value is read back and how deep it
is nested. The second is a bound that the reader has, and snapshots stay far below it: a snapshot
holds tables, these hold columns, and these hold two values.
-/
import EntitySchema.Proofs.Json.Values
import EntitySchema.Snapshot.Json

set_option autoImplicit false

namespace EntitySchema

/-! ## Maps -/

namespace OrderedMap

variable {κ α : Type} [DecidableEq κ]

/-- A new key goes to the end. A key that is there already would keep its place. -/
theorem insertEntry_of_not_mem {key : κ} {entries : List (κ × α)} (h : key ∉ entries.map (·.1))
    (value : α) : insertEntry key value entries = entries ++ [(key, value)] := by
  induction entries with
  | nil => rfl
  | cons entry entries ih =>
    rw [List.map_cons, List.mem_cons, not_or] at h
    rw [insertEntry, if_neg fun hkey => h.1 hkey.symm, ih h.2, List.cons_append]

/-- Entries whose keys are new and do not repeat are added in their order. By induction on the
entries, over any map that is there before. -/
theorem entries_foldl_insert (entries : List (κ × α)) (map : OrderedMap κ α)
    (h : ((map.entries ++ entries).map (·.1)).Nodup) :
    (entries.foldl (fun map entry => map.insert entry.1 entry.2) map).entries =
      map.entries ++ entries := by
  induction entries generalizing map with
  | nil => rw [List.foldl_nil, List.append_nil]
  | cons entry entries ih =>
    have hnew : entry.1 ∉ map.entries.map (·.1) := by
      rw [List.map_append, List.nodup_append] at h
      exact fun hmem => h.2.2 entry.1 hmem entry.1 (by simp) rfl
    have hinsert : (map.insert entry.1 entry.2).entries = map.entries ++ [entry] :=
      insertEntry_of_not_mem hnew entry.2
    rw [List.foldl_cons, ih, hinsert, List.append_assoc, List.singleton_append]
    rw [hinsert, List.append_assoc, List.singleton_append]
    exact h

/-- **A map is made of its entries.** Its keys never repeat, which is a part of the map. -/
theorem ofList_entries (map : OrderedMap κ α) : ofList map.entries = map := by
  refine ext_entries ?_
  have hentries := entries_foldl_insert map.entries empty map.nodup
  exact hentries

end OrderedMap

namespace Json

/-- **A map that is written as an object is read back**, if its names and its values are. That a key
is found again from its name is a hypothesis: a column without a name is written under another
one. -/
theorem readMap?_toJson {κ α : Type} [DecidableEq κ] {map : OrderedMap κ α} {name : κ → String}
    {write : α → Json} {key : String → κ} {read : Json → Option α}
    (hkey : ∀ entry ∈ map.entries, key (name entry.1) = entry.1)
    (hread : ∀ entry ∈ map.entries, read (write entry.2) = some entry.2) :
    readMap? key read (map.toJson name write) = some map := by
  -- each member is read by itself first, and the map is made of them in the end
  have hentries : ∀ entries : List (κ × α), (∀ entry ∈ entries, entry ∈ map.entries) →
      (entries.map fun entry => (name entry.1, write entry.2)).mapM
        (fun member : String × Json => do return (key member.1, ← read member.2)) =
          some entries := by
    intro entries
    induction entries with
    | nil => exact fun _ => rfl
    | cons entry entries ih =>
      intro hmem
      have hentry := hmem entry List.mem_cons_self
      rw [List.map_cons, List.mapM_cons, ih fun other hother => hmem other (.tail entry hother),
        hread entry hentry, hkey entry hentry]
      rfl
  have hall := hentries map.entries fun _ h => h
  change OrderedMap.ofList <$> (map.entries.map fun entry => (name entry.1, write entry.2)).mapM
    (fun member : String × Json => do return (key member.1, ← read member.2)) = some map
  rw [hall, Option.map_eq_map, Option.map_some, OrderedMap.ofList_entries]

/-- A map is nested one deeper than its values. -/
theorem isWithin_toJson {κ α : Type} {depth : Nat} {map : OrderedMap κ α} {name : κ → String}
    {write : α → Json} (h : ∀ entry ∈ map.entries, IsWithin depth (write entry.2)) :
    IsWithin (depth + 1) (map.toJson name write) := by
  refine .object fun member hmember => ?_
  obtain ⟨entry, hentry, rfl⟩ := List.mem_map.1 hmember
  exact h entry hentry

end Json

/-! ## Columns -/

/-- A column is read back, with its type and with whether it may be null. -/
theorem ColumnState.ofJson?_toJson (column : ColumnState) :
    ofJson? column.toJson = some column := by
  obtain ⟨nullable, type⟩ := column
  cases type with
  | none => rfl
  | some type => rfl

theorem ColumnState.isWithin_toJson (column : ColumnState) (depth : Nat) :
    column.toJson.IsWithin (depth + 1) := by
  refine .object fun member hmember => ?_
  simp only [List.mem_cons, List.not_mem_nil, or_false] at hmember
  rcases hmember with rfl | rfl
  · exact .bool _
  · cases column.type with
    | none => exact .null
    | some type => exact .string type

/-! ## Tables -/

/-- All columns and indexes have names. -/
structure TableState.IsNamed (table : TableState) : Prop where
  columns : ∀ entry ∈ table.columns.entries, entry.1.isSome = true
  indexes : ∀ index ∈ table.indexes, index.isSome = true

namespace TableState

instance (table : TableState) : Decidable table.IsNamed :=
  decidable_of_iff ((∀ entry ∈ table.columns.entries, entry.1.isSome = true) ∧
      ∀ index ∈ table.indexes, index.isSome = true)
    ⟨fun h => ⟨h.1, h.2⟩, fun h => ⟨h.columns, h.indexes⟩⟩

/-- Names of indexes are read back as texts. An index without a name is written as null, which is no
text. -/
theorem asStrings?_optString {indexes : List (Option String)}
    (h : ∀ index ∈ indexes, index.isSome = true) :
    (Json.asStrings? (.array (indexes.map .optString))).map (·.map some) = some indexes := by
  induction indexes with
  | nil => rfl
  | cons index indexes ih =>
    obtain ⟨name, rfl⟩ := Option.isSome_iff_exists.1 (h index List.mem_cons_self)
    obtain ⟨names, hnames, hindexes⟩ := Option.map_eq_some_iff.1 (ih fun other hother =>
      h other (List.mem_cons_of_mem _ hother))
    change ((indexes.map Json.optString).mapM Json.asString?) = some names at hnames
    change (((some name :: indexes).map Json.optString).mapM Json.asString?).map _ = _
    rw [List.map_cons, List.mapM_cons, hnames, ← hindexes]
    rfl

/-- A table is read back, its columns as a map and its indexes as a list. -/
theorem IsNamed.ofJson?_toJson {table : TableState} (h : table.IsNamed) :
    ofJson? table.toJson = some table := by
  have hcolumns : Json.readMap? some ColumnState.ofJson?
      (table.columns.toJson (·.getD "null") ColumnState.toJson) = some table.columns := by
    refine Json.readMap?_toJson (fun entry hentry => ?_)
      fun entry _ => ColumnState.ofJson?_toJson entry.2
    obtain ⟨name, hname⟩ := Option.isSome_iff_exists.1 (h.columns entry hentry)
    rw [hname, Option.getD_some]
  have hindexes := asStrings?_optString h.indexes
  obtain ⟨names, hnames, hindexes⟩ := Option.map_eq_some_iff.1 hindexes
  change ((Json.readMap? some ColumnState.ofJson?
    (table.columns.toJson (·.getD "null") ColumnState.toJson)).bind fun columns =>
      (Json.asStrings? (.array (table.indexes.map .optString))).bind fun names =>
        some (TableState.mk columns (names.map some))) = some table
  rw [hcolumns, hnames, Option.bind_some, Option.bind_some, hindexes]

/-- A table is nested three deep: the table, its columns, and a column. -/
theorem isWithin_toJson (table : TableState) (depth : Nat) :
    table.toJson.IsWithin (depth + 3) := by
  refine .object fun member hmember => ?_
  simp only [List.mem_cons, List.not_mem_nil, or_false] at hmember
  rcases hmember with rfl | rfl
  · have hcolumns : ∀ entry ∈ table.columns.entries, entry.2.toJson.IsWithin (depth + 1) :=
      fun entry _ => entry.2.isWithin_toJson depth
    change (table.columns.toJson (·.getD "null") ColumnState.toJson).IsWithin (depth + 1 + 1)
    exact Json.isWithin_toJson hcolumns
  · refine .array fun item hitem => ?_
    obtain ⟨index, -, rfl⟩ := List.mem_map.1 hitem
    cases index with
    | none => exact .null
    | some name => exact .string name

end TableState

/-! ## Snapshots -/

namespace Snapshot

/-- All columns and indexes of all tables have names. -/
def IsNamed (snapshot : Snapshot) : Prop := ∀ entry ∈ snapshot.tables.entries, entry.2.IsNamed

instance (snapshot : Snapshot) : Decidable snapshot.IsNamed :=
  inferInstanceAs (Decidable (∀ entry ∈ snapshot.tables.entries, entry.2.IsNamed))

theorem isWithin_toJson (snapshot : Snapshot) (depth : Nat) :
    snapshot.toJson.IsWithin (depth + 5) := by
  refine .object fun member hmember => ?_
  rw [List.mem_singleton.1 hmember]
  have htables : ∀ entry ∈ snapshot.tables.entries, entry.2.toJson.IsWithin (depth + 3) :=
    fun entry _ => entry.2.isWithin_toJson depth
  exact Json.isWithin_toJson htables

/-- The value of a snapshot is read back, table by table. -/
theorem IsNamed.ofJson?_toJson {snapshot : Snapshot} (h : snapshot.IsNamed) :
    ofJson? snapshot.toJson = some snapshot := by
  have htables : Json.readMap? id TableState.ofJson?
      (snapshot.tables.toJson id TableState.toJson) = some snapshot.tables :=
    Json.readMap?_toJson (fun _ _ => rfl) fun entry hentry => (h entry hentry).ofJson?_toJson
  change ((Json.readMap? id TableState.ofJson?
    (snapshot.tables.toJson id TableState.toJson)).bind fun tables =>
      some (Snapshot.mk tables)) = some snapshot
  rw [htables, Option.bind_some]

/-- **Snapshots are read back.** The text of a snapshot is read as that snapshot, with the tables,
columns and indexes in the same order. So what is known of a database survives being stored, any
number of times. -/
theorem ofText_toText {snapshot : Snapshot} (h : snapshot.IsNamed) :
    ofText snapshot.toText = .ok snapshot := by
  -- a snapshot is nested five deep, far below the limit of two hundred
  have hwithin : snapshot.toJson.IsWithin depthLimit := snapshot.isWithin_toJson 195
  rw [ofText, toText, Json.parseWithin?_pretty hwithin, Option.bind_some, h.ofJson?_toJson]

/-- A snapshot with a quote, a backslash, a control character and characters beyond ASCII and beyond
the first plane in its names, and with a table that has nothing. -/
def oddNames : Snapshot where
  tables := OrderedMap.ofList [
    ("a\"b\\c", {
      columns := OrderedMap.ofList [
        (some "é\n", ⟨false, some "varchar(😀)"⟩), (some "", ⟨true, none⟩)]
      indexes := [some "\x01/", some "\x7f", some "\x01/"] }),
    ("", {})]

/-- The names of the example need every kind of escape, and one index is listed twice. -/
theorem ofText_toText_oddNames :
    oddNames.IsNamed ∧ ofText oddNames.toText = .ok oddNames := by
  have hnamed : oddNames.IsNamed := by decide
  exact ⟨hnamed, ofText_toText hnamed⟩

end Snapshot

end EntitySchema
