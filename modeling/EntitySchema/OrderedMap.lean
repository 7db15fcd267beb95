/-
Maps that remember the order of insertion.

Tables, columns, indexes and namespaces are listed in the order in which they first appeared. A key
that is inserted again keeps its place and gets the new value; an erased key loses it. The entries
carry the proof that no key occurs twice, so two maps are equal when their entries are.

What a map is asked for most is the value of a key, and `get?_insert` and `get?_erase` say how this
changes; both are simp lemmas. How many entries there are is told by `size_insert` and `size_erase`,
which renames of columns are counted with. The functions on plain lists of entries are there so that
a map can be built together with the proof about its keys.

Maps in which the same is found under every key need not be equal, since the order may differ. They
have the same entries up to order, by `perm_entries`, and this is the equality of snapshots that
does not depend on the order in which tables were created.
-/

set_option autoImplicit false

namespace EntitySchema

/-- A map from keys to values, in order of insertion. -/
structure OrderedMap (κ α : Type) where
  entries : List (κ × α)
  nodup : (entries.map (·.1)).Nodup

namespace OrderedMap

variable {κ α β : Type}

/-- The proof that no key occurs twice has no part in equality. -/
theorem ext_entries {m n : OrderedMap κ α} (h : m.entries = n.entries) : m = n := by
  cases m; cases n; cases h; rfl

instance [DecidableEq κ] [DecidableEq α] : DecidableEq (OrderedMap κ α) := fun m n =>
  if h : m.entries = n.entries then isTrue (ext_entries h)
  else isFalse fun e => h (e ▸ rfl)

/-- The map without entries. -/
def empty : OrderedMap κ α := ⟨[], by simp⟩

instance : EmptyCollection (OrderedMap κ α) := ⟨empty⟩

instance : Inhabited (OrderedMap κ α) := ⟨empty⟩

/-- The keys in order. -/
def keys (m : OrderedMap κ α) : List κ := m.entries.map (·.1)

/-- No entry is listed twice. -/
theorem nodup_entries (m : OrderedMap κ α) : m.entries.Nodup :=
  List.Pairwise.of_map (·.1) (fun _ _ hne heq => hne (congrArg (·.1) heq)) m.nodup

variable [DecidableEq κ]

/-- The value of a key. -/
def get? (m : OrderedMap κ α) (key : κ) : Option α := m.entries.lookup key

/-- Whether a key has a value. -/
def contains (m : OrderedMap κ α) (key : κ) : Bool := (m.get? key).isSome

/-- Whether there are no entries. -/
def isEmpty (m : OrderedMap κ α) : Bool := m.entries.isEmpty

/-- How many entries there are. -/
def size (m : OrderedMap κ α) : Nat := m.entries.length

/-! ## Entries -/

/-- An entry is found under its key. -/
theorem get?_of_mem_entries {m : OrderedMap κ α} {key : κ} {value : α}
    (h : (key, value) ∈ m.entries) : m.get? key = some value := by
  obtain ⟨entries, hnodup⟩ := m
  obtain ⟨front, back, rfl⟩ := List.append_of_mem h
  refine List.lookup_eq_some_iff.2 ⟨front, back, rfl, fun entry hentry => ?_⟩
  rw [List.map_append, List.map_cons, List.nodup_append] at hnodup
  rw [bne_iff_ne]
  exact (hnodup.2.2 _ (List.mem_map_of_mem hentry) _ List.mem_cons_self).symm

/-- What is found under a key is an entry. -/
theorem mem_entries_of_get? {m : OrderedMap κ α} {key : κ} {value : α}
    (h : m.get? key = some value) : (key, value) ∈ m.entries := by
  obtain ⟨front, back, hentries, -⟩ := List.lookup_eq_some_iff.1 h
  rw [hentries]
  exact List.mem_append_right front List.mem_cons_self

/-- Maps in which the same is found under every key have the same entries, up to their order. -/
theorem perm_entries {m n : OrderedMap κ α} (h : ∀ key, m.get? key = n.get? key) :
    m.entries.Perm n.entries := by
  refine (List.perm_ext_iff_of_nodup m.nodup_entries n.nodup_entries).2 fun entry => ?_
  constructor
  · intro hentry
    exact mem_entries_of_get? ((h entry.1).symm.trans (get?_of_mem_entries hentry))
  · intro hentry
    exact mem_entries_of_get? ((h entry.1).trans (get?_of_mem_entries hentry))

/-! ## Insertion -/

/-- Gives a key its new value in place, or appends it. -/
def insertEntry (key : κ) (value : α) : List (κ × α) → List (κ × α)
  | [] => [(key, value)]
  | (k, v) :: rest =>
    if k = key then (key, value) :: rest else (k, v) :: insertEntry key value rest

/-- After an insertion the keys are the new one and those from before. -/
theorem mem_keys_insertEntry {key k : κ} {value : α} {entries : List (κ × α)} :
    k ∈ (insertEntry key value entries).map (·.1) ↔ k = key ∨ k ∈ entries.map (·.1) := by
  induction entries with
  | nil => simp [insertEntry]
  | cons entry rest ih =>
    obtain ⟨k', v'⟩ := entry
    simp only [insertEntry]
    split
    · next h => subst h; simp
    · simp only [List.map_cons, List.mem_cons, ih]
      grind

/-- An insertion does not make a key occur twice. -/
theorem nodup_insertEntry (key : κ) (value : α) {entries : List (κ × α)}
    (h : (entries.map (·.1)).Nodup) : ((insertEntry key value entries).map (·.1)).Nodup := by
  induction entries with
  | nil => simp [insertEntry]
  | cons entry rest ih =>
    obtain ⟨k', v'⟩ := entry
    simp only [List.map_cons, List.nodup_cons] at h
    simp only [insertEntry]
    split
    · next hk => subst hk; simpa using h
    · next hk =>
      simp only [List.map_cons, List.nodup_cons]
      refine ⟨fun hmem => ?_, ih h.2⟩
      rcases mem_keys_insertEntry.1 hmem with h1 | h1
      · exact hk h1
      · exact h.1 h1

/-- Gives a key a value. A key that is present keeps its place. -/
def insert (m : OrderedMap κ α) (key : κ) (value : α) : OrderedMap κ α :=
  ⟨insertEntry key value m.entries, nodup_insertEntry key value m.nodup⟩

/-- Inserts one entry after the other. -/
def ofList (entries : List (κ × α)) : OrderedMap κ α :=
  entries.foldl (fun m entry => m.insert entry.1 entry.2) empty

/-- What is found after an insertion, for lists that need not be free of repeated keys. -/
theorem lookup_insertEntry (key k : κ) (value : α) (entries : List (κ × α)) :
    (insertEntry key value entries).lookup k =
      if k = key then some value else entries.lookup k := by
  induction entries with
  | nil => simp only [insertEntry, List.lookup_cons, List.lookup_nil]; grind
  | cons entry rest ih =>
    obtain ⟨k', v'⟩ := entry
    simp only [insertEntry]
    split
    · next h => subst h; simp only [List.lookup_cons]; grind
    · simp only [List.lookup_cons, ih]; grind

/-- What was inserted last is found. -/
@[simp]
theorem get?_insert (m : OrderedMap κ α) (key k : κ) (value : α) :
    (m.insert key value).get? k = if k = key then some value else m.get? k :=
  lookup_insertEntry key k value m.entries

/-- An insertion makes a list longer unless the key was there. -/
theorem length_insertEntry (key : κ) (value : α) (entries : List (κ × α)) :
    (insertEntry key value entries).length =
      entries.length + if (entries.lookup key).isSome then 0 else 1 := by
  induction entries with
  | nil => rfl
  | cons entry rest ih =>
    obtain ⟨k, v⟩ := entry
    by_cases h : k = key
    · simp [insertEntry, h]
    · have hkey : (key == k) = false := by simpa using Ne.symm h
      simp only [insertEntry, List.lookup_cons, hkey, if_neg h, List.length_cons, ih]
      omega

/-- A key that is present does not become another entry. -/
theorem size_insert (m : OrderedMap κ α) (key : κ) (value : α) :
    (m.insert key value).size = m.size + if m.contains key then 0 else 1 :=
  length_insertEntry key value m.entries

/-! ## Erasure -/

/-- Removes a key. -/
def erase (m : OrderedMap κ α) (key : κ) : OrderedMap κ α :=
  ⟨m.entries.filter (·.1 ≠ key),
    List.Nodup.sublist (List.filter_sublist.map _) m.nodup⟩

/-- What is found after the entries of a key were taken out. -/
theorem lookup_filter_ne (key k : κ) (entries : List (κ × α)) :
    (entries.filter (·.1 ≠ key)).lookup k = if k = key then none else entries.lookup k := by
  induction entries with
  | nil => simp
  | cons entry rest ih =>
    obtain ⟨k', v'⟩ := entry
    by_cases h : k' = key
    · subst h
      simp only [List.filter, ne_eq, not_true_eq_false, decide_false, ih, List.lookup_cons]
      grind
    · have hd : decide (k' ≠ key) = true := by simpa using h
      simp only [List.filter, hd, List.lookup_cons, ih]
      grind

/-- An erased key is gone, and no other. -/
@[simp]
theorem get?_erase (m : OrderedMap κ α) (key k : κ) :
    (m.erase key).get? k = if k = key then none else m.get? k :=
  lookup_filter_ne key k m.entries

/-- An erased key was one entry. -/
theorem size_erase {m : OrderedMap κ α} {key : κ} (h : m.contains key = true) :
    (m.erase key).size + 1 = m.size := by
  obtain ⟨value, hvalue⟩ := Option.isSome_iff_exists.1 h
  obtain ⟨front, back, hentries, -⟩ := List.lookup_eq_some_iff.1 hvalue
  have hnodup := m.nodup
  rw [hentries, List.map_append, List.map_cons, List.nodup_append, List.nodup_cons] at hnodup
  have hfront : front.filter (·.1 ≠ key) = front := by
    refine List.filter_eq_self.2 fun entry hentry => decide_eq_true ?_
    exact hnodup.2.2 _ (List.mem_map_of_mem hentry) _ List.mem_cons_self
  have hback : back.filter (·.1 ≠ key) = back := by
    refine List.filter_eq_self.2 fun entry hentry => decide_eq_true ?_
    intro heq
    exact hnodup.2.1.1 (List.mem_map.2 ⟨entry, hentry, heq⟩)
  simp only [size, erase, hentries, List.filter_append, List.length_append, List.length_cons,
    hfront]
  rw [List.filter_cons_of_neg (by simp), hback, Nat.add_assoc]

/-! ## Values -/

/-- Changes all values. -/
def mapValues (f : κ → α → β) (m : OrderedMap κ α) : OrderedMap κ β :=
  ⟨m.entries.map fun entry => (entry.1, f entry.1 entry.2), by
    have h : (m.entries.map fun entry => (entry.1, f entry.1 entry.2)).map (·.1) =
        m.entries.map (·.1) := by simp
    rw [h]
    exact m.nodup⟩

/-- Keeps the entries whose key satisfies `p`. -/
def filterKeys (p : κ → Bool) (m : OrderedMap κ α) : OrderedMap κ α :=
  ⟨m.entries.filter (p ·.1), List.Nodup.sublist (List.filter_sublist.map _) m.nodup⟩

end OrderedMap

end EntitySchema
