/-
Values as they are laid out in JSON are read back.

The text of a value is read with fuel and with a limit to the nesting. Both are no issue here: the
length of the text is fuel enough, since every step down or to the right takes a character with it,
and `Json.IsWithin` says how deep a value is nested. Numbers are left out; no snapshot has any.

`ReadsBack` is the statement that the induction carries: with fuel for the text, and with anything
standing behind it, the value is read and what stands behind is left. It has to be for any level of
the layout, since a value stands deeper inside another one than it does alone, and only blanks and
line feeds depend on the level.

`Json.readsBack_of_isWithin` is the induction over values. The items of an array and the members of
an object are read one after the other, and what the two have in common, an induction over the list
of entries, is `Json.read_separated`. Its hypothesis is what one step of either reader does, so the
two readers differ only in how they take an entry and where they stop.

Empty arrays and objects are cases of their own, in the layout as in the reader: they are written
without anything inside and do not count as nested. Of the others it has to be known that what
follows the opening bracket is not the closing one (`exists_writePretty`).
-/
import EntitySchema.Proofs.Json.Strings
import Mathlib.Data.List.TakeWhile

set_option autoImplicit false

namespace EntitySchema.Json

/-- A value without numbers, in which arrays and objects that hold something are nested `depth`
times at most. -/
inductive IsWithin : Nat → Json → Prop where
  | null {depth : Nat} : IsWithin depth .null
  | bool {depth : Nat} (value : Bool) : IsWithin depth (.bool value)
  | string {depth : Nat} (text : String) : IsWithin depth (.string text)
  | emptyArray {depth : Nat} : IsWithin depth (.array [])
  | emptyObject {depth : Nat} : IsWithin depth (.object [])
  | array {depth : Nat} {items : List Json} (hitems : ∀ item ∈ items, IsWithin depth item) :
    IsWithin (depth + 1) (.array items)
  | object {depth : Nat} {members : List (String × Json)}
      (hmembers : ∀ member ∈ members, IsWithin depth member.2) :
    IsWithin (depth + 1) (.object members)

/-! ## Space between the tokens -/

section Space

variable {space : List Char} (h : ∀ c ∈ space, isSpace c = true)
include h

/-- Space in front is skipped, whatever it consists of. -/
theorem skipSpace_append (cs : List Char) : skipSpace (space ++ cs) = skipSpace cs := by
  rw [skipSpace, skipSpace, List.dropWhile_append_of_pos h]

/-- A value is read behind any space. -/
theorem value?_append_space (fuel depth : Nat) (cs : List Char) :
    value? fuel depth (space ++ cs) = value? fuel depth cs := by
  cases fuel with
  | zero => rw [value?, value?]
  | succ fuel => rw [value?, value?, skipSpace_append h]

end Space

/-- Nothing is skipped in front of another character. -/
theorem skipSpace_cons {c : Char} (h : isSpace c = false) (cs : List Char) :
    skipSpace (c :: cs) = c :: cs := by
  rw [skipSpace, List.dropWhile_cons_of_neg (by simp [h])]

/-- The layout puts nothing between the tokens but space. -/
theorem isSpace_of_mem_newLine (level : Nat) : ∀ c ∈ newLine level, isSpace c = true := by
  intro c hc
  rcases List.mem_cons.1 hc with rfl | hc
  · decide
  · rw [(List.mem_replicate.1 hc).2]
    decide

/-- A string as it is written, with its closing quote in front of what follows. -/
theorem quote_append (escape : Char → List Char) (text : String) (rest : List Char) :
    quote escape text ++ rest = '"' :: (text.toList.flatMap escape ++ '"' :: rest) := by
  simp [quote]

/-! ## Tokens at the start of a value -/

section Tokens

variable (fuel depth : Nat) (rest : List Char)

theorem value?_null : value? (fuel + 1) depth ('n' :: 'u' :: 'l' :: 'l' :: rest) =
    some (.null, rest) := rfl

theorem value?_true : value? (fuel + 1) depth ('t' :: 'r' :: 'u' :: 'e' :: rest) =
    some (.bool true, rest) := rfl

theorem value?_false : value? (fuel + 1) depth ('f' :: 'a' :: 'l' :: 's' :: 'e' :: rest) =
    some (.bool false, rest) := rfl

/-- A string is read back up to its closing quote. -/
theorem value?_string (text : String) :
    value? (fuel + 1) depth (quote escapeChar text ++ rest) = some (.string text, rest) := by
  rw [quote_append]
  change (stringRest? (text.toList.flatMap escapeChar ++ '"' :: rest)).map _ = _
  rw [stringRest?_flatMap, Option.map_some]
  dsimp only
  rw [String.ofList_toList]

theorem value?_emptyArray :
    value? (fuel + 1) depth ('[' :: ']' :: rest) = some (.array [], rest) := rfl

theorem value?_emptyObject :
    value? (fuel + 1) depth ('\x7b' :: '\x7d' :: rest) = some (.object [], rest) := rfl

variable {rest}

/-- An array that is not closed at once. It takes one level of the nesting and one step of fuel. -/
theorem value?_array {c : Char} {more : List Char} (hstart : skipSpace rest = c :: more)
    (hc : c ≠ ']') :
    value? (fuel + 1) (depth + 1) ('[' :: rest) =
      (items? fuel depth rest).map fun (items, left) => (.array items, left) := by
  rw [value?, skipSpace_cons (by decide)]
  simp only [hstart]
  split
  · next heq => exact absurd (List.cons.inj heq).1 hc
  · rfl

/-- An object that is not closed at once, in the same way. -/
theorem value?_object {c : Char} {more : List Char} (hstart : skipSpace rest = c :: more)
    (hc : c ≠ '\x7d') :
    value? (fuel + 1) (depth + 1) ('\x7b' :: rest) =
      (members? fuel depth rest).map fun (members, left) => (.object members, left) := by
  rw [value?, skipSpace_cons (by decide)]
  simp only [hstart]
  split
  · next heq => exact absurd (List.cons.inj heq).1 hc
  · rfl

end Tokens

/-! ## Between brackets -/

/-- The items of an array are written one by one. The definition is a recursion of its own beside
that of values; as a map it can be treated like any list. -/
theorem writePrettyItems_eq (escape : Char → List Char) (level : Nat) (items : List Json) :
    writePrettyItems escape level items = items.map (writePretty escape level) := by
  induction items with
  | nil => rfl
  | cons item items ih => rw [writePrettyItems, List.map_cons, ih]

/-- A member as it is written. -/
def writeMember (escape : Char → List Char) (level : Nat) (member : String × Json) : List Char :=
  quote escape member.1 ++ [':', ' '] ++ writePretty escape level member.2

/-- The members of an object are written one by one. -/
theorem writePrettyMembers_eq (escape : Char → List Char) (level : Nat)
    (members : List (String × Json)) :
    writePrettyMembers escape level members = members.map (writeMember escape level) := by
  induction members with
  | nil => rfl
  | cons member members ih =>
    rw [writePrettyMembers, List.map_cons, ih]
    rfl

theorem separated_cons {entries : List (List Char)} (h : entries ≠ [])
    (separator entry : List Char) :
    separated separator (entry :: entries) = entry ++ separator ++ separated separator entries := by
  cases entries with
  | nil => exact absurd rfl h
  | cons next entries => rfl

/-- Brackets around something: each entry stands on a line of its own, one level deeper. -/
theorem block_append {entries : List (List Char)} (h : entries ≠ []) (level : Nat)
    (opening closing : Char) (rest : List Char) :
    block level opening closing entries ++ rest = opening :: (newLine (level + 1) ++
      (separated (',' :: newLine (level + 1)) entries ++ (newLine level ++ closing :: rest))) := by
  cases entries with
  | nil => exact absurd rfl h
  | cons entry entries => simp [block]

/-- What stands between the brackets is shorter than the whole by the brackets, so there is fuel
left for it. -/
theorem length_separated_lt_block {entries : List (List Char)} (h : entries ≠ []) (level : Nat)
    (opening closing : Char) :
    (separated (',' :: newLine (level + 1)) entries).length + 2 ≤
      (block level opening closing entries).length := by
  cases entries with
  | nil => exact absurd rfl h
  | cons entry entries => simp only [block, List.length_append, List.length_cons]; omega

/-- A value that is read back from where it stands at a level of the layout. -/
def ReadsBack (depth level : Nat) (value : Json) : Prop :=
  ∀ fuel rest, (writePretty escapeChar level value).length ≤ fuel →
    value? fuel depth (writePretty escapeChar level value ++ rest) = some (value, rest)

section Lists

variable {depth level : Nat}

/-- One item, and what decides whether another follows: the first token behind it. -/
theorem items?_item {fuel : Nat} {item : Json} (h : ReadsBack depth level item)
    (hfuel : (writePretty escapeChar level item).length ≤ fuel) {rest more : List Char} {c : Char}
    (hrest : skipSpace rest = c :: more) :
    items? (fuel + 1) depth (newLine level ++ (writePretty escapeChar level item ++ rest)) =
      if c = ']' then some ([item], more)
      else if c = ',' then (items? fuel depth more).map fun (items, left) => (item :: items, left)
      else none := by
  rw [items?, value?_append_space (isSpace_of_mem_newLine level), h fuel rest hfuel]
  dsimp only
  rw [hrest]
  split
  · next heq => rw [if_pos (List.cons.inj heq).1, (List.cons.inj heq).2]
  · next heq =>
    obtain ⟨rfl, rfl⟩ := List.cons.inj heq
    rfl
  · next hclose hcomma =>
    rw [if_neg fun hc => hclose more (by rw [hc]), if_neg fun hc => hcomma more (by rw [hc])]

/-- One member, and what decides whether another follows. Its name is read as a string and the colon
behind it is skipped with the space. -/
theorem members?_member {fuel : Nat} {member : String × Json} (h : ReadsBack depth level member.2)
    (hfuel : (writePretty escapeChar level member.2).length ≤ fuel) {rest more : List Char}
    {c : Char} (hrest : skipSpace rest = c :: more) :
    members? (fuel + 1) depth (newLine level ++ (writeMember escapeChar level member ++ rest)) =
      if c = '\x7d' then some ([member], more)
      else if c = ',' then
        (members? fuel depth more).map fun (members, left) => (member :: members, left)
      else none := by
  obtain ⟨key, value⟩ := member
  have hblank : ∀ c ∈ [' '], isSpace c = true := List.forall_mem_singleton.2 (by decide)
  have hcolon : isSpace ':' = false := by decide
  have hvalue := h fuel rest hfuel
  rw [← value?_append_space hblank, List.singleton_append] at hvalue
  rw [members?, skipSpace_append (isSpace_of_mem_newLine level), writeMember, List.append_assoc,
    List.append_assoc, quote_append, skipSpace_cons (by decide)]
  simp only [stringRest?_flatMap, List.cons_append, List.nil_append, skipSpace_cons hcolon, hvalue,
    String.ofList_toList, hrest]
  split
  · next heq => rw [if_pos (List.cons.inj heq).1, (List.cons.inj heq).2]
  · next heq =>
    obtain ⟨rfl, rfl⟩ := List.cons.inj heq
    rfl
  · next hclose hcomma =>
    rw [if_neg fun hc => hclose more (by rw [hc]), if_neg fun hc => hcomma more (by rw [hc])]

/-- What is behind the last entry is the closing bracket, on a line of its own. -/
theorem skipSpace_closing (outer : Nat) {closing : Char} (h : isSpace closing = false)
    (left : List Char) : skipSpace (newLine outer ++ closing :: left) = closing :: left := by
  rw [skipSpace_append (isSpace_of_mem_newLine outer), skipSpace_cons h]

/-- **A list between brackets.** If a reader takes one entry after the other, and goes on behind a
comma and stops behind the closing bracket, it reads all entries up to that bracket. By induction on
the entries; one step of fuel goes with each comma. -/
theorem read_separated {α : Type} (read : Nat → List Char → Option (List α × List Char))
    {write : α → List Char} {closing : Char} (hspace : isSpace closing = false)
    (hcomma : ',' ≠ closing) (outer : Nat) {entries : List α} (hnil : entries ≠ [])
    (hstep : ∀ entry ∈ entries, ∀ fuel rest c more, (write entry).length ≤ fuel →
      skipSpace rest = c :: more →
        read (fuel + 1) (newLine level ++ (write entry ++ rest)) =
          if c = closing then some ([entry], more)
          else if c = ',' then (read fuel more).map fun (others, left) => (entry :: others, left)
          else none)
    (fuel : Nat) (hfuel : (separated (',' :: newLine level) (entries.map write)).length < fuel)
    (left : List Char) :
    read fuel (newLine level ++ (separated (',' :: newLine level) (entries.map write) ++
      (newLine outer ++ closing :: left))) = some (entries, left) := by
  induction entries generalizing fuel with
  | nil => exact absurd rfl hnil
  | cons entry entries ih =>
    -- one step of fuel pays for the comma, and what is left is more than the other entries need
    obtain ⟨fuel, rfl⟩ : ∃ less, fuel = less + 1 := ⟨fuel - 1, by omega⟩
    have hentry := hstep entry List.mem_cons_self fuel
    rw [List.map_cons] at hfuel ⊢
    by_cases hlast : entries = []
    · subst hlast
      rw [List.map_nil, separated] at hfuel ⊢
      rw [hentry _ closing left (by omega) (skipSpace_closing outer hspace left), if_pos rfl]
    · have hmap : entries.map write ≠ [] := by simpa using hlast
      rw [separated_cons hmap] at hfuel ⊢
      simp only [List.length_append, List.length_cons] at hfuel
      have hothers := fun other hother => hstep other (List.mem_cons_of_mem entry hother)
      have hrest := ih hlast hothers fuel (by omega)
      simp only [List.append_assoc, List.cons_append]
      rw [hentry _ ',' _ (by omega) (skipSpace_cons (by decide) _), if_neg hcomma, if_pos rfl,
        hrest]
      rfl

/-- The items of an array are read up to the bracket behind the last one. -/
theorem items?_separated (outer : Nat) {items : List Json} (hnil : items ≠ [])
    (hread : ∀ item ∈ items, ReadsBack depth level item)
    (fuel : Nat) (hfuel : (separated (',' :: newLine level)
      (items.map (writePretty escapeChar level))).length < fuel) (left : List Char) :
    items? fuel depth (newLine level ++
      (separated (',' :: newLine level) (items.map (writePretty escapeChar level)) ++
        (newLine outer ++ ']' :: left))) = some (items, left) :=
  read_separated (items? · depth) (by decide) (by decide) outer hnil
    (fun item hitem _ _ _ _ hlength hrest => items?_item (hread item hitem) hlength hrest) fuel
    hfuel left

/-- The members of an object are read up to the brace behind the last one. -/
theorem members?_separated (outer : Nat) {members : List (String × Json)} (hnil : members ≠ [])
    (hread : ∀ member ∈ members, ReadsBack depth level member.2)
    (fuel : Nat) (hfuel : (separated (',' :: newLine level)
      (members.map (writeMember escapeChar level))).length < fuel) (left : List Char) :
    members? fuel depth (newLine level ++
      (separated (',' :: newLine level) (members.map (writeMember escapeChar level)) ++
        (newLine outer ++ '\x7d' :: left))) = some (members, left) := by
  refine read_separated (members? · depth) (by decide) (by decide) outer hnil ?_ fuel hfuel left
  intro member hmember fuel rest c more hlength hrest
  refine members?_member (hread member hmember) (Nat.le_trans ?_ hlength) hrest
  rw [writeMember, List.length_append]
  omega

end Lists

/-! ## Values -/

/-- What follows an opening bracket is the start of the first entry, once the line feed and the
blanks between them are skipped. -/
theorem exists_skipSpace_separated {c : Char} (h : isSpace c = false) (level : Nat)
    (more separator rest : List Char) (entries : List (List Char)) :
    ∃ later, skipSpace (newLine level ++ (separated separator ((c :: more) :: entries) ++ rest)) =
      c :: later := by
  rw [skipSpace_append (isSpace_of_mem_newLine level)]
  cases entries with
  | nil => exact ⟨_, skipSpace_cons h _⟩
  | cons entry entries => exact ⟨_, skipSpace_cons h _⟩

/-- How the text of a value starts: with no space, and with no closing bracket. A reader that looks
for the end of an empty array is not misled. -/
theorem exists_writePretty {depth : Nat} {value : Json} (h : IsWithin depth value)
    (level : Nat) : ∃ c more, writePretty escapeChar level value = c :: more ∧ isSpace c = false ∧
      c ≠ ']' := by
  cases h with
  | null => exact ⟨_, _, rfl, by decide, by decide⟩
  | bool value =>
    cases value with
    | true => exact ⟨_, _, rfl, by decide, by decide⟩
    | false => exact ⟨_, _, rfl, by decide, by decide⟩
  | string text => exact ⟨_, _, rfl, by decide, by decide⟩
  | emptyArray => exact ⟨_, _, rfl, by decide, by decide⟩
  | emptyObject => exact ⟨_, _, rfl, by decide, by decide⟩
  | @array depth items hitems =>
    rw [writePretty]
    cases writePrettyItems escapeChar (level + 1) items with
    | nil => exact ⟨_, _, rfl, by decide, by decide⟩
    | cons entry entries => exact ⟨_, _, rfl, by decide, by decide⟩
  | @object depth members hmembers =>
    rw [writePretty]
    cases writePrettyMembers escapeChar (level + 1) members with
    | nil => exact ⟨_, _, rfl, by decide, by decide⟩
    | cons entry entries => exact ⟨_, _, rfl, by decide, by decide⟩

/-- Every text has a character, so there is fuel for one step. -/
theorem readsBack_of_succ {depth level : Nat} {value : Json} (h : IsWithin depth value)
    (hread : ∀ fuel rest, (writePretty escapeChar level value).length ≤ fuel + 1 →
      value? (fuel + 1) depth (writePretty escapeChar level value ++ rest) = some (value, rest)) :
    ReadsBack depth level value := by
  intro fuel rest hfuel
  cases fuel with
  | zero =>
    obtain ⟨c, more, hstart, -⟩ := exists_writePretty h level
    rw [hstart] at hfuel
    cases hfuel
  | succ fuel => exact hread fuel rest hfuel

/-- An array is read back if its items are, one level deeper and with one level less of nesting
allowed. -/
theorem readsBack_array {depth level : Nat} {items : List Json} (hnil : items ≠ [])
    (hitems : ∀ item ∈ items, IsWithin depth item)
    (hread : ∀ item ∈ items, ReadsBack depth (level + 1) item) :
    ReadsBack (depth + 1) level (.array items) := by
  refine readsBack_of_succ (.array hitems) fun fuel rest hfuel => ?_
  have hmap : items.map (writePretty escapeChar (level + 1)) ≠ [] := by simpa using hnil
  have hlength := length_separated_lt_block hmap level '[' ']'
  rw [writePretty, writePrettyItems_eq] at hfuel ⊢
  have hbetween := items?_separated level hnil hread fuel (by omega) rest
  -- behind the bracket is the first item, not another bracket
  obtain ⟨item, others, rfl⟩ := List.exists_cons_of_ne_nil hnil
  obtain ⟨c, more, hstart, hspace, hc⟩ :=
    exists_writePretty (hitems item List.mem_cons_self) (level + 1)
  obtain ⟨later, hlater⟩ := exists_skipSpace_separated hspace (level + 1) more
    (',' :: newLine (level + 1)) (newLine level ++ ']' :: rest)
    (others.map (writePretty escapeChar (level + 1)))
  rw [← hstart, ← List.map_cons] at hlater
  rw [block_append hmap, value?_array fuel depth hlater hc, hbetween]
  rfl

/-- An object is read back if the values of its members are. -/
theorem readsBack_object {depth level : Nat} {members : List (String × Json)} (hnil : members ≠ [])
    (hmembers : ∀ member ∈ members, IsWithin depth member.2)
    (hread : ∀ member ∈ members, ReadsBack depth (level + 1) member.2) :
    ReadsBack (depth + 1) level (.object members) := by
  refine readsBack_of_succ (.object hmembers) fun fuel rest hfuel => ?_
  have hmap : members.map (writeMember escapeChar (level + 1)) ≠ [] := by simpa using hnil
  have hlength := length_separated_lt_block hmap level '\x7b' '\x7d'
  rw [writePretty, writePrettyMembers_eq] at hfuel ⊢
  have hbetween := members?_separated level hnil hread fuel (by omega) rest
  -- behind the brace is the quote of the first key
  obtain ⟨member, others, rfl⟩ := List.exists_cons_of_ne_nil hnil
  obtain ⟨later, hlater⟩ : ∃ later, skipSpace (newLine (level + 1) ++
      (separated (',' :: newLine (level + 1))
          ((member :: others).map (writeMember escapeChar (level + 1))) ++
        (newLine level ++ '\x7d' :: rest))) = '"' :: later :=
    exists_skipSpace_separated (by decide) (level + 1) ..
  rw [block_append hmap, value?_object fuel depth hlater (by decide), hbetween]
  rfl

/-- **Values are read back.** By induction on how the value is nested, one case for each kind of
value. An array or object that is nested may still be empty, and is then the other case. -/
theorem readsBack_of_isWithin {depth : Nat} {value : Json} (h : IsWithin depth value)
    (level : Nat) : ReadsBack depth level value := by
  induction h generalizing level with
  | null => exact readsBack_of_succ .null fun fuel rest _ => value?_null fuel _ rest
  | bool value =>
    refine readsBack_of_succ (.bool value) fun fuel rest _ => ?_
    cases value with
    | true => exact value?_true fuel _ rest
    | false => exact value?_false fuel _ rest
  | string text =>
    exact readsBack_of_succ (.string text) fun fuel rest _ => value?_string fuel _ rest text
  | emptyArray =>
    exact readsBack_of_succ .emptyArray fun fuel rest _ => value?_emptyArray fuel _ rest
  | emptyObject =>
    exact readsBack_of_succ .emptyObject fun fuel rest _ => value?_emptyObject fuel _ rest
  | @array depth items hitems ih =>
    by_cases hnil : items = []
    · subst hnil
      exact readsBack_of_succ .emptyArray fun fuel rest _ => value?_emptyArray fuel _ rest
    · exact readsBack_array hnil hitems fun item hitem => ih item hitem (level + 1)
  | @object depth members hmembers ih =>
    by_cases hnil : members = []
    · subst hnil
      exact readsBack_of_succ .emptyObject fun fuel rest _ => value?_emptyObject fuel _ rest
    · exact readsBack_object hnil hmembers fun member hmember => ih member hmember (level + 1)

/-- **A value that is written is read back.** Nothing stands behind its text, and the length of the
text is the fuel that the reader gives itself. -/
theorem parseWithin?_pretty {depth : Nat} {value : Json} (h : IsWithin depth value) :
    parseWithin? depth value.pretty = some value := by
  have hread := readsBack_of_isWithin h 0 (value.pretty.length + 1) [] (by
    rw [pretty, String.length_ofList]
    omega)
  rw [List.append_nil] at hread
  rw [parseWithin?, pretty, String.toList_ofList, ← pretty, hread]
  rfl

end EntitySchema.Json
