/-
Relations by convention alone.

Two entities with one method each, and neither method says more than its name: what the methods
return, where their inverses are and which columns hold the relation all follows from the names. The
names go through every convention there is, and each must lead back to where it came from.

The document is followed from its text to the end. `Follows.readText_text` reads it, `Follows.bare`
finds the inverses, whatever fields there are, and what is known about bare relations gives the
kinds, the implied fields and the pivot table. `conventions_resolve` has it all together for the two
pairs that the conventions are made for, a has-many with its belongs-to and a many-to-many.

A `Pair` has four names and nothing else, and the text, the methods and the schema are made from
them. Everything up to `exists_pivot` is about any pair that `Follows` the conventions, with the
number of its methods as a hypothesis where it matters, and only at the end are the two pairs put
in. The schema has the fields of both entities as parameters, since the inverses are found whatever
these are, while the kinds depend on them: they are asked for twice, once to see which column is
added and once to see what is found in the end.

The hypotheses of the result are about the two names alone. Both are conventional, and their tables
differ; without the latter the second entity would be refused. Nothing is assumed about how a plural
is formed, and no plural is computed in a proof, which is why `pluralize` is sealed here.
-/
import EntitySchema.Proofs.Naming.Declarations
import EntitySchema.Proofs.Relation.Bare
import EntitySchema.Proofs.Relation.NamedAfter

set_option autoImplicit false

namespace EntitySchema

open Outcome

-- plurals are only compared here, so none is ever computed
seal pluralize

/-! ## Pairs of entities -/

/-- Two entities with a method each, of which nothing but the names is given. -/
structure Pair where
  first : String
  firstMethod : String
  second : String
  secondMethod : String
  deriving DecidableEq, Repr

namespace Pair

/-- A pair in which the first entity has many of the second. -/
def oneToMany (first second : String) : Pair where
  first := first
  firstMethod := pluralize (snake second)
  second := second
  secondMethod := snake first

/-- A pair in which each entity has many of the other. -/
def manyToMany (first second : String) : Pair where
  first := first
  firstMethod := pluralize (snake second)
  second := second
  secondMethod := pluralize (snake first)

variable (pair : Pair) (config : Config)

/-- The document that declares the entities and their methods. -/
def text : String :=
  pair.first ++ "\n  " ++ pair.firstMethod ++ "()\n" ++
    pair.second ++ "\n  " ++ pair.secondMethod ++ "()\n"

/-- The method of the first entity. -/
def method : Method := { name := pair.firstMethod, owner? := some 0, position := 0 }

/-- The method of the second entity. -/
def other : Method := { name := pair.secondMethod, owner? := some 1, position := 0 }

/-- An entity of the pair with its method and the fields that it has so far. -/
def entity (name : String) (place : Nat) (method : Method) (fields : List Field) : Entity where
  shortName := name
  namespaceName := normalizeNamespace (normalizeNamespace config.defaultNamespace)
  table := conventionalTable name
  index? := some place
  fields := fields
  methods := [method]

/-- What the document says, with the fields that the entities have so far. -/
def schema (ofFirst ofSecond : List Field) : Schema :=
  { (Document.start config).schema with
    entities := [entity config pair.first 0 pair.method ofFirst,
      entity config pair.second 1 pair.other ofSecond] }

/-- The primary key of an entity. -/
def keyOf (place : Nat) : Field where
  name := "id"
  type := config.primaryKeyType
  owner? := some place
  nullable := some false
  primaryKey := true
  implied := true

/-- The foreign key of the second entity. -/
def foreignKey (column : String) : Field where
  name := column
  type := config.foreignKeyType
  owner? := some 1
  implied := true

/-- The singular names of both tables, sorted and joined. -/
def pivotName : String :=
  min (singularize (conventionalTable pair.first)) (singularize (conventionalTable pair.second)) ++
    "_" ++
    max (singularize (conventionalTable pair.first)) (singularize (conventionalTable pair.second))

/-- Each method is named after the other entity, and the entities have tables of their own. Whether
a method is named in the singular or in the plural is left open. -/
structure Follows : Prop where
  first : IsConventional pair.first
  second : IsConventional pair.second
  tables_ne : conventionalTable pair.first ≠ conventionalTable pair.second
  method : pair.method.IsNamedAfter pair.second
  other : pair.other.IsNamedAfter pair.first

variable {pair} {config}

/-! ## Reading the document -/

/-- The text, as four lines with their indentation. -/
theorem text_eq : pair.text = String.ofList (Line.laidOut
    [(0, pair.first.toList), (2, (pair.firstMethod ++ "()").toList),
      (0, pair.second.toList), (2, (pair.secondMethod ++ "()").toList)]) := by
  rw [← String.toList_inj]
  simp [text, Line.laidOut, Line.behindBlanks, String.toList_append]

namespace Follows

/-- The lines that are read. None of them holds a character that would end it or continue it,
because they are made of names and parentheses. -/
theorem ofText_text (h : pair.Follows) :
    Lines.ofText pair.text = ⟨[⟨1, pair.first, true⟩, ⟨2, pair.firstMethod ++ "()", false⟩,
      ⟨3, pair.second, true⟩, ⟨4, pair.secondMethod ++ "()", false⟩], none⟩ := by
  have hlines : ∀ line ∈ [(0, pair.first.toList), (2, (pair.firstMethod ++ "()").toList),
      (0, pair.second.toList), (2, (pair.secondMethod ++ "()").toList)],
      Line.IsOneLine line.2 := by
    simp only [List.mem_cons, List.not_mem_nil, or_false]
    rintro line (rfl | rfl | rfl | rfl)
    · exact h.first.studly.isName.isOneLine
    · exact (h.method.isName h.second).isOneLine_call
    · exact h.second.studly.isName.isOneLine
    · exact (h.other.isName h.first).isOneLine_call
  rw [text_eq, Lines.ofText_laidOut hlines (by simp)]
  simp [Line.ofLaidOut]

/-- **The document is read.** The entities get their conventional tables, and each of them has its
method and no field yet. -/
theorem readText_text (h : pair.Follows) (config : Config) :
    ∃ document, Document.readText config pair.text = .ok document ∧
      document.schema = pair.schema config [] [] := by
  refine ⟨⟨pair.schema config [] [], normalizeNamespace config.defaultNamespace, some 1⟩, ?_, rfl⟩
  have hmethod : IsName pair.firstMethod.toList := h.method.isName h.second
  have hother : IsName pair.secondMethod.toList := h.other.isName h.first
  have hfree : ∀ {schema : Schema}, schema.entities = [entity config pair.first 0 pair.method []] →
      schema.entityStoredIn? (conventionalTable pair.second) = none := by
    intro schema hentities
    rw [Schema.entityStoredIn?_eq_none_iff, hentities]
    intro stored hstored
    rw [List.mem_singleton.1 hstored]
    exact h.tables_ne
  rw [Document.readText, h.ofText_text]
  dsimp only
  -- the four lines one after the other; the table of the second entity is still free
  rw [List.foldlM_cons, Document.readLine_entity h.first.studly h.first.singular rfl, ok_bind,
    List.foldlM_cons, Document.readLine_call hmethod rfl, ok_bind,
    List.foldlM_cons, Document.readLine_entity h.second.studly h.second.singular (hfree rfl),
    ok_bind, List.foldlM_cons, Document.readLine_call hother rfl, ok_bind]
  rfl

/-! ## The inverses -/

/-- An entity of the pair answers to its short name. -/
theorem isNamed_entity {asked : String} (h : IsStudly asked) (config : Config) (name : String)
    (place : Nat) (method : Method) (fields : List Field) :
    (entity config name place method fields).isNamed asked = (asked == name) :=
  Entity.isNamed_eq h.backslash_not_mem (backslash_mem_normalizeNamespace _)

section Fields

variable (h : pair.Follows) (config : Config) (ofFirst ofSecond : List Field)
include h

/-- The entities have different names, as they have different tables. -/
theorem names_ne : pair.first ≠ pair.second := by
  intro heq
  exact h.tables_ne (congrArg conventionalTable heq)

/-- The first entity is found by its name, since the second has another one. -/
theorem findEntity_first : (pair.schema config ofFirst ofSecond).findEntity pair.first =
    .ok (some (entity config pair.first 0 pair.method ofFirst)) := by
  simp [Schema.findEntity, schema, isNamed_entity h.first.studly, h.names_ne]

/-- So is the second. -/
theorem findEntity_second : (pair.schema config ofFirst ofSecond).findEntity pair.second =
    .ok (some (entity config pair.second 1 pair.other ofSecond)) := by
  simp [Schema.findEntity, schema, isNamed_entity h.second.studly, h.names_ne.symm]

/-- **The two methods are each other's inverse**, whatever fields there are. From each method the
name leads to the other entity, and from there the search for a method leads back. -/
theorem bare : Relation.Bare (pair.schema config ofFirst ofSecond) pair.method pair.other := by
  refine ⟨⟨?_, ?_⟩, h.method.plain h.second, h.other.plain h.first⟩
  · rw [Relation.inverse_plain]
    exact Schema.lookUpInverse_of_isNamedAfter h.second h.method (h.findEntity_second ..)
      (Schema.backMethod?_of_isNamedAfter h.first h.other rfl)
  · rw [Relation.inverse_plain]
    exact Schema.lookUpInverse_of_isNamedAfter h.first h.other (h.findEntity_first ..)
      (Schema.backMethod?_of_isNamedAfter h.second h.method rfl)

end Fields

/-! ## The fields -/

/-- A foreign key is never called `id`. -/
theorem hasField_entity_keyOf (config : Config) (entityName : String) (place : Nat)
    (method : Method) (name : String) :
    (entity config entityName place method [keyOf config place]).hasField (name ++ "_id") =
      false := by
  have hne : name ++ "_id" ≠ "id" := by
    intro heq
    have hlength := congrArg (·.toList.length) heq
    simp [String.toList_append] at hlength
  rw [Entity.hasField, List.contains_eq_mem, decide_eq_false_iff_not]
  exact fun hmem => hne (List.mem_singleton.1 hmem)

section Implied

variable (h : pair.Follows) (config : Config)
include h

/-- If the first method returns many, each entity gets its primary key and all else is up to the
second method. -/
theorem addImpliedFields_eq (hmany : pair.method.returnsMany = true) :
    (pair.schema config [] []).addImpliedFields =
      (pair.schema config [keyOf config 0] [keyOf config 1]).addMethodFields pair.other := by
  have hfirst : (pair.schema config [] []).addEntityFields 0 =
      .ok (pair.schema config [keyOf config 0] []) := by
    change (pair.schema config [keyOf config 0] []).addMethodFields pair.method >>= _ = _
    rw [(h.bare config [keyOf config 0] []).addMethodFields_of_returnsMany hmany]
    rfl
  have hsecond : (pair.schema config [keyOf config 0] []).addEntityFields 1 =
      (pair.schema config [keyOf config 0] [keyOf config 1]).addMethodFields pair.other := by
    change ((pair.schema config [keyOf config 0] [keyOf config 1]).addMethodFields pair.other >>=
      pure) = _
    rw [bind_pure]
  change List.foldlM Schema.addEntityFields (pair.schema config [] []) [0, 1] = _
  rw [List.foldlM_cons, hfirst, ok_bind, List.foldlM_cons, hsecond]
  exact bind_pure _

/-- A second method that returns many adds nothing. -/
theorem addImpliedFields_of_many (hmany : pair.method.returnsMany = true)
    (hmanyOther : pair.other.returnsMany = true) :
    (pair.schema config [] []).addImpliedFields =
      .ok (pair.schema config [keyOf config 0] [keyOf config 1]) := by
  rw [h.addImpliedFields_eq config hmany]
  exact (h.bare config _ _).symm.addMethodFields_of_returnsMany hmanyOther

/-- A second method that returns one adds its foreign key, which no entity has yet. At that moment
the column is missing on both sides, and the method is a belongs-to because the other one returns
many. -/
theorem addImpliedFields_of_one (hmany : pair.method.returnsMany = true)
    (honeOther : pair.other.returnsOne = true) :
    (pair.schema config [] []).addImpliedFields =
      .ok (pair.schema config [keyOf config 0]
        [keyOf config 1, foreignKey config (snake pair.first ++ "_id")]) := by
  -- the kind is asked when there are only the primary keys
  have hbare := h.bare config [keyOf config 0] [keyOf config 1]
  have habsent : Relation.hasConventionalColumn
      (pair.schema config [keyOf config 0] [keyOf config 1]) pair.method = false := by
    rw [h.method.hasConventionalColumn_eq h.second]
    exact hasField_entity_keyOf ..
  have habsentOther : Relation.hasConventionalColumn
      (pair.schema config [keyOf config 0] [keyOf config 1]) pair.other = false := by
    rw [h.other.hasConventionalColumn_eq h.first]
    exact hasField_entity_keyOf ..
  have hkind := hbare.symm.kind_of_lacksConventionalColumn honeOther hmany habsentOther habsent
  rw [h.addImpliedFields_eq config hmany, hbare.symm.addMethodFields_of_belongsTo honeOther hkind,
    h.other.conventionalKey_eq h.first, Schema.addImpliedOf, Schema.addImplied]
  refine congrArg (fun second => Except.ok { (Document.start config).schema with
    entities := [entity config pair.first 0 pair.method [keyOf config 0], second] }) ?_
  exact if_neg (ne_true_of_eq_false (hasField_entity_keyOf ..))

/-- **A document in which both methods return many.** -/
theorem parse_of_many (hmany : pair.method.returnsMany = true)
    (hmanyOther : pair.other.returnsMany = true) :
    Schema.parse config pair.text = .ok (pair.schema config [keyOf config 0] [keyOf config 1]) := by
  obtain ⟨document, hread, hschema⟩ := h.readText_text config
  refine Schema.parse_eq_ok.2 ⟨document, hread, ?_⟩
  rw [hschema, h.addImpliedFields_of_many config hmany hmanyOther]

/-- **A document in which the second method returns one.** -/
theorem parse_of_one (hmany : pair.method.returnsMany = true)
    (honeOther : pair.other.returnsOne = true) :
    Schema.parse config pair.text = .ok (pair.schema config [keyOf config 0]
      [keyOf config 1, foreignKey config (snake pair.first ++ "_id")]) := by
  obtain ⟨document, hread, hschema⟩ := h.readText_text config
  refine Schema.parse_eq_ok.2 ⟨document, hread, ?_⟩
  rw [hschema, h.addImpliedFields_of_one config hmany honeOther]

end Implied

/-! ## The kinds and the pivot table -/

section Kinds

variable (h : pair.Follows) (config : Config) (ofFirst ofSecond : List Field)
include h

/-- With the foreign key of the second entity the methods are a has-many and a belongs-to. This is
asked of the finished schema, and gives the answer that was found before the key was added. -/
theorem kinds_of_one (hmany : pair.method.returnsMany = true)
    (hnotMany : pair.other.returnsMany = false) :
    Relation.kind (m := Except Error) (pair.schema config ofFirst
        [keyOf config 1, foreignKey config (snake pair.first ++ "_id")]) pair.method =
        .ok .hasMany ∧
      Relation.kind (m := Except Error) (pair.schema config ofFirst
        [keyOf config 1, foreignKey config (snake pair.first ++ "_id")]) pair.other =
        .ok .belongsTo := by
  have hbare := h.bare config ofFirst
    [keyOf config 1, foreignKey config (snake pair.first ++ "_id")]
  constructor
  · rw [hbare.kind_of_returnsMany hmany, if_neg]
    rw [hnotMany]
    exact fun hboth => Bool.false_ne_true hboth.1
  · refine hbare.symm.kind_of_hasConventionalColumn (Method.returnsOne_iff.2 hnotMany) ?_
    rw [h.other.hasConventionalColumn_eq h.first, Entity.hasField, List.contains_eq_mem,
      decide_eq_true_eq]
    exact List.mem_cons_of_mem _ List.mem_cons_self

/-- If both methods return many, both are a many-to-many. Neither returns its own entity, because
the names differ. -/
theorem kinds_of_many (hmany : pair.method.returnsMany = true)
    (hmanyOther : pair.other.returnsMany = true) :
    Relation.kind (m := Except Error) (pair.schema config ofFirst ofSecond) pair.method =
        .ok .belongsToMany ∧
      Relation.kind (m := Except Error) (pair.schema config ofFirst ofSecond) pair.other =
        .ok .belongsToMany := by
  have hbare := h.bare config ofFirst ofSecond
  refine ⟨hbare.kind_of_bothMany hmany hmanyOther ?_,
    hbare.symm.kind_of_bothMany hmanyOther hmany ?_⟩
  · rw [Relation.returnsOwnEntity, h.method.singleType_eq h.second]
    exact beq_eq_false_iff_ne.2 h.names_ne.symm
  · rw [Relation.returnsOwnEntity, h.other.singleType_eq h.first]
    exact beq_eq_false_iff_ne.2 h.names_ne

/-- One of two methods that return many asks for the pivot table, and the other for none. An entity
that is stored under this name would be the pivot itself, and so there must not be one. -/
theorem exists_pivot (hmany : pair.method.returnsMany = true)
    (hmanyOther : pair.other.returnsMany = true)
    (hfree : pair.pivotName ∉ [conventionalTable pair.first, conventionalTable pair.second]) :
    ∃ pivot : Table, pivot.name = pair.pivotName ∧
      pivot.columnNames.Perm [snake pair.first ++ "_id", snake pair.second ++ "_id"] ∧
      Relation.AsksOnce (pair.schema config ofFirst ofSecond) pair.method pair.other pivot := by
  have hbare := h.bare config ofFirst ofSecond
  obtain ⟨hkind, hkindOther⟩ := h.kinds_of_many config ofFirst ofSecond hmany hmanyOther
  have hstored : (pair.schema config ofFirst ofSecond).entityStoredIn? pair.pivotName = none := by
    rw [Schema.entityStoredIn?_eq_none_iff]
    intro stored hmem heq
    refine hfree ?_
    rw [← heq]
    exact List.mem_map_of_mem hmem
  obtain ⟨pivot, hname, hcolumns, hasks⟩ := hbare.asksOnce hkind hkindOther h.names_ne
    (Relation.conventionalPivotTable_eq ..) hstored
  rw [h.method.conventionalKey_eq h.second, h.other.conventionalKey_eq h.first] at hcolumns
  exact ⟨pivot, hname, hcolumns.trans (.swap _ _ _), hasks⟩

end Kinds

end Follows

/-! ## Documents that follow the conventions -/

/-- The parsed document has the two entities, each in its table and with its method, and a resolver
that remembers finds the given kinds, and that each method is the inverse of the other. -/
structure Resolves (pair : Pair) (schema : Schema) (kind kindOther : RelationKind) : Prop where
  declared : schema.entities.map (fun entity => (entity.shortName, entity.table, entity.methods)) =
    [(pair.first, conventionalTable pair.first, [pair.method]),
      (pair.second, conventionalTable pair.second, [pair.other])]
  kind_eq : Tracked.evaluate (Relation.kind schema pair.method) = .ok kind
  kind_other : Tracked.evaluate (Relation.kind schema pair.other) = .ok kindOther
  inverse_eq : Tracked.evaluate (Relation.inverse schema pair.method) = .ok pair.other
  inverse_other : Tracked.evaluate (Relation.inverse schema pair.other) = .ok pair.method

/-- The tables of the entities and one pivot table are all there is. -/
structure ListsOnePivot (schema : Schema) (pivot : Table) : Prop where
  listed : ∃ names, Tracked.evaluate (tableNames schema) = .ok names ∧
    names.Perm (pivot.name :: schema.entities.map (·.table))
  asked : ∃ ofEntities,
    Tracked.evaluate (schema.entities.mapM (impliedPivotTables schema)) = .ok ofEntities ∧
      ofEntities.flatten = [pivot]

/-- What is found of the kinds and inverses without a memory is found with one, since the schema is
placed. -/
theorem Follows.resolves (h : pair.Follows) {ofFirst ofSecond : List Field}
    (hplaced : (pair.schema config ofFirst ofSecond).IsPlaced) {kind kindOther : RelationKind}
    (hkind : Relation.kind (m := Except Error) (pair.schema config ofFirst ofSecond) pair.method =
      .ok kind)
    (hkindOther : Relation.kind (m := Except Error) (pair.schema config ofFirst ofSecond)
      pair.other = .ok kindOther) :
    pair.Resolves (pair.schema config ofFirst ofSecond) kind kindOther := by
  have hbare := h.bare config ofFirst ofSecond
  constructor
  case declared => rfl
  case kind_eq => rw [Relation.evaluate_kind hplaced hbare.mem, hkind]
  case kind_other => rw [Relation.evaluate_kind hplaced hbare.mem_other, hkindOther]
  case inverse_eq => rw [Relation.evaluate_inverse hplaced hbare.mem, hbare.inverse_eq]
  case inverse_other =>
    rw [Relation.evaluate_inverse hplaced hbare.mem_other, hbare.inverse_other]

/-- What is listed when it is known what the two methods ask for: each entity, and behind it the
table that its method asks for. -/
theorem tables_of_asked {ofFirst ofSecond : List Field} {asked askedOther : Option Table}
    (hasked : impliedPivotTable (m := Except Error) (pair.schema config ofFirst ofSecond)
      pair.method = .ok asked)
    (haskedOther : impliedPivotTable (m := Except Error) (pair.schema config ofFirst ofSecond)
      pair.other = .ok askedOther) :
    (pair.schema config ofFirst ofSecond).entities.mapM
        (impliedPivotTables (m := Except Error) (pair.schema config ofFirst ofSecond)) =
      .ok [asked.toList, askedOther.toList] ∧
    tableNames (m := Except Error) (pair.schema config ofFirst ofSecond) =
      .ok (conventionalTable pair.first :: asked.toList.map (·.name) ++
        conventionalTable pair.second :: askedOther.toList.map (·.name)) := by
  have hfirst : impliedPivotTables (m := Except Error) (pair.schema config ofFirst ofSecond)
      (entity config pair.first 0 pair.method ofFirst) = .ok asked.toList :=
    impliedPivotTables_of_single rfl hasked
  have hsecond : impliedPivotTables (m := Except Error) (pair.schema config ofFirst ofSecond)
      (entity config pair.second 1 pair.other ofSecond) = .ok askedOther.toList :=
    impliedPivotTables_of_single rfl haskedOther
  have hentities : (pair.schema config ofFirst ofSecond).entities =
      [entity config pair.first 0 pair.method ofFirst,
        entity config pair.second 1 pair.other ofSecond] := rfl
  constructor
  · rw [hentities, List.mapM_cons, hfirst, ok_bind, List.mapM_cons, hsecond]
    rfl
  · unfold tableNames
    rw [hentities, List.mapM_cons, hfirst, ok_bind, List.mapM_cons, hsecond]
    refine congrArg Except.ok ?_
    rw [List.flatten_cons, List.flatten_cons, List.reverse_nil, List.flatten_nil, List.append_nil]
    rfl

/-- If one of the methods asks for a table and the other for none, that table is listed besides
those of the entities, and once. It stands behind the entity whose method asks. -/
theorem listsOnePivot {ofFirst ofSecond : List Field}
    (hplaced : (pair.schema config ofFirst ofSecond).IsPlaced) {pivot : Table}
    (hasks : Relation.AsksOnce (pair.schema config ofFirst ofSecond) pair.method pair.other pivot) :
    ListsOnePivot (pair.schema config ofFirst ofSecond) pivot := by
  have hmapM : Tracked.evaluate ((pair.schema config ofFirst ofSecond).entities.mapM
      (impliedPivotTables (pair.schema config ofFirst ofSecond))) =
      (pair.schema config ofFirst ofSecond).entities.mapM
        (impliedPivotTables (m := Except Error) (pair.schema config ofFirst ofSecond)) :=
    (Tracked.Agrees.mapM fun _ hentity =>
      agrees_impliedPivotTables hplaced (Nat.le_refl 3) hentity).evaluate_eq
  rcases hasks with ⟨hasked, haskedOther⟩ | ⟨hasked, haskedOther⟩
  · obtain ⟨hof, hnames⟩ := tables_of_asked hasked haskedOther
    refine ⟨⟨_, (evaluate_tableNames hplaced).trans hnames, ?_⟩, _, hmapM.trans hof, rfl⟩
    exact .swap _ _ _
  · obtain ⟨hof, hnames⟩ := tables_of_asked hasked haskedOther
    refine ⟨⟨_, (evaluate_tableNames hplaced).trans hnames, ?_⟩, _, hmapM.trans hof, rfl⟩
    exact List.perm_append_singleton pivot.name
      [conventionalTable pair.first, conventionalTable pair.second]

section Conventional

variable {first second : String} (hfirst : IsConventional first) (hsecond : IsConventional second)
  (htables : conventionalTable first ≠ conventionalTable second)
include hfirst hsecond htables

/-- The first pair: plural and singular. -/
theorem follows_oneToMany : (oneToMany first second).Follows :=
  ⟨hfirst, hsecond, htables, ⟨.inr rfl, rfl, rfl, rfl, rfl⟩, ⟨.inl rfl, rfl, rfl, rfl, rfl⟩⟩

/-- The second pair: plural and plural. -/
theorem follows_manyToMany : (manyToMany first second).Follows :=
  ⟨hfirst, hsecond, htables, ⟨.inr rfl, rfl, rfl, rfl, rfl⟩, ⟨.inr rfl, rfl, rfl, rfl, rfl⟩⟩

/-- The first entity has many of the second, which get a foreign key. -/
theorem resolves_oneToMany (config : Config) :
    ∃ schema, Schema.parse config (oneToMany first second).text = .ok schema ∧
      (oneToMany first second).Resolves schema .hasMany .belongsTo ∧
      (schema.owner (oneToMany first second).other).fieldNames = ["id", snake first ++ "_id"] := by
  have h := follows_oneToMany hfirst hsecond htables
  have hmany := h.method.returnsMany_of_plural hsecond rfl
  have hnotMany := h.other.returnsMany_of_singular hfirst rfl
  have hparse := h.parse_of_one config hmany (Method.returnsOne_iff.2 hnotMany)
  obtain ⟨hkind, hkindOther⟩ := h.kinds_of_one config _ hmany hnotMany
  exact ⟨_, hparse, h.resolves (Schema.isPlaced_of_parse hparse) hkind hkindOther, rfl⟩

/-- Each entity has many of the other, by way of a pivot table. -/
theorem resolves_manyToMany (config : Config) :
    ∃ schema, Schema.parse config (manyToMany first second).text = .ok schema ∧
      (manyToMany first second).Resolves schema .belongsToMany .belongsToMany ∧
      ((manyToMany first second).pivotName ∉ [conventionalTable first, conventionalTable second] →
        ∃ pivot, ListsOnePivot schema pivot ∧ pivot.name = (manyToMany first second).pivotName ∧
          pivot.columnNames.Perm [snake first ++ "_id", snake second ++ "_id"]) := by
  have h := follows_manyToMany hfirst hsecond htables
  have hmany := h.method.returnsMany_of_plural hsecond rfl
  have hmanyOther := h.other.returnsMany_of_plural hfirst rfl
  have hparse := h.parse_of_many config hmany hmanyOther
  have hplaced := Schema.isPlaced_of_parse hparse
  obtain ⟨hkind, hkindOther⟩ := h.kinds_of_many config _ _ hmany hmanyOther
  refine ⟨_, hparse, h.resolves hplaced hkind hkindOther, fun hfree => ?_⟩
  obtain ⟨pivot, hname, hcolumns, hasks⟩ := h.exists_pivot config _ _ hmany hmanyOther hfree
  exact ⟨pivot, listsOnePivot hplaced hasks, hname, hcolumns⟩

end Conventional

end Pair

/-- **The conventions work end to end.** Let two entities have conventional names and different
tables. If the first has a method that is named after the second in the plural, and the second one
that is named after the first in the singular, the document gives a has-many and a belongs-to that
are each other's inverse, and the second entity gets a foreign key. If both methods are named in the
plural, the document gives two sides of a many-to-many, and unless the pivot table is that of an
entity, it is listed once and has a column for each side. -/
theorem conventions_resolve {first second : String} (hfirst : IsConventional first)
    (hsecond : IsConventional second)
    (htables : pluralize (snake first) ≠ pluralize (snake second)) (config : Config) :
    (∃ schema, Schema.parse config (Pair.oneToMany first second).text = .ok schema ∧
      (Pair.oneToMany first second).Resolves schema .hasMany .belongsTo ∧
      (schema.owner (Pair.oneToMany first second).other).fieldNames =
        ["id", snake first ++ "_id"]) ∧
    ∃ schema, Schema.parse config (Pair.manyToMany first second).text = .ok schema ∧
      (Pair.manyToMany first second).Resolves schema .belongsToMany .belongsToMany ∧
      ((Pair.manyToMany first second).pivotName ∉
          [conventionalTable first, conventionalTable second] →
        ∃ pivot, Pair.ListsOnePivot schema pivot ∧
          pivot.name = (Pair.manyToMany first second).pivotName ∧
          pivot.columnNames.Perm [snake first ++ "_id", snake second ++ "_id"]) :=
  ⟨Pair.resolves_oneToMany hfirst hsecond htables config,
    Pair.resolves_manyToMany hfirst hsecond htables config⟩

/-- A guru has many haikus, or the two are related many to many. -/
theorem conventions_resolve_haikus :
    (∃ schema, Schema.parse {} "Guru\n  haikus()\nHaiku\n  guru()\n" = .ok schema ∧
      Pair.Resolves ⟨"Guru", "haikus", "Haiku", "guru"⟩ schema .hasMany .belongsTo ∧
      (schema.owner { name := "guru", owner? := some 1 }).fieldNames = ["id", "guru_id"]) ∧
    ∃ schema, Schema.parse {} "Guru\n  haikus()\nHaiku\n  gurus()\n" = .ok schema ∧
      Pair.Resolves ⟨"Guru", "haikus", "Haiku", "gurus"⟩ schema .belongsToMany .belongsToMany ∧
      ∃ pivot, Pair.ListsOnePivot schema pivot ∧ pivot.name = "guru_haiku" ∧
        pivot.columnNames.Perm ["guru_id", "haiku_id"] := by
  have hone : Pair.oneToMany "Guru" "Haiku" = ⟨"Guru", "haikus", "Haiku", "guru"⟩ := by
    decide +kernel
  have hmany : Pair.manyToMany "Guru" "Haiku" = ⟨"Guru", "haikus", "Haiku", "gurus"⟩ := by
    decide +kernel
  have hpivot : Pair.pivotName ⟨"Guru", "haikus", "Haiku", "gurus"⟩ = "guru_haiku" := by
    decide +kernel
  have hguru : snake "Guru" = "guru" := by decide +kernel
  have hhaiku : snake "Haiku" = "haiku" := by decide +kernel
  have hresolve := @conventions_resolve "Guru" "Haiku" (by decide +kernel) (by decide +kernel)
    (by decide +kernel) {}
  rw [hone, hmany, hpivot, hguru, hhaiku] at hresolve
  obtain ⟨hfirst, schema, hparse, hresolves, hlists⟩ := hresolve
  exact ⟨hfirst, schema, hparse, hresolves, hlists (by decide +kernel)⟩

end EntitySchema
