/-
Policies in force.

A `default` line says what holds for the fields below it that do not say otherwise. While a document
is read there is one policy, which such lines change and from which each field takes a copy; the
copy is looked at much later, when someone asks whether the field may be null. The columns that are
implied come after the last line and take the policy that is left.

So what a field comes to hangs on the lines in front of it, and `fieldFlags` reads it off them: the
tags on its own line decide, and what they leave open is decided by the `default` lines above,
wherever these stand. `Schema.flags_of_parse` says that a document has just these flags. Nothing
that stands below a field is looked at, and so the flags of the fields above a line stay whatever
the line is changed to.

`fieldFlags` is meant to be read without the reader of documents. It takes the lines one by one,
each with those above it, asks of each whether it is a `default` line, the line of an entity or a
field line, and counts entities to know whose field it is. The tags are looked at as they are
written. That it agrees with what the reader does is `Document.Follows`, an invariant over the lines
that have been read: how many entities there are, which is the current one, which policy is in
force, and which flags the fields of each entity have. A step of it is one line (`Follows.concat`).

For the implied columns there is an invariant of its own, `Schema.ImpliedUnder`, which is carried
along the induction over the adding of implied fields. The implied primary key is not among them: it
says itself that it may not be null, and so the policy does not decide.
-/
import EntitySchema.Proofs.Declaration.Tags
import EntitySchema.Proofs.Implied.Growth
import EntitySchema.Proofs.Implied.Declared
import EntitySchema.Proofs.Lines.Extension

set_option autoImplicit false

namespace EntitySchema

open Outcome

/-! ## Flags -/

/-- What holds for a field, by its name. These are the answers in the end, not the tags that lead to
them. -/
structure FieldFlags where
  name : String
  nullable : Bool
  guarded : Bool
  deriving DecidableEq

/-- The flags of a field, with the policy applied that the field has taken along. -/
def Field.flags (field : Field) : FieldFlags := ⟨field.name, field.mayBeNull, field.isGuarded⟩

/-- The flags of a field line under a policy. -/
def FieldLine.flags (line : FieldLine) (policy : Policy) : FieldFlags where
  name := line.name
  nullable := line.nullable.getD policy.nullable
  guarded := line.guarded.getD policy.guarded

/-- The nullability that a tag writes. Two spellings say that null is allowed. -/
def nullability? (tag : List Char) : Option Bool :=
  if tag = "NotNull".toList then some false
  else if tag = "Null".toList ∨ tag = "Nullable".toList then some true
  else none

/-- The guard that a tag writes. No tag takes a guard away. -/
def guard? (tag : List Char) : Option Bool := if tag = "Guarded".toList then some true else none

/-- What the tags of a line write: the last one that writes something counts. -/
def lastWritten (writes? : List Char → Option Bool) (tags : List (List Char)) : Option Bool :=
  (tags.filterMap writes?).getLast?

/-- One more tag in front: it counts if none behind it writes anything. -/
theorem lastWritten_cons (writes? : List Char → Option Bool) (tag : List Char)
    (tags : List (List Char)) :
    lastWritten writes? (tag :: tags) = (lastWritten writes? tags).or (writes? tag) := by
  rw [lastWritten, lastWritten]
  cases htag : writes? tag with
  | none => rw [List.filterMap_cons_none htag, Option.or_none]
  | some value =>
    rw [List.filterMap_cons_some htag, List.getLast?_cons]
    cases (tags.filterMap writes?).getLast? <;> rfl

/-! ## Lines -/

namespace Declaration

/-- The tags of a policy. -/
def policyTags? : Declaration → Option (List String)
  | ofDefault line => some line.tags
  | _ => none

/-- Whether an entity is declared. -/
def isEntity : Declaration → Bool
  | ofEntity _ => true
  | _ => false

/-- The flags of a field under a policy. -/
def fieldFlags? (policy : Policy) : Declaration → Option FieldFlags
  | ofField line => some (line.flags policy)
  | _ => none

end Declaration

namespace Line

variable (config : Config) (line : Line)

/-- What a line of the top level declares. A line that cannot be read declares nothing. -/
def topDeclaration? : Option Declaration :=
  if line.topLevel then (Declaration.readTopLevel config line.text).toOption.join else none

/-- The tags of a `default` line. -/
def policyTags? : Option (List String) :=
  (line.topDeclaration? config).bind Declaration.policyTags?

/-- Whether a line declares an entity. -/
def isEntity : Bool := (line.topDeclaration? config).any Declaration.isEntity

/-- The flags of a field line: its tags decide, and else a policy. -/
def fieldFlags? (policy : Policy) : Option FieldFlags :=
  if line.topLevel then none
  else
    (FieldLine.parts? line.text.toList).map fun (name, _, tags) =>
      { name
        nullable := (lastWritten nullability? (splitTags tags)).getD policy.nullable
        guarded := (lastWritten guard? (splitTags tags)).getD policy.guarded }

end Line

/-- The policy behind some lines: that of their `default` lines, one after the other. -/
def policyAfter (config : Config) (lines : List Line) : Policy :=
  (lines.filterMap (·.policyTags? config)).foldl Policy.update {}

/-- The lines, each with those before it. -/
def withBefore : (before lines : List Line) → List (List Line × Line)
  | _, [] => []
  | before, line :: rest => (before, line) :: withBefore (before ++ [line]) rest

/-- The flags of the field lines of the entity at a place: they are those behind the line of this
entity and no other, and each stands under the policy of the lines before it. -/
def fieldFlags (config : Config) (place : Nat) (lines : List Line) : List FieldFlags :=
  (withBefore [] lines).filterMap fun (before, line) =>
    if before.countP (·.isEntity config) = place + 1 then
      line.fieldFlags? (policyAfter config before)
    else
      none

section Behind

variable (config : Config) (place : Nat)

/-- The lines after others have those before them as well. -/
theorem withBefore_append (before lines rest : List Line) :
    withBefore before (lines ++ rest) =
      withBefore before lines ++ withBefore (before ++ lines) rest := by
  induction lines generalizing before with
  | nil => rw [List.append_nil]; rfl
  | cons line lines ih =>
    rw [List.cons_append, withBefore, withBefore, ih, List.append_assoc, List.singleton_append,
      List.cons_append]

/-- The lines in front of the rest have the flags that they have alone. Each line is asked together
with those above it, and these are the same. -/
theorem isPrefix_fieldFlags {lines longer : List Line} (h : lines <+: longer) :
    fieldFlags config place lines <+: fieldFlags config place longer := by
  obtain ⟨rest, rfl⟩ := h
  rw [fieldFlags, fieldFlags, withBefore_append, List.filterMap_append]
  exact List.prefix_append _ _

/-- One more line. It adds the flags of at most one field, under the policy of the lines before
it. -/
theorem fieldFlags_concat (lines : List Line) (line : Line) :
    fieldFlags config place (lines ++ [line]) = fieldFlags config place lines ++
      (if lines.countP (·.isEntity config) = place + 1 then
        line.fieldFlags? (policyAfter config lines)
      else
        none).toList := by
  rw [fieldFlags, fieldFlags, withBefore_append, List.filterMap_append, List.nil_append]
  exact congrArg _ (filterMap_toList _ (some (lines, line)))

/-- One more line. If it is a `default` line its tags update the policy. -/
theorem policyAfter_concat (lines : List Line) (line : Line) :
    policyAfter config (lines ++ [line]) =
      (line.policyTags? config).elim (policyAfter config lines)
        (policyAfter config lines).update := by
  rw [policyAfter, List.filterMap_append, List.foldl_append, ← policyAfter]
  cases htags : line.policyTags? config with
  | none => rw [List.filterMap_cons_none htags]; rfl
  | some tags => rw [List.filterMap_cons_some htags]; rfl

end Behind

/-! ## Field lines -/

namespace FieldLine

variable {owner : String} {field after : FieldLine} {tags : List (List Char)}

/-- What a tag says of nullability and guard is what it writes. The words that may stand as tags are
gone through; the tags with parentheses say something else. -/
theorem flags_addTo_of_read? {tag : List Char} {known : FieldTag}
    (h : FieldTag.read? tag = some known) (field : FieldLine) :
    (known.addTo field).name = field.name ∧
      (known.addTo field).nullable = (nullability? tag).or field.nullable ∧
      (known.addTo field).guarded = (guard? tag).or field.guarded := by
  by_cases hword : tag ∈ ["Index".toList, "Unique".toList, "PrimaryKey".toList, "NotNull".toList,
      "Null".toList, "Nullable".toList, "Guarded".toList]
  · simp only [List.mem_cons, List.not_mem_nil, or_false] at hword
    rcases hword with rfl | rfl | rfl | rfl | rfl | rfl | rfl <;>
      obtain rfl := Option.some.inj h <;> exact ⟨rfl, rfl, rfl⟩
  · -- what is left has parentheses, and such a tag is about something else
    simp only [List.mem_cons, List.not_mem_nil, or_false, not_or] at hword
    obtain ⟨hindex, hunique, hkey, hnot, hnull, hnullable, hguarded⟩ := hword
    rw [FieldTag.read?, if_neg hindex, if_neg hunique, if_neg hkey, if_neg hnot,
      if_neg (not_or.2 ⟨hnull, hnullable⟩), if_neg hguarded] at h
    rw [nullability?, if_neg hnot, if_neg (not_or.2 ⟨hnull, hnullable⟩), guard?, if_neg hguarded]
    cases known with
    | nullable value => simp [Option.or_eq_some_iff] at h
    | guarded => simp [Option.or_eq_some_iff] at h
    | _ => exact ⟨rfl, rfl, rfl⟩

/-- The tags of a line say of nullability and guard what they write. Of several the last one counts,
as each overwrites what was said before. -/
theorem flags_of_addTags (h : addTags owner field tags = .ok after) :
    after.name = field.name ∧
      after.nullable = (lastWritten nullability? tags).or field.nullable ∧
      after.guarded = (lastWritten guard? tags).or field.guarded := by
  induction tags generalizing field with
  | nil =>
    obtain rfl := Except.ok.inj h
    exact ⟨rfl, rfl, rfl⟩
  | cons tag tags ih =>
    rw [addTags] at h
    split at h
    · next known hknown =>
      obtain ⟨hname, hnullable, hguarded⟩ := ih h
      obtain ⟨hname', hnullable', hguarded'⟩ := flags_addTo_of_read? hknown field
      rw [hname, hname', hnullable, hnullable', hguarded, hguarded', lastWritten_cons,
        lastWritten_cons, Option.or_assoc, Option.or_assoc]
      exact ⟨rfl, rfl, rfl⟩
    · cases h

/-- **The flags of a field line** are those that are read off it. This joins the two readings of the
tags: the one of the reader, which makes a field, and the one of `Line.fieldFlags?`. -/
theorem fieldFlags?_of_read {line : Line} {owner : String} {field : FieldLine}
    (hnested : line.topLevel = false) (h : read owner line.text = .ok (some field))
    (policy : Policy) : line.fieldFlags? policy = some (field.flags policy) := by
  rw [read] at h
  split at h
  · cases h
  · next name type tags hparts =>
    obtain ⟨⟨typeName, param1, param2⟩, -, h⟩ := bind_eq_ok.1 h
    obtain ⟨after, hadd, h⟩ := bind_eq_ok.1 h
    obtain rfl := Option.some.inj (Except.ok.inj h)
    obtain ⟨hname, hnullable, hguarded⟩ := flags_of_addTags hadd
    rw [Line.fieldFlags?, hnested, if_neg Bool.false_ne_true, hparts, Option.map_some]
    simp only [flags, hname, hnullable, hguarded, Option.or_none]

/-- A line that is no field line has no flags. Otherwise the lines of methods and commands would
count. -/
theorem fieldFlags?_of_read_none {line : Line} {owner : String}
    (h : read owner line.text = .ok none) (policy : Policy) : line.fieldFlags? policy = none := by
  rw [read] at h
  split at h
  · next hparts => simp [Line.fieldFlags?, hparts]
  · obtain ⟨_, -, h⟩ := bind_eq_ok.1 h
    obtain ⟨_, -, h⟩ := bind_eq_ok.1 h
    cases h

end FieldLine

/-! ## What a declaration changes -/

namespace Document

variable {document after : Document} {declaration : Declaration}

/-- Only a `default` line changes the policy. It is updated, not replaced: what the line does not
mention stays in force. -/
theorem policy_declare (h : document.declare declaration = .ok after) :
    after.schema.policy =
      declaration.policyTags?.elim document.schema.policy document.schema.policy.update := by
  obtain ⟨entities, namespaces, heq⟩ := exists_schema_declare_eq h
  rw [heq]
  cases declaration <;> rfl

/-- Only the line of an entity adds one, and it becomes the current one. All other declarations
leave the number of entities and the current one. -/
theorem entities_declare (h : document.declare declaration = .ok after) :
    if declaration.isEntity then
      after.schema.entities.length = document.schema.entities.length + 1 ∧
        after.current = some document.schema.entities.length
    else
      after.schema.entities.length = document.schema.entities.length ∧
        after.current = document.current := by
  have hmodify : ∀ change,
      (document.modifyCurrent change).schema.entities.length = document.schema.entities.length ∧
        (document.modifyCurrent change).current = document.current := by
    intro change
    obtain ⟨entities, hlength, heq⟩ := document.exists_modifyCurrent_eq change
    rw [heq]
    exact ⟨hlength, rfl⟩
  cases declaration with
  | ofDefault line => exact Except.ok.inj h ▸ ⟨rfl, rfl⟩
  | ofNamespace line => exact Except.ok.inj h ▸ ⟨rfl, rfl⟩
  | ofEntity line =>
    obtain ⟨entity, schema, -, hschema, rfl⟩ := exists_of_declare_ofEntity h
    rw [(Schema.addEntity_eq_ok.1 hschema).2]
    exact ⟨List.length_append, rfl⟩
  | ofField line => exact Except.ok.inj h ▸ hmodify _
  | ofMethod line => exact Except.ok.inj h ▸ hmodify _
  | ofAlter line => exact Except.ok.inj h ▸ hmodify _

end Document

/-! ## Reading line by line -/

/-- A line that declares something is of the kind of its declaration. -/
structure Line.Declares (config : Config) (line : Line) (declaration : Declaration) : Prop where
  policyTags : line.policyTags? config = declaration.policyTags?
  isEntity : line.isEntity config = declaration.isEntity
  fieldFlags : ∀ policy, line.fieldFlags? policy = declaration.fieldFlags? policy

namespace Line

variable {config : Config} {line : Line} {declaration : Declaration}

/-- A line of the top level declares no field. -/
theorem declares_of_readTopLevel (htop : line.topLevel = true)
    (h : Declaration.readTopLevel config line.text = .ok (some declaration)) :
    line.Declares config declaration := by
  have htopDeclaration : line.topDeclaration? config = some declaration := by
    rw [topDeclaration?, if_pos htop, h]
    rfl
  refine ⟨by rw [policyTags?, htopDeclaration, Option.bind_some],
    by rw [isEntity, htopDeclaration, Option.any_some], fun policy => ?_⟩
  rw [fieldFlags?, if_pos htop]
  cases declaration with
  | ofField field =>
    obtain ⟨policyLine, -, h⟩ := bind_eq_ok.1 h
    cases policyLine with
    | some policyLine => cases h
    | none =>
      obtain ⟨space, -, h⟩ := bind_eq_ok.1 h
      cases space with
      | some space => cases h
      | none =>
        obtain ⟨entity, -, hentity⟩ := Option.map_eq_some_iff.1 (Except.ok.inj h)
        cases hentity
  | _ => rfl

/-- A nested line declares a policy or an entity never, and a field only if it is a field line. -/
theorem declares_of_readNested (hnested : line.topLevel = false) {owner : String}
    (h : Declaration.readNested owner line.text = .ok (some declaration)) :
    line.Declares config declaration := by
  have hnone : line.topDeclaration? config = none := if_neg (by simp [hnested])
  have htags : line.policyTags? config = none := by rw [policyTags?, hnone, Option.bind_none]
  have hentity : line.isEntity config = false := by rw [isEntity, hnone, Option.any_none]
  obtain ⟨field, hfield, h⟩ := bind_eq_ok.1 h
  cases field with
  | some field =>
    obtain rfl := Option.some.inj (Except.ok.inj h)
    exact ⟨htags, hentity, FieldLine.fieldFlags?_of_read hnested hfield⟩
  | none =>
    have hflags := FieldLine.fieldFlags?_of_read_none hfield
    obtain ⟨method, -, h⟩ := bind_eq_ok.1 h
    cases method with
    | some method =>
      obtain rfl := Option.some.inj (Except.ok.inj h)
      exact ⟨htags, hentity, hflags⟩
    | none =>
      obtain ⟨alter, -, rfl⟩ := Option.map_eq_some_iff.1 (Except.ok.inj h)
      exact ⟨htags, hentity, hflags⟩

/-- A line that was read is of the kind that was read. Lines of the top level and nested ones are
read by different readers. -/
theorem declares_of_declarationOf {document : Document}
    (h : document.declarationOf line = .ok (some declaration)) :
    line.Declares document.schema.config declaration := by
  rw [Document.declarationOf] at h
  split at h
  · next htop => exact declares_of_readTopLevel htop h
  · next hnested =>
    split at h
    · cases h
    · exact declares_of_readNested (Bool.not_eq_true _ ▸ hnested) h

end Line

namespace Document

variable {config : Config} {lines : List Line} {line : Line} {document after : Document}

/-- A document as it is behind some lines. The current entity is the one whose line came last, so
its place is one less than the number of entities. -/
structure Follows (config : Config) (lines : List Line) (document : Document) : Prop where
  config_eq : document.schema.config = config
  policy_eq : document.schema.policy = policyAfter config lines
  length_eq : document.schema.entities.length = lines.countP (·.isEntity config)
  current_iff : ∀ place, document.current = some place ↔
    lines.countP (·.isEntity config) = place + 1
  flags_eq : ∀ place, (document.schema.fieldsAt place).map Field.flags =
    fieldFlags config place lines

/-- The empty document is behind no lines. -/
theorem follows_start (config : Config) : (start config).Follows config [] where
  config_eq := rfl
  policy_eq := rfl
  length_eq := rfl
  current_iff _ := ⟨nofun, nofun⟩
  flags_eq _ := rfl

/-- The field that a line declares has the flags of the line. It goes to the entity whose line came
last, and takes the policy in force. -/
theorem Follows.map_fieldDeclared? (h : document.Follows config lines) (place : Nat)
    (declaration : Declaration) :
    (document.fieldDeclared? place declaration).map Field.flags =
      if lines.countP (·.isEntity config) = place + 1 then
        declaration.fieldFlags? (policyAfter config lines)
      else
        none := by
  cases declaration with
  | ofField field =>
    simp only [fieldDeclared?, h.current_iff]
    split
    · next hcount =>
      obtain ⟨entity, hat⟩ : ∃ entity, document.schema.entityAt? place = some entity :=
        ⟨_, List.getElem?_eq_getElem (by rw [h.length_eq, hcount]; exact Nat.lt_succ_self place)⟩
      rw [hat, ← h.policy_eq]
      rfl
    · rfl
  | _ => simp [fieldDeclared?, Declaration.fieldFlags?]

/-- **One more line.** The line says what it declares, the declaration says what it changes, and
each clause of the invariant follows from one of the lemmas above. -/
theorem Follows.concat (h : document.Follows config lines)
    (hread : document.readLine line = .ok after) : after.Follows config (lines ++ [line]) := by
  obtain ⟨declared, hdeclared, hafter⟩ := bind_eq_ok.1 hread
  cases declared with
  | none => cases hafter
  | some declaration =>
    have hdeclares := Line.declares_of_declarationOf hdeclared
    rw [h.config_eq] at hdeclares
    have hentities := entities_declare hafter
    have hcount : (lines ++ [line]).countP (·.isEntity config) =
        lines.countP (·.isEntity config) + if declaration.isEntity then 1 else 0 := by
      rw [List.countP_append, List.countP_singleton, hdeclares.isEntity]
    refine ⟨(config_declare hafter).trans h.config_eq, ?policy, ?length, ?current, ?flags⟩
    case policy =>
      rw [policyAfter_concat, hdeclares.policyTags, ← h.policy_eq]
      exact policy_declare hafter
    case length =>
      rw [hcount, ← h.length_eq]
      split at hentities
      · next hentity => rw [hentities.1, if_pos hentity]
      · next hentity => rw [hentities.1, if_neg hentity, Nat.add_zero]
    case current =>
      intro place
      rw [hcount]
      split at hentities
      · next hentity =>
        rw [hentities.2, h.length_eq, if_pos hentity, Option.some.injEq, Nat.add_right_cancel_iff]
      · next hentity => rw [hentities.2, if_neg hentity, Nat.add_zero, h.current_iff]
    case flags =>
      intro place
      rw [fieldsAt_declare place hafter, List.map_append, h.flags_eq, fieldFlags_concat,
        hdeclares.fieldFlags, ← h.map_fieldDeclared? place, Option.toList_map]

/-- **A document is as its lines say.** -/
theorem follows_of_readText {text : String} (h : readText config text = .ok document) :
    document.Follows config (Lines.ofText text).lines :=
  foldlM_induction_done (P := fun lines document => document.Follows config lines)
    (follows_start config) (fun _ _ _ _ _ hbefore hread => hbefore.concat hread)
    (foldlM_of_readText h)

end Document

/-! ## Implied fields -/

namespace Schema

variable {schema after : Schema} {policy : Policy}

/-- Every implied field but a primary key has the flags of the policy. The policy of the schema is
part of it, since the fields that are added later take it from there. -/
structure ImpliedUnder (schema : Schema) (policy : Policy) : Prop where
  policy_eq : schema.policy = policy
  flags : ∀ entity ∈ schema.entities, ∀ field ∈ entity.fields, field.implied = true →
    field.primaryKey = false → field.flags = ⟨field.name, policy.nullable, policy.guarded⟩

namespace ImpliedUnder

/-- A change that adds only such fields keeps it so. -/
theorem modifyEntity (h : schema.ImpliedUnder policy) (index : Nat) {change : Entity → Entity}
    (hchange : ∀ entity : Entity, ∀ field ∈ (change entity).fields, field ∈ entity.fields ∨
      field.primaryKey = true ∨ field.flags = ⟨field.name, policy.nullable, policy.guarded⟩) :
    (schema.modifyEntity index change).ImpliedUnder policy := by
  refine ⟨h.policy_eq, ?_⟩
  intro entity hentity field hfield himplied hkey
  rcases mem_entities_of_modifyEntity hentity with hold | ⟨before, hbefore, rfl⟩
  · exact h.flags entity hold field hfield himplied hkey
  · rcases hchange before field hfield with hold | hprimary | hflags
    · exact h.flags before hbefore field hold himplied hkey
    · rw [hkey] at hprimary
      cases hprimary
    · exact hflags

/-- A column takes the policy when it is added. -/
theorem addImplied (h : schema.ImpliedUnder policy) (index : Nat) (name type : String) :
    (schema.addImplied index name type).ImpliedUnder policy := by
  refine h.modifyEntity index fun entity field hfield => ?_
  split at hfield
  · exact .inl hfield
  · rcases List.mem_append.1 hfield with hold | hnew
    · exact .inl hold
    · rw [List.mem_singleton.1 hnew, ← h.policy_eq]
      exact .inr (.inr rfl)

/-- The primary key is not meant by the clause on flags. -/
theorem addPrimaryKey (h : schema.ImpliedUnder policy) (index : Nat) :
    (schema.addPrimaryKey index).ImpliedUnder policy := by
  refine h.modifyEntity index fun entity field hfield => ?_
  split at hfield
  · rcases List.mem_cons.1 hfield with hnew | hold
    · rw [hnew]
      exact .inr (.inl rfl)
    · exact .inl hold
  · exact .inl hfield

end ImpliedUnder

/-! ## Documents -/

/-- The flags of the fields that lines declare in the entity at a place. -/
def declaredFlags (schema : Schema) (place : Nat) : List FieldFlags :=
  ((schema.fieldsAt place).filter (!·.implied)).map Field.flags

/-- Implying fields leaves those that are declared. -/
theorem Grows.declaredFlags_eq (h : schema.Grows after) (place : Nat) :
    after.declaredFlags place = schema.declaredFlags place := by
  rw [declaredFlags, declaredFlags]
  cases hat : after.entityAt? place with
  | none =>
    have hnone : schema.entityAt? place = none := by
      rw [entityAt?, List.getElem?_eq_none_iff] at hat ⊢
      rwa [← h.length_eq]
    rw [fieldsAt, fieldsAt, hat, hnone]
  | some entity =>
    obtain ⟨before, hbefore, hgrows⟩ := h.exists_entityAt?_before hat
    rw [fieldsAt_of_entityAt? hat, fieldsAt_of_entityAt? hbefore]
    exact congrArg _ hgrows.declared_eq

variable {config : Config} {text : String}

/-- The fields that are declared have the flags of their lines. They are told from the implied ones
by their mark, and implying fields leaves them. -/
theorem declaredFlags_of_parse (hparse : parse config text = .ok schema) (place : Nat) :
    schema.declaredFlags place = fieldFlags config place (Lines.ofText text).lines := by
  obtain ⟨document, hread, himplied⟩ := parse_eq_ok.1 hparse
  rw [(grows_addImpliedFields himplied).declaredFlags_eq, declaredFlags,
    Document.filter_fieldsAt place hread, (Document.follows_of_readText hread).flags_eq]

/-- **A field has the flags of its line and of the `default` lines above it.** A tag on the line of
a field decides whether it may be null, or is guarded, and else the policy does that is in force
there. A field that is implied takes the policy at the end of the document. So the flags of the
fields that are declared above stay, whatever lines follow. -/
theorem flags_of_parse (hparse : parse config text = .ok schema) :
    (∀ place,
      schema.declaredFlags place = fieldFlags config place (Lines.ofText text).lines) ∧
    (∀ entity ∈ schema.entities, ∀ field ∈ entity.fields,
      field.implied = true → field.primaryKey = false →
      field.flags = ⟨field.name, (policyAfter config (Lines.ofText text).lines).nullable,
        (policyAfter config (Lines.ofText text).lines).guarded⟩) ∧
    ∀ above below other changed, text = above ++ "\n" ++ below →
      parse config (above ++ "\n" ++ other) = .ok changed → ∀ place,
      fieldFlags config place (Lines.ofText above).lines <+: schema.declaredFlags place ∧
        fieldFlags config place (Lines.ofText above).lines <+: changed.declaredFlags place := by
  refine ⟨declaredFlags_of_parse hparse, ?_, ?_⟩
  · obtain ⟨document, hread, himplied⟩ := parse_eq_ok.1 hparse
    have hfollows := Document.follows_of_readText hread
    rw [← hfollows.policy_eq]
    have hdocument : document.schema.ImpliedUnder document.schema.policy := by
      refine ⟨rfl, fun entity hentity field hfield hisImplied => ?_⟩
      obtain ⟨place, hat⟩ := exists_entityAt?_of_mem hentity
      rw [← fieldsAt_of_entityAt? hat] at hfield
      rw [Document.implied_of_mem_fieldsAt place hread field hfield] at hisImplied
      cases hisImplied
    exact (addImpliedFields_induction
      (P := fun reached => reached.ImpliedUnder document.schema.policy)
      (fun _ _ _ _ hreached => hreached.addImplied _ _ _)
      (fun _ _ hreached => hreached.addPrimaryKey _) hdocument himplied).flags
  · rintro above below other changed rfl hchanged place
    rw [declaredFlags_of_parse hparse, declaredFlags_of_parse hchanged]
    exact ⟨isPrefix_fieldFlags config place (Lines.lines_prefix_extended above below),
      isPrefix_fieldFlags config place (Lines.lines_prefix_extended above other)⟩

/-- The first lines of a document. -/
def staffStart : String := "User1 (users)\n  name: string"

/-- Lines that go on with it. One policy stands between two fields, and one at the end. -/
def staffRest : String :=
  "default not null, guarded\n  age: integer\n  email: string NotNull, Null\n" ++
    "  boss1() via boss_id: Boss1\ndefault unguarded\nBoss1 (bosses)"

/-- The lines of the document. -/
def staffLines : List Line :=
  [⟨1, "User1 (users)", true⟩, ⟨2, "name: string", false⟩, ⟨3, "default not null, guarded", true⟩,
    ⟨4, "age: integer", false⟩, ⟨5, "email: string NotNull, Null", false⟩,
    ⟨6, "boss1() via boss_id: Boss1", false⟩, ⟨7, "default unguarded", true⟩,
    ⟨8, "Boss1 (bosses)", true⟩]

/-- The column that the method implies. -/
def bossId : Field where
  name := "boss_id"
  type := "integer"
  owner? := some 0
  implied := true
  policy := ⟨false, false⟩

/-- The implied primary key of an entity. -/
def staffKey (place : Nat) : Field where
  name := "id"
  type := "increments"
  owner? := some place
  nullable := some false
  primaryKey := true
  implied := true
  policy := ⟨false, false⟩

/-- The users at the end. -/
def staffUser : Entity where
  shortName := "User1"
  namespaceName := "\\App\\"
  table := "users"
  index? := some 0
  fields := [
    staffKey 0,
    { name := "name", type := "string", owner? := some 0 },
    { name := "age", type := "integer", owner? := some 0, policy := ⟨false, true⟩ },
    { name := "email", type := "string", owner? := some 0, nullable := some true,
      policy := ⟨false, true⟩ },
    bossId]
  methods := [
    { name := "boss1", owner? := some 0, declaredType := some "Boss1", via := some "boss_id" }]

/-- What the document says. -/
def staff : Schema where
  entities := [
    staffUser,
    { shortName := "Boss1", namespaceName := "\\App\\", table := "bosses", index? := some 1
      fields := [staffKey 1] }]
  namespaces := OrderedMap.insert ∅ "\\App\\" "app/"
  policy := ⟨false, false⟩

/-- The name has the policy of the start, the age that of the line between, and the implied column
that of the end. Whatever follows the first lines, the name keeps its flags. -/
theorem flags_of_parse_staff :
    parse {} (staffStart ++ "\n" ++ staffRest) = .ok staff ∧
      staff.declaredFlags 0 = [⟨"name", true, false⟩, ⟨"age", false, true⟩, ⟨"email", true, true⟩] ∧
      bossId.flags = ⟨"boss_id", false, false⟩ ∧
      ∀ other changed, parse {} (staffStart ++ "\n" ++ other) = .ok changed →
        [⟨"name", true, false⟩] <+: changed.declaredFlags 0 := by
  have htext : Lines.ofText (staffStart ++ "\n" ++ staffRest) = ⟨staffLines, none⟩ := by
    decide +kernel
  have hparse : parse {} (staffStart ++ "\n" ++ staffRest) = .ok staff := by
    rw [parse, Document.readText, htext]
    exact eq_ok_of_toOption (by decide +kernel)
  have hlines : fieldFlags {} 0 staffLines =
      [⟨"name", true, false⟩, ⟨"age", false, true⟩, ⟨"email", true, true⟩] := by decide +kernel
  have hpolicy : policyAfter {} staffLines = ⟨false, false⟩ := by decide +kernel
  have habove : fieldFlags {} 0 (Lines.ofText staffStart).lines = [⟨"name", true, false⟩] := by
    decide +kernel
  obtain ⟨hdeclared, himplied, hstable⟩ := flags_of_parse hparse
  rw [htext] at hdeclared himplied
  have hboss := himplied staffUser List.mem_cons_self bossId (by decide) rfl rfl
  rw [hpolicy] at hboss
  refine ⟨hparse, (hdeclared 0).trans hlines, hboss, fun other changed hchanged => ?_⟩
  rw [← habove]
  exact (hstable staffStart staffRest other changed rfl hchanged 0).2

end Schema

end EntitySchema
