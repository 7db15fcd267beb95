/-
Snake and studly case undo each other.

A snake name is made of segments with single underscores between them, each of them a small letter
with small letters and digits behind it. A studly name is made of the same segments with a capital
each and nothing between them (`Naming.exists_segments`). Snake case turns the second form into the
first (`Naming.snakeAfter_flatMap`) and studly case the first into the second
(`Naming.studlyAfter_intercalate`), so each kind of name is mapped to the other and back.

No segment starts with a digit. A digit has no capital, so in a studly name it goes on with the
segment in front of it: `a_1b` would come back as `a1b`, and such a name is no snake name here. Nor
may two underscores follow each other or stand at an end, since studly case drops them all. These
two conditions are all that is asked, and every studly name meets them after snake case.

Both mappings read a name from left to right with a little memory: the last character in one case,
whether a word starts in the other. The lemmas about segments say what the memory is at their ends.
Behind a segment it is some letter or digit, no matter which, and that is why a segment can be
passed as a whole.

Names with other characters than those of ASCII are left out. The mappings follow the tables of all
scripts, in which a capital may have several letters or none of its own.
-/
import EntitySchema.Proofs.Naming.Studly

set_option autoImplicit false

namespace EntitySchema

/-! ## Small letters and digits -/

namespace Text

variable {c : Char}

/-- Whether a character is a small letter or a digit of ASCII. -/
def isSmall (c : Char) : Bool := c.isLower || c.isDigit

/-- Small letters and digits are letters and digits. -/
theorem isAlphanumeric_of_isSmall (h : isSmall c = true) : isAlphanumeric c = true := by
  rcases Bool.or_eq_true_iff.1 h with hlower | hdigit
  · exact Bool.or_eq_true_iff.2 (.inl (Bool.or_eq_true_iff.2 (.inr hlower)))
  · exact Bool.or_eq_true_iff.2 (.inr hdigit)

theorem isAlphanumeric_of_isUpper (h : c.isUpper = true) : isAlphanumeric c = true :=
  Bool.or_eq_true_iff.2 (.inl (Bool.or_eq_true_iff.2 (.inl h)))

/-- What is small starts no word. -/
theorem isUpper_of_isSmall (h : isSmall c = true) : isUpper c = false :=
  forall_ascii (P := fun c => isSmall c = true → isUpper c = false) (by decide +kernel)
    (toNat_lt_of_isNameChar (isNameChar_of_isAlphanumeric (isAlphanumeric_of_isSmall h))) h

/-- Small letters and digits are their own lower case and separate no words. -/
theorem lowerChar_of_isSmall (h : isSmall c = true) :
    lowerChar c = [c] ∧ Naming.isSeparator c = false :=
  lowerChar_of_not_isUpper (isAlphanumeric_of_isSmall h) (isUpper_of_isSmall h)

/-- A letter or digit that is no capital is small. -/
theorem isSmall_of_not_isUpper (h : isAlphanumeric c = true) (hupper : isUpper c = false) :
    isSmall c = true :=
  forall_ascii (P := fun c => isAlphanumeric c = true → isUpper c = false → isSmall c = true)
    (by decide +kernel) (toNat_lt_of_isNameChar (isNameChar_of_isAlphanumeric h)) h hupper

/-- A small letter has a capital, and it is the lower case of that capital. -/
theorem exists_upperChar (h : c.isLower = true) :
    ∃ d, upperChar c = [d] ∧ lowerChar d = [c] ∧ d.isUpper = true := by
  have hsmall : isSmall c = true := Bool.or_eq_true_iff.2 (.inl h)
  have hascii := toNat_lt_of_isNameChar
    (isNameChar_of_isAlphanumeric (isAlphanumeric_of_isSmall hsmall))
  have hcase : upperChar c = [(upperChar c).headD c] ∧ lowerChar ((upperChar c).headD c) = [c] ∧
      ((upperChar c).headD c).isUpper = true :=
    forall_ascii (P := fun c => c.isLower = true →
        upperChar c = [(upperChar c).headD c] ∧ lowerChar ((upperChar c).headD c) = [c] ∧
          ((upperChar c).headD c).isUpper = true)
      (by decide +kernel) hascii h
  exact ⟨_, hcase⟩

end Text

/-! ## Segments -/

/-- A part of a snake name: a small letter, and behind it small letters and digits. -/
structure IsSegment (segment : List Char) : Prop where
  letter : ∃ c ∈ segment.head?, c.isLower = true
  small : ∀ c ∈ segment, Text.isSmall c = true

/-- Segments with single underscores between them. -/
def IsSnake (name : String) : Prop :=
  ∃ segments, segments ≠ [] ∧ (∀ segment ∈ segments, IsSegment segment) ∧
    name.toList = ['_'].intercalate segments

instance (segment : List Char) : Decidable (IsSegment segment) :=
  decidable_of_iff (segment.head?.any Char.isLower = true ∧ segment.all Text.isSmall = true)
    ⟨fun h => ⟨(Option.any_eq_true _ _).1 h.1, List.all_eq_true.1 h.2⟩,
      fun h => ⟨(Option.any_eq_true _ _).2 h.letter, List.all_eq_true.2 h.small⟩⟩

/-- A segment with a capital. -/
def capitalized : List Char → List Char
  | [] => []
  | c :: rest => Text.upperChar c ++ rest

/-- A segment starts with a small letter, which its capital stands for in a studly name. The rest of
it is the same in both forms. -/
theorem IsSegment.exists_capital {segment : List Char} (h : IsSegment segment) :
    ∃ letter capital rest, segment = letter :: rest ∧ capitalized segment = capital :: rest ∧
      Text.lowerChar capital = [letter] ∧ capital.isUpper = true ∧
      ∀ c ∈ rest, Text.isSmall c = true := by
  obtain ⟨letter, hletter, hlower⟩ := h.letter
  obtain ⟨rest, rfl⟩ := List.head?_eq_some_iff.1 hletter
  obtain ⟨capital, hcapital, hback, hupper⟩ := Text.exists_upperChar hlower
  refine ⟨letter, capital, rest, rfl, ?_, hback, hupper, ?_⟩
  · rw [capitalized, hcapital, List.singleton_append]
  · exact fun c hc => h.small c (List.mem_cons_of_mem letter hc)

namespace Naming

open Text

variable {cs segment : List Char} {segments : List (List Char)}

/-- A capital makes a segment of what may stand behind it. This is how segments are found in a
studly name, from its end. -/
theorem exists_segment {c : Char} (hc : isAlphanumeric c = true) (hupper : isUpper c = true)
    (hcs : ∀ d ∈ cs, isSmall d = true) :
    ∃ segment, IsSegment segment ∧ capitalized segment = c :: cs := by
  obtain ⟨letter, -, hcapital, hlower, -⟩ := exists_lowerChar hc hupper
  have hsmall : isSmall letter = true := Bool.or_eq_true_iff.2 (.inl hlower)
  refine ⟨letter :: cs, ⟨⟨letter, rfl, hlower⟩, List.forall_mem_cons.2 ⟨hsmall, hcs⟩⟩, ?_⟩
  rw [capitalized, hcapital, List.singleton_append]

/-! ## From snake to studly -/

/-- Inside a word nothing is capitalized, by induction on the characters of the word. -/
theorem studlyAfter_append (h : ∀ c ∈ cs, isSmall c = true) (rest : List Char) :
    studlyAfter false (cs ++ rest) = cs ++ studlyAfter false rest := by
  induction cs with
  | nil => rfl
  | cons c cs ih =>
    have hrest := ih fun d hd => h d (List.mem_cons_of_mem c hd)
    obtain ⟨-, hseparator⟩ := lowerChar_of_isSmall (h c List.mem_cons_self)
    rw [List.cons_append, studlyAfter, hseparator, if_neg Bool.false_ne_true,
      if_neg Bool.false_ne_true, hrest, List.singleton_append, List.cons_append]

/-- A segment is capitalized, and behind it no word starts until an underscore comes. -/
theorem studlyAfter_segment (h : IsSegment segment) (rest : List Char) :
    studlyAfter true (segment ++ rest) = capitalized segment ++ studlyAfter false rest := by
  obtain ⟨letter, hletter, -⟩ := h.letter
  obtain ⟨tail, rfl⟩ := List.head?_eq_some_iff.1 hletter
  obtain ⟨-, hseparator⟩ := lowerChar_of_isSmall (h.small letter List.mem_cons_self)
  rw [List.cons_append, studlyAfter, hseparator, if_neg Bool.false_ne_true, if_pos rfl,
    studlyAfter_append fun c hc => h.small c (List.mem_cons_of_mem letter hc), capitalized,
    List.append_assoc]

/-- **Studly case capitalizes the segments** and drops the underscores. By induction on the
segments; each underscore puts the mapping back into the state that it starts in. -/
theorem studlyAfter_intercalate (h : ∀ segment ∈ segments, IsSegment segment) :
    studlyAfter true (['_'].intercalate segments) = segments.flatMap capitalized := by
  induction segments with
  | nil => rfl
  | cons segment segments ih =>
    have hsegment := h segment List.mem_cons_self
    have hrest := ih fun other hother => h other (List.mem_cons_of_mem segment hother)
    cases segments with
    | nil =>
      have hsingle := studlyAfter_segment hsegment []
      rw [List.append_nil] at hsingle
      rw [List.intercalate_singleton, hsingle]
      rfl
    | cons next segments =>
      rw [List.intercalate_cons_cons, List.append_assoc, studlyAfter_segment hsegment,
        List.singleton_append, studlyAfter, if_pos (by decide), hrest]
      rfl

/-! ## From studly to snake -/

/-- Segments are joined by an underscore in front of each of them but the first. It is the form in
which snake case puts them, one in front of every capital. -/
theorem intercalate_cons (segment : List Char) (segments : List (List Char)) :
    ['_'].intercalate (segment :: segments) = segment ++ segments.flatMap ('_' :: ·) := by
  induction segments generalizing segment with
  | nil => rw [List.intercalate_singleton, List.flatMap_nil, List.append_nil]
  | cons next segments ih =>
    rw [List.intercalate_cons_cons, ih, List.append_assoc, List.flatMap_cons]
    rfl

/-- Inside a word small letters and digits stay. What follows is asked for behind any letter or
digit, since it is the last character of the word that stands in front of it. -/
theorem snakeAfter_append {rest after : List Char} {previous : Char}
    (hprevious : isAlphanumeric previous = true) (hcs : ∀ c ∈ cs, isSmall c = true)
    (hrest : ∀ c, isAlphanumeric c = true → snakeAfter (some c) rest = after) :
    snakeAfter (some previous) (cs ++ rest) = cs ++ after := by
  induction cs generalizing previous with
  | nil => exact hrest previous hprevious
  | cons c cs ih =>
    have hc := hcs c List.mem_cons_self
    have hafter := ih (isAlphanumeric_of_isSmall hc) fun d hd => hcs d (List.mem_cons_of_mem c hd)
    obtain ⟨hlower, -⟩ := lowerChar_of_isSmall hc
    rw [List.cons_append, snakeAfter_cons hprevious, isUpper_of_isSmall hc,
      if_neg Bool.false_ne_true, hlower, hafter, List.nil_append, List.singleton_append,
      List.cons_append]

/-- Behind a letter or digit an underscore is put in front of every capital. By induction on the
segments. -/
theorem snakeAfter_some_flatMap (h : ∀ segment ∈ segments, IsSegment segment) {previous : Char}
    (hprevious : isAlphanumeric previous = true) :
    snakeAfter (some previous) (segments.flatMap capitalized) = segments.flatMap ('_' :: ·) := by
  induction segments generalizing previous with
  | nil => rfl
  | cons segment segments ih =>
    obtain ⟨letter, capital, rest, rfl, hcapital, hlower, hupper, hrest⟩ :=
      (h segment List.mem_cons_self).exists_capital
    have hothers := fun c (hc : isAlphanumeric c = true) =>
      ih (fun other hother => h other (List.mem_cons_of_mem _ hother)) hc
    rw [List.flatMap_cons, hcapital, List.cons_append, snakeAfter_cons hprevious,
      isUpper_of_isUpper hupper, if_pos rfl, hlower,
      snakeAfter_append (isAlphanumeric_of_isUpper hupper) hrest hothers, List.flatMap_cons]
    rfl

/-- **Snake case joins the segments** with underscores and takes their capitals away. At the start
there is nothing in front of the first capital, and no underscore is put there. -/
theorem snakeAfter_flatMap (h : ∀ segment ∈ segments, IsSegment segment) :
    snakeAfter none (segments.flatMap capitalized) = ['_'].intercalate segments := by
  cases segments with
  | nil => rfl
  | cons segment segments =>
    obtain ⟨letter, capital, rest, rfl, hcapital, hlower, hupper, hrest⟩ :=
      (h segment List.mem_cons_self).exists_capital
    have hothers := fun c (hc : isAlphanumeric c = true) =>
      snakeAfter_some_flatMap (fun other hother => h other (List.mem_cons_of_mem _ hother)) hc
    rw [List.flatMap_cons, hcapital, List.cons_append, snakeAfter_none, hlower,
      snakeAfter_append (isAlphanumeric_of_isUpper hupper) hrest hothers, intercalate_cons,
      List.singleton_append, List.cons_append]

/-! ## The segments of a studly name -/

/-- Letters and digits are segments with capitals, and in front of them what is not capitalized. The
induction is on the characters, and what is not capitalized yet becomes a segment as soon as a
capital is put in front of it. -/
theorem exists_segments (h : ∀ c ∈ cs, isAlphanumeric c = true) :
    ∃ (rest : List Char) (segments : List (List Char)), (∀ c ∈ rest, isSmall c = true) ∧
      (∀ segment ∈ segments, IsSegment segment) ∧ cs = rest ++ segments.flatMap capitalized := by
  induction cs with
  | nil => exact ⟨[], [], List.forall_mem_nil _, List.forall_mem_nil _, rfl⟩
  | cons c cs ih =>
    have hc := h c List.mem_cons_self
    obtain ⟨rest, segments, hrest, hsegments, rfl⟩ :=
      ih fun d hd => h d (List.mem_cons_of_mem c hd)
    cases hupper : isUpper c with
    | true =>
      -- a capital makes a segment of what was not capitalized so far
      obtain ⟨segment, hsegment, hcapital⟩ := exists_segment hc hupper hrest
      refine ⟨[], segment :: segments, List.forall_mem_nil _,
        List.forall_mem_cons.2 ⟨hsegment, hsegments⟩, ?_⟩
      rw [List.flatMap_cons, hcapital, List.nil_append, List.cons_append]
    | false =>
      exact ⟨c :: rest, segments, List.forall_mem_cons.2 ⟨isSmall_of_not_isUpper hc hupper, hrest⟩,
        hsegments, rfl⟩

end Naming

/-- **A studly name is segments with a capital each.** It starts with a capital, so nothing stands
in front of the first segment. -/
theorem IsStudly.exists_segments {name : String} (h : IsStudly name) :
    ∃ segments, segments ≠ [] ∧ (∀ segment ∈ segments, IsSegment segment) ∧
      name.toList = segments.flatMap capitalized := by
  obtain ⟨c, hc, hupper⟩ := h.capital
  obtain ⟨cs, hname⟩ := List.head?_eq_some_iff.1 hc
  have hall := h.alphanumeric
  rw [hname] at hall
  obtain ⟨rest, segments, hrest, hsegments, rfl⟩ :=
    Naming.exists_segments fun d hd => hall d (List.mem_cons_of_mem c hd)
  obtain ⟨segment, hsegment, hcapital⟩ := Naming.exists_segment (hall c List.mem_cons_self)
    (Text.isUpper_of_isUpper hupper) hrest
  refine ⟨segment :: segments, List.cons_ne_nil _ _,
    List.forall_mem_cons.2 ⟨hsegment, hsegments⟩, ?_⟩
  rw [hname, List.flatMap_cons, hcapital, List.cons_append]

/-- Segments with a capital each are a studly name. -/
theorem isStudly_flatMap {name : String} {segments : List (List Char)} (hnonempty : segments ≠ [])
    (h : ∀ segment ∈ segments, IsSegment segment)
    (hname : name.toList = segments.flatMap capitalized) : IsStudly name := by
  constructor
  case capital =>
    obtain ⟨segment, segments, rfl⟩ := List.exists_cons_of_ne_nil hnonempty
    obtain ⟨letter, capital, rest, -, hcapital, -, hupper, -⟩ :=
      (h segment List.mem_cons_self).exists_capital
    refine ⟨capital, ?_, hupper⟩
    rw [hname, List.flatMap_cons, hcapital, List.cons_append, List.head?_cons]
    rfl
  case alphanumeric =>
    intro c hc
    rw [hname] at hc
    obtain ⟨segment, hsegment, hc⟩ := List.mem_flatMap.1 hc
    obtain ⟨letter, capital, rest, -, hcapital, -, hupper, hrest⟩ :=
      (h segment hsegment).exists_capital
    rw [hcapital] at hc
    rcases List.mem_cons.1 hc with rfl | hc
    · exact Text.isAlphanumeric_of_isUpper hupper
    · exact Text.isAlphanumeric_of_isSmall (hrest c hc)

/-! ## There and back -/

/-- **Snake and studly case undo each other.** The snake case of a studly name is a snake name whose
studly case is that name again, and the studly case of a snake name is a studly name whose snake
case is that name again. So the two are bijections between the names of tables, columns and methods
and the names of entities, as far as these are of the two shapes. -/
theorem snake_studly_inverse :
    (∀ name, IsStudly name → IsSnake (snake name) ∧ studly (snake name) = name) ∧
      ∀ name, IsSnake name → IsStudly (studly name) ∧ snake (studly name) = name := by
  constructor
  · intro name h
    obtain ⟨segments, hnonempty, hsegments, hname⟩ := h.exists_segments
    refine ⟨⟨segments, hnonempty, hsegments, ?_⟩, studly_snake h⟩
    rw [snake, String.toList_ofList, hname, Naming.snakeAfter_flatMap hsegments]
  · rintro name ⟨segments, hnonempty, hsegments, hname⟩
    have hstudly : (studly name).toList = segments.flatMap capitalized := by
      rw [studly, String.toList_ofList, hname, Naming.studlyAfter_intercalate hsegments]
    refine ⟨isStudly_flatMap hnonempty hsegments hstudly, ?_⟩
    rw [snake, hstudly, Naming.snakeAfter_flatMap hsegments, ← hname, String.ofList_toList]

/-- Segments of one letter, a run of capitals, and digits inside and at the end. -/
theorem snake_studly_inverse_letters :
    IsStudly "ABc1D23" ∧ snake "ABc1D23" = "a_bc1_d23" ∧ studly (snake "ABc1D23") = "ABc1D23" ∧
      IsSnake "x_y2_z" ∧ studly "x_y2_z" = "XY2Z" ∧ snake (studly "x_y2_z") = "x_y2_z" := by
  have hstudly : IsStudly "ABc1D23" := by decide
  have hsnake : IsSnake "x_y2_z" :=
    ⟨["x".toList, "y2".toList, "z".toList], by decide, by decide, by decide⟩
  obtain ⟨hto, hfrom⟩ := snake_studly_inverse
  exact ⟨hstudly, by decide +kernel, (hto _ hstudly).2, hsnake, by decide +kernel,
    (hfrom _ hsnake).2⟩

end EntitySchema
