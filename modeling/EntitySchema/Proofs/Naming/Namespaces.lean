/-
Directories of namespaces.

A namespace line may leave its path out. The directory is then made from the name: what the name has
behind the default namespace is put behind the directory of the default namespace, segment by
segment. `NamespaceLine.path_derived_iff` says when this directory lies in the one that is
registered for the default namespace, and the answer is not "always".

The reason is an order of two steps. The registered path has lost the slashes at its ends and has
got one back; the derived one is put together from the path as it is configured, and only then loses
and gets its slashes. So the slashes between the two parts are those of the configuration, which may
be none or many, and those that a last segment ends in are lost. `Naming.strip_append_eq_iff` is
this argument for a path and any text that is put behind it.

That lemma compares two texts that are made of the same parts, a core without the character at its
ends and runs of the character around it. The runs are taken apart by their lengths, and the texts
agree exactly if the run between the two parts and the run at the end are both of length one. An
equation between a path and a number of slashes is all that is left of the question then.

What lies below what is said in segments. A name is below the default namespace if it is that
namespace with segments behind it, and a path is below another one if it is that path with segments
behind it; `marked` writes both, with a backslash or a slash behind each segment. The segments may
be empty, or hold slashes themselves, since nothing in a namespace line excludes it.

The path of the default namespace has to hold something besides slashes. Without it there is no
directory to speak of, and a derived path would start with a segment.
-/
import EntitySchema.Document
import EntitySchema.Proofs.Outcome
import Mathlib.Data.List.Basic
import Mathlib.Data.List.Induction

set_option autoImplicit false

namespace EntitySchema

/-! ## Dropping a character at both ends -/

namespace Naming

variable {c : Char} {cs core rest : List Char}

/-- A text is what is left at its start, and behind that one character any number of times. -/
theorem exists_eq_append_replicate (c : Char) (cs : List Char) :
    ∃ front count, cs = front ++ List.replicate count c ∧ front.getLast? ≠ some c := by
  induction cs using List.reverseRecOn with
  | nil => exact ⟨[], 0, rfl, by simp⟩
  | append_singleton cs d ih =>
    by_cases hd : d = c
    · obtain ⟨front, count, rfl, hlast⟩ := ih
      refine ⟨front, count + 1, ?_, hlast⟩
      rw [hd, List.append_assoc, List.replicate_succ']
    · refine ⟨cs ++ [d], 0, (List.append_nil _).symm, ?_⟩
      rw [List.getLast?_concat]
      exact fun heq => hd (Option.some.inj heq)

/-- A run at the start is dropped, whatever stands behind it. -/
theorem dropWhile_replicate_append (count : Nat) (cs : List Char) :
    (List.replicate count c ++ cs).dropWhile (· == c) = cs.dropWhile (· == c) := by
  refine List.dropWhile_append_of_pos fun d hd => ?_
  rw [List.eq_of_mem_replicate hd]
  exact beq_self_eq_true c

/-- Without the character at the start nothing is dropped. -/
theorem dropWhile_eq_self (h : cs.head? ≠ some c) : cs.dropWhile (· == c) = cs := by
  cases cs with
  | nil => rfl
  | cons d cs =>
    refine List.dropWhile_cons_of_neg ?_
    rw [beq_iff_eq]
    exact fun heq => h (congrArg some heq)

/-- What stands between two runs of a character is what is left. It may hold the character
inside. -/
theorem strip_between (hfirst : core.head? ≠ some c) (hlast : core.getLast? ≠ some c)
    (hcore : core ≠ []) (front back : Nat) :
    strip c (List.replicate front c ++ (core ++ List.replicate back c)) = core := by
  have hstart : (core ++ List.replicate back c).head? ≠ some c := by
    rwa [List.head?_append_of_ne_nil _ hcore]
  have hend : core.reverse.head? ≠ some c := by rwa [List.head?_reverse]
  rw [strip, dropWhile_replicate_append, dropWhile_eq_self hstart, List.reverse_append,
    List.reverse_replicate, dropWhile_replicate_append, dropWhile_eq_self hend,
    List.reverse_reverse]

/-- What is left stands between two runs of the character. Their lengths are what normalizing
forgets. -/
theorem exists_eq_strip (h : strip c cs ≠ []) :
    (∃ front back, cs = List.replicate front c ++ (strip c cs ++ List.replicate back c)) ∧
      (strip c cs).head? ≠ some c ∧ (strip c cs).getLast? ≠ some c := by
  obtain ⟨core, back, hcs, hlast⟩ := exists_eq_append_replicate c cs
  obtain ⟨inner, front, hcore, hfirst⟩ := exists_eq_append_replicate c core.reverse
  have hsplit : core = List.replicate front c ++ inner.reverse := by
    rw [← List.reverse_reverse core, hcore, List.reverse_append, List.reverse_replicate]
  have hhead : inner.reverse.head? ≠ some c := by rwa [List.head?_reverse]
  by_cases hinner : inner.reverse = []
  · -- then the text is one run, and nothing is left of it
    refine absurd ?_ h
    rw [strip, hcs, hsplit, hinner, List.append_nil, dropWhile_replicate_append,
      ← List.append_nil (List.replicate back c), dropWhile_replicate_append]
    rfl
  · have htail : inner.reverse.getLast? ≠ some c := by
      rwa [hsplit, List.getLast?_append_of_ne_nil _ hinner] at hlast
    have hstrip : strip c cs = inner.reverse := by
      rw [hcs, hsplit, List.append_assoc]
      exact strip_between hhead htail hinner front back
    rw [hstrip]
    exact ⟨⟨front, back, by rw [hcs, hsplit, List.append_assoc]⟩, hhead, htail⟩

/-- What is left does not start with the character, and by the next lemma it does not end with
it. -/
theorem head?_strip_ne (c : Char) (cs : List Char) : (strip c cs).head? ≠ some c := by
  by_cases h : strip c cs = []
  · rw [h]
    exact fun hc => nomatch hc
  · exact (exists_eq_strip h).2.1

theorem getLast?_strip_ne (c : Char) (cs : List Char) : (strip c cs).getLast? ≠ some c := by
  by_cases h : strip c cs = []
  · rw [h]
    exact fun hc => nomatch hc
  · exact (exists_eq_strip h).2.2

/-- A text that ends in a character exactly once, and holds something in front of it. -/
def EndsInOne (c : Char) (cs : List Char) : Prop :=
  ∃ front d, cs = front ++ [d, c] ∧ d ≠ c

/-- The number of times is read off the run at the end. -/
theorem endsInOne_append_replicate_iff (hcs : cs ≠ []) (hlast : cs.getLast? ≠ some c)
    (count : Nat) : EndsInOne c (cs ++ List.replicate count c) ↔ count = 1 := by
  constructor
  · rintro ⟨front, d, heq, hd⟩
    have heq' : cs ++ List.replicate count c = (front ++ [d]) ++ [c] := by rw [heq]; simp
    cases count with
    | zero =>
      rw [List.replicate_zero, List.append_nil] at heq'
      rw [heq', List.getLast?_concat] at hlast
      exact absurd rfl hlast
    | succ count =>
      rw [List.replicate_succ', ← List.append_assoc] at heq'
      have hfront := List.append_cancel_right heq'
      cases count with
      | zero => rfl
      | succ count =>
        -- the character in front of the last one would be `c` again
        have hlast' := congrArg List.getLast? hfront
        rw [List.replicate_succ', ← List.append_assoc, List.getLast?_concat,
          List.getLast?_concat] at hlast'
        exact absurd (Option.some.inj hlast').symm hd
  · rintro rfl
    obtain ⟨front, d, rfl⟩ := (List.eq_nil_or_concat cs).resolve_left hcs
    rw [List.concat_eq_append, List.getLast?_concat] at hlast
    exact ⟨front, d, by simp, fun heq => hlast (congrArg some heq)⟩

/-- A run can be moved from one end to the other, with one place gained, only if it is that one. The
lengths of both texts give the number, and the last characters the rest. -/
theorem replicate_append_eq_iff (hcs : cs ≠ []) (hlast : cs.getLast? ≠ some c) {back count : Nat}
    (hcount : count ≠ 0) :
    List.replicate back c ++ (cs ++ [c]) = c :: (cs ++ List.replicate count c) ↔
      back = 1 ∧ count = 1 := by
  constructor
  · intro heq
    -- the two sides are equally long, so the two runs are
    have hlength := congrArg List.length heq
    simp only [List.length_append, List.length_replicate, List.length_cons,
      List.length_nil] at hlength
    obtain rfl : back = count := by omega
    obtain ⟨more, rfl⟩ := Nat.exists_eq_succ_of_ne_zero hcount
    rw [List.replicate_succ, List.cons_append, List.cons.injEq, ← List.replicate_succ,
      List.replicate_succ', ← List.append_assoc, ← List.append_assoc] at heq
    have hshift := List.append_cancel_right heq.2
    cases more with
    | zero => exact ⟨rfl, rfl⟩
    | succ more =>
      have hend := congrArg List.getLast? hshift
      rw [List.getLast?_append_of_ne_nil _ hcs, List.replicate_succ', ← List.append_assoc,
        List.getLast?_concat] at hend
      exact absurd hend hlast
  · rintro ⟨rfl, rfl⟩
    rfl

/-- **Dropping before and after something is put behind.** The two agree if nothing is put behind,
or if both texts end in the character exactly once. What is put behind may be one run of the
character, and then it is lost altogether. -/
theorem strip_append_eq_iff (hcs : strip c cs ≠ []) (hrest : rest = [] ∨ rest.getLast? = some c) :
    strip c (cs ++ rest) ++ [c] = strip c cs ++ [c] ++ rest ↔
      rest = [] ∨ EndsInOne c cs ∧ EndsInOne c rest := by
  by_cases hnil : rest = []
  · subst hnil
    simp
  obtain ⟨⟨front, back, hsplit⟩, hfirst, hlast⟩ := exists_eq_strip hcs
  obtain ⟨inner, count, hinner, hend⟩ := exists_eq_append_replicate c rest
  generalize strip c cs = core at hcs hsplit hfirst hlast
  simp only [hnil, false_or]
  by_cases hempty : inner = []
  · -- what is put behind is one run, which is lost
    subst hempty
    rw [List.nil_append] at hinner
    have hstrip : strip c (cs ++ rest) = core := by
      rw [hsplit, hinner, List.append_assoc, List.append_assoc, List.replicate_append_replicate]
      exact strip_between hfirst hlast hcs front (back + count)
    constructor
    · intro heq
      rw [hstrip, List.self_eq_append_right] at heq
      exact absurd heq hnil
    · rintro ⟨-, init, d, heq, hd⟩
      have hmem : d ∈ List.replicate count c := by
        rw [← hinner, heq]
        simp
      exact absurd (List.eq_of_mem_replicate hmem) hd
  · have hcount : count ≠ 0 := by
      rintro rfl
      rw [List.replicate_zero, List.append_nil] at hinner
      exact hend (hinner ▸ hrest.resolve_left hnil)
    have hstrip : strip c (cs ++ rest) = core ++ (List.replicate back c ++ inner) := by
      have hfirst' : (core ++ (List.replicate back c ++ inner)).head? ≠ some c := by
        rwa [List.head?_append_of_ne_nil _ hcs]
      have hlast' : (core ++ (List.replicate back c ++ inner)).getLast? ≠ some c := by
        rwa [← List.append_assoc, List.getLast?_append_of_ne_nil _ hempty]
      rw [← strip_between hfirst' hlast' (by simp [hcs]) front count, hsplit, hinner]
      simp only [List.append_assoc]
    have hback : EndsInOne c cs ↔ back = 1 := by
      rw [hsplit, ← List.append_assoc]
      refine endsInOne_append_replicate_iff (by simp [hcs]) ?_ back
      rwa [List.getLast?_append_of_ne_nil _ hcs]
    have hone : EndsInOne c rest ↔ count = 1 := by
      rw [hinner]
      exact endsInOne_append_replicate_iff hempty hend count
    rw [hback, hone, ← replicate_append_eq_iff hempty hend hcount, hstrip, hinner]
    simp only [List.append_assoc, List.append_cancel_left_eq, List.singleton_append]

end Naming

/-! ## Segments -/

/-- Segments of a name or a path, each with a mark behind it. -/
def marked (mark : String) (segments : List String) : String :=
  String.join (segments.map (· ++ mark))

section Segments

variable {mark d : Char} {segments : List String} {front cs : List Char}

/-- The characters of segments that are marked. -/
theorem toList_marked (mark : Char) (segments : List String) :
    (marked (String.singleton mark) segments).toList =
      segments.flatMap fun segment => segment.toList ++ [mark] := by
  rw [marked, String.toList_join, List.flatMap_map]
  refine List.flatMap_congr fun segment _ => ?_
  rw [String.toList_append, String.toList_singleton]

/-- No piece holds the character at which a text was cut. -/
theorem Text.not_mem_of_mem_splitOn {piece : List Char} (h : piece ∈ splitOn mark cs) :
    mark ∉ piece := by
  induction cs generalizing piece with
  | nil =>
    rw [splitOn, List.mem_singleton] at h
    simp [h]
  | cons c cs ih =>
    obtain ⟨first, pieces, hpieces⟩ := List.exists_cons_of_ne_nil (splitOn_ne_nil mark cs)
    rw [splitOn, hpieces] at h
    rw [hpieces] at ih
    split at h
    · rcases List.mem_cons.1 h with rfl | h
      · exact List.not_mem_nil
      · exact ih h
    · next hne =>
      rcases List.mem_cons.1 h with rfl | h
      · rw [List.mem_cons, not_or]
        exact ⟨Ne.symm hne, ih List.mem_cons_self⟩
      · exact ih (List.mem_cons_of_mem _ h)

/-- A text that ends in a mark, cut at the marks: the pieces are its segments, and joining them
gives it back. -/
theorem exists_eq_flatMap (mark : Char) (cs : List Char) :
    ∃ segments : List String, (∀ segment ∈ segments, mark ∉ segment.toList) ∧
      cs ++ [mark] = segments.flatMap fun segment => segment.toList ++ [mark] := by
  have hjoined : ∀ pieces : List (List Char), pieces ≠ [] →
      (pieces.flatMap fun piece => piece ++ [mark]) = [mark].intercalate pieces ++ [mark] := by
    intro pieces hpieces
    induction pieces with
    | nil => exact absurd rfl hpieces
    | cons piece pieces ih =>
      cases pieces with
      | nil => simp
      | cons next pieces =>
        rw [List.flatMap_cons, ih (List.cons_ne_nil next pieces), List.intercalate_cons_cons]
        simp
  refine ⟨(Text.splitOn mark cs).map String.ofList, ?_, ?_⟩
  · intro segment hsegment
    obtain ⟨piece, hpiece, rfl⟩ := List.mem_map.1 hsegment
    rw [String.toList_ofList]
    exact Text.not_mem_of_mem_splitOn hpiece
  · simp only [List.flatMap_map, String.toList_ofList]
    rw [hjoined _ (Text.splitOn_ne_nil mark cs), Text.intercalate_splitOn]

/-- The character in front of the last mark is the last one of the last segment. How a derived path
ends is thereby said of the last segment of the name. -/
theorem exists_getLast?_of_flatMap
    (h : (segments.flatMap fun segment => segment.toList ++ [mark]) = front ++ [d, mark])
    (hd : d ≠ mark) : ∃ last, segments.getLast? = some last ∧ last.toList.getLast? = some d := by
  rcases List.eq_nil_or_concat segments with rfl | ⟨init, last, rfl⟩
  · simp at h
  rw [List.concat_eq_append] at h ⊢
  refine ⟨last, List.getLast?_concat, ?_⟩
  have hmarked : ((init.flatMap fun segment => segment.toList ++ [mark]) ++ last.toList) ++ [mark] =
      (front ++ [d]) ++ [mark] := by simpa using h
  have hfront := List.append_cancel_right hmarked
  have hend := congrArg List.getLast? hfront
  rw [List.getLast?_concat, List.getLast?_append] at hend
  cases hlast : last.toList.getLast? with
  | some e => rwa [hlast, Option.some_or] at hend
  | none =>
    -- an empty segment would leave the mark of the one before it
    rw [hlast, Option.none_or] at hend
    rcases List.eq_nil_or_concat init with rfl | ⟨others, other, rfl⟩
    · simp at hend
    · have hmark : mark = d := by simpa using hend
      exact absurd hmark.symm hd

end Segments

namespace Naming

/-- Whether a text ends in a character once is seen from the one in front of it. -/
theorem endsInOne_iff {c d : Char} {front : List Char} :
    EndsInOne c (front ++ [d, c]) ↔ d ≠ c := by
  constructor
  · rintro ⟨other, e, heq, he⟩
    have hlast := (List.append_inj' heq rfl).2
    rwa [(List.cons.inj hlast).1]
  · exact fun hd => ⟨front, d, rfl, hd⟩

end Naming

/-! ## Names below the default namespace -/

namespace NamespaceLine

variable {config : Config} {line name : String} {declared : NamespaceLine} {rest : List Char}

/-- The path that is registered for the default namespace when reading starts. -/
theorem pathOfNamespace_start (config : Config) :
    (Document.start config).schema.pathOfNamespace config.defaultNamespace =
      .ok (normalizePath config.defaultNamespacePath) := by
  rw [Schema.pathOfNamespace, Document.start, Schema.addNamespace, OrderedMap.get?_insert,
    if_pos rfl]

/-- The name is that of the default namespace with segments behind it, none of which is cut. -/
structure IsNamedBelow (config : Config) (declared : NamespaceLine) (segments : List String) :
    Prop where
  plain : ∀ segment ∈ segments, '\\' ∉ segment.toList
  name_eq : declared.name = normalizeNamespace config.defaultNamespace ++ marked "\\" segments

/-- The path is the one that is registered for the default namespace, with segments behind it. -/
def IsStoredBelow (config : Config) (declared : NamespaceLine) (segments : List String) : Prop :=
  ∃ registered,
    (Document.start config).schema.pathOfNamespace config.defaultNamespace = .ok registered ∧
      declared.path = registered ++ marked "/" segments

/-- The registered path is the normalized one, so being stored below it is an equation between
paths. -/
theorem isStoredBelow_iff {segments : List String} :
    IsStoredBelow config declared segments ↔
      declared.path = normalizePath config.defaultNamespacePath ++ marked "/" segments := by
  rw [IsStoredBelow, pathOfNamespace_start]
  constructor
  · rintro ⟨registered, hregistered, hpath⟩
    rw [hpath, Except.ok.inj hregistered]
  · exact fun hpath => ⟨_, rfl, hpath⟩

/-- What a name has behind the default namespace ends in exactly one backslash, if it is not empty.
Both names are normalized, so the last one is that of the whole name. -/
theorem eq_nil_or_endsInOne (h : Text.after? (normalizeNamespace config.defaultNamespace).toList
      (normalizeNamespace name).toList = some rest) :
    rest = [] ∨ ∃ front d, rest = front ++ [d, '\\'] ∧ d ≠ '\\' := by
  have htext := Text.eq_append_of_after? h
  simp only [normalizeNamespace, String.toList_ofList, List.cons_append, List.append_assoc,
    List.nil_append, List.cons.injEq, true_and] at htext
  have hlast := Naming.getLast?_strip_ne '\\' name.toList
  generalize Naming.strip '\\' name.toList = inner at htext hlast
  rcases List.eq_nil_or_concat rest with hnil | ⟨init, last, rfl⟩
  · exact .inl hnil
  refine .inr ?_
  rw [List.concat_eq_append] at htext ⊢
  rw [← List.cons_append, ← List.append_assoc] at htext
  obtain ⟨hinner, hmark⟩ := List.append_inj' htext rfl
  obtain rfl := List.cons.inj hmark |>.1
  -- the character in front of the last backslash is the last one of the stripped name
  rcases List.eq_nil_or_concat init with rfl | ⟨front, d, rfl⟩
  · rw [hinner, List.getLast?_concat] at hlast
    exact absurd rfl hlast
  · rw [List.concat_eq_append] at hinner ⊢
    refine ⟨front, d, by simp, ?_⟩
    rw [hinner, ← List.cons_append, ← List.append_assoc, List.getLast?_concat] at hlast
    exact fun heq => hlast (congrArg some heq)

/-- A backslash becomes a slash. There is none inside a segment, so it is the marks that change. -/
theorem map_slash_flatMap {segments : List String}
    (h : ∀ segment ∈ segments, '\\' ∉ segment.toList) :
    (segments.flatMap fun segment => segment.toList ++ ['\\']).map
        (fun c => if c = '\\' then '/' else c) =
      segments.flatMap fun segment => segment.toList ++ ['/'] := by
  rw [List.map_flatMap]
  refine List.flatMap_congr fun segment hsegment => ?_
  rw [List.map_append]
  refine congrArg (· ++ _) ((List.map_congr_left fun c hc => if_neg ?_).trans (List.map_id _))
  rintro rfl
  exact h segment hsegment hc

/-- The segments that a name has behind the default namespace, and how the last of them ends. -/
theorem exists_segments (h : rest = [] ∨ ∃ front d, rest = front ++ [d, '\\'] ∧ d ≠ '\\') :
    ∃ segments : List String, (∀ segment ∈ segments, '\\' ∉ segment.toList) ∧
      rest = (segments.flatMap fun segment => segment.toList ++ ['\\']) ∧
      (rest = [] ↔ segments = []) ∧
      (rest ≠ [] → (Naming.EndsInOne '/' (rest.map fun c => if c = '\\' then '/' else c) ↔
        ∀ last ∈ segments.getLast?, last.toList.getLast? ≠ some '/')) := by
  rcases h with rfl | ⟨front, d, rfl, hd⟩
  · exact ⟨[], by simp⟩
  obtain ⟨segments, hplain, hsegments⟩ := exists_eq_flatMap '\\' (front ++ [d])
  rw [List.append_assoc, List.singleton_append] at hsegments
  obtain ⟨last, hlast, hend⟩ := exists_getLast?_of_flatMap hsegments.symm hd
  refine ⟨segments, hplain, hsegments, ?_, fun _ => ?_⟩
  · have hne : segments ≠ [] := by
      rintro rfl
      cases hlast
    simp [hne]
  · rw [List.map_append, List.map_cons, List.map_singleton, if_neg hd, if_pos rfl,
      Naming.endsInOne_iff, hlast]
    simp [hend]

/-- What is read of a line without a path. It has been refused already if its name does not start
with the default namespace. -/
theorem exists_rest_of_read (hname : parts? line.toList = some (name, none))
    (hread : read config line = .ok (some declared)) :
    ∃ rest, Text.after? (normalizeNamespace config.defaultNamespace).toList
        (normalizeNamespace name).toList = some rest ∧
      declared.name = normalizeNamespace name ∧
      declared.path = normalizePath (config.defaultNamespacePath ++
        String.ofList (rest.map fun c => if c = '\\' then '/' else c)) := by
  rw [read, hname] at hread
  dsimp only [derivedPath?] at hread
  cases hafter : Text.after? (normalizeNamespace config.defaultNamespace).toList
      (normalizeNamespace name).toList with
  | none =>
    rw [hafter] at hread
    cases hread
  | some rest =>
    rw [hafter] at hread
    obtain rfl := Option.some.inj (Except.ok.inj hread)
    exact ⟨rest, rfl, rfl, rfl⟩

/-- **Where a derived directory lies.** Without a path of its own a namespace gets the path of the
default namespace as it is configured, with the further segments of its name behind it and a slash
behind each of them, and then without the slashes at the ends and with one at the end. This is the
path that is *registered* for the default namespace with those segments behind it exactly if there
is no further segment, or the configured path ends in one slash and the last segment in none. -/
theorem path_derived_iff (hpath : Naming.strip '/' config.defaultNamespacePath.toList ≠ [])
    (hname : parts? line.toList = some (name, none))
    (hread : read config line = .ok (some declared)) :
    ∃ segments, IsNamedBelow config declared segments ∧
      declared.path = normalizePath (config.defaultNamespacePath ++ marked "/" segments) ∧
      (IsStoredBelow config declared segments ↔
        segments = [] ∨ Naming.EndsInOne '/' config.defaultNamespacePath.toList ∧
          ∀ last ∈ segments.getLast?, last.toList.getLast? ≠ some '/') := by
  obtain ⟨rest, hafter, hdeclared, hderived⟩ := exists_rest_of_read hname hread
  have hrest := eq_nil_or_endsInOne hafter
  obtain ⟨segments, hplain, hsegments, hnil, hends⟩ := exists_segments hrest
  have hslashed : (rest.map fun c => if c = '\\' then '/' else c) =
      (marked "/" segments).toList := by
    rw [hsegments, map_slash_flatMap hplain]
    exact (toList_marked '/' segments).symm
  rw [hslashed, String.ofList_toList] at hderived
  rw [hslashed] at hends
  have hend : (marked "/" segments).toList = [] ∨
      (marked "/" segments).toList.getLast? = some '/' := by
    rw [← hslashed]
    rcases hrest with rfl | ⟨front, d, rfl, -⟩
    · exact .inl rfl
    · exact .inr (by simp)
  have hempty : (marked "/" segments).toList = [] ↔ segments = [] := by
    rw [← hslashed, List.map_eq_nil_iff, hnil]
  refine ⟨segments, ⟨hplain, ?_⟩, hderived, ?_⟩
  · rw [hdeclared, ← String.toList_inj, Text.eq_append_of_after? hafter, String.toList_append,
      hsegments]
    exact congrArg _ (toList_marked '\\' segments).symm
  · rw [isStoredBelow_iff, hderived, normalizePath, normalizePath, ← String.toList_inj]
    simp only [String.toList_append, String.toList_ofList]
    rw [Naming.strip_append_eq_iff hpath hend, hempty]
    by_cases hsegments : segments = []
    · simp [hsegments]
    · rw [hends (mt hnil.1 hsegments)]

/-- The usual spelling of the path of the default namespace: what is named below it is stored below
it. The path ends in one slash and the segment in none, which is the second case of the
condition. -/
theorem path_derived_billing :
    Naming.strip '/' ({} : Config).defaultNamespacePath.toList ≠ [] ∧
      parts? "namespace App\\Models\\Billing".toList = some ("App\\Models\\Billing", none) ∧
      read {} "namespace App\\Models\\Billing" =
        .ok (some ⟨"\\App\\Models\\Billing\\", "app/Models/Billing/"⟩) ∧
      ∃ segments, IsNamedBelow {} ⟨"\\App\\Models\\Billing\\", "app/Models/Billing/"⟩ segments ∧
        IsStoredBelow {} ⟨"\\App\\Models\\Billing\\", "app/Models/Billing/"⟩ segments := by
  have hpath : Naming.strip '/' ({} : Config).defaultNamespacePath.toList ≠ [] := by decide
  have hname : parts? "namespace App\\Models\\Billing".toList =
      some ("App\\Models\\Billing", none) := by decide +kernel
  have hread : read {} "namespace App\\Models\\Billing" =
      .ok (some ⟨"\\App\\Models\\Billing\\", "app/Models/Billing/"⟩) :=
    Outcome.eq_ok_of_toOption (by decide +kernel)
  obtain ⟨segments, hbelow, hderived, hstored⟩ := path_derived_iff hpath hname hread
  have hsegments : (segments.flatMap fun segment => segment.toList ++ ['\\']) =
      "Models\\Billin".toList ++ ['g', '\\'] := by
    have hlist := congrArg String.toList hbelow.name_eq
    rw [String.toList_append] at hlist
    exact (toList_marked '\\' segments).symm.trans (List.append_cancel_left hlist.symm)
  obtain ⟨last, hlast, hend⟩ := exists_getLast?_of_flatMap hsegments (by decide)
  refine ⟨hpath, hname, hread, segments, hbelow, hstored.2 (.inr ⟨?_, ?_⟩)⟩
  · exact ⟨"ap".toList, 'p', rfl, by decide⟩
  · rw [hlast]
    rintro other ⟨⟩
    rw [hend]
    decide

/-- A spelling of the path without a slash at its end: the directory of the default namespace is
`app/`, and that of a namespace below it lies beside it. Both spellings of the path register the
same directory. -/
theorem not_isStoredBelow_models :
    let config : Config := { defaultNamespacePath := "app" }
    Naming.strip '\\' config.defaultNamespace.toList ≠ [] ∧
      Naming.strip '/' config.defaultNamespacePath.toList ≠ [] ∧
      parts? "namespace App\\Models".toList = some ("App\\Models", none) ∧
      read config "namespace App\\Models" = .ok (some ⟨"\\App\\Models\\", "appModels/"⟩) ∧
      IsNamedBelow config ⟨"\\App\\Models\\", "appModels/"⟩ ["Models"] ∧
      ¬ IsStoredBelow config ⟨"\\App\\Models\\", "appModels/"⟩ ["Models"] := by
  refine ⟨by decide, by decide, by decide +kernel, Outcome.eq_ok_of_toOption (by decide +kernel),
    ⟨by decide, by decide +kernel⟩, ?_⟩
  rw [isStoredBelow_iff]
  decide +kernel

end NamespaceLine

end EntitySchema
