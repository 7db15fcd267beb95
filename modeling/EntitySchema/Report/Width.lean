/-
How wide texts are on a terminal, and cutting them to a width.

A character takes no place, one or two. Two characters change what stands around them: a joiner
makes the character after it a part of the picture before it, and a selector turns a narrow
symbol before it into a picture. A text is cut between clusters, the characters that are shown
as one.
-/
import EntitySchema.Report.WidthTable
import EntitySchema.Text.Ranges

set_option autoImplicit false

namespace EntitySchema

/-- The width of the terminal for which reports are laid out. -/
def terminalWidth : Nat := 200

/-! ## Widths -/

/-- Whether a character is a control. -/
def isControl (c : Char) : Bool := c.toNat < 0x20 || (0x7f ≤ c.toNat && c.toNat < 0xa0)

/-- The places that a character takes. -/
def charWidth (c : Char) : Nat :=
  if isControl c || Text.inRanges flatRanges c then 0
  else if Text.inRanges wideRanges c then 2
  else 1

/-- No character takes more than two places. -/
theorem charWidth_le (c : Char) : charWidth c ≤ 2 := by
  unfold charWidth
  split
  · omega
  · split <;> omega

/-- The character that joins pictures. -/
def joiner : Char := '\u200d'

/-- The character that asks for a picture. -/
def selector : Char := '\ufe0f'

/-- Whether a symbol takes a place more as a picture. -/
def isNarrowSymbol (c : Char) : Bool := Text.inRanges narrowSymbolRanges c

/-- The places that characters take after `last`, the last one that took some. -/
def widthAfter (last : Option Char) : List Char → Nat
  | [] => 0
  | c :: rest =>
    if c = joiner then
      match rest with
      | [] => 0
      | _ :: rest => widthAfter last rest
    else if c = selector then
      (if last.any isNarrowSymbol then 1 else 0) + widthAfter none rest
    else if charWidth c = 0 then widthAfter last rest
    else charWidth c + widthAfter (some c) rest

/-- The places that a text takes. -/
def textWidth (cs : List Char) : Nat := widthAfter none cs

/-- A text of characters that take no notice of each other is as wide as they are together. -/
theorem textWidth_eq_of_plain {cs : List Char} (h : ∀ c ∈ cs, c ≠ joiner ∧ c ≠ selector) :
    textWidth cs = (cs.map charWidth).foldr (· + ·) 0 := by
  suffices ∀ last, widthAfter last cs = (cs.map charWidth).foldr (· + ·) 0 from this none
  induction cs with
  | nil => intro last; rfl
  | cons c rest ih =>
    intro last
    obtain ⟨hj, hs⟩ := h c List.mem_cons_self
    have ih := ih fun d hd => h d (List.mem_cons_of_mem c hd)
    unfold widthAfter
    simp only [if_neg hj, if_neg hs, List.map_cons, List.foldr_cons]
    split
    · next h0 => rw [ih, h0, Nat.zero_add]
    · rw [ih]

/-! ## Clusters -/

/-- Characters that are shown as one, and the places that they take. -/
structure Cluster where
  chars : List Char
  width : Nat
  deriving DecidableEq, Repr, Inhabited

/-- Cuts a text into clusters after the cluster that has been read so far, which is held in
reverse. -/
def clustersAfter (last : Option Char) (cluster : List Char) (width : Nat) :
    List Char → List Cluster
  | [] => if cluster.isEmpty then [] else [⟨cluster.reverse, width⟩]
  | c :: rest =>
    if c = joiner ∧ cluster ≠ [] then
      match rest with
      | [] => [⟨(c :: cluster).reverse, width⟩]
      | d :: rest => clustersAfter last (d :: c :: cluster) width rest
    else if c = selector ∧ last.any isNarrowSymbol then
      clustersAfter none (c :: cluster) (width + 1) rest
    else if charWidth c = 0 then clustersAfter last (c :: cluster) width rest
    else if cluster.isEmpty then clustersAfter (some c) [c] (charWidth c) rest
    else ⟨cluster.reverse, width⟩ :: clustersAfter (some c) [c] (charWidth c) rest

/-- The clusters of a text. -/
def clusters (cs : List Char) : List Cluster := clustersAfter none [] 0 cs

/-- Nothing is lost between the clusters. -/
theorem flatMap_chars_clustersAfter (last : Option Char) (cluster : List Char) (width : Nat)
    (cs : List Char) :
    (clustersAfter last cluster width cs).flatMap (·.chars) = cluster.reverse ++ cs := by
  fun_induction clustersAfter last cluster width cs <;> simp_all

/-- The clusters of a text make up the text. -/
theorem flatMap_chars_clusters (cs : List Char) : (clusters cs).flatMap (·.chars) = cs :=
  flatMap_chars_clustersAfter none [] 0 cs

/-! ## Cutting -/

/-- A text of blanks. -/
def blanks (count : Nat) : List Char := List.replicate count ' '

/-- The clusters that fit into a width. Blanks stand for the one that fits in part. -/
def cropClusters (width : Nat) : List Cluster → List Char
  | [] => []
  | cluster :: rest =>
    if cluster.width ≤ width then cluster.chars ++ cropClusters (width - cluster.width) rest
    else blanks width

/-- A text with blanks after it, up to a width. -/
def padTo (width : Nat) (cs : List Char) : List Char := cs ++ blanks (width - textWidth cs)

/-- A text that takes no more than a width. -/
def cropTo (width : Nat) (cs : List Char) : List Char :=
  if textWidth cs ≤ width then cs else cropClusters width (clusters cs)

/-- A text that takes a width: cut or with blanks after it. -/
def fitTo (width : Nat) (cs : List Char) : List Char :=
  if textWidth cs ≤ width then padTo width cs else cropClusters width (clusters cs)

/-- A text that takes no more than a width, with three dots in the last place if it is cut. -/
def elideTo (width : Nat) (cs : List Char) : List Char :=
  if textWidth cs ≤ width then cs else fitTo (width - 1) cs ++ ['…']

/-- Cuts clusters into lines that take no more than a width, after the start of a line. -/
def chopAfter (width : Nat) (line : List Char) (size : Nat) : List Cluster → List (List Char)
  | [] => if size = 0 then [] else [line]
  | cluster :: rest =>
    if width < size + cluster.width then
      line :: chopAfter width cluster.chars cluster.width rest
    else chopAfter width (line ++ cluster.chars) (size + cluster.width) rest

/-- Cuts a text into lines that take no more than a width. -/
def chop (width : Nat) (cs : List Char) : List (List Char) := chopAfter width [] 0 (clusters cs)

end EntitySchema
