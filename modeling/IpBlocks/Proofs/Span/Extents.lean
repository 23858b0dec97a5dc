import IpBlocks.Block.Extent
import IpBlocks.Proofs.Span.Tiling
import IpBlocks.Proofs.Text.Numeral
import IpBlocks.Proofs.Address.Reading

namespace IpBlocks

/-!
# Extents of blocks in a row

The text of an extent is its two ends and its count with single blanks between
them.  No blank stands within these parts, so the extent is read back from its
text (`Extent.parse?_toString`).

The extents of blocks that tile the addresses between two ends follow each
other without gap, and their counts add up to the number of these addresses
(`Tiles.extents_cover`).
-/

namespace Extent

/-- Read a count that stands in parentheses. -/
def readCount? : List Char → Option Nat
  | '(' :: inner =>
      if inner.getLast? = some ')' then
        Numeral.read? 10 inner.dropLast
      else
        none
  | _ => none

/-- Read two addresses with an arrow between them and a count behind them. -/
def read? (line : List Char) : Option Extent :=
  match line.splitOn ' ' with
  | [firstText, ['-', '>'], lastText, countText] => do
      let first ← (Address.read firstText).toOption
      let last ← (Address.read lastText).toOption
      let count ← readCount? countText
      return ⟨first, last, count⟩
  | _ => none

/-- Read an extent from a string. -/
def parse? (line : String) : Option Extent :=
  read? line.toList

/-- The text of an extent names its ends and its count. -/
theorem toString_eq (extent : Extent) :
    toString extent =
      toString extent.first ++ " -> " ++ toString extent.last ++
        " (" ++ toString extent.count ++ ")" := by
  apply String.toList_inj.mp
  change
    (String.ofList extent.chars).toList = _
  simp [chars]

theorem readCount?_toDigits (count : Nat) :
    readCount? ('(' :: (Nat.toDigits 10 count ++ [')'])) = some count := by
  simp [readCount?, Numeral.read?_toDigits]

/-- The parts of the text of an extent stand between single blanks. -/
theorem splitOn_chars (extent : Extent) :
    extent.chars.splitOn ' ' =
      [extent.first.chars, ['-', '>'], extent.last.chars,
        '(' :: (Nat.toDigits 10 extent.count ++ [')'])] := by
  have noBlank : ∀ address : Address, ' ' ∉ address.chars :=
    Address.notMem_chars (by decide) (by decide) (by decide)
  have noBlankInCount :
      ' ' ∉ '(' :: (Nat.toDigits 10 extent.count ++ [')']) := by
    have noDigit : ' ' ∉ Nat.toDigits 10 extent.count :=
      Numeral.notMem_toDigits (by decide) (by decide) extent.count
    simp [noDigit]
  have joined :
      extent.chars =
        [' '].intercalate
          [extent.first.chars, ['-', '>'], extent.last.chars,
            '(' :: (Nat.toDigits 10 extent.count ++ [')'])] := by
    simp [chars]
  rw [joined]
  apply List.splitOn_intercalate
  · simp [noBlank, noBlankInCount]
  · exact List.cons_ne_nil _ _

theorem read?_chars (extent : Extent) :
    read? extent.chars = some extent := by
  rw [read?, extent.splitOn_chars]
  simp only [Address.read_chars, readCount?_toDigits]
  rfl

/-- An extent is read back from its text. -/
@[simp] theorem parse?_toString (extent : Extent) :
    parse? (toString extent) = some extent := by
  change read? (String.ofList extent.chars).toList = some extent
  rw [String.toList_ofList, read?_chars]

/-- Extents in a row are read back from their texts. -/
theorem mapM_parse?_toString (extents : List Extent) :
    (extents.map toString).mapM parse? = some extents := by
  induction extents with
  | nil =>
      rfl
  | cons extent rest inductionHypothesis =>
      rw [List.map_cons, List.mapM_cons, parse?_toString,
        inductionHypothesis]
      rfl

/--
Extents in a row that cover all addresses between two ends: the first extent
starts at the one end, each further extent at the address behind the extent
before it, and the last extent ends at the other end.
-/
structure Cover (lowest highest : Address) (extents : List Extent) :
    Prop where
  starts : extents.head?.map Extent.first = some lowest
  ends : extents.getLast?.map Extent.last = some highest
  ordered : ∀ extent ∈ extents, extent.first.value ≤ extent.last.value
  contiguous :
    extents.IsChain fun earlier later =>
      earlier.last.next? = some later.first
  ascending :
    extents.Pairwise fun earlier later =>
      earlier.last.value < later.first.value
  counted :
    (extents.map Extent.count).sum = highest.value - lowest.value + 1

end Extent

namespace Tiles

variable
  {family : Family}
  {first last : Nat}
  {blocks : List Block}

/-- The sizes of blocks in a row add up to the number of values they tile. -/
theorem sum_size (tiles : Tiles family last first blocks) :
    (blocks.map Block.size).sum = last - first + 1 := by
  induction tiles with
  | @final first block sameFamily starts ended =>
      have final := block.last_value_succ
      have order := block.network_le_last
      rw [List.map_singleton, List.sum_singleton]
      omega
  | @step first block later sameFamily starts tiled inductionHypothesis =>
      have final := block.last_value_succ
      have order := block.network_le_last
      have rest := tiled.first_le_last
      rw [List.map_cons, List.sum_cons, inductionHypothesis]
      omega

/-- The extents of blocks in a row cover the addresses that the blocks tile. -/
theorem extents_cover
    {lowest highest : Address}
    (tiles : Tiles family highest.value lowest.value blocks)
    (lowestFamily : lowest.family = family)
    (highestFamily : highest.family = family) :
    Extent.Cover lowest highest (blocks.map Block.extent) where
  starts := by
    obtain ⟨block, head, network⟩ :=
      Option.map_eq_some_iff.mp tiles.head?_network
    have blockFamily :=
      (tiles.bounds_of_mem (List.mem_of_mem_head? head)).1
    rw [List.head?_map, head]
    exact
      congrArg some
        (Address.ext (blockFamily.trans lowestFamily.symm) network)
  ends := by
    obtain ⟨block, final, ended⟩ :=
      Option.map_eq_some_iff.mp tiles.getLast?_last
    have blockFamily :=
      (tiles.bounds_of_mem (List.mem_of_mem_getLast? final)).1
    rw [List.getLast?_map, final]
    exact
      congrArg some
        (Address.ext (blockFamily.trans highestFamily.symm) ended)
  ordered := by
    intro extent member
    obtain ⟨block, -, rfl⟩ := List.mem_map.mp member
    exact block.network_le_last
  contiguous := by
    rw [List.isChain_map]
    apply tiles.isChain.imp_of_mem_imp
    intro earlier later earlierMember laterMember follows
    have sameFamily :=
      (tiles.bounds_of_mem laterMember).1.trans
        (tiles.bounds_of_mem earlierMember).1.symm
    exact Address.next?_eq_some_iff.mpr ⟨sameFamily, follows⟩
  ascending :=
    List.pairwise_map.mpr tiles.pairwise_last_lt
  counted := by
    rw [List.map_map]
    exact tiles.sum_size

end Tiles

end IpBlocks
