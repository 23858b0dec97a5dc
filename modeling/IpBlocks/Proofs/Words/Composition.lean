import IpBlocks.Proofs.Words.Agreement

namespace IpBlocks

/-!
# Compositions of operations

A composition is a finite tree of operations that make addresses, blocks,
extents, spans, targets and lists of blocks from texts, documents, words and
each other.  It is computed twice, on values and on words, and by induction on
the tree the second result is the words of the first
(`Composition.words?_eq`).

Words of values have the invariants that the types of values carry, so every
composition on words keeps them, although no operation on words asks for them.
-/

/-- What a composition makes. -/
inductive ValueKind where
  | address
  | block
  | extent
  | span
  | target
  | blocks

namespace ValueKind

/-- The values of a kind. -/
abbrev Value : ValueKind → Type
  | address => Address
  | block => Block
  | extent => Extent
  | span => Span
  | target => Target
  | blocks => List Block

/-- The words of a kind. -/
abbrev Words : ValueKind → Type
  | address => AddressWords
  | block => BlockWords
  | extent => ExtentWords
  | span => SpanWords
  | target => TargetWords
  | blocks => List BlockWords

/-- The words of a value. -/
def words : (kind : ValueKind) → kind.Value → kind.Words
  | address => Address.words
  | block => Block.words
  | extent => Extent.words
  | span => Span.words
  | target => Target.words
  | blocks => List.map Block.words

end ValueKind

/-- The operations that make a value out of data. -/
inductive Source : ValueKind → Type where
  | parseAddress (text : String) : Source .address
  | loadAddress (document : Document) : Source .address
  | truncate (family : Family) (value : BitVec 128) : Source .address
  | ofHost (host : HostAddress) : Source .address
  | parseBlock (text : String) : Source .block
  | loadBlock (document : Document) : Source .block
  | parseSpan (text : String) : Source .span
  | parseTarget (text : String) : Source .target

/-- The operations that make a value out of another one. -/
inductive Step : ValueKind → ValueKind → Type where
  | next : Step .address .address
  | around (prefixLen : BitVec 8) : Step .address .block
  | network : Step .block .address
  | mask : Step .block .address
  | wildcard : Step .block .address
  | last : Step .block .address
  | extent : Step .block .extent
  | extentFirst : Step .extent .address
  | extentLast : Step .extent .address
  | spanFirst : Step .span .address
  | spanLast : Step .span .address
  | spanBlocks : Step .span .blocks
  | blockTarget : Step .block .target
  | spanTarget : Step .span .target
  | targetBlocks : Step .target .blocks
  | blockOfTarget : Step .target .block
  | spanOfTarget : Step .target .span
  | item (index : Nat) : Step .blocks .block

/-- The operations that make a value out of two addresses. -/
inductive Pairing : ValueKind → Type where
  | between : Pairing .span
  | split : Pairing .blocks

namespace Source

/-- The value that an operation makes. -/
def value? : {kind : ValueKind} → Source kind → Option kind.Value
  | _, parseAddress text => (Address.parse text).toOption
  | _, loadAddress document => (Address.ofDocument document).toOption
  | _, truncate family value => some (Address.truncated family value.toNat)
  | _, ofHost host => Address.ofOctets? host.octets
  | _, parseBlock text => (Block.parse text).toOption
  | _, loadBlock document => (Block.ofDocument document).toOption
  | _, parseSpan text => (Span.parse text).toOption
  | _, parseTarget text => (Target.parse text).toOption

/-- The words that an operation computes. -/
def words? : {kind : ValueKind} → Source kind → Option kind.Words
  | _, parseAddress text => AddressWords.parse? text
  | _, loadAddress document => AddressWords.ofDocument? document
  | _, truncate family value => some (AddressWords.truncated family value)
  | _, ofHost host => some (AddressWords.ofHost host)
  | _, parseBlock text => BlockWords.parse? text
  | _, loadBlock document => BlockWords.ofDocument? document
  | _, parseSpan text => SpanWords.parse? text
  | _, parseTarget text => TargetWords.parse? text

theorem words?_eq {kind : ValueKind} (operation : Source kind) :
    operation.words? = operation.value?.map kind.words :=
  match operation with
  | parseAddress text => Address.parse?_eq text
  | loadAddress document => Address.ofDocument?_eq document
  | truncate family value =>
      congrArg some (Address.truncated_eq_words family value)
  | ofHost host => Address.ofHost_eq host
  | parseBlock text => Block.parse?_eq text
  | loadBlock document => Block.ofDocument?_eq document
  | parseSpan text => Span.parse?_eq text
  | parseTarget text => Target.parse?_eq text

end Source

namespace Step

/-- The value that an operation makes out of another one. -/
def value? :
    {before after : ValueKind} →
      Step before after → before.Value → Option after.Value
  | _, _, next, address => Address.next? address
  | _, _, around prefixLen, address =>
      (Block.around address prefixLen.toNat).toOption
  | _, _, network, block => some (Block.network block)
  | _, _, mask, block => some (Block.mask block)
  | _, _, wildcard, block => some (Block.wildcard block)
  | _, _, last, block => some (Block.last block)
  | _, _, extent, block => some (Block.extent block)
  | _, _, extentFirst, whole => some (Extent.first whole)
  | _, _, extentLast, whole => some (Extent.last whole)
  | _, _, spanFirst, whole => some (Span.first whole)
  | _, _, spanLast, whole => some (Span.last whole)
  | _, _, spanBlocks, whole => (Span.blocks whole).toOption
  | _, _, blockTarget, block => some (.block block)
  | _, _, spanTarget, whole => some (.span whole)
  | _, _, targetBlocks, target => (Target.blocks target).toOption
  | _, _, blockOfTarget, .block single => some single
  | _, _, blockOfTarget, .span _ => none
  | _, _, spanOfTarget, .block _ => none
  | _, _, spanOfTarget, .span whole => some whole
  | _, _, item index, blocks => blocks[index]?

/-- The words that an operation computes from others. -/
def words? :
    {before after : ValueKind} →
      Step before after → before.Words → Option after.Words
  | _, _, next, address => AddressWords.next? address
  | _, _, around prefixLen, address => BlockWords.around? address prefixLen
  | _, _, network, block => some (BlockWords.network block)
  | _, _, mask, block => some (BlockWords.mask block)
  | _, _, wildcard, block => some (BlockWords.wildcard block)
  | _, _, last, block => some (BlockWords.last block)
  | _, _, extent, block => some (BlockWords.extent block)
  | _, _, extentFirst, whole => some (ExtentWords.first whole)
  | _, _, extentLast, whole => some (ExtentWords.last whole)
  | _, _, spanFirst, whole => some (SpanWords.first whole)
  | _, _, spanLast, whole => some (SpanWords.last whole)
  | _, _, spanBlocks, whole => SpanWords.blocks? whole
  | _, _, blockTarget, block => some (.block block)
  | _, _, spanTarget, whole => some (.span whole)
  | _, _, targetBlocks, target => TargetWords.blocks? target
  | _, _, blockOfTarget, .block single => some single
  | _, _, blockOfTarget, .span _ => none
  | _, _, spanOfTarget, .block _ => none
  | _, _, spanOfTarget, .span whole => some whole
  | _, _, item index, blocks => blocks[index]?

/-- On the words of a value, an operation computes the words of what it makes. -/
theorem words?_eq
    {before after : ValueKind}
    (operation : Step before after)
    (value : before.Value) :
    operation.words? (before.words value) =
      (operation.value? value).map after.words := by
  cases operation with
  | next => exact Address.next?_words value
  | around prefixLen => exact Block.around?_words value prefixLen
  | mask => exact congrArg some (Block.mask_words value)
  | wildcard => exact congrArg some (Block.wildcard_words value)
  | last => exact congrArg some (Block.last_words value)
  | extent => exact congrArg some (Block.extent_words value)
  | spanBlocks => exact Span.blocks?_words value
  | targetBlocks => exact Target.blocks?_words value
  | item index => exact List.getElem?_map
  | network | extentFirst | extentLast | spanFirst | spanLast => rfl
  | blockTarget | spanTarget => rfl
  | blockOfTarget | spanOfTarget => cases value <;> rfl

end Step

namespace Pairing

/-- The value that an operation makes out of two addresses. -/
def value? :
    {kind : ValueKind} →
      Pairing kind → Address → Address → Option kind.Value
  | _, between, one, other => (Span.between one other).toOption
  | _, split, one, other => (IpBlocks.split one other).toOption

/-- The words that an operation computes from two addresses. -/
def words? :
    {kind : ValueKind} →
      Pairing kind → AddressWords → AddressWords → Option kind.Words
  | _, between, one, other => SpanWords.between? one other
  | _, split, one, other => splitWords? one other

theorem words?_eq
    {kind : ValueKind}
    (operation : Pairing kind)
    (one other : Address) :
    operation.words? one.words other.words =
      (operation.value? one other).map kind.words :=
  match operation with
  | between => Span.between?_words one other
  | split => splitWords?_words one other

end Pairing

/-- A tree of operations that makes a value of some kind, or none. -/
inductive Composition : ValueKind → Type where
  | source {kind : ValueKind} (operation : Source kind) : Composition kind
  | step
      {before kind : ValueKind}
      (operation : Step before kind)
      (composed : Composition before) :
      Composition kind
  | pairing
      {kind : ValueKind}
      (operation : Pairing kind)
      (one other : Composition .address) :
      Composition kind

namespace Composition

/-- The value of a composition. -/
def value? : {kind : ValueKind} → Composition kind → Option kind.Value
  | _, source operation => operation.value?
  | _, step operation composed => composed.value?.bind operation.value?
  | _, pairing operation one other =>
      one.value?.bind fun one => other.value?.bind (operation.value? one)

/-- The words that a composition computes. -/
def words? : {kind : ValueKind} → Composition kind → Option kind.Words
  | _, source operation => operation.words?
  | _, step operation composed => composed.words?.bind operation.words?
  | _, pairing operation one other =>
      one.words?.bind fun one => other.words?.bind (operation.words? one)

/-- The span that is split into a list of blocks. -/
def range? : Composition .blocks → Option SpanWords
  | step .spanBlocks span => span.words?
  | step .targetBlocks target => target.words?.map TargetWords.range
  | pairing .split one other => (pairing .between one other).words?

/-- A composition on words computes the words of its value. -/
theorem words?_eq {kind : ValueKind} (made : Composition kind) :
    made.words? = made.value?.map kind.words := by
  induction made with
  | source operation =>
      exact operation.words?_eq
  | step operation composed inductionHypothesis =>
      rw [words?, value?, inductionHypothesis]
      exact Outcome.bind_view operation.words?_eq
  | pairing operation one other oneHypothesis otherHypothesis =>
      rw [words?, value?, oneHypothesis, otherHypothesis]
      apply Outcome.bind_view
      intro one
      exact Outcome.bind_view (operation.words?_eq one)

/-- Words that are computed are the words of the value of the composition. -/
theorem exists_value
    {kind : ValueKind}
    {made : Composition kind}
    {words : kind.Words}
    (computed : made.words? = some words) :
    ∃ value, made.value? = some value ∧ kind.words value = words := by
  rw [words?_eq] at computed
  exact Option.map_eq_some_iff.mp computed

end Composition

end IpBlocks
