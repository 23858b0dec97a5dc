import IpBlocks.Pattern.Bracket
import IpBlocks.Pattern.Opening

namespace IpBlocks

/-!
# Patterns as texts

A pattern is a regular expression. It is written as branches with bars between
them, and a branch as parts in a row. A part is an atom, a class in brackets, a
group in parentheses, the repetition of a part, or a change of flags, which
cannot be repeated. A pattern is read once from its start to its end, and of
its parts only the depths are kept.

There are no repetitions with a count and no references to groups, and no
conditions on what stands around a match.
-/

namespace Pattern

/-- A part of a branch. -/
structure Part where
  /-- The depth of the part. -/
  depth : Nat
  /-- Whether the part can be repeated. -/
  repeatable : Bool
  deriving DecidableEq, Repr

/-- A pattern or a group as far as it has been read. -/
structure Scope where
  /-- The flags for what follows. -/
  flags : Flags
  /-- The names of all groups so far. -/
  names : List (List Char)
  /-- The depths of the branches before the last one. -/
  branches : List Nat
  /-- The parts of the last branch, of which the last comes first. -/
  parts : List Part
  deriving DecidableEq, Repr

namespace Scope

/-- The scope of a pattern before its first part. -/
def initial : Scope :=
  ⟨.initial, [], [], []⟩

/-- The scope with a further part. -/
def add (scope : Scope) (depth : Nat) : Scope :=
  { scope with parts := ⟨depth, true⟩ :: scope.parts }

/-- The scope with its last part repeated, if it has one that can be. -/
def repeatLast? (scope : Scope) : Option Scope :=
  match scope.parts with
  | ⟨depth, true⟩ :: before =>
      some { scope with parts := ⟨depth + 1, true⟩ :: before }
  | _ => none

/-- The depth of the last branch. -/
def branchDepth (scope : Scope) : Nat :=
  rowDepth (scope.parts.map Part.depth)

/-- The scope with a bar behind its last branch. -/
def endBranch (scope : Scope) : Scope :=
  { scope with branches := scope.branchDepth :: scope.branches, parts := [] }

/-- The depth of all branches. -/
def depth (scope : Scope) : Nat :=
  rowDepth (scope.branchDepth :: scope.branches)

/-- The scope with a change of flags as its last part. -/
def change (scope : Scope) (change : List Char) : Scope :=
  { scope with
    flags := scope.flags.changed change
    parts := ⟨0, false⟩ :: scope.parts }

/-- The scope of a group that begins with a change of flags. -/
def enter (scope : Scope) (change : List Char) : Scope :=
  ⟨scope.flags.changed change, scope.names, [], []⟩

/-- The scope of a group with a name that no group before it has. -/
def enterNamed? (scope : Scope) (name : List Char) : Option Scope :=
  if name ∈ scope.names then none
  else some ⟨scope.flags, name :: scope.names, [], []⟩

/-- The scope with a group as its last part. -/
def leave (scope group : Scope) : Scope :=
  { scope.add (group.depth + 1) with names := group.names }

end Scope

/-- The text behind a sign that makes a repetition take as few as it can. -/
def afterLazySign : List Char → List Char
  | '?' :: rest => rest
  | text => text

/-- Whether a character stands for the repetition of a part. -/
def isRepetition (character : Char) : Bool :=
  character ∈ ['?', '*', '+']

/--
Read a pattern or a group up to its end or its closing parenthesis.

The fuel bounds the number of parts, bars and parentheses.
-/
def readScope? : Nat → Scope → List Char → Option (Scope × List Char)
  | 0, _, _ => none
  | fuel + 1, scope, text =>
      match scope.flags.skip text with
      | [] => some (scope, [])
      | first :: rest =>
          if first = ')' then
            some (scope, first :: rest)
          else if first = '|' then
            readScope? fuel scope.endBranch rest
          else if first = '(' then do
            match ← Opening.read? scope.flags rest with
            | (.change change, rest) =>
                readScope? fuel (scope.change change) rest
            | (.group change, content) =>
                let (group, ')' :: rest) ←
                  readScope? fuel (scope.enter change) content | none
                readScope? fuel (scope.leave group) rest
            | (.named name, content) =>
                let group ← scope.enterNamed? name
                let (group, ')' :: rest) ←
                  readScope? fuel group content | none
                readScope? fuel (scope.leave group) rest
          else if first = '[' then do
            let (depth, rest) ← Bracket.read? scope.flags rest
            readScope? fuel (scope.add depth) rest
          else if isRepetition first then do
            let repeated ← scope.repeatLast?
            readScope? fuel repeated (afterLazySign rest)
          else if first = '\x7b' then
            none
          else do
            let (atom, rest) ← Atom.read? scope.flags (first :: rest)
            guard (atom.isKnown scope.flags)
            readScope? fuel (scope.add 0) rest

/-- Whether a text is a pattern that is not nested too deep. -/
def isValid (text : List Char) : Bool :=
  match readScope? (text.length + 1) .initial text with
  | some (scope, []) => scope.depth ≤ greatestDepth
  | _ => false

end Pattern

end IpBlocks
