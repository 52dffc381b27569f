/-
The size of a machine that reads bytes.

A machine is a graph of states. Every state takes the same number of
bytes, and one that offers several ways to go on takes some more for each
way: four bytes for a way that reads nothing, eight for a way that reads
a byte. States are numbered in the order in which they are made.

A `Part` adds its states to a machine. What it adds depends on how many
states there are already only through the memo that lets equal ends of
encodings share their states; see `Memo`.
-/
import Std.Data.HashMap
import WordGrammar.Regex.TextTree
import WordGrammar.Text.ByteBlock

namespace WordGrammar.Regex.Machine

open Text

/-- The bytes of a state without its ways. -/
def stateBytes : Nat := 32

/-- The bytes of a way that reads nothing. -/
def plainWayBytes : Nat := 4

/-- The bytes of a way that reads a byte. -/
def readingWayBytes : Nat := 8

/-- The number of states of a machine, and what the ways to go on take in
bytes. -/
structure Size where
  states : Nat := 0
  wayBytes : Nat := 0
  deriving DecidableEq, Repr

namespace Size

/-- All bytes of a machine. -/
def bytes (s : Size) : Nat := stateBytes * s.states + s.wayBytes

/-- The bytes that a machine may take. -/
def limit : Nat := 10 * 1024 * 1024

/-- Whether a machine takes more bytes than it may. -/
def exceeds (s : Size) : Bool := limit < s.bytes

/-- Some more states without ways of their own. -/
def addStates (n : Nat) (s : Size) : Size :=
  { s with states := s.states + n }

/-- Some more ways that read nothing. -/
def addPlainWays (n : Nat) (s : Size) : Size :=
  { s with wayBytes := s.wayBytes + plainWayBytes * n }

/-- One more state, with some ways that read a byte. -/
def addReading (ways : Nat) (s : Size) : Size :=
  ⟨s.states + 1, s.wayBytes + readingWayBytes * ways⟩

/-- One more state, with two ways that read nothing. -/
def addFork (s : Size) : Size := (s.addStates 1).addPlainWays 2

end Size

/-- What a part of an expression adds to a machine. -/
structure Part where
  add : Size → Size

namespace Part

/-- Some states without ways of their own. -/
def states (n : Nat) : Part := ⟨.addStates n⟩

/-- A state with two ways that read nothing. -/
def fork : Part := ⟨.addFork⟩

/-- One part after the other. -/
def all (parts : List Part) : Part :=
  ⟨fun s => parts.foldl (fun s part => part.add s) s⟩

/-- Adds a part again and again, as long as the machine is not too large
anyway. -/
def addCopies (part : Part) : Nat → Size → Size
  | 0, s => s
  | n + 1, s => if s.exceeds then s else addCopies part n (part.add s)

/-- Copies of a part. -/
def copies (n : Nat) (part : Part) : Part := ⟨addCopies part n⟩

end Part

-- ================================================================ memo

/-- The states of a set that were made most recently. A state is looked
up by what it does, and what it does is hashed to one of a fixed number
of slots, each of which remembers one state. So equal states are shared
unless a third one has taken their slot in between. -/
structure Memo (Deed : Type) where
  slots : Nat
  entries : Std.HashMap Nat (Deed × Nat) := ∅

/-- The hash of no numbers (FNV-1a). -/
def hashStart : UInt64 := 14695981039346656037

/-- Takes a number into a hash. -/
def hashStep (hash : UInt64) (n : UInt64) : UInt64 :=
  (hash ^^^ n) * 1099511628211

/-- A machine to which the states of a set are being added. -/
structure Growth (Deed : Type) where
  size : Size
  memo : Memo Deed

/-- The number of a state that does something: one that the memo
remembers, or a new one, which takes some ways that read a byte. -/
def Growth.stateFor {Deed : Type} [BEq Deed] (deed : Deed)
    (hash : UInt64) (ways : Nat) (g : Growth Deed) : Nat × Growth Deed :=
  let slot := hash.toNat % g.memo.slots
  let known := match g.memo.entries[slot]? with
    | some (deed', state) => if deed == deed' then some state else none
    | none => none
  match known with
  | some state => (state, g)
  | none =>
      let state := g.size.states
      (state, {
        size := g.size.addReading ways
        memo := { g.memo with
          entries := g.memo.entries.insert slot (deed, state) } })

-- ================================================================ sets

/-- A way that reads a byte of a range and goes to a state. -/
structure Arrow where
  range : ByteRange
  target : Nat
  deriving DecidableEq

/-- Takes a way into a hash. -/
def Arrow.hashInto (hash : UInt64) (arrow : Arrow) : UInt64 :=
  hashStep (hashStep (hashStep hash arrow.range.first.toUInt64)
    arrow.range.last.toUInt64) (UInt64.ofNat arrow.target)

/-- The number of slots where whole states are remembered. -/
def stateSlots : Nat := 10000

/-- The ways of a node of a tree, after the states below them have been
made. A way by which a character ends goes to the state `target`. -/
def arrowsOf (target : Nat) :
    ByteTree → Growth (List Arrow) → List Arrow × Growth (List Arrow)
  | .nil, g => ([], g)
  | .cons range below rest, g =>
      let (inner, g) := arrowsOf target below g
      let (next, g) := match inner with
        | [] => (target, g)
        | _ =>
            g.stateFor inner (inner.foldl Arrow.hashInto hashStart)
              inner.length
      let (others, g) := arrowsOf target rest g
      (⟨range, next⟩ :: others, g)

/-- Adds the states that read a character of a tree, from its first byte
on. -/
def addTree (tree : ByteTree) (s : Size) : Size :=
  let start : Growth (List Arrow) := ⟨s.addStates 1, ⟨stateSlots, ∅⟩⟩
  let (arrows, g) := arrowsOf s.states tree start
  (g.stateFor arrows (arrows.foldl Arrow.hashInto hashStart)
    arrows.length).2.size

/-- The number of slots where single ways are remembered. -/
def waySlots : Nat := 1000

/-- Adds the states that read an encoding of a block from its last byte
back to its first; `target` is where the byte before goes on. -/
def addBackward (g : Growth Arrow) (target : Nat) :
    ByteBlock → Growth Arrow
  | [] => g
  | range :: block =>
      let hash := hashStep (hashStep (hashStep hashStart
        (UInt64.ofNat target)) range.first.toUInt64) range.last.toUInt64
      let (state, g) := g.stateFor ⟨range, target⟩ hash 0
      addBackward g state block

/-- Adds the states that read a character of some blocks, from its last
byte on: a fork with one way for every block. -/
def addBlocksBackward (blocks : List ByteBlock) (s : Size) : Size :=
  let start : Growth Arrow :=
    ⟨(s.addStates 2).addPlainWays blocks.length, ⟨waySlots, ∅⟩⟩
  (blocks.foldl (fun g block => addBackward g (s.states + 1) block)
    start).size

/-- Reading from the front to the back of a text or from its back to its
front. -/
inductive Direction
  | forward
  | backward
  deriving DecidableEq, Repr

/-- What a set adds. A set of ASCII is one state with a way for every
range, whatever the direction. -/
def Part.ofSet (direction : Direction) (set : CodeSet) : Part :=
  if set.isAscii then
    ⟨fun s => (s.addStates 1).addReading set.ranges.size⟩
  else
    match direction with
    | .forward =>
        let tree := ByteTree.ofBlocks set.blocks
        ⟨addTree tree⟩
    | .backward =>
        let blocks := set.blocks
        ⟨addBlocksBackward blocks⟩

-- ============================================================= literals

/-- The bytes of a text in the order in which they are read. -/
def bytesOf (direction : Direction) (text : List Char) : List UInt8 :=
  let bytes := text.flatMap String.utf8EncodeChar
  match direction with
  | .forward => bytes
  | .backward => bytes.reverse

/-- Adds the states that tell texts apart which go on from one node of
their tree; `depth` is at least the length of the longest text. -/
def addTexts : Nat → List (List UInt8) → Size → Size
  | 0, _, s => s
  | depth + 1, texts, s =>
      if texts.all List.isEmpty then s
      else
        let ways := TextTree.waysOf texts
        ways.foldl
          (fun s way => match way with
            | .stop => s
            | .letters groups =>
                let s := if groups.length = 1 then s.addStates 1
                  else s.addReading groups.length
                groups.foldl (fun s group => addTexts depth group.2 s) s)
          ((s.addStates 1).addPlainWays ways.length)

/-- What a choice between texts adds: their tree, and a state where all of
them end. -/
def Part.ofTexts (direction : Direction) (texts : List (List Char)) :
    Part :=
  let texts := texts.map (bytesOf direction)
  ⟨fun s => addTexts (TextTree.depthOf texts) texts (s.addStates 1)⟩

end WordGrammar.Regex.Machine
