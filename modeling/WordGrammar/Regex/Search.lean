/-
Searching a text.

A search reads the text once, from a position on. At each position it
keeps a list of threads: the addresses that matching can have reached,
the preferred ones first, each with the positions it has noted. No
address is in the list twice, because what a less preferred thread could
do from there the preferred one does as well. As long as nothing is found
a thread starts at every position, less preferred than those that started
before. When a thread accepts, the less preferred ones are given up, and
the search ends when the others have either accepted too or come to
nothing. So the first position from which there is a match wins, and
there the preferred one.
-/
import WordGrammar.Regex.Program

namespace WordGrammar.Regex

-- =========================================================== addresses

/-- A set of addresses that can be emptied at once: an address is in it
if its stamp is the current one. -/
structure AddressSet where
  stamps : Array Nat
  stamp : Nat

namespace AddressSet

/-- No address below a bound. -/
def empty (bound : Nat) : AddressSet := ⟨Array.replicate bound 0, 1⟩

/-- Whether an address is in the set; what is beyond the bound is. -/
def contains (s : AddressSet) (address : Nat) : Bool :=
  s.stamps.getD address s.stamp == s.stamp

/-- Adds an address. -/
def insert (s : AddressSet) (address : Nat) : AddressSet :=
  { s with stamps := s.stamps.setIfInBounds address s.stamp }

/-- Takes all addresses out. -/
def clear (s : AddressSet) : AddressSet := { s with stamp := s.stamp + 1 }

end AddressSet

-- ============================================================= threads

/-- Positions noted in slots, the latest one first. -/
abbrev Notes := List (Nat × Nat)

/-- A way of matching that has come to an address. -/
structure Thread where
  address : Nat
  notes : Notes

/-- Threads at one position, the least preferred one first, and the
addresses that have been reached there. -/
structure Front where
  reached : AddressSet
  threads : List Thread

/-- Where a search stands: a position and the characters around it. -/
structure Place where
  position : Nat
  before : Option Char
  after : Option Char

/-- Adds what some threads can reach without reading a character, in
their order. Every address is entered once and leads to two others at
most, so `fuel` need not exceed twice their number and one. -/
def spread (code : Code) (place : Place) :
    Nat → List Thread → Front → Front
  | 0, _, front => front
  | _, [], front => front
  | fuel + 1, t :: stack, ⟨reached, threads⟩ =>
      if reached.contains t.address then
        spread code place fuel stack ⟨reached, threads⟩
      else
        let reached := reached.insert t.address
        match code[t.address]? with
        | none => spread code place fuel stack ⟨reached, threads⟩
        | some (.fork first second) =>
            spread code place fuel
              (⟨first, t.notes⟩ :: ⟨second, t.notes⟩ :: stack)
              ⟨reached, threads⟩
        | some (.check look next) =>
            if look.holds place.before place.after then
              spread code place fuel (⟨next, t.notes⟩ :: stack)
                ⟨reached, threads⟩
            else spread code place fuel stack ⟨reached, threads⟩
        | some (.save slot next) =>
            spread code place fuel
              (⟨next, (slot, place.position) :: t.notes⟩ :: stack)
              ⟨reached, threads⟩
        | some _ => spread code place fuel stack ⟨reached, t :: threads⟩

/-- The address that belongs to a character, between two places of
ascending arms. -/
def armFor? (arms : Array (Char × Nat)) (c : Char) (low high : Nat) :
    Option Nat :=
  if low < high then
    let middle := (low + high) / 2
    match arms[middle]? with
    | none => none
    | some (letter, next) =>
        if c = letter then some next
        else if c < letter then armFor? arms c low middle
        else armFor? arms c (middle + 1) high
  else none
termination_by high - low

/-- Where an instruction goes on after a character. -/
def Instruction.after? (c : Char) : Instruction → Option Nat
  | letter wanted next => if c = wanted then some next else none
  | consume set next => if set.contains c then some next else none
  | select arms => armFor? arms c 0 arms.size
  | _ => none

/-- Lets threads read the character before a place, the preferred ones
first, up to one that accepts; its notes, and the threads at the
place. -/
def advance (code : Code) (place : Place) (front : Front) :
    List Thread → Option Notes × Front
  | [] => (none, front)
  | t :: threads =>
      match code[t.address]? with
      | some .accept => (some t.notes, front)
      | some instruction =>
          match place.before.bind instruction.after? with
          | some next =>
              advance code place
                (spread code place (2 * code.size + 1) [⟨next, t.notes⟩]
                  front) threads
          | none => advance code place front threads
      | none => advance code place front threads

-- ============================================================== search

/-- A match: its ends, and the positions noted on the way. -/
structure Match where
  start : Nat
  stop : Nat
  notes : Notes

/-- The slot that holds where the whole match starts. -/
def startSlot : Nat := 0

/-- The match that ends at a position with some notes. -/
def Match.ofNotes (stop : Nat) (notes : Notes) : Match :=
  let start := notes.find? fun (slot, _) => slot == startSlot
  ⟨(start.map (·.2)).getD stop, stop, notes⟩

/-- The place of a position in a text. -/
def placeAt (text : Array Char) (position : Nat) : Place :=
  ⟨position, if position = 0 then none else text[position - 1]?,
    text[position]?⟩

/-- Goes on with a search at the next `count` positions; `found` is where
the preferred match so far ends, and its notes. -/
def searchFrom (program : Program) (text : Array Char) :
    Nat → Place → Front → Option (Nat × Notes) →
      Option (Nat × Notes) × AddressSet
  | 0, _, front, found => (found, front.reached)
  | count + 1, place, front, found =>
      let code := program.code
      let front := if found.isSome then front
        else
          spread code place (2 * code.size + 1)
            [⟨program.entry, [(startSlot, place.position)]⟩] front
      match front with
      | ⟨reached, threads⟩ =>
          if threads.isEmpty && found.isSome then (found, reached)
          else
            let next : Place :=
              ⟨place.position + 1, place.after, text[place.position + 1]?⟩
            let (accepted, front) :=
              advance code next ⟨reached.clear, []⟩ threads.reverse
            let found := match accepted with
              | some notes => some (place.position, notes)
              | none => found
            searchFrom program text count next front found

/-- The first match at or after a position. The set of addresses is used
as it comes, whatever it holds, and handed back for the next search. -/
def Program.search (program : Program) (text : Array Char) (start : Nat)
    (reached : AddressSet) : Option Match × AddressSet :=
  let (found, reached) :=
    searchFrom program text (text.size + 1 - start) (placeAt text start)
      ⟨reached.clear, []⟩ none
  (found.map fun (stop, notes) => .ofNotes stop notes, reached)

end WordGrammar.Regex
