/-
What the matches of an expression begin with.

The beginnings of an expression are some texts in order of preference, and
each of its matches begins with one of them. A beginning is whole if the
match is nothing but the beginning, and only started if the match may go
on. Whole beginnings in a row make whole beginnings; a started one stays
as it is, whatever comes after it.

Beginnings are worked out while there are few of them and while they are
short. Past that a text is cut, which makes it a started one, or nothing
is known any more.
-/
import WordGrammar.Regex.Expr

namespace WordGrammar.Regex

open Text

/-- A text with which matches begin. -/
inductive Beginning
  /-- The match is the text. -/
  | whole (text : List Char)
  /-- The match begins with some bytes and may go on. -/
  | started (bytes : List UInt8)
  deriving DecidableEq, Repr

namespace Beginning

/-- The bytes of a beginning. -/
def bytes : Beginning → List UInt8
  | whole text => text.flatMap String.utf8EncodeChar
  | started bytes => bytes

/-- Whether a beginning is a whole match. -/
def isWhole : Beginning → Bool
  | whole _ => true
  | started _ => false

/-- The same bytes as a started beginning. -/
def toStarted (b : Beginning) : Beginning := started b.bytes

/-- A beginning with no more than some bytes. -/
def cutTo (count : Nat) (b : Beginning) : Beginning :=
  if b.bytes.length ≤ count then b else started (b.bytes.take count)

/-- One beginning after another one. -/
def followedBy : Beginning → Beginning → Beginning
  | whole a, whole b => whole (a ++ b)
  | whole a, started b => started ((whole a).bytes ++ b)
  | started a, _ => started a

/-- Equal beginnings next to each other as one, which is whole only if
all of them are. -/
def merge : List Beginning → List Beginning
  | [] => []
  | b :: bs =>
      match merge bs with
      | [] => [b]
      | next :: rest =>
          if b.bytes = next.bytes then
            (if b.isWhole then next else b) :: rest
          else b :: next :: rest

end Beginning

/-- What is known of the beginnings of all matches. -/
inductive Beginnings
  /-- Nothing. -/
  | unknown
  /-- They are among some texts, earlier ones by preference. -/
  | among (texts : List Beginning)
  deriving DecidableEq, Repr

namespace Beginnings

open Beginning

/-- The greatest number of beginnings. -/
def maxCount : Nat := 250

/-- The greatest number of bytes of a beginning. -/
def maxBytes : Nat := 100

/-- The greatest number of characters of a set. -/
def maxMembers : Nat := 10

/-- The greatest number of turns that are followed. -/
def maxTurns : Nat := 10

/-- To so many bytes beginnings are cut if there are too many. -/
def shortBytes : Nat := 4

/-- No match at all. -/
def never : Beginnings := among []

/-- A match of nothing. -/
def nothing : Beginnings := among [whole []]

/-- Beginnings with no more than some bytes each. -/
def cutTo (count : Nat) : Beginnings → Beginnings
  | unknown => unknown
  | among texts => among (texts.map (Beginning.cutTo count))

/-- The same texts as started beginnings. -/
def toStarted : Beginnings → Beginnings
  | unknown => unknown
  | among texts => among (texts.map Beginning.toStarted)

/-- Whether nothing that comes after makes a difference. -/
def areStarted : Beginnings → Bool
  | unknown => true
  | among texts => texts.all fun b => !b.isWhole

/-- A text. -/
def ofText (text : List Char) : Beginnings :=
  (among [whole text]).cutTo maxBytes

/-- The characters of a set. -/
def ofSet (s : CodeSet) : Beginnings :=
  let size := s.ranges.foldl (fun n r => n + (r.last - r.first + 1)) 0
  if maxMembers < size then unknown
  else among (s.ranges.toList.flatMap fun r =>
    (List.range' r.first (r.last - r.first + 1)).map fun code =>
      whole [Char.ofNat code])

/-- Either of two, the first by preference. If they are too many, they
are cut, and given up if that does not help. -/
def or : Beginnings → Beginnings → Beginnings
  | among as, among bs =>
      if as.length + bs.length ≤ maxCount then among (merge (as ++ bs))
      else
        let as := merge (as.map (Beginning.cutTo shortBytes))
        let bs := merge (bs.map (Beginning.cutTo shortBytes))
        if as.length + bs.length ≤ maxCount then among (merge (as ++ bs))
        else unknown
  | _, _ => unknown

/-- One after the other. -/
def followedBy : Beginnings → Beginnings → Beginnings
  | unknown, _ => unknown
  | among as, bs =>
      let texts? := match bs with
        | unknown => none
        | among bs =>
            if as.length * bs.length ≤ maxCount then some bs else none
      match texts? with
      | some bs =>
          (among (merge (as.flatMap fun a =>
            if a.isWhole then bs.map a.followedBy else [a]))).cutTo maxBytes
      | none =>
          if as.any fun a => a.bytes.isEmpty then unknown
          else (among as).toStarted

/-- Some turns after what has been done. -/
def turns (body : Beginnings) : Nat → Beginnings → Beginnings
  | 0, done => done
  | n + 1, done =>
      if done.areStarted then done else turns body n (done.followedBy body)

/-- Turns of a body. -/
def repeated (body : Beginnings) (least : Nat) (most : Option Nat)
    (greedy : Bool) : Beginnings :=
  if least = 0 then
    let body := if most = some 1 then body else body.toStarted
    if greedy then body.or nothing else nothing.or body
  else
    match most with
    | none => body.toStarted
    | some most =>
        let done := turns body (min least maxTurns) nothing
        if least = most && least ≤ maxTurns then done else done.toStarted

end Beginnings

namespace Expr

mutual

/-- The beginnings of an expression. -/
def beginnings : Expr → Beginnings
  | empty | look _ => .nothing
  | literal text => .ofText text
  | set s => .ofSet s
  | concat parts => beginningsInRow .nothing parts
  | alternation branches => beginningsOfAny .never branches
  | repetition body least most greedy =>
      body.beginnings.repeated least most greedy
  | capture _ body => body.beginnings

/-- The beginnings of some parts after what comes before them. -/
def beginningsInRow (before : Beginnings) : List Expr → Beginnings
  | [] => before
  | e :: es =>
      if before.areStarted then before
      else beginningsInRow (before.followedBy e.beginnings) es

/-- The beginnings of some branches or of those before them. -/
def beginningsOfAny (before : Beginnings) : List Expr → Beginnings
  | [] => before
  | e :: es =>
      match before with
      | .unknown => .unknown
      | .among _ => beginningsOfAny (before.or e.beginnings) es

end

end Expr

end WordGrammar.Regex
