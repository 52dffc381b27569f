/-
Choices between texts as a tree.

Some texts are to be tried in order. They go on from their common
beginning in a few ways, which are tried in order too: a text ends there,
or the texts up to the next end go on with a letter. Texts that go on
with different letters exclude each other, so those with the same letter
may be put together, and the choice between them is the same one again,
one letter further on.
-/
namespace WordGrammar.Regex.TextTree

/-- A way to go on. -/
inductive Way (Letter : Type)
  /-- A text ends. -/
  | stop
  /-- With one of some letters, in ascending order, and from each of them
  on with one of some texts. -/
  | letters (groups : List (Letter × List (List Letter)))

variable {Letter : Type} [BEq Letter] [LE Letter] [DecidableLE Letter]

/-- Texts by their first letters; the empty ones are left out. -/
def groupsOf (texts : List (List Letter)) :
    List (Letter × List (List Letter)) :=
  let split := texts.filterMap fun
    | [] => none
    | letter :: text => some (letter, text)
  let groups := (split.mergeSort fun a b => a.1 ≤ b.1).splitBy
    fun a b => a.1 == b.1
  groups.filterMap fun group =>
    group.head?.map fun (letter, _) => (letter, group.map (·.2))

/-- How texts go on. Texts that end before any other text goes on end in
the same way. -/
def waysOf (texts : List (List Letter)) : List (Way Letter) :=
  let stops := texts.takeWhile List.isEmpty
  let runs := (texts.drop stops.length).splitBy
    fun a b => a.isEmpty == b.isEmpty
  (stops.take 1).map (fun _ => .stop) ++ runs.flatMap fun run =>
    if run.all List.isEmpty then run.map fun _ => .stop
    else [.letters (groupsOf run)]

/-- The length of the longest text. -/
def depthOf (texts : List (List Letter)) : Nat :=
  texts.foldl (fun n text => max n text.length) 0

end WordGrammar.Regex.TextTree
