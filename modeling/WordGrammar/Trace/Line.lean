/-
Trace records as lines.

A line may begin with the record's number and the time; then it says
whether the grammar was being compiled or which word the event belongs
to, and what happened. The steps of a word are indented.
-/
import WordGrammar.Text.Decimal
import WordGrammar.Trace.Event

namespace WordGrammar.Trace

/-- A time in the largest unit that it reaches. Microseconds are whole;
milliseconds and seconds have three places. -/
def timeText (nanoseconds : Nat) : String :=
  let micros := nanoseconds / 1000
  if 1000000 ≤ micros then Text.fixedThree micros 1000000 ++ "s"
  else if 1000 ≤ micros then Text.fixedThree micros 1000 ++ "ms"
  else toString micros ++ "us"

/-- The column of a record's number. -/
def idColumn (record : Record) : String :=
  "[" ++ Text.padLeft 6 '0' (toString record.id) ++ "] "

/-- The column of a record's time. -/
def timeColumn (record : Record) : String :=
  Text.padLeft 10 ' ' (timeText record.time) ++ " "

/-- What a line says after its columns. -/
def lineBody (record : Record) : String :=
  let word := Text.padLeft 4 '0' (toString record.word)
  match record.event.type with
  | .grammarLoaded | .ruleCompiled | .changeCompiled =>
      "compile  " ++ record.event.text
  | .morphologyStep => "W" ++ word ++ "    " ++ record.event.text
  | .wordGenerated => "W" ++ word ++ " " ++ record.event.text

/-- The line of a record with the columns that are asked for. -/
def line (ids times : Bool) (record : Record) : String :=
  (if ids then idColumn record else "")
    ++ (if times then timeColumn record else "")
    ++ lineBody record

end WordGrammar.Trace
