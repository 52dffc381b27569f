/-
The command line program.

Everything that is decided is decided by the library; this module reads
arguments, files, lines, the clock and a random seed, and prints.
-/
import WordGrammar.CommandLine.Run
import WordGrammar.FileTree
import WordGrammar.Trace.Line

namespace WordGrammar.Main

open CommandLine

/-- The wording of a failure with a code, which may be the number of the
failure negated. -/
def numberedText (code : UInt32) (details : String) : String :=
  let number := min code.toNat (UInt32.size - code.toNat)
  match FileFault.ofNumber? number with
  | some fault => fault.message
  | none => FileFault.numbered details number

/-- The wording of a failure to read a file. -/
def faultText : IO.Error → String
  | .noFileOrDirectory _ code details | .permissionDenied _ code details
  | .inappropriateType _ code details | .resourceExhausted _ code details
  | .invalidArgument _ code details | .alreadyExists _ code details
  | .noSuchThing _ code details | .otherError code details =>
      numberedText code details
  | e => toString e

/-- The text of a file. -/
def readText (path : String) : IO (Except String String) := do
  if path.contains '\x00' then
    return .error FileFault.nameWithNul.message
  try
    let bytes ← IO.FS.readBinFile path
    match String.fromUTF8? bytes with
    | some text => return .ok text
    | none => return .error FileFault.notText.message
  catch e => return .error (faultText e)

/-- The files as far as they have been read: one of them. -/
def knowing (path : String) (text : Except String String) :
    String → Except String String := fun wanted =>
  if wanted = path then text else .error FileFault.notFound.message

/-- The line of something shown on the side. -/
def diagnosticLine : Diagnostic → String
  | .trace shown => Trace.line false shown.timestamps shown.record
  | .derivation line => line

/-- Carries out an effect; asking for a line shows nothing. -/
def perform : Effect → IO Unit
  | .output text => do
      IO.print text
      (← IO.getStdout).flush
  | .complaint text => IO.eprint text
  | .diagnostic diagnostic => IO.eprintln (diagnosticLine diagnostic)
  | .prompt _ | .history _ => return ()

/-- The bytes of a line and its ending, after those in `bytes`. -/
partial def lineBytes (input : IO.FS.Stream) (bytes : ByteArray) :
    IO ByteArray := do
  let next ← input.read 1
  let bytes := bytes ++ next
  if next.isEmpty || next.data.contains 10 then return bytes
  else lineBytes input bytes

/-- The next line of standard input, if there is one. -/
def nextInput : IO (Option Shell.Input) := do
  let bytes ← lineBytes (← IO.getStdin) .empty
  match String.fromUTF8? bytes with
  | some line => return (Shell.Input.ofText line).head?
  | none => return some (.failure FileFault.notText.message)

/-- How files are read while an input is taken. -/
def reader (session : Session) (input : Shell.Input) :
    IO (String → Except String String) := do
  match input with
  | .line text =>
      match Shell.fileOf? session text with
      | some path => return knowing path (← readText path)
      | none => return fun _ => .error FileFault.notFound.message
  | _ => return fun _ => .error FileFault.notFound.message

/-- A conversation with whoever is at standard input. -/
partial def talk (began : Nat) (session : Session) : IO UInt32 := do
  match ← nextInput with
  | none =>
      Shell.farewell.forM perform
      return 0
  | some input =>
      let session := session.setClock ((← IO.monoNanosNow) - began)
      let exchange :=
        Shell.exchange session (← reader session input) input
      exchange.effects.forM perform
      match exchange.next with
      | .continue => talk began exchange.session
      | .leave =>
          Shell.farewell.forM perform
          return 0
      | .fail e =>
          perform (complaintOf e)
          return 1

/-- Writes words until as many as wanted are written or one fails. -/
partial def write (began : Nat) (settings : Settings) (session : Session)
    (written : Nat) : IO UInt32 := do
  if !settings.infinite && settings.number ≤ written then
    IO.println ""
    return 0
  let session := session.setClock ((← IO.monoNanosNow) - began)
  let turn := session.generate
  turn.diagnostics.forM fun d => perform (.diagnostic d)
  match turn.result with
  | .error e =>
      perform (complaintOf e)
      return 1
  | .ok word =>
      perform (.output (wordText settings written word))
      write began settings turn.session (written + 1)

/-- Carries out settings. -/
def carryOut (settings : Settings) : IO UInt32 := do
  let began ← IO.monoNanosNow
  let seed := (← IO.getRandomBytes 8).toUInt64LE!
  let directory := toString (← IO.currentDir)
  let session := start settings (.ofSeed seed) directory
  let path := session.resolve settings.file
  let text ← readText path
  let session := session.setClock ((← IO.monoNanosNow) - began)
  let turn := session.loadPath (knowing path text) settings.file
  turn.diagnostics.forM fun d => perform (.diagnostic d)
  match turn.result with
  | .error e =>
      perform (complaintOf e)
      return 1
  | .ok () =>
      let spent := (← IO.monoNanosNow) - began
      let tenths := Text.roundHalfEven spent 100000
      let places := Text.padLeft 4 '0' (toString (tenths % 10000))
      IO.eprintln s!"Took {tenths / 10000}.{places} seconds to load"
      if settings.interactive then
        Shell.banner.forM perform
        talk began turn.session
      else
        match announcement settings with
        | .effect effect => perform effect
        | .loadTime => pure ()
        write began settings turn.session 0

end WordGrammar.Main

/-- The entry point. -/
def main (arguments : List String) : IO UInt32 := do
  match WordGrammar.CommandLine.parse arguments with
  | .ok settings => WordGrammar.Main.carryOut settings
  | .error .version =>
      IO.print WordGrammar.CommandLine.versionText
      return 0
  | .error .help =>
      IO.print WordGrammar.CommandLine.helpText
      return 0
  | .error (.refused refusal) =>
      IO.eprintln s!"error: {refusal.message}"
      return 2
