/-
A tree of files.

Files and directories are named by the components of their paths below
one home directory; a directory also exists if something lies below it.
Of the rest of the system only what every system has is known. Reading a
path walks its components: a name that is too long or missing, a file
where a directory is needed, a directory where a file is wanted and bytes
that are no text are told apart, in the order in which the walk meets
them.
-/
import WordGrammar.Path

namespace WordGrammar

/-- Something in a tree. -/
inductive FileEntry
  | file (bytes : List UInt8)
  | directory
  deriving DecidableEq

/-- A home directory and what lies below it. -/
structure FileTree where
  home : String
  entries : List (List String × FileEntry)

/-- Why a file cannot be read. -/
inductive FileFault
  | notFound
  | notPermitted
  | notDirectory
  | isDirectory
  | nameTooLong
  | tooManyLinks
  | nameWithNul
  | notText
  deriving DecidableEq, Repr

namespace FileFault

/-- What a fault says. -/
def text : FileFault → String
  | notFound => "No such file or directory"
  | notPermitted => "Permission denied"
  | notDirectory => "Not a directory"
  | isDirectory => "Is a directory"
  | nameTooLong => "File name too long"
  | tooManyLinks => "Too many levels of symbolic links"
  | nameWithNul => "file name contained an unexpected NUL byte"
  | notText => "stream did not contain valid UTF-8"

/-- The number by which the operating system knows a fault; none if it is
found without asking. -/
def number? : FileFault → Option Nat
  | notFound => some 2
  | notPermitted => some 13
  | notDirectory => some 20
  | isDirectory => some 21
  | nameTooLong => some 36
  | tooManyLinks => some 40
  | nameWithNul | notText => none

/-- The wording of a numbered fault. -/
def numbered (text : String) (number : Nat) : String :=
  s!"{text} (os error {number})"

/-- The wording of a fault. -/
def message (fault : FileFault) : String :=
  match fault.number? with
  | some number => numbered fault.text number
  | none => fault.text

/-- The fault with a number. -/
def ofNumber? (number : Nat) : Option FileFault :=
  [notFound, notPermitted, notDirectory, isDirectory, nameTooLong,
    tooManyLinks].find? fun fault => fault.number? == some number

end FileFault

namespace FileTree

/-- What lies at a place below the home directory. -/
def entry? (tree : FileTree) (place : List String) : Option FileEntry :=
  match tree.entries.find? fun (name, _) => name == place with
  | some (_, entry) => some entry
  | none =>
      if tree.entries.any fun (name, _) => place.isPrefixOf name then
        some .directory
      else none

/-- Where a walk can begin. -/
inductive Ground
  /-- The root of the system. -/
  | system
  /-- The home directory. -/
  | home
  /-- The directories above the home directory, where no name is
  known. -/
  | above
  deriving DecidableEq, Repr

/-- A directory: where the walk to it begins, and the names on the way. -/
structure Place where
  ground : Ground
  names : List String := []
  deriving DecidableEq, Repr

/-- The directory that a directory lies in; the root lies in itself. -/
def Place.up (place : Place) : Place :=
  match place.ground, place.names with
  | .home, [] => ⟨.above, []⟩
  | _, _ => { place with names := place.names.dropLast }

/-- The directory of a name in a directory. -/
def Place.down (place : Place) (name : String) : Place :=
  { place with names := place.names ++ [name] }

/-- The directories at the root of a system. -/
def systemDirectories : List String :=
  ["bin", "boot", "dev", "etc", "home", "lib", "media", "mnt", "opt",
    "proc", "root", "run", "sbin", "srv", "sys", "tmp", "usr", "var"]

/-- What lies below the root of a system: its directories and a file that
is always empty. Nothing else is known. -/
def systemEntry? : List String → Option FileEntry
  | [] => some .directory
  | [name] => if systemDirectories.contains name then some .directory else none
  | names => if names = ["dev", "null"] then some (.file []) else none

/-- What lies at a place. -/
def at? (tree : FileTree) (place : Place) : Option FileEntry :=
  match place.ground with
  | .system => systemEntry? place.names
  | .home => tree.entry? place.names
  | .above => none

/-- The most bytes that one component may have. -/
def componentLimit : Nat := 255

/-- A path has to have fewer bytes than this. -/
def pathLimit : Nat := 4096

/-- The bytes found by walking from a directory. -/
def walk (tree : FileTree) (place : Place) :
    List String → Except FileFault (List UInt8)
  | [] => .error .isDirectory
  | component :: rest =>
      if Path.isIdle component then walk tree place rest
      else if component = ".." then walk tree place.up rest
      else if componentLimit < component.utf8ByteSize then
        .error .nameTooLong
      else
        match tree.at? (place.down component) with
        | none => .error .notFound
        | some .directory => walk tree (place.down component) rest
        | some (.file bytes) =>
            if rest = [] then .ok bytes else .error .notDirectory

/-- The bytes of a file. -/
def readBytes (tree : FileTree) (path : String) :
    Except FileFault (List UInt8) :=
  if path.toList.contains '\x00' then .error .nameWithNul
  else if pathLimit ≤ path.utf8ByteSize then .error .nameTooLong
  else
    let home := tree.home.toList
    let rest := path.toList.drop home.length
    if home.isPrefixOf path.toList && (rest.head?.all (· == '/')) then
      tree.walk ⟨.home, []⟩ (Path.components (String.ofList rest))
    else tree.walk ⟨.system, []⟩ (Path.components path)

/-- The text of a file, or the wording of why there is none. -/
def read (tree : FileTree) (path : String) : Except String String :=
  match tree.readBytes path with
  | .error fault => .error fault.message
  | .ok bytes =>
      match String.fromUTF8? ⟨bytes.toArray⟩ with
      | some text => .ok text
      | none => .error FileFault.notText.message

end FileTree

end WordGrammar
