/-
The buffer of a trace: the newest records, up to a capacity.

Records are numbered in the order in which they are pushed, without
regard to what has been dropped or cleared. When the buffer is full the
oldest record makes room; a buffer without capacity drops every record at
once.
-/
import WordGrammar.Trace.Event

namespace WordGrammar.Trace

/-- Records in the order in which they were pushed, in two lists: new
records come in front of one list, and the oldest one is taken from the
front of the other. -/
structure Buffer where
  capacity : Nat
  /-- The older records, oldest first. -/
  older : List Record := []
  /-- The newer records, newest first. -/
  newer : List Record := []
  size : Nat := 0
  nextId : Nat := 0
  size_eq : size = older.length + newer.length := by rfl
  size_le : size ≤ capacity
  deriving DecidableEq

namespace Buffer

/-- The capacity of a buffer that nothing else is asked of. -/
def defaultCapacity : Nat := 1000

/-- A buffer without records. -/
def empty (capacity : Nat) : Buffer where
  capacity := capacity
  size_le := Nat.zero_le _

/-- The records, oldest first. -/
def records (buffer : Buffer) : List Record :=
  buffer.older ++ buffer.newer.reverse

theorem length_records (buffer : Buffer) :
    buffer.records.length = buffer.size := by
  simp [records, buffer.size_eq]

/-- The buffer with a record at its end; the oldest one makes room if it is
full. -/
def keep (buffer : Buffer) (record : Record) : Buffer :=
  let next := buffer.nextId + 1
  if room : buffer.size < buffer.capacity then
    { buffer with
      newer := record :: buffer.newer
      size := buffer.size + 1
      nextId := next
      size_eq := by simp [buffer.size_eq]; omega
      size_le := room }
  else
    match held : buffer.older with
    | _ :: older =>
        { buffer with
          older
          newer := record :: buffer.newer
          nextId := next
          size_eq := by simp [buffer.size_eq, held]; omega }
    | [] =>
        { buffer with
          older := (record :: buffer.newer).reverse.drop 1
          newer := []
          nextId := next
          size_eq := by simp [buffer.size_eq, held] }

/-- Records an event under the next number, which it gives back. -/
def push (buffer : Buffer) (word time : Nat) (event : Event) :
    Nat × Buffer :=
  (buffer.nextId, buffer.keep ⟨buffer.nextId, word, time, event⟩)

section

variable {buffer : Buffer} {record : Record}

@[simp] theorem capacity_keep :
    (buffer.keep record).capacity = buffer.capacity := by
  unfold keep
  dsimp only
  split
  · rfl
  · split <;> rfl

@[simp] theorem nextId_keep :
    (buffer.keep record).nextId = buffer.nextId + 1 := by
  unfold keep
  dsimp only
  split
  · rfl
  · split <;> rfl

/-- A record is appended, and what exceeds the capacity is dropped. -/
theorem records_keep (buffer : Buffer) (record : Record) :
    (buffer.keep record).records = (buffer.records ++ [record]).drop
      (buffer.size + 1 - buffer.capacity) := by
  have size_le := buffer.size_le
  unfold keep
  dsimp only
  split
  case isTrue room =>
    have none : buffer.size + 1 - buffer.capacity = 0 := by omega
    simp [records, none]
  case isFalse full =>
    have one : buffer.size + 1 - buffer.capacity = 1 := by omega
    -- The oldest record is the first of `older`; if all of those have gone,
    -- it is the last of `newer`.
    split
    · next held => simp [records, one, held]
    · next held => simp [records, one, held]

end

section

variable {buffer : Buffer} {word time : Nat} {event : Event}

@[simp] theorem capacity_push :
    (buffer.push word time event).2.capacity = buffer.capacity :=
  capacity_keep

@[simp] theorem nextId_push :
    (buffer.push word time event).2.nextId = buffer.nextId + 1 :=
  nextId_keep

theorem records_push :
    (buffer.push word time event).2.records =
      (buffer.records
        ++ [(⟨buffer.nextId, word, time, event⟩ : Record)]).drop
        (buffer.size + 1 - buffer.capacity) :=
  records_keep buffer _

end

/-- Drops every record; numbers go on. -/
def clear (buffer : Buffer) : Buffer :=
  { empty buffer.capacity with nextId := buffer.nextId }

/-- The newest record. -/
def last? (buffer : Buffer) : Option Record :=
  buffer.newer.head?.or buffer.older.getLast?

theorem last?_eq_getLast? (buffer : Buffer) :
    buffer.last? = buffer.records.getLast? := by
  cases h : buffer.newer <;> simp [last?, records, h]

/-- The records that belong to a word. -/
def ofWord (buffer : Buffer) (word : Nat) : List Record :=
  buffer.records.filter (·.word == word)

/-- The newest `count` records. -/
def recent (buffer : Buffer) (count : Nat) : List Record :=
  buffer.records.drop (buffer.size - count)

/-- The records whose type has a name. -/
def ofTypeNamed (buffer : Buffer) (name : String) : List Record :=
  buffer.records.filter (·.event.type.name == name)

/-- Figures about a buffer. -/
structure Stats where
  recordCount : Nat
  capacity : Nat
  /-- How many records there are of each type that occurs. -/
  counts : List (EventType × Nat)
  /-- The word of the newest record. -/
  newestWord : Option Nat
  deriving DecidableEq

/-- The figures of a buffer. -/
def stats (buffer : Buffer) : Stats where
  recordCount := buffer.size
  capacity := buffer.capacity
  counts := EventType.all.filterMap fun type =>
    let count := (buffer.records.filter (·.event.type == type)).length
    if count = 0 then none else some (type, count)
  newestWord := buffer.last?.map (·.word)

end Buffer

end WordGrammar.Trace
