/-
The buffer of a trace as a window on all that was ever pushed.

The log of some calls has a record for every push, numbered in order; it
forgets nothing. A buffer shows the end of its log: the records since it was
last cleared, as far as it has room for them (`Buffer.IsWindow`). A push
moves the window on by one record and a clear closes it, and both leave the
log's numbers alone, so this holds after any calls
(`Buffer.isWindow_performAll`).
-/
import Mathlib.Algebra.Ring.Nat
import Mathlib.Data.List.DropRight
import Mathlib.Data.List.Induction
import WordGrammar.Trace.Buffer

namespace WordGrammar.Trace

namespace Buffer

-- ================================================================ calls

/-- Something that is done with a buffer. -/
inductive Call
  | push (word time : Nat) (event : Event)
  | clear

namespace Call

/-- Whether the call pushes a record. -/
def isPush : Call → Bool
  | push .. => true
  | clear => false

/-- The word, the time and the event that a call pushes. -/
def pushed? : Call → Option (Nat × Nat × Event)
  | push word time event => some (word, time, event)
  | clear => none

/-- A record for each push, oldest first, with the number of pushes before
it as its number. -/
def log (calls : List Call) : List Record :=
  (calls.filterMap pushed?).mapIdx fun id (word, time, event) =>
    ⟨id, word, time, event⟩

end Call

/-- The number that a call gives back, if it pushes a record, and the buffer
after it. -/
def perform (buffer : Buffer) : Call → Option Nat × Buffer
  | .push word time event =>
      let (id, buffer) := buffer.push word time event
      (some id, buffer)
  | .clear => (none, buffer.clear)

/-- The numbers that several calls give back, one for each push, and the
buffer after them. -/
def performAll (buffer : Buffer) : List Call → List Nat × Buffer
  | [] => ([], buffer)
  | call :: rest =>
      let (id, buffer) := buffer.perform call
      let (ids, buffer) := buffer.performAll rest
      (id.toList ++ ids, buffer)

namespace Call

variable {calls : List Call} {word time : Nat} {event : Event}

/-- A push adds a record to the log, whose number is that of the pushes
before it. -/
theorem log_concat_push :
    log (calls ++ [push word time event])
      = log calls ++ [⟨(log calls).length, word, time, event⟩] := by
  simp [log, pushed?, List.mapIdx_append]

/-- The log does not forget what a clear drops. -/
theorem log_concat_clear : log (calls ++ [clear]) = log calls := by
  have hnone : (calls ++ [clear]).filterMap pushed?
      = calls.filterMap pushed? := by
    rw [List.filterMap_append]
    exact List.append_nil _
  rw [log, hnone, log]

theorem length_log : (log calls).length = calls.countP isPush := by
  induction calls using List.reverseRecOn with
  | nil => rfl
  | append_singleton calls call ih =>
      rw [List.countP_append]
      cases call with
      | push => rw [log_concat_push, List.length_append, ih]; rfl
      | clear => rw [log_concat_clear, ih]; rfl

/-- The records of a log are numbered from 0 on. -/
theorem map_id_log :
    (log calls).map Record.id = List.range (log calls).length := by
  induction calls using List.reverseRecOn with
  | nil => rfl
  | append_singleton calls call ih =>
      cases call with
      | push =>
          rw [log_concat_push, List.map_append, ih, List.length_append,
            List.length_singleton, List.range_succ]
          rfl
      | clear => rw [log_concat_clear, ih]

end Call

-- ============================================================== windows

/-- `buffer.IsWindow log recent`: of the log's newest records, `recent` in
number, the buffer holds as many as it has room for, and its next record
goes on with the log's numbers. -/
structure IsWindow (buffer : Buffer) (log : List Record) (recent : Nat) :
    Prop where
  records : buffer.records = log.rtake (min buffer.capacity recent)
  nextId : buffer.nextId = log.length
  recent_le : recent ≤ log.length

section

variable {buffer : Buffer} {log : List Record} {recent : Nat}

theorem isWindow_empty (capacity : Nat) : (empty capacity).IsWindow [] 0 :=
  ⟨by simp [empty, records], rfl, Nat.le_refl 0⟩

/-- A cleared buffer shows nothing of the log. -/
theorem IsWindow.clear (h : buffer.IsWindow log recent) :
    buffer.clear.IsWindow log 0 :=
  ⟨by simp [Buffer.clear, empty, Buffer.records], h.nextId, Nat.zero_le _⟩

/-- A window is as wide as there is room, and no wider than what was pushed
since the last clear. -/
theorem IsWindow.size_eq (h : buffer.IsWindow log recent) :
    buffer.size = min buffer.capacity recent := by
  have hle := h.recent_le
  rw [← buffer.length_records, h.records, List.rtake, List.length_drop]
  omega

/-- A push moves the window on by a record. -/
theorem IsWindow.push (h : buffer.IsWindow log recent)
    (word time : Nat) (event : Event) :
    (buffer.push word time event).2.IsWindow
      (log ++ [⟨log.length, word, time, event⟩]) (recent + 1) := by
  have hle := h.recent_le
  have hsize := h.size_eq
  refine ⟨?_, ?_, ?_⟩
  -- Of one record more, one more is dropped if the buffer is full; either
  -- way the window ends where the log does.
  · have hshort : log.length - min buffer.capacity recent ≤ log.length :=
      Nat.sub_le _ _
    rw [records_push, h.records, h.nextId, capacity_push, List.rtake,
      List.rtake, ← List.drop_append_of_le_length hshort, List.drop_drop,
      List.length_append, List.length_singleton]
    congr 1
    omega
  · rw [nextId_push, h.nextId, List.length_append, List.length_singleton]
  · rw [List.length_append, List.length_singleton]
    omega

end

/-- The last call is performed on what the others leave. -/
theorem performAll_concat_snd (buffer : Buffer) (calls : List Call)
    (call : Call) : (buffer.performAll (calls ++ [call])).2
      = ((buffer.performAll calls).2.perform call).2 := by
  induction calls generalizing buffer with
  | nil => rfl
  | cons first rest ih => exact ih (buffer.perform first).2

/-- After any calls a new buffer is the window on their log that has been
open since the last clear. -/
theorem isWindow_performAll (capacity : Nat) (calls : List Call) :
    ((empty capacity).performAll calls).2.IsWindow (Call.log calls)
      (calls.rtakeWhile Call.isPush).length := by
  -- On the last call, since that decides how many pushes there were since
  -- the last clear.
  induction calls using List.reverseRecOn with
  | nil => exact isWindow_empty capacity
  | append_singleton calls call ih =>
      rw [performAll_concat_snd]
      cases call with
      | push word time event =>
          rw [Call.log_concat_push, List.rtakeWhile_concat_pos _ _ _ rfl,
            List.length_append]
          exact ih.push word time event
      | clear =>
          rw [Call.log_concat_clear,
            List.rtakeWhile_concat_neg _ _ _ Bool.false_ne_true]
          exact ih.clear

theorem capacity_performAll (buffer : Buffer) (calls : List Call) :
    (buffer.performAll calls).2.capacity = buffer.capacity := by
  induction calls generalizing buffer with
  | nil => rfl
  | cons call rest ih =>
      refine (ih (buffer.perform call).2).trans ?_
      cases call with
      | push => exact capacity_push
      | clear => rfl

/-- The numbers that are given back go on from the buffer's, one for each
push, whatever is dropped or cleared. -/
theorem performAll_fst (buffer : Buffer) (calls : List Call) :
    (buffer.performAll calls).1
      = List.range' buffer.nextId (calls.countP Call.isPush) := by
  induction calls generalizing buffer with
  | nil => rfl
  | cons call rest ih =>
      show (buffer.perform call).1.toList
        ++ ((buffer.perform call).2.performAll rest).1 = _
      rw [ih]
      cases call with
      | push =>
          rw [perform, nextId_push, List.countP_cons_of_pos rfl,
            List.range'_succ]
          rfl
      | clear =>
          rw [List.countP_cons_of_neg Bool.false_ne_true]
          rfl

-- ============================================================== figures

section

variable (buffer : Buffer)

/-- The newest records are the last ones that are held. -/
theorem recent_eq (count : Nat) :
    buffer.recent count
      = buffer.records.rtake (min count buffer.records.length) := by
  rw [recent, List.rtake, buffer.length_records]
  congr 1
  omega

/-- A type is found by its name, since no two types have one name. -/
theorem ofTypeNamed_name (type : EventType) :
    buffer.ofTypeNamed type.name
      = buffer.records.filter (·.event.type == type) := by
  refine List.filter_congr fun record _ => ?_
  cases record.event.type <;> cases type <;> rfl

/-- The figures name the types that occur, each with the number of its
records. -/
theorem counts_stats :
    buffer.stats.counts
      = (EventType.all.filter fun type =>
          (buffer.ofTypeNamed type.name).length ≠ 0).map fun type =>
        (type, (buffer.ofTypeNamed type.name).length) := by
  show (EventType.all.filterMap fun type =>
    let count := (buffer.records.filter (·.event.type == type)).length
    if count = 0 then none else some (type, count)) = _
  induction EventType.all with
  | nil => rfl
  | cons type types ih =>
      rw [List.filterMap_cons, List.filter_cons, ofTypeNamed_name]
      by_cases hnone :
          (buffer.records.filter (·.event.type == type)).length = 0
      · simpa [hnone] using ih
      · simpa [hnone, ofTypeNamed_name] using ih

/-- The figures have the types that occur, and the numbers of their records.
-/
theorem mem_counts_stats (type : EventType) (count : Nat) :
    (type, count) ∈ buffer.stats.counts
      ↔ count = (buffer.ofTypeNamed type.name).length ∧ count ≠ 0 := by
  have hall : type ∈ EventType.all := by cases type <;> decide
  rw [counts_stats, List.mem_map]
  constructor
  · rintro ⟨type, htype, heq⟩
    cases heq
    exact ⟨rfl, by simpa using (List.mem_filter.1 htype).2⟩
  · rintro ⟨rfl, hne⟩
    exact ⟨type, List.mem_filter.2 ⟨hall, by simpa using hne⟩, rfl⟩

theorem nodup_counts_stats : (buffer.stats.counts.map Prod.fst).Nodup := by
  have hall : EventType.all.Nodup := by decide
  rw [counts_stats, List.map_map]
  exact (List.map_id _).symm ▸ hall.filter _

/-- Every record is of one type. -/
theorem sum_length_filter (records : List Record) :
    (EventType.all.map fun type =>
      (records.filter (·.event.type == type)).length).sum
      = records.length := by
  induction records with
  | nil => rfl
  | cons record records ih =>
      rw [List.length_cons, ← ih]
      -- A record adds one to the number of its own type.
      cases htype : record.event.type <;>
        simp [EventType.all, List.filter_cons, htype] <;> omega

/-- The numbers of the figures add up to all records that are held. -/
theorem sum_counts_stats :
    (buffer.stats.counts.map Prod.snd).sum = buffer.records.length := by
  rw [counts_stats, ← sum_length_filter]
  simp only [ofTypeNamed_name]
  induction EventType.all with
  | nil => rfl
  | cons type types ih =>
      rw [List.filter_cons, List.map_cons, List.sum_cons, ← ih]
      by_cases hnone :
          (buffer.records.filter (·.event.type == type)).length = 0
      · simp [hnone]
      · simp [hnone]

end

/-- A new buffer after any pushes and clears. The pushes gave back the
numbers from 0 on, in order. Of the pushed records, each with its number and
otherwise as it was pushed, the buffer holds the last ones, as many as were
pushed since the last clear but no more than it has room for. Its newest
records are the last of these, and its figures have each type of event that
occurs once, with the number of its records; together these are all
records. -/
theorem performAll_window (capacity : Nat) (calls : List Call) :
    let returned := ((empty capacity).performAll calls).1
    let buffer := ((empty capacity).performAll calls).2
    let log := Call.log calls
    let held := min capacity (calls.rtakeWhile Call.isPush).length
    returned = List.range (calls.countP Call.isPush)
      ∧ log.length = calls.countP Call.isPush
      ∧ buffer.records = log.rtake held
      ∧ buffer.records.map Record.id
        = List.range' (log.length - held) held
      ∧ (∀ count, buffer.recent count
        = buffer.records.rtake (min count buffer.records.length))
      ∧ (∀ type count, (type, count) ∈ buffer.stats.counts
        ↔ count = (buffer.ofTypeNamed type.name).length ∧ count ≠ 0)
      ∧ (buffer.stats.counts.map Prod.fst).Nodup
      ∧ (buffer.stats.counts.map Prod.snd).sum = buffer.stats.recordCount
      ∧ buffer.stats.recordCount = buffer.records.length := by
  intro returned buffer log held
  have hwindow := isWindow_performAll capacity calls
  have hrecords : buffer.records = log.rtake held := by
    have h := hwindow.records
    rwa [capacity_performAll] at h
  have hheld : held ≤ log.length :=
    (Nat.min_le_right _ _).trans hwindow.recent_le
  refine ⟨?_, Call.length_log, hrecords, ?_, buffer.recent_eq,
    buffer.mem_counts_stats, buffer.nodup_counts_stats, ?_,
    buffer.length_records.symm⟩
  · exact (performAll_fst (empty capacity) calls).trans
      List.range_eq_range'.symm
  · rw [hrecords, List.rtake, List.map_drop, Call.map_id_log,
      List.range_eq_range', List.drop_range', Nat.sub_sub_self hheld]
    congr 1
    omega
  · exact buffer.sum_counts_stats.trans buffer.length_records

example :
    let e : Event := .wordGenerated "ka"
    let (returned, buffer) := (empty 2).performAll [.push 1 0 e, .clear,
      .push 2 5 e, .push 3 6 e, .push 4 7 e]
    returned = [0, 1, 2, 3]
      ∧ buffer.records = [⟨2, 3, 6, e⟩, ⟨3, 4, 7, e⟩] := by decide

end Buffer

end WordGrammar.Trace
