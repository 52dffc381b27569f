/-
What a tracer keeps of the events that are reported to it.

As long as there is room, the trace only grows: recorded events go to its
end, numbered on from the ones before (`Tracer.Takes`,
`Tracer.exists_takes_recordAll`). Which word a record is filed under is
settled when it is made: under none if something was compiled, else under
the word that was begun last. So a trace is what was compiled and the
records of the words, each word's in one run, in the order in which the
words were begun (`Trace.Files`); that is enough to tell what is filed
under each number (`Trace.Files.ofWord`).
-/
import WordGrammar.Trace.Tracer

namespace WordGrammar

namespace Trace

-- ============================================================== buffers

namespace Buffer

variable {buffer middle later : Buffer} {new more : List Record}
  {word time : Nat} {event : Event}

/-- `buffer.Grows later new`: the later buffer has the new records after
those of the buffer, numbered on from there. -/
structure Grows (buffer later : Buffer) (new : List Record) : Prop where
  capacity : later.capacity = buffer.capacity
  records : later.records = buffer.records ++ new
  nextId : later.nextId = buffer.nextId + new.length
  ids : new.map Record.id = List.range' buffer.nextId new.length

theorem Grows.refl : buffer.Grows buffer [] :=
  ⟨rfl, (List.append_nil _).symm, rfl, rfl⟩

theorem Grows.trans (h : buffer.Grows middle new)
    (h' : middle.Grows later more) : buffer.Grows later (new ++ more) := by
  refine ⟨h'.capacity.trans h.capacity, ?_, ?_, ?_⟩
  · rw [h'.records, h.records, List.append_assoc]
  · rw [h'.nextId, h.nextId, List.length_append, Nat.add_assoc]
  · rw [List.map_append, h.ids, h'.ids, h.nextId, List.length_append,
      List.range'_append_1]

/-- While there is room, no record is dropped. -/
theorem grows_push (hroom : buffer.records.length < buffer.capacity) :
    buffer.Grows (buffer.push word time event).2
      [⟨buffer.nextId, word, time, event⟩] := by
  refine ⟨capacity_push, ?_, nextId_push, rfl⟩
  rw [length_records] at hroom
  have hnone : buffer.size + 1 - buffer.capacity = 0 := by omega
  rw [records_push, hnone, List.drop_zero]

end Buffer

-- =============================================================== filing

/-- `Files n words records`: apart from compilation, which is filed under
no word, the records are the events of the words, in order and each word's
together, under the numbers from `n + 1` on. -/
inductive Files : Nat → List (List Event) → List Record → Prop
  | nil {n : Nat} : Files n [] []
  | compile {n : Nat} {record : Record} {words : List (List Event)}
      {rest : List Record} :
      record.event.isCompile = true → record.word = 0 →
      Files n words rest → Files n words (record :: rest)
  | word {n : Nat} {here rest : List Record} {words : List (List Event)} :
      (∀ record ∈ here,
        record.event.isCompile = false ∧ record.word = n + 1) →
      Files (n + 1) words rest →
      Files n (here.map Record.event :: words) (here ++ rest)

namespace Files

variable {n : Nat} {words words' : List (List Event)}
  {records records' : List Record}

/-- One trace goes on where another ends. -/
theorem append (h : Files n words records)
    (h' : Files (n + words.length) words' records') :
    Files n (words ++ words') (records ++ records') := by
  induction h with
  | nil => exact h'
  | compile hcompile hword _ ih => exact .compile hcompile hword (ih h')
  | @word n here rest words hhere _ ih =>
      rw [List.append_assoc]
      have hnext : n + (here.map Record.event :: words).length
          = n + 1 + words.length := by
        rw [List.length_cons]
        omega
      rw [hnext] at h'
      exact .word hhere (ih h')

/-- Compilation is filed under no word, and all else under one of the
later ones. -/
theorem filed (h : Files n words records) :
    ∀ record ∈ records,
      (record.event.isCompile = true ∧ record.word = 0)
        ∨ (record.event.isCompile = false ∧ n < record.word) := by
  induction h with
  | nil => exact fun _ h => nomatch h
  | compile hcompile hword _ ih =>
      exact List.forall_mem_cons.2 ⟨.inl ⟨hcompile, hword⟩, ih⟩
  | word hhere _ ih =>
      intro record hrecord
      rcases List.mem_append.1 hrecord with hrecord | hrecord
      · obtain ⟨hcompile, hword⟩ := hhere record hrecord
        exact .inr ⟨hcompile, by omega⟩
      · rcases ih record hrecord with hnone | ⟨hcompile, hword⟩
        · exact .inl hnone
        · exact .inr ⟨hcompile, by omega⟩

theorem word_eq_zero_iff (h : Files n words records) :
    ∀ record ∈ records,
      record.word = 0 ↔ record.event.isCompile = true := by
  intro record hrecord
  rcases h.filed record hrecord with ⟨hcompile, hword⟩ | ⟨hcompile, hword⟩
  · simp [hcompile, hword]
  · simp [hcompile]
    omega

/-- Under each number there are the events of one word, and under those
after the last word nothing. -/
theorem ofWord (h : Files n words records) (i : Nat) :
    (records.filter (·.word == n + 1 + i)).map Record.event
      = words[i]?.getD [] := by
  induction h generalizing i with
  | nil => rfl
  | @compile n record words rest _ hword _ ih =>
      have hother : ¬ (record.word == n + 1 + i) = true := by
        rw [hword]
        simp
        omega
      rw [List.filter_cons, if_neg hother, ih]
  | @word n here rest words hhere hrest ih =>
      rw [List.filter_append, List.map_append]
      cases i with
      | zero =>
          have hall : here.filter (·.word == n + 1 + 0) = here :=
            List.filter_eq_self.2 fun record hrecord => by
              simp [(hhere record hrecord).2]
          have hnone : rest.filter (·.word == n + 1 + 0) = [] := by
            refine List.filter_eq_nil_iff.2 fun record hrecord => ?_
            have hfiled := hrest.filed record hrecord
            simp
            omega
          rw [hall, hnone]
          simp
      -- The words of the rest are numbered from one further on, which makes
      -- up for the first one.
      | succ i =>
          have hnone : here.filter (·.word == n + 1 + (i + 1)) = [] := by
            refine List.filter_eq_nil_iff.2 fun record hrecord => ?_
            have hword := (hhere record hrecord).2
            simp
            omega
          have hnext : n + 1 + (i + 1) = n + 1 + 1 + i := by omega
          rw [hnone, hnext, ih]
          rfl

end Files

end Trace

-- =============================================================== tracers

open Trace

namespace Tracer

/-- Whether the tracer records an event that is reported to it. -/
def accepts (tracer : Tracer) (event : Event) : Bool :=
  tracer.isOn && tracer.config.records event.type

/-- `tracer.Takes later new`: the later tracer is the same but for the new
records at the end of its trace, each of them filed where it belongs. -/
structure Takes (tracer later : Tracer) (new : List Trace.Record) : Prop where
  keeps : later = { tracer with buffer := later.buffer }
  grows : tracer.buffer.Grows later.buffer new
  word : ∀ record ∈ new,
    record.word = if record.event.isCompile then 0 else tracer.word

section

variable {tracer middle later : Tracer} {new more : List Trace.Record}
  {event : Event}

theorem Takes.refl : tracer.Takes tracer [] :=
  ⟨rfl, .refl, fun _ h => nomatch h⟩

theorem Takes.trans (h : tracer.Takes middle new)
    (h' : middle.Takes later more) : tracer.Takes later (new ++ more) := by
  have hword : middle.word = tracer.word := by rw [h.keeps]
  refine ⟨?_, h.grows.trans h'.grows, ?_⟩
  · rw [h'.keeps, h.keeps]
  · intro record hrecord
    rcases List.mem_append.1 hrecord with hrecord | hrecord
    · exact h.word record hrecord
    · rw [← hword]
      exact h'.word record hrecord

/-- What a tracer accepts is settled by its switch and its configuration,
which recording leaves alone. -/
theorem Takes.accepts_eq (h : tracer.Takes later new) :
    later.accepts = tracer.accepts := by
  rw [h.keeps]
  rfl

theorem record_of_not_accepts (h : ¬ tracer.accepts event = true) :
    (tracer.record event).1 = tracer :=
  congrArg Prod.fst (if_neg h)

/-- An accepted event is filed under no word if something was compiled, else
under the word that was begun last. -/
theorem record_of_accepts (h : tracer.accepts event = true) :
    (tracer.record event).1 = { tracer with
      buffer := (tracer.buffer.push
        (if event.isCompile then 0 else tracer.word)
        (tracer.clock - tracer.began) event).2 } :=
  congrArg Prod.fst (if_pos h)

/-- With room for it, an accepted event becomes the one new record. -/
theorem exists_takes_record (h : tracer.accepts event = true)
    (hroom : tracer.buffer.records.length < tracer.buffer.capacity) :
    ∃ record : Trace.Record, record.event = event
      ∧ tracer.Takes (tracer.record event).1 [record] := by
  rw [record_of_accepts h]
  exact ⟨⟨tracer.buffer.nextId, if event.isCompile then 0 else tracer.word,
    tracer.clock - tracer.began, event⟩, rfl, rfl, Buffer.grows_push hroom,
    List.forall_mem_singleton.2 rfl⟩

/-- As long as there is room, all events that the tracer accepts are
recorded, in the order in which they are reported. -/
theorem exists_takes_recordAll {events : List Event}
    (hroom : tracer.buffer.records.length
      + (events.filter tracer.accepts).length ≤ tracer.buffer.capacity) :
    ∃ new, tracer.Takes (tracer.recordAll events).1 new
      ∧ new.map Trace.Record.event = events.filter tracer.accepts := by
  -- Each event that is accepted takes up one record of the room; one that
  -- is not leaves the tracer as it is.
  induction events generalizing tracer with
  | nil => exact ⟨[], .refl, rfl⟩
  | cons event events ih =>
      show ∃ new, tracer.Takes
          ((tracer.record event).1.recordAll events).1 new ∧ _
      by_cases haccepts : tracer.accepts event = true
      · rw [List.filter_cons_of_pos haccepts] at hroom ⊢
        rw [List.length_cons] at hroom
        obtain ⟨record, rfl, hrecord⟩ :=
          exists_takes_record haccepts (by omega)
        have hrest : (tracer.record record.event).1.buffer.records.length
            + (events.filter (tracer.record record.event).1.accepts).length
              ≤ (tracer.record record.event).1.buffer.capacity := by
          rw [hrecord.accepts_eq, hrecord.grows.records,
            hrecord.grows.capacity, List.length_append,
            List.length_singleton]
          omega
        obtain ⟨new, hnew, hevents⟩ := ih hrest
        refine ⟨[record] ++ new, hrecord.trans hnew, ?_⟩
        rw [List.map_append, hevents, hrecord.accepts_eq]
        rfl
      · rw [List.filter_cons_of_neg haccepts] at hroom ⊢
        rw [record_of_not_accepts haccepts]
        exact ih hroom

/-- Events can be reported in several goes. -/
theorem recordAll_append (a b : List Event) :
    (tracer.recordAll (a ++ b)).1
      = ((tracer.recordAll a).1.recordAll b).1 := by
  induction a generalizing tracer with
  | nil => rfl
  | cons event a ih => exact ih

end

-- ------------------------------------------------------ from word to word

/-- `tracer.Follows later words new`: since then the tracer has begun these
words, and the new records at the end of its trace are filed as theirs. It
may have been switched in between, and the clock has gone on. -/
structure Follows (tracer later : Tracer) (words : List (List Event))
    (new : List Trace.Record) : Prop where
  morphology : later.config.morphology = tracer.config.morphology
  grows : tracer.buffer.Grows later.buffer new
  files : Files tracer.word words new
  word : later.word = tracer.word + words.length

section

variable {tracer middle later : Tracer} {words words' : List (List Event)}
  {new more : List Trace.Record}

theorem Follows.refl : tracer.Follows tracer [] [] :=
  ⟨rfl, .refl, .nil, rfl⟩

theorem Follows.trans (h : tracer.Follows middle words new)
    (h' : middle.Follows later words' more) :
    tracer.Follows later (words ++ words') (new ++ more) := by
  refine ⟨h'.morphology.trans h.morphology, h.grows.trans h'.grows, ?_, ?_⟩
  · have hfiles := h'.files
    rw [h.word] at hfiles
    exact h.files.append hfiles
  · rw [h'.word, h.word, List.length_append, Nat.add_assoc]

/-- What is compiled belongs to no word. -/
theorem Takes.follows_compile (h : tracer.Takes later new)
    (hcompile : ∀ record ∈ new, record.event.isCompile = true) :
    tracer.Follows later [] new := by
  have hfiles : ∀ {records : List Trace.Record}, (∀ record ∈ records,
      record.event.isCompile = true ∧ record.word = 0) →
      Files tracer.word [] records := by
    intro records hrecords
    induction records with
    | nil => exact .nil
    | cons record records ih =>
        obtain ⟨⟨hevent, hword⟩, hmore⟩ := List.forall_mem_cons.1 hrecords
        exact .compile hevent hword (ih hmore)
  refine ⟨?_, h.grows, hfiles ?_, ?_⟩
  · rw [h.keeps]
  · intro record hrecord
    have hword := h.word record hrecord
    rw [if_pos (hcompile record hrecord)] at hword
    exact ⟨hcompile record hrecord, hword⟩
  · rw [h.keeps]
    rfl

/-- All else that is recorded after a word is begun belongs to it. -/
theorem Takes.follows_word (h : tracer.beginWord.Takes later new)
    (hword : ∀ record ∈ new, record.event.isCompile = false) :
    tracer.Follows later [new.map Trace.Record.event] new := by
  refine ⟨?_, h.grows, ?_, ?_⟩
  · rw [h.keeps]
    rfl
  · have hhere : ∀ record ∈ new,
        record.event.isCompile = false ∧ record.word = tracer.word + 1 := by
      intro record hrecord
      have hbegun := h.word record hrecord
      rw [hword record hrecord] at hbegun
      exact ⟨hword record hrecord, hbegun⟩
    have hfiles := Files.word hhere .nil
    rwa [List.append_nil] at hfiles
  · rw [h.keeps]
    rfl

end

end Tracer

end WordGrammar
