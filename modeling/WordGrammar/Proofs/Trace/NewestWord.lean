/-
Which word the newest record belongs to.

Words are numbered as they are begun, so the records of words stand in the
trace by ascending numbers, with what was compiled, under number 0, between
them (`Numbered`). Whatever a tracer is told, is made to forget, or sleeps
through, its trace stays in this order (`Tracer.numbered_performAll`). So
the newest record of a word bears the largest number in the trace. The
figures of a trace give the number of its newest record of any kind: that
is the word's number unless something was compiled last
(`Tracer.newestWord_iff`).
-/
import WordGrammar.Proofs.Trace.Filing

namespace WordGrammar

namespace Trace

/-- The newest record that belongs to a word. -/
def Buffer.newestOfWords? (buffer : Buffer) : Option Record :=
  (buffer.records.filter (!·.event.isCompile)).getLast?

-- ============================================================== numbers

/-- `Numbered n records`: no number is larger than `n`; what was compiled
has the number 0, and the records of words have other numbers, in ascending
order. -/
structure Numbered (n : Nat) (records : List Record) : Prop where
  word_le : ∀ record ∈ records, record.word ≤ n
  word_eq_zero_iff : ∀ record ∈ records,
    record.word = 0 ↔ record.event.isCompile = true
  ascending : (records.filter (!·.event.isCompile)).Pairwise
    fun a b => a.word ≤ b.word

namespace Numbered

variable {n m : Nat} {records rest : List Record} {record : Record}

theorem nil : Numbered n [] where
  word_le := fun _ h => nomatch h
  word_eq_zero_iff := fun _ h => nomatch h
  ascending := .nil

theorem mono (h : Numbered n records) (hle : n ≤ m) : Numbered m records :=
  ⟨fun record hrecord => Nat.le_trans (h.word_le record hrecord) hle,
    h.word_eq_zero_iff, h.ascending⟩

theorem sublist (h : Numbered n records) (hrest : rest.Sublist records) :
    Numbered n rest :=
  ⟨fun record hrecord => h.word_le record (hrest.subset hrecord),
    fun record hrecord => h.word_eq_zero_iff record (hrest.subset hrecord),
    h.ascending.sublist (hrest.filter _)⟩

/-- A record that is added was compiled, or belongs to the last word. -/
theorem concat (h : Numbered n records)
    (hword : record.word = if record.event.isCompile then 0 else n)
    (hbegun : record.event.isCompile = false → 0 < n) :
    Numbered n (records ++ [record]) := by
  refine ⟨List.forall_mem_append.2 ⟨h.word_le, ?_⟩,
    List.forall_mem_append.2 ⟨h.word_eq_zero_iff, ?_⟩, ?_⟩
  · refine List.forall_mem_singleton.2 ?_
    rw [hword]
    split <;> omega
  · refine List.forall_mem_singleton.2 ?_
    rw [hword]
    cases hcompile : record.event.isCompile with
    | true => simp
    | false =>
        have hpos := hbegun hcompile
        simp
        omega
  · rw [List.filter_append]
    refine List.pairwise_append.2 ⟨h.ascending, ?_, ?_⟩
    · exact (List.pairwise_singleton _ record).filter _
    · intro a ha b hb
      obtain ⟨hb, hcompile⟩ := List.mem_filter.1 hb
      obtain rfl := List.mem_singleton.1 hb
      have hnot : b.event.isCompile = false := by simpa using hcompile
      rw [hword, if_neg (by simp [hnot])]
      exact h.word_le a (List.mem_filter.1 ha).1

/-- The newest record of a word bears the largest number. -/
theorem le_of_getLast? (h : Numbered n records)
    (hnewest : (records.filter (!·.event.isCompile)).getLast?
      = some record) :
    0 < record.word ∧ ∀ other ∈ records, other.word ≤ record.word := by
  obtain ⟨before, hcut⟩ := List.getLast?_eq_some_iff.1 hnewest
  obtain ⟨hrecord, hcompile⟩ := List.mem_filter.1
    (hcut ▸ List.mem_append_right before (List.mem_singleton_self record))
  refine ⟨?_, fun other hother => ?_⟩
  · have hzero := h.word_eq_zero_iff record hrecord
    refine Nat.pos_of_ne_zero fun heq => ?_
    simp [hzero.1 heq] at hcompile
  -- A record of no word has the number 0, and those of words ascend.
  · cases hof : other.event.isCompile with
    | true =>
        rw [(h.word_eq_zero_iff other hother).2 hof]
        exact Nat.zero_le _
    | false =>
        have hword : other ∈ before ++ [record] :=
          hcut ▸ List.mem_filter.2 ⟨hother, by simp [hof]⟩
        have hascending := h.ascending
        rw [hcut] at hascending
        rcases List.mem_append.1 hword with hword | hword
        · exact (List.pairwise_append.1 hascending).2.2 other hword record
            (List.mem_singleton_self record)
        · obtain rfl := List.mem_singleton.1 hword
          exact Nat.le_refl _

end Numbered

namespace Buffer

variable {buffer : Buffer} {n : Nat} {record : Record}

/-- The figures give the number of the newest record of a word, unless
something was compiled last; then they give 0. -/
theorem newestWord_stats (h : Numbered n buffer.records) :
    (buffer.stats.newestWord = buffer.newestOfWords?.map Record.word
      ↔ ∀ record, buffer.last? = some record →
        record.event.isCompile = false)
    ∧ ∀ record, buffer.last? = some record →
      record.event.isCompile = true → buffer.stats.newestWord = some 0 := by
  have hstats : buffer.stats.newestWord = buffer.last?.map Record.word := rfl
  rw [hstats, newestOfWords?, last?_eq_getLast?]
  cases hlast : buffer.records.getLast? with
  | none =>
      rw [List.getLast?_eq_none_iff.1 hlast]
      exact ⟨iff_of_true rfl nofun, nofun⟩
  | some newest =>
      obtain ⟨before, hcut⟩ := List.getLast?_eq_some_iff.1 hlast
      have hmem : newest ∈ buffer.records := List.mem_of_getLast? hlast
      have hzero := h.word_eq_zero_iff newest hmem
      cases hcompile : newest.event.isCompile with
      | false =>
          have hnewest : (buffer.records.filter (!·.event.isCompile)).getLast?
              = some newest := by
            rw [hcut, List.filter_append]
            simp [hcompile]
          rw [hnewest]
          refine ⟨iff_of_true rfl ?_, ?_⟩
          · rintro record ⟨⟩
            exact hcompile
          · rintro record ⟨⟩ hrecord
            rw [hcompile] at hrecord
            cases hrecord
      | true =>
          refine ⟨iff_of_false ?_ ?_, ?_⟩
          · -- no word has the number 0
            intro heq
            rw [Option.map_some, hzero.2 hcompile] at heq
            obtain ⟨record, hrecord, hword⟩ :=
              Option.map_eq_some_iff.1 heq.symm
            have hpos := (h.le_of_getLast? hrecord).1
            omega
          · intro hall
            rw [hall newest rfl] at hcompile
            cases hcompile
          · rintro record ⟨⟩ -
            rw [Option.map_some, hzero.2 hcompile]

end Buffer

end Trace

-- ============================================================== tracers

open Trace

namespace Tracer

/-- Something that a tracer is told, or the clock going on. -/
inductive Call
  | beginWord
  | record (event : Event)
  | clear
  /-- The tracer is switched on or off. -/
  | switch (on : Bool)
  | setClock (clock : Nat)

/-- Whether a word is begun before the first event of a word. -/
def Call.beginsFirst : List Call → Bool
  | [] => true
  | .beginWord :: _ => true
  | .record event :: rest => event.isCompile && beginsFirst rest
  | .clear :: rest | .switch _ :: rest | .setClock _ :: rest =>
      beginsFirst rest

/-- The tracer after a call. -/
def perform (tracer : Tracer) : Call → Tracer
  | .beginWord => tracer.beginWord
  | .record event => (tracer.record event).1
  | .clear => tracer.clear
  | .switch on => tracer.switch on
  | .setClock clock => { tracer with clock }

/-- The tracer after several calls. -/
def performAll (tracer : Tracer) (calls : List Call) : Tracer :=
  calls.foldl perform tracer

/-- The trace has its numbers in order, up to that of the tracer's word. -/
def IsNumbered (tracer : Tracer) : Prop :=
  Numbered tracer.word tracer.buffer.records

section

variable {tracer : Tracer} {calls : List Call}

/-- An event of a word keeps the order if a word has been begun. -/
theorem IsNumbered.record (h : tracer.IsNumbered) {event : Event}
    (hbegun : event.isCompile = false → 0 < tracer.word) :
    (tracer.record event).1.IsNumbered
      ∧ (tracer.record event).1.word = tracer.word := by
  by_cases haccepts : tracer.accepts event = true
  · rw [record_of_accepts haccepts]
    refine ⟨?_, rfl⟩
    show Numbered tracer.word (tracer.buffer.push _ _ _).2.records
    rw [Buffer.records_push]
    refine Numbered.sublist ?_ (List.drop_sublist _ _)
    exact Numbered.concat h rfl hbegun
  · rw [record_of_not_accepts haccepts]
    exact ⟨h, rfl⟩

/-- The order is kept by any calls, if a word has been begun or is begun
before the first event of a word. -/
theorem isNumbered_performAll (h : tracer.IsNumbered)
    (hbegun : 0 < tracer.word ∨ Call.beginsFirst calls = true) :
    (tracer.performAll calls).IsNumbered := by
  induction calls generalizing tracer with
  | nil => exact h
  | cons call rest ih =>
      show ((tracer.perform call).performAll rest).IsNumbered
      cases call with
      | beginWord =>
          exact ih (Numbered.mono h (Nat.le_succ _)) (.inl (Nat.succ_pos _))
      | record event =>
          have hword : event.isCompile = false → 0 < tracer.word := by
            intro hcompile
            refine hbegun.resolve_right fun hfirst => ?_
            rw [Call.beginsFirst, hcompile] at hfirst
            cases hfirst
          obtain ⟨hnext, hsame⟩ := h.record hword
          refine ih hnext (hbegun.imp (fun hpos => ?_) fun hfirst => ?_)
          · exact hsame.symm ▸ hpos
          · exact (Bool.and_eq_true_iff.1 hfirst).2
      | clear => exact ih Numbered.nil hbegun
      | switch on => exact ih h hbegun
      | setClock clock => exact ih h hbegun

end

/-- The trace of a new tracer after any calls that begin a word before the
first event of one. The newest record that belongs to a word has the number
of a word, and no record has a larger one. The figures of the trace give
this number, or none if there is no such record, exactly if it was not
something compiled that was recorded last; if it was, they give 0, which is
the number of no word. -/
theorem newestWord_iff {config : Trace.Config} {clock : Nat}
    {calls : List Call} (hbegun : Call.beginsFirst calls = true) :
    let buffer := ((new config clock).performAll calls).buffer
    (∀ record, buffer.newestOfWords? = some record →
      0 < record.word ∧ ∀ other ∈ buffer.records, other.word ≤ record.word)
    ∧ (buffer.stats.newestWord = buffer.newestOfWords?.map Trace.Record.word
      ↔ ∀ record, buffer.last? = some record →
        record.event.isCompile = false)
    ∧ ∀ record, buffer.last? = some record →
      record.event.isCompile = true → buffer.stats.newestWord = some 0 := by
  intro buffer
  have hnew : (new config clock).IsNumbered := Numbered.nil
  have hnumbered := isNumbered_performAll hnew (.inr hbegun)
  obtain ⟨hiff, hzero⟩ := Buffer.newestWord_stats hnumbered
  exact ⟨fun record hrecord => hnumbered.le_of_getLast? hrecord, hiff, hzero⟩

/-- A full trace whose oldest word has gone, with a grammar that was loaded
between two words. -/
theorem newestWord_iff_evicted :
    let calls : List Call := [.beginWord, .record (.wordGenerated "ka"),
      .record (.grammarLoaded "g" 1 0), .beginWord,
      .record (.morphologyStep 0 "ta" "te"), .record (.wordGenerated "te")]
    let buffer := ((new { enabled := true, capacity := 3 } 0).performAll
      calls).buffer
    Call.beginsFirst calls = true
      ∧ buffer.stats.newestWord = some 2
      ∧ ∀ other ∈ buffer.records, other.word ≤ 2 := by
  intro calls buffer
  have hbegun : Call.beginsFirst calls = true := by decide
  obtain ⟨hlargest, hiff, -⟩ :=
    @newestWord_iff { enabled := true, capacity := 3 } 0 calls hbegun
  have hnewest : buffer.newestOfWords?
      = some ⟨3, 2, 0, .wordGenerated "te"⟩ := by decide
  have hlast : ∀ record, buffer.last? = some record →
      record.event.isCompile = false := by
    intro record hrecord
    have heq : buffer.last? = some ⟨3, 2, 0, .wordGenerated "te"⟩ := by
      decide
    cases heq.symm.trans hrecord
    rfl
  refine ⟨hbegun, ?_, (hlargest _ hnewest).2⟩
  rw [hiff.2 hlast, hnewest]
  rfl

/-- Once a grammar is loaded after a word, the figures give no word, though
the word is in the trace. -/
theorem newestWord_of_load :
    let calls : List Call := [.beginWord, .record (.wordGenerated "ka"),
      .record (.grammarLoaded "g" 1 0)]
    let buffer := ((new { enabled := true } 0).performAll calls).buffer
    Call.beginsFirst calls = true
      ∧ buffer.newestOfWords?.map Trace.Record.word = some 1
      ∧ buffer.stats.newestWord = some 0
      ∧ buffer.stats.newestWord
        ≠ buffer.newestOfWords?.map Trace.Record.word := by
  decide

end Tracer

end WordGrammar
