import Telemetry.Proofs.Outcome
import Telemetry.Proofs.Storage.FileStore
import Telemetry.Proofs.Text.Blank

namespace Telemetry.FileStore

open Telemetry

/-! A file is taken in as if the metrics in its lines were saved one after the other, and it is
taken in up to the first line for which that goes wrong. -/

variable {store : FileStore} {disk : Disk} {lines : List (List Char)}

/-- The metric that a line holds. -/
def metricOf (line : List Char) : Except Failure Metric :=
  Metric.ofWire (Bytes.ofText (String.ofList line))

/-- The metrics in lines, up to the first line that holds none. -/
def metricsIn : List (List Char) → List Metric
  | [] => []
  | line :: lines =>
    match metricOf line with
    | .ok metric => metric :: metricsIn lines
    | .error _ => []

theorem metricsIn_cons {line : List Char} {metric : Metric} (holds : metricOf line = .ok metric)
    (lines : List (List Char)) : metricsIn (line :: lines) = metric :: metricsIn lines := by
  rw [metricsIn, holds]

theorem metricsIn_of_error {line : List Char} {failure : Failure}
    (unread : metricOf line = .error failure) (lines : List (List Char)) :
    metricsIn (line :: lines) = [] := by
  rw [metricsIn, unread]

/-- What a line comes to that is taken in. -/
inductive LineTaken (store : FileStore) (disk : Disk) (line : List Char) :
    Except Failure FileStore → Prop where
  | unread (failure : Failure) (holdsNone : metricOf line = .error failure) :
      LineTaken store disk line (.error failure)
  | refused (metric : Metric) (failure : Failure) (holds : metricOf line = .ok metric)
      (refusal : save metric "" (store, disk) = (.error failure, store, disk)) :
      LineTaken store disk line (.error failure)
  | saved (metric : Metric) (next : FileStore) (holds : metricOf line = .ok metric)
      (saves : save metric "" (store, disk) = (.ok (), next, disk)) :
      LineTaken store disk line (.ok next)

theorem replayLine_unread {line : List Char} {failure : Failure}
    (unread : metricOf line = .error failure) (store : FileStore) :
    store.replayLine line = .error failure := by
  show metricOf line >>= _ = _
  rw [unread]
  rfl

theorem replayLine_read {line : List Char} {metric : Metric} (holds : metricOf line = .ok metric)
    (store : FileStore) :
    store.replayLine line = metric.admit "" >>= fun _ => store.apply metric := by
  show metricOf line >>= _ = _
  rw [holds]
  rfl

theorem lineTaken (quiet : store.snapshotsOnWrite = false) (disk : Disk) (line : List Char) :
    LineTaken store disk line (store.replayLine line) := by
  cases holds : metricOf line with
  | error failure =>
      rw [replayLine_unread holds]
      exact .unread failure holds
  | ok metric =>
      have saves := save_of_quiet quiet metric "" disk
      rw [replayLine_read holds]
      cases admission : metric.admit "" with
      | error failure =>
          rw [Metric.saveBy_refused admission] at saves
          exact .refused metric failure holds saves
      | ok admitted =>
          rw [Metric.saveBy_admitted admission] at saves
          show LineTaken store disk line (store.apply metric)
          cases applied : store.apply metric with
          | error failure =>
              rw [applied] at saves
              exact .refused metric failure holds saves
          | ok next =>
              rw [applied] at saves
              exact .saved metric next holds saves

theorem snapshotsOnWrite_of_save {metric : Metric} {key : String} {next : FileStore}
    {answer : Except Failure Unit} {written : Disk}
    (saves : save metric key (store, disk) = (answer, next, written)) :
    next.snapshotsOnWrite = store.snapshotsOnWrite := by
  have isNext := fst_snd_save metric key store disk
  rw [saves] at isNext
  have same := snapshotsOnWrite_saveBy store metric key
  rwa [← isNext] at same

/-- Lines are taken in up to one that holds no metric, or whose metric is refused once those of the
lines in front of it are saved. -/
def StopsWith (store : FileStore) (disk : Disk) (lines : List (List Char)) (failure : Failure)
    (final : FileStore) : Prop :=
  ∃ before line behind metrics, lines = before ++ line :: behind ∧
    before.map metricOf = metrics.map .ok ∧
    backend.saveMany "" metrics (store, disk) = (.ok (), final, disk) ∧
    (metricOf line = .error failure ∨ ∃ metric, metricOf line = .ok metric ∧
      backend.save metric "" (final, disk) = (.error failure, final, disk))

/-- What comes of lines that are taken in: what comes of saving the metrics in them. -/
structure TakesIn (store : FileStore) (disk : Disk) (lines : List (List Char)) (total : Nat)
    (outcome : Except Failure Nat × FileStore) : Prop where
  saves : (backend.saveMany "" (metricsIn lines) (store, disk)).2 = (outcome.2, disk)
  complete : outcome.1 = .ok total ↔ (∀ line ∈ lines, ∃ metric, metricOf line = .ok metric) ∧
    (backend.saveMany "" (metricsIn lines) (store, disk)).1 = .ok ()
  stopped : outcome.1 = .ok total ∨
    ∃ failure, outcome.1 = .error failure ∧ StopsWith store disk lines failure outcome.2

theorem saveMany_cons {metric : Metric} {next : FileStore}
    (saves : save metric "" (store, disk) = (.ok (), next, disk)) (metrics : List Metric) :
    backend.saveMany "" (metric :: metrics) (store, disk) =
      backend.saveMany "" metrics (next, disk) := by
  have saved : backend.save metric "" (store, disk) = (.ok (), next, disk) := saves
  rw [Backend.saveMany, saved]

theorem takesIn_replay (quiet : store.snapshotsOnWrite = false) (count : Nat)
    (lines : List (List Char)) :
    TakesIn store disk lines (count + lines.length) (store.replay count lines) := by
  induction lines generalizing store count with
  | nil => exact ⟨rfl, by simp [replay, metricsIn, Backend.saveMany], .inl rfl⟩
  | cons line lines induction =>
      have taken := lineTaken quiet disk line
      rw [replay]
      revert taken
      generalize store.replayLine line = result
      intro taken
      cases taken with
      | unread failure holdsNone =>
          refine ⟨?_, ?_, ?_⟩
          · rw [metricsIn_of_error holdsNone]
            rfl
          · refine iff_of_false error_ne_ok ?_
            rintro ⟨all, -⟩
            obtain ⟨metric, holds⟩ := all line List.mem_cons_self
            exact error_ne_ok (holdsNone.symm.trans holds)
          · exact .inr ⟨failure, rfl, [], line, lines, [], rfl, rfl, rfl, .inl holdsNone⟩
      | refused metric failure holds refusal =>
          have stops : backend.saveMany "" (metric :: metricsIn lines) (store, disk) =
              (.error failure, store, disk) := by
            have refused : backend.save metric "" (store, disk) = (.error failure, store, disk) :=
              refusal
            rw [Backend.saveMany, refused]
          refine ⟨?_, ?_, ?_⟩
          · rw [metricsIn_cons holds, stops]
          · rw [metricsIn_cons holds, stops]
            exact iff_of_false error_ne_ok fun both => error_ne_ok both.2
          · exact .inr ⟨failure, rfl, [], line, lines, [], rfl, rfl, rfl,
              .inr ⟨metric, holds, refusal⟩⟩
      | saved metric next holds saves =>
          have stillQuiet := (snapshotsOnWrite_of_save saves).trans quiet
          have rest := induction stillQuiet (count + 1)
          have total : count + (line :: lines).length = count + 1 + lines.length := by
            rw [List.length_cons]
            omega
          have others := saveMany_cons saves (metricsIn lines)
          refine ⟨?_, ?_, ?_⟩
          · rw [metricsIn_cons holds, others]
            exact rest.saves
          · rw [metricsIn_cons holds, others, total, rest.complete, List.forall_mem_cons]
            exact and_congr_left fun _ => (and_iff_right ⟨metric, holds⟩).symm
          · rw [total]
            refine rest.stopped.imp_right ?_
            rintro ⟨failure, failed, before, last, behind, metrics, rfl, read, saved, offends⟩
            refine ⟨failure, failed, line :: before, last, behind, metric :: metrics, rfl, ?_, ?_,
              offends⟩
            · rw [List.map_cons, List.map_cons, holds, read]
            · rw [saveMany_cons saves, saved]

/-- Taking in a file does what saving its metrics would do: those in its lines, blank ones aside, up
to the first line that holds none. It goes well exactly if every line holds a metric and each can be
saved; otherwise it answers the failure of the first line that does not or cannot. -/
theorem takesIn_restore {path text : String} (hasFile : store.storeFile = some path)
    (periodic : store.interval.isZero = false)
    (content : disk.read path = .ok (Bytes.ofText text)) :
    ∃ lines, Text.IsLines text.toList lines ∧
      TakesIn store disk (lines.filter fun line => !isBlankLine line)
        (lines.filter fun line => !isBlankLine line).length (store.restore disk) := by
  have quiet : store.snapshotsOnWrite = false := by
    rw [snapshotsOnWrite, periodic, Bool.and_false]
  have reads : disk.readText path = .ok text := by
    rw [Disk.readText, content]
    simp only [bind, Except.bind, Bytes.toText?_ofText]
  refine ⟨_, Text.lines_eq_iff.mp rfl, ?_⟩
  have taken := @takesIn_replay store disk quiet 0
    ((Text.lines text.toList).filter fun line => !isBlankLine line)
  rw [Nat.zero_add] at taken
  rw [restore, hasFile]
  simp only [reads]
  exact taken

/-- Carriage returns, a blank line, a sum that would leave the range, a line that is no metric, and
one that is behind them. -/
def editedText : String :=
  "[\"c\",\"counter\",5]\r\n \t\r\n[\"c\",\"counter\",7]\nnope\n[\"c\",\"counter\",1]"

def editedDisk : Disk := Disk.empty.set "/metrics" (.file (Bytes.ofText editedText))

def nearlyFull : FileStore :=
  { empty (some "metrics") ⟨5000000000⟩ with
    counters := (∅ : Std.ExtTreeMap String Int64).insert "c" 0x7FFFFFFFFFFFFFF8 }

theorem takesIn_restore_edited :
    nearlyFull.storeFile = some "metrics" ∧ nearlyFull.interval.isZero = false ∧
      editedDisk.read "metrics" = .ok (Bytes.ofText editedText) ∧
      (nearlyFull.restore editedDisk).2.counters["c"]? = some 0x7FFFFFFFFFFFFFFD ∧
      ∃ lines, Text.IsLines editedText.toList lines ∧
        StopsWith nearlyFull editedDisk (lines.filter fun line => !isBlankLine line)
          (.badRequest (.overflow "c")) (nearlyFull.restore editedDisk).2 := by
  have content : editedDisk.read "metrics" = .ok (Bytes.ofText editedText) := by decide +kernel
  have refused : (nearlyFull.restore editedDisk).1 = .error (.badRequest (.overflow "c")) := by
    decide +kernel
  obtain ⟨lines, isLines, taken⟩ := @takesIn_restore nearlyFull _ _ _ rfl rfl content
  refine ⟨rfl, rfl, content, by decide +kernel, lines, isLines, ?_⟩
  rcases taken.stopped with whole | ⟨failure, failed, stops⟩
  · exact absurd (refused.symm.trans whole) error_ne_ok
  · rw [refused] at failed
    rwa [Except.error.inj failed]

end Telemetry.FileStore
