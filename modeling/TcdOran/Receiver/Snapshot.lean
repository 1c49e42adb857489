import Mathlib.Algebra.Order.Field.Rat
import TcdOran.Lib.Machine
import TcdOran.Receiver.Capture

/-! `stable_pair_snapshot` of prompt12-bounded-stationarity-command.py beside the capture program,
which goes on writing to both files. -/
namespace TcdOran.Receiver
open TcdOran.Lib Python

structure Sizes where
  raw : ℕ
  timestamps : ℕ
  deriving DecidableEq

/-- Where the copying program stands. -/
inductive SnapshotAt
  | deadline
  | statRaw
  | statTimestamps (raw : ℕ)
  | compare (sizes : Sizes)
  | readRaw (sizes : Sizes)
  | readTimestamps (sizes : Sizes) (rawData : List UInt8)
  | statRawAgain (sizes : Sizes) (rawData timestampData : List UInt8)
  | statTimestampsAgain (sizes : Sizes) (rawData timestampData : List UInt8) (raw : ℕ)
  | changed (after : Sizes)
  | returned (rawCopy timestampCopy : List UInt8)
  | raised (error : String)
  deriving DecidableEq

structure Snapshot where
  place : SnapshotAt
  previous : Option Sizes
  stableSince : Option ℚ
  deriving DecidableEq

/-- The arguments of the call, and the deadline that it computes first. -/
structure SnapshotConfig where
  stableMs : ℕ
  deadline : ℚ

def Snapshot.start : Snapshot := ⟨.deadline, none, none⟩

/-- One step of the program, at a reading of `time.monotonic`. A step looks at one file at most. -/
def Snapshot.step (config : SnapshotConfig) (capture : Capture) (now : ℚ) (s : Snapshot) :
    Option Snapshot :=
  match s.place with
  | .deadline =>
      if now < config.deadline then some { s with place := .statRaw }
      else some { s with place := .raised "SNAPSHOT_STABILITY_TIMEOUT" }
  | .statRaw => some { s with place := .statTimestamps capture.raw.length }
  | .statTimestamps raw => some { s with place := .compare ⟨raw, capture.timestamps.length⟩ }
  | .compare sizes =>
      if 0 < sizes.raw ∧ 0 < sizes.timestamps then
        if some sizes ≠ s.previous then some ⟨.deadline, some sizes, some now⟩
        else if s.stableSince.any fun since => (config.stableMs : ℚ) / 1000 ≤ now - since then
          some { s with place := .readRaw sizes }
        else some { s with place := .deadline }
      else some { s with place := .deadline }
  | .readRaw sizes =>
      let data := capture.raw.take sizes.raw
      if data.length = sizes.raw then some { s with place := .readTimestamps sizes data }
      else some { s with place := .raised "SNAPSHOT_SHORT_READ" }
  | .readTimestamps sizes rawData =>
      let data := capture.timestamps.take sizes.timestamps
      if data.length = sizes.timestamps then
        some { s with place := .statRawAgain sizes rawData data }
      else some { s with place := .raised "SNAPSHOT_SHORT_READ" }
  | .statRawAgain sizes rawData timestampData =>
      some { s with place := .statTimestampsAgain sizes rawData timestampData capture.raw.length }
  | .statTimestampsAgain sizes rawData timestampData raw =>
      let after : Sizes := ⟨raw, capture.timestamps.length⟩
      if after ≠ sizes then some { s with place := .changed after }
      else if ¬endsLine rawData then some { s with place := .raised "RAW_SNAPSHOT_INCOMPLETE_LINE" }
      else if ¬endsLine timestampData then
        some { s with place := .raised "TIMESTAMP_SNAPSHOT_INCOMPLETE_LINE" }
      else some { s with place := .returned rawData timestampData }
  | .changed after => some ⟨.deadline, some after, some now⟩
  | .returned _ _ | .raised _ => none

structure Recording where
  capture : Capture
  snapshot : Snapshot
  deriving DecidableEq

inductive RecordingAction
  | receive (received : ReceivedLine)
  | record
  | snapshot (now : ℚ)

section
variable (sha256 : List UInt8 → List UInt8) (config : SnapshotConfig)

/-- Both programs; what is observed are the lines of the receiver. -/
def recording : Machine Recording RecordingAction ReceivedLine := fun s action =>
  match action with
  | .receive received =>
      (s.capture.receive sha256 received).map fun capture => ({ s with capture }, [received])
  | .record => s.capture.record.map fun capture => ({ s with capture }, [])
  | .snapshot now =>
      (s.snapshot.step config s.capture now).map fun snapshot => ({ s with snapshot }, [])

def Recording.start : Recording := ⟨.start, .start⟩

/-! ### The capture program -/

/-- What the capture program has written after the lines. -/
structure Capture.After (lines : List ReceivedLine) (capture : Capture) : Prop where
  nonempty : ∀ received ∈ lines, received.line ≠ []
  rawOffset : capture.rawOffset = capture.raw.length
  raw : capture.raw = rawFile lines
  rows : ∃ written, capture.timestamps = timestampFile written ∧
    captureRows sha256 0 0 lines = written ++ capture.pending.toList ∧
    capture.sequence = written.length

variable {sha256} {lines : List ReceivedLine} {capture capture' : Capture}

theorem Capture.After.receive (h : capture.After sha256 lines) {received : ReceivedLine}
    (hstep : capture.receive sha256 received = some capture') :
    capture'.After sha256 (lines ++ [received]) ∧ capture'.raw = capture.raw ++ received.line ∧
      capture'.timestamps = capture.timestamps := by
  unfold Capture.receive at hstep
  split_ifs at hstep with hcond
  obtain rfl := Option.some.inj hstep
  obtain ⟨hpending, hline, -⟩ := hcond
  obtain ⟨written, htimestamps, hrows, hsequence⟩ := h.rows
  rw [hpending, Option.toList_none, List.append_nil] at hrows
  have hwritten : written.length = lines.length := by
    rw [← hrows, length_captureRows]
  refine ⟨⟨?_, ?_, ?_, written, htimestamps, ?_, hsequence⟩, rfl, rfl⟩
  · intro other hother
    rcases List.mem_append.mp hother with hother | hother
    · exact h.nonempty other hother
    · rw [List.mem_singleton.mp hother]
      exact (of_decide_eq_true hline).1
  · show capture.rawOffset + received.line.length = (capture.raw ++ received.line).length
    rw [List.length_append, h.rawOffset]
  · show capture.raw ++ received.line = rawFile (lines ++ [received])
    rw [h.raw]
    simp [rawFile]
  · show captureRows sha256 0 0 (lines ++ [received]) =
      written ++ [captureRow sha256 capture.sequence capture.rawOffset received]
    rw [captureRows_append, hrows, hsequence, hwritten, h.rawOffset, h.raw, Nat.zero_add, Nat.zero_add]
    rfl

theorem Capture.After.record (h : capture.After sha256 lines)
    (hstep : capture.record = some capture') :
    capture'.After sha256 lines ∧ capture'.raw = capture.raw ∧
      ∃ more, capture'.timestamps = capture.timestamps ++ more := by
  obtain ⟨row, hpending, rfl⟩ := Option.map_eq_some_iff.mp hstep
  obtain ⟨written, htimestamps, hrows, hsequence⟩ := h.rows
  refine ⟨⟨h.nonempty, h.rawOffset, h.raw, written ++ [row], ?_, ?_, ?_⟩, rfl, row.bytes ++ [10], rfl⟩
  · show capture.timestamps ++ (row.bytes ++ [10]) = timestampFile (written ++ [row])
    rw [htimestamps]
    simp [timestampFile]
  · rw [hrows, hpending]
    simp
  · show capture.sequence + 1 = (written ++ [row]).length
    rw [hsequence, List.length_append, List.length_singleton]

/-! ### The copying program -/

theorem initial_captureRows {earlier : List ReceivedLine} (h : earlier <+: lines) :
    captureRows sha256 0 0 earlier <+: captureRows sha256 0 0 lines := by
  obtain ⟨more, rfl⟩ := h
  rw [captureRows_append]
  exact List.prefix_append _ _

variable (sha256)

/-- Some of the first rows make up the timestamp file as it has been at some time. -/
structure StampsOf (lines : List ReceivedLine) (capture : Capture) (data : List UInt8) : Prop where
  rows : ∃ rows, rows <+: captureRows sha256 0 0 lines ∧ data = timestampFile rows
  written : data <+: capture.timestamps

/-- What is known of the sizes and the data that the copying program holds. -/
def SnapshotAt.Holds (lines : List ReceivedLine) (capture : Capture) : SnapshotAt → Prop
  | .compare sizes | .readRaw sizes =>
      ∃ data, StampsOf sha256 lines capture data ∧ data.length = sizes.timestamps
  | .readTimestamps sizes rawData =>
      (rawData <+: capture.raw ∧ rawData.length = sizes.raw) ∧
        ∃ data, StampsOf sha256 lines capture data ∧ data.length = sizes.timestamps
  | .statRawAgain sizes rawData timestampData =>
      (rawData <+: capture.raw ∧ rawData.length = sizes.raw) ∧
        StampsOf sha256 lines capture timestampData
  | .statTimestampsAgain sizes rawData timestampData raw =>
      (rawData <+: capture.raw ∧ rawData.length = sizes.raw) ∧
        ∃ earlier, earlier <+: lines ∧ raw = (rawFile earlier).length ∧
          StampsOf sha256 earlier capture timestampData
  | .returned rawCopy timestampCopy =>
      (endsLine rawCopy ∧ endsLine timestampCopy) ∧
        ∃ earlier, earlier <+: lines ∧ rawCopy = rawFile earlier ∧
          StampsOf sha256 earlier capture timestampCopy
  | _ => True

variable {sha256}

theorem StampsOf.mono {lines' : List ReceivedLine} {data : List UInt8}
    (h : StampsOf sha256 lines capture data) (hlines : lines <+: lines')
    (htimestamps : capture.timestamps <+: capture'.timestamps) :
    StampsOf sha256 lines' capture' data := by
  obtain ⟨rows, hrows, hdata⟩ := h.rows
  exact ⟨⟨rows, hrows.trans (initial_captureRows hlines), hdata⟩, h.written.trans htimestamps⟩

/-- The files only grow. -/
theorem SnapshotAt.Holds.mono {place : SnapshotAt} {lines' : List ReceivedLine}
    (h : place.Holds sha256 lines capture) (hlines : lines <+: lines')
    (hraw : capture.raw <+: capture'.raw)
    (htimestamps : capture.timestamps <+: capture'.timestamps) :
    place.Holds sha256 lines' capture' := by
  have hself : ∀ {earlier : List ReceivedLine}, earlier <+: earlier := List.prefix_rfl
  cases place with
  | compare sizes =>
    obtain ⟨data, hdata, hlength⟩ := h
    exact ⟨data, hdata.mono hlines htimestamps, hlength⟩
  | readRaw sizes =>
    obtain ⟨data, hdata, hlength⟩ := h
    exact ⟨data, hdata.mono hlines htimestamps, hlength⟩
  | readTimestamps sizes rawData =>
    obtain ⟨⟨hinitial, hsize⟩, data, hdata, hlength⟩ := h
    exact ⟨⟨hinitial.trans hraw, hsize⟩, data, hdata.mono hlines htimestamps, hlength⟩
  | statRawAgain sizes rawData timestampData =>
    obtain ⟨⟨hinitial, hsize⟩, hdata⟩ := h
    exact ⟨⟨hinitial.trans hraw, hsize⟩, hdata.mono hlines htimestamps⟩
  | statTimestampsAgain sizes rawData timestampData raw =>
    obtain ⟨⟨hinitial, hsize⟩, earlier, hearlier, hlength, hdata⟩ := h
    exact ⟨⟨hinitial.trans hraw, hsize⟩, earlier, hearlier.trans hlines, hlength,
      hdata.mono hself htimestamps⟩
  | returned rawCopy timestampCopy =>
    obtain ⟨hends, earlier, hearlier, hcopy, hdata⟩ := h
    exact ⟨hends, earlier, hearlier.trans hlines, hcopy, hdata.mono hself htimestamps⟩
  | _ => trivial

theorem Capture.After.stamps (h : capture.After sha256 lines) :
    StampsOf sha256 lines capture capture.timestamps := by
  obtain ⟨written, htimestamps, hrows, -⟩ := h.rows
  exact ⟨⟨written, hrows ▸ List.prefix_append _ _, htimestamps⟩, List.prefix_rfl⟩

/-- Two prefixes of one file are equal where they have the same length. -/
theorem prefix_eq_of_length {α : Type} {xs ys zs : List α} (hx : xs <+: zs) (hy : ys <+: zs)
    (h : xs.length = ys.length) : xs = ys := by
  rw [List.prefix_iff_eq_take.mp hx, List.prefix_iff_eq_take.mp hy, h]

theorem initial_rawFile {earlier : List ReceivedLine} (h : earlier <+: lines) :
    rawFile earlier <+: rawFile lines := by
  obtain ⟨more, rfl⟩ := h
  rw [rawFile, rawFile, List.flatMap_append]
  exact List.prefix_append _ _

theorem Snapshot.step_holds {config : SnapshotConfig} (hcapture : capture.After sha256 lines)
    {s s' : Snapshot} {now : ℚ} (h : s.place.Holds sha256 lines capture)
    (hstep : s.step config capture now = some s') : s'.place.Holds sha256 lines capture := by
  obtain ⟨place, previous, stableSince⟩ := s
  unfold Snapshot.step at hstep
  cases place with
  | deadline => split_ifs at hstep <;> obtain rfl := Option.some.inj hstep <;> trivial
  | statRaw =>
    obtain rfl := Option.some.inj hstep
    trivial
  | statTimestamps raw =>
    obtain rfl := Option.some.inj hstep
    exact ⟨capture.timestamps, hcapture.stamps, rfl⟩
  | compare sizes =>
    dsimp only at hstep
    split_ifs at hstep <;> obtain rfl := Option.some.inj hstep
    · trivial
    · exact h
    · trivial
    · trivial
  | readRaw sizes =>
    dsimp only at hstep
    split_ifs at hstep with hlength <;> obtain rfl := Option.some.inj hstep
    · exact ⟨⟨List.take_prefix _ _, hlength⟩, h⟩
    · trivial
  | readTimestamps sizes rawData =>
    dsimp only at hstep
    split_ifs at hstep with hlength <;> obtain rfl := Option.some.inj hstep
    · obtain ⟨hraw, data, hdata, hsize⟩ := h
      have htake : capture.timestamps.take sizes.timestamps = data :=
        prefix_eq_of_length (List.take_prefix _ _) hdata.written (hlength.trans hsize.symm)
      exact ⟨hraw, htake ▸ hdata⟩
    · trivial
  | statRawAgain sizes rawData timestampData =>
    obtain rfl := Option.some.inj hstep
    obtain ⟨hraw, hdata⟩ := h
    exact ⟨hraw, lines, List.prefix_rfl, congrArg List.length hcapture.raw, hdata⟩
  | statTimestampsAgain sizes rawData timestampData raw =>
    dsimp only at hstep
    split_ifs at hstep with hchanged hrawEnd hstampEnd <;> obtain rfl := Option.some.inj hstep
    · trivial
    · obtain ⟨⟨hinitial, hsize⟩, earlier, hearlier, hlength, hdata⟩ := h
      -- the raw file has had the same size when the rows were written
      have hraw : raw = sizes.raw := congrArg Sizes.raw (not_not.mp hchanged)
      have hcopy : rawData = rawFile earlier :=
        prefix_eq_of_length (hcapture.raw ▸ hinitial) (initial_rawFile hearlier)
          (by rw [hsize, ← hlength, hraw])
      exact ⟨⟨hrawEnd, hstampEnd⟩, earlier, hearlier, hcopy, hdata⟩
    · trivial
    · trivial
  | changed after =>
    obtain rfl := Option.some.inj hstep
    trivial
  | returned rawCopy timestampCopy => cases hstep
  | raised error => cases hstep

/-! ### Both programs -/

theorem recording_holds {config : SnapshotConfig} {s : Recording}
    (h : Machine.Run (recording sha256 config) .start lines s) :
    s.capture.After sha256 lines ∧ s.snapshot.place.Holds sha256 lines s.capture := by
  apply h.invariant (I := fun lines s =>
    s.capture.After sha256 lines ∧ s.snapshot.place.Holds sha256 lines s.capture)
  · exact ⟨⟨by simp, rfl, rfl, [], rfl, rfl, rfl⟩, trivial⟩
  · intro lines s action s' received hinv hstep
    obtain ⟨hcapture, hsnapshot⟩ := hinv
    cases action with
    | receive received =>
      obtain ⟨capture', hreceive, heq⟩ := Option.map_eq_some_iff.mp hstep
      obtain ⟨rfl, rfl⟩ := Prod.mk.inj heq
      obtain ⟨hafter, hraw, htimestamps⟩ := hcapture.receive hreceive
      refine ⟨hafter, hsnapshot.mono (List.prefix_append _ _) ?_ ?_⟩
      · exact hraw ▸ List.prefix_append _ _
      · exact htimestamps ▸ List.prefix_rfl
    | record =>
      obtain ⟨capture', hrecord, heq⟩ := Option.map_eq_some_iff.mp hstep
      obtain ⟨rfl, rfl⟩ := Prod.mk.inj heq
      obtain ⟨hafter, hraw, more, htimestamps⟩ := hcapture.record hrecord
      rw [List.append_nil]
      refine ⟨hafter, hsnapshot.mono List.prefix_rfl ?_ ?_⟩
      · exact hraw ▸ List.prefix_rfl
      · exact htimestamps ▸ List.prefix_append _ _
    | snapshot now =>
      obtain ⟨snapshot', hsnap, heq⟩ := Option.map_eq_some_iff.mp hstep
      obtain ⟨rfl, rfl⟩ := Prod.mk.inj heq
      rw [List.append_nil]
      exact ⟨hcapture, Snapshot.step_holds hcapture hsnapshot hsnap⟩

/-- What is copied are whole lines from the front of both files, and every row that is copied is
about a line of the raw data that is copied with it. -/
theorem stable_pair_snapshot_consistent {config : SnapshotConfig} {s : Recording}
    (h : Machine.Run (recording sha256 config) .start lines s) {rawCopy timestampCopy : List UInt8}
    (hreturn : s.snapshot.place = .returned rawCopy timestampCopy) :
    (rawCopy <+: s.capture.raw ∧ timestampCopy <+: s.capture.timestamps) ∧
      (endsLine rawCopy ∧ endsLine timestampCopy) ∧
      (∃ earlier, earlier <+: lines ∧ rawCopy = rawFile earlier) ∧
      ∃ rows, rows <+: captureRows sha256 0 0 lines ∧ timestampCopy = timestampFile rows ∧
        ∀ row ∈ rows, row.Within sha256 rawCopy := by
  obtain ⟨hcapture, hsnapshot⟩ := recording_holds h
  rw [hreturn] at hsnapshot
  obtain ⟨hends, earlier, hearlier, hcopy, hstamps⟩ := hsnapshot
  obtain ⟨rows, hrows, htimestamps⟩ := hstamps.rows
  have hraw : rawCopy <+: s.capture.raw := by
    rw [hcopy, hcapture.raw]
    exact initial_rawFile hearlier
  refine ⟨⟨hraw, hstamps.written⟩, hends, ⟨earlier, hearlier, hcopy⟩, rows,
    hrows.trans (initial_captureRows hearlier), htimestamps, ?_⟩
  intro row hrow
  have hnonempty : ∀ received ∈ earlier, received.line ≠ [] :=
    fun received hreceived => hcapture.nonempty received (hearlier.subset hreceived)
  have hwithin := within_captureRows sha256 hnonempty 0 [] [] row (hrows.subset hrow)
  rw [hcopy]
  simpa using hwithin

/-- A line is copied; a second one comes between the first and the second look at the sizes. -/
def sampleActions : List RecordingAction :=
  [.receive ⟨bytes "a\n", 1, 1⟩, .record] ++ List.replicate 5 (.snapshot 0) ++
    [.receive ⟨bytes "b\n", 2, 2⟩, .record] ++ List.replicate 3 (.snapshot 1) ++
    List.replicate 8 (.snapshot 2)

def sampleRecording : Option (List ReceivedLine × Recording) :=
  Machine.exec (recording (fun _ => [1, 171]) ⟨100, 9⟩) .start sampleActions

def Recording.copies (s : Recording) : Option (List UInt8 × List UInt8) :=
  match s.snapshot.place with
  | .returned rawCopy timestampCopy => some (rawCopy, timestampCopy)
  | _ => none

theorem sampleRecording_copies : ((sampleRecording.bind fun result => result.2.copies).map
    fun copies => copies.1) = some (bytes "a\nb\n") := by
  decide +kernel

theorem stable_pair_snapshot_consistent_sample : ∃ lines s rawCopy timestampCopy,
    sampleRecording = some (lines, s) ∧ s.snapshot.place = .returned rawCopy timestampCopy ∧
    (rawCopy <+: s.capture.raw ∧ timestampCopy <+: s.capture.timestamps) ∧
      (endsLine rawCopy ∧ endsLine timestampCopy) ∧
      (∃ earlier, earlier <+: lines ∧ rawCopy = rawFile earlier) ∧
      ∃ rows, rows <+: captureRows (fun _ => [1, 171]) 0 0 lines ∧
        timestampCopy = timestampFile rows ∧
        ∀ row ∈ rows, row.Within (fun _ => [1, 171]) rawCopy := by
  have hcopies := sampleRecording_copies
  simp only [Option.map_eq_some_iff, Option.bind_eq_some_iff] at hcopies
  obtain ⟨⟨rawCopy, timestampCopy⟩, ⟨⟨lines, s⟩, hexec, hcopies⟩, -⟩ := hcopies
  have hreturn : s.snapshot.place = .returned rawCopy timestampCopy := by
    unfold Recording.copies at hcopies
    split at hcopies
    · next rawCopy' timestampCopy' hplace =>
      obtain ⟨rfl, rfl⟩ := Prod.mk.inj (Option.some.inj hcopies)
      exact hplace
    · cases hcopies
  exact ⟨lines, s, rawCopy, timestampCopy, hexec, hreturn,
    stable_pair_snapshot_consistent (Machine.run_of_exec hexec) hreturn⟩

end

end TcdOran.Receiver
