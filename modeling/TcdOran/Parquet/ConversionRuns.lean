import TcdOran.Parquet.ConversionPasses
import TcdOran.Parquet.EndToEnd

/-! Runs of the conversion: what stands at the output and at the temporary path however they end. -/
namespace TcdOran.Parquet
open TcdOran.Lib Python Attempt

/-- Before a conversion. -/
def Files.before (output temporary : Option Stored) : Files := ⟨output, temporary, false, false⟩

namespace Surroundings
variable (o : Surroundings)

/-- What a conversion that ends well has written: all rows, in groups of the batch size at most. -/
structure Complete (batchRows : ℤ) (rows : List Row) (file : ParquetFile) : Prop where
  fields : file.fields = o.catalogue
  sourceSha256 : file.sourceSha256 = o.sha256 o.input.bytes
  rowCount : file.rowCount = rows.length
  groups : file.rowGroups.flatten = rows
  bounded : ∀ group ∈ file.rowGroups, (group.length : ℤ) ≤ batchRows

variable {o} {output : Option Stored} {batchRows : ℤ}

/-! ### The writer -/

/-- The output is still the one before. -/
def Untouched (output : Option Stored) (s : Files) : Prop :=
  s.output = output ∧ s.replaced = false

theorem keeps_step {P : Files → Prop} (operation : Operation) : Keeps P (o.step operation) := by
  unfold step
  split
  · exact keeps_pure ()
  · exact keeps_throw _

theorem triple_write (operation : Operation) (content : Option Stored) :
    Triple (Untouched output) (o.write operation content)
      (fun _ s => Untouched output s ∧ s.temporary = content) (fun _ => Untouched output) := by
  unfold write
  split
  · exact triple_modify fun s hs => ⟨hs, rfl⟩
  · next fault _ =>
    have hleft : Keeps (Untouched output)
        (modify fun s => { s with temporary := fault.left } : Conversion PUnit) :=
      keeps_modify fun s hs => hs
    exact hleft.bind_triple (fun _ _ hs => hs) fun _ => triple_throw fun _ hs => hs

theorem keeps_openWriter (file : ParquetFile) :
    Keeps (Untouched output) (o.openWriter file) := by
  apply Triple.bind (triple_write .openWriter _)
  exact fun _ => triple_modify fun s hs => hs.1

/-- The rows of the groups and of the batch, in order. -/
structure Batched (batchRows : ℤ) (start : ParquetFile) (rows : List Row) (file : ParquetFile)
    (batch : List Row) : Prop where
  same : file = { start with rowGroups := file.rowGroups }
  rows : file.rowGroups.flatten ++ batch = rows
  bounded : ∀ group ∈ file.rowGroups, (group.length : ℤ) ≤ batchRows
  batch : (batch.length : ℤ) < batchRows

variable {start file : ParquetFile} {rows batch : List Row}

theorem yields_writeBatch (file : ParquetFile) (rows : List Row) :
    Yields (Untouched output)
      (fun after => after = { file with rowGroups := file.rowGroups ++ [rows] })
      (o.writeBatch file rows) := by
  apply Keeps.bind_triple
    (Triple.conseq (triple_write _ _) (fun _ hs => hs) (fun _ _ hs => hs.1) fun _ _ hs => hs)
  · exact fun _ _ hs => hs
  · exact fun _ => yields_pure rfl

theorem yields_addRow (h : Batched batchRows start rows file batch) (row : Row) :
    Yields (Untouched output) (fun p => Batched batchRows start (rows ++ [row]) p.1 p.2)
      (o.addRow batchRows file (batch ++ [row])) := by
  have hlength : ((batch ++ [row]).length : ℤ) = batch.length + 1 := by simp
  have hbatch := h.batch
  have hrows : file.rowGroups.flatten ++ (batch ++ [row]) = rows ++ [row] := by
    rw [← List.append_assoc, h.rows]
  unfold addRow
  split
  · next hfull =>
    apply (yields_writeBatch file (batch ++ [row])).bind
    rintro after rfl
    refine yields_pure ⟨?_, ?_, ?_, ?_⟩
    · rw [h.same]
    · rw [List.flatten_append, List.flatten_singleton, List.append_nil, hrows]
    · intro group hgroup
      rcases List.mem_append.mp hgroup with hgroup | hgroup
      · exact h.bounded group hgroup
      · rw [List.mem_singleton.mp hgroup, hfull]
    · rw [List.length_nil]
      omega
  · next hpartial =>
    refine yields_pure ⟨h.same, hrows, h.bounded, ?_⟩
    dsimp only
    omega

theorem yields_writeRows {lines : List (List ℕ)} (lineNumber : ℕ)
    (h : Batched batchRows start rows file batch) :
    Yields (Untouched output)
      (fun p => ∃ behind, rowsOfLines undisturbed o.catalogue lines lineNumber = .ok behind ∧
        Batched batchRows start (rows ++ behind) p.1 p.2)
      (o.writeRows batchRows lines lineNumber file batch) := by
  induction lines generalizing lineNumber rows file batch with
  | nil =>
    apply (keeps_step _).yields.bind
    exact fun _ _ => yields_pure ⟨[], rfl, (List.append_nil rows).symm ▸ h⟩
  | cons line lines ih =>
    apply (keeps_step _).yields.bind
    rintro - -
    apply (yields_ofExcept _).bind
    intro row hrow
    apply (yields_addRow h row).bind
    rintro ⟨file', batch'⟩ hadded
    apply Triple.conseq (ih (lineNumber + 1) hadded) (fun _ hs => hs) _ fun _ _ hs => hs
    rintro p s ⟨hs, behind, hbehind, hbatched⟩
    refine ⟨hs, row :: behind, rowsOfLines_cons.mpr ⟨rfl, row, hrow, behind, hbehind, rfl⟩, ?_⟩
    rwa [List.append_assoc, List.singleton_append] at hbatched

theorem yields_writeRest (h : Batched batchRows start rows file batch) :
    Yields (Untouched output) (fun after => Batched batchRows start rows after [])
      (o.writeRest file batch) := by
  have hpositive : ((([] : List Row).length : ℕ) : ℤ) < batchRows := by
    have hbatch := h.batch
    rw [List.length_nil]
    omega
  unfold writeRest
  split
  · next hnil => exact yields_pure ⟨h.same, hnil ▸ h.rows, h.bounded, hpositive⟩
  · apply Triple.conseq (yields_writeBatch file batch) (fun _ hs => hs) _ fun _ _ hs => hs
    rintro after s ⟨hs, rfl⟩
    refine ⟨hs, ?_, ?_, ?_, hpositive⟩
    · rw [h.same]
    · rw [List.flatten_append, List.flatten_singleton, List.append_nil, h.rows]
    · intro group hgroup
      rcases List.mem_append.mp hgroup with hgroup | hgroup
      · exact h.bounded group hgroup
      · rw [List.mem_singleton.mp hgroup]
        exact h.batch.le

/-! ### The replacement -/

/-- The output is the file, and nothing is left at the temporary path. -/
def Replaced (file : ParquetFile) (s : Files) : Prop :=
  s.output = some (.parquet file) ∧ s.temporary = none

/-- Where the output has not been replaced it is the one before. -/
def KeptOutput (output : Option Stored) (s : Files) : Prop := s.replaced = false → s.output = output

theorem Untouched.kept {s : Files} (h : Untouched output s) : KeptOutput output s := fun _ => h.1

theorem triple_closeWriter (file : ParquetFile) :
    Triple (Untouched output) (o.closeWriter file)
      (fun _ s => Untouched output s ∧ s.temporary = some (.parquet file))
      (fun _ => KeptOutput output) := by
  apply Triple.bind (Triple.conseq (triple_write .closeWriter _) (fun _ hs => hs)
    (fun _ _ hs => hs) fun _ _ hs => hs.kept)
  exact fun _ => triple_modify fun s hs => hs

theorem triple_replace (file : ParquetFile) :
    Triple (fun s => Untouched output s ∧ s.temporary = some (.parquet file)) o.replace
      (fun _ s => Replaced file s ∧ s.replaced = true) (fun _ => KeptOutput output) := by
  apply Keeps.bind_triple (keeps_step _) (fun _ _ hs => hs.1.kept)
  exact fun _ => triple_modify fun s hs => ⟨⟨hs.2, rfl⟩, rfl⟩

theorem triple_finish (file : ParquetFile) :
    Triple (Untouched output)
      (do o.closeWriter file
          o.step .fsyncFile
          o.replace
          o.step .fsyncDirectory)
      (fun _ => Replaced file) (fun _ => KeptOutput output) := by
  apply (triple_closeWriter file).bind
  rintro -
  apply Keeps.bind_triple (keeps_step _) (fun _ _ hs => hs.1.kept)
  rintro -
  apply (triple_replace file).bind
  rintro -
  have hstep := keeps_step (o := o) (P := fun s => Replaced file s ∧ s.replaced = true)
    .fsyncDirectory
  apply Triple.conseq hstep (fun _ hs => hs) (fun _ _ hs => hs.1)
  rintro _ s ⟨-, hreplaced⟩ hnot
  rw [hreplaced] at hnot
  cases hnot

/-- The rows that the writing pass reads are written. -/
theorem triple_writeOutput (hbatch : 1 ≤ batchRows) (hstart : start.rowGroups = []) :
    Triple (Untouched output) (o.writeOutput batchRows start)
      (fun _ s => ∃ lines rows file, sourceText o.input = .ok lines ∧
        rowsOfLines undisturbed o.catalogue lines 1 = .ok rows ∧
        Batched batchRows start rows file [] ∧ Replaced file s)
      (fun _ => KeptOutput output) := by
  have hempty : Batched batchRows start [] start [] := by
    refine ⟨rfl, by rw [hstart]; rfl, ?_, ?_⟩
    · rw [hstart]
      simp
    · rw [List.length_nil]
      omega
  apply (keeps_openWriter start).bind_triple (fun _ _ hs => hs.kept)
  rintro -
  apply (yields_ofExcept _).bind_triple (fun _ _ hs => hs.kept)
  intro lines hlines
  apply (yields_writeRows 1 hempty).bind_triple (fun _ _ hs => hs.kept)
  rintro ⟨file, batch⟩ ⟨rows, hrows, hbatched⟩
  apply (yields_writeRest hbatched).bind_triple (fun _ _ hs => hs.kept)
  intro file hcomplete
  apply Triple.conseq (triple_finish file) (fun _ hs => hs) _ fun _ _ hs => hs
  exact fun _ s hs => ⟨lines, rows, file, hlines, hrows, hcomplete, hs⟩

/-! ### The whole conversion -/

theorem triple_closeAgain :
    Triple (KeptOutput output) o.closeAgain (fun _ => KeptOutput output) (fun _ _ => False) := by
  have hget : Triple (KeptOutput output) (get : Conversion Files) (fun _ => KeptOutput output)
      (fun _ _ => False) := fun s hs => hs
  apply hget.bind
  intro s
  split
  · exact triple_modify fun s hs => hs
  · exact triple_pure fun s hs => hs

/-- Behind a failure the temporary file is gone, where it can be removed. -/
theorem triple_cleanUp {Q : Unit → Files → Prop} (hunlink : o.fault .unlink = none)
    (error : Message) :
    Triple (KeptOutput output) (o.cleanUp error) Q
      (fun _ s => KeptOutput output s ∧ s.temporary = none) := by
  have hremove : Triple (KeptOutput output) o.unlink
      (fun _ s => KeptOutput output s ∧ s.temporary = none)
      (fun _ s => KeptOutput output s ∧ s.temporary = none) := by
    rw [unlink, step, hunlink]
    exact fun s hs => ⟨hs, rfl⟩
  apply Triple.bind (Triple.conseq triple_closeAgain (fun _ hs => hs) (fun _ _ hs => hs)
    fun _ _ hs => hs.elim)
  exact fun _ => hremove.bind fun _ => triple_throw fun _ hs => hs

/-- What is known where the temporary file is begun. -/
structure Prepared (o : Surroundings) (maxRows batchRows : ℤ) (s : Files) (rows : List Row) :
    Prop where
  batch : 1 ≤ batchRows
  inspected : ∃ reading, inspectSource reading o.input o.catalogue maxRows = .ok rows
  absent : s.temporary = none

theorem yields_require {P : Files → Prop} (c : Prop) [Decidable c] (error : Message) :
    Yields P (fun _ => c) (Attempt.ofExcept (require c error) : Conversion Unit) :=
  Triple.conseq (yields_ofExcept _) (fun _ hs => hs) (fun _ _ hs => ⟨hs.1, require_eq_ok.mp hs.2⟩)
    fun _ _ hs => hs

theorem yields_rejectIf {P : Files → Prop} (c : Prop) [Decidable c] (error : Message) :
    Yields P (fun _ => ¬ c) (Attempt.ofExcept (rejectIf c error) : Conversion Unit) :=
  Triple.conseq (yields_ofExcept _) (fun _ hs => hs) (fun _ _ hs => ⟨hs.1, rejectIf_eq_ok.mp hs.2⟩)
    fun _ _ hs => hs

theorem yields_prepare (maxRows batchRows : ℤ) (before : Files) :
    Yields (· = before) (Prepared o maxRows batchRows before) (o.prepare maxRows batchRows) := by
  unfold prepare
  apply (yields_require _ _).bind
  rintro - hmaxRows
  apply (yields_require _ _).bind
  rintro - hbatch
  apply (keeps_step _).yields.bind
  rintro - -
  apply (yields_rejectIf _ _).bind
  rintro - -
  apply (keeps_step _).yields.bind
  rintro - -
  apply (yields_require _ _).bind
  rintro - -
  apply (keeps_step _).yields.bind
  rintro - -
  apply (yields_ofExcept _).bind
  intro rows hrows
  apply (keeps_step _).yields.bind
  rintro - -
  have hget : Yields (· = before) (· = before) (get : Conversion Files) := fun s hs => ⟨hs, hs⟩
  apply hget.bind
  rintro s rfl
  apply (yields_rejectIf _ _).bind
  rintro - habsent
  refine yields_pure ⟨hbatch, ⟨_, hrows⟩, ?_⟩
  rwa [Option.not_isSome_iff_eq_none] at habsent

/-- The rows that are written are the rows that have been inspected. -/
theorem complete_of_batched {maxRows : ℤ} {reading : Reading} {lines : List (List ℕ)}
    {written : List Row}
    (hrows : inspectSource reading o.input o.catalogue maxRows = .ok rows)
    (hlines : sourceText o.input = .ok lines)
    (hwritten : rowsOfLines undisturbed o.catalogue lines 1 = .ok written)
    (hbatched : Batched batchRows ⟨o.catalogue, o.sha256 o.input.bytes, rows.length, []⟩ written
      file []) : Complete o batchRows rows file := by
  obtain ⟨text, htext, hinspected⟩ := inspectSource_rows hrows
  rw [sourceText, htext] at hlines
  obtain rfl := Except.ok.inj hlines
  obtain rfl := rows_eq hinspected hwritten
  have hgroups := hbatched.rows
  rw [List.append_nil] at hgroups
  rw [hbatched.same]
  exact ⟨rfl, rfl, rfl, hgroups, hbatched.bounded⟩

/-- How a conversion ends: with all rows in the output and nothing beside it, or, as long as the
output has not been replaced, with both paths as they were. -/
theorem triple_convert (hunlink : o.fault .unlink = none) (maxRows batchRows : ℤ)
    (output temporary : Option Stored) :
    Triple (· = Files.before output temporary) (o.convert maxRows batchRows)
      (fun answer s => ∃ reading rows file,
        inspectSource reading o.input o.catalogue maxRows = .ok rows ∧
        answer = (o.sha256 o.input.bytes, rows.length) ∧ Complete o batchRows rows file ∧
        Replaced file s)
      (fun _ s => s.replaced = false → s.output = output ∧ s.temporary = temporary) := by
  apply (yields_prepare maxRows batchRows _).bind_triple
  · rintro e s rfl -
    exact ⟨rfl, rfl⟩
  · rintro rows ⟨hbatch, ⟨reading, hrows⟩, habsent⟩
    have hwrite : Triple (Untouched output)
        (o.writeOutput batchRows ⟨o.catalogue, o.sha256 o.input.bytes, rows.length, []⟩) _ _ :=
      triple_writeOutput hbatch rfl
    have htry := hwrite.tryCatch (triple_cleanUp hunlink)
    apply Triple.bind (Triple.conseq htry _ (fun _ _ hs => hs) _)
    · rintro - s ⟨lines, written, file, hlines, hwritten, hbatched, hreplaced⟩
      exact ⟨reading, rows, file, hrows, rfl, complete_of_batched hrows hlines hwritten hbatched,
        hreplaced⟩
    · rintro s rfl
      exact ⟨rfl, rfl⟩
    · rintro - s ⟨hkept, hgone⟩ hnot
      exact ⟨hkept hnot, hgone.trans habsent.symm⟩

end Surroundings

/-! ### What is promised -/

/-- For an input, with a limit of rows and with what removing the temporary file runs into: the
writing pass reads the rows that the checking pass has read, and a conversion with any batch size
writes them in batches or leaves both paths as they were. -/
structure ConversionHolds (source : SourceFile) (fields : List Field) (maxRows : ℤ)
    (unlink : Option Fault) : Prop where
  agree : ∀ reading rows, inspectSource reading source fields maxRows = .ok rows →
    iterRows undisturbed source fields = .ok rows
  ends : ∀ (o : Surroundings) (batchRows : ℤ) (output temporary : Option Stored),
    o.input = source → o.catalogue = fields → o.fault .unlink = unlink → 1 ≤ batchRows →
      Triple (· = Files.before output temporary) (o.convert maxRows batchRows)
        (fun answer s => ∃ reading rows file,
          inspectSource reading source fields maxRows = .ok rows ∧
          answer = (o.sha256 source.bytes, rows.length) ∧ o.Complete batchRows rows file ∧
          Surroundings.Replaced file s)
        (fun _ s => s.replaced = false → s.output = output ∧ s.temporary = temporary)

/-- No carriage return of the text stands alone. -/
def NoLoneReturn (source : SourceFile) : Prop :=
  ∀ text, codePoints source.bytes = some text → PairedReturns text

/-- The checking pass accepts the input. -/
def Inspected (source : SourceFile) (fields : List Field) (maxRows : ℤ) : Prop :=
  ∃ reading rows, inspectSource reading source fields maxRows = .ok rows

section
variable {source : SourceFile} {fields : List Field} {maxRows : ℤ} {unlink : Option Fault}

theorem noLoneReturn_of_agree {rows : List Row} {reading : Reading}
    (h : inspectSource reading source fields maxRows = .ok rows)
    (hagree : iterRows undisturbed source fields = .ok rows) : NoLoneReturn source := by
  obtain ⟨text, htext, hrows⟩ := inspectSource_rows h
  intro text' htext'
  obtain rfl := Option.some.inj (htext.symm.trans htext')
  exact (agree_iff htext hrows).mp hagree

/-- The writer fails where it has made its file. -/
def failingWriter (source : SourceFile) (fields : List Field) (unlink : Option Fault) :
    Surroundings where
  input := source
  sha256 := fun _ => []
  samePaths := false
  outputParent := []
  parentIsDirectory := true
  catalogue := fields
  temporaryPath := []
  fault
    | .openWriter => some ⟨[], some (.bytes [])⟩
    | .unlink => unlink
    | _ => none

theorem failingWriter_prepare {rows : List Row} {reading : Reading}
    (h : inspectSource reading source fields maxRows = .ok rows) :
    outcome ((failingWriter source fields unlink).prepare maxRows 1) (Files.before none none) =
      (.ok rows, Files.before none none) := by
  have hrows : inspectSource (fun lineNumber =>
      ((failingWriter source fields unlink).fault (.inspectLine lineNumber)).map Fault.error)
        (failingWriter source fields unlink).input (failingWriter source fields unlink).catalogue
        maxRows = .ok rows := inspectSource_without (fun _ => rfl) h
  have hmaxRows := ok_of_require (e := chars "max_rows must be positive") (one_le_maxRows h)
  simp only [Surroundings.prepare, outcome_bind, outcome_ofExcept, hmaxRows, hrows]
  rfl

/-- A failure leaves the temporary file where it cannot be removed. -/
theorem failingWriter_left {rows : List Row} {reading : Reading} {fault : Fault}
    (h : inspectSource reading source fields maxRows = .ok rows) :
    outcome ((failingWriter source fields (some fault)).convert maxRows 1)
      (Files.before none none) =
      (.error fault.error, { Files.before none none with temporary := some (.bytes []) }) := by
  rw [Surroundings.convert, outcome_bind, failingWriter_prepare h]
  simp only [outcome_bind, outcome_tryCatch]
  rfl

theorem conversion_holds_iff (source : SourceFile) (fields : List Field) (maxRows : ℤ)
    (unlink : Option Fault) : ConversionHolds source fields maxRows unlink ↔
      (Inspected source fields maxRows → NoLoneReturn source ∧ unlink = none) := by
  constructor
  · rintro hholds ⟨reading, rows, hrows⟩
    refine ⟨noLoneReturn_of_agree hrows (hholds.agree reading rows hrows), ?_⟩
    cases unlink with
    | none => rfl
    | some fault =>
      have hends := hholds.ends (failingWriter source fields (some fault)) 1 none none rfl rfl rfl
        le_rfl
      cases (hends.error rfl (failingWriter_left hrows) rfl).2
  · intro hcondition
    refine ⟨fun reading rows hrows => ?_, ?_⟩
    · obtain ⟨text, htext, hparsed⟩ := inspectSource_rows hrows
      exact (agree_iff htext hparsed).mpr ((hcondition ⟨reading, rows, hrows⟩).1 text htext)
    · rintro o batchRows output temporary rfl rfl hunlink -
      by_cases hinspected : Inspected o.input o.catalogue maxRows
      · rw [(hcondition hinspected).2] at hunlink
        exact Surroundings.triple_convert hunlink maxRows batchRows output temporary
      · apply (Surroundings.yields_prepare maxRows batchRows _).bind_triple
        · rintro e s rfl -
          exact ⟨rfl, rfl⟩
        · rintro rows hprepared
          obtain ⟨reading, hrows⟩ := hprepared.inspected
          exact absurd ⟨reading, rows, hrows⟩ hinspected

/-! ### An input on which the passes part -/

theorem parseRow_of_parse {line line' : List ℕ} (h : Json.parse line = Json.parse line')
    (lineNumber : ℕ) : parseRow line lineNumber fields = parseRow line' lineNumber fields := by
  simp only [parseRow, loadsStrict, h]

theorem codePoints_head {b : UInt8} {bs : List UInt8} {units : List ℕ} (hb : b.toNat < 128)
    (h : codePoints (b :: bs) = some units) : ∃ behind, units = b.toNat :: behind := by
  simp only [codePoints, Option.map_eq_some_iff, decodeUtf8_eq_some_iff] at h
  obtain ⟨cs, hcs, rfl⟩ := h
  cases cs with
  | nil => cases hcs
  | cons c cs =>
    have hcons : b :: bs = String.utf8EncodeChar c ++ encodeUtf8 cs := hcs
    have hmem : b ∈ String.utf8EncodeChar c := by
      cases hencode : String.utf8EncodeChar c with
      | nil => exact absurd hencode String.utf8EncodeChar_ne_nil
      | cons first behind =>
        rw [hencode] at hcons
        rw [(List.cons.inj hcons).1]
        exact List.mem_cons_self
    have hlow : c.val.toNat < 128 := by
      by_contra hhigh
      have hge := Collector.encodeChar_high (not_lt.mp hhigh) b hmem
      omega
    have hle : c.val.toNat ≤ 0x7F := by omega
    simp only [String.utf8EncodeChar, hle, if_true, List.mem_singleton] at hmem
    refine ⟨cs.map Char.toNat, ?_⟩
    rw [hmem, UInt8.toNat_ofNat_of_lt' (Nat.lt_trans hlow (by decide))]
    rfl

/-- The line of a record with a carriage return in front of it. -/
def returnInFront (record : Collector.CanonicalRecord) : SourceFile :=
  ⟨chars "records.jsonl", 13 :: Collector.jsonlLine record⟩

theorem jsonlLine_head {record : Collector.CanonicalRecord} {units : List ℕ}
    (h : codePoints (Collector.jsonlLine record) = some units) :
    ∃ behind, units = 123 :: behind := by
  rw [Collector.jsonlLine, List.append_assoc, List.singleton_append] at h
  exact codePoints_head (b := 123) (by decide) h

theorem codePoints_returnInFront {record : Collector.CanonicalRecord} {units : List ℕ}
    (h : codePoints (Collector.jsonlLine record) = some units) :
    codePoints (13 :: Collector.jsonlLine record) = some (13 :: units) := by
  have hreturn : codePoints [13] = some [13] := codePoints_singleton (by decide)
  rw [← List.singleton_append, codePoints_append hreturn h, List.singleton_append]

/-- The checking pass takes the line for a row. -/
theorem inspected_returnInFront {record : Collector.CanonicalRecord}
    (h : Collector.Accepted record) (hconverts : ConvertsTo (Collector.jsonlLine record) record) :
    ∃ row, inspectSource undisturbed (returnInFront record) catalogue 1 = .ok [row] := by
  obtain ⟨units, row, hunits, hrow, -, -⟩ := hconverts
  obtain ⟨body, hbody, hfeed⟩ := Collector.jsonlLine_body h
  obtain ⟨members, hparse⟩ := isObject_of_parseRow (hrow 1)
  have hlines : splitLines (returnInFront record).bytes = [13 :: Collector.jsonlLine record] := by
    have hfront : (10 : UInt8) ∉ 13 :: body := by simp [hfeed]
    have hsplit := splitLines_cons hfront []
    rw [List.append_nil, List.cons_append, ← hbody] at hsplit
    exact hsplit
  have hdecoded := codePoints_returnInFront hunits
  obtain ⟨behind, rfl⟩ := jsonlLine_head hunits
  have hstrip : strip (13 :: 123 :: behind) ≠ [] :=
    strip_ne_nil (List.mem_cons_of_mem 13 List.mem_cons_self) (by decide)
  have hsame : Json.parse (13 :: 123 :: behind) = Json.parse (123 :: behind) := by
    rw [hparse]
    exact Json.parse_blank_front (by decide) hparse trivial
  have hline : inspectLine catalogue 1 (13 :: Collector.jsonlLine record) = .ok row := by
    rw [inspectLine_text hdecoded hstrip, parseRow_of_parse hsame, hrow]
  have hlimit : (rejectIf ((1 : ℤ) < (1 : ℕ)) (chars "row count exceeds configured maximum " ++
      chars (toString (1 : ℤ))) : Except Message Unit) = .ok () := if_neg (by decide)
  have hinspected : inspectLines (fun n => (undisturbed n).map fun error =>
      chars "cannot read input " ++ (returnInFront record).path ++ chars ": " ++ error) catalogue 1
      [13 :: Collector.jsonlLine record] 1 = .ok [row] := by
    have hread (n : ℕ) : readLine (fun n => (undisturbed n).map fun error =>
      chars "cannot read input " ++ (returnInFront record).path ++ chars ": " ++ error) n = .ok () :=
        rfl
    rw [inspectLines, hread, ok_bind, hline, ok_bind, hlimit, ok_bind, inspectLines, hread, ok_bind]
    rfl
  refine ⟨row, ?_⟩
  simp only [inspectSource]
  rw [hlines, hinspected, ok_bind]
  rfl

/-- The return stands in front of the brace. -/
theorem loneReturn_returnInFront {record : Collector.CanonicalRecord} {units : List ℕ}
    (h : codePoints (Collector.jsonlLine record) = some units) :
    ¬ NoLoneReturn (returnInFront record) := by
  intro hpaired
  obtain ⟨behind, rfl⟩ := jsonlLine_head h
  rcases (hpaired _ (codePoints_returnInFront h)).1 rfl with hnil | hhead
  · cases hnil
  · cases hhead

/-- A valid record behind a carriage return passes the check, and stops the writing. -/
theorem lone_return_breaks_conversion :
    let record := Collector.canonicalImage (Collector.singlePairRecord
      (.name (.ofList (bytes "DRB.UEThpDl"))) (.real ⟨false, 1023, 0⟩))
    ¬ ConversionHolds (returnInFront record) catalogue 1 none := by
  intro record hholds
  have hok : (Collector.canonicalRecordValidate (some record)).1 = .ok := by decide +kernel
  have haccepted : Collector.Accepted record := Collector.canonicalRecordValidate_eq_ok.mp hok
  have hconverts := convertsTo_jsonlLine haccepted (converterRule_canonicalImage haccepted)
  obtain ⟨row, hinspected⟩ := inspected_returnInFront haccepted hconverts
  obtain ⟨units, -, hunits, -⟩ := hconverts
  exact loneReturn_returnInFront hunits
    (noLoneReturn_of_agree hinspected (hholds.agree undisturbed [row] hinspected))

end
end TcdOran.Parquet
