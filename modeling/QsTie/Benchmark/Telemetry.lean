import QsTie.Common.EnvelopeWire
import QsTie.Common.Integer
import QsTie.Lib.Join

/-!
# Merging the telemetry of both gateways (`benchmark_runner/telemetry.py`, `metrics.py`)

`collect` parses two files of JSON lines, keeps the `ACKED` records, makes one row
of each and merges the two frames on `tx_id`; `compute` counts the rows after the
warm-up, once it has the statistics of three of their columns.  `json.loads`,
`pd.merge` and the statistics are parameters.  Of the merge only its behaviour on
text keys is used: an inner join, in which a column of both frames is renamed with
the suffix `_x` or `_y`, and which fails when that makes two columns of one side
collide.  Of the statistics it is used that columns of integers have them.

A frame is its rows, each a dict; the key of a row is its `tx_id`, which a field of
that name in the telemetry takes over.
-/

namespace QsTie.Benchmark

open QsTie.Lib

/-! ### The files -/

/-- `str.strip()`. -/
def strip (s : String) : String :=
  String.ofList ((s.toList.dropWhile isSpace).reverse.dropWhile isSpace).reverse

/-- A text file: missing, not decodable, or its lines. -/
abbrev TextFile := Option (Except PyExc (List String))

section Collector

variable (loads : String → Except PyExc PyVal)

/-- The loop of `_parse_jsonl`. -/
def parseLines : List String → Except PyExc (List PyVal)
  | [] => .ok []
  | line :: lines =>
    if strip line = "" then parseLines lines
    else
      match loads (strip line) with
      | .error e => if e.isJsonDecodeError then parseLines lines else .error e
      | .ok event =>
        match parseLines lines with
        | .error e => .error e
        | .ok events => .ok (event :: events)

/-- `_parse_jsonl`. -/
def parseJsonl : TextFile → Except PyExc (List PyVal)
  | none => .ok []
  | some (.error e) => .error e
  | some (.ok lines) => parseLines loads lines

/-- `str.upper()`.  No character outside ASCII is raised to a letter of `ACKED`. -/
def upper (s : String) : List Char := s.toList.map Char.toUpper

/-- `e.get("state", "").upper() == "ACKED"`. -/
def isAcked (event : PyDict) : Except PyExc Bool :=
  match (event.get? "state").getD (.str "") with
  | .str state => .ok (upper state == "ACKED".toList)
  | _ => .error ⟨.attributeError, "object has no attribute 'upper'"⟩

/-- The comprehension over the events; only a dict has `get`. -/
def ackedEvents : List PyVal → Except PyExc (List PyDict)
  | [] => .ok []
  | .dict event :: events =>
    match isAcked event with
    | .error e => .error e
    | .ok acked =>
      match ackedEvents events with
      | .error e => .error e
      | .ok rest => .ok (if acked then event :: rest else rest)
  | _ :: _ => .error ⟨.attributeError, "object has no attribute 'get'"⟩

/-- `{"tx_id": e["transaction_id"], **e["telemetry"]}`. -/
def toRow (event : PyDict) : Except PyExc PyDict :=
  match event.getItem "transaction_id" with
  | .error e => .error e
  | .ok txId =>
    match event.getItem "telemetry" with
    | .error e => .error e
    | .ok (.dict telemetry) => .ok (telemetry ++ [(.str "tx_id", txId)])
    | .ok _ => .error ⟨.typeError, "object is not a mapping"⟩

def toRows : List PyDict → Except PyExc (List PyDict)
  | [] => .ok []
  | event :: events =>
    match toRow event with
    | .error e => .error e
    | .ok row =>
      match toRows events with
      | .error e => .error e
      | .ok rows => .ok (row :: rows)

variable (merge : List PyDict → List PyDict → Except PyExc (List PyDict))

/-- `collect`. -/
def collect (fileA fileB : TextFile) : Except PyExc (List PyDict) := do
  let aEvents ← parseJsonl loads fileA
  let bEvents ← parseJsonl loads fileB
  let aAcked ← ackedEvents aEvents
  let bAcked ← ackedEvents bEvents
  if aAcked.isEmpty || bAcked.isEmpty then .ok []
  else
    let dfA ← toRows aAcked
    let dfB ← toRows bAcked
    merge dfA dfB

end Collector

/-! ### The count -/

/-- The arithmetic of `MetricsCalculator.compute`: `(t - t') / NS_TO_MS` of two columns, the
    mean, deviation, median and quantiles of that, and the mean of a column. -/
structure MetricsLibrary (σ : Type) where
  latency : List PyVal → List PyVal → Except PyExc σ
  summarize : σ → Except PyExc Unit
  mean : List PyVal → Except PyExc Unit

/-- `df[name]`; a column is in every row of a frame, with a missing value for some. -/
def column (df : List PyDict) (name : String) : Except PyExc (List PyVal) :=
  df.mapM fun row => row.getItem name

/-- The `count` of `MetricsCalculator.compute`; `none` is its `None`. -/
def computeCount {σ : Type} (lib : MetricsLibrary σ) (df : List PyDict) (warmUpDiscard : Nat) :
    Except PyExc (Option Nat) :=
  if df.isEmpty || df.length ≤ warmUpDiscard then .ok none
  else do
    let df := df.drop warmUpDiscard
    let ingested ← column df "t_ingested_b"
    let received ← column df "t_received"
    let total ← lib.latency ingested received
    lib.summarize total
    let retries ← column df "retry_count"
    lib.mean retries
    return some df.length

/-- The columns it needs. -/
def measuredColumns : List String := ["t_ingested_b", "t_received", "retry_count"]

/-- An `int64`, or a missing value. -/
def IsStamp (v : PyVal) : Prop := v = .none ∨ ∃ n, v = .int n ∧ IsInt64 n

/-- Columns of such values have all the statistics. -/
structure MetricsLibrary.Lawful {σ : Type} (lib : MetricsLibrary σ) : Prop where
  latency : ∀ values values', (∀ v ∈ values, IsStamp v) → (∀ v ∈ values', IsStamp v) →
    values.length = values'.length →
    ∃ total, lib.latency values values' = .ok total ∧ lib.summarize total = .ok ()
  mean : ∀ values, (∀ v ∈ values, IsStamp v) → lib.mean values = .ok ()

/-! ### What `pd.merge` does -/

/-- The key of a row, when it is a text. -/
def keyText (row : PyDict) : String :=
  match row.get? "tx_id" with
  | some (.str id) => id
  | _ => ""

def StringKeyed (df : List PyDict) : Prop :=
  ∀ row ∈ df, ∃ id, row.get? "tx_id" = some (.str id)

/-- The columns of a frame besides the key. -/
def columns (df : List PyDict) : List String :=
  df.flatMap fun row => row.filterMap fun entry =>
    match entry.1 with
    | .str name => if name = "tx_id" then none else some name
    | _ => none

/-- The name of a column in the merged frame: one that both frames have gets a suffix. -/
def mergedName (dfA dfB : List PyDict) (suffix name : String) : String :=
  if name ∈ columns dfA ∧ name ∈ columns dfB then name ++ suffix else name

/-- Two columns of one frame would get one name. -/
def ColumnsClash (dfA dfB : List PyDict) : Prop :=
  (∃ c ∈ columns dfA, ∃ c' ∈ columns dfA, c ≠ c' ∧
    mergedName dfA dfB "_x" c = mergedName dfA dfB "_x" c') ∨
  ∃ c ∈ columns dfB, ∃ c' ∈ columns dfB, c ≠ c' ∧
    mergedName dfA dfB "_y" c = mergedName dfA dfB "_y" c'

instance (dfA dfB : List PyDict) : Decidable (ColumnsClash dfA dfB) :=
  inferInstanceAs (Decidable (_ ∨ _))

/-- What a merged row has under a name from a row of one of the frames: the value of the column
    that is given this name, or that it is missing.  A number stands for its value, whatever the
    type of its column. -/
def cell (dfA dfB df : List PyDict) (suffix : String) (row : PyDict) (name : String) :
    Option PyVal :=
  ((columns df).find? fun c => mergedName dfA dfB suffix c = name).map fun c =>
    (row.get? c).getD .none

/-- The row is made of one row of each frame; of two columns with one name the first is shown. -/
def MergedFrom (dfA dfB : List PyDict) (row : PyDict) : Prop :=
  ∃ rowA ∈ dfA, ∃ rowB ∈ dfB, ∀ name, name ≠ "tx_id" →
    row.get? name = (cell dfA dfB dfA "_x" rowA name).or (cell dfA dfB dfB "_y" rowB name)

/-- `pd.merge(df_a, df_b, on="tx_id")` on text keys: a row for each pair of rows with the same
    key, in some order, unless the columns of a side clash (`MergeError`). -/
structure MergeLaws (merge : List PyDict → List PyDict → Except PyExc (List PyDict)) :
    Prop where
  inner : ∀ dfA dfB, StringKeyed dfA → StringKeyed dfB → ¬ ColumnsClash dfA dfB →
    ∃ rows, merge dfA dfB = .ok rows ∧
      (rows.map (·.get? "tx_id")).Perm
        ((joinKeys keyText keyText dfA dfB).map fun id => some (.str id)) ∧
      ∀ row ∈ rows, MergedFrom dfA dfB row
  clash : ∀ dfA dfB, ColumnsClash dfA dfB → ∃ e, merge dfA dfB = .error e

/-! ### The records of a file -/

section Records

variable (loads : String → Except PyExc PyVal)

/-- The value of a line that is neither blank nor malformed. -/
def parsed (line : String) : Option PyVal :=
  if strip line = "" then none
  else
    match loads (strip line) with
    | .error _ => none
    | .ok event => some event

/-- The record, when it is a dict whose state is `ACKED` in any case. -/
def ackedDict (event : PyVal) : Option PyDict :=
  match event with
  | .dict items =>
    match (PyDict.get? items "state").getD (.str "") with
    | .str state => if upper state == "ACKED".toList then some items else none
    | _ => none
  | _ => none

/-- The values of the lines of a file. -/
def events : TextFile → List PyVal
  | some (.ok lines) => lines.filterMap (parsed loads)
  | _ => []

/-- The `ACKED` records of a file. -/
def acked (file : TextFile) : List PyDict := (events loads file).filterMap ackedDict

/-- A line is blank, malformed, or JSON. -/
def LineParses (line : String) : Prop :=
  strip line = "" ∨
  (∃ e, loads (strip line) = .error e ∧ e.isJsonDecodeError = true) ∨
  ∃ event, loads (strip line) = .ok event

/-- A dict whose state, if it has one, is a text. -/
def EventShaped (event : PyVal) : Prop :=
  ∃ items state, event = .dict items ∧ (PyDict.get? items "state").getD (.str "") = .str state

/-- The file is missing, or it decodes, every line of it parses or is malformed, and every
    value is shaped. -/
def FileShaped (file : TextFile) : Prop :=
  (file = none ∨ ∃ lines, file = some (.ok lines) ∧ ∀ line ∈ lines, LineParses loads line) ∧
    ∀ event ∈ events loads file, EventShaped event

end Records

/-- The record has an id and a telemetry dict. -/
def Complete (event : PyDict) : Prop :=
  ∃ txId telemetry, event.get? "transaction_id" = some txId ∧
    event.get? "telemetry" = some (.dict telemetry)

/-- The row of a complete record. -/
def rowOf (event : PyDict) : PyDict :=
  match event.get? "transaction_id", event.get? "telemetry" with
  | some txId, some (.dict telemetry) => telemetry ++ [(.str "tx_id", txId)]
  | _, _ => []

section Reading

variable {loads : String → Except PyExc PyVal}

theorem parseLines_eq_ok {lines : List String} {values : List PyVal} :
    parseLines loads lines = .ok values ↔
      (∀ line ∈ lines, LineParses loads line) ∧ values = lines.filterMap (parsed loads) := by
  induction lines generalizing values with
  | nil => simp [parseLines, eq_comm]
  | cons line lines ih =>
    rw [List.forall_mem_cons, parseLines, List.filterMap_cons, parsed, LineParses]
    by_cases hblank : strip line = ""
    · simp only [hblank, if_true, true_or, true_and]
      exact ih
    · simp only [hblank, if_false, false_or]
      cases hloads : loads (strip line) with
      | error e =>
        cases hdecode : e.isJsonDecodeError with
        | true => simpa [hdecode] using ih
        | false => simp [hdecode]
      | ok event =>
        simp only [reduceCtorEq, false_and, exists_false, Except.ok.injEq, exists_eq', or_true,
          true_and]
        cases hrest : parseLines loads lines with
        | error e =>
          rw [hrest] at ih
          have hnot : ¬ ∀ line ∈ lines, LineParses loads line := fun hall =>
            absurd (ih.mpr ⟨hall, rfl⟩) (by simp)
          simp [hnot]
        | ok rest =>
          rw [hrest] at ih
          obtain ⟨hall, hvalues⟩ := ih.mp rfl
          simp only [Except.ok.injEq]
          rw [hvalues]
          exact ⟨fun h => ⟨hall, h.symm⟩, fun h => h.2.symm⟩

theorem ackedEvents_eq_ok {values : List PyVal} {rest : List PyDict} :
    ackedEvents values = .ok rest ↔
      (∀ event ∈ values, EventShaped event) ∧ rest = values.filterMap ackedDict := by
  induction values generalizing rest with
  | nil => simp [ackedEvents, eq_comm]
  | cons event values ih =>
    rw [List.forall_mem_cons, List.filterMap_cons]
    cases event with
    | dict items =>
      cases hstate : (PyDict.get? items "state").getD (.str "") with
      | str state =>
        have hshaped : EventShaped (.dict items) := ⟨items, state, rfl, hstate⟩
        simp only [ackedEvents, isAcked, hstate, ackedDict, hshaped, true_and]
        cases hrest : ackedEvents values with
        | error e =>
          rw [hrest] at ih
          have hnot : ¬ ∀ event ∈ values, EventShaped event := fun hall =>
            absurd (ih.mpr ⟨hall, rfl⟩) (by simp)
          simp [hnot]
        | ok rest' =>
          rw [hrest] at ih
          obtain ⟨hall, hvalues⟩ := ih.mp rfl
          rw [hvalues]
          cases upper state == "ACKED".toList with
          | true =>
            exact ⟨fun h => ⟨hall, (Except.ok.inj h).symm⟩, fun h => congrArg _ h.2.symm⟩
          | false =>
            exact ⟨fun h => ⟨hall, (Except.ok.inj h).symm⟩, fun h => congrArg _ h.2.symm⟩
      | _ => simp [ackedEvents, isAcked, hstate, EventShaped]
    | _ => simp [ackedEvents, EventShaped]

/-- Reading the `ACKED` records succeeds on shaped files only. -/
theorem readAcked_eq_ok {file : TextFile} {rest : List PyDict} :
    (∃ values, parseJsonl loads file = .ok values ∧ ackedEvents values = .ok rest) ↔
      FileShaped loads file ∧ rest = acked loads file := by
  cases file with
  | none => simp [parseJsonl, ackedEvents, FileShaped, acked, events, eq_comm]
  | some content =>
    cases content with
    | error e => simp [parseJsonl, FileShaped]
    | ok lines =>
      simp only [parseJsonl, parseLines_eq_ok, ackedEvents_eq_ok, FileShaped, acked, events]
      constructor
      · rintro ⟨values, ⟨hlines, rfl⟩, hshaped, hrest⟩
        exact ⟨⟨Or.inr ⟨lines, rfl, hlines⟩, hshaped⟩, hrest⟩
      · rintro ⟨⟨hfile, hshaped⟩, hrest⟩
        rcases hfile with hnone | ⟨lines', heq, hlines⟩
        · simp at hnone
        · obtain rfl : lines = lines' := by simpa using heq
          exact ⟨_, ⟨hlines, rfl⟩, hshaped, hrest⟩

theorem toRow_eq_ok {event row : PyDict} :
    toRow event = .ok row ↔ Complete event ∧ row = rowOf event := by
  unfold toRow Complete rowOf PyDict.getItem
  cases event.get? "transaction_id" with
  | none => simp
  | some txId =>
    cases htelemetry : event.get? "telemetry" with
    | none => simp
    | some telemetry =>
      cases telemetry with
      | dict telemetry => simp [eq_comm]
      | _ => simp

theorem toRows_eq_ok {records rows : List PyDict} :
    toRows records = .ok rows ↔
      (∀ event ∈ records, Complete event) ∧ rows = records.map rowOf := by
  induction records generalizing rows with
  | nil => simp [toRows, eq_comm]
  | cons event records ih =>
    rw [List.forall_mem_cons, toRows, List.map_cons]
    cases hrow : toRow event with
    | error e =>
      have hnot : ¬ Complete event := fun hcomplete =>
        absurd (toRow_eq_ok.mpr ⟨hcomplete, rfl⟩) (by simp [hrow])
      simp [hnot]
    | ok row =>
      obtain ⟨hcomplete, rfl⟩ := toRow_eq_ok.mp hrow
      cases hrest : toRows records with
      | error e =>
        rw [hrest] at ih
        have hnot : ¬ ∀ event ∈ records, Complete event := fun hall =>
          absurd (ih.mpr ⟨hall, rfl⟩) (by simp)
        simp [hnot]
      | ok rest =>
        rw [hrest] at ih
        obtain ⟨hall, hrows⟩ := ih.mp rfl
        rw [hrows]
        exact ⟨fun h => ⟨⟨hcomplete, hall⟩, (Except.ok.inj h).symm⟩,
          fun h => congrArg _ h.2.symm⟩

/-- What `collect` returns, in terms of the records of the files. -/
theorem collect_eq_ok {merge : List PyDict → List PyDict → Except PyExc (List PyDict)}
    {fileA fileB : TextFile} {rows : List PyDict} :
    collect loads merge fileA fileB = .ok rows ↔
      FileShaped loads fileA ∧ FileShaped loads fileB ∧
      if acked loads fileA = [] ∨ acked loads fileB = [] then rows = []
      else (∀ event ∈ acked loads fileA, Complete event) ∧
        (∀ event ∈ acked loads fileB, Complete event) ∧
        merge ((acked loads fileA).map rowOf) ((acked loads fileB).map rowOf) = .ok rows := by
  simp only [collect, except_bind_eq_ok]
  constructor
  · rintro ⟨aEvents, hparseA, bEvents, hparseB, aAcked, hackedA, bAcked, hackedB, hrows⟩
    obtain ⟨hshapedA, rfl⟩ := readAcked_eq_ok.mp ⟨aEvents, hparseA, hackedA⟩
    obtain ⟨hshapedB, rfl⟩ := readAcked_eq_ok.mp ⟨bEvents, hparseB, hackedB⟩
    refine ⟨hshapedA, hshapedB, ?_⟩
    simp only [Bool.or_eq_true, List.isEmpty_iff] at hrows
    split at hrows
    · rename_i hempty
      rw [if_pos hempty]
      exact (Except.ok.inj hrows).symm
    · rename_i hboth
      rw [if_neg hboth]
      obtain ⟨dfA, hdfA, hrows⟩ := except_bind_eq_ok.mp hrows
      obtain ⟨dfB, hdfB, hrows⟩ := except_bind_eq_ok.mp hrows
      obtain ⟨hcompleteA, rfl⟩ := toRows_eq_ok.mp hdfA
      obtain ⟨hcompleteB, rfl⟩ := toRows_eq_ok.mp hdfB
      exact ⟨hcompleteA, hcompleteB, hrows⟩
  · rintro ⟨hshapedA, hshapedB, hrows⟩
    obtain ⟨aEvents, hparseA, hackedA⟩ := readAcked_eq_ok.mpr ⟨hshapedA, rfl⟩
    obtain ⟨bEvents, hparseB, hackedB⟩ := readAcked_eq_ok.mpr ⟨hshapedB, rfl⟩
    refine ⟨aEvents, hparseA, bEvents, hparseB, _, hackedA, _, hackedB, ?_⟩
    simp only [Bool.or_eq_true, List.isEmpty_iff]
    split
    · rename_i hempty
      rw [if_pos hempty] at hrows
      rw [hrows]
    · rename_i hboth
      rw [if_neg hboth] at hrows
      obtain ⟨hcompleteA, hcompleteB, hmerge⟩ := hrows
      rw [except_bind_eq_ok]
      refine ⟨_, toRows_eq_ok.mpr ⟨hcompleteA, rfl⟩, ?_⟩
      rw [except_bind_eq_ok]
      exact ⟨_, toRows_eq_ok.mpr ⟨hcompleteB, rfl⟩, hmerge⟩

end Reading

/-! ### Each transaction once -/

/-- Some record carries the id. -/
def HasId (records : List PyDict) (id : PyVal) : Prop :=
  ∃ event ∈ records, event.get? "transaction_id" = some id

/-- Ids are texts, as both gateways write them; so is a `tx_id` in the telemetry. -/
def TextIds (records : List PyDict) : Prop :=
  ∀ event ∈ records,
    (∀ id, event.get? "transaction_id" = some id → ∃ text, id = .str text) ∧
    ∀ telemetry id, event.get? "telemetry" = some (.dict telemetry) →
      PyDict.get? telemetry "tx_id" = some id → ∃ text, id = .str text

/-- What is measured is an `int64` where it is there, as both gateways write it. -/
def Stamped (records : List PyDict) : Prop :=
  ∀ event ∈ records, ∀ telemetry, event.get? "telemetry" = some (.dict telemetry) →
    ∀ name ∈ measuredColumns, ∀ v, PyDict.get? telemetry name = some v →
      ∃ n, v = .int n ∧ IsInt64 n

section Counting

variable {σ : Type} (lib : MetricsLibrary σ) (loads : String → Except PyExc PyVal)
  (merge : List PyDict → List PyDict → Except PyExc (List PyDict))

/-- `collect` returns one row for each id that is `ACKED` in both files and no other row, and
    the count of the metrics is their number less the discarded rows. -/
def CountsOnce (fileA fileB : TextFile) : Prop :=
  ∃ (rows : List PyDict) (ids : List PyVal), collect loads merge fileA fileB = .ok rows ∧
    rows.map (·.get? "tx_id") = ids.map some ∧ ids.Nodup ∧
    (∀ id, id ∈ ids ↔ HasId (acked loads fileA) id ∧ HasId (acked loads fileB) id) ∧
    ∀ warmUpDiscard, computeCount lib rows warmUpDiscard =
      .ok (if ids.length ≤ warmUpDiscard then none else some (ids.length - warmUpDiscard))

/-- The rows can be merged one to one and measured: the records are complete, no columns clash,
    a key of both frames is there once on each side, these keys are the ids of both files, and
    what is measured is a column of one frame alone, if there is such a key. -/
structure OneToOne (recordsA recordsB : List PyDict) : Prop where
  completeA : ∀ event ∈ recordsA, Complete event
  completeB : ∀ event ∈ recordsB, Complete event
  noClash : ¬ ColumnsClash (recordsA.map rowOf) (recordsB.map rowOf)
  once : ∀ key, key ∈ (recordsA.map rowOf).map keyText → key ∈ (recordsB.map rowOf).map keyText →
    ((recordsA.map rowOf).map keyText).count key = 1 ∧
      ((recordsB.map rowOf).map keyText).count key = 1
  keys : ∀ key, (key ∈ (recordsA.map rowOf).map keyText ∧
      key ∈ (recordsB.map rowOf).map keyText) ↔
    HasId recordsA (.str key) ∧ HasId recordsB (.str key)
  measured : ∀ key, key ∈ (recordsA.map rowOf).map keyText →
    key ∈ (recordsB.map rowOf).map keyText → ∀ name ∈ measuredColumns,
      (name ∈ columns (recordsA.map rowOf) ↔ name ∉ columns (recordsB.map rowOf))

/-- Both files are shaped and, when both have an `ACKED` record, merge one to one. -/
def Countable (fileA fileB : TextFile) : Prop :=
  FileShaped loads fileA ∧ FileShaped loads fileB ∧
    (acked loads fileA ≠ [] → acked loads fileB ≠ [] →
      OneToOne (acked loads fileA) (acked loads fileB))

end Counting

theorem get?_rowOf {event : PyDict} {txId : PyVal} {telemetry : PyDict}
    (hid : event.get? "transaction_id" = some txId)
    (htelemetry : event.get? "telemetry" = some (.dict telemetry)) :
    PyDict.get? (rowOf event) "tx_id" = some ((PyDict.get? telemetry "tx_id").getD txId) := by
  have hrow : rowOf event = telemetry ++ [(.str "tx_id", txId)] := by
    simp only [rowOf, hid, htelemetry]
  rw [hrow]
  unfold PyDict.get?
  rw [List.find?_append]
  cases telemetry.find? fun entry => entry.1.isStr "tx_id" with
  | none => simp
  | some entry => simp

theorem get?_rowOf_of_ne {event : PyDict} {txId : PyVal} {telemetry : PyDict} {name : String}
    (hid : event.get? "transaction_id" = some txId)
    (htelemetry : event.get? "telemetry" = some (.dict telemetry)) (hname : name ≠ "tx_id") :
    PyDict.get? (rowOf event) name = PyDict.get? telemetry name := by
  have hrow : rowOf event = telemetry ++ [(.str "tx_id", txId)] := by
    simp only [rowOf, hid, htelemetry]
  rw [hrow]
  unfold PyDict.get?
  rw [List.find?_append]
  cases telemetry.find? fun entry => entry.1.isStr name with
  | none => simp [hname.symm]
  | some entry => simp

theorem stringKeyed_rows {records : List PyDict} (hids : TextIds records)
    (hcomplete : ∀ event ∈ records, Complete event) : StringKeyed (records.map rowOf) := by
  intro row hrow
  obtain ⟨event, hevent, rfl⟩ := List.mem_map.mp hrow
  obtain ⟨txId, telemetry, hid, htelemetry⟩ := hcomplete event hevent
  rw [get?_rowOf hid htelemetry]
  obtain ⟨htext, hown⟩ := hids event hevent
  cases hkey : PyDict.get? telemetry "tx_id" with
  | none =>
    obtain ⟨text, rfl⟩ := htext txId hid
    exact ⟨text, rfl⟩
  | some id =>
    obtain ⟨text, rfl⟩ := hown telemetry id htelemetry hkey
    exact ⟨text, rfl⟩

/-! ### The columns that are measured -/

theorem column_eq_ok {df : List PyDict} {name : String} {values : List PyVal} :
    column df name = .ok values ↔ df.map (·.get? name) = values.map some := by
  induction df generalizing values with
  | nil =>
    constructor
    · intro h
      obtain rfl : [] = values := Except.ok.inj h
      rfl
    · intro h
      obtain rfl := List.map_eq_nil_iff.mp h.symm
      rfl
  | cons row df ih =>
    unfold column at ih ⊢
    rw [List.mapM_cons, except_bind_eq_ok]
    constructor
    · rintro ⟨v, hv, hrest⟩
      obtain ⟨rest, hmap, hrest⟩ := except_bind_eq_ok.mp hrest
      obtain rfl := Except.ok.inj hrest
      rw [List.map_cons, List.map_cons, ih.mp hmap, PyDict.getItem_eq_ok.mp hv]
    · intro h
      cases values with
      | nil => simp at h
      | cons v values =>
        rw [List.map_cons, List.map_cons, List.cons.injEq] at h
        refine ⟨v, PyDict.getItem_eq_ok.mpr h.1, ?_⟩
        exact except_bind_eq_ok.mpr ⟨values, ih.mpr h.2, rfl⟩

/-- A column of stamps. -/
theorem exists_column {df : List PyDict} {name : String}
    (h : ∀ row ∈ df, ∃ v, row.get? name = some v ∧ IsStamp v) :
    ∃ values, column df name = .ok values ∧ (∀ v ∈ values, IsStamp v) ∧
      values.length = df.length := by
  refine ⟨df.map fun row => (row.get? name).getD .none, ?_, ?_, List.length_map _⟩
  · rw [column_eq_ok, List.map_map]
    apply List.map_congr_left
    intro row hrow
    obtain ⟨v, hv, -⟩ := h row hrow
    simp [hv]
  · intro v hmem
    obtain ⟨row, hrow, rfl⟩ := List.mem_map.mp hmem
    obtain ⟨v, hv, hstamp⟩ := h row hrow
    rw [hv]
    exact hstamp

section Count

variable {σ : Type} {lib : MetricsLibrary σ} {rows : List PyDict}

/-- Rows with stamps in the three columns are counted. -/
theorem computeCount_eq (hlib : lib.Lawful)
    (h : ∀ name ∈ measuredColumns, ∀ row ∈ rows, ∃ v, row.get? name = some v ∧ IsStamp v)
    (warmUpDiscard : Nat) :
    computeCount lib rows warmUpDiscard = .ok (if rows.length ≤ warmUpDiscard then none
      else some (rows.length - warmUpDiscard)) := by
  unfold computeCount
  by_cases hle : rows.length ≤ warmUpDiscard
  · simp [hle]
  · have hne : rows.isEmpty = false := by
      cases rows with
      | nil => simp at hle
      | cons row rows => rfl
    have hcolumn : ∀ name ∈ measuredColumns, ∃ values,
        column (rows.drop warmUpDiscard) name = .ok values ∧ (∀ v ∈ values, IsStamp v) ∧
          values.length = (rows.drop warmUpDiscard).length := fun name hname =>
      exists_column fun row hrow => h name hname row (List.mem_of_mem_drop hrow)
    obtain ⟨ingested, hingested, hstamps, hlength⟩ := hcolumn "t_ingested_b" (by decide)
    obtain ⟨received, hreceived, hstamps', hlength'⟩ := hcolumn "t_received" (by decide)
    obtain ⟨retries, hretries, hstamps'', -⟩ := hcolumn "retry_count" (by decide)
    obtain ⟨total, htotal, hsummary⟩ :=
      hlib.latency ingested received hstamps hstamps' (hlength.trans hlength'.symm)
    simp only [hne, hle, decide_false, Bool.or_false, Bool.false_eq_true, if_false, hingested,
      hreceived, hretries, htotal, hsummary, hlib.mean retries hstamps'', bind, Except.bind, pure,
      Except.pure, List.length_drop]

/-- A count has read the three columns. -/
theorem columns_of_computeCount {n : Nat} (h : computeCount lib rows 0 = .ok (some n))
    {name : String} (hname : name ∈ measuredColumns) {row : PyDict} (hrow : row ∈ rows) :
    (row.get? name).isSome = true := by
  unfold computeCount at h
  split at h
  · simp at h
  · rw [List.drop_zero] at h
    obtain ⟨ingested, hingested, h⟩ := except_bind_eq_ok.mp h
    obtain ⟨received, hreceived, h⟩ := except_bind_eq_ok.mp h
    obtain ⟨total, -, h⟩ := except_bind_eq_ok.mp h
    obtain ⟨_, -, h⟩ := except_bind_eq_ok.mp h
    obtain ⟨retries, hretries, -⟩ := except_bind_eq_ok.mp h
    have hcolumn : ∃ values, column rows name = .ok values := by
      simp only [measuredColumns, List.mem_cons, List.not_mem_nil, or_false] at hname
      rcases hname with rfl | rfl | rfl
      · exact ⟨_, hingested⟩
      · exact ⟨_, hreceived⟩
      · exact ⟨_, hretries⟩
    obtain ⟨values, hvalues⟩ := hcolumn
    have hmem : row.get? name ∈ values.map some := by
      rw [← column_eq_ok.mp hvalues]
      exact List.mem_map_of_mem hrow
    obtain ⟨v, -, hv⟩ := List.mem_map.mp hmem
    rw [← hv]
    rfl

end Count

/-- What is measured has no name that a suffix makes. -/
theorem ne_suffixed {name suffix : String} (hname : name ∈ measuredColumns)
    (hsuffix : suffix = "_x" ∨ suffix = "_y") (c : String) : c ++ suffix ≠ name := by
  intro heq
  have hlast := congrArg (fun text : String => text.toList.getLast?) heq
  simp only [measuredColumns, List.mem_cons, List.not_mem_nil, or_false] at hname
  rcases hsuffix with rfl | rfl <;> rcases hname with rfl | rfl | rfl <;>
    simp [String.toList_append] at hlast

theorem mergedName_eq_iff {dfA dfB : List PyDict} {name suffix : String}
    (hname : name ∈ measuredColumns) (hsuffix : suffix = "_x" ∨ suffix = "_y") (c : String) :
    mergedName dfA dfB suffix c = name ↔
      c = name ∧ ¬ (name ∈ columns dfA ∧ name ∈ columns dfB) := by
  unfold mergedName
  split
  · rename_i hboth
    constructor
    · intro heq
      exact absurd heq (ne_suffixed hname hsuffix c)
    · rintro ⟨rfl, hnot⟩
      exact absurd hboth hnot
  · rename_i hnot
    constructor
    · rintro rfl
      exact ⟨rfl, hnot⟩
    · exact And.left

/-- A merged row has the column exactly when one frame alone has it, and then the value of the
    row of this frame. -/
theorem cell_measured {dfA dfB df : List PyDict} {name suffix : String}
    (hname : name ∈ measuredColumns) (hsuffix : suffix = "_x" ∨ suffix = "_y") (row : PyDict) :
    cell dfA dfB df suffix row name =
      if name ∈ columns df ∧ ¬ (name ∈ columns dfA ∧ name ∈ columns dfB) then
        some ((row.get? name).getD .none)
      else none := by
  unfold cell
  simp only [mergedName_eq_iff hname hsuffix]
  split
  · rename_i h
    have hfind : (columns df).find? (fun c => decide (c = name ∧
        ¬ (name ∈ columns dfA ∧ name ∈ columns dfB))) = some name := by
      have hsome : ((columns df).find? fun c => decide (c = name ∧
          ¬ (name ∈ columns dfA ∧ name ∈ columns dfB))).isSome = true := by
        rw [List.find?_isSome]
        exact ⟨name, h.1, decide_eq_true ⟨rfl, h.2⟩⟩
      obtain ⟨c, hc⟩ := Option.isSome_iff_exists.mp hsome
      have hfound := List.find?_some hc
      rw [decide_eq_true_iff] at hfound
      rw [hc, hfound.1]
    rw [hfind]
    rfl
  · rename_i h
    rw [Option.map_eq_none_iff, List.find?_eq_none]
    intro c hc heq
    obtain ⟨rfl, hnot⟩ := of_decide_eq_true heq
    exact h ⟨hc, hnot⟩

theorem MergedFrom.isSome_iff {dfA dfB : List PyDict} {row : PyDict} (h : MergedFrom dfA dfB row)
    {name : String} (hname : name ∈ measuredColumns) :
    (row.get? name).isSome = true ↔ (name ∈ columns dfA ↔ name ∉ columns dfB) := by
  obtain ⟨rowA, -, rowB, -, hrow⟩ := h
  have hkey : name ≠ "tx_id" := by
    rintro rfl
    exact absurd hname (by decide)
  rw [hrow name hkey, cell_measured hname (Or.inl rfl), cell_measured hname (Or.inr rfl)]
  by_cases hA : name ∈ columns dfA <;> by_cases hB : name ∈ columns dfB <;> simp [hA, hB]

/-- The values of the measured columns are those of the records. -/
theorem MergedFrom.isStamp {recordsA recordsB : List PyDict} (hstampedA : Stamped recordsA)
    (hstampedB : Stamped recordsB) (hcompleteA : ∀ event ∈ recordsA, Complete event)
    (hcompleteB : ∀ event ∈ recordsB, Complete event) {row : PyDict}
    (h : MergedFrom (recordsA.map rowOf) (recordsB.map rowOf) row) {name : String}
    (hname : name ∈ measuredColumns) {v : PyVal} (hv : row.get? name = some v) : IsStamp v := by
  have hkey : name ≠ "tx_id" := by
    rintro rfl
    exact absurd hname (by decide)
  have hrow : ∀ {records : List PyDict}, Stamped records → (∀ event ∈ records, Complete event) →
      ∀ row ∈ records.map rowOf, IsStamp ((PyDict.get? row name).getD .none) := by
    intro records hstamped hcomplete row hmem
    obtain ⟨event, hevent, rfl⟩ := List.mem_map.mp hmem
    obtain ⟨txId, telemetry, hid, htelemetry⟩ := hcomplete event hevent
    rw [get?_rowOf_of_ne hid htelemetry hkey]
    cases hget : PyDict.get? telemetry name with
    | none => exact Or.inl rfl
    | some v => exact Or.inr (hstamped event hevent telemetry htelemetry name hname v hget)
  obtain ⟨rowA, hrowA, rowB, hrowB, hcells⟩ := h
  rw [hcells name hkey, cell_measured hname (Or.inl rfl), cell_measured hname (Or.inr rfl)] at hv
  rcases Option.or_eq_some_iff.mp hv with hA | ⟨-, hB⟩
  · split at hA
    · rw [← Option.some.inj hA]
      exact hrow hstampedA hcompleteA rowA hrowA
    · simp at hA
  · split at hB
    · rw [← Option.some.inj hB]
      exact hrow hstampedB hcompleteB rowB hrowB
    · simp at hB

/-- An id that only texts can be. -/
theorem HasId.text {records : List PyDict} {id : PyVal} (hids : TextIds records)
    (h : HasId records id) : ∃ text, id = .str text := by
  obtain ⟨event, hevent, hid⟩ := h
  exact (hids event hevent).1 id hid

/-- Keys that are the texts of a join are the ids of rows. -/
theorem exists_ids_of_perm {keys : List (Option PyVal)} {texts : List String}
    (h : keys.Perm (texts.map fun text => some (.str text))) :
    ∃ ids : List PyVal, keys = ids.map some ∧ ids.Perm (texts.map .str) := by
  refine ⟨keys.map (·.getD .none), ?_, ?_⟩
  · have hsame : keys.map (some ∘ (·.getD PyVal.none)) = keys.map id := by
      apply List.map_congr_left
      intro key hkey
      obtain ⟨text, -, rfl⟩ := List.mem_map.mp (h.mem_iff.mp hkey)
      rfl
    rw [List.map_map, hsame, List.map_id]
  · have hids := h.map (·.getD PyVal.none)
    rwa [List.map_map] at hids

theorem perm_of_map_some {ids : List PyVal} {texts : List String}
    (h : (ids.map some).Perm (texts.map fun text => some (.str text))) :
    ids.Perm (texts.map .str) := by
  have hids := h.map (·.getD PyVal.none)
  rw [List.map_map, List.map_map] at hids
  simpa [Function.comp_def] using hids

/-- The ids of a merge are each there once exactly when the keys of the join are. -/
theorem nodup_ids_iff {ids : List PyVal} {texts : List String} (h : ids.Perm (texts.map .str)) :
    ids.Nodup ↔ texts.Nodup := by
  rw [h.nodup_iff, List.nodup_map_iff]
  intro text text' heq
  exact PyVal.str.inj heq

theorem mem_ids_iff {ids : List PyVal} {texts : List String} (h : ids.Perm (texts.map .str))
    (text : String) : PyVal.str text ∈ ids ↔ text ∈ texts := by
  rw [h.mem_iff, List.mem_map]
  constructor
  · rintro ⟨text', hmem, heq⟩
    obtain rfl := PyVal.str.inj heq
    exact hmem
  · intro hmem
    exact ⟨text, hmem, rfl⟩

section Both

variable {σ : Type} {lib : MetricsLibrary σ} {loads : String → Except PyExc PyVal}
  {merge : List PyDict → List PyDict → Except PyExc (List PyDict)} {fileA fileB : TextFile}

/-- What is counted once was merged one to one, and measured. -/
theorem CountsOnce.countable (hmerge : MergeLaws merge) (hidsA : TextIds (acked loads fileA))
    (hidsB : TextIds (acked loads fileB)) (h : CountsOnce lib loads merge fileA fileB) :
    Countable loads fileA fileB := by
  obtain ⟨rows, ids, hcollect, hkeys, hnodup, hmem, hcount⟩ := h
  obtain ⟨hshapedA, hshapedB, hrows⟩ := collect_eq_ok.mp hcollect
  refine ⟨hshapedA, hshapedB, ?_⟩
  intro hneA hneB
  rw [if_neg (by simp [hneA, hneB])] at hrows
  obtain ⟨hcompleteA, hcompleteB, hok⟩ := hrows
  have hclash : ¬ ColumnsClash ((acked loads fileA).map rowOf)
      ((acked loads fileB).map rowOf) := by
    intro hclash
    obtain ⟨e, he⟩ := hmerge.clash _ _ hclash
    rw [he] at hok
    simp at hok
  obtain ⟨rows', hok', hperm, hrows⟩ := hmerge.inner _ _ (stringKeyed_rows hidsA hcompleteA)
    (stringKeyed_rows hidsB hcompleteB) hclash
  obtain rfl : rows = rows' := by simpa [hok] using hok'
  rw [hkeys] at hperm
  have hids := perm_of_map_some hperm
  refine ⟨hcompleteA, hcompleteB, hclash, ?_, ?_, ?_⟩
  · exact nodup_joinKeys_iff.mp ((nodup_ids_iff hids).mp hnodup)
  · intro key
    rw [← mem_joinKeys, ← mem_ids_iff hids, hmem]
  · -- there is a row then, and it was measured
    intro key hkeyA hkeyB name hname
    have hid : PyVal.str key ∈ ids := (mem_ids_iff hids key).mpr (mem_joinKeys.mpr ⟨hkeyA, hkeyB⟩)
    have hkey : some (PyVal.str key) ∈ rows.map (·.get? "tx_id") := by
      rw [hkeys]
      exact List.mem_map_of_mem hid
    obtain ⟨row, hrow, -⟩ := List.mem_map.mp hkey
    have hpositive : ¬ ids.length ≤ 0 := Nat.not_le.mpr (List.length_pos_of_mem hid)
    have hcounted := hcount 0
    rw [if_neg hpositive] at hcounted
    exact ((hrows row hrow).isSome_iff hname).mp (columns_of_computeCount hcounted hname hrow)

/-- What merges one to one is counted once. -/
theorem Countable.countsOnce (hlib : lib.Lawful) (hmerge : MergeLaws merge)
    (hidsA : TextIds (acked loads fileA)) (hidsB : TextIds (acked loads fileB))
    (hstampedA : Stamped (acked loads fileA)) (hstampedB : Stamped (acked loads fileB))
    (h : Countable loads fileA fileB) : CountsOnce lib loads merge fileA fileB := by
  obtain ⟨hshapedA, hshapedB, hone⟩ := h
  by_cases hempty : acked loads fileA = [] ∨ acked loads fileB = []
  · refine ⟨[], [], ?_, rfl, List.nodup_nil, ?_, ?_⟩
    · rw [collect_eq_ok, if_pos hempty]
      exact ⟨hshapedA, hshapedB, rfl⟩
    · intro id
      rcases hempty with hnil | hnil
      · simp [HasId, hnil]
      · simp [HasId, hnil]
    · intro warmUpDiscard
      exact computeCount_eq hlib (by simp) warmUpDiscard
  · obtain ⟨hneA, hneB⟩ := not_or.mp hempty
    obtain ⟨hcompleteA, hcompleteB, hclash, honce, hkeys, hmeasured⟩ := hone hneA hneB
    obtain ⟨rows, hok, hperm, hmerged⟩ := hmerge.inner _ _ (stringKeyed_rows hidsA hcompleteA)
      (stringKeyed_rows hidsB hcompleteB) hclash
    obtain ⟨ids, hrows, hids⟩ := exists_ids_of_perm hperm
    refine ⟨rows, ids, ?_, hrows, ?_, ?_, ?_⟩
    · rw [collect_eq_ok, if_neg hempty]
      exact ⟨hshapedA, hshapedB, hcompleteA, hcompleteB, hok⟩
    · exact (nodup_ids_iff hids).mpr (nodup_joinKeys_iff.mpr honce)
    · intro id
      constructor
      · intro hid
        obtain ⟨text, -, rfl⟩ := List.mem_map.mp (hids.mem_iff.mp hid)
        exact (hkeys text).mp (mem_joinKeys.mp ((mem_ids_iff hids text).mp hid))
      · rintro ⟨hidA, hidB⟩
        obtain ⟨text, rfl⟩ := hidA.text hidsA
        exact (mem_ids_iff hids text).mpr (mem_joinKeys.mpr ((hkeys text).mpr ⟨hidA, hidB⟩))
    · intro warmUpDiscard
      have hlength : rows.length = ids.length := by
        simpa using congrArg List.length hrows
      rw [← hlength]
      apply computeCount_eq hlib
      intro name hname row hrow
      obtain ⟨key, hkey, -⟩ := List.mem_map.mp (hperm.subset (List.mem_map_of_mem hrow))
      obtain ⟨hkeyA, hkeyB⟩ := mem_joinKeys.mp hkey
      have hthere := ((hmerged row hrow).isSome_iff hname).mpr
        (hmeasured key hkeyA hkeyB name hname)
      obtain ⟨v, hv⟩ := Option.isSome_iff_exists.mp hthere
      exact ⟨v, hv,
        (hmerged row hrow).isStamp hstampedA hstampedB hcompleteA hcompleteB hname hv⟩

end Both

/-- **Each completed transaction is counted once exactly when the files are shaped and their
    `ACKED` records merge one to one.** -/
theorem countsOnce_iff {σ : Type} (lib : MetricsLibrary σ) (hlib : lib.Lawful)
    (loads : String → Except PyExc PyVal)
    (merge : List PyDict → List PyDict → Except PyExc (List PyDict)) (hmerge : MergeLaws merge)
    (fileA fileB : TextFile) (hidsA : TextIds (acked loads fileA))
    (hidsB : TextIds (acked loads fileB)) (hstampedA : Stamped (acked loads fileA))
    (hstampedB : Stamped (acked loads fileB)) :
    CountsOnce lib loads merge fileA fileB ↔ Countable loads fileA fileB := by
  constructor
  · intro hcounts
    exact hcounts.countable hmerge hidsA hidsB
  · intro hcountable
    exact hcountable.countsOnce hlib hmerge hidsA hidsB hstampedA hstampedB

/-! ### A merge with these laws -/

/-- The fields of a row under the names of its columns in the merged frame. -/
def mergedFields (dfA dfB df : List PyDict) (suffix : String) (row : PyDict) : PyDict :=
  (columns df).map fun c => (.str (mergedName dfA dfB suffix c), (row.get? c).getD .none)

def mergeRows (dfA dfB : List PyDict) (pair : PyDict × PyDict) : PyDict :=
  (.str "tx_id", .str (keyText pair.1)) ::
    (mergedFields dfA dfB dfA "_x" pair.1 ++ mergedFields dfA dfB dfB "_y" pair.2)

def innerMerge (dfA dfB : List PyDict) : Except PyExc (List PyDict) :=
  if ColumnsClash dfA dfB then
    .error ⟨.other "MergeError", "Passing 'suffixes' which cause duplicate columns is not allowed."⟩
  else .ok ((joinOn keyText keyText dfA dfB).map (mergeRows dfA dfB))

theorem get?_mergedFields (dfA dfB df : List PyDict) (suffix : String) (row : PyDict)
    (name : String) : PyDict.get? (mergedFields dfA dfB df suffix row) name =
      cell dfA dfB df suffix row name := by
  simp only [PyDict.get?, mergedFields, cell, List.find?_map, Option.map_map]
  congr 1

theorem get?_mergeRows {dfA dfB : List PyDict} {pair : PyDict × PyDict} {name : String}
    (hname : name ≠ "tx_id") : PyDict.get? (mergeRows dfA dfB pair) name =
      (cell dfA dfB dfA "_x" pair.1 name).or (cell dfA dfB dfB "_y" pair.2 name) := by
  rw [← get?_mergedFields, ← get?_mergedFields]
  simp [PyDict.get?, mergeRows, PyVal.isStr, hname.symm, List.find?_append, Option.map_or]

theorem innerMerge_laws : MergeLaws innerMerge where
  inner := by
    intro dfA dfB _ _ hclash
    refine ⟨_, if_neg hclash, ?_, ?_⟩
    · rw [List.map_map, joinKeys, List.map_map]
      exact List.Perm.refl _
    · intro row hrow
      obtain ⟨pair, hpair, rfl⟩ := List.mem_map.mp hrow
      obtain ⟨hrowA, hrowB, -⟩ := mem_joinOn.mp hpair
      exact ⟨pair.1, hrowA, pair.2, hrowB, fun name hname => get?_mergeRows hname⟩
  clash := by
    intro dfA dfB hclash
    exact ⟨_, if_pos hclash⟩

/-- A value of a column of integers. -/
def stampOf : PyVal → Except PyExc (Option Int)
  | .int n => .ok (some n)
  | .none => .ok none
  | _ => .error ⟨.typeError, "unsupported operand type(s)"⟩

theorem mapM_stampOf {values : List PyVal} (h : ∀ v ∈ values, IsStamp v) :
    ∃ stamps, values.mapM stampOf = .ok stamps := by
  induction values with
  | nil => exact ⟨[], rfl⟩
  | cons v values ih =>
    obtain ⟨hv, hvalues⟩ := List.forall_mem_cons.mp h
    obtain ⟨stamps, hstamps⟩ := ih hvalues
    have hstamp : ∃ stamp, stampOf v = .ok stamp := by
      rcases hv with rfl | ⟨n, rfl, -⟩
      · exact ⟨none, rfl⟩
      · exact ⟨some n, rfl⟩
    obtain ⟨stamp, hstamp⟩ := hstamp
    refine ⟨stamp :: stamps, ?_⟩
    rw [List.mapM_cons, hstamp, hstamps]
    rfl

/-- Integer columns and their differences, in nanoseconds. -/
def stampMetrics : MetricsLibrary (List (Option Int)) where
  latency values values' := do
    let stamps ← values.mapM stampOf
    let stamps' ← values'.mapM stampOf
    return List.zipWith (Option.map₂ fun t t' => t - t') stamps stamps'
  summarize _ := .ok ()
  mean values := do
    let _ ← values.mapM stampOf
    return ()

theorem stampMetrics_lawful : stampMetrics.Lawful where
  latency := by
    intro values values' h h' _
    obtain ⟨stamps, hstamps⟩ := mapM_stampOf h
    obtain ⟨stamps', hstamps'⟩ := mapM_stampOf h'
    refine ⟨List.zipWith (Option.map₂ fun t t' => t - t') stamps stamps', ?_, rfl⟩
    simp only [stampMetrics, hstamps, hstamps']
    rfl
  mean := by
    intro values h
    obtain ⟨stamps, hstamps⟩ := mapM_stampOf h
    simp only [stampMetrics, hstamps]
    rfl

/-! ### What the gateways log -/

/-- The record of `log_telemetry` and `log_telemetry_b`. -/
def logRecord (txId state : String) (telemetry : PyDict) : PyDict :=
  [(.str "transaction_id", .str txId), (.str "state", .str state),
   (.str "telemetry", .dict telemetry)]

/-- A logged record, whose telemetry holds time stamps and no `tx_id`. -/
def Logged (event : PyDict) : Prop :=
  ∃ txId state telemetry, event = logRecord txId state telemetry ∧
    PyDict.get? telemetry "tx_id" = none

theorem Logged.complete {event : PyDict} (h : Logged event) : Complete event := by
  obtain ⟨txId, state, telemetry, rfl, -⟩ := h
  exact ⟨.str txId, telemetry, rfl, rfl⟩

theorem Logged.shaped {event : PyDict} (h : Logged event) : EventShaped (.dict event) := by
  obtain ⟨txId, state, telemetry, rfl, -⟩ := h
  exact ⟨_, state, rfl, rfl⟩

theorem textIds_of_logged {records : List PyDict} (h : ∀ event ∈ records, Logged event) :
    TextIds records := by
  intro event hevent
  obtain ⟨txId, state, telemetry, rfl, hown⟩ := h event hevent
  constructor
  · intro id hid
    exact ⟨txId, (Option.some.inj hid).symm⟩
  · intro telemetry' id htelemetry hid
    obtain rfl : telemetry = telemetry' := by
      simpa [logRecord, PyDict.get?, PyVal.isStr] using htelemetry
    rw [hown] at hid
    simp at hid

/-- The keys of logged rows are the ids of the records. -/
theorem keys_of_logged {records : List PyDict} (h : ∀ event ∈ records, Logged event)
    (key : String) : key ∈ (records.map rowOf).map keyText ↔ HasId records (.str key) := by
  have hkey : ∀ event ∈ records, ∀ key : String, keyText (rowOf event) = key ↔
      event.get? "transaction_id" = some (.str key) := by
    intro event hevent key
    obtain ⟨txId, state, telemetry, rfl, hown⟩ := h event hevent
    have hid : PyDict.get? (logRecord txId state telemetry) "transaction_id" =
        some (.str txId) := rfl
    have hrow := get?_rowOf hid rfl
    rw [hown] at hrow
    simp [keyText, hrow, hid]
  simp only [List.mem_map, exists_exists_and_eq_and, HasId]
  constructor
  · rintro ⟨event, hevent, heq⟩
    exact ⟨event, hevent, (hkey event hevent key).mp heq⟩
  · rintro ⟨event, hevent, heq⟩
    exact ⟨event, hevent, (hkey event hevent key).mpr heq⟩

namespace Sample

def recordA : PyDict :=
  logRecord "tx-1" "acked" [(.str "t_received", .int 1000), (.str "t_extracted", .int 2000),
    (.str "t_signed", .int 3000), (.str "t_acked", .int 9000), (.str "retry_count", .int 1)]

def recordB : PyDict :=
  logRecord "tx-1" "ACKED" [(.str "t_received_b", .int 4000), (.str "t_verified_b", .int 5000),
    (.str "t_ingested_b", .int 6000)]

/-- `json.loads` on the two texts. -/
def loads (text : String) : Except PyExc PyVal :=
  if text = "A" then .ok (.dict recordA)
  else if text = "B" then .ok (.dict recordB)
  else .error ⟨.other "JSONDecodeError", "Expecting value: line 1 column 1 (char 0)"⟩

/-- The telemetry of a record, when it has been looked up. -/
theorem telemetry_eq {txId state : String} {telemetry telemetry' : PyDict}
    (h : PyDict.get? (logRecord txId state telemetry) "telemetry" = some (.dict telemetry')) :
    telemetry' = telemetry := by
  simpa [logRecord, PyDict.get?, PyVal.isStr] using h.symm

theorem stampedA : Stamped [recordA] := by
  intro event hevent telemetry htelemetry
  obtain rfl := List.mem_singleton.mp hevent
  obtain rfl := telemetry_eq htelemetry
  simp [measuredColumns, PyDict.get?, PyVal.isStr, IsInt64]

theorem stampedB : Stamped [recordB] := by
  intro event hevent telemetry htelemetry
  obtain rfl := List.mem_singleton.mp hevent
  obtain rfl := telemetry_eq htelemetry
  simp [measuredColumns, PyDict.get?, PyVal.isStr, IsInt64]

/-- `json.loads` where the telemetry of both records is empty. -/
def emptyLoads (_ : String) : Except PyExc PyVal := .ok (.dict (logRecord "tx-1" "ACKED" []))

end Sample

theorem get?_of_keyText {row : PyDict} {id : String} (h : keyText row = id) (hne : id ≠ "") :
    row.get? "tx_id" = some (.str id) := by
  unfold keyText at h
  split at h
  · rename_i id' hget
    rw [hget, h]
  · exact absurd h.symm hne

/-- A bundle that was delivered twice, as a retry does when the ACK is lost, has two records at
    Gateway B: the merge gives two rows for the one transaction, and the count is two. -/
theorem retry_counted_twice :
    ¬ CountsOnce stampMetrics Sample.loads innerMerge (some (.ok ["A"]))
      (some (.ok ["B", "torn", "B"])) ∧
    ∃ rows, collect Sample.loads innerMerge (some (.ok ["A"])) (some (.ok ["B", "torn", "B"])) =
      .ok rows ∧ computeCount stampMetrics rows 0 = .ok (some 2) := by
  have hrun : ((collect Sample.loads innerMerge (some (.ok ["A"]))
      (some (.ok ["B", "torn", "B"]))).toOption.map fun rows =>
        (rows.map keyText, (computeCount stampMetrics rows 0).toOption)) =
      some (["tx-1", "tx-1"], some (some 2)) := by
    decide +kernel
  cases hcollect : collect Sample.loads innerMerge (some (.ok ["A"]))
      (some (.ok ["B", "torn", "B"])) with
  | error e =>
    rw [hcollect] at hrun
    simp [Except.toOption] at hrun
  | ok rows =>
    rw [hcollect] at hrun
    obtain ⟨htexts, hcount⟩ := Prod.mk.inj (Option.some.inj hrun)
    constructor
    · rintro ⟨rows', ids, hok, hkeys, hnodup, -⟩
      obtain rfl : rows = rows' := by simpa [hcollect] using hok
      have hids : ids.map some = [some (PyVal.str "tx-1"), some (PyVal.str "tx-1")] := by
        rw [← hkeys]
        match rows with
        | [] | [_] | _ :: _ :: _ :: _ => simp at htexts
        | [row, row'] =>
          obtain ⟨hrow, hrow'⟩ : keyText row = "tx-1" ∧ keyText row' = "tx-1" := by
            simpa using htexts
          simp [get?_of_keyText hrow, get?_of_keyText hrow']
      match ids with
      | [] | [_] | _ :: _ :: _ :: _ => simp at hids
      | [id, id'] =>
        obtain ⟨rfl, rfl⟩ : id = .str "tx-1" ∧ id' = .str "tx-1" := by simpa using hids
        simp at hnodup
    · refine ⟨rows, rfl, ?_⟩
      cases hresult : computeCount stampMetrics rows 0 with
      | error e =>
        rw [hresult] at hcount
        simp [Except.toOption] at hcount
      | ok count =>
        rw [hresult] at hcount
        exact congrArg _ (Option.some.inj hcount)

/-- One record on each side, with a torn line behind: one row, counted once. -/
theorem sample_countsOnce_iff :
    MergeLaws innerMerge ∧ stampMetrics.Lawful ∧
    CountsOnce stampMetrics Sample.loads innerMerge (some (.ok ["A", "torn"]))
      (some (.ok ["B"])) := by
  have hA : acked Sample.loads (some (.ok ["A", "torn"])) = [Sample.recordA] := rfl
  have hB : acked Sample.loads (some (.ok ["B"])) = [Sample.recordB] := rfl
  have hloggedA : Logged Sample.recordA := ⟨_, _, _, rfl, rfl⟩
  have hloggedB : Logged Sample.recordB := ⟨_, _, _, rfl, rfl⟩
  have hallA : ∀ event ∈ acked Sample.loads (some (.ok ["A", "torn"])), Logged event := by
    simpa [hA] using hloggedA
  have hallB : ∀ event ∈ acked Sample.loads (some (.ok ["B"])), Logged event := by
    simpa [hB] using hloggedB
  refine ⟨innerMerge_laws, stampMetrics_lawful, ?_⟩
  rw [countsOnce_iff stampMetrics stampMetrics_lawful Sample.loads innerMerge innerMerge_laws _ _
    (textIds_of_logged hallA) (textIds_of_logged hallB) (by rw [hA]; exact Sample.stampedA)
    (by rw [hB]; exact Sample.stampedB)]
  have hok : Sample.loads (strip "A") = .ok (.dict Sample.recordA) := rfl
  have hok' : Sample.loads (strip "B") = .ok (.dict Sample.recordB) := rfl
  refine ⟨⟨Or.inr ⟨_, rfl, ?_⟩, ?_⟩, ⟨Or.inr ⟨_, rfl, ?_⟩, ?_⟩, ?_⟩
  · intro line hline
    rcases List.mem_cons.mp hline with rfl | htorn
    · exact Or.inr (Or.inr ⟨_, hok⟩)
    · obtain rfl := List.mem_singleton.mp htorn
      exact Or.inr (Or.inl ⟨_, rfl, rfl⟩)
  · intro event hevent
    obtain rfl : event = .dict Sample.recordA := List.mem_singleton.mp hevent
    exact hloggedA.shaped
  · intro line hline
    obtain rfl := List.mem_singleton.mp hline
    exact Or.inr (Or.inr ⟨_, hok'⟩)
  · intro event hevent
    obtain rfl : event = .dict Sample.recordB := List.mem_singleton.mp hevent
    exact hloggedB.shaped
  · intro _ _
    refine ⟨fun event hevent => (hallA event hevent).complete,
      fun event hevent => (hallB event hevent).complete, ?_, ?_, ?_, ?_⟩
    · decide +kernel
    · intro key hkeyA hkeyB
      obtain rfl : key = "tx-1" := List.mem_singleton.mp hkeyA
      decide +kernel
    · intro key
      rw [keys_of_logged hallA, keys_of_logged hallB]
    · intro _ _ _
      decide +kernel

/-- Records without measurements are merged, and their count raises. -/
example : (collect Sample.emptyLoads innerMerge (some (.ok ["A"])) (some (.ok ["A"]))).toOption.map
    (fun rows => (rows.map keyText, (computeCount stampMetrics rows 0).toOption)) =
      some (["tx-1"], none) := by
  decide +kernel

end QsTie.Benchmark
