import QsTie.Benchmark.Telemetry
import QsTie.Common.Path
import Mathlib.Data.List.Nodup
import Mathlib.Logic.Function.Basic

/-!
# Benchmark campaigns (`benchmark_runner/runner.py`)

A campaign goes through all combinations of iteration, crypto mode and network
profile.  For each one it clears the two telemetry files, injects events, waits,
computes metrics from what the gateways have logged and, when there are metrics,
copies both files to `raw/`.  A combination without metrics copies nothing, and the
next one clears its files: the telemetry is archived in every run in which no
combination with telemetry lacks metrics.

The gateways append to their files all the time; what they append is an input of
the run, cut at the moments at which the runner touches the file.
-/

namespace QsTie.Benchmark

open QsTie.Lib

/-! ### Combinations -/

inductive Side where
  | a
  | b
deriving DecidableEq, Repr

/-- `CLASSICAL` and `HYBRID_PQC`. -/
inductive CryptoConfig where
  | classical
  | hybridPqc
deriving DecidableEq, Repr

def CryptoConfig.group : CryptoConfig → String
  | .classical => "X25519"
  | .hybridPqc => "X25519MLKEM768"

inductive Profile where
  | stable
  | adverse
deriving DecidableEq, Repr

def Profile.name : Profile → String
  | .stable => "stable"
  | .adverse => "adverse"

structure Combination where
  iteration : Nat
  crypto : CryptoConfig
  profile : Profile
deriving DecidableEq, Repr

/-- What stands for `.jsonl` in the name of a copy. -/
def Combination.suffix (c : Combination) : String :=
  "_" ++ c.crypto.group ++ "_" ++ c.profile.name ++ "_iter" ++ toString c.iteration ++ ".jsonl"

/-- The steps of the nested loops: the gateways are restarted for a crypto mode, then each
    profile is measured. -/
inductive Step where
  | restart (iteration : Nat) (crypto : CryptoConfig)
  | measure (c : Combination)
deriving DecidableEq, Repr

def cryptoSteps (iteration : Nat) (crypto : CryptoConfig) : List Step :=
  [.restart iteration crypto, .measure ⟨iteration, crypto, .stable⟩,
   .measure ⟨iteration, crypto, .adverse⟩]

/-- The loops of `run`. -/
def campaign (iterations : Nat) : List Step :=
  (List.range' 1 iterations).flatMap fun iteration =>
    [CryptoConfig.classical, .hybridPqc].flatMap (cryptoSteps iteration)

/-! ### Paths -/

/-- `text.replace(old, new)` on characters; `skip` of them belong to an occurrence that was
    replaced. -/
def replaceFrom (old new : List Char) : Nat → List Char → List Char
  | _, [] => []
  | skip + 1, _ :: rest => replaceFrom old new skip rest
  | 0, c :: rest =>
    if old.isPrefixOf (c :: rest) then new ++ replaceFrom old new (old.length - 1) rest
    else c :: replaceFrom old new 0 rest

def replaceText (old new text : String) : String :=
  String.ofList (replaceFrom old.toList new.toList 0 text.toList)

example : replaceText "ab" "-" "cabababd" = "c---d" := by decide

/-- The arguments of `BenchmarkRunner` that decide about files and metrics, and the working
    directory. -/
structure RunnerConfig where
  cwd : List (List Char)
  evidenceDir : String
  telemetryAPath : Option String
  telemetryBPath : Option String
  warmUpDiscard : Nat
  iterations : Nat

/-- The place of a file. -/
abbrev Location := List (List Char)

namespace RunnerConfig

variable (cfg : RunnerConfig)

/-- `path or os.path.join(evidence_dir, name)`. -/
def pathOr (path : Option String) (name : String) : String :=
  match path with
  | some path => if path = "" then Path.join cfg.evidenceDir name else path
  | none => Path.join cfg.evidenceDir name

def telemetryPath : Side → String
  | .a => cfg.pathOr cfg.telemetryAPath "telemetry_a.jsonl"
  | .b => cfg.pathOr cfg.telemetryBPath "telemetry_b.jsonl"

def location (side : Side) : Location := Path.resolve cfg.cwd (cfg.telemetryPath side)

/-- The name of the copy of a telemetry file. -/
def archiveName (side : Side) (c : Combination) : String :=
  replaceText ".jsonl" c.suffix (Path.basename (cfg.telemetryPath side))

def archivePath (side : Side) (c : Combination) : String :=
  Path.join (Path.join cfg.evidenceDir "raw") (cfg.archiveName side c)

def archiveLocation (side : Side) (c : Combination) : Location :=
  Path.resolve cfg.cwd (cfg.archivePath side c)

/-- The telemetry files and their copies, for all combinations, are different files. -/
structure Separate : Prop where
  sides : cfg.location .a ≠ cfg.location .b
  archives : ∀ side c side' c', cfg.archiveLocation side c = cfg.archiveLocation side' c' →
    side = side' ∧ c = c'
  apart : ∀ side side' c, cfg.location side ≠ cfg.archiveLocation side' c

end RunnerConfig

/-! ### Files -/

/-- The files and their contents. -/
abbrev Files := Location → Option Bytes

/-- A file to which a gateway appends; `none` is no record at all, which does not create the
    file. -/
def appended (content written : Option Bytes) : Option Bytes :=
  match written with
  | none => content
  | some bytes => some (content.getD [] ++ bytes)

/-- `if os.path.exists(path): os.remove(path)`. -/
def removeFile (files : Files) (location : Location) : Files :=
  if (files location).isSome then Function.update files location none else files

/-- `if os.path.exists(path): shutil.copy2(path, target)`. -/
def copyFile (files : Files) (location target : Location) : Files :=
  match files location with
  | none => files
  | some content => Function.update files target (some content)

namespace RunnerConfig

variable (cfg : RunnerConfig)

/-- Both gateways append to their files. -/
def gatewaysWrite (written : Side → Option Bytes) (files : Files) : Files :=
  let files := Function.update files (cfg.location .a)
    (appended (files (cfg.location .a)) (written .a))
  Function.update files (cfg.location .b) (appended (files (cfg.location .b)) (written .b))

/-- `_clear_telemetry`. -/
def clearTelemetry (files : Files) : Files :=
  removeFile (removeFile files (cfg.location .a)) (cfg.location .b)

/-- The copies to `raw/`. -/
def archive (c : Combination) (files : Files) : Files :=
  let files := copyFile files (cfg.location .a) (cfg.archiveLocation .a c)
  copyFile files (cfg.location .b) (cfg.archiveLocation .b c)

end RunnerConfig

/-! ### What happens outside the runner -/

/-- What a gateway appends to its file in the course of a combination. -/
structure Writes where
  /-- Until the file is removed. -/
  beforeClear : Option Bytes
  /-- From there to the end of the wait. -/
  waiting : Option Bytes
  /-- Until the file is read for the metrics. -/
  collecting : Option Bytes
  /-- Until the file is read for the latency series. -/
  plotting : Option Bytes
  /-- Until the file is copied. -/
  archiving : Option Bytes

structure Activity (ρ : Type) where
  /-- `toggle_profile` and `probe_rtt`. -/
  probe : Except PyExc ρ
  inject : Except PyExc Unit
  writes : Side → Writes

structure World (ρ : Type) where
  restart : Nat → CryptoConfig → Except PyExc Unit
  activity : Combination → Activity ρ

/-- A row of the campaign's result. -/
structure ResultRow (μ ρ : Type) where
  metrics : μ
  crypto : String
  profile : String
  avgRttMs : ρ
  iteration : Nat

/-- An entry of `raw_latencies`. -/
structure LatencySeries (σ : Type) where
  crypto : String
  profile : String
  iteration : Nat
  latency : σ

/-- Text decoding, `json.loads`, `pd.merge`, the statistics of `compute`, the latency column
    and the report. -/
structure Platform (μ ρ σ : Type) where
  decode : Bytes → Except PyExc (List String)
  loads : String → Except PyExc PyVal
  merge : List PyDict → List PyDict → Except PyExc (List PyDict)
  statistics : List PyDict → Except PyExc μ
  latencies : List PyDict → Except PyExc σ
  generate : List (ResultRow μ ρ) → List (LatencySeries σ) → Except PyExc Unit

/-! ### The runner -/

section Runner

variable {μ ρ σ : Type} (p : Platform μ ρ σ) (cfg : RunnerConfig)

/-- `TelemetryCollector(...).collect()` on the contents of the two files. -/
def collectContents (contents : Side → Option Bytes) : Except PyExc (List PyDict) :=
  collect p.loads p.merge ((contents .a).map p.decode) ((contents .b).map p.decode)

/-- `MetricsCalculator.compute`. -/
def compute (df : List PyDict) : Except PyExc (Option μ) :=
  if df.isEmpty || df.length ≤ cfg.warmUpDiscard then .ok none
  else (p.statistics (df.drop cfg.warmUpDiscard)).map some

/-- `_collect_and_compute`, with the iteration the caller adds. -/
def collectAndCompute (c : Combination) (avgRtt : ρ) (contents : Side → Option Bytes) :
    Except PyExc (Option (ResultRow μ ρ)) := do
  let df ← collectContents p contents
  if df.isEmpty then .ok none
  else
    let metrics ← compute p cfg df
    .ok (metrics.map fun metrics =>
      ⟨metrics, c.crypto.group, c.profile.name, avgRtt, c.iteration⟩)

/-- `_get_latency_series`. -/
def getLatencySeries (contents : Side → Option Bytes) : Except PyExc (Option σ) := do
  let df ← collectContents p contents
  if df.isEmpty || df.length ≤ cfg.warmUpDiscard then .ok none
  else (p.latencies (df.drop cfg.warmUpDiscard)).map some

structure RunnerState (μ ρ σ : Type) where
  files : Files
  results : List (ResultRow μ ρ)
  rawLatencies : List (LatencySeries σ)

/-- The files at the end of the wait of a combination. -/
def atWaitEnd (activity : Activity ρ) (files : Files) : Files :=
  cfg.gatewaysWrite (fun side => (activity.writes side).waiting)
    (cfg.clearTelemetry (cfg.gatewaysWrite (fun side => (activity.writes side).beforeClear) files))

/-- The body of the inner loop. -/
def runCombination (c : Combination) (activity : Activity ρ) (state : RunnerState μ ρ σ) :
    Except PyExc (RunnerState μ ρ σ) := do
  let avgRtt ← activity.probe
  activity.inject
  let collected := cfg.gatewaysWrite (fun side => (activity.writes side).collecting)
    (atWaitEnd cfg activity state.files)
  let result ← collectAndCompute p cfg c avgRtt fun side => collected (cfg.location side)
  match result with
  | none => .ok { state with files := collected }
  | some result =>
    let plotted := cfg.gatewaysWrite (fun side => (activity.writes side).plotting) collected
    let series ← getLatencySeries p cfg fun side => plotted (cfg.location side)
    let files := cfg.gatewaysWrite (fun side => (activity.writes side).archiving) plotted
    .ok { files := cfg.archive c files
          results := state.results ++ [result]
          rawLatencies := state.rawLatencies ++ (series.map fun series =>
            ⟨c.crypto.group, c.profile.name, c.iteration, series⟩).toList }

variable (world : World ρ)

def runStep (state : RunnerState μ ρ σ) : Step → Except PyExc (RunnerState μ ρ σ)
  | .restart iteration crypto => (world.restart iteration crypto).map fun _ => state
  | .measure c => runCombination p cfg c (world.activity c) state

/-- Some of the steps, from the files at the start. -/
def runSteps (steps : List Step) (files : Files) : Except PyExc (RunnerState μ ρ σ) :=
  steps.foldlM (runStep p cfg world) ⟨files, [], []⟩

/-- `run`: the rows and the files it leaves. -/
def run (files : Files) : Except PyExc (List (ResultRow μ ρ) × Files) := do
  let state ← runSteps p cfg world (campaign cfg.iterations) files
  p.generate state.results state.rawLatencies
  .ok (state.results, state.files)

end Runner

end QsTie.Benchmark
