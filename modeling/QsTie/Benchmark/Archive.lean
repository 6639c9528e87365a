import QsTie.Benchmark.Runner

/-!
# What a campaign archives

One combination touches the telemetry files and, when it has metrics, its own
copies in `raw/`, to which the gateways' records of that combination go.  As the
copies of different combinations are different files, a copy that was made stays
to the end of the campaign, and one that was not made is never made later.  A
campaign returns when nothing that it calls raises (`exists_run`).
-/

namespace QsTie.Benchmark

open QsTie.Lib

/-! ### The names of the copies -/

theorem toDigits_inj {n m : Nat} (h : Nat.toDigits 10 n = Nat.toDigits 10 m) : n = m := by
  have hvalue := congrArg (fun digits => Nat.ofDigitChars 10 digits 0) h
  simpa using hvalue

namespace Combination

theorem suffix_inj {c c' : Combination} (h : c.suffix = c'.suffix) : c = c' := by
  obtain ⟨n, crypto, profile⟩ := c
  obtain ⟨m, crypto', profile'⟩ := c'
  have hchars := congrArg String.toList h
  cases crypto <;> cases profile <;> cases crypto' <;> cases profile' <;>
    simp [suffix, CryptoConfig.group, Profile.name] at hchars
  all_goals rw [toDigits_inj hchars]

theorem slash_not_mem_suffix (c : Combination) : '/' ∉ c.suffix.toList := by
  obtain ⟨n, crypto, profile⟩ := c
  intro hmem
  have hdigits : '/' ∈ Nat.toDigits 10 n := by
    cases crypto <;> cases profile <;>
      simpa [suffix, CryptoConfig.group, Profile.name] using hmem
  have hdigit := Nat.isDigit_of_mem_toDigits (by decide) (by decide) hdigits
  exact absurd hdigit (by decide)

end Combination

/-- The default names of the telemetry files. -/
def Side.fileName : Side → String
  | .a => "telemetry_a.jsonl"
  | .b => "telemetry_b.jsonl"

def Side.stem : Side → String
  | .a => "telemetry_a"
  | .b => "telemetry_b"

theorem length_stem (side : Side) : side.stem.toList.length = 11 := by
  cases side <;> decide

theorem stem_inj {side side' : Side} (h : side.stem.toList = side'.stem.toList) :
    side = side' := by
  cases side <;> cases side' <;> first | rfl | exact absurd h (by decide)

theorem replaceText_fileName (side : Side) (c : Combination) :
    replaceText ".jsonl" c.suffix side.fileName = side.stem ++ c.suffix := by
  apply String.toList_injective
  cases side with
  | a => simp [replaceText, replaceFrom, Side.fileName, Side.stem]
  | b => simp [replaceText, replaceFrom, Side.fileName, Side.stem]

section Names

variable {cfg : RunnerConfig}
  (h : ∀ side, Path.basename (cfg.telemetryPath side) = side.fileName)

include h

theorem getLast?_location (side : Side) :
    (cfg.location side).getLast? = some side.fileName.toList := by
  rw [← h side]
  apply Path.getLast?_resolve
  · rw [Path.Proper, h side]
    cases side <;> decide
  · rw [h side]
    cases side <;> decide

theorem getLast?_archiveLocation (side : Side) (c : Combination) :
    (cfg.archiveLocation side c).getLast? = some (side.stem.toList ++ c.suffix.toList) := by
  have hslash : '/' ∉ (side.stem ++ c.suffix).toList := by
    rw [String.toList_append, List.mem_append, not_or]
    refine ⟨?_, c.slash_not_mem_suffix⟩
    cases side <;> decide
  have hname : Path.basename (cfg.archivePath side c) = side.stem ++ c.suffix := by
    rw [RunnerConfig.archivePath, RunnerConfig.archiveName, h side, replaceText_fileName,
      Path.basename_join _ hslash]
  rw [← String.toList_append, ← hname]
  have hletter : ∀ name : String, name.toList.head? = some '.' ∨ name = "" →
      side.stem ++ c.suffix ≠ name := by
    rintro name hname rfl
    cases side <;> simp [Side.stem] at hname
  apply Path.getLast?_resolve
  · rw [Path.Proper, hname]
    exact ⟨hletter "" (Or.inr rfl), hletter "." (Or.inl (by decide))⟩
  · rw [hname]
    exact hletter ".." (Or.inl (by decide))

/-- Files with the default names, in any directories, are separate from each other and from
    all copies. -/
theorem separate_of_fileName : cfg.Separate := by
  refine ⟨?_, ?_, ?_⟩
  · intro heq
    have hnames := congrArg List.getLast? heq
    rw [getLast?_location h, getLast?_location h] at hnames
    exact absurd hnames (by decide)
  · intro side c side' c' heq
    have hnames := congrArg List.getLast? heq
    rw [getLast?_archiveLocation h, getLast?_archiveLocation h] at hnames
    obtain ⟨hstem, hsuffix⟩ :=
      List.append_inj (Option.some.inj hnames) (by rw [length_stem, length_stem])
    exact ⟨stem_inj hstem, Combination.suffix_inj (String.toList_injective hsuffix)⟩
  · intro side side' c heq
    have hnames := congrArg List.getLast? heq
    rw [getLast?_location h, getLast?_archiveLocation h] at hnames
    have hchars := Option.some.inj hnames
    cases side <;> cases side' <;>
      simp [Side.fileName, Side.stem, Combination.suffix] at hchars

end Names

/-- The files of a runner that is given no paths. -/
theorem separate_default {cfg : RunnerConfig} (ha : cfg.telemetryAPath = none)
    (hb : cfg.telemetryBPath = none) : cfg.Separate := by
  apply separate_of_fileName
  intro side
  cases side with
  | a =>
    simp only [RunnerConfig.telemetryPath, RunnerConfig.pathOr, ha]
    exact Path.basename_join _ (by decide)
  | b =>
    simp only [RunnerConfig.telemetryPath, RunnerConfig.pathOr, hb]
    exact Path.basename_join _ (by decide)

/-! ### Files -/

section Files

variable {cfg : RunnerConfig}

theorem removeFile_eq (files : Files) (location : Location) :
    removeFile files location = Function.update files location none := by
  unfold removeFile
  split
  · rfl
  · rename_i hmissing
    rw [Function.eq_update_self_iff]
    simpa using hmissing

@[simp] theorem appended_none (written : Option Bytes) : appended none written = written := by
  cases written <;> rfl

/-- What was in the file stays at its beginning. -/
theorem exists_appended {content written : Option Bytes} {bytes : Bytes}
    (h : ∃ before, content = some before ∧ bytes <+: before) :
    ∃ after, appended content written = some after ∧ bytes <+: after := by
  obtain ⟨before, rfl, hbytes⟩ := h
  cases written with
  | none => exact ⟨before, rfl, hbytes⟩
  | some more => exact ⟨before ++ more, rfl, hbytes.trans (List.prefix_append before more)⟩

theorem gatewaysWrite_location (hcfg : cfg.Separate) (written : Side → Option Bytes)
    (files : Files) (side : Side) : cfg.gatewaysWrite written files (cfg.location side) =
      appended (files (cfg.location side)) (written side) := by
  unfold RunnerConfig.gatewaysWrite
  cases side with
  | a => rw [Function.update_of_ne hcfg.sides, Function.update_self]
  | b => rw [Function.update_self, Function.update_of_ne hcfg.sides.symm]

theorem gatewaysWrite_of_ne (written : Side → Option Bytes) (files : Files)
    {location : Location} (h : ∀ side, location ≠ cfg.location side) :
    cfg.gatewaysWrite written files location = files location := by
  unfold RunnerConfig.gatewaysWrite
  rw [Function.update_of_ne (h .b), Function.update_of_ne (h .a)]

theorem clearTelemetry_location (files : Files) (side : Side) :
    cfg.clearTelemetry files (cfg.location side) = none := by
  rw [RunnerConfig.clearTelemetry, removeFile_eq, removeFile_eq]
  cases side with
  | a =>
    rw [Function.update_apply]
    split
    · rfl
    · exact Function.update_self ..
  | b => exact Function.update_self ..

theorem clearTelemetry_of_ne (files : Files) {location : Location}
    (h : ∀ side, location ≠ cfg.location side) :
    cfg.clearTelemetry files location = files location := by
  rw [RunnerConfig.clearTelemetry, removeFile_eq, removeFile_eq, Function.update_of_ne (h .b),
    Function.update_of_ne (h .a)]

theorem copyFile_of_ne (files : Files) (source : Location) {target location : Location}
    (h : location ≠ target) : copyFile files source target location = files location := by
  unfold copyFile
  cases files source with
  | none => rfl
  | some content => exact Function.update_of_ne h ..

theorem copyFile_target (files : Files) (source target : Location) :
    copyFile files source target target = (files source).or (files target) := by
  unfold copyFile
  cases files source with
  | none => rw [Option.none_or]
  | some content => exact Function.update_self ..

theorem archive_of_ne (c : Combination) (files : Files) {location : Location}
    (h : ∀ side, location ≠ cfg.archiveLocation side c) :
    cfg.archive c files location = files location := by
  rw [RunnerConfig.archive, copyFile_of_ne _ _ (h .b), copyFile_of_ne _ _ (h .a)]

theorem archive_archiveLocation (hcfg : cfg.Separate) (c : Combination) (files : Files)
    (side : Side) : cfg.archive c files (cfg.archiveLocation side c) =
      (files (cfg.location side)).or (files (cfg.archiveLocation side c)) := by
  have hne : cfg.archiveLocation .a c ≠ cfg.archiveLocation .b c := by
    intro heq
    exact absurd (hcfg.archives _ _ _ _ heq).1 (by decide)
  unfold RunnerConfig.archive
  cases side with
  | a => rw [copyFile_of_ne _ _ hne, copyFile_target]
  | b => rw [copyFile_target, copyFile_of_ne _ _ (hcfg.apart .b .a c), copyFile_of_ne _ _ hne.symm]

end Files

/-! ### One combination -/

section Combination

variable {μ ρ σ : Type}

/-- What a gateway has logged in the combination when its file is read. -/
def Activity.collected (activity : Activity ρ) (side : Side) : Option Bytes :=
  appended (activity.writes side).waiting (activity.writes side).collecting

/-- What it has logged when the file is read again. -/
def Activity.plotted (activity : Activity ρ) (side : Side) : Option Bytes :=
  appended (activity.collected side) (activity.writes side).plotting

/-- What it has logged when the file is copied. -/
def Activity.copied (activity : Activity ρ) (side : Side) : Option Bytes :=
  appended (activity.plotted side) (activity.writes side).archiving

variable (p : Platform μ ρ σ) (cfg : RunnerConfig)

/-- The row of a combination, from what the gateways log in it. -/
def ownResult (c : Combination) (activity : Activity ρ) :
    Except PyExc (Option (ResultRow μ ρ)) := do
  let avgRtt ← activity.probe
  collectAndCompute p cfg c avgRtt activity.collected

/-- There are more merged rows than the warm-up discards. -/
def Measured (activity : Activity ρ) : Prop :=
  ∃ df, collectContents p activity.collected = .ok df ∧ cfg.warmUpDiscard < df.length

variable {p cfg}

/-- The copy has all that was there at the end of the wait. -/
theorem exists_copied {activity : Activity ρ} {side : Side} {content : Bytes}
    (h : (activity.writes side).waiting = some content) :
    ∃ archived, activity.copied side = some archived ∧ content <+: archived :=
  exists_appended (exists_appended (exists_appended ⟨content, h, List.prefix_refl content⟩))

theorem isSome_collectAndCompute {c : Combination} {avgRtt : ρ} {contents : Side → Option Bytes}
    {result : Option (ResultRow μ ρ)}
    (h : collectAndCompute p cfg c avgRtt contents = .ok result) :
    result.isSome = true ↔
      ∃ df, collectContents p contents = .ok df ∧ cfg.warmUpDiscard < df.length := by
  obtain ⟨df, hdf, h⟩ := except_bind_eq_ok.mp h
  simp only [hdf, Except.ok.injEq, exists_eq_left']
  split at h
  · rename_i hempty
    obtain rfl := Except.ok.inj h
    rw [List.isEmpty_iff.mp hempty]
    simp
  · rename_i hempty
    have hne : df ≠ [] := by simpa using hempty
    obtain ⟨metrics, hmetrics, h⟩ := except_bind_eq_ok.mp h
    obtain rfl := Except.ok.inj h
    rw [Option.isSome_map]
    unfold compute at hmetrics
    split at hmetrics
    · rename_i hfew
      obtain rfl := Except.ok.inj hmetrics
      simpa [hne] using hfew
    · rename_i hmany
      cases hstatistics : p.statistics (df.drop cfg.warmUpDiscard) with
      | error e => simp [hstatistics, Except.map] at hmetrics
      | ok statistics =>
        obtain rfl : some statistics = metrics := by
          simpa [hstatistics, Except.map] using hmetrics
        simpa [hne] using hmany

theorem isSome_ownResult {c : Combination} {activity : Activity ρ}
    {result : Option (ResultRow μ ρ)} (h : ownResult p cfg c activity = .ok result) :
    result.isSome = true ↔ Measured p cfg activity := by
  obtain ⟨avgRtt, -, h⟩ := except_bind_eq_ok.mp h
  exact isSome_collectAndCompute h

/-- The files that are neither telemetry nor a copy of this combination are as before; the
    copies are written exactly when there is a row. -/
structure CombinationEffect (p : Platform μ ρ σ) (cfg : RunnerConfig) (c : Combination)
    (activity : Activity ρ) (state state' : RunnerState μ ρ σ)
    (result : Option (ResultRow μ ρ)) : Prop where
  own : ownResult p cfg c activity = .ok result
  results : state'.results = state.results ++ result.toList
  frame : ∀ location, (∀ side, location ≠ cfg.location side) →
    (∀ side, location ≠ cfg.archiveLocation side c) → state'.files location = state.files location
  unarchived : result = none → ∀ side,
    state'.files (cfg.archiveLocation side c) = state.files (cfg.archiveLocation side c)
  archived : result.isSome = true → ∀ side, state'.files (cfg.archiveLocation side c) =
    (activity.copied side).or (state.files (cfg.archiveLocation side c))

theorem atWaitEnd_location (hcfg : cfg.Separate) (activity : Activity ρ) (files : Files)
    (side : Side) :
    atWaitEnd cfg activity files (cfg.location side) = (activity.writes side).waiting := by
  rw [atWaitEnd, gatewaysWrite_location hcfg, clearTelemetry_location, appended_none]

theorem atWaitEnd_of_ne (activity : Activity ρ) (files : Files) {location : Location}
    (h : ∀ side, location ≠ cfg.location side) :
    atWaitEnd cfg activity files location = files location := by
  rw [atWaitEnd, gatewaysWrite_of_ne _ _ h, clearTelemetry_of_ne _ h, gatewaysWrite_of_ne _ _ h]

theorem runCombination_effect (hcfg : cfg.Separate) {c : Combination} {activity : Activity ρ}
    {state state' : RunnerState μ ρ σ}
    (h : runCombination p cfg c activity state = .ok state') :
    ∃ result, CombinationEffect p cfg c activity state state' result := by
  have harchive (side : Side) : ∀ side', cfg.archiveLocation side c ≠ cfg.location side' :=
    fun side' => (hcfg.apart side' side c).symm
  obtain ⟨avgRtt, hprobe, h⟩ := except_bind_eq_ok.mp h
  obtain ⟨-, -, h⟩ := except_bind_eq_ok.mp h
  obtain ⟨result, hresult, h⟩ := except_bind_eq_ok.mp h
  -- what is read was all logged in this combination
  simp only [gatewaysWrite_location hcfg, atWaitEnd_location hcfg] at hresult
  have hown : ownResult p cfg c activity = .ok result :=
    except_bind_eq_ok.mpr ⟨avgRtt, hprobe, hresult⟩
  refine ⟨result, ?_⟩
  cases result with
  | none =>
    obtain rfl := Except.ok.inj h
    refine ⟨hown, ?_, ?_, ?_, ?_⟩
    · simp
    · intro location hlocation _
      simp only [gatewaysWrite_of_ne _ _ hlocation, atWaitEnd_of_ne _ _ hlocation]
    · intro _ side
      simp only [gatewaysWrite_of_ne _ _ (harchive side), atWaitEnd_of_ne _ _ (harchive side)]
    · simp
  | some row =>
    obtain ⟨series, -, h⟩ := except_bind_eq_ok.mp h
    obtain rfl := Except.ok.inj h
    refine ⟨hown, ?_, ?_, ?_, ?_⟩
    · simp
    · intro location hlocation hother
      simp only [archive_of_ne _ _ hother, gatewaysWrite_of_ne _ _ hlocation,
        atWaitEnd_of_ne _ _ hlocation]
    · simp
    · intro _ side
      simp only [archive_archiveLocation hcfg, gatewaysWrite_location hcfg,
        atWaitEnd_location hcfg, gatewaysWrite_of_ne _ _ (harchive side),
        atWaitEnd_of_ne _ _ (harchive side)]
      rfl

end Combination

/-! ### The campaign -/

theorem mem_campaign {iterations : Nat} {c : Combination} :
    Step.measure c ∈ campaign iterations ↔ 1 ≤ c.iteration ∧ c.iteration ≤ iterations := by
  have hcrypto (iteration : Nat) : Step.measure c ∈
      [CryptoConfig.classical, .hybridPqc].flatMap (cryptoSteps iteration) ↔
        c.iteration = iteration := by
    obtain ⟨n, crypto, profile⟩ := c
    cases crypto <;> cases profile <;> simp [cryptoSteps]
  simp only [campaign, List.mem_flatMap, hcrypto, List.mem_range'_1, exists_eq_right']
  omega

/-- No combination comes twice. -/
theorem nodup_campaign (iterations : Nat) : (campaign iterations).Nodup := by
  have hiteration (step : Step) (n : Nat)
      (h : step ∈ [CryptoConfig.classical, .hybridPqc].flatMap (cryptoSteps n)) :
      (∃ crypto, step = .restart n crypto) ∨
        ∃ crypto profile, step = .measure ⟨n, crypto, profile⟩ := by
    simp only [cryptoSteps, List.flatMap_cons, List.flatMap_nil, List.mem_append, List.mem_cons,
      List.not_mem_nil, or_false] at h
    rcases h with (rfl | rfl | rfl) | rfl | rfl | rfl <;> simp
  rw [campaign, List.nodup_flatMap]
  constructor
  · intro n _
    simp [cryptoSteps]
  · have hdistinct : (List.range' 1 iterations).Nodup := List.nodup_range'
    refine hdistinct.imp ?_
    intro n m hne step hn hm
    rcases hiteration step n hn with ⟨crypto, rfl⟩ | ⟨crypto, profile, rfl⟩
    · rcases hiteration _ m hm with ⟨crypto', heq⟩ | ⟨crypto', profile', heq⟩
      · exact hne (Step.restart.inj heq).1
      · simp at heq
    · rcases hiteration _ m hm with ⟨crypto', heq⟩ | ⟨crypto', profile', heq⟩
      · simp at heq
      · exact hne (congrArg Combination.iteration (Step.measure.inj heq))

/-- Neither before nor after its step is a combination measured again. -/
theorem not_mem_of_split {iterations : Nat} {before after : List Step} {c : Combination}
    (hsplit : campaign iterations = before ++ .measure c :: after) :
    .measure c ∉ before ∧ .measure c ∉ after := by
  have hnodup := nodup_campaign iterations
  rw [hsplit] at hnodup
  obtain ⟨-, hcons, hdisjoint⟩ := List.nodup_append.mp hnodup
  constructor
  · intro hmem
    exact hdisjoint _ hmem _ List.mem_cons_self rfl
  · exact (List.nodup_cons.mp hcons).1

section Campaign

variable {μ ρ σ : Type}

/-- The row of a step, from what the gateways log in its combination. -/
def ownRow (p : Platform μ ρ σ) (cfg : RunnerConfig) (world : World ρ) :
    Step → Option (ResultRow μ ρ)
  | .restart _ _ => none
  | .measure c =>
    match ownResult p cfg c (world.activity c) with
    | .ok result => result
    | .error _ => none

/-- The file has the content, and perhaps more behind it. -/
def Holds (files : Files) (location : Location) (content : Bytes) : Prop :=
  ∃ archived, files location = some archived ∧ content <+: archived

variable {p : Platform μ ρ σ} {cfg : RunnerConfig} {world : World ρ}

/-- Restarting the gateways changes neither files nor rows. -/
theorem runStep_restart {iteration : Nat} {crypto : CryptoConfig}
    {state state' : RunnerState μ ρ σ}
    (h : runStep p cfg world state (.restart iteration crypto) = .ok state') : state' = state := by
  unfold runStep at h
  cases hrestart : world.restart iteration crypto with
  | error e => simp [hrestart, Except.map] at h
  | ok u => simpa [hrestart, Except.map] using h.symm

/-- A step leaves the copies of the other combinations alone. -/
theorem runStep_frame (hcfg : cfg.Separate) {step : Step} {state state' : RunnerState μ ρ σ}
    (h : runStep p cfg world state step = .ok state') {c : Combination}
    (hne : step ≠ .measure c) (side : Side) :
    state'.files (cfg.archiveLocation side c) = state.files (cfg.archiveLocation side c) := by
  cases step with
  | restart iteration crypto =>
    rw [runStep_restart h]
  | measure c' =>
    obtain ⟨result, heffect⟩ := runCombination_effect hcfg h
    apply heffect.frame
    · intro side' heq
      exact hcfg.apart side' side c heq.symm
    · intro side' heq
      exact hne (congrArg Step.measure (hcfg.archives _ _ _ _ heq).2.symm)

theorem runStep_results (hcfg : cfg.Separate) {step : Step} {state state' : RunnerState μ ρ σ}
    (h : runStep p cfg world state step = .ok state') :
    state'.results = state.results ++ (ownRow p cfg world step).toList := by
  cases step with
  | restart iteration crypto =>
    rw [runStep_restart h]
    exact (List.append_nil _).symm
  | measure c =>
    obtain ⟨result, heffect⟩ := runCombination_effect hcfg h
    rw [heffect.results, ownRow, heffect.own]

/-- Steps that do not measure the combination leave its copies alone. -/
theorem foldlM_frame (hcfg : cfg.Separate) {c : Combination} (side : Side) {steps : List Step}
    (hsteps : .measure c ∉ steps) {state final : RunnerState μ ρ σ}
    (h : steps.foldlM (runStep p cfg world) state = .ok final) :
    final.files (cfg.archiveLocation side c) = state.files (cfg.archiveLocation side c) := by
  induction steps generalizing state with
  | nil =>
    obtain rfl := Except.ok.inj h
    rfl
  | cons step steps ih =>
    rw [List.foldlM_cons] at h
    obtain ⟨state', hstep, h⟩ := except_bind_eq_ok.mp h
    obtain ⟨hne, hrest⟩ := not_or.mp (fun hmem => hsteps (List.mem_cons.mpr hmem))
    rw [ih hrest h, runStep_frame hcfg hstep (Ne.symm hne)]

/-- The rows are those of the combinations, in their order. -/
theorem foldlM_results (hcfg : cfg.Separate) {steps : List Step}
    {state final : RunnerState μ ρ σ}
    (h : steps.foldlM (runStep p cfg world) state = .ok final) :
    final.results = state.results ++ steps.filterMap (ownRow p cfg world) := by
  induction steps generalizing state with
  | nil =>
    obtain rfl := Except.ok.inj h
    simp
  | cons step steps ih =>
    rw [List.foldlM_cons] at h
    obtain ⟨state', hstep, h⟩ := except_bind_eq_ok.mp h
    rw [ih h, runStep_results hcfg hstep, List.append_assoc]
    congr 1
    cases hrow : ownRow p cfg world step with
    | none => rw [List.filterMap_cons_none hrow, Option.toList_none, List.nil_append]
    | some row => rw [List.filterMap_cons_some hrow, Option.toList_some, List.singleton_append]

/-- Nothing the runner does in the combination raises. -/
structure Undisturbed (p : Platform μ ρ σ) (activity : Activity ρ) : Prop where
  probe : ∃ avgRtt, activity.probe = .ok avgRtt
  inject : activity.inject = .ok ()
  collects : ∃ df, collectContents p activity.collected = .ok df
  plots : ∃ df, collectContents p activity.plotted = .ok df

/-- Statistics, latencies and the report raise on no frame. -/
structure Platform.Total (p : Platform μ ρ σ) : Prop where
  statistics : ∀ df, ∃ metrics, p.statistics df = .ok metrics
  latencies : ∀ df, ∃ latency, p.latencies df = .ok latency
  generate : ∀ results rawLatencies, p.generate results rawLatencies = .ok ()

variable (cfg) in
theorem exists_compute (hp : p.Total) (df : List PyDict) :
    ∃ metrics, compute p cfg df = .ok metrics := by
  unfold compute
  split
  · exact ⟨none, rfl⟩
  · obtain ⟨metrics, hmetrics⟩ := hp.statistics (df.drop cfg.warmUpDiscard)
    exact ⟨some metrics, by rw [hmetrics]; rfl⟩

variable (cfg) in
theorem exists_collectAndCompute (hp : p.Total) (c : Combination) (avgRtt : ρ)
    {contents : Side → Option Bytes} {df : List PyDict}
    (hdf : collectContents p contents = .ok df) :
    ∃ result, collectAndCompute p cfg c avgRtt contents = .ok result := by
  unfold collectAndCompute
  rw [hdf]
  show ∃ result, (if df.isEmpty then Except.ok none else _) = Except.ok result
  split
  · exact ⟨none, rfl⟩
  · obtain ⟨metrics, hmetrics⟩ := exists_compute cfg hp df
    rw [hmetrics]
    exact ⟨_, rfl⟩

variable (cfg) in
theorem exists_getLatencySeries (hp : p.Total) {contents : Side → Option Bytes}
    {df : List PyDict} (hdf : collectContents p contents = .ok df) :
    ∃ series, getLatencySeries p cfg contents = .ok series := by
  unfold getLatencySeries
  rw [hdf]
  show ∃ series, (if df.isEmpty || df.length ≤ cfg.warmUpDiscard then Except.ok none
    else (p.latencies (df.drop cfg.warmUpDiscard)).map some) = Except.ok series
  split
  · exact ⟨none, rfl⟩
  · obtain ⟨latency, hlatency⟩ := hp.latencies (df.drop cfg.warmUpDiscard)
    exact ⟨some latency, by rw [hlatency]; rfl⟩

theorem exists_runCombination (hcfg : cfg.Separate) (hp : p.Total) {c : Combination}
    {activity : Activity ρ} (h : Undisturbed p activity) (state : RunnerState μ ρ σ) :
    ∃ state', runCombination p cfg c activity state = .ok state' := by
  obtain ⟨avgRtt, hprobe⟩ := h.probe
  obtain ⟨df, hdf⟩ := h.collects
  obtain ⟨df', hdf'⟩ := h.plots
  obtain ⟨result, hresult⟩ := exists_collectAndCompute cfg hp c avgRtt hdf
  obtain ⟨series, hseries⟩ := exists_getLatencySeries cfg hp hdf'
  simp only [runCombination, hprobe, h.inject, gatewaysWrite_location hcfg,
    atWaitEnd_location hcfg, bind, Except.bind]
  unfold Activity.collected at hresult
  rw [hresult]
  cases result with
  | none => exact ⟨_, rfl⟩
  | some row =>
    unfold Activity.plotted Activity.collected at hseries
    simp only [hseries]
    exact ⟨_, rfl⟩

/-- **The campaign returns** when nothing that the runner calls raises. -/
theorem exists_run (hcfg : cfg.Separate) (hp : p.Total)
    (hrestart : ∀ iteration crypto, world.restart iteration crypto = .ok ())
    (hworld : ∀ c, Undisturbed p (world.activity c)) (start : Files) :
    ∃ results final, run p cfg world start = .ok (results, final) := by
  have hsteps (steps : List Step) : ∀ state : RunnerState μ ρ σ,
      ∃ final, steps.foldlM (runStep p cfg world) state = .ok final := by
    induction steps with
    | nil => exact fun state => ⟨state, rfl⟩
    | cons step steps ih =>
      intro state
      obtain ⟨state', hstep⟩ : ∃ state', runStep p cfg world state step = .ok state' := by
        cases step with
        | restart iteration crypto =>
          exact ⟨state, by rw [runStep, hrestart]; rfl⟩
        | measure c => exact exists_runCombination hcfg hp (hworld c) state
      obtain ⟨final, hfinal⟩ := ih state'
      exact ⟨final, by rw [List.foldlM_cons, hstep]; exact hfinal⟩
  obtain ⟨state, hstate⟩ := hsteps (campaign cfg.iterations) ⟨start, [], []⟩
  refine ⟨state.results, state.files, ?_⟩
  unfold run runSteps
  rw [hstate]
  simp only [bind, Except.bind, hp.generate]

theorem run_eq_ok {start final : Files} {results : List (ResultRow μ ρ)}
    (h : run p cfg world start = .ok (results, final)) :
    ∃ state, runSteps p cfg world (campaign cfg.iterations) start = .ok state ∧
      state.results = results ∧ state.files = final := by
  obtain ⟨state, hstate, h⟩ := except_bind_eq_ok.mp h
  obtain ⟨-, -, h⟩ := except_bind_eq_ok.mp h
  obtain ⟨rfl, rfl⟩ := Prod.mk.inj (Except.ok.inj h)
  exact ⟨state, hstate, rfl, rfl⟩

/-- A run through the campaign, cut at a combination. -/
theorem exists_states {before after : List Step} {c : Combination} {start : Files}
    {final : RunnerState μ ρ σ}
    (h : runSteps p cfg world (before ++ .measure c :: after) start = .ok final) :
    ∃ state state', runSteps p cfg world before start = .ok state ∧
      runSteps p cfg world (before ++ [.measure c]) start = .ok state' ∧
      runStep p cfg world state (.measure c) = .ok state' ∧
      after.foldlM (runStep p cfg world) state' = .ok final := by
  unfold runSteps at h ⊢
  rw [List.foldlM_append] at h
  obtain ⟨state, hbefore, h⟩ := except_bind_eq_ok.mp h
  rw [List.foldlM_cons] at h
  obtain ⟨state', hstep, hafter⟩ := except_bind_eq_ok.mp h
  refine ⟨state, state', hbefore, ?_, hstep, hafter⟩
  rw [List.foldlM_append, hbefore]
  show [Step.measure c].foldlM (runStep p cfg world) state = .ok state'
  rw [List.foldlM_cons, hstep]
  rfl

/-- What a combination does to its copies is what the campaign does to them. -/
theorem campaign_effect (hcfg : cfg.Separate) {start : Files} {final : RunnerState μ ρ σ}
    (h : runSteps p cfg world (campaign cfg.iterations) start = .ok final) {c : Combination}
    (hc : .measure c ∈ campaign cfg.iterations) (side : Side) :
    (Measured p cfg (world.activity c) → final.files (cfg.archiveLocation side c) =
      ((world.activity c).copied side).or (start (cfg.archiveLocation side c))) ∧
    (¬ Measured p cfg (world.activity c) →
      final.files (cfg.archiveLocation side c) = start (cfg.archiveLocation side c)) := by
  obtain ⟨before, after, hsplit⟩ := List.append_of_mem hc
  obtain ⟨hnotBefore, hnotAfter⟩ := not_mem_of_split hsplit
  rw [hsplit] at h
  obtain ⟨state, state', hbefore, -, hstep, hafter⟩ := exists_states h
  obtain ⟨result, heffect⟩ := runCombination_effect hcfg hstep
  have hearlier := foldlM_frame hcfg side hnotBefore hbefore
  have hlater := foldlM_frame hcfg side hnotAfter hafter
  constructor
  · intro hmeasured
    rw [hlater, heffect.archived ((isSome_ownResult heffect.own).mpr hmeasured), hearlier]
  · intro hunmeasured
    have hnone : result = none := by
      rw [← Option.not_isSome_iff_eq_none]
      exact fun hsome => hunmeasured ((isSome_ownResult heffect.own).mp hsome)
    rw [hlater, heffect.unarchived hnone, hearlier]

end Campaign

/-- The telemetry that existed at the end of each wait is in `raw/` under the name of its
    combination, the copies that a combination leaves are there at the end, and each row is
    that of the telemetry of its own combination. -/
structure TelemetryArchived {μ ρ σ : Type} (p : Platform μ ρ σ) (cfg : RunnerConfig)
    (world : World ρ) (start : Files) (results : List (ResultRow μ ρ)) (final : Files) :
    Prop where
  present : ∀ before c after (state : RunnerState μ ρ σ),
    campaign cfg.iterations = before ++ .measure c :: after →
    runSteps p cfg world before start = .ok state → ∀ side content,
      atWaitEnd cfg (world.activity c) state.files (cfg.location side) = some content →
      Holds final (cfg.archiveLocation side c) content
  kept : ∀ before c after (state : RunnerState μ ρ σ),
    campaign cfg.iterations = before ++ .measure c :: after →
    runSteps p cfg world (before ++ [.measure c]) start = .ok state → ∀ side,
      final (cfg.archiveLocation side c) = state.files (cfg.archiveLocation side c)
  own : results = (campaign cfg.iterations).filterMap (ownRow p cfg world)

/-- **The telemetry is archived exactly when no combination that leaves telemetry lacks
    metrics** (or its copy was in `raw/` before the campaign). -/
theorem telemetryArchived_iff {μ ρ σ : Type} (p : Platform μ ρ σ) (cfg : RunnerConfig)
    (hcfg : cfg.Separate) (world : World ρ) (start : Files) (results : List (ResultRow μ ρ))
    (final : Files) (hrun : run p cfg world start = .ok (results, final)) :
    TelemetryArchived p cfg world start results final ↔
      ∀ c : Combination, 1 ≤ c.iteration → c.iteration ≤ cfg.iterations → ∀ side content,
        ((world.activity c).writes side).waiting = some content →
          Measured p cfg (world.activity c) ∨
            Holds start (cfg.archiveLocation side c) content := by
  obtain ⟨state, hstate, rfl, rfl⟩ := run_eq_ok hrun
  constructor
  · intro harchived c hfirst hlast side content hcontent
    have hc := mem_campaign.mpr ⟨hfirst, hlast⟩
    by_cases hmeasured : Measured p cfg (world.activity c)
    · exact Or.inl hmeasured
    · right
      -- the copy at the end is the one of the start
      obtain ⟨before, after, hsplit⟩ := List.append_of_mem hc
      rw [hsplit] at hstate
      obtain ⟨state', -, hbefore, -, -, -⟩ := exists_states hstate
      rw [← hsplit] at hstate
      obtain ⟨archived, hfile, hbegins⟩ := harchived.present before c after state' hsplit hbefore
        side content (by rw [atWaitEnd_location hcfg, hcontent])
      rw [(campaign_effect hcfg hstate hc side).2 hmeasured] at hfile
      exact ⟨archived, hfile, hbegins⟩
  · intro hmeasured
    refine ⟨?_, ?_, ?_⟩
    · intro before c after state' hsplit _ side content hcontent
      rw [atWaitEnd_location hcfg] at hcontent
      have hc : Step.measure c ∈ campaign cfg.iterations := by simp [hsplit]
      obtain ⟨hfirst, hlast⟩ := mem_campaign.mp hc
      by_cases hmetrics : Measured p cfg (world.activity c)
      · obtain ⟨archived, hcopied, hbegins⟩ := exists_copied hcontent
        refine ⟨archived, ?_, hbegins⟩
        rw [(campaign_effect hcfg hstate hc side).1 hmetrics, hcopied, Option.some_or]
      · obtain ⟨archived, hfile, hbegins⟩ :=
          (hmeasured c hfirst hlast side content hcontent).resolve_left hmetrics
        refine ⟨archived, ?_, hbegins⟩
        rw [(campaign_effect hcfg hstate hc side).2 hmetrics, hfile]
    · intro before c after state' hsplit hstate' side
      rw [hsplit] at hstate
      obtain ⟨-, state'', -, hstate'', -, hafter⟩ := exists_states hstate
      obtain rfl : state' = state'' := by
        rw [hstate'] at hstate''
        exact Except.ok.inj hstate''
      exact foldlM_frame hcfg side (not_mem_of_split hsplit).2 hafter
    · have hresults := foldlM_results hcfg hstate
      rwa [List.nil_append] at hresults

namespace Sample

def platform : Platform Nat Nat Nat where
  decode bytes :=
    .ok ((splitChars '\n' (bytes.map fun byte => Char.ofNat byte.toNat)).map String.ofList)
  loads := loads
  merge := innerMerge
  statistics df := .ok df.length
  latencies df := .ok df.length
  generate _ _ := .ok ()

def runner : RunnerConfig where
  cwd := []
  evidenceDir := "results"
  telemetryAPath := none
  telemetryBPath := none
  warmUpDiscard := 0
  iterations := 1

/-- The records of one combination, all logged during the wait. -/
def logged (contents : Side → Option Bytes) : Activity Nat where
  probe := .ok 0
  inject := .ok ()
  writes side := ⟨none, contents side, none, none, none⟩

/-- One record on each side, unless nothing arrives at Gateway B. -/
def records (arrives : Bool) : Side → Option Bytes
  | .a => some [65, 10]
  | .b => if arrives then some [66, 10] else none

/-- Each gateway logs one record in each combination. -/
def healthy : World Nat where
  restart _ _ := .ok ()
  activity _ := logged (records true)

/-- Under the adverse profile nothing arrives at Gateway B. -/
def oneSided : World Nat where
  restart _ _ := .ok ()
  activity c := logged (records (c.profile = .stable))

theorem separate_runner : runner.Separate := separate_default rfl rfl

theorem total_platform : platform.Total where
  statistics _ := ⟨_, rfl⟩
  latencies _ := ⟨_, rfl⟩
  generate _ _ := rfl

theorem collect_records (arrives : Bool) :
    ∃ df, collectContents platform (records arrives) = .ok df ∧ df.length = arrives.toNat := by
  have hcount : (collectContents platform (records arrives)).toOption.map List.length =
      some arrives.toNat := by
    cases arrives <;> decide +kernel
  cases hcollect : collectContents platform (records arrives) with
  | error e =>
    rw [hcollect] at hcount
    simp [Except.toOption] at hcount
  | ok df =>
    rw [hcollect] at hcount
    exact ⟨df, rfl, Option.some.inj hcount⟩

theorem undisturbed_logged (arrives : Bool) : Undisturbed platform (logged (records arrives)) := by
  obtain ⟨df, hdf, -⟩ := collect_records arrives
  exact ⟨⟨0, rfl⟩, rfl, ⟨df, hdf⟩, ⟨df, hdf⟩⟩

theorem measured_logged_iff (arrives : Bool) :
    Measured platform runner (logged (records arrives)) ↔ arrives = true := by
  obtain ⟨df, hdf, hlength⟩ := collect_records arrives
  constructor
  · rintro ⟨df', hdf', hmany⟩
    obtain rfl : df = df' := Except.ok.inj (hdf.symm.trans hdf')
    rw [hlength] at hmany
    cases arrives with
    | true => rfl
    | false => exact absurd hmany (by decide)
  · rintro rfl
    exact ⟨df, hdf, by rw [hlength]; decide⟩

end Sample

/-- The records of Gateway A under the adverse profile are in no file at the end. -/
theorem oneSided_unarchived :
    ∃ results final, run Sample.platform Sample.runner Sample.oneSided (fun _ => none) =
        .ok (results, final) ∧
      ¬ TelemetryArchived Sample.platform Sample.runner Sample.oneSided (fun _ => none) results
        final ∧
      final (Sample.runner.archiveLocation .a ⟨1, .classical, .adverse⟩) = none := by
  have hcfg := Sample.separate_runner
  have hworld (c : Combination) : Undisturbed Sample.platform (Sample.oneSided.activity c) :=
    Sample.undisturbed_logged (c.profile = .stable)
  obtain ⟨results, final, hrun⟩ :=
    exists_run hcfg Sample.total_platform (fun _ _ => rfl) hworld fun _ => none
  obtain ⟨state, hstate, -, hfinal⟩ := run_eq_ok hrun
  have hc : Step.measure ⟨1, .classical, .adverse⟩ ∈ campaign Sample.runner.iterations := by
    decide
  have hunmeasured : ¬ Measured Sample.platform Sample.runner
      (Sample.oneSided.activity ⟨1, .classical, .adverse⟩) := by
    intro hmeasured
    exact absurd ((Sample.measured_logged_iff false).mp hmeasured) (by decide)
  have hnone : final (Sample.runner.archiveLocation .a ⟨1, .classical, .adverse⟩) = none := by
    rw [← hfinal]
    exact (campaign_effect hcfg hstate hc .a).2 hunmeasured
  refine ⟨results, final, hrun, ?_, hnone⟩
  intro harchived
  obtain ⟨before, after, hsplit⟩ := List.append_of_mem hc
  rw [hsplit] at hstate
  obtain ⟨state', -, hbefore, -, -, -⟩ := exists_states hstate
  obtain ⟨archived, hfile, -⟩ := harchived.present before _ after state' hsplit hbefore .a [65, 10]
    (atWaitEnd_location hcfg _ _ _)
  rw [hnone] at hfile
  simp at hfile

/-- With records on both sides in each combination all telemetry is archived. -/
theorem healthy_telemetryArchived :
    ∃ results final, run Sample.platform Sample.runner Sample.healthy (fun _ => none) =
        .ok (results, final) ∧
      TelemetryArchived Sample.platform Sample.runner Sample.healthy (fun _ => none) results
        final ∧
      results.map (·.metrics) = [1, 1, 1, 1] := by
  have hcfg := Sample.separate_runner
  have hworld (c : Combination) : Undisturbed Sample.platform (Sample.healthy.activity c) :=
    Sample.undisturbed_logged true
  obtain ⟨results, final, hrun⟩ :=
    exists_run hcfg Sample.total_platform (fun _ _ => rfl) hworld fun _ => none
  have harchived : TelemetryArchived Sample.platform Sample.runner Sample.healthy (fun _ => none)
      results final := by
    rw [telemetryArchived_iff Sample.platform Sample.runner hcfg Sample.healthy _ results final
      hrun]
    intro c _ _ side content _
    exact Or.inl ((Sample.measured_logged_iff true).mpr rfl)
  refine ⟨results, final, hrun, harchived, ?_⟩
  rw [harchived.own]
  decide +kernel

end QsTie.Benchmark
