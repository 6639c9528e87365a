import QsTie.Lib.Join
import QsTie.Lib.Ranking
import Mathlib.Data.List.Dedup
import Mathlib.Order.MinMax
import Mathlib.Order.WithBot

/-!
# The published statistics (`analyze_telemetry.py`)

For one iteration `main` groups the records of each gateway by transaction, merges
the groups on the id, sorts the rows by `t_received` and keeps a window of them;
the latencies are differences of the columns.  The pandas operations are a
parameter with the laws the code relies on (`Pandas.Lawful`): one group for each
id, smallest and largest of the values that are there, an inner join, a sort with
missing values last.

Values of a column are of any linearly ordered type; a missing value is `none`.  Both
frames have the column `transaction_id`, which `groupby` needs.
-/

namespace QsTie.Benchmark

open QsTie.Lib

/-! ### Frames -/

section Frames

variable (κ τ : Type)

/-- A record of Gateway A, with the columns that are read. -/
structure RecordA where
  transactionId : Option κ
  tReceived : Option τ
  tExtracted : Option τ
  tSigned : Option τ
  tAcked : Option τ

structure RecordB where
  transactionId : Option κ
  tReceivedB : Option τ
  tVerifiedB : Option τ
  tIngestedB : Option τ

structure GroupA where
  transactionId : κ
  tReceived : Option τ
  tExtracted : Option τ
  tSigned : Option τ
  tAcked : Option τ

structure GroupB where
  transactionId : κ
  tReceivedB : Option τ
  tVerifiedB : Option τ
  tIngestedB : Option τ

/-- A row of the merged frame. -/
structure Row where
  transactionId : κ
  tReceived : Option τ
  tExtracted : Option τ
  tSigned : Option τ
  tAcked : Option τ
  tReceivedB : Option τ
  tVerifiedB : Option τ
  tIngestedB : Option τ

/-- The frame of Gateway A; without the column `t_received` no record has a value there. -/
structure FrameA where
  records : List (RecordA κ τ)
  hasReceived : Bool
  absent : hasReceived = false → ∀ record ∈ records, record.tReceived = none

/-- The operations of pandas: the keys of `groupby`, the two aggregations of a column, the
    merge of the groups and `sort_values('t_received')`. -/
structure Pandas where
  groupKeys : List (Option κ) → List κ
  aggMin : List (Option τ) → Option τ
  aggMax : List (Option τ) → Option τ
  merge : List (GroupA κ τ) → List (GroupB κ τ) → List (Row κ τ)
  sortValues : List (Row κ τ) → List (Row κ τ)

end Frames

variable {κ τ : Type}

def joinedRow (pair : GroupA κ τ × GroupB κ τ) : Row κ τ where
  transactionId := pair.1.transactionId
  tReceived := pair.1.tReceived
  tExtracted := pair.1.tExtracted
  tSigned := pair.1.tSigned
  tAcked := pair.1.tAcked
  tReceivedB := pair.2.tReceivedB
  tVerifiedB := pair.2.tVerifiedB
  tIngestedB := pair.2.tIngestedB

/-- The sort key of a row: a missing value comes last. -/
def Row.key (row : Row κ τ) : WithTop τ :=
  match row.tReceived with
  | some t => (t : WithTop τ)
  | none => ⊤

/-- The aggregation of a column: the best of the values that are there. -/
def IsBest (better : τ → τ → Prop) (values : List (Option τ)) (result : Option τ) : Prop :=
  (∀ t, result = some t → some t ∈ values ∧ ∀ t', some t' ∈ values → better t t') ∧
    (result = none → ∀ t, some t ∉ values)

structure Pandas.Lawful [DecidableEq κ] [LinearOrder τ] (pd : Pandas κ τ) : Prop where
  nodup_groupKeys : ∀ ids, (pd.groupKeys ids).Nodup
  mem_groupKeys : ∀ ids id, id ∈ pd.groupKeys ids ↔ some id ∈ ids
  aggMin : ∀ values, IsBest (· ≤ ·) values (pd.aggMin values)
  aggMax : ∀ values, IsBest (· ≥ ·) values (pd.aggMax values)
  merge : ∀ groupsA groupsB, (pd.merge groupsA groupsB).Perm
    ((joinOn GroupA.transactionId GroupB.transactionId groupsA groupsB).map joinedRow)
  sort_perm : ∀ rows, (pd.sortValues rows).Perm rows
  sort_sorted : ∀ rows, (pd.sortValues rows).Pairwise fun row row' => row.key ≤ row'.key

/-! ### One iteration -/

section Iteration

variable [DecidableEq κ] (pd : Pandas κ τ)

def groupA (dfA : List (RecordA κ τ)) (id : κ) : GroupA κ τ :=
  let group := dfA.filter fun record => record.transactionId = some id
  { transactionId := id
    tReceived := pd.aggMin (group.map (·.tReceived))
    tExtracted := pd.aggMax (group.map (·.tExtracted))
    tSigned := pd.aggMax (group.map (·.tSigned))
    tAcked := pd.aggMax (group.map (·.tAcked)) }

def groupB (dfB : List (RecordB κ τ)) (id : κ) : GroupB κ τ :=
  let group := dfB.filter fun record => record.transactionId = some id
  { transactionId := id
    tReceivedB := pd.aggMax (group.map (·.tReceivedB))
    tVerifiedB := pd.aggMax (group.map (·.tVerifiedB))
    tIngestedB := pd.aggMax (group.map (·.tIngestedB)) }

def groupedA (dfA : List (RecordA κ τ)) : List (GroupA κ τ) :=
  (pd.groupKeys (dfA.map (·.transactionId))).map (groupA pd dfA)

def groupedB (dfB : List (RecordB κ τ)) : List (GroupB κ τ) :=
  (pd.groupKeys (dfB.map (·.transactionId))).map (groupB pd dfB)

/-- `df_merged` before it is sorted. -/
def merged (dfA : List (RecordA κ τ)) (dfB : List (RecordB κ τ)) : List (Row κ τ) :=
  pd.merge (groupedA pd dfA) (groupedB pd dfB)

/-- The window with `discard = 1000`. -/
def window (rows : List (Row κ τ)) : List (Row κ τ) :=
  if rows.length ≥ 1000 + 1000 then (rows.drop 1000).take 1000
  else if rows.length > 1000 then rows.drop (rows.length - 1000)
  else rows

/-- The rows kept for one iteration. -/
def iterationRows (dfA : FrameA κ τ) (dfB : List (RecordB κ τ)) : List (Row κ τ) :=
  if dfA.records.isEmpty || dfB.isEmpty then []
  else
    let dfMerged := merged pd dfA.records dfB
    window (if dfA.hasReceived then pd.sortValues dfMerged else dfMerged)

/-- The transactions with a record in both files. -/
def commonIds (dfA : List (RecordA κ τ)) (dfB : List (RecordB κ τ)) : List κ :=
  (dfA.filterMap (·.transactionId)).dedup.filter fun id =>
    some id ∈ dfB.map (·.transactionId)

end Iteration

/-! ### One row for each transaction -/

section Merged

variable [DecidableEq κ] {pd : Pandas κ τ} {dfA : List (RecordA κ τ)} {dfB : List (RecordB κ τ)}

theorem ids_groupedA : (groupedA pd dfA).map (·.transactionId) =
    pd.groupKeys (dfA.map (·.transactionId)) := by
  rw [groupedA, List.map_map]
  exact List.map_id _

theorem ids_groupedB : (groupedB pd dfB).map (·.transactionId) =
    pd.groupKeys (dfB.map (·.transactionId)) := by
  rw [groupedB, List.map_map]
  exact List.map_id _

variable [LinearOrder τ]

theorem ids_merged (hpd : pd.Lawful) :
    ((merged pd dfA dfB).map (·.transactionId)).Perm
      (joinKeys GroupA.transactionId GroupB.transactionId (groupedA pd dfA)
        (groupedB pd dfB)) := by
  have hperm := (hpd.merge (groupedA pd dfA) (groupedB pd dfB)).map (·.transactionId)
  rwa [List.map_map] at hperm

theorem mem_ids_merged (hpd : pd.Lawful) (id : κ) :
    id ∈ (merged pd dfA dfB).map (·.transactionId) ↔
      some id ∈ dfA.map (·.transactionId) ∧ some id ∈ dfB.map (·.transactionId) := by
  rw [(ids_merged hpd).mem_iff, mem_joinKeys, ids_groupedA, ids_groupedB, hpd.mem_groupKeys,
    hpd.mem_groupKeys]

theorem nodup_ids_merged (hpd : pd.Lawful) :
    ((merged pd dfA dfB).map (·.transactionId)).Nodup := by
  rw [(ids_merged hpd).nodup_iff, nodup_joinKeys_iff]
  intro id hidA hidB
  rw [ids_groupedA] at hidA ⊢
  rw [ids_groupedB] at hidB ⊢
  exact ⟨List.count_eq_one_of_mem (hpd.nodup_groupKeys _) hidA,
    List.count_eq_one_of_mem (hpd.nodup_groupKeys _) hidB⟩

/-- There are as many merged rows as transactions with a record in both files. -/
theorem length_merged (hpd : pd.Lawful) :
    (merged pd dfA dfB).length = (commonIds dfA dfB).length := by
  have hnodup : (commonIds dfA dfB).Nodup := (List.nodup_dedup _).filter _
  have hperm : ((merged pd dfA dfB).map (·.transactionId)).Perm (commonIds dfA dfB) := by
    rw [List.perm_ext_iff_of_nodup (nodup_ids_merged hpd) hnodup]
    intro id
    rw [mem_ids_merged hpd, commonIds, List.mem_filter, List.mem_dedup, List.mem_filterMap,
      decide_eq_true_eq, List.mem_map]
  simpa using hperm.length_eq

/-- A merged row is made of the groups of its id. -/
theorem exists_groups_of_mem (hpd : pd.Lawful) {row : Row κ τ} (hrow : row ∈ merged pd dfA dfB) :
    some row.transactionId ∈ dfA.map (·.transactionId) ∧
    some row.transactionId ∈ dfB.map (·.transactionId) ∧
    row = joinedRow (groupA pd dfA row.transactionId, groupB pd dfB row.transactionId) := by
  have hmem := (hpd.merge _ _).mem_iff.mp hrow
  obtain ⟨⟨ga, gb⟩, hpair, rfl⟩ := List.mem_map.mp hmem
  obtain ⟨hga, hgb, heq⟩ := mem_joinOn.mp hpair
  obtain ⟨id, hid, rfl⟩ := List.mem_map.mp hga
  obtain ⟨id', hid', rfl⟩ := List.mem_map.mp hgb
  obtain rfl : id' = id := heq
  exact ⟨(hpd.mem_groupKeys _ _).mp hid, (hpd.mem_groupKeys _ _).mp hid', rfl⟩

end Merged

/-! ### The window -/

section Window

theorem length_window (rows : List (Row κ τ)) : (window rows).length ≤ 1000 := by
  unfold window
  split
  · rw [List.length_take]
    omega
  · split
    · rw [List.length_drop]
      omega
    · omega

variable [LinearOrder τ]

/-- Fewer than 2000 rows, but some: one of the 1000 smallest is kept. -/
theorem exists_warmUp_of_lt {ranking : List (Row κ τ)}
    (hsorted : ranking.Pairwise fun row row' => row.key < row'.key) (hpos : 0 < ranking.length)
    (hlt : ranking.length < 2000) :
    ∃ row ∈ window ranking, rank Row.key ranking row < 1000 := by
  unfold window
  rw [if_neg (by omega)]
  split
  · rename_i hmiddle
    have hi : ranking.length - 1000 < ranking.length := by omega
    refine ⟨ranking[ranking.length - 1000], ?_, ?_⟩
    · rw [List.mem_iff_getElem]
      exact ⟨0, by rw [List.length_drop]; omega, by simp⟩
    · rw [rank_getElem hsorted hi]
      omega
  · refine ⟨ranking[0], List.getElem_mem hpos, ?_⟩
    rw [rank_getElem hsorted hpos]
    omega

variable [DecidableEq κ]

/-- At most 1000 rows are kept and, when the values of `t_received` are distinct, none of them
    is of rank below 1000; of 2000 rows or more, those at positions 1001 to 2000 of the
    order by `t_received` are kept, which are those of ranks 1000 to 1999 when the values
    are distinct. -/
structure WarmUpExcluded (pd : Pandas κ τ) (dfA : FrameA κ τ) (dfB : List (RecordB κ τ)) :
    Prop where
  size : (iterationRows pd dfA dfB).length ≤ 1000
  warmUp : ((merged pd dfA.records dfB).map Row.key).Nodup →
    ∀ row ∈ iterationRows pd dfA dfB, 1000 ≤ rank Row.key (merged pd dfA.records dfB) row
  full : 2000 ≤ (commonIds dfA.records dfB).length →
    ∃ ranking : List (Row κ τ), ranking.Perm (merged pd dfA.records dfB) ∧
      ranking.Pairwise (fun row row' => row.key ≤ row'.key) ∧
      iterationRows pd dfA dfB = (ranking.drop 1000).take 1000
  ranks : 2000 ≤ (commonIds dfA.records dfB).length →
    ((merged pd dfA.records dfB).map Row.key).Nodup →
    ∀ row, row ∈ iterationRows pd dfA dfB ↔ row ∈ merged pd dfA.records dfB ∧
      1000 ≤ rank Row.key (merged pd dfA.records dfB) row ∧
      rank Row.key (merged pd dfA.records dfB) row < 2000

variable {pd : Pandas κ τ} {dfA : FrameA κ τ} {dfB : List (RecordB κ τ)}

/-- Without the column every merged row misses the value. -/
theorem tReceived_of_absent (hpd : pd.Lawful) (habsent : dfA.hasReceived = false)
    {row : Row κ τ} (hrow : row ∈ merged pd dfA.records dfB) : row.tReceived = none := by
  obtain ⟨-, -, heq⟩ := exists_groups_of_mem hpd hrow
  rw [heq]
  simp only [joinedRow, groupA]
  cases hmin : pd.aggMin _ with
  | none => rfl
  | some t =>
    obtain ⟨record, hrecord, hvalue⟩ := List.mem_map.mp ((hpd.aggMin _).1 t hmin).1
    rw [dfA.absent habsent record (List.mem_of_mem_filter hrecord)] at hvalue
    simp at hvalue

/-- The kept rows are the window of the merged rows in the order of `t_received`. -/
theorem exists_ranking (hpd : pd.Lawful) :
    ∃ ranking : List (Row κ τ), ranking.Perm (merged pd dfA.records dfB) ∧
      ranking.Pairwise (fun row row' => row.key ≤ row'.key) ∧
      iterationRows pd dfA dfB = window ranking := by
  unfold iterationRows
  split
  · rename_i hempty
    -- one of the frames is empty, and so is the merge
    have hnil : merged pd dfA.records dfB = [] := by
      rw [← List.length_eq_zero_iff, length_merged hpd, commonIds]
      simp only [Bool.or_eq_true, List.isEmpty_iff] at hempty
      rcases hempty with hnil | hnil
      · simp [hnil]
      · simp [hnil]
    exact ⟨[], by rw [hnil], List.Pairwise.nil, rfl⟩
  · cases hreceived : dfA.hasReceived with
    | true => exact ⟨_, hpd.sort_perm _, hpd.sort_sorted _, rfl⟩
    | false =>
      refine ⟨_, List.Perm.refl _, ?_, rfl⟩
      rw [List.pairwise_iff_forall_sublist]
      intro row row' hsub
      have hrow' : row' ∈ merged pd dfA.records dfB := hsub.subset (by simp)
      have hkey : row'.key = ⊤ := by
        simp only [Row.key, tReceived_of_absent hpd hreceived hrow']
      rw [hkey]
      exact le_top

/-- **The warm-up is excluded exactly when there is no row or there are 2000** (for distinct
    values of `t_received`). -/
theorem warmUpExcluded_iff (pd : Pandas κ τ) (hpd : pd.Lawful) (dfA : FrameA κ τ)
    (dfB : List (RecordB κ τ)) :
    WarmUpExcluded pd dfA dfB ↔
      (((merged pd dfA.records dfB).map Row.key).Nodup →
        (commonIds dfA.records dfB).length = 0 ∨
          2000 ≤ (commonIds dfA.records dfB).length) := by
  obtain ⟨ranking, hperm, hsorted, hkept⟩ := @exists_ranking _ _ _ _ pd dfA dfB hpd
  have hlength : ranking.length = (commonIds dfA.records dfB).length := by
    rw [hperm.length_eq, length_merged hpd]
  have hrank : rank Row.key (merged pd dfA.records dfB) = rank Row.key ranking :=
    funext fun row => rank_perm hperm.symm row
  have hstrict (hdistinct : ((merged pd dfA.records dfB).map Row.key).Nodup) :
      ranking.Pairwise fun row row' => row.key < row'.key :=
    pairwise_lt_of_sorted hsorted ((hperm.map Row.key).nodup_iff.mpr hdistinct)
  have hslice (hfull : 2000 ≤ (commonIds dfA.records dfB).length) :
      iterationRows pd dfA dfB = (ranking.drop 1000).take 1000 := by
    rw [hkept, window, if_pos (by omega)]
  have hranks (hfull : 2000 ≤ (commonIds dfA.records dfB).length)
      (hdistinct : ((merged pd dfA.records dfB).map Row.key).Nodup) (row : Row κ τ) :
      row ∈ iterationRows pd dfA dfB ↔ row ∈ merged pd dfA.records dfB ∧
        1000 ≤ rank Row.key (merged pd dfA.records dfB) row ∧
        rank Row.key (merged pd dfA.records dfB) row < 2000 := by
    rw [hslice hfull, mem_slice_iff (hstrict hdistinct), hperm.mem_iff, hrank]
  constructor
  · intro hexcluded hdistinct
    by_contra hfew
    obtain ⟨hnonzero, hlt⟩ := not_or.mp hfew
    obtain ⟨row, hrow, hsmall⟩ :=
      exists_warmUp_of_lt (hstrict hdistinct) (by omega) (by omega)
    rw [← hkept] at hrow
    have hlarge := hexcluded.warmUp hdistinct row hrow
    rw [hrank] at hlarge
    omega
  · intro hcount
    refine ⟨?_, ?_, ?_, hranks⟩
    · rw [hkept]
      exact length_window ranking
    · intro hdistinct row hrow
      rcases hcount hdistinct with hzero | hfull
      · have hnil : ranking = [] := List.length_eq_zero_iff.mp (by omega)
        rw [hkept, hnil] at hrow
        simp [window] at hrow
      · exact ((hranks hfull hdistinct row).mp hrow).2.1
    · intro hfull
      exact ⟨ranking, hperm, hsorted, hslice hfull⟩

end Window

/-! ### Operations with these laws -/

section Reference

variable [DecidableEq κ] [LinearOrder τ]

def Pandas.reference : Pandas κ τ where
  groupKeys ids := (ids.filterMap id).dedup
  aggMin values := (values.filterMap id).min?
  aggMax values := (values.filterMap id).max?
  merge groupsA groupsB :=
    (joinOn GroupA.transactionId GroupB.transactionId groupsA groupsB).map joinedRow
  sortValues rows := rows.mergeSort fun row row' => row.key ≤ row'.key

theorem Pandas.reference_lawful : (Pandas.reference : Pandas κ τ).Lawful where
  nodup_groupKeys ids := List.nodup_dedup _
  mem_groupKeys ids id := by simp [Pandas.reference]
  aggMin values := by
    constructor
    · intro t ht
      obtain ⟨hmem, hleast⟩ := List.min?_eq_some_iff.mp ht
      exact ⟨by simpa using hmem, fun t' ht' => hleast t' (by simpa using ht')⟩
    · intro hnone t ht
      have hmem : t ∈ values.filterMap id := by simpa using ht
      rw [List.min?_eq_none_iff.mp hnone] at hmem
      simp at hmem
  aggMax values := by
    constructor
    · intro t ht
      obtain ⟨hmem, hgreatest⟩ := List.max?_eq_some_iff.mp ht
      exact ⟨by simpa using hmem, fun t' ht' => hgreatest t' (by simpa using ht')⟩
    · intro hnone t ht
      have hmem : t ∈ values.filterMap id := by simpa using ht
      rw [List.max?_eq_none_iff.mp hnone] at hmem
      simp at hmem
  merge groupsA groupsB := List.Perm.refl _
  sort_perm rows := List.mergeSort_perm _ _
  sort_sorted rows := by
    have hsorted : (rows.mergeSort fun row row' => row.key ≤ row'.key).Pairwise
        fun row row' => decide (row.key ≤ row'.key) = true := by
      apply List.pairwise_mergeSort
      · intro row row' row'' h h'
        simp only [decide_eq_true_eq] at h h' ⊢
        exact le_trans h h'
      · intro row row'
        simpa using le_total row.key row'.key
    simpa [Pandas.reference] using hsorted

end Reference

namespace Sample

/-- `n` transactions, each with one record at each gateway, received one after the other. -/
def sequenceA (n : Nat) : FrameA Nat ℤ where
  records := (List.range n).map fun i => ⟨some i, some i, some (i + 1), some (i + 2), none⟩
  hasReceived := true
  absent := by simp

def sequenceB (n : Nat) : List (RecordB Nat ℤ) :=
  (List.range n).map fun i => ⟨some i, some (i + 3), some (i + 4), some (i + 5)⟩

theorem length_commonIds (n : Nat) :
    (commonIds (sequenceA n).records (sequenceB n)).length = n := by
  have hids : (sequenceA n).records.filterMap (·.transactionId) = List.range n := by
    rw [sequenceA, List.filterMap_map]
    exact List.filterMap_some
  have hall : ∀ id ∈ List.range n,
      decide (some id ∈ (sequenceB n).map (·.transactionId)) = true := by
    intro id hid
    simpa [sequenceB] using hid
  rw [commonIds, hids, List.nodup_range.dedup, List.filter_eq_self.mpr hall, List.length_range]

theorem tReceived_sequence {pd : Pandas Nat ℤ} (hpd : pd.Lawful) {n : Nat} {row : Row Nat ℤ}
    (hrow : row ∈ merged pd (sequenceA n).records (sequenceB n)) :
    row.tReceived = some (row.transactionId : ℤ) := by
  obtain ⟨hid, -, heq⟩ := exists_groups_of_mem hpd hrow
  rw [heq]
  simp only [joinedRow, groupA]
  have hgroup : some (row.transactionId : ℤ) ∈ ((sequenceA n).records.filter fun record =>
      record.transactionId = some row.transactionId).map (·.tReceived) := by
    simpa [sequenceA] using hid
  cases hmin : pd.aggMin _ with
  | none => exact absurd hgroup ((hpd.aggMin _).2 hmin _)
  | some t =>
    obtain ⟨record, hrecord, hvalue⟩ := List.mem_map.mp ((hpd.aggMin _).1 t hmin).1
    simp only [sequenceA, List.mem_filter, List.mem_map, decide_eq_true_eq] at hrecord
    obtain ⟨⟨i, -, rfl⟩, hsame⟩ := hrecord
    simp only [Option.some.injEq] at hsame hvalue
    rw [← hvalue, hsame]

/-- The transactions of the sequence are received at distinct times. -/
theorem nodup_sequence {pd : Pandas Nat ℤ} (hpd : pd.Lawful) (n : Nat) :
    ((merged pd (sequenceA n).records (sequenceB n)).map Row.key).Nodup := by
  have hkeys : (merged pd (sequenceA n).records (sequenceB n)).map Row.key =
      ((merged pd (sequenceA n).records (sequenceB n)).map (·.transactionId)).map
        fun id : Nat => ((id : ℤ) : WithTop ℤ) := by
    rw [List.map_map]
    apply List.map_congr_left
    intro row hrow
    simp only [Row.key, tReceived_sequence hpd hrow, Function.comp_apply]
  rw [hkeys, List.nodup_map_iff]
  · exact nodup_ids_merged hpd
  · intro id id' heq
    exact Int.ofNat_inj.mp (WithTop.coe_injective heq)

end Sample

/-- Of 1900 transactions the last 1000 are kept, and one of them is among the first 1000. -/
theorem warmUp_kept_of_1900 :
    ¬ WarmUpExcluded Pandas.reference (Sample.sequenceA 1900) (Sample.sequenceB 1900) ∧
    (commonIds (Sample.sequenceA 1900).records (Sample.sequenceB 1900)).length = 1900 ∧
    ∃ row ∈ iterationRows Pandas.reference (Sample.sequenceA 1900) (Sample.sequenceB 1900),
      rank Row.key (merged Pandas.reference (Sample.sequenceA 1900).records
        (Sample.sequenceB 1900)) row < 1000 := by
  have hpd : (Pandas.reference : Pandas Nat ℤ).Lawful := Pandas.reference_lawful
  have hdistinct := Sample.nodup_sequence hpd 1900
  obtain ⟨ranking, hperm, hsorted, hkept⟩ :=
    @exists_ranking _ _ _ _ Pandas.reference (Sample.sequenceA 1900) (Sample.sequenceB 1900) hpd
  have hlength : ranking.length = 1900 := by
    rw [hperm.length_eq, length_merged hpd, Sample.length_commonIds]
  obtain ⟨row, hrow, hsmall⟩ := exists_warmUp_of_lt
    (pairwise_lt_of_sorted hsorted ((hperm.map Row.key).nodup_iff.mpr hdistinct))
    (by omega) (by omega)
  rw [← hkept] at hrow
  rw [rank_perm hperm] at hsmall
  refine ⟨?_, Sample.length_commonIds 1900, row, hrow, hsmall⟩
  intro hexcluded
  have hlarge := hexcluded.warmUp hdistinct row hrow
  omega

/-- Of 5000 transactions the warm-up is excluded. -/
theorem warmUpExcluded_of_5000 :
    (Pandas.reference : Pandas Nat ℤ).Lawful ∧
    WarmUpExcluded Pandas.reference (Sample.sequenceA 5000) (Sample.sequenceB 5000) := by
  refine ⟨Pandas.reference_lawful, ?_⟩
  rw [warmUpExcluded_iff Pandas.reference Pandas.reference_lawful, Sample.length_commonIds]
  intro _
  right
  omega

end QsTie.Benchmark
