import QsTie.Common.JsonRead
import QsTie.GatewayA.Models
import QsTie.Lib.Lines

/-!
# The dead-letter store (`gateway_a/pipeline/dead_letter.py`)

An entry goes to a bounded deque and, as one line of JSON, to an append-only file.
The append may fail, and is then only logged.  Over any history the deque holds
the last entries and the file, behind what it held before, the entries whose
append succeeded: dumped text has no newline, so each of them is a line, and the
line reads back as the entry.
-/

namespace QsTie.GatewayA

open QsTie.Lib

/-! ### The deque -/

/-- `deque(maxlen=n).append(x)`: the oldest element gives way. -/
def dequeAppend {α : Type} (maxlen : Nat) (items : List α) (x : α) : List α :=
  if maxlen < (items ++ [x]).length then (items ++ [x]).tail else items ++ [x]

theorem dequeAppend_drop {α : Type} (maxlen : Nat) (xs : List α) (x : α) :
    dequeAppend maxlen (xs.drop (xs.length - maxlen)) x =
      (xs ++ [x]).drop ((xs ++ [x]).length - maxlen) := by
  have hdrop : xs.drop (xs.length - maxlen) ++ [x] = (xs ++ [x]).drop (xs.length - maxlen) := by
    rw [List.drop_append_of_le_length (Nat.sub_le _ _)]
  unfold dequeAppend
  rw [hdrop]
  simp only [List.length_drop, List.length_append, List.length_singleton]
  split
  · rename_i hfull
    rw [List.tail_drop]
    congr 1
    omega
  · rename_i hroom
    congr 1
    omega

/-! ### The store -/

/-- `transaction.state`, with a `value` or without. -/
inductive StateField where
  | member (state : TransactionState)
  | plain (text : String)

def StateField.text : StateField → String
  | .member state => state.value
  | .plain text => text

/-- What `add` reads of a transaction: `str(transaction_id)`, the state and
    `created_at.isoformat()`. -/
structure DeadTransaction where
  transactionId : String
  state : StateField
  createdAt : String

/-- An entry, with its keys in order. -/
abbrev DeadEntry := List (String × String)

def deadEntry (transaction : DeadTransaction) (reason : String) : DeadEntry :=
  [("transaction_id", transaction.transactionId), ("reason", reason),
   ("state", transaction.state.text), ("timestamp", transaction.createdAt)]

/-- The line written for an entry. -/
def entryLine (entry : DeadEntry) : Bytes := jsonDumps entry ++ [10]

/-- The store and its file. -/
structure DeadLetterStore where
  maxlen : Nat
  store : List DeadEntry
  file : Bytes

namespace DeadLetterStore

/-- A new store on a file with this content. -/
def init (maxlen : Nat) (prior : Bytes) : DeadLetterStore := ⟨maxlen, [], prior⟩

/-- One call of `add` and whether its append succeeds. -/
structure Add where
  transaction : DeadTransaction
  reason : String
  appended : Bool

def Add.entry (call : Add) : DeadEntry := deadEntry call.transaction call.reason

def add (dl : DeadLetterStore) (call : Add) : DeadLetterStore where
  maxlen := dl.maxlen
  store := dequeAppend dl.maxlen dl.store call.entry
  file := if call.appended then dl.file ++ entryLine call.entry else dl.file

def snapshot (dl : DeadLetterStore) : List DeadEntry := dl.store

def addAll (dl : DeadLetterStore) (calls : List Add) : DeadLetterStore := calls.foldl add dl

/-- The entries whose append succeeded. -/
def appendedEntries (calls : List Add) : List DeadEntry :=
  (calls.filter (·.appended)).map Add.entry

/-! ### One call -/

/-- The memory view is the tail of what was added; the file holds its old lines and one for
    each entry that was appended. -/
structure Tracks (prior : Bytes) (maxlen : Nat) (calls : List Add) (dl : DeadLetterStore) :
    Prop where
  maxlen_eq : dl.maxlen = maxlen
  store_eq : dl.store = (calls.map Add.entry).drop (calls.length - maxlen)
  terminated : Terminated 10 dl.file
  lines_eq : lines 10 dl.file = lines 10 prior ++ (appendedEntries calls).map jsonDumps

theorem Tracks.init {prior : Bytes} (hprior : Terminated 10 prior) (maxlen : Nat) :
    Tracks prior maxlen [] (init maxlen prior) where
  maxlen_eq := rfl
  store_eq := by simp [DeadLetterStore.init]
  terminated := hprior
  lines_eq := by simp [DeadLetterStore.init, appendedEntries]

theorem Tracks.add {prior : Bytes} {maxlen : Nat} {calls : List Add} {dl : DeadLetterStore}
    (h : Tracks prior maxlen calls dl) (call : Add) :
    Tracks prior maxlen (calls ++ [call]) (dl.add call) := by
  constructor
  · exact h.maxlen_eq
  · have hlen : calls.length = (calls.map Add.entry).length := by simp
    simp only [DeadLetterStore.add]
    rw [h.maxlen_eq, h.store_eq, hlen, dequeAppend_drop]
    simp
  · simp only [DeadLetterStore.add]
    split
    · exact (terminated_line _).append h.terminated
    · exact h.terminated
  · simp only [DeadLetterStore.add]
    split
    · rename_i happended
      rw [lines_append h.terminated, entryLine, lines_line (newline_not_mem_jsonDumps _),
        h.lines_eq]
      simp [appendedEntries, happended]
    · rename_i hfailed
      rw [h.lines_eq]
      simp [appendedEntries, hfailed]

/-! ### A history -/

theorem Tracks.addAll {prior : Bytes} {maxlen : Nat} {calls : List Add} {dl : DeadLetterStore}
    (h : Tracks prior maxlen calls dl) (more : List Add) :
    Tracks prior maxlen (calls ++ more) (dl.addAll more) := by
  induction more generalizing calls dl with
  | nil => simpa [DeadLetterStore.addAll] using h
  | cons call more ih =>
    have hmore := ih (h.add call)
    rwa [List.append_assoc, List.singleton_append] at hmore

/-- **The audit file is complete and the memory view is its tail.**  After any history of
    calls the snapshot is the last `min n maxlen` entries; splitting the file at newlines
    gives the lines it held before and then, in order, lines that read back as exactly the
    entries whose append succeeded. -/
theorem audit_complete (maxlen : Nat) (prior : Bytes) (hprior : Terminated 10 prior)
    (calls : List Add) :
    ((init maxlen prior).addAll calls).snapshot =
      (calls.map Add.entry).drop (calls.length - min calls.length maxlen) ∧
    ∃ added, ((init maxlen prior).addAll calls).file.splitOn 10 =
        lines 10 prior ++ added ++ [[]] ∧
      added.map jsonObject = (appendedEntries calls).map some := by
  have htracks := (Tracks.init hprior maxlen).addAll calls
  rw [List.nil_append] at htracks
  constructor
  · rw [snapshot, htracks.store_eq]
    congr 1
    omega
  · refine ⟨(appendedEntries calls).map jsonDumps, ?_, ?_⟩
    · rw [splitOn_eq_lines htracks.terminated, htracks.lines_eq]
    · rw [List.map_map]
      apply List.map_congr_left
      intro entry _
      exact jsonObject_jsonDumps entry

namespace Sample

def call (id reason : String) (appended : Bool) : Add where
  transaction := ⟨id, .member .failed, "2026-01-05T10:00:00.000001"⟩
  reason := reason
  appended := appended

/-- Two calls with hostile reasons, one whose append fails in between. -/
def calls : List Add :=
  [call "tx-1" "NACK_\"a\"\nb" true, call "tx-2" "UNKNOWN_RECIPIENT_ROUTING" false,
   call "tx-3" "NACK_é😀" true]

end Sample

/-- Behind one line the file held before, the two appended entries; in memory, the last two. -/
theorem sample_audit_complete :
    ((init 2 (asciiBytes "old\n")).addAll Sample.calls).snapshot =
      (Sample.calls.map Add.entry).drop 1 ∧
    ∃ added, ((init 2 (asciiBytes "old\n")).addAll Sample.calls).file.splitOn 10 =
        [asciiBytes "old"] ++ added ++ [[]] ∧
      added.map jsonObject = [some (Add.entry (Sample.call "tx-1" "NACK_\"a\"\nb" true)),
        some (Add.entry (Sample.call "tx-3" "NACK_é😀" true))] := by
  have hprior : Terminated 10 (asciiBytes "old\n") := Or.inr ⟨asciiBytes "old", by decide⟩
  have hlines : lines 10 (asciiBytes "old\n") = [asciiBytes "old"] := by decide +kernel
  have haudit := audit_complete 2 (asciiBytes "old\n") hprior Sample.calls
  rw [hlines] at haudit
  exact haudit

end DeadLetterStore

end QsTie.GatewayA
