import Mathlib.Data.List.Basic

/-!
# Files written in several operations

A file has content and a mode.  Writing it takes an operation that empties it and
one that fills it, and a program that writes several files may be stopped between
any two operations; what it has done by then is a prefix of its list.

A file that no operation names is left alone (`applyOps_of_ne`), and a file that
is present with a mode keeps both, whatever is written to it, while nothing gives
it another mode (`Kept.applyOps`).
-/

namespace QsTie.Lib

/-- A file on the disk. -/
structure Entry (Data : Type) where
  content : Data
  mode : Nat

abbrev Disk (File Data : Type) := File → Option (Entry Data)

/-- One operation: open a file for writing, with the mode it gets if it is new; fill it;
    set its mode. -/
inductive DiskOp (File Data : Type) where
  | truncate (file : File) (mode : Nat)
  | fill (file : File) (data : Data)
  | chmod (file : File) (mode : Nat)

variable {File Data : Type}

def DiskOp.file : DiskOp File Data → File
  | .truncate file _ => file
  | .fill file _ => file
  | .chmod file _ => file

/-- The operation sets no mode but `mode`. -/
def DiskOp.Sets (mode : Nat) : DiskOp File Data → Prop
  | .truncate _ _ => True
  | .fill _ _ => True
  | .chmod _ mode' => mode' = mode

/-- What the operation makes of its file; only one that is there can be filled or get a
    mode. -/
def DiskOp.onFile (empty : Data) (before : Option (Entry Data)) :
    DiskOp File Data → Option (Entry Data)
  | .truncate _ newMode => some ⟨empty, (before.map Entry.mode).getD newMode⟩
  | .fill _ data => before.map fun entry => { entry with content := data }
  | .chmod _ mode => before.map fun entry => { entry with mode := mode }

namespace Disk

def content (disk : Disk File Data) (file : File) : Option Data := (disk file).map Entry.content

def mode (disk : Disk File Data) (file : File) : Option Nat := (disk file).map Entry.mode

/-- The file is there, with this mode. -/
def Kept (mode : Nat) (disk : Disk File Data) (file : File) : Prop := disk.mode file = some mode

/-- What is done of a list of operations before a stop. -/
def upTo : Option Nat → List (DiskOp File Data) → List (DiskOp File Data)
  | none, ops => ops
  | some n, ops => ops.take n

theorem mem_of_mem_upTo {stop : Option Nat} {op : DiskOp File Data} {ops : List (DiskOp File Data)}
    (h : op ∈ upTo stop ops) : op ∈ ops := by
  cases stop with
  | none => exact h
  | some n => exact List.mem_of_mem_take h

/-- Empty a file and fill it: `open`, `write`, `close`. -/
def writeOps (file : File) (newMode : Nat) (data : Data) : List (DiskOp File Data) :=
  [.truncate file newMode, .fill file data]

section Apply

variable [DecidableEq File]

def apply (empty : Data) (disk : Disk File Data) (op : DiskOp File Data) : Disk File Data :=
  fun file => if file = op.file then op.onFile empty (disk file) else disk file

def applyOps (empty : Data) (disk : Disk File Data) (ops : List (DiskOp File Data)) :
    Disk File Data :=
  ops.foldl (apply empty) disk

variable {empty : Data} {disk : Disk File Data} {file : File} {op : DiskOp File Data}
  {ops : List (DiskOp File Data)}

theorem applyOps_append (empty : Data) (disk : Disk File Data)
    (ops ops' : List (DiskOp File Data)) :
    applyOps empty disk (ops ++ ops') = applyOps empty (applyOps empty disk ops) ops' := by
  simp [applyOps, List.foldl_append]

/-- A file that no operation names is left alone. -/
theorem applyOps_of_ne (h : ∀ op ∈ ops, file ≠ op.file) :
    applyOps empty disk ops file = disk file := by
  induction ops generalizing disk with
  | nil => rfl
  | cons op ops ih =>
    have hop : disk.apply empty op file = disk file := if_neg (h op List.mem_cons_self)
    rw [← hop]
    apply ih
    intro op' hop'
    exact h op' (List.mem_cons_of_mem _ hop')

/-- A written file holds the data, whatever was there; one that was there keeps its mode. -/
theorem applyOps_writeOps (empty : Data) (disk : Disk File Data) (file : File) (newMode : Nat)
    (data : Data) :
    applyOps empty disk (writeOps file newMode data) file =
      some ⟨data, (disk.mode file).getD newMode⟩ := by
  simp [applyOps, writeOps, apply, DiskOp.file, DiskOp.onFile, mode]

/-- A file that is there stays there with its mode, whatever is done that sets no other. -/
theorem Kept.apply {mode : Nat} (hkept : Kept mode disk file) (hop : op.Sets mode) :
    Kept mode (disk.apply empty op) file := by
  obtain ⟨entry, hentry, rfl⟩ := Option.map_eq_some_iff.mp hkept
  by_cases hother : file = op.file
  · simp only [Kept, Disk.mode, Disk.apply, hother, if_true]
    rw [← hother, hentry]
    cases op with
    | truncate other newMode => rfl
    | fill other data => rfl
    | chmod other mode' => exact congrArg some hop
  · simp only [Kept, Disk.mode, Disk.apply, if_neg hother, hentry, Option.map_some]

theorem Kept.applyOps {mode : Nat} (hkept : Kept mode disk file)
    (hops : ∀ op ∈ ops, op.Sets mode) : Kept mode (disk.applyOps empty ops) file := by
  induction ops generalizing disk with
  | nil => exact hkept
  | cons op ops ih =>
    apply ih
    · exact hkept.apply (hops op List.mem_cons_self)
    · intro op' hop'
      exact hops op' (List.mem_cons_of_mem _ hop')

end Apply

end Disk

end QsTie.Lib
