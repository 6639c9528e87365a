import Mathlib.Data.Nat.Digits.Defs

/-!
# Encodings that are read back

A codec writes the values of a type as bytes and reads them back; that it does is
one of its fields.  Codecs are put together: of numbers, pairs, lists, and of a
type that is turned into another one and back.

A list of byte strings is one byte string: each byte has a one before it, and a
zero ends each string.
-/

namespace QsTie.Lib

/-- What is written is read back. -/
structure Codec (α : Type) where
  put : α → List UInt8
  get : List UInt8 → Option α
  get_put : ∀ a, get (put a) = some a

namespace Codec

/-! ### Byte strings -/

def putChunk (chunk : List UInt8) : List UInt8 := chunk.flatMap (fun b => [1, b]) ++ [0]

def putChunks (chunks : List (List UInt8)) : List UInt8 := chunks.flatMap putChunk

/-- The byte strings in a text, the first of them begun as `front`. -/
def getChunks : List UInt8 → List UInt8 → List (List UInt8)
  | front, 0 :: rest => front :: getChunks [] rest
  | front, _ :: b :: rest => getChunks (front ++ [b]) rest
  | _, _ => []

theorem getChunks_putChunk (front chunk rest : List UInt8) :
    getChunks front (putChunk chunk ++ rest) = (front ++ chunk) :: getChunks [] rest := by
  induction chunk generalizing front with
  | nil => simp [putChunk, getChunks]
  | cons b chunk ih =>
    have hnext : putChunk (b :: chunk) ++ rest = 1 :: b :: (putChunk chunk ++ rest) := by
      simp [putChunk]
    rw [hnext, getChunks]
    · rw [ih, List.append_assoc]
      rfl
    · simp

theorem getChunks_putChunks (chunks : List (List UInt8)) :
    getChunks [] (putChunks chunks) = chunks := by
  induction chunks with
  | nil => rfl
  | cons chunk chunks ih =>
    rw [putChunks, List.flatMap_cons, getChunks_putChunk, List.nil_append]
    exact congrArg (chunk :: ·) ih

/-! ### Codecs -/

def bytes : Codec (List UInt8) := ⟨id, some, fun _ => rfl⟩

/-- A type whose values are turned into those of another one and back. -/
def map {α β : Type} (codec : Codec α) (forth : β → α) (back : α → Option β)
    (h : ∀ b, back (forth b) = some b) : Codec β where
  put b := codec.put (forth b)
  get data := (codec.get data).bind back
  get_put b := by rw [codec.get_put]; exact h b

/-- Numbers, by their digits. -/
def nat : Codec Nat where
  put n := (Nat.digits 256 n).map UInt8.ofNat
  get data := some (Nat.ofDigits 256 (data.map UInt8.toNat))
  get_put n := by
    have hdigits : ∀ d ∈ Nat.digits 256 n, (UInt8.toNat ∘ UInt8.ofNat) d = d := by
      intro d hd
      have hlt := Nat.digits_lt_base (by decide) hd
      simp only [Function.comp_apply, UInt8.toNat_ofNat']
      omega
    rw [List.map_map, List.map_congr_left hdigits, List.map_id', Nat.ofDigits_digits]

def pair {α β : Type} (first : Codec α) (second : Codec β) : Codec (α × β) where
  put p := putChunks [first.put p.1, second.put p.2]
  get data :=
    match getChunks [] data with
    | [data₁, data₂] =>
      match first.get data₁, second.get data₂ with
      | some a, some b => some (a, b)
      | _, _ => none
    | _ => none
  get_put p := by simp only [getChunks_putChunks, first.get_put, second.get_put]

/-- The elements of a list, if all of them can be read. -/
def getAll {α : Type} (codec : Codec α) : List (List UInt8) → Option (List α)
  | [] => some []
  | data :: rest =>
    match codec.get data, getAll codec rest with
    | some a, some items => some (a :: items)
    | _, _ => none

theorem getAll_map_put {α : Type} (codec : Codec α) (items : List α) :
    getAll codec (items.map codec.put) = some items := by
  induction items with
  | nil => rfl
  | cons a items ih => simp only [List.map_cons, getAll, codec.get_put, ih]

def list {α : Type} (codec : Codec α) : Codec (List α) where
  put items := putChunks (items.map codec.put)
  get data := getAll codec (getChunks [] data)
  get_put items := by rw [getChunks_putChunks, getAll_map_put]

def bool : Codec Bool :=
  nat.map (fun b => if b then 1 else 0) (fun n => some (n == 1)) (by decide)

def int : Codec Int :=
  (pair bool nat).map (fun i => (i < 0, i.natAbs))
    (fun p => some (if p.1 then -(p.2 : Int) else p.2))
    (by
      intro i
      by_cases hi : i < 0
      · simp only [hi, decide_true, if_true, Option.some.injEq]
        omega
      · simp only [hi, decide_false, Bool.false_eq_true, if_false, Option.some.injEq]
        omega)

def string : Codec String :=
  (list nat).map (fun s => s.toList.map Char.toNat)
    (fun ns => some (String.ofList (ns.map Char.ofNat)))
    (by intro s; simp [Function.comp_def])

end Codec

end QsTie.Lib
