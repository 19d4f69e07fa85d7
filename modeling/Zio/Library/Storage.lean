import Mathlib.Algebra.Order.Ring.Int
import Mathlib.Data.List.Basic

/-!
# Contiguous storage

A storage is a list of cells.  Ranges of it are read and overwritten; a write
is seen by the reads of its own range and by no read of a range that it does
not meet.  Numbers are stored as little-endian digits in base 256.
-/

namespace Storage

universe u

variable {Cell : Type u}

/-- The cells of a range. -/
def slice (cells : List Cell) (offset size : Nat) : List Cell :=
  (cells.drop offset).take size

/-- Overwrite the cells from an offset on. -/
def write (cells : List Cell) (offset : Nat) (data : List Cell) :
    List Cell :=
  cells.take offset ++ data ++ cells.drop (offset + data.length)

section

variable {cells data : List Cell} {offset : Nat}
  (inside : offset + data.length ≤ cells.length)
include inside

theorem length_write : (write cells offset data).length = cells.length := by
  simp only [write, List.length_append, List.length_take,
    List.length_drop]
  omega

theorem slice_write_self :
    slice (write cells offset data) offset data.length = data := by
  have before : (cells.take offset).length = offset := by
    rw [List.length_take]
    omega
  rw [slice, write, List.append_assoc, List.drop_left' before,
    List.take_left]

/-- A range before the written one is unchanged. -/
theorem slice_write_before
    {start size : Nat} (apart : start + size ≤ offset) :
    slice (write cells offset data) start size =
      slice cells start size := by
  have before : (cells.take offset).length = offset := by
    rw [List.length_take]
    omega
  have short : size ≤ ((cells.take offset).drop start).length := by
    rw [List.length_drop, before]
    omega
  rw [slice, write, List.append_assoc,
    List.drop_append_of_le_length (by rw [before]; omega),
    List.take_append_of_le_length short, List.drop_take,
    List.take_take, Nat.min_eq_left (by omega), slice]

/-- A range after the written one is unchanged. -/
theorem slice_write_after
    {start size : Nat} (apart : offset + data.length ≤ start) :
    slice (write cells offset data) start size =
      slice cells start size := by
  have before : (cells.take offset ++ data).length =
      offset + data.length := by
    rw [List.length_append, List.length_take]
    omega
  obtain ⟨gap, rfl⟩ := Nat.exists_eq_add_of_le apart
  rw [slice, write, ← List.drop_drop, List.drop_left' before,
    List.drop_drop, slice]

/-- A written cell. -/
theorem getElem?_write_self
    {index : Nat} (written : index < data.length) :
    (write cells offset data)[offset + index]? = data[index]? := by
  have before : (cells.take offset).length = offset := by
    rw [List.length_take]
    omega
  rw [write, List.append_assoc, List.getElem?_append_right (by omega),
    before, Nat.add_sub_cancel_left, List.getElem?_append_left written]

/-- A cell outside the written range is unchanged. -/
theorem getElem?_write_apart
    {place : Nat}
    (apart : place < offset ∨ offset + data.length ≤ place) :
    (write cells offset data)[place]? = cells[place]? := by
  have before : (cells.take offset).length = offset := by
    rw [List.length_take]
    omega
  rw [write]
  rcases apart with earlier | later
  · rw [List.append_assoc, List.getElem?_append_left (by omega),
      List.getElem?_take_of_lt earlier]
  · have both : (cells.take offset ++ data).length =
        offset + data.length := by
      rw [List.length_append, before]
    rw [List.getElem?_append_right (by omega), both, List.getElem?_drop,
      Nat.add_sub_cancel' later]

end

/-! ## Consecutive blocks -/

/-- Write blocks of one size one after another. -/
def writeBlocks (size : Nat) :
    List Cell → Nat → List (List Cell) → List Cell
  | cells, _, [] => cells
  | cells, offset, block :: rest =>
      writeBlocks size (write cells offset block) (offset + size) rest

theorem length_writeBlocks
    {size : Nat} {cells : List Cell} {offset : Nat}
    {blocks : List (List Cell)}
    (sized : ∀ block ∈ blocks, block.length = size)
    (inside : offset + blocks.length * size ≤ cells.length) :
    (writeBlocks size cells offset blocks).length = cells.length := by
  induction blocks generalizing cells offset with
  | nil => rfl
  | cons block rest inductionHypothesis =>
      rw [List.length_cons, Nat.succ_mul] at inside
      have first : block.length = size := sized block (List.mem_cons_self ..)
      have fits : offset + block.length ≤ cells.length := by omega
      rw [writeBlocks, inductionHypothesis
        (fun other member => sized other (List.mem_cons_of_mem _ member))
        (by rw [length_write fits]; omega), length_write fits]

/-- The cells before consecutive blocks are unchanged. -/
theorem slice_writeBlocks_before
    {size : Nat} {cells : List Cell} {offset : Nat}
    {blocks : List (List Cell)}
    (sized : ∀ block ∈ blocks, block.length = size)
    (inside : offset + blocks.length * size ≤ cells.length)
    {start length : Nat} (apart : start + length ≤ offset) :
    slice (writeBlocks size cells offset blocks) start length =
      slice cells start length := by
  induction blocks generalizing cells offset with
  | nil => rfl
  | cons block rest inductionHypothesis =>
      rw [List.length_cons, Nat.succ_mul] at inside
      have first : block.length = size := sized block (List.mem_cons_self ..)
      have fits : offset + block.length ≤ cells.length := by omega
      rw [writeBlocks, inductionHypothesis
        (fun other member => sized other (List.mem_cons_of_mem _ member))
        (by rw [length_write fits]; omega) (by omega),
        slice_write_before fits apart]

/-- Every block is read back from its place. -/
theorem slice_writeBlocks
    {size : Nat} {cells : List Cell} {offset : Nat}
    {blocks : List (List Cell)}
    (sized : ∀ block ∈ blocks, block.length = size)
    (inside : offset + blocks.length * size ≤ cells.length)
    {index : Nat} {block : List Cell}
    (placed : blocks[index]? = some block) :
    slice (writeBlocks size cells offset blocks)
      (offset + index * size) size = block := by
  induction blocks generalizing cells offset index with
  | nil => cases placed
  | cons head rest inductionHypothesis =>
      rw [List.length_cons, Nat.succ_mul] at inside
      have first : head.length = size := sized head (List.mem_cons_self ..)
      have fits : offset + head.length ≤ cells.length := by omega
      have restSized := fun other member =>
        sized other (List.mem_cons_of_mem _ member)
      have restInside :
          offset + size + rest.length * size ≤
            (write cells offset head).length := by
        rw [length_write fits]
        omega
      cases index with
      | zero =>
          cases placed
          rw [writeBlocks, Nat.zero_mul, Nat.add_zero,
            slice_writeBlocks_before restSized restInside (Nat.le_refl _),
            ← first, slice_write_self fits]
      | succ index =>
          rw [writeBlocks, Nat.succ_mul,
            show offset + (index * size + size) =
              offset + size + index * size by omega]
          exact inductionHypothesis restSized restInside placed

/-! ## Little-endian numbers -/

/-- The low digits of a number in base 256. -/
def digits : Nat → Nat → List UInt8
  | 0, _ => []
  | size + 1, value =>
      UInt8.ofNat (value % 256) :: digits size (value / 256)

/-- The number that digits stand for. -/
def number : List UInt8 → Nat
  | [] => 0
  | digit :: rest => digit.toNat + 256 * number rest

theorem length_digits (size value : Nat) :
    (digits size value).length = size := by
  induction size generalizing value with
  | zero => rfl
  | succ size inductionHypothesis =>
      rw [digits, List.length_cons, inductionHypothesis]

theorem number_digits
    {size value : Nat} (fits : value < 256 ^ size) :
    number (digits size value) = value := by
  induction size generalizing value with
  | zero =>
      rw [Nat.pow_zero] at fits
      have zero : value = 0 := by omega
      rw [zero]
      rfl
  | succ size inductionHypothesis =>
      have smaller : value / 256 < 256 ^ size := by
        rw [Nat.pow_succ] at fits
        exact Nat.div_lt_of_lt_mul (by rw [Nat.mul_comm]; exact fits)
      have digit : (UInt8.ofNat (value % 256)).toNat = value % 256 :=
        UInt8.toNat_ofNat_of_lt (Nat.mod_lt _ (by decide))
      rw [digits, number, digit, inductionHypothesis smaller]
      exact Nat.mod_add_div value 256

end Storage
