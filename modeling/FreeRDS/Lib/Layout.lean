import FreeRDS.Lib.Wire
import Mathlib.Algebra.Ring.Nat

/-! # Records as rows of numbers

A record is written member by member, each as a number of a fixed width, and read back the same way. The two sides are
described apart from each other: by the members that are assigned, and by those that are taken.
-/

namespace FreeRDS.Lib

open Wire List

variable {σ : Type*}

/-- A member as it is read: its width on the wire, and its assignment. -/
structure Slot (σ : Type*) where
  width : Nat
  set : UInt32 → σ → σ

structure Item (σ : Type*) where
  width : Nat
  get : σ → UInt32

namespace Layout

def numbers : List Nat → List UInt8 → List UInt32
  | [], _ => []
  | width :: widths, bytes => .ofNat (ofBytes (bytes.take width)) :: numbers widths (bytes.drop width)

def assign : List (Slot σ) → List UInt32 → σ → σ
  | slot :: slots, value :: values, s => assign slots values (slot.set value s)
  | _, _, s => s

def size (slots : List (Slot σ)) : Nat := (slots.map Slot.width).sum

/-- Reads the members one after the other, and leaves the bytes behind them. There is no value if the bytes run
out. -/
def readSlots (slots : List (Slot σ)) (bytes : List UInt8) (s : σ) : Option (σ × List UInt8) :=
  if size slots ≤ bytes.length then
    some (assign slots (numbers (slots.map Slot.width) bytes) s, bytes.drop (size slots))
  else none

variable (items : List (Item σ)) (s : σ)

def writeItems : List UInt8 :=
  items.flatMap fun item => toBytes item.width (item.get s).toNat

def Fits : Prop := ∀ item ∈ items, (item.get s).toNat < 256 ^ item.width

theorem numbers_append {widths : List Nat} {bytes : List UInt8} (h : widths.sum ≤ bytes.length) (rest : List UInt8) :
    numbers widths (bytes ++ rest) = numbers widths bytes := by
  induction widths generalizing bytes with
  | nil => rfl
  | cons width widths ih =>
    rw [sum_cons] at h
    have htake : (bytes ++ rest).take width = bytes.take width := take_append_of_le_length (by omega)
    have hdrop : (bytes ++ rest).drop width = bytes.drop width ++ rest := drop_append_of_le_length (by omega)
    have hnext : widths.sum ≤ (bytes.drop width).length := by
      rw [length_drop]
      omega
    rw [numbers, numbers, htake, hdrop, ih hnext]

theorem numbers_inj {widths : List Nat} (hwidths : ∀ width ∈ widths, width ≤ 4) {bytes bytes' : List UInt8}
    (hlen : widths.sum ≤ bytes.length) (hlen' : widths.sum ≤ bytes'.length)
    (h : numbers widths bytes = numbers widths bytes') : bytes.take widths.sum = bytes'.take widths.sum := by
  induction widths generalizing bytes bytes' with
  | nil => simp
  | cons width widths ih =>
    rw [forall_mem_cons] at hwidths
    rw [sum_cons] at hlen hlen'
    simp only [numbers, cons.injEq] at h
    have hfirst : bytes.take width = bytes'.take width := by
      have hbound (bytes : List UInt8) : ofBytes (bytes.take width) < 2 ^ 32 := by
        calc
          ofBytes (bytes.take width) < 256 ^ (bytes.take width).length := ofBytes_lt _
          _ ≤ 256 ^ 4 := Nat.pow_le_pow_right (by decide) (by rw [length_take]; omega)
      have hval := congrArg UInt32.toNat h.1
      rw [UInt32.toNat_ofNat_of_lt' (hbound bytes), UInt32.toNat_ofNat_of_lt' (hbound bytes')] at hval
      apply ofBytes_inj _ hval
      rw [length_take, length_take]
      omega
    have hrest := ih hwidths.2 (by rw [length_drop]; omega) (by rw [length_drop]; omega) h.2
    rw [sum_cons, take_add, take_add, hfirst, hrest]

theorem writeItems_length :
    (writeItems items s).length = (items.map Item.width).sum := by
  simp [writeItems]

theorem numbers_writeItems_mod (rest : List UInt8) :
    numbers (items.map Item.width) (writeItems items s ++ rest) =
      items.map fun item => .ofNat ((item.get s).toNat % 256 ^ item.width) := by
  induction items with
  | nil => rfl
  | cons item items ih =>
    have hlen : (toBytes item.width (item.get s).toNat).length = item.width := toBytes_length _ _
    simp only [writeItems, flatMap_cons, map_cons, numbers, append_assoc] at ih ⊢
    rw [take_append_of_le_length hlen.ge, take_of_length_le hlen.le,
      drop_append_of_le_length hlen.ge, drop_of_length_le hlen.le, nil_append, ih,
      ofBytes_toBytes]

theorem numbers_writeItems {items : List (Item σ)} {s : σ} (h : Fits items s) (rest : List UInt8) :
    numbers (items.map Item.width) (writeItems items s ++ rest) = items.map fun item => item.get s := by
  rw [numbers_writeItems_mod]
  apply map_congr_left
  intro item hitem
  rw [Nat.mod_eq_of_lt (h item hitem), UInt32.ofNat_toNat]

theorem readSlots_of_le {slots : List (Slot σ)} {bytes : List UInt8} (s : σ) (h : size slots ≤ bytes.length) :
    readSlots slots bytes s =
      some (assign slots (numbers (slots.map Slot.width) bytes) s, bytes.drop (size slots)) := by
  simp [readSlots, h]

theorem le_of_readSlots {slots : List (Slot σ)} {bytes : List UInt8} {s : σ} {result : σ × List UInt8}
    (h : readSlots slots bytes s = some result) : size slots ≤ bytes.length := by
  unfold readSlots at h
  split at h
  next hle => exact hle
  next => cases h

end Layout

open Layout

/-- A record with both of its sides: the numbers that are written are those that are read, in their order, and a
member that has been read holds its number. -/
structure Record (σ : Type*) where
  slots : List (Slot σ)
  items : List (Item σ)
  widths : slots.map Slot.width = items.map Item.width := by rfl
  carries : ∀ bytes s, (items.map fun item => item.get (assign slots (numbers (items.map Item.width) bytes) s)) =
    numbers (items.map Item.width) bytes := by intros; rfl

namespace Record

def members (record : Record σ) (s : σ) : List UInt32 := record.items.map fun item => item.get s

variable (record : Record σ)

theorem size_slots : size record.slots = (record.items.map Item.width).sum := by rw [size, record.widths]

theorem writeItems_length (s : σ) : (writeItems record.items s).length = size record.slots := by
  rw [Layout.writeItems_length, size_slots]

def assigned (bytes : List UInt8) (target : σ) : σ :=
  assign record.slots (numbers (record.items.map Item.width) bytes) target

theorem readSlots_eq {bytes : List UInt8} (target : σ) (h : size record.slots ≤ bytes.length) :
    readSlots record.slots bytes target = some (record.assigned bytes target, bytes.drop (size record.slots)) := by
  rw [readSlots_of_le target h, record.widths, assigned]

theorem members_assigned (bytes : List UInt8) (target : σ) :
    record.members (record.assigned bytes target) = numbers (record.items.map Item.width) bytes :=
  record.carries bytes target

theorem readSlots_write (s target : σ) (rest : List UInt8) :
    readSlots record.slots (writeItems record.items s ++ rest) target =
      some (record.assigned (writeItems record.items s ++ rest) target, rest) := by
  rw [record.readSlots_eq target (by simp [record.writeItems_length]), ← record.writeItems_length s, drop_left]

theorem members_assigned_write {s : σ} (h : Fits record.items s) (target : σ) (rest : List UInt8) :
    record.members (record.assigned (writeItems record.items s ++ rest) target) = record.members s := by
  rw [members_assigned, numbers_writeItems h, members]

end Record

end FreeRDS.Lib
