import FreeRDS.Lib.Wire

/-! # Decoders

A decoder takes a value off the front of the bytes and leaves the rest. It has no value if the bytes run out.
-/

namespace FreeRDS.Lib

open Wire

abbrev Decoder := StateT (List UInt8) Option

namespace Decoder

def take (size : Nat) : Decoder (List UInt8) := fun bytes =>
  if bytes.length < size then none else some (bytes.take size, bytes.drop size)

def number (width : Nat) : Decoder Nat := ofBytes <$> take width

/-- One value after the other, as many as `count`. -/
def repeated {α : Type} (decoder : Decoder α) : (count : Nat) → Decoder { values : List α // values.length = count }
  | 0 => pure ⟨[], rfl⟩
  | count + 1 => do
      let value ← decoder
      let ⟨values, h⟩ ← repeated decoder count
      return ⟨value :: values, by rw [List.length_cons, h]⟩

theorem run_take (bytes rest : List UInt8) : (take bytes.length).run (bytes ++ rest) = some (bytes, rest) := by
  simp [take, StateT.run]

theorem run_number {width n : Nat} (h : n < 256 ^ width) (rest : List UInt8) :
    (number width).run (toBytes width n ++ rest) = some (n, rest) := by
  have htake := run_take (toBytes width n) rest
  rw [toBytes_length] at htake
  rw [number, StateT.run_map, htake, Option.map_eq_map, Option.map_some, ofBytes_toBytes_of_lt h]

theorem run_repeated {α β : Type} {decoder : Decoder β} {encode : α → List UInt8} {image : α → β} {values : List α}
    {count : Nat} (hcnt : values.length = count)
    (h : ∀ value ∈ values, ∀ rest, decoder.run (encode value ++ rest) = some (image value, rest))
    (rest : List UInt8) :
    (repeated decoder count).run (values.flatMap encode ++ rest) =
      some (⟨values.map image, by rw [List.length_map, hcnt]⟩, rest) := by
  induction values generalizing count with
  | nil =>
    subst hcnt
    rfl
  | cons value values ih =>
    subst hcnt
    have hval := h value List.mem_cons_self
    have hvals := ih rfl fun value hmem => h value (List.mem_cons_of_mem _ hmem)
    simp only [List.length_cons, List.flatMap_cons, List.append_assoc, repeated, StateT.run_bind, hval,
      Option.bind_eq_bind, Option.bind_some, hvals]
    rfl

end Decoder

end FreeRDS.Lib
