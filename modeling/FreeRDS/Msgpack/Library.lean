import FreeRDS.Lib.Decoder

/-! # The msgpack library

What the functions of a message need of a msgpack library is a `Library`, and that its `msgpack_unpack_next` undoes its
pack functions is `Library.Inverts`. The library that comes with the source, `bundled`, has this property.
-/

namespace FreeRDS.Msgpack

open Lib Wire List

/-- `msgpack_object`. -/
inductive Object
  | nil
  | boolean (value : Bool)
  | positiveInteger (u64 : UInt64)
  | negativeInteger (i64 : Int64)
  /-- The bytes of a `float` or a `double`. -/
  | double (dec : List UInt8)
  | raw (bytes : List UInt8)
  | array (elements : List Object)
  | map (entries : List (Object × Object))
  deriving Inhabited

inductive Item
  | uint32 (value : UInt32)
  | boolean (value : Bool)
  | raw (bytes : List UInt8)

def Item.object : Item → Object
  | .uint32 value => .positiveInteger value.toUInt64
  | .boolean value => .boolean value
  | .raw bytes => .raw bytes

/-- `packRaw` is `msgpack_pack_raw`, which packs the size of the bytes that follow. -/
structure Library where
  packArray : Nat → List UInt8
  packUint32 : UInt32 → List UInt8
  packBoolean : Bool → List UInt8
  packRaw : Nat → List UInt8
  unpackNext : List UInt8 → Option Object

namespace Library

def packItem (library : Library) : Item → List UInt8
  | .uint32 value => library.packUint32 value
  | .boolean value => library.packBoolean value
  | .raw bytes => library.packRaw bytes.length ++ bytes

/-- An array of items comes back. The sizes in an object are 32 bits wide. -/
def Inverts (library : Library) : Prop :=
  ∀ items : List Item, items.length < 2 ^ 32 → (∀ bytes, .raw bytes ∈ items → bytes.length < 2 ^ 32) →
    library.unpackNext (library.packArray items.length ++ items.flatMap library.packItem) =
      some (.array (items.map Item.object))

end Library

/-! ## Packing -/

/-- `_msgpack_store16` and its kin put the highest byte first. -/
def store (width n : Nat) : List UInt8 := (toBytes width n).reverse

def packArray (n : Nat) : List UInt8 :=
  if n < 16 then [0x90 ||| .ofNat n] else if n < 65536 then 0xdc :: store 2 n else 0xdd :: store 4 n

def packUint32 (d : UInt32) : List UInt8 :=
  if d < 128 then [d.toUInt8] else if d < 256 then [0xcc, d.toUInt8]
  else if d < 65536 then 0xcd :: store 2 d.toNat else 0xce :: store 4 d.toNat

def packBoolean (b : Bool) : List UInt8 := if b then [0xc3] else [0xc2]

def packRaw (l : Nat) : List UInt8 :=
  if l < 32 then [0xa0 ||| .ofNat l] else if l < 65536 then 0xda :: store 2 l else 0xdb :: store 4 l

/-! ## Unpacking

`template_execute` reads a header and what belongs to it. A value is put into the container that is open, and a container
that is complete is a value of its own.
-/

inductive Token
  | value (object : Object)
  | array (count : Nat)
  | map (count : Nat)

/-- `_msgpack_load16` and its kin. -/
def load (width : Nat) : Decoder Nat := (fun bytes => ofBytes bytes.reverse) <$> Decoder.take width

/-- `template_callback_int8` and its kin. -/
def integer (width n : Nat) : Object :=
  if n < 2 ^ (8 * width - 1) then .positiveInteger (.ofNat n) else .negativeInteger (.ofInt (n - 2 ^ (8 * width)))

def rawValue (size : Nat) : Decoder Token := (fun bytes => .value (.raw bytes)) <$> Decoder.take size

/-- What follows a header from `0xc0` to `0xdf`. -/
def variableContent (header : UInt8) : Decoder Token :=
  match header with
  | 0xc0 => return .value .nil
  | 0xc2 => return .value (.boolean false)
  | 0xc3 => return .value (.boolean true)
  | 0xc4 => load 1 >>= rawValue
  | 0xc5 => load 2 >>= rawValue
  | 0xc6 => load 4 >>= rawValue
  | 0xca => return .value (.double (← Decoder.take 4))
  | 0xcb => return .value (.double (← Decoder.take 8))
  | 0xcc => return .value (.positiveInteger (.ofNat (← load 1)))
  | 0xcd => return .value (.positiveInteger (.ofNat (← load 2)))
  | 0xce => return .value (.positiveInteger (.ofNat (← load 4)))
  | 0xcf => return .value (.positiveInteger (.ofNat (← load 8)))
  | 0xd0 => return .value (integer 1 (← load 1))
  | 0xd1 => return .value (integer 2 (← load 2))
  | 0xd2 => return .value (integer 4 (← load 4))
  | 0xd3 => return .value (integer 8 (← load 8))
  | 0xd9 => load 1 >>= rawValue
  | 0xda => load 2 >>= rawValue
  | 0xdb => load 4 >>= rawValue
  | 0xdc => return .array (← load 2)
  | 0xdd => return .array (← load 4)
  | 0xde => return .map (← load 2)
  | 0xdf => return .map (← load 4)
  | _ => failure

def content (header : UInt8) : Decoder Token :=
  if header ≤ 0x7f then return .value (.positiveInteger header.toUInt64)
  else if header ≤ 0x8f then return .map (header &&& 0x0f).toNat
  else if header ≤ 0x9f then return .array (header &&& 0x0f).toNat
  else if header ≤ 0xbf then rawValue (header &&& 0x1f).toNat
  else if header ≤ 0xdf then variableContent header
  else return .value (integer 1 header.toNat)

def token : Decoder Token
  | [] => none
  | header :: bytes => (content header).run bytes

/-- An entry of the stack: a container, how many values it still needs, and those it has. -/
inductive Frame
  | array (count : Nat) (elements : List Object)
  | mapKey (count : Nat) (entries : List (Object × Object))
  | mapValue (count : Nat) (entries : List (Object × Object)) (key : Object)

/-- `_push`: the object when the outermost container is complete, else the stack. -/
def push (object : Object) : List Frame → Object ⊕ List Frame
  | [] => .inl object
  | .array count elements :: stack =>
    if count = 1 then push (.array (elements ++ [object])) stack
    else .inr (.array (count - 1) (elements ++ [object]) :: stack)
  | .mapKey count entries :: stack => .inr (.mapValue count entries object :: stack)
  | .mapValue count entries key :: stack =>
    if count = 1 then push (.map (entries ++ [(key, object)])) stack
    else .inr (.mapKey (count - 1) (entries ++ [(key, object)]) :: stack)

/-- `MSGPACK_EMBED_STACK_SIZE`. -/
def embedStackSize : Nat := 32

/-- `start_container`. -/
def startContainer (count : Nat) (empty : Object) (frame : Frame) (stack : List Frame) : Option (Object ⊕ List Frame) :=
  if stack.length ≥ embedStackSize then none
  else if count = 0 then some (push empty stack)
  else some (.inr (frame :: stack))

def shift (stack : List Frame) : Token → Option (Object ⊕ List Frame)
  | .value object => some (push object stack)
  | .array count => startContainer count (.array []) (.array count []) stack
  | .map count => startContainer count (.map []) (.mapKey count []) stack

/-- `template_execute`, with at least as much fuel as there are bytes: every token takes one. -/
def execute : Nat → List Frame → List UInt8 → Option Object
  | 0, _, _ => none
  | fuel + 1, stack, bytes => do
      let (next, bytes) ← token.run bytes
      match ← shift stack next with
      | .inl object => some object
      | .inr stack => execute fuel stack bytes

/-- `msgpack_unpack_next`. -/
def unpackNext (bytes : List UInt8) : Option Object := execute bytes.length [] bytes

def bundled : Library where
  packArray := packArray
  packUint32 := packUint32
  packBoolean := packBoolean
  packRaw := packRaw
  unpackNext := unpackNext

/-! ## The bundled library undoes its packing -/

theorem run_load {width n : Nat} (h : n < 256 ^ width) (rest : List UInt8) :
    (load width).run (store width n ++ rest) = some (n, rest) := by
  have htake := Decoder.run_take (store width n) rest
  rw [store, length_reverse, toBytes_length] at htake
  rw [load, store, StateT.run_map, htake, Option.map_eq_map, Option.map_some, reverse_reverse,
    ofBytes_toBytes_of_lt h]

theorem run_rawValue (bytes rest : List UInt8) :
    (rawValue bytes.length).run (bytes ++ rest) = some (.value (.raw bytes), rest) := by
  rw [rawValue, StateT.run_map, Decoder.run_take, Option.map_eq_map, Option.map_some]

theorem token_cons (header : UInt8) (bytes : List UInt8) : token.run (header :: bytes) = (content header).run bytes := rfl

theorem token_load {header : UInt8} (width : Nat) {n : Nat} (image : Nat → Token)
    (hhdr : content header = image <$> load width) (h : n < 256 ^ width) (rest : List UInt8) :
    token.run (header :: store width n ++ rest) = some (image n, rest) := by
  rw [cons_append, token_cons, hhdr, StateT.run_map, run_load h, Option.map_eq_map, Option.map_some]

theorem token_packUint32 (d : UInt32) (rest : List UInt8) :
    token.run (packUint32 d ++ rest) = some (.value (.positiveInteger d.toUInt64), rest) := by
  have hval : d.toUInt64 = .ofNat d.toNat := by
    apply UInt64.toNat_inj.mp
    rw [UInt32.toNat_toUInt64, UInt64.toNat_ofNat_of_lt' (Nat.lt_trans d.toNat_lt (by decide))]
  unfold packUint32
  split_ifs with hfix h8 h16
  · have hfix : d.toNat < 128 := UInt32.lt_iff_toNat_lt.mp hfix
    have hbyte : d.toUInt8.toNat = d.toNat := by
      rw [UInt32.toNat_toUInt8]
      omega
    have hhdr : d.toUInt8 ≤ 0x7f := by
      rw [UInt8.le_iff_toNat_le, hbyte]
      exact Nat.le_of_lt_succ hfix
    have hsame : d.toUInt8.toUInt64 = d.toUInt64 := by
      apply UInt64.toNat_inj.mp
      rw [UInt8.toNat_toUInt64, UInt32.toNat_toUInt64, hbyte]
    rw [singleton_append, token_cons, content, if_pos hhdr, hsame]
    rfl
  · have h8 : d.toNat < 256 := UInt32.lt_iff_toNat_lt.mp h8
    rw [hval]
    exact token_load 1 (fun n => .value (.positiveInteger (.ofNat n))) rfl h8 rest
  · have h16 : d.toNat < 65536 := UInt32.lt_iff_toNat_lt.mp h16
    rw [hval]
    exact token_load 2 (fun n => .value (.positiveInteger (.ofNat n))) rfl h16 rest
  · rw [hval]
    exact token_load 4 (fun n => .value (.positiveInteger (.ofNat n))) rfl d.toNat_lt rest

theorem token_packBoolean (b : Bool) (rest : List UInt8) :
    token.run (packBoolean b ++ rest) = some (.value (.boolean b), rest) := by
  cases b <;> rfl

theorem content_fixRaw {l : Nat} (h : l < 32) : content (0xa0 ||| .ofNat l) = rawValue l := by
  have hhdr : ∀ l < 32, ¬(0xa0 ||| UInt8.ofNat l) ≤ 0x9f ∧ (0xa0 ||| UInt8.ofNat l) ≤ 0xbf ∧
      ((0xa0 ||| UInt8.ofNat l) &&& 0x1f).toNat = l := by decide
  obtain ⟨hlow, hhigh, hsize⟩ := hhdr l h
  have hmap : ¬(0xa0 ||| UInt8.ofNat l) ≤ 0x8f := fun hle => hlow (UInt8.le_trans hle (by decide))
  have hfix : ¬(0xa0 ||| UInt8.ofNat l) ≤ 0x7f := fun hle => hlow (UInt8.le_trans hle (by decide))
  rw [content, if_neg hfix, if_neg hmap, if_neg hlow, if_pos hhigh, hsize]

theorem content_fixArray {n : Nat} (h : n < 16) : content (0x90 ||| .ofNat n) = pure (.array n) := by
  have hhdr : ∀ n < 16, ¬(0x90 ||| UInt8.ofNat n) ≤ 0x8f ∧ (0x90 ||| UInt8.ofNat n) ≤ 0x9f ∧
      ((0x90 ||| UInt8.ofNat n) &&& 0x0f).toNat = n := by decide
  obtain ⟨hlow, hhigh, hsize⟩ := hhdr n h
  have hfix : ¬(0x90 ||| UInt8.ofNat n) ≤ 0x7f := fun hle => hlow (UInt8.le_trans hle (by decide))
  rw [content, if_neg hfix, if_neg hlow, if_pos hhigh, hsize]

theorem token_loadRaw {header : UInt8} {width : Nat} (hhdr : content header = load width >>= rawValue)
    {bytes : List UInt8} (h : bytes.length < 256 ^ width) (rest : List UInt8) :
    token.run (header :: store width bytes.length ++ (bytes ++ rest)) = some (.value (.raw bytes), rest) := by
  rw [cons_append, token_cons, hhdr, StateT.run_bind, run_load h]
  exact run_rawValue bytes rest

theorem token_packRaw {bytes : List UInt8} (h : bytes.length < 2 ^ 32) (rest : List UInt8) :
    token.run (packRaw bytes.length ++ (bytes ++ rest)) = some (.value (.raw bytes), rest) := by
  unfold packRaw
  split_ifs with hfix h16
  · rw [singleton_append, token_cons, content_fixRaw hfix]
    exact run_rawValue bytes rest
  · exact token_loadRaw rfl h16 rest
  · exact token_loadRaw rfl h rest

theorem token_packArray {n : Nat} (h : n < 2 ^ 32) (rest : List UInt8) :
    token.run (packArray n ++ rest) = some (.array n, rest) := by
  unfold packArray
  split_ifs with hfix h16
  · rw [singleton_append, token_cons, content_fixArray hfix]
    rfl
  · exact token_load 2 .array rfl h16 rest
  · exact token_load 4 .array rfl h rest

theorem token_packItem {item : Item} (h : ∀ bytes, item = .raw bytes → bytes.length < 2 ^ 32) (rest : List UInt8) :
    token.run (bundled.packItem item ++ rest) = some (.value item.object, rest) := by
  cases item with
  | uint32 value => exact token_packUint32 value rest
  | boolean value => exact token_packBoolean value rest
  | raw bytes =>
    have hraw := token_packRaw (h bytes rfl) rest
    rwa [← append_assoc] at hraw

theorem packItem_length_pos (item : Item) : 0 < (bundled.packItem item).length := by
  cases item with
  | uint32 value =>
    change 0 < (packUint32 value).length
    unfold packUint32
    split_ifs <;> exact Nat.succ_pos _
  | boolean value => cases value <;> decide
  | raw bytes =>
    change 0 < (packRaw bytes.length ++ bytes).length
    unfold packRaw
    split_ifs <;> exact Nat.succ_pos _

theorem execute_items {items : List Item} (hne : items ≠ [])
    (h : ∀ bytes, .raw bytes ∈ items → bytes.length < 2 ^ 32) {fuel : Nat} (hfuel : items.length ≤ fuel)
    (elements : List Object) :
    execute fuel [.array items.length elements] (items.flatMap bundled.packItem) =
      some (.array (elements ++ items.map Item.object)) := by
  induction items generalizing fuel elements with
  | nil => contradiction
  | cons item items ih =>
    obtain ⟨fuel, rfl⟩ : ∃ n, fuel = n + 1 := Nat.exists_eq_succ_of_ne_zero (by simp at hfuel; omega)
    have htoken := token_packItem (fun bytes hitem => h bytes (hitem ▸ mem_cons_self))
      (items.flatMap bundled.packItem)
    cases items with
    | nil => simp_all [execute, shift, push]
    | cons next items =>
      have hrest := ih (cons_ne_nil _ _) (fun bytes hmem => h bytes (mem_cons_of_mem _ hmem))
        (Nat.le_of_succ_le_succ hfuel) (elements ++ [item.object])
      rw [flatMap_cons, execute, htoken]
      simp_all [shift, push]

theorem length_le_flatMap_packItem (items : List Item) :
    items.length ≤ (items.flatMap bundled.packItem).length := by
  induction items with
  | nil => exact Nat.le_refl 0
  | cons item items ih =>
    have hpos := packItem_length_pos item
    rw [flatMap_cons, length_append, length_cons]
    omega

theorem packArray_length_pos (n : Nat) : 0 < (packArray n).length := by
  unfold packArray
  split_ifs <;> exact Nat.succ_pos _

theorem bundled_inverts : bundled.Inverts := by
  intro items hlen hraw
  have hfuel := length_le_flatMap_packItem items
  have htoken := token_packArray hlen (items.flatMap bundled.packItem)
  obtain ⟨fuel, hsize⟩ : ∃ fuel, (packArray items.length).length = fuel + 1 :=
    Nat.exists_eq_succ_of_ne_zero (packArray_length_pos items.length).ne'
  change execute (packArray items.length ++ items.flatMap bundled.packItem).length [] _ = _
  rw [length_append, hsize, Nat.add_right_comm, execute]
  change (token.run (packArray items.length ++ items.flatMap bundled.packItem)).bind _ = _
  rw [htoken, Option.bind_some]
  cases items with
  | nil => rfl
  | cons item items =>
    exact execute_items (cons_ne_nil _ _) hraw (Nat.le_trans hfuel (Nat.le_add_left _ _)) []

end FreeRDS.Msgpack
