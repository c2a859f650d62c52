import FreeRDS.Rpc.Codec

/-! # The unpack functions stay inside of the array

An unpack function is safe on an object if it looks only at elements that are there, each only as what it is, and
succeeds only if every member it unpacks is there. One that asks for as many elements as it unpacks members is always
safe. That of the ChannelEndpointOpen response asks for one too few.
-/

namespace FreeRDS.Rpc.Codec

open Lib Msgpack List ChannelEndpointOpenResponse

/-! ## Safe readings -/

structure Access.Proper (elements : List Object) (access : Access) : Prop where
  inside : access.index < elements.length
  typed : ∀ type ∈ access.via, (elements[access.index]?).map kind = some type

def arrayElements : Option Object → List Object
  | some (.array elements) => elements
  | _ => []

structure Reading.Safe {σ : Type} (object : Option Object) (slots : List (Slot σ)) (reading : Reading σ) : Prop where
  proper : ∀ access ∈ reading.accesses, access.Proper (arrayElements object)
  complete : reading.ok = true → slots.map Slot.kind <+: (arrayElements object).map kind

section

variable {σ : Type}

theorem Slot.kind_of_read {slot : Slot σ} {object : Object} {set : σ → σ} (h : slot.read object = some set) :
    Codec.kind object = slot.kind := by
  cases slot <;> cases object <;> first | rfl | cases h

variable (beyond : Nat → Object) {slots : List (Slot σ)}

variable {elements : List Object}

theorem proper_of_unpackSlots (h : slots.length ≤ elements.length) (passed : List Object) (data : σ) :
    ∀ access ∈ (unpackSlots beyond slots passed.length elements data).accesses,
      access.Proper (passed ++ elements) := by
  induction slots generalizing elements passed data with
  | nil => simp [unpackSlots]
  | cons slot slots ih =>
    cases elements with
    | nil => simp at h
    | cons element elements =>
      have hins : passed.length < (passed ++ element :: elements).length := by simp
      have hfound : (passed ++ element :: elements)[passed.length]? = some element := by simp
      simp only [unpackSlots, headD_cons, tail_cons]
      intro access hmem
      cases hread : slot.read element with
      | none =>
        rw [hread, mem_singleton] at hmem
        subst hmem
        exact ⟨hins, fun type htype => by cases htype⟩
      | some set =>
        simp only [hread, Reading.after, mem_cons] at hmem
        rcases hmem with rfl | hmem
        · refine ⟨hins, fun type htype => ?_⟩
          cases htype
          rw [hfound, Option.map_some, Slot.kind_of_read hread]
        · have hrest := ih (Nat.le_of_succ_le_succ h) (passed ++ [element]) (set data) access
          rw [length_append, append_assoc] at hrest
          exact hrest hmem

theorem prefix_of_unpackSlots (h : slots.length ≤ elements.length) (index : Nat) (data : σ)
    (hok : (unpackSlots beyond slots index elements data).ok = true) :
    slots.map Slot.kind <+: elements.map kind := by
  induction slots generalizing elements index data with
  | nil => exact nil_prefix
  | cons slot slots ih =>
    cases elements with
    | nil => simp at h
    | cons element elements =>
      simp only [unpackSlots, headD_cons, tail_cons] at hok
      cases hread : slot.read element with
      | none => simp [hread] at hok
      | some set =>
        simp only [hread, Reading.after] at hok
        rw [map_cons, map_cons, Slot.kind_of_read hread, prefix_cons_inj]
        exact ih (Nat.le_of_succ_le_succ h) (index + 1) (set data) hok

theorem unpackSlots_append (more : List (Slot σ)) (index : Nat)
    (elements : List Object) (data : σ) (h : (unpackSlots beyond slots index elements data).ok = false) :
    unpackSlots beyond (slots ++ more) index elements data = unpackSlots beyond slots index elements data := by
  induction slots generalizing index elements data with
  | nil => cases h
  | cons slot slots ih =>
    simp only [cons_append, unpackSlots] at h ⊢
    cases hread : slot.read (elements.headD (beyond index)) with
    | none => rfl
    | some set =>
      simp only [hread, Reading.after] at h ⊢
      rw [ih _ _ _ h]

theorem Reading.safe_failed (object : Option Object) (slots : List (Slot σ)) (data : σ) :
    Safe object slots ⟨false, data, []⟩ where
  proper access hmem := by cases hmem
  complete hok := by cases hok

theorem safe_of_le (h : slots.length ≤ elements.length) (data : σ) :
    (unpackSlots beyond slots 0 elements data).Safe (some (.array elements)) slots where
  proper := proper_of_unpackSlots beyond h [] data
  complete := prefix_of_unpackSlots beyond h 0 data

theorem PackFunc.unpack_safe (func : PackFunc σ) (h : func.slots.length ≤ func.min) (beyond : Nat → Object)
    (object : Option Object) (data : σ) : (func.unpack beyond object data).Safe object func.slots := by
  unfold PackFunc.unpack
  split
  · split
    · exact Reading.safe_failed _ _ _
    · rename_i hmin
      exact safe_of_le beyond (Nat.le_trans h (Nat.not_lt.mp hmin)) data
  · exact Reading.safe_failed _ _ _

end

/-! ## Messages -/

theorem MsgType.slots_length_le {type : MsgType} (h : type ≠ .channelEndpointOpenResponse) :
    type.func.slots.length ≤ type.func.min := by
  cases type <;> first | contradiction | decide

theorem ChannelEndpointOpenResponse.not_safe (beyond : Nat → Object) (a b : UInt64)
    (data : ChannelEndpointOpenResponse) :
    ¬(func.unpack beyond (some (.array [.positiveInteger a, .positiveInteger b])) data).Safe
      (some (.array [.positiveInteger a, .positiveInteger b])) func.slots := by
  intro hsafe
  have hthird : ∃ via, ⟨2, via⟩ ∈
      (func.unpack beyond (some (.array [.positiveInteger a, .positiveInteger b])) data).accesses := by
    simp only [func, PackFunc.unpack, unpackSlots, Slot.read, headD_cons, headD_nil, tail_cons]
    cases beyond 2 <;> exact ⟨_, .tail _ (.tail _ (.head _))⟩
  obtain ⟨via, hmem⟩ := hthird
  have hins := (hsafe.proper _ hmem).inside
  exact absurd hins (Nat.lt_irrefl 2)

theorem exists_of_kind {object : Object} (h : kind object = .positiveInteger) : ∃ u64, object = .positiveInteger u64 := by
  cases object <;> first | exact ⟨_, rfl⟩ | cases h

theorem ChannelEndpointOpenResponse.safe_two {first second : Object}
    (h : ¬∃ a b, first = .positiveInteger a ∧ second = .positiveInteger b) (beyond : Nat → Object)
    (data : ChannelEndpointOpenResponse) :
    (unpackSlots beyond func.slots 0 [first, second] data).Safe (some (.array [first, second])) func.slots := by
  have htwo : (func.slots.take 2).length ≤ [first, second].length := Nat.le_refl 2
  have hfail : (unpackSlots beyond (func.slots.take 2) 0 [first, second] data).ok = false := by
    apply Bool.eq_false_iff.mpr
    intro hok
    have hkinds : [.positiveInteger, .positiveInteger] <+: [kind first, kind second] :=
      prefix_of_unpackSlots beyond htwo 0 data hok
    simp only [cons_prefix_cons, prefix_rfl, and_true] at hkinds
    obtain ⟨a, ha⟩ := exists_of_kind hkinds.1.symm
    obtain ⟨b, hb⟩ := exists_of_kind hkinds.2.symm
    exact h ⟨a, b, ha, hb⟩
  have hsame := unpackSlots_append beyond (func.slots.drop 2) 0 [first, second] data hfail
  rw [take_append_drop] at hsame
  rw [hsame]
  exact ⟨proper_of_unpackSlots beyond htwo [] data, fun hok => absurd (hfail.symm.trans hok) Bool.false_ne_true⟩

theorem ChannelEndpointOpenResponse.safe {object : Option Object}
    (h : ¬∃ a b, object = some (.array [.positiveInteger a, .positiveInteger b])) (beyond : Nat → Object)
    (data : ChannelEndpointOpenResponse) : (func.unpack beyond object data).Safe object func.slots := by
  unfold PackFunc.unpack
  split
  · rename_i elements
    split
    · exact Reading.safe_failed _ _ _
    · rename_i hmin
      match elements, hmin with
      | [first, second], _ =>
        apply safe_two
        intro ⟨a, b, hfirst, hsecond⟩
        exact h ⟨a, b, by rw [hfirst, hsecond]⟩
      | first :: second :: third :: elements, _ => exact safe_of_le beyond (by simp [func]) data
      | [_], hmin => exact absurd Nat.one_lt_two hmin
      | [], hmin => exact absurd Nat.two_pos hmin
  · exact Reading.safe_failed _ _ _

/-- The unpack functions are safe on every object but one for the ChannelEndpointOpen response: an array of two numbers. -/
theorem rpcMsgUnpack_safe_iff (library : Library) (beyond : Nat → Object) (type : MsgType) (data : Memory)
    (buffer : List UInt8) (size : UInt32) :
    (∃ reading, rpcMsgUnpack library beyond type.msgType data buffer size = some ⟨type, reading⟩ ∧
        reading.Safe (library.unpackNext (buffer.take size.toNat)) type.func.slots) ↔
      ¬(type = .channelEndpointOpenResponse ∧
        ∃ a b, library.unpackNext (buffer.take size.toNat) = some (.array [.positiveInteger a, .positiveInteger b])) := by
  have hfind : rpcMsgUnpack library beyond type.msgType data buffer size =
      some ⟨type, type.func.unpack beyond (library.unpackNext (buffer.take size.toNat)) (data type)⟩ := by
    rw [rpcMsgUnpack, type.find_msgType]
    rfl
  rw [hfind]
  constructor
  · intro ⟨reading, hreading, hsafe⟩ ⟨htype, a, b, hobject⟩
    subst htype
    cases hreading
    rw [hobject] at hsafe
    exact not_safe beyond a b _ hsafe
  · intro h
    refine ⟨_, rfl, ?_⟩
    by_cases htype : type = .channelEndpointOpenResponse
    · subst htype
      exact safe (fun hobject => h ⟨rfl, hobject⟩) beyond _
    · exact type.func.unpack_safe (MsgType.slots_length_le htype) beyond _ _

/-- The bytes of an array of two numbers. -/
theorem rpcMsgUnpack_two_numbers :
    ∃ reading, rpcMsgUnpack bundled (fun _ => .nil) (responseId 1009) zeroMemory [0x92, 0x00, 0x01] 3 =
        some ⟨.channelEndpointOpenResponse, reading⟩ ∧
      ¬reading.Safe (bundled.unpackNext [0x92, 0x00, 0x01]) MsgType.channelEndpointOpenResponse.func.slots :=
  ⟨_, rfl, not_safe _ 0 1 _⟩

end FreeRDS.Rpc.Codec
