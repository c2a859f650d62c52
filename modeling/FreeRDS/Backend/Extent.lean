import FreeRDS.Backend.RoundTrip
import FreeRDS.Backend.Dispatch

/-! # How far a reader reaches

The stream of a reader goes on to the end of the buffer, and the checks of the readers are made against that. What
lies behind the message is left from others. Here is what of a stream each reader takes, and which members it leaves as
they were.
-/

namespace FreeRDS.Backend

open Lib Wire Layout List Option Item Pointer

/-! ## Readers on a stream of which the front is known -/

section

variable {β : Type} (receive : List UInt8 → β → Option β) (body : List UInt8) (size : Nat)

/-- The struct does not depend on what is behind the body in a stream of a given size. -/
def Determined : Prop :=
  ∀ memory tail tail', (body ++ tail).length = size → (body ++ tail').length = size →
    ∃ msg, receive (body ++ tail) memory = some msg ∧ receive (body ++ tail') memory = some msg

def Independent : Prop :=
  ∀ memory memory' tail tail', (body ++ tail).length = size → (body ++ tail').length = size →
    ∃ msg, receive (body ++ tail) memory = some msg ∧ receive (body ++ tail') memory' = some msg

end

section

variable {β : Type} {receive : List UInt8 → β → Option β} {body : List UInt8} {size : Nat}

def padded (body : List UInt8) (size : Nat) (byte : UInt8) : List UInt8 :=
  body ++ List.replicate (size - body.length) byte

section

variable (h : body.length ≤ size)

include h

theorem padded_length (byte : UInt8) : (padded body size byte).length = size := by
  rw [padded, length_append, length_replicate]
  omega

theorem getElem?_padded {i : Nat} (hi : i < size) (hbody : body.length ≤ i) (byte : UInt8) :
    (padded body size byte)[i]? = some byte := by
  rw [padded, getElem?_append_right hbody, getElem?_replicate, if_pos (by omega)]

theorem le_of_slice_padded {start n : Nat} (hpos : 0 < n) (hn : start + n ≤ size)
    (heq : ((padded body size 0).drop start).take n = ((padded body size 0xFF).drop start).take n) :
    start + n ≤ body.length := by
  by_contra hlt
  have hget := congrArg (fun l : List UInt8 => l[n - 1]?) heq
  have hlast (byte : UInt8) : (((padded body size byte).drop start).take n)[n - 1]? = some byte := by
    rw [getElem?_take, if_pos (by omega), getElem?_drop, getElem?_padded h (by omega) (by omega)]
  rw [hlast, hlast] at hget
  exact absurd (some.inj hget) (by decide)

theorem le_of_data_padded {start n : Nat} (hstart : start ≤ body.length)
    (hn : start + n ≤ size)
    (heq : ((padded body size 0).drop start).take n = ((padded body size 0xFF).drop start).take n) :
    start + n ≤ body.length := by
  cases n with
  | zero => exact hstart
  | succ n => exact le_of_slice_padded h n.succ_pos hn heq

end

section

variable (widths : List Nat) (hwidths : ∀ width ∈ widths, width ≤ 4) (hpos : 0 < widths.sum) (h : body.length ≤ size)

include hwidths hpos h

theorem le_of_numbers_padded {start : Nat} (hn : start + widths.sum ≤ size)
    (heq : numbers widths ((padded body size 0).drop start) = numbers widths ((padded body size 0xFF).drop start)) :
    start + widths.sum ≤ body.length := by
  have hlen (byte : UInt8) : widths.sum ≤ ((padded body size byte).drop start).length := by
    rw [length_drop, padded_length h]
    omega
  exact le_of_slice_padded h hpos hn (numbers_inj hwidths (hlen 0) (hlen 0xFF) heq)

theorem le_of_first_numbers_padded (hn : widths.sum ≤ size)
    (heq : numbers widths (padded body size 0) = numbers widths (padded body size 0xFF)) :
    widths.sum ≤ body.length := by
  have hle := @le_of_numbers_padded _ _ widths hwidths hpos h 0 (by rwa [Nat.zero_add]) heq
  rwa [Nat.zero_add] at hle

end

theorem drop_padded {start : Nat} (h : start ≤ body.length) (byte : UInt8) :
    body.drop start ++ List.replicate (size - body.length) byte = (padded body size byte).drop start := by
  rw [padded, drop_append_of_le_length h]

theorem Determined.padded (h : Determined receive body size) (hbody : body.length ≤ size) (memory : β) :
    ∃ msg, receive (padded body size 0) memory = some msg ∧ receive (padded body size 0xFF) memory = some msg :=
  h memory _ _ (padded_length hbody 0) (padded_length hbody 0xFF)

theorem determined_of_forall
    (h : ∀ memory, ∃ msg, ∀ tail, (body ++ tail).length = size → receive (body ++ tail) memory = some msg) :
    Determined receive body size := by
  intro memory tail tail' htail htail'
  obtain ⟨msg, hmsg⟩ := h memory
  exact ⟨msg, hmsg tail htail, hmsg tail' htail'⟩

theorem not_independent_of_kept (keep : β → UInt32)
    (hkeep : ∀ stream memory msg, receive stream memory = some msg → keep msg = keep memory) (memory memory' : β)
    (hne : keep memory ≠ keep memory') (hbody : body.length ≤ size) : ¬Independent receive body size := by
  intro h
  obtain ⟨msg, hmsg, hmsg'⟩ := h memory memory' _ _ (padded_length hbody 0) (padded_length hbody 0)
  exact hne ((hkeep _ _ _ hmsg).symm.trans (hkeep _ _ _ hmsg'))

theorem Independent.determined (h : Independent receive body size) : Determined receive body size :=
  fun memory => h memory memory

end

/-! ## Rows of numbers -/

section

variable {β : Type} {record : Record β} {body : List UInt8} {size : Nat}

def receiveRecord (need : Nat) (record : Record β) (stream : List UInt8) (memory : β) : Option β :=
  (readRecord need record stream memory).map Reading.body

theorem assigned_append (h : Layout.size record.slots ≤ body.length) (tail : List UInt8) (memory : β) :
    record.assigned (body ++ tail) memory = record.assigned body memory := by
  rw [Record.assigned, numbers_append (by rwa [← record.size_slots]), Record.assigned]

theorem receiveRecord_of_le {stream : List UInt8} (h : Layout.size record.slots ≤ stream.length) (memory : β) :
    receiveRecord (Layout.size record.slots) record stream memory = some (record.assigned stream memory) := by
  rw [receiveRecord, Format.readRecord_of_le memory h, map_some]

variable (record : Record β)

section

variable [Inhabited β] (hwidths : ∀ width ∈ record.items.map Item.width, width ≤ 4)

include hwidths

theorem record_determined_iff (hbody : body.length ≤ size) (hsize : Layout.size record.slots ≤ size) :
    Determined (receiveRecord (Layout.size record.slots) record) body size ↔
      Layout.size record.slots ≤ body.length := by
  constructor
  · intro h
    obtain ⟨msg, hzeros, hones⟩ := h.padded hbody default
    rw [receiveRecord_of_le (by rwa [padded_length hbody])] at hzeros hones
    have hsame := congrArg record.members (some.inj (hzeros.trans hones.symm))
    rw [record.members_assigned, record.members_assigned] at hsame
    rw [record.size_slots] at hsize ⊢
    rcases Nat.eq_zero_or_pos (record.items.map width).sum with hzero | hpos
    · rw [hzero]
      exact Nat.zero_le _
    · exact le_of_first_numbers_padded _ hwidths hpos hbody hsize hsame
  · intro h
    apply determined_of_forall
    intro memory
    refine ⟨record.assigned body memory, fun tail htail => ?_⟩
    rw [receiveRecord_of_le (by rw [htail]; exact hsize), assigned_append h]

theorem record_iff (hall : ∀ bytes memory memory', record.assigned bytes memory = record.assigned bytes memory')
    (hbody : body.length ≤ size) (hsize : Layout.size record.slots ≤ size) :
    (Determined (receiveRecord (Layout.size record.slots) record) body size ↔
        Layout.size record.slots ≤ body.length) ∧
      (Independent (receiveRecord (Layout.size record.slots) record) body size ↔
        Layout.size record.slots ≤ body.length) := by
  have hiff := record_determined_iff record hwidths hbody hsize
  refine ⟨hiff, fun h => hiff.mp h.determined, fun h memory memory' tail tail' htail htail' => ?_⟩
  have hle : Layout.size record.slots ≤ (body ++ tail').length := by rwa [htail']
  have hsame : receiveRecord (Layout.size record.slots) record (body ++ tail') memory' =
      receiveRecord (Layout.size record.slots) record (body ++ tail') memory := by
    rw [receiveRecord_of_le hle, receiveRecord_of_le hle, hall _ memory' memory]
  rw [hsame]
  exact hiff.mpr h memory tail tail' htail htail'

end

theorem record_not_independent (keep : β → UInt32)
    (hkeep : ∀ bytes memory, keep (record.assigned bytes memory) = keep memory) (memory memory' : β)
    (hne : keep memory ≠ keep memory') (hbody : body.length ≤ size) :
    ¬Independent (receiveRecord (Layout.size record.slots) record) body size := by
  refine not_independent_of_kept keep (fun stream memory msg hmsg => ?_) memory memory' hne hbody
  by_cases hle : Layout.size record.slots ≤ stream.length
  · rw [receiveRecord_of_le hle] at hmsg
    rw [← some.inj hmsg, hkeep]
  · rw [receiveRecord, readRecord, require, if_pos (by omega)] at hmsg
    rw [← some.inj hmsg]

end

/-- The number behind the first `start` bytes. -/
def number (bytes : List UInt8) (start width : Nat) : Nat := ofBytes ((bytes.drop start).take width)

theorem toNat_ofNat_number {width : Nat} (h : width ≤ 4) (bytes : List UInt8) (start : Nat) :
    (UInt32.ofNat (ofBytes ((bytes.drop start).take width))).toNat = number bytes start width := by
  have hlt : ofBytes ((bytes.drop start).take width) < 2 ^ 32 := by
    calc
      ofBytes ((bytes.drop start).take width) < 256 ^ ((bytes.drop start).take width).length := ofBytes_lt _
      _ ≤ 256 ^ 4 := Nat.pow_le_pow_right (by decide) (by rw [length_take]; omega)
  rw [UInt32.toNat_ofNat_of_lt' hlt, number]

theorem number_append {bytes : List UInt8} {start width : Nat} (h : start + width ≤ bytes.length) (tail : List UInt8) :
    number (bytes ++ tail) start width = number bytes start width := by
  rw [number, drop_append_of_le_length (by omega), take_append_of_le_length (by rw [length_drop]; omega),
    number]

theorem number_drop (bytes : List UInt8) (start start' width : Nat) :
    number (bytes.drop start) start' width = number bytes (start + start') width := by
  rw [number, drop_drop, number]

/-- The numbers of a row stand behind each other. -/
theorem toNat_numbers {widths : List Nat} (h : ∀ width ∈ widths, width ≤ 4) (bytes : List UInt8) (i : Nat) :
    ((numbers widths bytes).getD i 0).toNat = number bytes (widths.take i).sum (widths.getD i 0) := by
  induction widths generalizing bytes i with
  | nil => simp [numbers, number, ofBytes]
  | cons width widths ih =>
    rw [forall_mem_cons] at h
    cases i with
    | zero => exact toNat_ofNat_number h.1 bytes 0
    | succ i =>
      rw [take_succ_cons, sum_cons, ← number_drop]
      exact ih h.2 (bytes.drop width) i

/-! ## Pointers -/

namespace SetPointer

variable {body : List UInt8} {size : Nat}

def receive (stream : List UInt8) (memory : SetPointer) : Option SetPointer :=
  (readSetPointer stream memory).map Reading.body

/-- The numbers are in the body, and so is each mask, unless it is too long for the buffer. -/
def Within (body : List UInt8) (size : Nat) : Prop :=
  10 ≤ body.length ∧
    (size < 10 + number body 6 2 ∨
      10 + number body 6 2 ≤ body.length ∧
        (size < 10 + number body 6 2 + number body 8 2 ∨
          10 + number body 6 2 + number body 8 2 ≤ body.length))

theorem lengthXorMask_assigned (memory : SetPointer) :
    (record.assigned body memory).lengthXorMask.toNat = number body 6 2 :=
  @toNat_numbers (record.items.map Item.width) (by decide) body 3

theorem lengthAndMask_assigned (memory : SetPointer) :
    (record.assigned body memory).lengthAndMask.toNat = number body 8 2 :=
  @toNat_numbers (record.items.map Item.width) (by decide) body 4

theorem receive_append (h : 10 ≤ body.length) (tail : List UInt8) (memory : SetPointer) :
    receive (body ++ tail) memory =
      some (if (body.drop 10 ++ tail).length < number body 6 2 then record.assigned body memory
        else if ((body.drop 10 ++ tail).drop (number body 6 2)).length < number body 8 2 then
          { record.assigned body memory with xorMaskData := .data ((body.drop 10 ++ tail).take (number body 6 2)) }
        else
          (record.assigned body memory).withMasks ((body.drop 10 ++ tail).take (number body 6 2))
            (((body.drop 10 ++ tail).drop (number body 6 2)).take (number body 8 2))) := by
  have hlen : 10 ≤ (body ++ tail).length := by
    rw [length_append]
    omega
  have hsize : Layout.size record.slots = 10 := rfl
  rw [receive, readSetPointer, require_of_le hlen, record.readSlots_eq memory (by rwa [hsize]),
    assigned_append (by rwa [hsize]), hsize, drop_append_of_le_length h]
  simp only [bind_eq_bind, bind_some, require, lengthXorMask_assigned, lengthAndMask_assigned]
  split
  next => rfl
  next =>
    split <;> rfl

theorem determined_of_within (h : Within body size) : Determined receive body size := by
  obtain ⟨hnums, hmasks⟩ := h
  apply determined_of_forall
  intro memory
  have hrest (tail : List UInt8) (htail : (body ++ tail).length = size) :
      (body.drop 10 ++ tail).length = size - 10 := by
    rw [length_append] at htail ⊢
    rw [length_drop]
    omega
  rcases hmasks with hlong | ⟨hxor, hmask⟩
  · refine ⟨record.assigned body memory, fun tail htail => ?_⟩
    have hlen := hrest tail htail
    rw [length_append] at htail
    rw [receive_append hnums, if_pos (by omega)]
  · have htake (tail : List UInt8) :
        (body.drop 10 ++ tail).take (number body 6 2) = (body.drop 10).take (number body 6 2) :=
      take_append_of_le_length (by rw [length_drop]; omega)
    have hdrop (tail : List UInt8) : (body.drop 10 ++ tail).drop (number body 6 2) =
        (body.drop 10).drop (number body 6 2) ++ tail :=
      drop_append_of_le_length (by rw [length_drop]; omega)
    rcases hmask with hlong | hand
    · refine ⟨{ record.assigned body memory with
        xorMaskData := .data ((body.drop 10).take (number body 6 2)) }, fun tail htail => ?_⟩
      have hlen := hrest tail htail
      rw [length_append] at htail
      rw [receive_append hnums, if_neg (by omega), if_pos (by rw [length_drop]; omega), htake]
    · refine ⟨(record.assigned body memory).withMasks ((body.drop 10).take (number body 6 2))
        (((body.drop 10).drop (number body 6 2)).take (number body 8 2)), fun tail htail => ?_⟩
      have hlen := hrest tail htail
      rw [length_append] at htail
      rw [receive_append hnums, if_neg (by omega), if_neg (by rw [length_drop]; omega), htake, hdrop,
        take_append_of_le_length (by rw [length_drop, length_drop]; omega)]

theorem within_of_determined (hbody : body.length ≤ size) (hsize : 10 ≤ size) (h : Determined receive body size) :
    Within body size := by
  obtain ⟨msg, hzeros, hones⟩ := h.padded hbody default
  have hmbrs {byte : UInt8} (hread : receive (padded body size byte) default = some msg) :
      record.members msg = numbers (record.items.map Item.width) (padded body size byte) := by
    obtain ⟨reading, hreading, rfl⟩ := map_eq_some_iff.mp hread
    exact members_readSetPointer (by rw [padded_length hbody]; exact hsize) hreading
  have hsame := (hmbrs hzeros).symm.trans (hmbrs hones)
  have hnums : 10 ≤ body.length :=
    le_of_first_numbers_padded (record.items.map Item.width) (by decide) (by decide) hbody hsize hsame
  refine ⟨hnums, ?_⟩
  rw [padded, receive_append hnums, drop_padded hnums] at hzeros hones
  simp only [length_drop, padded_length hbody] at hzeros hones
  by_cases hxor : size < 10 + number body 6 2
  · exact .inl hxor
  · rw [if_neg (by omega)] at hzeros hones
    by_cases hand : size < 10 + number body 6 2 + number body 8 2
    · rw [if_pos (by omega)] at hzeros hones
      have hmask := congrArg xorMaskData (some.inj (hzeros.trans hones.symm))
      exact .inr ⟨le_of_data_padded hbody hnums (by omega) (data.inj hmask), .inl hand⟩
    · rw [if_neg (by omega)] at hzeros hones
      have hsame := some.inj (hzeros.trans hones.symm)
      have hxorMask := data.inj (congrArg xorMaskData hsame)
      have handMask := data.inj (congrArg andMaskData hsame)
      have hins := le_of_data_padded hbody hnums (by omega) hxorMask
      rw [drop_drop, drop_drop] at handMask
      exact .inr ⟨hins, .inr (le_of_data_padded hbody hins (by omega) handMask)⟩

theorem determined_iff (hbody : body.length ≤ size) (hsize : 10 ≤ size) :
    Determined receive body size ↔ Within body size :=
  ⟨within_of_determined hbody hsize, determined_of_within⟩

theorem width_receive {stream : List UInt8} {memory msg : SetPointer} (h : receive stream memory = some msg) :
    msg.width = memory.width := by
  obtain ⟨reading, hreading, rfl⟩ := map_eq_some_iff.mp h
  by_cases hle : 10 ≤ stream.length
  · rw [readSetPointer, require_of_le hle, record.readSlots_eq memory hle] at hreading
    simp only [bind_eq_bind, bind_some, require] at hreading
    split at hreading
    next => cases hreading; rfl
    next =>
      split at hreading <;> (cases hreading; rfl)
  · rw [readSetPointer, require, if_pos (by omega)] at hreading
    cases hreading
    rfl

theorem not_independent (hbody : body.length ≤ size) : ¬Independent receive body size :=
  not_independent_of_kept width (fun _ _ _ => width_receive) { (default : SetPointer) with width := 0 }
    { (default : SetPointer) with width := 1 } (by decide) hbody

end SetPointer

namespace PatBlt

variable {body : List UInt8} {size : Nat}

def receive (stream : List UInt8) (memory : PatBlt) : Option PatBlt := (readPatBlt stream memory).map Reading.body

theorem not_determined (hbody : body.length ≤ size) (hsize : 60 ≤ size) : ¬Determined receive body size := by
  intro h
  obtain ⟨msg, hzeros, -⟩ := h.padded hbody default
  rw [receive, readPatBlt_of_le (by rwa [padded_length hbody])] at hzeros
  cases hzeros

end PatBlt

/-! ## Users -/

def readText (count : Nat) (stream : List UInt8) : Pointer (List UInt8) :=
  if count = 0 then .null else .data (stream.take count)

theorem readString_eq_some {length : UInt32} {stream rest : List UInt8} {text : Pointer (List UInt8)}
    (h : readString length stream = some (text, rest)) :
    length.toNat ≤ stream.length ∧ text = readText length.toNat stream ∧ rest = stream.drop length.toNat := by
  unfold readString at h
  split at h
  next hzero =>
    cases h
    simp [hzero, readText]
  next hzero =>
    have hne : length.toNat ≠ 0 := fun h => hzero (UInt32.toNat_inj.mp h)
    split at h
    next => cases h
    next =>
      split at h
      next => cases h
      next hle =>
        cases h
        exact ⟨by omega, by rw [readText, if_neg hne], rfl⟩

variable {count : Nat}

theorem readText_inj {stream stream' : List UInt8} (h : readText count stream = readText count stream') :
    stream.take count = stream'.take count := by
  unfold readText at h
  split at h
  next hzero => simp [hzero]
  next => exact data.inj h

theorem readString_append {length : UInt32} {front : List UInt8} (h : length.toNat ≤ front.length)
    (hfront : front.length < 2 ^ 32 - 1) (tail : List UInt8) :
    readString length (front ++ tail) =
      some (readText length.toNat front, front.drop length.toNat ++ tail) := by
  unfold readString readText
  by_cases hzero : length = 0
  · simp [hzero]
  · have hne : length.toNat ≠ 0 := fun h => hzero (UInt32.toNat_inj.mp h)
    have hwrap : length + 1 ≠ 0 := by
      rw [ne_eq, ← UInt32.toNat_inj, UInt32.toNat_add, UInt32.toNat_zero, UInt32.toNat_one]
      omega
    rw [if_neg hzero, if_neg hwrap, if_neg (by rw [length_append]; omega), if_neg hne,
      take_append_of_le_length h, drop_append_of_le_length h]

namespace LogonUser

variable {body : List UInt8} {size : Nat}

def receive (stream : List UInt8) (memory : LogonUser) : Option LogonUser :=
  (readLogonUser stream memory).map Reading.body

def Within (body : List UInt8) : Prop :=
  16 ≤ body.length ∧ 16 + number body 4 4 + number body 8 4 + number body 12 4 ≤ body.length

variable (memory : LogonUser)

theorem userLength_assigned :
    (record.assigned body memory).userLength.toNat = number body 4 4 :=
  @toNat_numbers (record.items.map width) (by decide) body 1

theorem domainLength_assigned :
    (record.assigned body memory).domainLength.toNat = number body 8 4 :=
  @toNat_numbers (record.items.map width) (by decide) body 2

theorem passwordLength_assigned :
    (record.assigned body memory).passwordLength.toNat = number body 12 4 :=
  @toNat_numbers (record.items.map width) (by decide) body 3

theorem receive_eq {stream : List UInt8} (h : 16 ≤ stream.length) (memory : LogonUser) :
    receive stream memory =
      (readString (record.assigned stream memory).userLength (stream.drop 16)).bind fun user =>
        (readString (record.assigned stream memory).domainLength user.2).bind fun domain =>
          (readString (record.assigned stream memory).passwordLength domain.2).bind fun password =>
            some { record.assigned stream memory with
              user := user.1, domain := domain.1, password := password.1 } := by
  have hread := readLogonUser_of_readSlots (record.readSlots_eq memory h)
  rw [receive, hread, map_bind]
  congr 1
  funext user
  rw [Function.comp, map_bind]
  congr 1
  funext domain
  rw [Function.comp, map_bind]
  rfl

theorem independent_of_within (hsize : size ≤ capacity) (hbody : body.length ≤ size) (h : Within body) :
    Independent receive body size := by
  obtain ⟨hnums, hstrs⟩ := h
  have hfront : body.length < 2 ^ 32 - 1 := by
    unfold capacity at hsize
    omega
  have hread (memory : LogonUser) (tail : List UInt8) : receive (body ++ tail) memory =
      some { record.assigned body default with
        user := readText (number body 4 4) (body.drop 16)
        domain := readText (number body 8 4) ((body.drop 16).drop (number body 4 4))
        password := readText (number body 12 4) (((body.drop 16).drop (number body 4 4)).drop (number body 8 4)) } := by
    have hasg : record.assigned (body ++ tail) memory = record.assigned body memory :=
      @assigned_append _ record _ hnums tail memory
    rw [receive_eq (by rw [length_append]; omega), hasg, drop_append_of_le_length hnums,
      readString_append (by rw [userLength_assigned, length_drop]; omega) (by rw [length_drop]; omega),
      bind_some, userLength_assigned,
      readString_append (by rw [domainLength_assigned, length_drop, length_drop]; omega)
        (by rw [length_drop, length_drop]; omega),
      bind_some, domainLength_assigned,
      readString_append (by rw [passwordLength_assigned, length_drop, length_drop, length_drop]; omega)
        (by rw [length_drop, length_drop, length_drop]; omega),
      bind_some, passwordLength_assigned]
    rfl
  intro memory memory' tail tail' _ _
  exact ⟨_, hread memory tail, hread memory' tail'⟩

theorem receive_eq_some {stream : List UInt8} {memory msg : LogonUser} (h : 16 ≤ stream.length)
    (hmsg : receive stream memory = some msg) :
    record.members msg = numbers (record.items.map Item.width) stream ∧
      16 + number stream 4 4 + number stream 8 4 + number stream 12 4 ≤ stream.length ∧
      msg.user = readText (number stream 4 4) (stream.drop 16) ∧
      msg.domain = readText (number stream 8 4) (stream.drop (16 + number stream 4 4)) ∧
      msg.password = readText (number stream 12 4) (stream.drop (16 + number stream 4 4 + number stream 8 4)) := by
  rw [receive_eq h] at hmsg
  obtain ⟨⟨user, rest⟩, huser, hmsg⟩ := bind_eq_some_iff.mp hmsg
  obtain ⟨⟨domain, rest'⟩, hdom, hmsg⟩ := bind_eq_some_iff.mp hmsg
  obtain ⟨⟨password, rest''⟩, hpass, hmsg⟩ := bind_eq_some_iff.mp hmsg
  obtain ⟨huserLe, rfl, rfl⟩ := readString_eq_some huser
  obtain ⟨hdomLe, rfl, rfl⟩ := readString_eq_some hdom
  obtain ⟨hpassLe, rfl, -⟩ := readString_eq_some hpass
  obtain rfl := some.inj hmsg
  simp only [userLength_assigned, domainLength_assigned, passwordLength_assigned, drop_drop,
    length_drop] at huserLe hdomLe hpassLe ⊢
  exact ⟨record.members_assigned stream memory, by omega, trivial, trivial, trivial⟩

theorem within_of_determined (hbody : body.length ≤ size) (hsize : 16 ≤ size) (h : Determined receive body size) :
    Within body := by
  obtain ⟨msg, hzeros, hones⟩ := h.padded hbody default
  have hlen (byte : UInt8) : 16 ≤ (padded body size byte).length := by rwa [padded_length hbody]
  obtain ⟨hmbrs, hle, huser, hdom, hpass⟩ := receive_eq_some (hlen 0) hzeros
  obtain ⟨hmbrs', -, huser', hdom', hpass'⟩ := receive_eq_some (hlen 0xFF) hones
  have hnums : 16 ≤ body.length :=
    le_of_first_numbers_padded (record.items.map width) (by decide) (by decide) hbody hsize
      (hmbrs.symm.trans hmbrs')
  have hnum (byte : UInt8) {start : Nat} (hstart : start + 4 ≤ 16) :
      number (padded body size byte) start 4 = number body start 4 := number_append (hstart.trans hnums) _
  simp only [hnum _ (show 4 + 4 ≤ 16 by decide), hnum _ (show 8 + 4 ≤ 16 by decide),
    hnum _ (show 12 + 4 ≤ 16 by decide), padded_length hbody] at hle huser hdom hpass huser' hdom' hpass'
  have huserLe := le_of_data_padded hbody hnums (by omega) (readText_inj (huser.symm.trans huser'))
  have hdomLe := le_of_data_padded hbody huserLe (by omega) (readText_inj (hdom.symm.trans hdom'))
  have hpassLe := le_of_data_padded hbody hdomLe (by omega) (readText_inj (hpass.symm.trans hpass'))
  exact ⟨hnums, hpassLe⟩

end LogonUser

/-! ## Rectangles to paint -/

namespace PaintRect

variable {body : List UInt8} {size : Nat}

def targetRecord : Record PaintRect where
  slots := target
  items := [⟨2, (·.nLeftRect)⟩, ⟨2, (·.nTopRect)⟩, ⟨2, (·.nWidth)⟩, ⟨2, (·.nHeight)⟩, ⟨4, (·.bitmapDataLength)⟩]

def segmentRecord : Record PaintRect where
  slots := segment
  items := [⟨4, (·.fbSegmentId)⟩]

def sourceRecord : Record PaintRect where
  slots := source
  items := [⟨2, (·.nWidth)⟩, ⟨2, (·.nHeight)⟩, ⟨2, (·.nXSrc)⟩, ⟨2, (·.nYSrc)⟩]

variable (stream : List UInt8)

def receive (memory : PaintRect) : Option PaintRect :=
  (readPaintRect stream memory.detached).map fun reading => reading.body.attached

/-- The numbers are in the body, and so is the bitmap, unless it is too long for the buffer. -/
def Within (body : List UInt8) (size : Nat) : Prop :=
  12 ≤ body.length ∧
    if number body 8 4 = 0 then 24 ≤ body.length
    else
      size < 12 + number body 8 4 ∨
        12 + number body 8 4 ≤ body.length ∧ (size < 20 + number body 8 4 ∨ 20 + number body 8 4 ≤ body.length)

variable (msg : PaintRect)

def withBitmap (data : List UInt8) : PaintRect := { msg with bitmapData := .data data }

def rest : PaintRect :=
  if number stream 8 4 = 0 then
    sourceRecord.assigned (stream.drop 16) (segmentRecord.assigned (stream.drop 12) msg)
  else if stream.length < 12 + number stream 8 4 then msg
  else if stream.length < 20 + number stream 8 4 then msg.withBitmap ((stream.drop 12).take (number stream 8 4))
  else
    sourceRecord.assigned (stream.drop (12 + number stream 8 4))
      (msg.withBitmap ((stream.drop 12).take (number stream 8 4)))

theorem bitmapDataLength_assigned (memory : PaintRect) :
    (targetRecord.assigned stream memory).bitmapDataLength.toNat = number stream 8 4 :=
  @toNat_numbers (targetRecord.items.map width) (by decide) stream 4

theorem readPaintRectSource_body :
    (readPaintRectSource stream msg).map Reading.body =
      some (if stream.length < 8 then msg else sourceRecord.assigned stream msg) := by
  unfold readPaintRectSource require
  split
  next => rfl
  next h =>
    have hread := sourceRecord.readSlots_eq msg (Nat.le_of_not_lt h)
    have hslots : sourceRecord.slots = source := rfl
    rw [hslots] at hread
    rw [hread]
    rfl

theorem receive_eq {stream : List UInt8} (h : 24 ≤ stream.length) (memory : PaintRect) :
    receive stream memory = some (rest stream (targetRecord.assigned stream memory.detached)).attached := by
  have htarget := targetRecord.readSlots_eq memory.detached (show 12 ≤ stream.length by omega)
  have hslots : targetRecord.slots = target := rfl
  have hsize : Layout.size target = 12 := rfl
  rw [hslots, hsize] at htarget
  have hbody : (readPaintRect stream memory.detached).map Reading.body =
      some (rest stream (targetRecord.assigned stream memory.detached)) := by
    have hcnt := bitmapDataLength_assigned stream memory.detached
    rw [readPaintRect, require_of_le (by omega), htarget]
    simp only [Option.bind_eq_bind, Option.bind_some]
    generalize targetRecord.assigned stream memory.detached = msg at hcnt ⊢
    by_cases hzero : msg.bitmapDataLength = 0
    · have hnum : number stream 8 4 = 0 := by
        rw [← hcnt, hzero]
        rfl
      have hseg := segmentRecord.readSlots_eq msg (show 4 ≤ (stream.drop 12).length by rw [length_drop]; omega)
      have hslots : segmentRecord.slots = segment := rfl
      have hsize : Layout.size segment = 4 := rfl
      rw [hslots, hsize] at hseg
      rw [if_neg (not_not.mpr hzero), require_of_le (by rw [length_drop]; omega), hseg, Option.bind_some,
        readPaintRectSource_body, drop_drop, if_neg (by rw [length_drop]; omega), rest, if_pos hnum]
    · have hnum : number stream 8 4 ≠ 0 := by
        rw [← hcnt]
        exact fun h => hzero (UInt32.toNat_inj.mp h)
      rw [if_pos hzero, hcnt, require, rest, if_neg hnum, length_drop]
      by_cases hlong : stream.length < 12 + number stream 8 4
      · rw [if_pos (by omega), if_pos hlong]
        rfl
      · rw [if_neg (by omega), if_neg hlong, readPaintRectSource_body, drop_drop, length_drop]
        by_cases hshort : stream.length < 20 + number stream 8 4
        · rw [if_pos (by omega), if_pos hshort]
          rfl
        · rw [if_neg (by omega), if_neg hshort]
          rfl
  have hmap : receive stream memory = ((readPaintRect stream memory.detached).map Reading.body).map attached := by
    rw [Option.map_map]
    rfl
  rw [hmap, hbody, Option.map_some]

theorem attached_members :
    msg.attached.bitmapDataLength = msg.bitmapDataLength ∧ msg.attached.bitmapData = msg.bitmapData ∧
      msg.attached.fbSegmentId = msg.fbSegmentId ∧ sourceRecord.members msg.attached = sourceRecord.members msg := by
  unfold attached
  split <;> exact ⟨rfl, rfl, rfl, rfl⟩

theorem rest_bitmapDataLength :
    (rest stream msg).bitmapDataLength = msg.bitmapDataLength := by
  unfold rest
  split
  next => rfl
  next =>
    split
    next => rfl
    next =>
      split <;> rfl

theorem rest_append (h : Within body size) {tail : List UInt8} (htail : (body ++ tail).length = size) (msg : PaintRect) :
    rest (body ++ tail) msg =
      if number body 8 4 = 0 then sourceRecord.assigned (body.drop 16) (segmentRecord.assigned (body.drop 12) msg)
      else if size < 12 + number body 8 4 then msg
      else if size < 20 + number body 8 4 then msg.withBitmap ((body.drop 12).take (number body 8 4))
      else sourceRecord.assigned (body.drop (12 + number body 8 4))
        (msg.withBitmap ((body.drop 12).take (number body 8 4))) := by
  obtain ⟨hnums, hbmp⟩ := h
  have hnum : number (body ++ tail) 8 4 = number body 8 4 := number_append hnums tail
  have hlen := htail
  rw [length_append] at hlen
  rw [rest, hnum, htail]
  split
  next hzero =>
    rw [if_pos hzero] at hbmp
    rw [drop_append_of_le_length (by omega), drop_append_of_le_length (by omega),
      @assigned_append _ sourceRecord _ (show 8 ≤ (body.drop 16).length by rw [length_drop]; omega),
      @assigned_append _ segmentRecord _ (show 4 ≤ (body.drop 12).length by rw [length_drop]; omega)]
  next hzero =>
    rw [if_neg hzero] at hbmp
    split
    next => rfl
    next hlong =>
      rcases hbmp with hbmp | ⟨hins, hsource⟩
      · exact absurd hbmp hlong
      · rw [drop_append_of_le_length hnums,
          take_append_of_le_length (by rw [length_drop]; omega)]
        split
        next => rfl
        next hshort =>
          rcases hsource with hsource | hsource
          · exact absurd hsource hshort
          · rw [drop_append_of_le_length hins, @assigned_append _ sourceRecord _
              (show 8 ≤ (body.drop (12 + number body 8 4)).length by rw [length_drop]; omega)]

theorem receive_append (hsize : 24 ≤ size) (h : Within body size) {tail : List UInt8}
    (htail : (body ++ tail).length = size) (memory : PaintRect) :
    receive (body ++ tail) memory =
      some (rest (body ++ tail) (targetRecord.assigned body memory.detached)).attached := by
  rw [receive_eq (by rwa [htail]), @assigned_append _ targetRecord _ h.1]

theorem determined_of_within (hsize : 24 ≤ size) (h : Within body size) : Determined receive body size := by
  intro memory tail tail' htail htail'
  refine ⟨_, receive_append hsize h htail memory, ?_⟩
  rw [receive_append hsize h htail' memory, rest_append h htail, rest_append h htail']

theorem within_of_determined (hbody : body.length ≤ size) (hsize : 24 ≤ size) (h : Determined receive body size) :
    Within body size := by
  obtain ⟨msg, hzeros, hones⟩ := h.padded hbody default
  have hlen (byte : UInt8) : (padded body size byte).length = size := padded_length hbody byte
  rw [receive_eq (by rwa [hlen])] at hzeros hones
  have hsame := some.inj (hzeros.trans hones.symm)
  have hnums : 12 ≤ body.length := by
    have hcnt := congrArg bitmapDataLength hsame
    rw [(attached_members _).1, (attached_members _).1, rest_bitmapDataLength, rest_bitmapDataLength] at hcnt
    have hwords : numbers [4] ((padded body size 0).drop 8) = numbers [4] ((padded body size 0xFF).drop 8) := by
      simp only [← drop_drop (i := 2) (j := 6), ← drop_drop (i := 2) (j := 4),
        ← drop_drop (i := 2) (j := 2)]
      exact congrArg (fun word => [word]) hcnt
    exact le_of_numbers_padded [4] (by decide) (by decide) hbody (show 12 ≤ size by omega) hwords
  have hnum (byte : UInt8) : number (padded body size byte) 8 4 = number body 8 4 := number_append hnums _
  refine ⟨hnums, ?_⟩
  unfold rest at hsame
  simp only [hnum, hlen] at hsame
  have hsource {start : Nat} (hstart : start + 8 ≤ size) {msg msg' : PaintRect}
      (hasg : (sourceRecord.assigned ((padded body size 0).drop start) msg).attached =
        (sourceRecord.assigned ((padded body size 0xFF).drop start) msg').attached) : start + 8 ≤ body.length := by
    have hmbrs := congrArg sourceRecord.members hasg
    rw [(attached_members _).2.2.2, (attached_members _).2.2.2, sourceRecord.members_assigned,
      sourceRecord.members_assigned] at hmbrs
    exact le_of_numbers_padded (sourceRecord.items.map width) (by decide) (by decide) hbody hstart hmbrs
  split
  next hzero =>
    rw [if_pos hzero, if_pos hzero] at hsame
    exact hsource (by omega) hsame
  next hzero =>
    rw [if_neg hzero, if_neg hzero] at hsame
    by_cases hlong : size < 12 + number body 8 4
    · exact .inl hlong
    · rw [if_neg hlong, if_neg hlong] at hsame
      by_cases hshort : size < 20 + number body 8 4
      · rw [if_pos hshort, if_pos hshort] at hsame
        have hdata := congrArg bitmapData hsame
        rw [(attached_members _).2.1, (attached_members _).2.1] at hdata
        exact .inr ⟨le_of_data_padded hbody hnums (by omega) (data.inj hdata), .inl hshort⟩
      · rw [if_neg hshort, if_neg hshort] at hsame
        have hins := hsource (by omega) hsame
        exact .inr ⟨by omega, .inr (by omega)⟩

theorem independent_iff (hbody : body.length ≤ size) (hsize : 24 ≤ size) :
    Independent receive body size ↔
      12 ≤ body.length ∧ number body 8 4 ≠ 0 ∧ 20 + number body 8 4 ≤ body.length := by
  constructor
  · intro h
    have hwithin := within_of_determined hbody hsize h.determined
    obtain ⟨msg, hnull, hwild⟩ := h { (default : PaintRect) with bitmapData := .null, nXSrc := 0 }
      { (default : PaintRect) with bitmapData := .wild, nXSrc := 1 } _ _ (padded_length hbody 0) (padded_length hbody 0)
    change receive (body ++ _) _ = _ at hnull hwild
    rw [receive_append hsize hwithin (padded_length hbody 0), rest_append hwithin (padded_length hbody 0)] at hnull hwild
    have hsame := some.inj (hnull.trans hwild.symm)
    have hdata := congrArg bitmapData hsame
    have hsource := congrArg sourceRecord.members hsame
    rw [(attached_members _).2.1, (attached_members _).2.1] at hdata
    rw [(attached_members _).2.2.2, (attached_members _).2.2.2] at hsource
    obtain ⟨hnums, hbmp⟩ := hwithin
    by_cases hzero : number body 8 4 = 0
    · rw [if_pos hzero, if_pos hzero] at hdata
      cases hdata
    · rw [if_neg hzero] at hbmp
      rw [if_neg hzero, if_neg hzero] at hdata hsource
      rcases hbmp with hlong | ⟨hins, hshort | hall⟩
      · rw [if_pos hlong, if_pos hlong] at hdata
        cases hdata
      · rw [if_neg (by omega), if_pos hshort, if_neg (by omega), if_pos hshort] at hsource
        have hkept : (0 : UInt32) = 1 := (cons.inj (cons.inj (cons.inj hsource).2).2).1
        exact absurd hkept (by decide)
      · exact ⟨hnums, hzero, hall⟩
  · rintro ⟨hnums, hbmp, hins⟩
    have hwithin : Within body size := ⟨hnums, by
      rw [if_neg hbmp]
      exact .inr ⟨by omega, .inr hins⟩⟩
    intro memory memory' tail tail' htail htail'
    refine ⟨_, receive_append hsize hwithin htail memory, ?_⟩
    rw [receive_append hsize hwithin htail' memory', rest_append hwithin htail, rest_append hwithin htail',
      if_neg hbmp, if_neg (by omega), if_neg (by omega), if_neg hbmp, if_neg (by omega), if_neg (by omega)]
    rfl

end PaintRect

/-! ## Windows -/

theorem skip_eq_some {stream rest : List UInt8} :
    skip count stream = some rest ↔ count ≤ stream.length ∧ rest = stream.drop count := by
  unfold skip
  split
  next h => simp; omega
  next h => simp [Nat.le_of_not_lt h, eq_comm]

theorem readRectangles_append {front : List UInt8} (h : 8 * count ≤ front.length) (tail : List UInt8) :
    readRectangles count (front ++ tail) = readRectangles count front := by
  induction count generalizing front with
  | zero => rfl
  | succ count ih =>
    have hfirst : Rectangle16.ofBytes (front ++ tail) = Rectangle16.ofBytes front := by
      have hdrop {start : Nat} (hstart : start ≤ 6) :
          ((front ++ tail).drop start).take 2 = (front.drop start).take 2 := by
        rw [drop_append_of_le_length (by omega),
          take_append_of_le_length (by rw [length_drop]; omega)]
      have hzero := hdrop (Nat.zero_le 6)
      simp only [drop_zero] at hzero
      rw [Rectangle16.ofBytes, Rectangle16.ofBytes, hzero, hdrop (by decide), hdrop (by decide), hdrop (by decide)]
    rw [readRectangles, readRectangles, hfirst, drop_append_of_le_length (by omega),
      ih (by rw [length_drop]; omega)]

theorem Rectangle16.ofBytes_inj {bytes bytes' : List UInt8} (h : 8 ≤ bytes.length) (h' : 8 ≤ bytes'.length)
    (heq : ofBytes bytes = ofBytes bytes') : bytes.take 8 = bytes'.take 8 := by
  have hword (start : Nat) (hsame : UInt16.ofNat (Wire.ofBytes ((bytes.drop start).take 2)) =
      UInt16.ofNat (Wire.ofBytes ((bytes'.drop start).take 2))) :
      Wire.ofBytes ((bytes.drop start).take 2) = Wire.ofBytes ((bytes'.drop start).take 2) := by
    have hlt (bytes : List UInt8) : Wire.ofBytes ((bytes.drop start).take 2) < 2 ^ 16 := by
      calc
        Wire.ofBytes ((bytes.drop start).take 2) < 256 ^ ((bytes.drop start).take 2).length := ofBytes_lt _
        _ ≤ 256 ^ 2 := Nat.pow_le_pow_right (by decide) (by rw [length_take]; omega)
    have hval := congrArg UInt16.toNat hsame
    rwa [UInt16.toNat_ofNat_of_lt' (hlt bytes), UInt16.toNat_ofNat_of_lt' (hlt bytes')] at hval
  apply @numbers_inj [2, 2, 2, 2] (by decide) _ _ h h'
  simp only [numbers, drop_drop]
  rw [hword 2 (congrArg top heq), hword 4 (congrArg right heq), hword 6 (congrArg bottom heq)]
  have hleft := hword 0 (congrArg left heq)
  rw [drop_zero, drop_zero] at hleft
  rw [hleft]

theorem readRectangles_inj {stream stream' : List UInt8} (h : 8 * count ≤ stream.length)
    (h' : 8 * count ≤ stream'.length) (heq : readRectangles count stream = readRectangles count stream') :
    stream.take (8 * count) = stream'.take (8 * count) := by
  induction count generalizing stream stream' with
  | zero => simp
  | succ count ih =>
    rw [readRectangles, readRectangles, cons.injEq] at heq
    have hfirst := Rectangle16.ofBytes_inj (by omega) (by omega) heq.1
    have hrest := ih (by rw [length_drop]; omega) (by rw [length_drop]; omega) heq.2
    rw [Nat.mul_succ, Nat.add_comm, take_add, take_add, hfirst, hrest]

namespace Pointer

theorem take_zero {α : Type} (pointer : Pointer (List α)) : pointer.take 0 = some [] := by
  cases pointer <;> simp [take]

theorem store_zero (pointer : Pointer (List Rectangle16)) : pointer.store 0 [] = some pointer := by
  cases pointer <;> simp [store]

end Pointer

namespace WindowNewUpdate

variable {body : List UInt8} {size : Nat}

def windowRecord : Record WindowNewUpdate where
  slots := window
  items :=
    [⟨4, (·.windowId)⟩, ⟨4, (·.ownerWindowId)⟩, ⟨4, (·.style)⟩, ⟨4, (·.extendedStyle)⟩, ⟨4, (·.showState)⟩,
     ⟨2, (·.titleInfo.length)⟩]

def clientRecord : Record WindowNewUpdate where
  slots := client
  items :=
    [⟨4, (·.clientOffsetX)⟩, ⟨4, (·.clientOffsetY)⟩, ⟨4, (·.clientAreaWidth)⟩, ⟨4, (·.clientAreaHeight)⟩,
     ⟨4, (·.rpContent)⟩, ⟨4, (·.rootParentHandle)⟩, ⟨2, (·.numWindowRects)⟩]

def visibleRecord : Record WindowNewUpdate where
  slots := visible
  items := [⟨4, (·.visibleOffsetX)⟩, ⟨4, (·.visibleOffsetY)⟩, ⟨2, (·.numVisibilityRects)⟩]

def receive (stream : List UInt8) (memory : WindowNewUpdate) : Option WindowNewUpdate :=
  (readWindowNewUpdate stream memory).map Reading.body

/-- A window without a title and without visible rectangles, for which there are no pointers to follow. The flags at the
end are read, but they are not looked at. -/
def Plain (stream : List UInt8) : Prop :=
  number stream 20 2 = 0 ∧ 62 + 8 * number stream 46 2 ≤ stream.length ∧
    number stream (56 + 8 * number stream 46 2) 2 = 0

def Within (body : List UInt8) (size : Nat) : Prop :=
  number body 20 2 = 0 ∧ 62 + 8 * number body 46 2 ≤ size ∧ number body (56 + 8 * number body 46 2) 2 = 0 ∧
    58 + 8 * number body 46 2 ≤ body.length

variable (stream : List UInt8) (memory : WindowNewUpdate)

theorem titleLength_assigned :
    (windowRecord.assigned stream memory).titleInfo.length.toNat = number stream 20 2 :=
  @toNat_numbers (windowRecord.items.map width) (by decide) stream 5

theorem numWindowRects_assigned :
    (clientRecord.assigned stream memory).numWindowRects.toNat = number stream 24 2 :=
  @toNat_numbers (clientRecord.items.map width) (by decide) stream 6

theorem numVisibilityRects_assigned :
    (visibleRecord.assigned stream memory).numVisibilityRects.toNat = number stream 8 2 :=
  @toNat_numbers (visibleRecord.items.map width) (by decide) stream 2

def received : WindowNewUpdate :=
  visibleRecord.assigned (stream.drop (48 + 8 * number stream 46 2))
    ((clientRecord.assigned (stream.drop 22) (windowRecord.assigned stream memory)).withWindowRects
      (readRectangles (number stream 46 2) (stream.drop 48)))

variable {stream : List UInt8}

theorem readSlots_window (h : 22 ≤ stream.length) (memory : WindowNewUpdate) :
    readSlots window stream memory = some (windowRecord.assigned stream memory, stream.drop 22) :=
  windowRecord.readSlots_eq memory h

theorem readSlots_client (h : 26 ≤ stream.length) (memory : WindowNewUpdate) :
    readSlots client stream memory = some (clientRecord.assigned stream memory, stream.drop 26) :=
  clientRecord.readSlots_eq memory h

theorem readSlots_visible (h : 10 ≤ stream.length) (memory : WindowNewUpdate) :
    readSlots visible stream memory = some (visibleRecord.assigned stream memory, stream.drop 10) :=
  visibleRecord.readSlots_eq memory h

variable {msg : WindowNewUpdate}

theorem readTitle_of_zero (h : msg.titleInfo.length.toNat = 0) (stream : List UInt8) :
    readTitle stream msg = some stream := by
  simp [readTitle, h, Pointer.take_zero, skip]

theorem readVisibilityRects_of_zero (h : msg.numVisibilityRects.toNat = 0)
    (stream : List UInt8) : readVisibilityRects stream msg = some (msg, stream) := by
  simp [readVisibilityRects, h, readRectangles, store_zero, skip, withVisibilityRects]

theorem receive_of_plain (h : Plain stream) (memory : WindowNewUpdate) :
    receive stream memory = some (received stream memory) := by
  obtain ⟨htitle, hlen, hvis⟩ := h
  have hcnt (msg : WindowNewUpdate) :
      (clientRecord.assigned (stream.drop 22) msg).numWindowRects.toNat = number stream 46 2 := by
    rw [numWindowRects_assigned, number_drop]
  have hzero (msg : WindowNewUpdate) : (visibleRecord.assigned
      (stream.drop (48 + 8 * number stream 46 2)) msg).numVisibilityRects.toNat = 0 := by
    rw [numVisibilityRects_assigned, number_drop, Nat.add_right_comm]
    exact hvis
  rw [receive, readWindowNewUpdate, readSlots_window (by omega)]
  simp only [Option.bind_eq_bind, Option.bind_some]
  rw [readTitle_of_zero (by rw [titleLength_assigned, htitle]), Option.bind_some,
    readSlots_client (by rw [length_drop]; omega)]
  simp only [Option.bind_some, readWindowRects, hcnt, drop_drop]
  rw [skip_eq_some.mpr ⟨by rw [length_drop]; omega, rfl⟩]
  simp only [Option.bind_eq_bind, Option.bind_some, Option.pure_def, drop_drop]
  rw [readSlots_visible (by rw [length_drop]; omega)]
  simp only [Option.bind_some]
  rw [readVisibilityRects_of_zero (hzero _)]
  simp only [Option.bind_some, drop_drop]
  rw [skip_eq_some.mpr ⟨by rw [length_drop]; omega, rfl⟩]
  rfl

theorem take_null_eq_some {α : Type} {count : Nat} {data : List α} (h : (Pointer.null).take count = some data) :
    count = 0 ∧ data = [] := by
  by_cases hzero : count = 0
  · rw [hzero, Pointer.take_zero] at h
    exact ⟨hzero, (some.inj h).symm⟩
  · rw [Pointer.take, if_neg hzero] at h
    cases h

theorem store_null_eq_some {areas : List Rectangle16} {pointer : Pointer (List Rectangle16)}
    (h : (Pointer.null).store count areas = some pointer) : count = 0 := by
  by_contra hzero
  rw [store, if_neg hzero] at h
  cases h

theorem plain_of_receive (h : receive stream default = some msg) :
    Plain stream := by
  obtain ⟨reading, hread, -⟩ := map_eq_some_iff.mp h
  rw [readWindowNewUpdate] at hread
  obtain ⟨⟨window, behind⟩, hwin, hread⟩ := bind_eq_some_iff.mp hread
  have hwinLe : 22 ≤ stream.length := le_of_readSlots hwin
  rw [readSlots_window hwinLe] at hwin
  cases hwin
  obtain ⟨behind, htitle, hread⟩ := bind_eq_some_iff.mp hread
  obtain ⟨title, htake, hskip⟩ := bind_eq_some_iff.mp htitle
  obtain ⟨htitleZero, rfl⟩ := take_null_eq_some htake
  rw [titleLength_assigned] at htitleZero
  obtain ⟨-, rfl⟩ := skip_eq_some.mp hskip
  obtain ⟨⟨client, behind⟩, hcli, hread⟩ := bind_eq_some_iff.mp hread
  have hcliLe : 26 ≤ (stream.drop 22).length := le_of_readSlots hcli
  rw [length_nil, drop_zero, readSlots_client hcliLe] at hcli
  cases hcli
  obtain ⟨⟨rects, behind⟩, hrects, hread⟩ := bind_eq_some_iff.mp hread
  obtain ⟨behind, hskip, hrects⟩ := bind_eq_some_iff.mp hrects
  obtain ⟨hrectsLe, rfl⟩ := skip_eq_some.mp hskip
  cases hrects
  obtain ⟨⟨visible, behind⟩, hvis, hread⟩ := bind_eq_some_iff.mp hread
  rw [numWindowRects_assigned, number_drop, drop_drop] at hrectsLe
  rw [numWindowRects_assigned, number_drop, drop_drop, drop_drop] at hvis
  have hvisLe : 10 ≤ (stream.drop (22 + (26 + 8 * number stream 46 2))).length := le_of_readSlots hvis
  rw [readSlots_visible hvisLe] at hvis
  cases hvis
  obtain ⟨⟨rects, behind⟩, hrects, hread⟩ := bind_eq_some_iff.mp hread
  obtain ⟨behind, hskip, hrects⟩ := bind_eq_some_iff.mp hrects
  obtain ⟨-, rfl⟩ := skip_eq_some.mp hskip
  obtain ⟨areas, hstore, hrects⟩ := bind_eq_some_iff.mp hrects
  have hvisZero := store_null_eq_some hstore
  cases hrects
  obtain ⟨behind, hskip, -⟩ := bind_eq_some_iff.mp hread
  have hend := (skip_eq_some.mp hskip).1
  rw [hvisZero, Nat.mul_zero, drop_zero, length_drop, length_drop] at hend
  have hplace : 22 + (26 + 8 * number stream 46 2) + 8 = 56 + 8 * number stream 46 2 := by omega
  rw [numVisibilityRects_assigned, number_drop, hplace] at hvisZero
  exact ⟨htitleZero, by omega, hvisZero⟩

theorem plain_append_iff (hbody : 58 + 8 * number body 46 2 ≤ body.length) {tail : List UInt8}
    (htail : (body ++ tail).length = size) : Plain (body ++ tail) ↔ Within body size := by
  have hcnt : number (body ++ tail) 46 2 = number body 46 2 := number_append (by omega) tail
  have htitle : number (body ++ tail) 20 2 = number body 20 2 := number_append (by omega) tail
  have hvis : number (body ++ tail) (56 + 8 * number body 46 2) 2 =
      number body (56 + 8 * number body 46 2) 2 := number_append (by omega) tail
  rw [Plain, hcnt, htitle, hvis, htail, Within]
  simp [hbody]

theorem determined_of_within (h : Within body size) : Determined receive body size := by
  have hbody := h.2.2.2
  apply determined_of_forall
  intro memory
  refine ⟨received body memory, fun tail htail => ?_⟩
  rw [receive_of_plain ((plain_append_iff hbody htail).mpr h)]
  have hcnt : number (body ++ tail) 46 2 = number body 46 2 := number_append (by omega) tail
  rw [received, received, hcnt, drop_append_of_le_length (by omega), drop_append_of_le_length (by omega),
    drop_append_of_le_length (by omega), readRectangles_append (by rw [length_drop]; omega),
    @assigned_append _ windowRecord _ (show 22 ≤ body.length by omega),
    @assigned_append _ clientRecord _ (show 26 ≤ (body.drop 22).length by rw [length_drop]; omega),
    @assigned_append _ visibleRecord _
      (show 10 ≤ (body.drop (48 + 8 * number body 46 2)).length by rw [length_drop]; omega)]

theorem within_of_determined (hbody : body.length ≤ size) (h : Determined receive body size) : Within body size := by
  obtain ⟨msg, hzeros, hones⟩ := h.padded hbody default
  have hplain := plain_of_receive hzeros
  have hplain' := plain_of_receive hones
  rw [receive_of_plain hplain] at hzeros
  rw [receive_of_plain hplain'] at hones
  have hsame := some.inj (hzeros.trans hones.symm)
  have hlen (byte : UInt8) : (padded body size byte).length = size := padded_length hbody byte
  have hsize := hplain.2.1
  have hsize' := hplain'.2.1
  rw [hlen] at hsize hsize'
  have hcli : numbers (clientRecord.items.map width) ((padded body size 0).drop 22) =
      numbers (clientRecord.items.map width) ((padded body size 0xFF).drop 22) :=
    congrArg clientRecord.members hsame
  have hnums : 48 ≤ body.length :=
    le_of_numbers_padded (clientRecord.items.map width) (by decide) (by decide) hbody (show 48 ≤ size by omega)
      hcli
  have hcnt (byte : UInt8) : number (padded body size byte) 46 2 = number body 46 2 := number_append hnums _
  rw [received, received, hcnt, hcnt] at hsame
  rw [hcnt] at hsize
  have hareas := data.inj (congrArg windowRects hsame)
  have hrects : 48 + 8 * number body 46 2 ≤ body.length := by
    apply le_of_data_padded hbody hnums (by omega)
    apply readRectangles_inj _ _ hareas
    all_goals
      rw [length_drop, hlen]
      omega
  have hvis := congrArg visibleRecord.members hsame
  rw [visibleRecord.members_assigned, visibleRecord.members_assigned] at hvis
  have hall : 58 + 8 * number body 46 2 ≤ body.length := by
    have hle := le_of_numbers_padded (visibleRecord.items.map width) (by decide) (by decide) hbody
      (show 48 + 8 * number body 46 2 + 10 ≤ size by omega) hvis
    have hwidths : (visibleRecord.items.map width).sum = 10 := rfl
    omega
  exact (plain_append_iff hall (hlen 0)).mp hplain

theorem not_independent (hbody : body.length ≤ size) : ¬Independent receive body size := by
  intro h
  have hdetermined := within_of_determined hbody h.determined
  obtain ⟨msg, hmsg, hmsg'⟩ := h { (default : WindowNewUpdate) with windowOffsetX := 0 }
    { (default : WindowNewUpdate) with windowOffsetX := 1 } _ _ (padded_length hbody 0) (padded_length hbody 0)
  have hplain := (plain_append_iff hdetermined.2.2.2 (padded_length hbody 0)).mpr hdetermined
  rw [receive_of_plain hplain] at hmsg hmsg'
  have hoffset : (0 : UInt32) = 1 := congrArg windowOffsetX (some.inj (hmsg.trans hmsg'.symm))
  exact absurd hoffset (by decide)

end WindowNewUpdate

/-! ## All messages -/

namespace ServerMessage

/-- What the reader takes of a stream is in the body, and it follows no pointer that was not set. -/
def Within : ServerMessage → List UInt8 → Nat → Prop
  | beginUpdate, _, _ => True
  | endUpdate, _, _ => True
  | setClippingRegion, body, _ => 10 ≤ body.length
  | opaqueRect, body, _ => 12 ≤ body.length
  | screenBlt, body, _ => 12 ≤ body.length
  | paintRect, body, size => PaintRect.Within body size
  | patBlt, _, _ => False
  | dstBlt, body, _ => 20 ≤ body.length
  | lineTo, body, _ => 32 ≤ body.length
  | createOffscreenSurface, body, _ => 8 ≤ body.length
  | switchOffscreenSurface, body, _ => 4 ≤ body.length
  | deleteOffscreenSurface, body, _ => 4 ≤ body.length
  | paintOffscreenSurface, body, _ => 32 ≤ body.length
  | setPointer, body, size => SetPointer.Within body size
  | sharedFramebuffer, body, _ => 28 ≤ body.length
  | windowNewUpdate, body, size => WindowNewUpdate.Within body size
  | windowDelete, body, _ => 4 ≤ body.length
  | setSystemPointer, body, _ => 4 ≤ body.length
  | logonUser, body, _ => LogonUser.Within body
  | logoffUser, body, _ => 4 ≤ body.length

def Whole : ServerMessage → List UInt8 → Prop
  | screenBlt, _ => False
  | lineTo, _ => False
  | patBlt, _ => False
  | setPointer, _ => False
  | windowNewUpdate, _ => False
  | paintRect, body => 12 ≤ body.length ∧ number body 8 4 ≠ 0 ∧ 20 + number body 8 4 ≤ body.length
  | kind, body => kind.Within body 0

variable {body : List UInt8} {size : Nat}

theorem extent_iff (kind : ServerMessage) (hbody : body.length ≤ size) (hsize : 60 ≤ size) (hcap : size ≤ capacity) :
    (Determined kind.receive body size ↔ kind.Within body size) ∧
      (Independent kind.receive body size ↔ kind.Whole body) := by
  have hrow {β : Type} (record : Record β) [Inhabited β]
      (hwidths : ∀ width ∈ record.items.map Item.width, width ≤ 4 := by decide)
      (hall : ∀ bytes memory memory', record.assigned bytes memory = record.assigned bytes memory' := by intros; rfl)
      (hsmall : Layout.size record.slots ≤ 60 := by decide) := record_iff record hwidths hall hbody (Nat.le_trans hsmall hsize)
  cases kind with
  | beginUpdate | endUpdate =>
    obtain ⟨hdetermined, hindependent⟩ := hrow empty
    exact ⟨iff_of_true (hdetermined.mpr (Nat.zero_le _)) trivial, iff_of_true (hindependent.mpr (Nat.zero_le _)) trivial⟩
  | setClippingRegion => exact hrow SetClippingRegion.record
  | opaqueRect => exact hrow OpaqueRect.record
  | screenBlt =>
    exact ⟨record_determined_iff ScreenBlt.record (by decide) hbody (Nat.le_trans (by decide) hsize),
      iff_of_false (record_not_independent ScreenBlt.record ScreenBlt.bRop (fun _ _ => rfl) default
        { (default : ScreenBlt) with bRop := 1 } (by decide) hbody) id⟩
  | paintRect =>
    exact ⟨⟨PaintRect.within_of_determined hbody (by omega), PaintRect.determined_of_within (by omega)⟩,
      PaintRect.independent_iff hbody (by omega)⟩
  | patBlt =>
    have hnot := PatBlt.not_determined hbody hsize
    exact ⟨iff_of_false hnot id, iff_of_false (fun h => hnot h.determined) id⟩
  | dstBlt => exact hrow DstBlt.record
  | lineTo =>
    exact ⟨record_determined_iff LineTo.record (by decide) hbody (Nat.le_trans (by decide) hsize),
      iff_of_false (record_not_independent LineTo.record LineTo.backMode (fun _ _ => rfl) default
        { (default : LineTo) with backMode := 1 } (by decide) hbody) id⟩
  | createOffscreenSurface => exact hrow CreateOffscreenSurface.record
  | switchOffscreenSurface => exact hrow SwitchOffscreenSurface.record
  | deleteOffscreenSurface => exact hrow DeleteOffscreenSurface.record
  | paintOffscreenSurface => exact hrow PaintOffscreenSurface.record
  | setPointer =>
    exact ⟨SetPointer.determined_iff hbody (by omega), iff_of_false (SetPointer.not_independent hbody) id⟩
  | sharedFramebuffer => exact hrow SharedFramebuffer.record
  | windowNewUpdate =>
    exact ⟨⟨WindowNewUpdate.within_of_determined hbody, WindowNewUpdate.determined_of_within⟩,
      iff_of_false (WindowNewUpdate.not_independent hbody) id⟩
  | windowDelete => exact hrow WindowDelete.record
  | setSystemPointer => exact hrow SetSystemPointer.record
  | logonUser =>
    have hwithin := LogonUser.independent_of_within hcap hbody
    have hdetermined := LogonUser.within_of_determined hbody (show 16 ≤ size by omega)
    exact ⟨⟨hdetermined, fun h => (hwithin h).determined⟩, ⟨fun h => hdetermined h.determined, hwithin⟩⟩
  | logoffUser => exact hrow LogoffUser.record

end ServerMessage

namespace ClientMessage

def receive (kind : ClientMessage) (stream : List UInt8) (memory : kind.Body) : Option kind.Body :=
  (kind.read stream memory).map Reading.body

def need : ClientMessage → Nat
  | capabilities => 28
  | synchronizeKeyboardEvent => 4
  | scancodeKeyboardEvent => 12
  | virtualKeyboardEvent => 8
  | unicodeKeyboardEvent => 8
  | mouseEvent => 12
  | extendedMouseEvent => 12
  | vblankEvent => 0

variable {body : List UInt8} {size : Nat}

theorem extent_iff (kind : ClientMessage) (hbody : body.length ≤ size) (hsize : 28 ≤ size) :
    (Determined kind.receive body size ↔ kind.need ≤ body.length) ∧
      (Independent kind.receive body size ↔ kind.need ≤ body.length) := by
  have hrow {β : Type} (record : Record β) [Inhabited β]
      (hwidths : ∀ width ∈ record.items.map Item.width, width ≤ 4 := by decide)
      (hall : ∀ bytes memory memory', record.assigned bytes memory = record.assigned bytes memory' := by intros; rfl)
      (hsmall : Layout.size record.slots ≤ 28 := by decide) := record_iff record hwidths hall hbody (Nat.le_trans hsmall hsize)
  cases kind with
  | capabilities => exact hrow Capabilities.record
  | synchronizeKeyboardEvent => exact hrow SynchronizeKeyboardEvent.record
  | scancodeKeyboardEvent => exact hrow ScancodeKeyboardEvent.record
  | virtualKeyboardEvent => exact hrow VirtualKeyboardEvent.record
  | unicodeKeyboardEvent => exact hrow UnicodeKeyboardEvent.record
  | mouseEvent => exact hrow MouseEvent.record
  | extendedMouseEvent => exact hrow ExtendedMouseEvent.record
  | vblankEvent => exact hrow empty

end ClientMessage

end FreeRDS.Backend
