import FreeRDS.Fdsapi.Messages

/-! # Messages that are freed

`FDSAPI_DecodeMessage` allocates the strings of a message and the array of a list of sessions; `FDSAPI_FreeMessage` frees
them, whether the message was decoded to its end or not. The message is set to zero first, and what has not been decoded
is `NULL`. The array comes from `malloc` as it is.
-/

namespace FreeRDS.Fdsapi.Release

open Lib Wire List

/-- A pointer in a message. The blocks are numbered by the calls of `malloc`. -/
inductive Pointer
  | null
  | block (call : Nat)
  | unset
  deriving DecidableEq, Repr

structure Decoding where
  bytes : List UInt8
  /-- How often `malloc` has been called. -/
  mallocs : Nat
  /-- The strings that have been assigned, in the order of their members. -/
  pointers : List Pointer
  deriving DecidableEq, Repr

inductive FieldType
  | bool | uint16 | uint32 | string
  deriving DecidableEq, Repr

section Decode

-- Which calls of `malloc` succeed.
variable (succeeds : Nat → Bool)

def decodeNumber (width : Nat) (s : Decoding) : Bool × Decoding :=
  if s.bytes.length < width then (false, s) else (true, { s with bytes := s.bytes.drop width })

variable (s : Decoding)

def Decoding.assign (pointer : Pointer) : Decoding := { s with pointers := s.pointers ++ [pointer] }

def malloc : Pointer × Decoding :=
  (if succeeds s.mallocs then .block s.mallocs else .null, { s with mallocs := s.mallocs + 1 })

/-- `FDSAPI_DecodeString`. The pointer is assigned once the length has been read. -/
def decodeString : Bool × Decoding :=
  let stringSize := ofBytes (s.bytes.take 2)
  match decodeNumber 2 s with
  | (false, s) => (false, s)
  | (true, s) =>
    if stringSize = 0 then (true, s.assign .null)
    else if s.bytes.length < stringSize then (false, s.assign .null)
    else
      match malloc succeeds s with
      | (.block call, s) => (true, { s.assign (.block call) with bytes := s.bytes.drop stringSize })
      | (_, s) => (false, s.assign .null)

def decodeField : FieldType → Decoding → Bool × Decoding
  | .bool => decodeNumber 1
  | .uint16 => decodeNumber 2
  | .uint32 => decodeNumber 4
  | .string => decodeString succeeds

def decodeFields : List FieldType → Decoding → Bool × Decoding
  | [], s => (true, s)
  | field :: fields, s =>
    match decodeField succeeds field s with
    | (true, s) => decodeFields fields s
    | (false, s) => (false, s)

/-- The members of `FDSAPI_SESSION_INFO`. -/
def sessionFields : List FieldType := [.uint32, .uint32, .string]

/-- The loop over `pSessionInfo`. -/
def decodeSessions : Nat → Decoding → Bool × Decoding
  | 0, s => (true, s)
  | count + 1, s =>
    match decodeFields succeeds sessionFields s with
    | (true, s) => decodeSessions count s
    | (false, s) => (false, s)

def fields : MessageId → List FieldType
  | .pingRequest | .pingResponse | .shutdownSystemRequest | .enumerateSessionsRequest | .authenticateUserResponse =>
    [.uint32]
  | .virtualChannelOpenRequest | .virtualChannelOpenResponse | .virtualChannelOpenExResponse
  | .virtualChannelCloseRequest => [.uint32, .string]
  | .virtualChannelOpenExRequest => [.uint32, .string, .uint32]
  | .virtualChannelCloseResponse | .disconnectSessionResponse | .logoffSessionResponse | .shutdownSystemResponse =>
    [.bool]
  | .disconnectSessionRequest | .logoffSessionRequest => [.uint32, .bool]
  | .querySessionInformationRequest | .sessionEvent => [.uint32, .uint32]
  | .authenticateUserRequest => [.uint32, .string, .string, .string]
  | .enumerateSessionsResponse | .querySessionInformationResponse => []

/-- `FDSAPI_MESSAGE`, as far as `FDSAPI_FreeMessage` looks at it. -/
structure RawMessage where
  messageId : UInt16 := 0
  pointers : List Pointer := []
  cSessions : Nat := 0
  pSessionInfo : Pointer := .null
  /-- `result` of the response to a query. -/
  result : Bool := false
  /-- `infoValue.t`. -/
  t : Nat := 0
  deriving DecidableEq, Repr

/-- What a decoder leaves: whether it succeeds, the message, and how often `malloc` was called. -/
structure Decoded where
  ok : Bool
  msg : RawMessage
  mallocs : Nat
  deriving DecidableEq, Repr

/-- `FDSAPI_DecodeEnumerateSessionsResponse`. -/
def decodeEnumerateSessionsResponse : Decoded :=
  let msg : RawMessage := { messageId := 16 }
  let result := ofBytes (s.bytes.take 1)
  match decodeNumber 1 s with
  | (false, s) => ⟨false, msg, s.mallocs⟩
  | (true, s) =>
    if result = 0 then ⟨true, msg, s.mallocs⟩
    else
      let cSessions := ofBytes (s.bytes.take 4)
      match decodeNumber 4 s with
      | (false, s) => ⟨false, msg, s.mallocs⟩
      | (true, s) =>
        if cSessions = 0 then ⟨true, msg, s.mallocs⟩
        else
          match malloc succeeds s with
          | (.block call, s) =>
            let (ok, s) := decodeSessions succeeds cSessions s
            ⟨ok, { msg with cSessions, pSessionInfo := .block call, pointers := s.pointers }, s.mallocs⟩
          | (_, s) => ⟨false, { msg with cSessions }, s.mallocs⟩

/-- The `switch` on the type. -/
def valueFields : Nat → List FieldType
  | 0 => [.bool]
  | 1 => [.uint16]
  | 2 => [.uint32]
  | 3 => [.string]
  | 4 => [.uint32, .uint32, .uint32]
  | _ => []

/-- `FDSAPI_DecodeQuerySessionInformationResponse`. -/
def decodeQuerySessionInformationResponse : Decoded :=
  let msg : RawMessage := { messageId := 18 }
  let result := ofBytes (s.bytes.take 1)
  match decodeNumber 1 s with
  | (false, s) => ⟨false, msg, s.mallocs⟩
  | (true, s) =>
    if result = 0 then ⟨true, msg, s.mallocs⟩
    else
      let t := ofBytes (s.bytes.take 2)
      match decodeNumber 2 s with
      | (false, s) => ⟨false, { msg with result := true }, s.mallocs⟩
      | (true, s) =>
        let (ok, s) := decodeFields succeeds (valueFields t) s
        ⟨ok, { msg with result := true, t, pointers := s.pointers }, s.mallocs⟩

/-- `FDSAPI_DecodeMessage`. -/
def decodeMessage (bytes : List UInt8) : Decoded :=
  let messageId := UInt16.ofNat (ofBytes (bytes.take 2))
  match decodeNumber 2 ⟨bytes, 0, []⟩ with
  | (false, s) => ⟨false, {}, s.mallocs⟩
  | (true, s) =>
    match decodeNumber 2 s with
    | (false, s) => ⟨false, { messageId }, s.mallocs⟩
    | (true, s) =>
      match MessageId.ofCode? messageId with
      | some .enumerateSessionsResponse => decodeEnumerateSessionsResponse succeeds s
      | some .querySessionInformationResponse => decodeQuerySessionInformationResponse succeeds s
      | some id =>
        let (ok, s) := decodeFields succeeds (fields id) s
        ⟨ok, { messageId, pointers := s.pointers }, s.mallocs⟩
      | none => ⟨false, { messageId }, s.mallocs⟩

end Decode

/-- The block that goes to `free`. There is no value for a pointer that is not `NULL` and was not allocated. -/
def Pointer.free : Pointer → Option (List Nat)
  | null => some []
  | block call => some [call]
  | unset => none

/-- `FDSAPI_FreeString` on one pointer after the other. -/
def freeStrings (pointers : List Pointer) : Option (List Nat) := (pointers.mapM Pointer.free).map List.flatten

/-- `FDSAPI_FreeEnumerateSessionsResponse`. There is no value if it reads the elements of an array that is `NULL`. -/
def freeEnumerateSessionsResponse (msg : RawMessage) : Option (List Nat) :=
  match msg.pSessionInfo with
  | .block call => do
      -- The names that have not been decoded are what the array held before.
      let unset := List.replicate (msg.cSessions - msg.pointers.length) .unset
      let freed ← freeStrings (msg.pointers ++ unset)
      return freed ++ [call]
  | _ => if msg.cSessions = 0 then some [] else none

/-- `FDSAPI_FreeMessage`: the blocks that are freed, in their order. -/
def freeMessage (msg : RawMessage) : Option (List Nat) :=
  match MessageId.ofCode? msg.messageId with
  | some .enumerateSessionsResponse => freeEnumerateSessionsResponse msg
  | some .querySessionInformationResponse => if msg.result ∧ msg.t = 3 then freeStrings msg.pointers else some []
  | some _ => freeStrings msg.pointers
  | none => some []

variable (succeeds : Nat → Bool)

def Decoded.allocated (decoded : Decoded) : List Nat :=
  (List.range decoded.mallocs).filter succeeds

def Decoded.Released (decoded : Decoded) : Prop :=
  ∃ freed, freeMessage decoded.msg = some freed ∧ freed.Perm (decoded.allocated succeeds)

/-! ## What is owned -/

theorem freeStrings_append (pointers pointers' : List Pointer) :
    freeStrings (pointers ++ pointers') =
      (freeStrings pointers).bind fun freed => (freeStrings pointers').map (freed ++ ·) := by
  unfold freeStrings
  rw [mapM_append]
  cases pointers.mapM Pointer.free <;> cases pointers'.mapM Pointer.free <;> simp

theorem freeStrings_singleton (pointer : Pointer) : freeStrings [pointer] = pointer.free := by
  cases pointer <;> rfl

/-- The strings that have been assigned are `NULL` and the blocks that were allocated, but for those held elsewhere. -/
def Decoding.Owned (held : List Nat) (s : Decoding) : Prop :=
  ∃ freed, freeStrings s.pointers = some freed ∧ held ++ freed = (List.range s.mallocs).filter succeeds

variable {succeeds : Nat → Bool} {held : List Nat} {s : Decoding}

namespace Decoding

theorem Owned.congr {s' : Decoding} (h : s.Owned succeeds held) (hptrs : s'.pointers = s.pointers)
    (hmallocs : s'.mallocs = s.mallocs) : s'.Owned succeeds held := by
  unfold Owned at h ⊢
  rwa [hptrs, hmallocs]

theorem Owned.assign_null (h : s.Owned succeeds held) : (s.assign .null).Owned succeeds held := by
  obtain ⟨freed, hfreed, hheld⟩ := h
  refine ⟨freed, ?_, hheld⟩
  show freeStrings (s.pointers ++ [.null]) = _
  rw [freeStrings_append, hfreed, freeStrings_singleton]
  simp [Pointer.free]

theorem Owned.assign_block (h : s.Owned succeeds held) (hsucc : succeeds s.mallocs = true) :
    ((malloc succeeds s).2.assign (.block s.mallocs)).Owned succeeds held := by
  obtain ⟨freed, hfreed, hheld⟩ := h
  refine ⟨freed ++ [s.mallocs], ?_, ?_⟩
  · show freeStrings (s.pointers ++ [.block s.mallocs]) = _
    rw [freeStrings_append, hfreed, freeStrings_singleton]
    rfl
  · show held ++ (freed ++ [s.mallocs]) = (range (s.mallocs + 1)).filter succeeds
    rw [range_succ, filter_append, ← hheld, filter_singleton, hsucc, append_assoc]
    rfl

theorem Owned.malloc (h : s.Owned succeeds held) (hfails : succeeds s.mallocs = false) :
    (malloc succeeds s).2.Owned succeeds held := by
  obtain ⟨freed, hfreed, hheld⟩ := h
  refine ⟨freed, hfreed, ?_⟩
  show held ++ freed = (range (s.mallocs + 1)).filter succeeds
  rw [range_succ, filter_append, ← hheld, filter_singleton, hfails]
  simp

end Decoding

theorem decodeNumber_cases (width : Nat) (s : Decoding) :
    s.bytes.length < width ∧ decodeNumber width s = (false, s) ∨
      width ≤ s.bytes.length ∧ decodeNumber width s = (true, { s with bytes := s.bytes.drop width }) := by
  unfold decodeNumber
  split
  · rename_i h
    exact .inl ⟨h, rfl⟩
  · rename_i h
    exact .inr ⟨Nat.not_lt.mp h, rfl⟩

theorem decodeFields_cons (field : FieldType) (fields : List FieldType) (s : Decoding) :
    decodeFields succeeds (field :: fields) s =
      if (decodeField succeeds field s).1 then decodeFields succeeds fields (decodeField succeeds field s).2
      else (false, (decodeField succeeds field s).2) := by
  rw [decodeFields]
  rcases decodeField succeeds field s with ⟨_ | _, s'⟩ <;> rfl

theorem decodeSessions_succ (count : Nat) (s : Decoding) :
    decodeSessions succeeds (count + 1) s =
      if (decodeFields succeeds sessionFields s).1 then
        decodeSessions succeeds count (decodeFields succeeds sessionFields s).2
      else (false, (decodeFields succeeds sessionFields s).2) := by
  rw [decodeSessions]
  rcases decodeFields succeeds sessionFields s with ⟨_ | _, s'⟩ <;> rfl

variable (bytes : List UInt8)

def stringSize : Nat := ofBytes (bytes.take 2)

theorem decodeString_cases (succeeds : Nat → Bool) (s : Decoding) :
    s.bytes.length < 2 ∧ decodeString succeeds s = (false, s) ∨
      2 ≤ s.bytes.length ∧ stringSize s.bytes = 0 ∧
        decodeString succeeds s = (true, ⟨s.bytes.drop 2, s.mallocs, s.pointers ++ [.null]⟩) ∨
      2 ≤ s.bytes.length ∧ stringSize s.bytes ≠ 0 ∧ s.bytes.length < 2 + stringSize s.bytes ∧
        decodeString succeeds s = (false, ⟨s.bytes.drop 2, s.mallocs, s.pointers ++ [.null]⟩) ∨
      2 + stringSize s.bytes ≤ s.bytes.length ∧ stringSize s.bytes ≠ 0 ∧ succeeds s.mallocs = true ∧
        decodeString succeeds s =
          (true, ⟨s.bytes.drop (2 + stringSize s.bytes), s.mallocs + 1, s.pointers ++ [.block s.mallocs]⟩) ∨
      2 + stringSize s.bytes ≤ s.bytes.length ∧ stringSize s.bytes ≠ 0 ∧ succeeds s.mallocs = false ∧
        decodeString succeeds s = (false, ⟨s.bytes.drop 2, s.mallocs + 1, s.pointers ++ [.null]⟩) := by
  unfold decodeString
  rw [← stringSize]
  rcases decodeNumber_cases 2 s with ⟨hshort, hnum⟩ | ⟨hlong, hnum⟩ <;> rw [hnum] <;> dsimp only
  · exact .inl ⟨hshort, rfl⟩
  by_cases hzero : stringSize s.bytes = 0
  · rw [if_pos hzero]
    exact .inr (.inl ⟨hlong, hzero, rfl⟩)
  rw [if_neg hzero, length_drop]
  by_cases hcut : s.bytes.length - 2 < stringSize s.bytes
  · rw [if_pos hcut]
    exact .inr (.inr (.inl ⟨hlong, hzero, by omega, rfl⟩))
  rw [if_neg hcut]
  have hwhole : 2 + stringSize s.bytes ≤ s.bytes.length := by omega
  cases hsucc : succeeds s.mallocs with
  | true =>
    refine .inr (.inr (.inr (.inl ⟨hwhole, hzero, rfl, ?_⟩)))
    simp [malloc, hsucc, Decoding.assign]
  | false =>
    refine .inr (.inr (.inr (.inr ⟨hwhole, hzero, rfl, ?_⟩)))
    simp [malloc, hsucc, Decoding.assign]

namespace Decoding

variable (h : s.Owned succeeds held)

include h

theorem Owned.decodeNumber (width : Nat) : (decodeNumber width s).2.Owned succeeds held := by
  rcases decodeNumber_cases width s with ⟨-, hnum⟩ | ⟨-, hnum⟩ <;> rw [hnum]
  · exact h
  · exact h.congr rfl rfl

theorem Owned.decodeString : (decodeString succeeds s).2.Owned succeeds held := by
  rcases decodeString_cases succeeds s with
    ⟨-, hstr⟩ | ⟨-, -, hstr⟩ | ⟨-, -, -, hstr⟩ | ⟨-, -, hsucc, hstr⟩ | ⟨-, -, hfails, hstr⟩ <;>
    rw [hstr]
  · exact h
  · exact h.assign_null.congr rfl rfl
  · exact h.assign_null.congr rfl rfl
  · exact (h.assign_block hsucc).congr rfl rfl
  · exact (h.malloc hfails).assign_null.congr rfl rfl

theorem Owned.decodeField (field : FieldType) :
    (decodeField succeeds field s).2.Owned succeeds held := by
  cases field with
  | string => exact h.decodeString
  | _ => exact h.decodeNumber _

theorem Owned.decodeFields (fields : List FieldType) :
    (decodeFields succeeds fields s).2.Owned succeeds held := by
  induction fields generalizing s with
  | nil => exact h
  | cons field fields ih =>
    rw [decodeFields_cons]
    split
    · exact ih (h.decodeField field)
    · exact h.decodeField field

theorem Owned.decodeSessions (count : Nat) :
    (decodeSessions succeeds count s).2.Owned succeeds held := by
  induction count generalizing s with
  | zero => exact h
  | succ count ih =>
    rw [decodeSessions_succ]
    split
    · exact ih (h.decodeFields sessionFields)
    · exact h.decodeFields sessionFields

end Decoding

theorem decodeFields_numbers {fields : List FieldType} (hfields : .string ∉ fields) (s : Decoding) :
    (decodeFields succeeds fields s).2.pointers = s.pointers ∧
      (decodeFields succeeds fields s).2.mallocs = s.mallocs := by
  induction fields generalizing s with
  | nil => exact ⟨rfl, rfl⟩
  | cons field fields ih =>
    rw [mem_cons, not_or] at hfields
    have hfield : (decodeField succeeds field s).2.pointers = s.pointers ∧
        (decodeField succeeds field s).2.mallocs = s.mallocs := by
      have hnum : ∀ width, (decodeNumber width s).2.pointers = s.pointers ∧
          (decodeNumber width s).2.mallocs = s.mallocs := by
        intro width
        rcases decodeNumber_cases width s with ⟨-, hnum⟩ | ⟨-, hnum⟩ <;> rw [hnum] <;> exact ⟨rfl, rfl⟩
      cases field with
      | string => exact absurd rfl hfields.1
      | _ => exact hnum _
    rw [decodeFields_cons]
    split
    · obtain ⟨hptrs, hmallocs⟩ := ih hfields.2 (decodeField succeeds field s).2
      exact ⟨hptrs.trans hfield.1, hmallocs.trans hfield.2⟩
    · exact hfield

/-! ## The names of a list -/

def NameComplete (succeeds : Nat → Bool) (mallocs : Nat) (bytes : List UInt8) : Prop :=
  stringSize (bytes.drop 8) = 0 ∨
    10 + stringSize (bytes.drop 8) ≤ bytes.length ∧ succeeds mallocs = true

theorem decodeSession_cases (succeeds : Nat → Bool) (s : Decoding) :
    s.bytes.length < 10 ∧ (decodeFields succeeds sessionFields s).1 = false ∧
        (decodeFields succeeds sessionFields s).2.pointers = s.pointers ∨
      10 ≤ s.bytes.length ∧ NameComplete succeeds s.mallocs s.bytes ∧
        (∃ pointer, decodeFields succeeds sessionFields s =
          (true, ⟨s.bytes.drop (10 + stringSize (s.bytes.drop 8)), s.mallocs + min 1 (stringSize (s.bytes.drop 8)),
            s.pointers ++ [pointer]⟩)) ∨
      10 ≤ s.bytes.length ∧ ¬NameComplete succeeds s.mallocs s.bytes ∧
        (decodeFields succeeds sessionFields s).1 = false ∧
        ∃ pointer, (decodeFields succeeds sessionFields s).2.pointers = s.pointers ++ [pointer] := by
  rw [sessionFields, decodeFields_cons, decodeField]
  rcases decodeNumber_cases 4 s with ⟨hshort, hfirst⟩ | ⟨hfour, hfirst⟩ <;> rw [hfirst]
  · exact .inl ⟨by omega, rfl, rfl⟩
  simp only [if_true, decodeFields_cons, decodeField]
  rcases decodeNumber_cases 4 { s with bytes := s.bytes.drop 4 } with ⟨hshort, hsecond⟩ | ⟨height, hsecond⟩ <;>
    rw [hsecond]
  · rw [length_drop] at hshort
    exact .inl ⟨by omega, rfl, rfl⟩
  simp only [if_true, drop_drop, Nat.reduceAdd, length_drop] at height ⊢
  have hcases := decodeString_cases succeeds { s with bytes := s.bytes.drop 8 }
  simp only [length_drop, drop_drop] at hcases
  unfold NameComplete
  rcases hcases with ⟨hshort, hstr⟩ | ⟨hlong, hzero, hstr⟩ | ⟨hlong, hsome, hcut, hstr⟩ |
    ⟨hwhole, hsome, hsucc, hstr⟩ | ⟨hwhole, hsome, hfails, hstr⟩ <;> rw [hstr]
  · exact .inl ⟨by omega, rfl, rfl⟩
  · refine .inr (.inl ⟨by omega, .inl hzero, .null, ?_⟩)
    rw [hzero]
    rfl
  · exact .inr (.inr ⟨by omega, by omega, rfl, .null, rfl⟩)
  · have hone : min 1 (stringSize (s.bytes.drop 8)) = 1 := by omega
    have hdrop : 8 + (2 + stringSize (s.bytes.drop 8)) = 10 + stringSize (s.bytes.drop 8) := by omega
    refine .inr (.inl ⟨by omega, .inr ⟨by omega, hsucc⟩, .block s.mallocs, ?_⟩)
    rw [hone, hdrop]
    rfl
  · refine .inr (.inr ⟨by omega, ?_, rfl, .null, rfl⟩)
    rw [hfails]
    simp [hsome]

/-- Of a list of `count` sessions, the length of the last name is reached. -/
def NamesReached (succeeds : Nat → Bool) : Nat → Nat → List UInt8 → Prop
  | 0, _, _ => True
  | count + 1, mallocs, bytes =>
    10 ≤ bytes.length ∧
      (count = 0 ∨ NameComplete succeeds mallocs bytes ∧
        NamesReached succeeds count (mallocs + min 1 (stringSize (bytes.drop 8)))
          (bytes.drop (10 + stringSize (bytes.drop 8))))

theorem decodeSessions_length (succeeds : Nat → Bool) (count : Nat) (s : Decoding) :
    (decodeSessions succeeds count s).2.pointers.length ≤ s.pointers.length + count ∧
      ((decodeSessions succeeds count s).2.pointers.length = s.pointers.length + count ↔
        NamesReached succeeds count s.mallocs s.bytes) := by
  induction count generalizing s with
  | zero => exact ⟨le_rfl, iff_of_true rfl trivial⟩
  | succ count ih =>
    rw [decodeSessions_succ, NamesReached]
    rcases decodeSession_cases succeeds s with ⟨hshort, hok, hptrs⟩ | ⟨hlong, hname, pointer, hses⟩ |
      ⟨hlong, hname, hok, pointer, hptrs⟩
    · rw [hok, if_neg Bool.false_ne_true, hptrs]
      exact ⟨by omega, iff_of_false (by omega) fun h => by omega⟩
    · obtain ⟨hle, hiff⟩ := ih ⟨s.bytes.drop (10 + stringSize (s.bytes.drop 8)),
        s.mallocs + min 1 (stringSize (s.bytes.drop 8)), s.pointers ++ [pointer]⟩
      simp only [length_append, length_singleton, Nat.add_assoc, Nat.add_comm 1 count] at hle hiff
      rw [hses, if_pos rfl]
      refine ⟨hle, hiff.trans ⟨fun h => ⟨hlong, .inr ⟨hname, h⟩⟩, fun h => ?_⟩⟩
      rcases h.2 with rfl | hrest
      · trivial
      · exact hrest.2
    · rw [hok, if_neg Bool.false_ne_true, hptrs, length_append, length_singleton]
      refine ⟨by omega, ⟨fun h => ⟨hlong, .inl (by omega)⟩, fun h => ?_⟩⟩
      rcases h.2 with rfl | hrest
      · rfl
      · exact absurd hrest.1 hname

/-! ## Messages -/

theorem freeStrings_unset {pointers : List Pointer} (h : .unset ∈ pointers) : freeStrings pointers = none := by
  obtain ⟨before, after, rfl⟩ := append_of_mem h
  rw [freeStrings_append, ← singleton_append, freeStrings_append, freeStrings_singleton]
  simp [Pointer.free]

theorem released_empty {ok : Bool} {msg : RawMessage} (hfree : freeMessage msg = some []) :
    (Decoded.mk ok msg 0).Released succeeds :=
  ⟨[], hfree, .nil⟩

/-- Behind the ids of a list of sessions: the array is allocated and the length of the last name is reached, if there
are any sessions. -/
def ListReached (succeeds : Nat → Bool) (bytes : List UInt8) : Prop :=
  5 ≤ bytes.length → ofBytes (bytes.take 1) ≠ 0 → ofBytes ((bytes.drop 1).take 4) ≠ 0 →
    succeeds 0 = true ∧ NamesReached succeeds (ofBytes ((bytes.drop 1).take 4)) 1 (bytes.drop 5)

theorem sessions_released_iff {ok : Bool} {cSessions : Nat} (howned : s.Owned succeeds [0])
    (hle : s.pointers.length ≤ cSessions) :
    (Decoded.mk ok { messageId := 16, cSessions, pSessionInfo := .block 0, pointers := s.pointers }
        s.mallocs).Released succeeds ↔ s.pointers.length = 0 + cSessions := by
  obtain ⟨freed, hfreed, hheld⟩ := howned
  have hfree : freeMessage { messageId := 16, cSessions, pSessionInfo := .block 0, pointers := s.pointers } =
      (freeStrings (s.pointers ++ replicate (cSessions - s.pointers.length) .unset)).bind fun freed =>
        some (freed ++ [0]) := rfl
  constructor
  · rintro ⟨freed', hfree', -⟩
    by_contra hless
    have hunset : Pointer.unset ∈ s.pointers ++ replicate (cSessions - s.pointers.length) .unset :=
      mem_append_right _ (mem_replicate.mpr ⟨by omega, rfl⟩)
    rw [hfree, freeStrings_unset hunset] at hfree'
    cases hfree'
  · intro hall
    have hnone : cSessions - s.pointers.length = 0 := by omega
    rw [hnone, replicate_zero, append_nil, hfreed, Option.bind_some] at hfree
    refine ⟨freed ++ [0], hfree, ?_⟩
    rw [Decoded.allocated, ← hheld]
    exact perm_append_comm

theorem enumerateSessionsResponse_released_iff :
    (decodeEnumerateSessionsResponse succeeds ⟨bytes, 0, []⟩).Released succeeds ↔ ListReached succeeds bytes := by
  unfold decodeEnumerateSessionsResponse ListReached
  have hempty : freeMessage { messageId := 16 } = some [] := rfl
  rcases decodeNumber_cases 1 ⟨bytes, 0, []⟩ with ⟨hshort, hres⟩ | ⟨hlong, hres⟩ <;> rw [hres] <;>
    dsimp only at *
  · exact iff_of_true (released_empty hempty) fun h => by omega
  by_cases hzero : ofBytes (bytes.take 1) = 0
  · rw [if_pos hzero]
    exact iff_of_true (released_empty hempty) fun _ h => absurd hzero h
  rw [if_neg hzero]
  rcases decodeNumber_cases 4 ⟨bytes.drop 1, 0, []⟩ with ⟨hshort, hcnt⟩ | ⟨hlong', hcnt⟩ <;> rw [hcnt] <;>
    simp only [length_drop, drop_drop, Nat.reduceAdd] at *
  · exact iff_of_true (released_empty hempty) fun h => by omega
  generalize ofBytes ((bytes.drop 1).take 4) = cSessions at *
  by_cases hnone : cSessions = 0
  · rw [if_pos hnone]
    exact iff_of_true (released_empty hempty) fun _ _ h => absurd hnone h
  rw [if_neg hnone]
  cases hsucc : succeeds 0 with
  | false =>
    have hmalloc : malloc succeeds ⟨bytes.drop 5, 0, []⟩ = (.null, ⟨bytes.drop 5, 1, []⟩) := by
      simp [malloc, hsucc]
    rw [hmalloc]
    refine iff_of_false ?_ fun h => ?_
    · rintro ⟨freed, hfree, -⟩
      have hnull : freeMessage { messageId := 16, cSessions } = none := if_neg hnone
      rw [hnull] at hfree
      cases hfree
    · exact absurd (h (by omega) hzero hnone).1 Bool.false_ne_true
  | true =>
    have hmalloc : malloc succeeds ⟨bytes.drop 5, 0, []⟩ = (.block 0, ⟨bytes.drop 5, 1, []⟩) := by
      simp [malloc, hsucc]
    rw [hmalloc]
    have howned : (Decoding.mk (bytes.drop 5) 1 []).Owned succeeds [0] := ⟨[], rfl, by simp [hsucc]⟩
    have hlen := decodeSessions_length succeeds cSessions ⟨bytes.drop 5, 1, []⟩
    have hend := howned.decodeSessions cSessions
    have hcondition : (5 ≤ bytes.length → ofBytes (bytes.take 1) ≠ 0 → cSessions ≠ 0 →
        true = true ∧ NamesReached succeeds cSessions 1 (bytes.drop 5)) ↔
          NamesReached succeeds cSessions 1 (bytes.drop 5) :=
      ⟨fun h => (h (by omega) hzero hnone).2, fun h _ _ _ => ⟨rfl, h⟩⟩
    rw [hcondition, ← hlen.2]
    exact sessions_released_iff hend (by simpa using hlen.1)

theorem querySessionInformationResponse_released (succeeds : Nat → Bool) (bytes : List UInt8) :
    (decodeQuerySessionInformationResponse succeeds ⟨bytes, 0, []⟩).Released succeeds := by
  unfold decodeQuerySessionInformationResponse
  rcases decodeNumber_cases 1 ⟨bytes, 0, []⟩ with ⟨-, hres⟩ | ⟨-, hres⟩ <;> rw [hres] <;> dsimp only
  · exact released_empty rfl
  split
  · exact released_empty rfl
  rcases decodeNumber_cases 2 ⟨bytes.drop 1, 0, []⟩ with ⟨-, htype⟩ | ⟨-, htype⟩ <;> rw [htype] <;> dsimp only
  · exact released_empty rfl
  generalize ofBytes ((bytes.drop 1).take 2) = t
  have howned : (Decoding.mk ((bytes.drop 1).drop 2) 0 []).Owned succeeds [] := ⟨[], rfl, rfl⟩
  by_cases hstr : t = 3
  · subst hstr
    obtain ⟨freed, hfreed, hheld⟩ := howned.decodeFields (valueFields 3)
    refine ⟨freed, hfreed, ?_⟩
    rw [Decoded.allocated, ← hheld, nil_append]
  · -- Nothing but a string is allocated, and nothing but a string is freed.
    have hnums : .string ∉ valueFields t := by
      unfold valueFields
      split <;> first | exact absurd rfl hstr | decide
    have hmallocs := (@decodeFields_numbers succeeds _ hnums ⟨(bytes.drop 1).drop 2, 0, []⟩).2
    rw [hmallocs]
    exact released_empty (if_neg fun h => hstr h.2)

theorem code_of_ofCode? {code : UInt16} {id : MessageId} (h : MessageId.ofCode? code = some id) : id.code = code := by
  simpa using find?_some h

theorem freeMessage_zero (messageId : UInt16) : freeMessage { messageId } = some [] := by
  unfold freeMessage
  split <;> rfl

theorem freeMessage_strings {messageId : UInt16} {id : MessageId} (hcode : MessageId.ofCode? messageId = some id)
    (hlist : id ≠ .enumerateSessionsResponse) (hquery : id ≠ .querySessionInformationResponse)
    (pointers : List Pointer) : freeMessage { messageId, pointers } = freeStrings pointers := by
  rw [freeMessage, hcode]
  cases id with
  | enumerateSessionsResponse => exact absurd rfl hlist
  | querySessionInformationResponse => exact absurd rfl hquery
  | _ => rfl

/-- A message that has been decoded, or has not, is freed as it should be exactly if it is not a list of sessions that
ends before its last name. -/
theorem released_iff :
    (decodeMessage succeeds bytes).Released succeeds ↔
      (ofBytes (bytes.take 2) = 16 → ListReached succeeds (bytes.drop 4)) := by
  unfold decodeMessage
  rcases decodeNumber_cases 2 ⟨bytes, 0, []⟩ with ⟨hshort, hid⟩ | ⟨hlong, hid⟩ <;> rw [hid] <;> dsimp only at *
  · refine iff_of_true (released_empty rfl) fun _ h => ?_
    rw [length_drop] at h
    omega
  generalize hmsgId : UInt16.ofNat (ofBytes (bytes.take 2)) = messageId
  rcases decodeNumber_cases 2 ⟨bytes.drop 2, 0, []⟩ with ⟨hshort, hreq⟩ | ⟨hlong', hreq⟩ <;>
    rw [hreq] <;> simp only [length_drop, drop_drop, Nat.reduceAdd] at *
  · refine iff_of_true (released_empty (freeMessage_zero messageId)) fun _ h => ?_
    rw [length_drop] at h
    omega
  have hlist : MessageId.ofCode? messageId = some .enumerateSessionsResponse ↔ ofBytes (bytes.take 2) = 16 := by
    have hlt : ofBytes (bytes.take 2) < 65536 := by
      have hlt := ofBytes_lt (bytes.take 2)
      rwa [length_take, Nat.min_eq_left hlong] at hlt
    rw [← hmsgId]
    constructor
    · intro h
      have hcode := congrArg UInt16.toNat (code_of_ofCode? h)
      rw [UInt16.toNat_ofNat', Nat.mod_eq_of_lt hlt] at hcode
      exact hcode.symm
    · intro h
      rw [h]
      rfl
  rw [← hlist]
  have howned : (Decoding.mk (bytes.drop 4) 0 []).Owned succeeds [] := ⟨[], rfl, rfl⟩
  split
  · rename_i hcode
    rw [enumerateSessionsResponse_released_iff, hcode]
    exact ⟨fun h _ => h, fun h => h rfl⟩
  · rename_i hcode
    rw [hcode]
    exact iff_of_true (querySessionInformationResponse_released succeeds _) fun h => by cases h
  · rename_i id hlist' hquery hcode
    obtain ⟨freed, hfreed, hheld⟩ := howned.decodeFields (fields id)
    refine iff_of_true ⟨freed, ?_, ?_⟩ fun h => absurd (Option.some.inj (hcode.symm.trans h)) hlist'
    · exact (freeMessage_strings hcode hlist' hquery _).trans hfreed
    · rw [Decoded.allocated, ← hheld, nil_append]
  · rename_i hcode
    rw [hcode]
    exact iff_of_true (released_empty (freeMessage_zero messageId)) fun h => by cases h

/-- The second session of a list is missing; and the array is, where there is no memory for it. -/
theorem list_not_released :
    ¬(decodeMessage (fun _ => true) [16, 0, 7, 0, 1, 2, 0, 0, 0, 3, 0, 0, 0, 0, 0, 0, 0, 1, 0, 58]).Released
        (fun _ => true) ∧
      ¬(decodeMessage (fun _ => false) [16, 0, 7, 0, 1, 2, 0, 0, 0]).Released fun _ => false := by
  constructor <;> rintro ⟨freed, hfree, -⟩ <;> cases hfree

end FreeRDS.Fdsapi.Release
