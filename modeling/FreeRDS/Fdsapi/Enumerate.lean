import FreeRDS.Fdsapi.Messages
import FreeRDS.Lib.Framing
import Mathlib.Algebra.Order.BigOperators.Group.List

/-! # The block of an enumeration

`FreeRDS_WTSEnumerateSessionsA` returns the sessions of a response in one block: the structures, and behind them the
names that they point to. A first pass adds up what the names take, and a second one fills the block.
`FreeRDS_WTSEnumerateSessionsW` makes another block of what it has returned. There is memory for both.
-/

namespace FreeRDS.Fdsapi

open Lib Wire List

/-- `WTS_SESSION_INFOA` and `WTS_SESSION_INFOW`. The pointer is an offset in the block. -/
structure WTSSessionInfo where
  sessionId : UInt32
  pWinStationName : Nat
  state : UInt32

/-- With the padding in front of the pointer and behind the state. -/
def sizeOfSessionInfo : Nat := 24

structure SessionBlock where
  size : Nat
  memory : Memory UInt8
  pSessionInfo : List WTSSessionInfo

/-- The second pass, where `size` and what is added to `pExtra` are of 32 bits. -/
def fillA : List SessionInfo → Nat → Memory UInt8 → List WTSSessionInfo × Memory UInt8
  | [], _, memory => ([], memory)
  | session :: sessions, pExtra, memory =>
    let size := strlen session.winStationName % 2 ^ 32
    let memory := if size > 0 then memory.write pExtra (CString.text session.winStationName ++ [0]) else memory
    let (infos, memory) := fillA sessions (pExtra + (size + 1) % 2 ^ 32) memory
    (⟨session.sessionId, pExtra, session.connectState⟩ :: infos, memory)

/-- `FreeRDS_WTSEnumerateSessionsA` with a response, and nothing with `FALSE`. -/
def wtsEnumerateSessionsA (response : EnumerateSessionsResponse) : Option SessionBlock :=
  if response.result = 0 then none
  else if response.cSessions = 0 then some ⟨0, fun _ => 0, []⟩
  else
    let structures := response.cSessions.toNat * sizeOfSessionInfo
    let cbExtra := response.pSessionInfo.foldl (fun cbExtra session =>
      (cbExtra + if session.winStationName.isSome then strlen session.winStationName + 1 else 0) % 2 ^ 32) 0
    let (infos, memory) := fillA response.pSessionInfo structures fun _ => 0
    some ⟨(structures + cbExtra) % 2 ^ 32, memory, infos⟩

/-- A session as the caller of `FreeRDS_WTSEnumerateSessionsA` finds it. -/
structure FoundSession where
  sessionId : UInt32
  name : CString
  state : UInt32

/-- The second pass: a number of characters is added to the address of a byte. `MultiByteToWideChar` returns the number
of characters with the one that ends them, and writes no more than it may. -/
def fillW (toWide : CString → List UInt16) :
    List FoundSession → Nat → Nat → Memory UInt8 → List WTSSessionInfo × Memory UInt8
  | [], _, _, memory => ([], memory)
  | session :: sessions, pExtra, cbExtra, memory =>
    let wide := toWide session.name ++ [0]
    let size := wide.length % 2 ^ 32
    let memory := memory.write pExtra ((wide.take cbExtra).flatMap encodeUINT16)
    let (infos, memory) := fillW toWide sessions (pExtra + size) ((cbExtra + 2 ^ 32 - size) % 2 ^ 32) memory
    (⟨session.sessionId, pExtra, session.state⟩ :: infos, memory)

variable (toWide : CString → List UInt16) (sessions : List FoundSession)

/-- `FreeRDS_WTSEnumerateSessionsW` with the sessions of the other call. -/
def wtsEnumerateSessionsW : SessionBlock :=
  if sessions.length = 0 then ⟨0, fun _ => 0, []⟩
  else
    let structures := sessions.length * sizeOfSessionInfo
    let cbExtra := sessions.foldl (fun cbExtra session =>
      (cbExtra + (toWide session.name ++ [0]).length) % 2 ^ 32) 0
    let (infos, memory) := fillW toWide sessions structures cbExtra fun _ => 0
    ⟨(structures + cbExtra) % 2 ^ 32, memory, infos⟩

/-! ## What the block is for -/

namespace SessionBlock

/-- The pointers with the names that they are to point to. -/
def copies (block : SessionBlock) (names : List (List UInt8)) : List (Nat × List UInt8) :=
  (block.pSessionInfo.map WTSSessionInfo.pWinStationName).zip names

structure Holds (block : SessionBlock) (names : List (List UInt8)) : Prop where
  length : block.pSessionInfo.length = names.length
  inside : ∀ copy ∈ block.copies names, copy.1 + copy.2.length ≤ block.size
  copied : ∀ copy ∈ block.copies names,
    Memory.contents (fun i => block.memory (copy.1 + i)) copy.2.length = copy.2
  apart : (block.copies names).Pairwise fun copy copy' =>
    copy.1 + copy.2.length ≤ copy'.1 ∨ copy'.1 + copy'.2.length ≤ copy.1

variable {size : Nat} {memory : Memory UInt8} {infos : List WTSSessionInfo} {names : List (List UInt8)}

theorem Holds.nil (size : Nat) (memory : Memory UInt8) : Holds ⟨size, memory, []⟩ [] :=
  ⟨rfl, by simp [copies], by simp [copies], .nil⟩

theorem Holds.cons (h : Holds ⟨size, memory, infos⟩ names) {info : WTSSessionInfo} {name : List UInt8}
    (hin : info.pWinStationName + name.length ≤ size)
    (hcopy : Memory.contents (fun i => memory (info.pWinStationName + i)) name.length = name)
    (hafter : ∀ later ∈ infos, info.pWinStationName + name.length ≤ later.pWinStationName) :
    Holds ⟨size, memory, info :: infos⟩ (name :: names) where
  length := congrArg (· + 1) h.length
  inside := forall_mem_cons.mpr ⟨hin, h.inside⟩
  copied := forall_mem_cons.mpr ⟨hcopy, h.copied⟩
  apart := by
    refine .cons (fun copy hmem => .inl ?_) h.apart
    obtain ⟨later, hlater, heq⟩ := mem_map.mp (of_mem_zip hmem).1
    exact (hafter later hlater).trans_eq heq

end SessionBlock

theorem contents_of_write (memory : Memory UInt8) (offset : Nat) (data : List UInt8) :
    Memory.contents (fun i => memory.write offset data (offset + i)) data.length = data := by
  apply ext_getElem
  · simp
  · intro i hi hi'
    simp [Memory.contents, Memory.write, hi']

theorem foldl_sum_mod {α : Type*} (f : α → Nat) (list : List α) (start : Nat) :
    list.foldl (fun sum a => (sum + f a) % 2 ^ 32) (start % 2 ^ 32) = (start + (list.map f).sum) % 2 ^ 32 := by
  induction list generalizing start with
  | nil => simp
  | cons a list ih => rw [foldl_cons, Nat.mod_add_mod, ih, map_cons, sum_cons, Nat.add_assoc]

/-- What the second pass takes for a name. -/
def SessionInfo.copy (session : SessionInfo) : List UInt8 := CString.text session.winStationName ++ [0]

theorem SessionInfo.copy_length (session : SessionInfo) : session.copy.length = strlen session.winStationName + 1 := by
  simp [SessionInfo.copy, strlen]

def takenA (sessions : List SessionInfo) : Nat := (sessions.map fun session => session.copy.length).sum

theorem fillA_holds {sessions : List SessionInfo} {pExtra size : Nat} {memory : Memory UInt8}
    (hzero : ∀ i, pExtra ≤ i → memory i = 0) (hfits : pExtra + takenA sessions ≤ size) (hsize : size < 2 ^ 32) :
    SessionBlock.Holds ⟨size, (fillA sessions pExtra memory).2, (fillA sessions pExtra memory).1⟩
        (sessions.map SessionInfo.copy) ∧
      (∀ i < pExtra, (fillA sessions pExtra memory).2 i = memory i) ∧
      ∀ info ∈ (fillA sessions pExtra memory).1, pExtra ≤ info.pWinStationName := by
  induction sessions generalizing pExtra memory with
  | nil => exact ⟨.nil .., fun _ _ => rfl, by simp [fillA]⟩
  | cons session sessions ih =>
    have hlen := session.copy_length
    rw [takenA, map_cons, sum_cons] at hfits
    have hfirst : fillA (session :: sessions) pExtra memory =
        let (infos, memory) := fillA sessions (pExtra + session.copy.length) (memory.write pExtra session.copy)
        (⟨session.sessionId, pExtra, session.connectState⟩ :: infos, memory) := by
      rw [fillA, Nat.mod_eq_of_lt (by omega), Nat.mod_eq_of_lt (by omega), ← hlen]
      dsimp only
      split_ifs with hsome
      · rfl
      · -- The byte that ends the empty name is zero already.
        have hcopy : session.copy = [0] := by
          have hnil : CString.text session.winStationName = [] := length_eq_zero_iff.mp (by simpa [strlen] using hsome)
          rw [SessionInfo.copy, hnil, nil_append]
        have hsame : memory.write pExtra session.copy = memory := by
          funext i
          rw [hcopy, Memory.write]
          split_ifs with hle
          · rcases Nat.eq_or_lt_of_le hle with rfl | hlt
            · simp [hzero]
            · rw [getElem?_eq_none (by simp; omega), Option.getD_none]
          · rfl
        rw [hsame]
    have hzero' : ∀ i, pExtra + session.copy.length ≤ i → memory.write pExtra session.copy i = 0 := by
      intro i hi
      rw [Memory.write, if_pos (by omega), getElem?_eq_none (by omega), Option.getD_none]
      exact hzero i (by omega)
    obtain ⟨hholds, hkept, hafter⟩ := ih hzero' (by rw [takenA]; omega)
    rw [hfirst]
    generalize fillA sessions (pExtra + session.copy.length) (memory.write pExtra session.copy) = rest
      at hholds hkept hafter ⊢
    have hcopy : Memory.contents (fun i => rest.2 (pExtra + i)) session.copy.length = session.copy := by
      refine .trans (map_congr_left fun i hi => ?_) (contents_of_write memory pExtra session.copy)
      exact hkept (pExtra + i) (Nat.add_lt_add_left (mem_range.mp hi) pExtra)
    refine ⟨hholds.cons (by dsimp only; omega) hcopy hafter, fun i hi => ?_, ?_⟩
    · rw [hkept i (by omega), Memory.write, if_neg (Nat.not_le.mpr hi)]
    · exact forall_mem_cons.mpr ⟨Nat.le_refl _, fun info hinfo => (Nat.le_add_right _ _).trans (hafter info hinfo)⟩

/-- Where the last name ends, if all of them are inside. -/
theorem fillA_end {sessions : List SessionInfo} {pExtra size : Nat} {memory block : Memory UInt8}
    (hinside : ∀ copy ∈ SessionBlock.copies ⟨size, block, (fillA sessions pExtra memory).1⟩ (sessions.map SessionInfo.copy),
      copy.1 + copy.2.length ≤ size)
    (hsize : size < 2 ^ 32) (hne : sessions ≠ []) : pExtra + takenA sessions ≤ size := by
  induction sessions generalizing pExtra memory with
  | nil => exact absurd rfl hne
  | cons session sessions ih =>
    obtain ⟨hfirst, hrest⟩ := forall_mem_cons.mp hinside
    have hlen := session.copy_length
    have hadvance : (strlen session.winStationName % 2 ^ 32 + 1) % 2 ^ 32 = session.copy.length := by
      dsimp only at hfirst
      rw [Nat.mod_eq_of_lt (by omega), Nat.mod_eq_of_lt (by omega), hlen]
    rw [takenA, map_cons, sum_cons]
    by_cases hlast : sessions = []
    · rw [hlast, map_nil, sum_nil]
      exact hfirst
    · have hend := ih hrest hlast
      rw [hadvance, Nat.add_assoc] at hend
      exact hend

/-- What the first pass adds up. -/
def sizedA (sessions : List SessionInfo) : Nat :=
  (sessions.map fun session =>
    if session.winStationName.isSome then strlen session.winStationName + 1 else 0).sum

theorem sizedA_lt {sessions : List SessionInfo} {session : SessionInfo} (hmem : session ∈ sessions)
    (hnone : session.winStationName = none) : sizedA sessions < takenA sessions := by
  refine sum_lt_sum _ _ (fun session _ => ?_) ⟨session, hmem, ?_⟩
  · rw [session.copy_length]
    split_ifs
    exacts [Nat.le_refl _, Nat.zero_le _]
  · rw [session.copy_length, hnone]
    exact Nat.succ_pos _

theorem sizedA_eq {sessions : List SessionInfo} (h : ∀ session ∈ sessions, session.winStationName ≠ none) :
    sizedA sessions = takenA sessions := by
  refine congrArg sum (map_congr_left fun session hmem => ?_)
  rw [if_pos (Option.isSome_iff_ne_none.mpr (h session hmem)), session.copy_length]

/--
The names of an enumeration lie in the block, one behind the other and each with the byte that ends it, if and only if
the call fails, or no name is `NULL` and the block has less than four gigabytes.
-/
theorem session_names_copied_iff (response : EnumerateSessionsResponse) :
    (∀ block, wtsEnumerateSessionsA response = some block → block.Holds (response.pSessionInfo.map SessionInfo.copy)) ↔
      response.result = 0 ∨
        (∀ session ∈ response.pSessionInfo, session.winStationName ≠ none) ∧
          response.pSessionInfo.length * sizeOfSessionInfo + takenA response.pSessionInfo < 2 ^ 32 := by
  by_cases hres : response.result = 0
  · simp [wtsEnumerateSessionsA, hres]
  have hcount := response.length_eq hres
  by_cases hzero : response.cSessions = 0
  · have hnil : response.pSessionInfo = [] := length_eq_zero_iff.mp (by rw [hcount, hzero]; rfl)
    rw [wtsEnumerateSessionsA, if_neg hres, if_pos hzero, hnil]
    refine iff_of_true (fun block heq => ?_) (.inr ⟨by simp, by decide⟩)
    cases heq
    exact .nil ..
  have hne : response.pSessionInfo ≠ [] := by
    intro hnil
    rw [hnil] at hcount
    exact hzero (UInt32.toNat_inj.mp hcount.symm)
  have hsum := foldl_sum_mod (fun session : SessionInfo =>
    if session.winStationName.isSome then strlen session.winStationName + 1 else 0) response.pSessionInfo 0
  rw [Nat.zero_mod, Nat.zero_add] at hsum
  change _ = sizedA _ % 2 ^ 32 at hsum
  rw [wtsEnumerateSessionsA, if_neg hres, if_neg hzero, ← hcount, hsum]
  simp only [Option.some.injEq, forall_eq', Nat.add_mod_mod]
  generalize response.pSessionInfo = sessions at hne ⊢
  constructor
  · intro h
    have hend := fillA_end h.inside (Nat.mod_lt _ (by decide)) hne
    have hle := Nat.mod_le (sessions.length * sizeOfSessionInfo + sizedA sessions) (2 ^ 32)
    have hlt := Nat.mod_lt (sessions.length * sizeOfSessionInfo + sizedA sessions) (by decide : 0 < 2 ^ 32)
    refine .inr ⟨fun session hmem hnone => ?_, hend.trans_lt hlt⟩
    have hless := sizedA_lt hmem hnone
    omega
  · rintro (h | ⟨hsome, hfits⟩)
    · exact absurd h hres
    · rw [sizedA_eq hsome, Nat.mod_eq_of_lt hfits]
      exact (fillA_holds (fun _ _ => rfl) (Nat.le_refl _) hfits).1

/-- A session without a name: its name is to be empty, and there is no byte for it. -/
theorem session_name_outside : ∃ response : EnumerateSessionsResponse,
    response.pSessionInfo = [⟨1, 0, none⟩] ∧ ∃ block, wtsEnumerateSessionsA response = some block ∧
      block.size = 24 ∧ block.pSessionInfo.map WTSSessionInfo.pWinStationName = [24] ∧
      ¬block.Holds (response.pSessionInfo.map SessionInfo.copy) := by
  refine ⟨⟨1, 1, [⟨1, 0, none⟩], fun _ => rfl⟩, rfl, _, rfl, rfl, rfl, fun h => ?_⟩
  exact absurd (h.inside (24, [0]) mem_cons_self) (by decide)

/-! ## Wide characters -/

def FoundSession.copy (toWide : CString → List UInt16) (session : FoundSession) : List UInt8 :=
  (toWide session.name ++ [0]).flatMap encodeUINT16

theorem FoundSession.copy_length (toWide : CString → List UInt16) (session : FoundSession) :
    (session.copy toWide).length = 2 * (toWide session.name ++ [0]).length := by
  generalize hwide : toWide session.name ++ [0] = wide
  rw [copy, hwide, length_flatMap]
  simp [encodeUINT16, Nat.mul_comm]

def takenW : Nat :=
  (sessions.map fun session => (toWide session.name ++ [0]).length).sum

/-- The last name does not end where its number of characters says. -/
theorem fillW_end {toWide : CString → List UInt16} {sessions : List FoundSession} {pExtra cbExtra size : Nat}
    {memory block : Memory UInt8}
    (hinside : ∀ copy ∈ SessionBlock.copies ⟨size, block, (fillW toWide sessions pExtra cbExtra memory).1⟩
      (sessions.map (FoundSession.copy toWide)), copy.1 + copy.2.length ≤ size)
    (hsize : size < 2 ^ 32) (hne : sessions ≠ []) : pExtra + takenW toWide sessions < size := by
  induction sessions generalizing pExtra cbExtra memory with
  | nil => exact absurd rfl hne
  | cons session sessions ih =>
    obtain ⟨hfirst, hrest⟩ := forall_mem_cons.mp hinside
    have hlen := session.copy_length toWide
    have hpos : 0 < (toWide session.name ++ [0]).length := by simp
    dsimp only at hfirst
    rw [takenW, map_cons, sum_cons]
    by_cases hlast : sessions = []
    · rw [hlast, map_nil, sum_nil]
      omega
    · have hend := ih hrest hlast
      rw [Nat.mod_eq_of_lt (by omega), Nat.add_assoc] at hend
      exact hend

/-- The names of the wide enumeration never lie in the block, unless there are none. -/
theorem wide_session_names_copied_iff :
    (wtsEnumerateSessionsW toWide sessions).Holds (sessions.map (FoundSession.copy toWide)) ↔ sessions = [] := by
  constructor
  · intro h
    by_contra hne
    have hsum := foldl_sum_mod (fun session : FoundSession => (toWide session.name ++ [0]).length) sessions 0
    rw [Nat.zero_mod, Nat.zero_add] at hsum
    change _ = takenW _ _ % 2 ^ 32 at hsum
    rw [wtsEnumerateSessionsW, if_neg (fun hnil => hne (length_eq_zero_iff.mp hnil)), hsum] at h
    simp only [Nat.add_mod_mod] at h
    have hend := fillW_end h.inside (Nat.mod_lt _ (by decide)) hne
    have hle := Nat.mod_le (sessions.length * sizeOfSessionInfo + takenW toWide sessions) (2 ^ 32)
    omega
  · rintro rfl
    exact .nil ..

/-- A session with an empty name: the block has one byte for a character of two. -/
theorem wide_session_name_outside :
    let block := wtsEnumerateSessionsW (fun _ => []) [⟨1, ⟨[], List.not_mem_nil⟩, 0⟩]
    block.size = 25 ∧ block.pSessionInfo.map WTSSessionInfo.pWinStationName = [24] ∧ ¬block.Holds [[0, 0]] := by
  refine ⟨rfl, rfl, fun h => ?_⟩
  exact absurd (h.inside (24, [0, 0]) mem_cons_self) (by decide)

end FreeRDS.Fdsapi
