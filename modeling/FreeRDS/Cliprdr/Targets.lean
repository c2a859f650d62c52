import Mathlib.Data.List.Lattice
import Mathlib.Data.List.Perm.Subperm

/-! # Targets of the clipboard

The formats that the client announces become targets of an X selection, and a target that is requested is turned back
to a format. The formats are announced with the numbers of the client. The number that is requested from the client for
a name is the one which the clipboard of the server has for that name.
-/

namespace FreeRDS.Cliprdr

open List

/-- `CLIPRDR_FORMAT`. -/
structure Format where
  formatId : UInt32
  formatName : Option String
  deriving DecidableEq, Repr

def cfText : UInt32 := 1

def cfOemText : UInt32 := 7

def cfDib : UInt32 := 8

def cfUnicodeText : UInt32 := 13

def cfMax : UInt32 := 18

/-! ## The list of targets -/

/-- The targets which `freerds_cliprdr_build_target_list` adds for a format, one after the other. -/
def Format.targets (format : Format) : List String :=
  if format.formatId < cfMax then
    if format.formatId = cfText ∨ format.formatId = cfOemText ∨ format.formatId = cfUnicodeText then ["UTF8_STRING"]
    else if format.formatId = cfDib then ["image/bmp"]
    else []
  else
    match format.formatName with
    | none => []
    | some name => if name = "HTML Format" then [name, "text/html"] else [name]

/-- `freerds_cliprdr_add_target_to_list`, which fails where it would write behind the slots. -/
def addTargetToList (numTargetsMax : Nat) (targets : List String) (name : String) : Option (List String) :=
  if name ∈ targets then some targets
  else if targets.length < numTargetsMax then some (targets ++ [name])
  else none

def added (formats : List Format) : List String := "TIMESTAMP" :: "TARGETS" :: formats.flatMap Format.targets

def buildTargetList (formats : List Format) : Option (List String) :=
  (added formats).foldlM (addTargetToList (formats.length + 16)) []

/-- If the names are among so many as there are slots, there is a slot for each. -/
theorem foldlM_addTargetToList {names targets slots : List String} {numTargetsMax : Nat} (hnodup : targets.Nodup)
    (hslots : targets ++ names ⊆ slots) (hmax : slots.length ≤ numTargetsMax) :
    ∃ result, names.foldlM (addTargetToList numTargetsMax) targets = some result ∧ result.Nodup ∧
      ∀ name, name ∈ result ↔ name ∈ targets ∨ name ∈ names := by
  induction names generalizing targets with
  | nil => exact ⟨targets, rfl, hnodup, by simp⟩
  | cons name names ih =>
    rw [foldlM_cons, addTargetToList]
    by_cases hmem : name ∈ targets
    · obtain ⟨result, heq, hresult, hall⟩ := ih hnodup fun other h => hslots (by grind)
      refine ⟨result, by simpa [hmem] using heq, hresult, fun other => ?_⟩
      grind
    · have hnew : (targets ++ [name]).Nodup := by
        rw [(perm_append_singleton name targets).nodup_iff]
        exact nodup_cons.mpr ⟨hmem, hnodup⟩
      have hsub : targets ++ [name] ++ names ⊆ slots := by simpa using hslots
      have hlen := (hnew.subperm fun other h => hsub (mem_append_left names h)).length_le
      obtain ⟨result, heq, hresult, hall⟩ := ih hnew hsub
      refine ⟨result, ?_, hresult, fun other => by rw [hall]; simp [or_assoc]⟩
      have hroom : targets.length < numTargetsMax := by
        rw [length_append, length_singleton] at hlen
        omega
      simpa [hmem, hroom] using heq

/-- A format has one target of its own at most. The other one is the same for all. -/
theorem mem_targets {format : Format} {name : String} (h : name ∈ format.targets) :
    name = "text/html" ∨ format.targets.head? = some name := by
  unfold Format.targets at *
  grind

theorem added_subset (formats : List Format) :
    added formats ⊆ ["TIMESTAMP", "TARGETS", "text/html"] ++ formats.filterMap (·.targets.head?) := by
  intro name hmem
  simp only [added, mem_cons, mem_flatMap] at hmem
  obtain rfl | rfl | ⟨format, hformat, hname⟩ := hmem
  · simp
  · simp
  · obtain rfl | hhead := mem_targets hname
    · simp
    · exact mem_append_right _ (mem_filterMap.mpr ⟨format, hformat, hhead⟩)

/-- `freerds_cliprdr_is_format_in_list` by a number. -/
def hasFormatId (formats : List Format) (formatId : UInt32) : Bool := formats.any (·.formatId == formatId)

/-- `freerds_cliprdr_is_format_in_list` by a name. -/
def hasFormatName (formats : List Format) (name : String) : Bool := formats.any (·.formatName == some name)

/-- The part of `CLIPRDR_PLUGIN_CONTEXT` that a request depends on. The function `getFormatId` is `ClipboardGetFormatId`
on `system`. -/
structure Context where
  window : Nat
  timestampAtom : Nat
  targetsAtom : Nat
  getFormatId : String → UInt32
  clientFormats : List Format
  targets : List String

structure SelectionRequest where
  owner : Nat
  requestor : Nat
  target : Nat

namespace Context

variable (context : Context)

/-- `freerds_cliprdr_map_target_name_to_format_id`. -/
def mapTargetNameToFormatId (target : Option String) : UInt32 :=
  match target with
  | none => 0
  | some target =>
    let formats := context.clientFormats
    if target ∉ context.targets then 0
    else if hasFormatName formats target ∧ context.getFormatId target ≠ 0 then context.getFormatId target
    else if target = "text/html" then
      if hasFormatName formats "HTML Format" then context.getFormatId "HTML Format" else 0
    else if target = "image/bmp" then if hasFormatId formats cfDib then cfDib else 0
    else if target = "UTF8_STRING" then
      if hasFormatId formats cfUnicodeText then cfUnicodeText
      else if hasFormatId formats cfOemText then cfOemText
      else if hasFormatId formats cfText then cfText
      else 0
    else 0

/-- The `requestedFormatId` of what `freerds_cliprdr_process_selection_request` sends to the client, if it sends a
request. The function `getAtomName` is `XGetAtomName`. -/
def processSelectionRequest (getAtomName : Nat → Option String) (request : SelectionRequest) : Option UInt32 :=
  let formatId := context.mapTargetNameToFormatId (getAtomName request.target)
  if request.owner = context.window ∧ request.target ≠ context.timestampAtom ∧
      request.target ≠ context.targetsAtom ∧ request.requestor ≠ context.window ∧ formatId ≠ 0 then some formatId
  else none

/-- The name whose number in the clipboard of the server is requested. -/
def localName (target : String) : Option String :=
  if hasFormatName context.clientFormats target ∧ context.getFormatId target ≠ 0 then some target
  else if target = "text/html" then some "HTML Format"
  else none

def Mapped (target : String) (formatId : UInt32) : Prop :=
  ∃ format ∈ context.clientFormats, format.formatId = formatId ∧ target ∈ format.targets

variable {context}

theorem mapped_of_hasFormatId {formatId : UInt32} {target : String} (h : hasFormatId context.clientFormats formatId)
    (htargets : ∀ name, (Format.mk formatId name).targets = [target]) : context.Mapped target formatId := by
  obtain ⟨format, hmem, hid⟩ := any_eq_true.mp h
  obtain rfl := beq_iff_eq.mp hid
  exact ⟨format, hmem, rfl, by rw [htargets format.formatName]; exact mem_singleton_self target⟩

theorem mapTargetNameToFormatId_cases {target : String} {formatId : UInt32}
    (h : context.mapTargetNameToFormatId (some target) = formatId) (hne : formatId ≠ 0) :
    (∃ name, context.localName target = some name ∧ formatId = context.getFormatId name) ∨
      context.localName target = none ∧ context.Mapped target formatId := by
  unfold mapTargetNameToFormatId localName at *
  by_cases hname : hasFormatName context.clientFormats target ∧ context.getFormatId target ≠ 0
  · grind
  · by_cases hhtml : target = "text/html"
    · grind
    · refine .inr ⟨by grind, ?_⟩
      simp only [if_neg hname, if_neg hhtml] at h
      split_ifs at h with _ himage hid htext hunicode hoem hansi
      all_goals first
        | exact absurd h.symm hne
        | (subst h; subst target; exact mapped_of_hasFormatId ‹_› fun _ => rfl)

end Context

/-- A client that has one number for `HTML Format`, and a clipboard that has another one. -/
def Sample.html (number : UInt32) : Context where
  window := 1
  timestampAtom := 2
  targetsAtom := 3
  getFormatId name := if name = "HTML Format" then 0xC006 else 0
  clientFormats := [⟨number, some "HTML Format"⟩]
  targets := ["TIMESTAMP", "TARGETS", "HTML Format", "text/html"]

end FreeRDS.Cliprdr
