import Mathlib.Data.List.Basic

/-! # Keys of the X server

A key that the client repeats is pressed again and again. The X server wants it released in between.
-/

namespace FreeRDS.X11

@[ext] structure Key where
  type : Int
  scancode : Int
  deriving DecidableEq, Repr

/-- `KeyPress`. -/
def keyPress : Int := 2

/-- `KeyRelease`. -/
def keyRelease : Int := 3

/-- The static variables of `rdpEnqueueKey`, and what it has handed to the device. -/
structure Keyboard where
  lastType : Int := 0
  lastScancode : Int := 0
  events : List Key := []

def Keyboard.rdpEnqueueKey (keyboard : Keyboard) (key : Key) : Keyboard :=
  let keyboard :=
    if _h : key.type = keyPress ∧ key.type = keyboard.lastType ∧ key.scancode = keyboard.lastScancode then
      keyboard.rdpEnqueueKey ⟨keyRelease, key.scancode⟩
    else keyboard
  { lastType := key.type, lastScancode := key.scancode, events := keyboard.events ++ [key] }
termination_by if key.type = keyPress then 1 else 0
decreasing_by simp [_h, keyPress, keyRelease]

/-- The key, after a release if it was pressed before and is pressed again. -/
def repeated (previous : Option Key) (key : Key) : List Key :=
  if key.type = keyPress ∧ previous = some key then [⟨keyRelease, key.scancode⟩, key] else [key]

namespace Keyboard

/-- The last key is remembered. Before the first one, none is that is pressed. -/
def Remembers (keyboard : Keyboard) : Option Key → Prop
  | none => keyboard.lastType ≠ keyPress
  | some key => keyboard.lastType = key.type ∧ keyboard.lastScancode = key.scancode

variable {keyboard : Keyboard} {previous : Option Key}

theorem Remembers.eq_iff (h : keyboard.Remembers previous) {key : Key} (hpress : key.type = keyPress) :
    key.type = keyboard.lastType ∧ key.scancode = keyboard.lastScancode ↔ previous = some key := by
  cases previous with
  | none =>
    have hne : key.type ≠ keyboard.lastType := fun heq => h (heq.symm.trans hpress)
    simp [hne]
  | some last =>
    obtain ⟨type, scancode⟩ := last
    rw [h.1, h.2, Option.some_inj, Key.ext_iff]
    exact and_congr eq_comm eq_comm

theorem events_rdpEnqueueKey (h : keyboard.Remembers previous) (key : Key) :
    (keyboard.rdpEnqueueKey key).events = keyboard.events ++ repeated previous key := by
  have hrelease : (keyboard.rdpEnqueueKey ⟨keyRelease, key.scancode⟩).events =
      keyboard.events ++ [⟨keyRelease, key.scancode⟩] := by
    rw [rdpEnqueueKey, dif_neg (by simp [keyPress, keyRelease])]
  rw [rdpEnqueueKey, repeated]
  by_cases hpress : key.type = keyPress
  · by_cases hlast : previous = some key
    · rw [dif_pos ⟨hpress, (h.eq_iff hpress).mpr hlast⟩, if_pos ⟨hpress, hlast⟩, hrelease, List.append_assoc]
      rfl
    · rw [dif_neg fun hsame => hlast ((h.eq_iff hpress).mp hsame.2), if_neg fun hsame => hlast hsame.2]
  · rw [dif_neg fun hsame => hpress hsame.1, if_neg fun hsame => hpress hsame.1]

theorem remembers_rdpEnqueueKey (keyboard : Keyboard) (key : Key) :
    (keyboard.rdpEnqueueKey key).Remembers (some key) := by
  rw [rdpEnqueueKey]
  exact ⟨rfl, rfl⟩

theorem events_foldl (h : keyboard.Remembers previous) (keys : List Key) :
    (keys.foldl rdpEnqueueKey keyboard).events =
      keyboard.events ++ ((previous :: keys.map some).zip keys).flatMap fun pair => repeated pair.1 pair.2 := by
  induction keys generalizing keyboard previous with
  | nil => simp
  | cons key keys ih =>
    rw [List.foldl_cons, ih (remembers_rdpEnqueueKey keyboard key), events_rdpEnqueueKey h]
    simp

/-- Each key follows, and in front of a key that is pressed right after itself it is released once. -/
theorem keys_repeat (keys : List Key) :
    (keys.foldl rdpEnqueueKey {}).events =
      ((none :: keys.map some).zip keys).flatMap fun pair => repeated pair.1 pair.2 := by
  have hinit : Remembers {} none := show (0 : Int) ≠ keyPress by decide
  rw [events_foldl hinit, List.nil_append]

end Keyboard

end FreeRDS.X11
