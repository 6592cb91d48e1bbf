/-
Frame sequences with further frames inserted.

`Woven` says that one sequence is another with frames of some kind put in at any
places, `WovenLater` that the first frame is still the first.  A reader that
skips frames of that kind finds the same frame in both.
-/

import Handoff.Protocol

namespace Handoff

inductive Woven (kind : Message → Bool) : List Frame → List Frame → Prop where
  | nil : Woven kind [] []
  | keep (frame : Frame) {frames longer : List Frame} (woven : Woven kind frames longer) :
      Woven kind (frame :: frames) (frame :: longer)
  | insert (version : ProtoVersion) {message : Message} (fits : kind message = true)
      {frames longer : List Frame} (woven : Woven kind frames longer) :
      Woven kind frames ((version, message) :: longer)

inductive WovenLater (kind : Message → Bool) : List Frame → List Frame → Prop where
  | nil : WovenLater kind [] []
  | first (frame : Frame) {frames longer : List Frame} (woven : Woven kind frames longer) :
      WovenLater kind (frame :: frames) (frame :: longer)

variable {kind : Message → Bool} {frames longer : List Frame}

theorem Woven.refl (frames : List Frame) : Woven kind frames frames := by
  induction frames with
  | nil => exact .nil
  | cons frame frames ih => exact .keep frame ih

theorem WovenLater.woven (later : WovenLater kind frames longer) : Woven kind frames longer := by
  cases later with
  | nil => exact .nil
  | first frame woven => exact .keep frame woven

/-- The first message that is not of the kind, and the frames behind it. -/
def beyond (kind : Message → Bool) : List Frame → Option Message × List Frame
  | [] => (none, [])
  | (_, message) :: rest => if kind message then beyond kind rest else (some message, rest)

theorem beyond_skip {version : ProtoVersion} {message : Message} (fits : kind message = true)
    (rest : List Frame) : beyond kind ((version, message) :: rest) = beyond kind rest := by
  rw [beyond, if_pos fits]

theorem beyond_found {version : ProtoVersion} {message : Message} (other : kind message = false)
    (rest : List Frame) : beyond kind ((version, message) :: rest) = (some message, rest) := by
  rw [beyond, if_neg (by rw [other]; decide)]

theorem Woven.beyond (woven : Woven kind frames longer) :
    (beyond kind longer).1 = (beyond kind frames).1 ∧
      Woven kind (Handoff.beyond kind frames).2 (Handoff.beyond kind longer).2 := by
  induction woven with
  | nil => exact ⟨rfl, .nil⟩
  | insert version fits _ ih =>
      rw [beyond_skip fits]
      exact ih
  | @keep frame frames longer rest ih =>
      obtain ⟨version, message⟩ := frame
      cases skipped : kind message with
      | true =>
          rw [beyond_skip skipped, beyond_skip skipped]
          exact ih
      | false =>
          rw [beyond_found skipped, beyond_found skipped]
          exact ⟨rfl, rest⟩

end Handoff
