import BayeuxChat.Proofs.Room.Rendering
import Mathlib.Data.List.Induction

/-!
# Runs over any transport

In a run of a room its steps come in any order, and between them the transport may
change by itself: something arrives, the server is lost, messages are taken out.
What can be said of every such run depends on nothing but the calls that a
transport takes.
-/

namespace BayeuxChat

/-- What can happen in a run of a room. -/
inductive Happening (τ : Type) where
  | step (step : RoomStep)
  /-- The transport changes without being called by the room. -/
  | aside (change : τ → τ)

namespace Room

variable {τ : Type} [Transport τ]

/-- The room after something has happened. -/
def undergo (room : Room τ) : Happening τ → Room τ
  | .step step => (room.step step).room
  | .aside change => { room with transport := change room.transport }

/-- The room after a run. -/
def afterRun (room : Room τ) (run : List (Happening τ)) : Room τ :=
  run.foldl undergo room

@[simp] theorem afterRun_concat (room : Room τ) (run : List (Happening τ)) (x : Happening τ) :
    room.afterRun (run ++ [x]) = (room.afterRun run).undergo x := by
  simp [afterRun]

theorem afterRun_append (room : Room τ) (earlier later : List (Happening τ)) :
    room.afterRun (earlier ++ later) = (room.afterRun earlier).afterRun later :=
  List.foldl_append

theorem afterRun_cons (room : Room τ) (x : Happening τ) (later : List (Happening τ)) :
    room.afterRun (x :: later) = (room.undergo x).afterRun later :=
  rfl

theorem settings_undergo (room : Room τ) (x : Happening τ) :
    (room.undergo x).settings = room.settings := by
  cases x with
  | step step => exact settings_step room step
  | aside change => rfl

theorem settings_afterRun (room : Room τ) (run : List (Happening τ)) :
    (room.afterRun run).settings = room.settings := by
  induction run using List.reverseRecOn with
  | nil => rfl
  | append_singleton run x ih =>
      rw [afterRun_concat]
      exact (settings_undergo _ x).trans ih

omit [Transport τ] in
theorem flavor_of_showsAtMostOne
    {room : Room τ} {o : Outcome τ} (h : o.ShowsAtMostOne room) :
    o.room.renderer.flavor = room.renderer.flavor := by
  obtain ⟨-, hrenderer⟩ | ⟨envelope, -, hrenderer⟩ := h
  · rw [hrenderer]
  · rw [hrenderer]
    exact Renderer.flavor_lines _ envelope

/-- A room renders, and so reads what it hears, in the flavor of its settings. -/
theorem flavor_renderer_afterRun (s : Settings) (t : τ) (run : List (Happening τ)) :
    ((empty s t).afterRun run).renderer.flavor = s.flavor := by
  induction run using List.reverseRecOn with
  | nil => rfl
  | append_singleton run x ih =>
      rw [afterRun_concat]
      cases x with
      | step step => exact (flavor_of_showsAtMostOne (showsAtMostOne_step _ step)).trans ih
      | aside change => exact ih

end Room
end BayeuxChat
