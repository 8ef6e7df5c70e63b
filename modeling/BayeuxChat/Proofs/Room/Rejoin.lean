import BayeuxChat.Proofs.Room.CallGrammar
import BayeuxChat.Proofs.Room.Course
import BayeuxChat.Proofs.Room.Embedding
import BayeuxChat.Proofs.Room.Run

/-!
# Leaving and joining again

Who leaves a room and joins it again finds it as good as new.  Whatever had happened in
the room before, and whatever is done with it and heard from then on, it does what a new
room would do that was joined under the same name.  Only its listeners have other
numbers, and a line may be titled `...` since its renderer still remembers somebody.
-/

namespace BayeuxChat

/-! ## A journal that is continued -/

/-- The listener whose number is larger by `d`. -/
def Listener.shift (d : Nat) (listener : Listener) : Listener :=
  ⟨listener.number + d⟩

theorem Listener.shift_injective (d : Nat) : Function.Injective (Listener.shift d) := by
  intro x y h
  have hnumber : x.number + d = y.number + d := congrArg Listener.number h
  cases x
  cases y
  simpa using hnumber

/-- The call with listeners under other numbers. -/
def Call.mapListener (g : Listener → Listener) : Call → Call
  | .listen listener => .listen (g listener)
  | .unlisten listener => .unlisten (g listener)
  | call => call

namespace Journal

/-- The journal as it continues an earlier one. -/
def after (earlier j : Journal) : Journal :=
  { calls := earlier.calls ++ j.calls.map (Call.mapListener (Listener.shift earlier.nextListener))
    nextListener := j.nextListener + earlier.nextListener }

theorem after_note (earlier : Journal) (call : Call) (j : Journal) :
    earlier.after (note call j) =
      note (call.mapListener (Listener.shift earlier.nextListener)) (earlier.after j) := by
  simp [after, note]

theorem after_listen (earlier j : Journal) :
    earlier.after (Transport.listen j).2 = (Transport.listen (earlier.after j)).2 := by
  have hnext : j.nextListener + 1 + earlier.nextListener =
      j.nextListener + earlier.nextListener + 1 := Nat.add_right_comm _ _ _
  simp [Transport.listen, note, after, hnext, Call.mapListener, Listener.shift]

/-- Any journal within those that continue an earlier one. -/
def continuing (earlier : Journal) : Transport.Embedding Journal Journal where
  state := earlier.after
  listener := Listener.shift earlier.nextListener
  listener_injective := Listener.shift_injective _
  state_connect address := earlier.after_note (.connect address)
  state_disconnect := earlier.after_note .disconnect
  state_beginBatch := earlier.after_note .beginBatch
  state_endBatch := earlier.after_note .endBatch
  state_subscribe channel := earlier.after_note (.subscribe channel)
  state_unsubscribe channel := earlier.after_note (.unsubscribe channel)
  state_publish channel data := earlier.after_note (.publish channel data)
  listener_listen _ := rfl
  state_listen := earlier.after_listen
  state_unlisten listener := earlier.after_note (.unlisten listener)

end Journal

namespace Room

/-- A room that nobody is in continues its journal as a new room would. -/
theorem withRenderer_carry_empty {room : Room Journal} (hsession : room.session = none) :
    ((empty room.settings ({} : Journal)).carry
        (Journal.continuing room.transport)).withRenderer room.renderer =
      { room with connected := false } := by
  simp [withRenderer, carry, empty, Journal.continuing, Journal.after, hsession]

theorem join_of_vacant
    {room : Room Journal} (hsession : room.session = none)
    {name : String} (hname : checkUser name = .ok ()) :
    (room.join name).room =
      (((empty room.settings ({} : Journal)).join name).room.carry
        (Journal.continuing room.transport)).withRenderer room.renderer :=
  calc
    (room.join name).room = room.enter name := by
      rw [join_of_ok room hname, leave_of_none hsession]
      rfl
    _ = Room.enter { room with connected := false } name := rfl
    _ = (((empty room.settings ({} : Journal)).carry
          (Journal.continuing room.transport)).enter name).withRenderer room.renderer := by
      rw [← withRenderer_carry_empty hsession]
      rfl
    _ = _ := by
      rw [enter_carry, join_of_ok _ hname]
      rfl

end Room

/-! ## What is still remembered -/

/-- A renderer that was new and one that was not have shown `log` and `log'` since then.
Where lines are collapsed, both remember the same, unless they have shown nothing. -/
structure Renderer.Renews (new old : Renderer) (log log' : List Line) : Prop where
  flavor : old.flavor = new.flavor
  last : new.flavor = .collapsing →
    new.last = old.last ∨ (log = [] ∧ log' = [] ∧ new.last = none)

namespace Renderer.Renews

variable {new old : Renderer} {log log' : List Line}

theorem lines (h : new.Renews old log log') (envelope : Envelope) :
    (new.lines envelope).2.Renews (old.lines envelope).2
      (log ++ (new.lines envelope).1) (log' ++ (old.lines envelope).1) := by
  cases hflavor : new.flavor with
  | personal =>
      have hnone : (new.lines envelope).2.flavor ≠ .collapsing := by
        rw [flavor_lines, hflavor]
        exact Flavor.noConfusion
      exact ⟨by rw [flavor_lines, flavor_lines, h.flavor], fun h => absurd h hnone⟩
  | collapsing =>
      have hold : old.flavor = .collapsing := h.flavor.trans hflavor
      cases htext : shownText envelope with
      | none =>
          rw [lines_of_wordless hflavor htext, lines_of_wordless hold htext, List.append_nil,
            List.append_nil]
          exact h
      | some text =>
          rw [lines_of_collapsing hflavor htext, lines_of_collapsing hold htext]
          exact ⟨h.flavor, fun _ => .inl rfl⟩

/-- Only the first line can differ, in its title, and only if the old renderer remembers
its sender. -/
theorem lines_eq_or (h : new.Renews old log log') (envelope : Envelope) :
    (old.lines envelope).1 = (new.lines envelope).1 ∨
      (new.flavor = .collapsing ∧ log = [] ∧ log' = [] ∧ envelope.isAnnouncement = false ∧
        ∃ line, (new.lines envelope).1 = [line] ∧ line.title = envelope.sender ++ ":" ∧
          (old.lines envelope).1 = [{ line with title := "..." }]) := by
  cases hflavor : new.flavor with
  | personal =>
      rw [lines_of_personal hflavor, lines_of_personal (h.flavor.trans hflavor)]
      exact .inl rfl
  | collapsing =>
      have hold : old.flavor = .collapsing := h.flavor.trans hflavor
      cases htext : shownText envelope with
      | none =>
          rw [lines_of_wordless hflavor htext, lines_of_wordless hold htext]
          exact .inl rfl
      | some text =>
          rw [lines_of_collapsing hflavor htext, lines_of_collapsing hold htext]
          rcases h.last hflavor with hlast | ⟨hlog, hlog', hnobody⟩
          · have hsame : old.continues envelope = new.continues envelope := by
              simp only [continues, hlast]
            rw [hsame]
            exact .inl rfl
          · have hnew : new.continues envelope = false := by simp [continues, hnobody]
            cases hcontinues : old.continues envelope with
            | true =>
                have hordinary : envelope.isAnnouncement = false := by
                  simp only [continues, Bool.and_eq_true, Bool.not_eq_true'] at hcontinues
                  exact hcontinues.1.1
                refine .inr ⟨rfl, hlog, hlog', hordinary, _, rfl, ?_, rfl⟩
                rw [hnew]
                rfl
            | false =>
                left
                simp only [hnew]

end Renderer.Renews

/-- The step hands over a message of a collapsing room.  Of the lines that it shows, the
first name the sender, and the second go on with `...` instead. -/
def RoomStep.NamesSender (step : RoomStep) (lines lines' : List Line) : Prop :=
  ∃ m envelope line, step = .hear (.message m) ∧
    Envelope.ofMessage .collapsing m = .ok envelope ∧
    lines = [line] ∧ line.title = envelope.sender ++ ":" ∧
    lines' = [{ line with title := "..." }]

namespace Room

/-- The lines shown over some steps. -/
def linesOver {τ : Type} [Transport τ] (room : Room τ) : List RoomStep → List Line
  | [] => []
  | step :: later => (room.step step).lines ++ (room.step step).room.linesOver later

theorem linesOver_concat {τ : Type} [Transport τ]
    (room : Room τ) (steps : List RoomStep) (step : RoomStep) :
    room.linesOver (steps ++ [step]) =
      room.linesOver steps ++ ((room.afterSteps steps).step step).lines := by
  induction steps generalizing room with
  | nil => simp [linesOver, afterSteps]
  | cons first rest ih =>
      rw [List.cons_append, linesOver, linesOver, ih, List.append_assoc]
      rfl

/-! ## The new room and the old one -/

/-- A room that was new and one that was joined again, which have shown `log` and `log'`
since then.  But for what they remember, the old room is as the new one would be if its
journal continued the earlier one. -/
structure Renews (earlier : Journal) (new old : Room Journal) (log log' : List Line) : Prop where
  alike : Alike (new.carry earlier.continuing) old
  renderer : new.renderer.Renews old.renderer log log'

namespace Renews

variable {earlier : Journal} {new old : Room Journal} {log log' : List Line}

/-- Every step has the same result in both rooms, and they stay as they are to each other.
The lines shown can differ in one title, which is the first one and that of a message. -/
theorem step (h : Renews earlier new old log log') (step : RoomStep) :
    let o := new.step step
    let o' := old.step (step.mapListener (Listener.shift earlier.nextListener))
    o'.result = o.result ∧ Renews earlier o.room o'.room (log ++ o.lines) (log' ++ o'.lines) ∧
      (o'.lines = o.lines ∨
        (new.settings.flavor = .collapsing ∧ log = [] ∧ log' = [] ∧
          step.NamesSender o.lines o'.lines)) := by
  intro o o'
  obtain ⟨c, hc, hnew, hold, halike⟩ :=
    h.alike.exists_step (step.mapListener earlier.continuing.listener)
  rw [step_carry] at hnew halike
  have hresult : o.result = c.result := congrArg Outcome.result hnew
  have hlines : o.lines = (new.renderer.linesOf? c.shown).1 := congrArg Outcome.lines hnew
  have hrenderer : o.room.renderer = (new.renderer.linesOf? c.shown).2 :=
    congrArg (fun o => o.room.renderer) hnew
  have hresult' : o'.result = c.result := congrArg Outcome.result hold
  have hlines' : o'.lines = (old.renderer.linesOf? c.shown).1 := congrArg Outcome.lines hold
  have hrenderer' : o'.room.renderer = (old.renderer.linesOf? c.shown).2 :=
    congrArg (fun o => o.room.renderer) hold
  refine ⟨hresult'.trans hresult.symm, ⟨halike, ?_⟩, ?_⟩
  · rw [hrenderer, hrenderer', hlines, hlines']
    cases c.shown with
    | none => simpa [Renderer.linesOf?] using h.renderer
    | some envelope => exact h.renderer.lines envelope
  · rw [hlines, hlines']
    cases hshown : c.shown with
    | none => exact .inl rfl
    | some envelope =>
        rcases h.renderer.lines_eq_or envelope with
          hsame | ⟨hcollapsing, hlog, hlog', hordinary, hline⟩
        · exact .inl hsame
        · have hflavor : new.settings.flavor = .collapsing :=
            h.alike.flavor.symm.trans hcollapsing
          rcases hc.shown envelope hshown hflavor with hannounces | ⟨m, hstep, hm⟩
          · rw [hordinary] at hannounces
            cases hannounces
          · obtain ⟨line, hline, htitle, hline'⟩ := hline
            exact .inr ⟨hflavor, hlog, hlog', m, envelope, line,
              RoomStep.eq_message_of_mapListener hstep, hm, hline, htitle, hline'⟩

/-- So they are over all further steps. -/
theorem afterSteps (h : Renews earlier new old [] []) (steps : List RoomStep) :
    let steps' := steps.map (RoomStep.mapListener (Listener.shift earlier.nextListener))
    Renews earlier (new.afterSteps steps) (old.afterSteps steps')
      (new.linesOver steps) (old.linesOver steps') := by
  intro steps'
  induction steps using List.reverseRecOn with
  | nil => exact h
  | append_singleton steps step ih =>
      simp only [steps', List.map_append, List.map_cons, List.map_nil, afterSteps_concat,
        linesOver_concat]
      exact (ih.step step).2.1

theorem presence (h : Renews earlier new old log log') : old.presence = new.presence := by
  have hcarried := presence_carry earlier.continuing new
  rw [← hcarried, Room.presence, h.alike.session]
  rfl

theorem user (h : Renews earlier new old log log') : old.user = new.user := by
  have hcarried := user_carry earlier.continuing new
  rw [← hcarried, Room.user, h.alike.session]
  rfl

theorem connected (h : Renews earlier new old log log') : old.connected = new.connected :=
  h.alike.connected

theorem calls (h : Renews earlier new old log log') :
    old.transport.calls = earlier.calls ++
      new.transport.calls.map (Call.mapListener (Listener.shift earlier.nextListener)) :=
  congrArg Journal.calls h.alike.transport

/-- By each step the old room adds the calls that the new one adds. -/
theorem exists_calls_step (h : Renews earlier new old log log') (step : RoomStep) :
    let d := earlier.nextListener
    ∃ calls,
      (new.step step).room.transport.calls = new.transport.calls ++ calls ∧
      (old.step (step.mapListener (Listener.shift d))).room.transport.calls =
        old.transport.calls ++ calls.map (Call.mapListener (Listener.shift d)) := by
  intro d
  obtain ⟨-, hafter, -⟩ := h.step step
  obtain ⟨calls, hcalls⟩ := calls_prefix_step new step
  refine ⟨calls, hcalls.symm, ?_⟩
  rw [hafter.calls, ← hcalls, List.map_append, ← List.append_assoc, ← h.calls]

end Renews

/-- The room that is left and joined again, beside a new one of the same settings. -/
theorem renews_rejoin
    {room : Room Journal} (hflavor : room.renderer.flavor = room.settings.flavor)
    {name : String} (hname : checkUser name = .ok ()) :
    Renews room.leave.transport ((empty room.settings ({} : Journal)).join name).room
      (room.leave.join name).room [] [] := by
  have hnew : ((empty room.settings ({} : Journal)).join name).room =
      (empty room.settings {}).enter name :=
    congrArg Outcome.room (join_of_ok _ hname)
  have hold := join_of_vacant (session_leave room) hname
  rw [settings_leave, renderer_leave] at hold
  rw [hold, hnew]
  exact ⟨.of_withRenderer rfl hflavor, hflavor, fun _ => .inr ⟨rfl, rfl, rfl⟩⟩

/-- A room that is left and joined again after any run, and whatever has become of its
journal, goes on as a new room that is joined under the same name.  Its listener has a
number that is larger by some `d`.  From then on, whatever steps follow, with events
addressed to listeners whose numbers are larger by `d`, each step has the same result and
leads to the same presence, user and connectedness, and both rooms add the same calls, but
for the numbers of listeners.  They show the same lines; only if neither has shown any
yet, and lines are collapsed, a message that the new room shows under its sender's name
may be titled `...` by the old. -/
theorem rejoin_as_new (s : Settings) (t : Journal) (earlier : List (Happening Journal))
    {name : String} (hname : checkUser name = .ok ()) :
    let old := (((empty s t).afterRun earlier).leave.join name).room
    let new := ((empty s ({} : Journal)).join name).room
    ∃ d listener,
      new.session.map (·.listener) = some listener ∧
      old.session.map (·.listener) = some (listener.shift d) ∧
      ∀ past step,
        let past' := past.map (RoomStep.mapListener (Listener.shift d))
        let o := (new.afterSteps past).step step
        let o' := (old.afterSteps past').step (step.mapListener (Listener.shift d))
        o'.result = o.result ∧ o'.room.presence = o.room.presence ∧
          o'.room.user = o.room.user ∧ o'.room.connected = o.room.connected ∧
          (∃ calls,
            o.room.transport.calls = (new.afterSteps past).transport.calls ++ calls ∧
            o'.room.transport.calls = (old.afterSteps past').transport.calls ++
              calls.map (Call.mapListener (Listener.shift d))) ∧
          (o'.lines = o.lines ∨
            (s.flavor = .collapsing ∧ new.linesOver past = [] ∧ old.linesOver past' = [] ∧
              step.NamesSender o.lines o'.lines)) := by
  intro old new
  let before := (empty s t).afterRun earlier
  have hrenews : Renews before.leave.transport new old [] [] := by
    have hflavor : before.renderer.flavor = before.settings.flavor := by
      rw [flavor_renderer_afterRun, settings_afterRun]
      rfl
    have hrejoin := renews_rejoin hflavor hname
    rwa [settings_afterRun] at hrejoin
  have hlistener : new.session.map (·.listener) = some ⟨0⟩ := by
    have hjoin := join_of_ok (empty s ({} : Journal)) hname
    rw [enter_over_journal] at hjoin
    exact congrArg (fun o => o.room.session.map (·.listener)) hjoin
  refine ⟨before.leave.transport.nextListener, ⟨0⟩, hlistener, ?_, ?_⟩
  · rw [hrenews.alike.session, listener_carry, hlistener]
    rfl
  · intro past step past' o o'
    have hpast := hrenews.afterSteps past
    obtain ⟨hresult, hafter, hlines⟩ := hpast.step step
    have hsettings : (new.afterSteps past).settings = s :=
      (settings_afterSteps new past).trans (settings_join _ name)
    rw [hsettings] at hlines
    exact ⟨hresult, hafter.presence, hafter.user, hafter.connected,
      hpast.exists_calls_step step, hlines⟩

/-- Carol has seen a message by Bob before she leaves and joins again, and the next one is
by Bob too. -/
theorem rejoin_as_new_after_bob :
    let s : Settings := { flavor := .collapsing }
    let said (text : String) : RoomStep :=
      .hear (.message
        { channel := "/chat/room0"
          data := some (.object [("user", .string "bob"), ("chat", .string text)]) })
    let earlier : List (Happening Journal) := [.step (.join "carol"), .step (said "hi")]
    let old := (((empty s {}).afterRun earlier).leave.join "carol").room
    let new := ((empty s ({} : Journal)).join "carol").room
    let o := new.step (said "still here?")
    let o' := old.step (said "still here?")
    checkUser "carol" = .ok () ∧ o'.result = o.result ∧ o'.room.presence = o.room.presence ∧
      ∃ line, o.lines = [line] ∧ line.title = "bob:" ∧
        o'.lines = [{ line with title := "..." }] := by
  intro s said earlier old new o o'
  have hname : checkUser "carol" = .ok () := rfl
  have hnew : o.lines = [{ title := "bob:", text := "still here?", alert := false }] := rfl
  have hold : o'.lines = [{ title := "...", text := "still here?", alert := false }] := rfl
  have hdiffer : o'.lines ≠ o.lines := by
    rw [hold, hnew]
    decide
  obtain ⟨d, listener, -, -, hagree⟩ := rejoin_as_new s {} earlier hname
  obtain ⟨hresult, hpresence, -, -, -, hlines⟩ := hagree [] (said "still here?")
  obtain ⟨-, -, -, m, envelope, line, -, -, hline, -, hline'⟩ := hlines.resolve_left hdiffer
  have htitle : line.title = "bob:" := by
    rw [← List.singleton_inj.mp (hnew.symm.trans hline)]
  exact ⟨hname, hresult, hpresence, line, hline, htitle, hline'⟩

end Room
end BayeuxChat
