import BayeuxChat.Proofs.Room.History

/-!
# What the history says of a session

A room changes bit by bit, by what the user does and by what is heard.  Yet how it
stands can be read off the history of the run: it depends on the last join that
succeeded and on what has happened since.  Leaving ends the session, and so does a
lost connection where there are personal channels; what is heard under the listener
of the session confirms the connection and tells whether it is there.
-/

namespace BayeuxChat

namespace Room

variable {τ : Type} [Transport τ]

/-! ## What one event changes -/

/-- The room is in a session of `user`, who listens as `listener`. -/
def Holds (room : Room τ) (user : String) (listener : Listener) (confirmed : Bool) : Prop :=
  ∃ handshakes, room.session = some
    { user := user, listener := listener, confirmed := confirmed, handshakes := handshakes }

@[simp] theorem connected_resubscribe (room : Room τ) :
    room.resubscribe.connected = room.connected := by
  simp only [resubscribe]
  split <;> rfl

theorem hearHandshake_standing
    {room : Room τ} {user : String} {listener : Listener} {confirmed : Bool}
    (h : room.Holds user listener confirmed) (successful : Bool) (reply : MetaReply) :
    (room.hearHandshake successful reply).room.Holds user listener (confirmed || successful) ∧
      (room.hearHandshake successful reply).room.connected = room.connected := by
  obtain ⟨handshakes, hsession⟩ := h
  cases successful with
  | true =>
      refine ⟨⟨handshakes + 1, ?_⟩, ?_⟩
      · simp [hearHandshake, confirm, tell, display, countHandshake, hsession]
      · simp [hearHandshake, confirm, tell, display, countHandshake]
  | false =>
      refine ⟨⟨handshakes, ?_⟩, ?_⟩
      · simp [hearHandshake, tell, display, hsession]
      · simp [hearHandshake, tell, display]

omit [Transport τ] in
theorem hearAnswered_standing
    {room : Room τ} {user : String} {listener : Listener} {confirmed : Bool}
    (h : room.Holds user listener confirmed) :
    room.hearAnswered.room.Holds user listener true ∧
      room.hearAnswered.room.connected = true := by
  obtain ⟨handshakes, hsession⟩ := h
  refine ⟨⟨handshakes, ?_⟩, rfl⟩
  cases hconnected : room.connected <;>
    simp [hearAnswered, hconnected, confirm, tell, display, done, hsession]

/-- A lost connection leaves nothing of a session but where there is a single
channel. -/
theorem hearUnanswered_standing
    {room : Room τ} {user : String} {listener : Listener} {confirmed : Bool}
    (h : room.Holds user listener confirmed)
    (hconnected : room.settings.flavor = .personal → room.connected = true) :
    (room.settings.flavor = .personal → room.hearUnanswered.room.session = none) ∧
      (room.settings.flavor = .collapsing →
        room.hearUnanswered.room.Holds user listener confirmed) ∧
      room.hearUnanswered.room.connected = false := by
  rcases hearUnanswered_cases room with
    ⟨hlost, hhear⟩ | ⟨-, hflavor, hhear⟩ | ⟨-, hflavor, hhear⟩
  · rw [hhear]
    refine ⟨?_, fun _ => h, hlost⟩
    intro hpersonal
    cases hlost.symm.trans (hconnected hpersonal)
  · rw [hhear]
    refine ⟨?_, fun _ => h, rfl⟩
    intro hpersonal
    cases hflavor.symm.trans hpersonal
  · rw [hhear]
    refine ⟨fun _ => session_leave _, ?_, rfl⟩
    intro hcollapsing
    cases hflavor.symm.trans hcollapsing

theorem hearEvent_standing
    {room : Room τ} {user : String} {listener : Listener} {confirmed : Bool}
    (h : room.Holds user listener confirmed)
    (hconnected : room.settings.flavor = .personal → room.connected = true) (e : MetaEvent) :
    (room.settings.flavor = .personal → e.reportsLoss = true →
        (room.hearEvent e).room.session = none) ∧
      ((room.settings.flavor = .personal → e.reportsLoss = false) →
        (room.hearEvent e).room.Holds user listener (confirmed || e.confirms)) ∧
      (room.hearEvent e).room.connected =
        if e.topic = .connect then e.successful else room.connected := by
  cases htopic : e.topic with
  | handshake =>
      obtain ⟨hholds, hsame⟩ := hearHandshake_standing h e.successful e.reply
      simp only [hearEvent, htopic]
      refine ⟨?_, ?_, by simpa using hsame⟩
      · intro _ hloss
        simp [MetaEvent.reportsLoss, htopic] at hloss
      · intro _
        simpa [MetaEvent.confirms, htopic] using hholds
  | connect =>
      cases hsuccessful : e.successful with
      | true =>
          obtain ⟨hholds, hanswered⟩ := hearAnswered_standing h
          simp only [hearEvent, htopic, hsuccessful, if_true]
          refine ⟨?_, ?_, hanswered⟩
          · intro _ hloss
            simp [MetaEvent.reportsLoss, hsuccessful] at hloss
          · intro _
            simpa [MetaEvent.confirms, htopic, hsuccessful] using hholds
      | false =>
          obtain ⟨hpersonal, hcollapsing, hlost⟩ := hearUnanswered_standing h hconnected
          simp only [hearEvent, htopic, hsuccessful, Bool.false_eq_true, if_false, if_true]
          refine ⟨fun hflavor _ => hpersonal hflavor, ?_, hlost⟩
          intro hno
          cases hflavor : room.settings.flavor with
          | personal => simp [MetaEvent.reportsLoss, htopic, hsuccessful, hflavor] at hno
          | collapsing => simpa [MetaEvent.confirms, hsuccessful] using hcollapsing hflavor
  | other =>
      simp only [hearEvent, htopic]
      refine ⟨?_, ?_, by simp [done]⟩
      · intro _ hloss
        simp [MetaEvent.reportsLoss, htopic] at hloss
      · intro _
        simpa [MetaEvent.confirms, htopic, done] using h

/-! ## What changes nothing -/

/-- The rooms differ at most in their transports and in what their renderers remember. -/
structure StandsAs (room' room : Room τ) : Prop where
  settings : room'.settings = room.settings
  session : room'.session = room.session
  connected : room'.connected = room.connected

/-- How a room stands changes only when somebody joins, when the user leaves, or when
there is an event for the listener of the session. -/
theorem undergo_cases (room : Room τ) (x : Happening τ) :
    x.Joins ∨ x = .step .leave ∨
      (∃ listener e, x = .step (.hear (.event listener e)) ∧
        room.session.map (·.listener) = some listener) ∨
      ((room.undergo x).StandsAs room ∧ x.leaves = false ∧
        ∀ listener, room.session.map (·.listener) = some listener →
          x.event? listener = none) := by
  cases x with
  | aside change => exact .inr (.inr (.inr ⟨⟨rfl, rfl, rfl⟩, rfl, fun _ _ => rfl⟩))
  | step step =>
      cases step with
      | join name =>
          rcases join_cases room name with ⟨refusal, -, hjoin⟩ | ⟨hname, -⟩
          · refine .inr (.inr (.inr ⟨?_, rfl, fun _ _ => rfl⟩))
            simp only [undergo, Room.step, hjoin]
            exact ⟨rfl, rfl, rfl⟩
          · exact .inl ⟨name, rfl, hname⟩
      | leave => exact .inr (.inl rfl)
      | say text audience =>
          refine .inr (.inr (.inr ⟨?_, rfl, fun _ _ => rfl⟩))
          rcases say_cases room text audience with ⟨e, hsay⟩ | ⟨user, -, -, -, hsay⟩
          · simp only [undergo, Room.step, hsay]
            exact ⟨rfl, rfl, rfl⟩
          · simp only [undergo, Room.step, hsay]
            rw [send_room]
            exact ⟨rfl, rfl, rfl⟩
      | hear arrival =>
          cases arrival with
          | message m => exact .inr (.inr (.inr ⟨⟨rfl, rfl, rfl⟩, rfl, fun _ _ => rfl⟩))
          | event other e =>
              by_cases hother : room.session.map (·.listener) = some other
              · exact .inr (.inr (.inl ⟨other, e, rfl, hother⟩))
              · refine .inr (.inr (.inr ⟨?_, rfl, ?_⟩))
                · simp only [undergo, Room.step, hear_event_of_ne hother e]
                  exact ⟨rfl, rfl, rfl⟩
                · intro listener hlistener
                  have hdiffers : other ≠ listener := by
                    rintro rfl
                    exact hother hlistener
                  simp only [Happening.event?, if_neg hdiffers]

/-! ## What a run changes -/

/-- The room stands as it must when `user` has joined as `listener` and some things,
no further join among them, have happened since. -/
structure Follows
    (room : Room τ) (s : Settings) (user : String) (listener : Listener)
    (since : List (Happening τ)) : Prop where
  settings : room.settings = s
  ended : Happening.anyEnds s.flavor listener since = true → room.session = none
  lasting : Happening.anyEnds s.flavor listener since = false →
    room.Holds user listener ((Happening.heard s.flavor listener since).any (·.confirms))
  connected : room.connected =
    (MetaEvent.lastReport? (Happening.heard s.flavor listener since)).getD true

namespace Follows

variable {room : Room τ} {s : Settings} {user : String} {listener : Listener}
variable {since : List (Happening τ)}

omit [Transport τ] in
/-- Where there are personal channels, a session does not outlast its connection. -/
theorem connected_of_lasting
    (h : room.Follows s user listener since)
    (hlasting : Happening.anyEnds s.flavor listener since = false)
    (hflavor : s.flavor = .personal) : room.connected = true := by
  rw [h.connected]
  apply MetaEvent.lastReport?_getD_of_no_loss
  intro e he
  exact Happening.reportsLoss_eq_false_of_lasting hlasting hflavor he

omit [Transport τ] in
theorem listener_of_lasting
    (h : room.Follows s user listener since)
    (hlasting : Happening.anyEnds s.flavor listener since = false) :
    room.session.map (·.listener) = some listener := by
  obtain ⟨handshakes, hsession⟩ := h.lasting hlasting
  simp [hsession]

omit [Transport τ] in
/-- What neither ends the session nor is heard in it is of no account, and neither is
anything once the session has ended. -/
theorem concat_of_standsAs
    (h : room.Follows s user listener since) {room' : Room τ} (hsame : room'.StandsAs room)
    {x : Happening τ}
    (hx : Happening.anyEnds s.flavor listener since = true ∨
      (x.leaves = false ∧ x.event? listener = none)) :
    room'.Follows s user listener (since ++ [x]) := by
  have hends : Happening.anyEnds s.flavor listener (since ++ [x]) =
      Happening.anyEnds s.flavor listener since := by
    rcases hx with hended | ⟨hleaves, hevent⟩
    · simp [Happening.anyEnds_concat, hended]
    · simp [Happening.anyEnds_concat, Happening.ends, hleaves, hevent]
  have hheard : Happening.heard s.flavor listener (since ++ [x]) =
      Happening.heard s.flavor listener since := by
    rcases hx with hended | ⟨-, hevent⟩
    · simp [Happening.heard_concat, hended]
    · simp [Happening.heard_concat, hevent]
  constructor
  · rw [hsame.settings, h.settings]
  · rw [hends, hsame.session]
    exact h.ended
  · rw [hends, hheard, Holds, hsame.session]
    exact h.lasting
  · rw [hheard, hsame.connected]
    exact h.connected

theorem concat_leave (h : room.Follows s user listener since) :
    room.leave.Follows s user listener (since ++ [.step .leave]) := by
  have hended : Happening.anyEnds s.flavor listener (since ++ [.step .leave]) = true := by
    simp [Happening.anyEnds_concat, Happening.ends, Happening.leaves]
  constructor
  · rw [settings_leave, h.settings]
  · exact fun _ => session_leave room
  · intro hlasting
    cases hended.symm.trans hlasting
  · rw [connected_leave, h.connected]
    simp [Happening.heard_concat, Happening.event?]

/-- An event for the listener of a session that has not ended. -/
theorem concat_event
    (h : room.Follows s user listener since)
    (hlasting : Happening.anyEnds s.flavor listener since = false) (e : MetaEvent) :
    (room.hear (.event listener e)).room.Follows s user listener
      (since ++ [.step (.hear (.event listener e))]) := by
  let x : Happening τ := .step (.hear (.event listener e))
  have hevent : x.event? listener = some e := by
    simp [x, Happening.event?]
  have hends : Happening.anyEnds s.flavor listener (since ++ [x]) =
      (s.flavor == .personal && e.reportsLoss) := by
    simp [Happening.anyEnds_concat, hlasting, Happening.ends, hevent, x, Happening.leaves]
  have hheard : Happening.heard s.flavor listener (since ++ [x]) =
      Happening.heard s.flavor listener since ++ [e] := by
    simp [Happening.heard_concat, hlasting, hevent]
  have hholds := h.lasting hlasting
  have hhear : room.hear (.event listener e) = room.hearEvent e := by
    obtain ⟨handshakes, hsession⟩ := hholds
    simp [hear, hsession]
  have hsteady : room.settings.flavor = .personal → room.connected = true := by
    rw [h.settings]
    exact h.connected_of_lasting hlasting
  obtain ⟨hlost, hkept, hconnected⟩ := hearEvent_standing hholds hsteady e
  rw [h.settings, ← hhear] at hlost hkept
  rw [← hhear] at hconnected
  constructor
  · exact (hear_cases room _).1.trans h.settings
  · intro hended
    rw [hends, Bool.and_eq_true, beq_iff_eq] at hended
    exact hlost hended.1 hended.2
  · intro hstill
    rw [hends] at hstill
    have hno : s.flavor = .personal → e.reportsLoss = false := by
      intro hflavor
      simpa [hflavor] using hstill
    rw [hheard, List.any_append]
    simpa using hkept hno
  · rw [hconnected, hheard, MetaEvent.lastReport?_concat, h.connected]
    split
    · rfl
    · rfl

/-- Everything but a join keeps the room in step with its history. -/
theorem concat
    (h : room.Follows s user listener since) {x : Happening τ} (hx : ¬x.Joins) :
    (room.undergo x).Follows s user listener (since ++ [x]) := by
  rcases undergo_cases room x with
    hjoins | rfl | ⟨other, e, rfl, hother⟩ | ⟨hsame, hleaves, hnone⟩
  · exact absurd hjoins hx
  · exact h.concat_leave
  · cases hended : Happening.anyEnds s.flavor listener since with
    | true => simp [h.ended hended] at hother
    | false =>
        obtain rfl := Option.some.inj (hother.symm.trans (h.listener_of_lasting hended))
        exact h.concat_event hended e
  · apply h.concat_of_standsAs hsame
    cases hended : Happening.anyEnds s.flavor listener since with
    | true => exact .inl rfl
    | false => exact .inr ⟨hleaves, hnone listener (h.listener_of_lasting hended)⟩

theorem afterRun
    (h : room.Follows s user listener []) (hsince : ∀ x ∈ since, ¬x.Joins) :
    (room.afterRun since).Follows s user listener since := by
  induction since using List.reverseRecOn with
  | nil => exact h
  | append_singleton since x ih =>
      rw [afterRun_concat]
      have hearlier := ih fun y hy => hsince y (List.mem_append_left _ hy)
      exact hearlier.concat (hsince x (by simp))

end Follows

/-! ## The last join -/

/-- Joining begins a session that has no history. -/
theorem exists_follows_join (room : Room τ) {name : String} (hname : checkUser name = .ok ()) :
    ∃ listener, (room.join name).room.session.map (·.listener) = some listener ∧
      (room.join name).room.Follows room.settings name listener [] := by
  rw [join_of_ok room hname]
  refine ⟨_, rfl, settings_leave room, ?_, ?_, rfl⟩
  · intro hended
    cases hended
  · exact fun _ => ⟨0, rfl⟩

/-- Nobody gets into a room but by joining. -/
theorem vacant_undergo
    {room : Room τ} (hsession : room.session = none) {x : Happening τ} (hx : ¬x.Joins) :
    (room.undergo x).session = none ∧ (room.undergo x).connected = room.connected := by
  rcases undergo_cases room x with hjoins | rfl | ⟨other, e, rfl, hother⟩ | ⟨hsame, -, -⟩
  · exact absurd hjoins hx
  · exact ⟨session_leave room, connected_leave room⟩
  · simp [hsession] at hother
  · exact ⟨hsame.session.trans hsession, hsame.connected⟩

/-- As long as nobody has joined, nobody is in the room. -/
theorem vacant_afterRun
    (s : Settings) (t : τ) {run : List (Happening τ)} (hrun : ∀ x ∈ run, ¬x.Joins) :
    ((empty s t).afterRun run).session = none ∧
      ((empty s t).afterRun run).connected = false := by
  induction run using List.reverseRecOn with
  | nil => exact ⟨rfl, rfl⟩
  | append_singleton run x ih =>
      rw [afterRun_concat]
      obtain ⟨hsession, hconnected⟩ := ih fun y hy => hrun y (List.mem_append_left _ hy)
      obtain ⟨hnobody, hsame⟩ := vacant_undergo hsession (hrun x (by simp))
      exact ⟨hnobody, hsame.trans hconnected⟩

omit [Transport τ] in
/-- A run without joins, or one that splits at the last. -/
theorem exists_last_join (run : List (Happening τ)) :
    (∀ x ∈ run, ¬x.Joins) ∨
      ∃ before name since, run = before ++ .step (.join name) :: since ∧
        checkUser name = .ok () ∧ ∀ x ∈ since, ¬x.Joins := by
  induction run using List.reverseRecOn with
  | nil => exact .inl (by simp)
  | append_singleton run x ih =>
      by_cases hx : x.Joins
      · obtain ⟨name, rfl, hname⟩ := hx
        exact .inr ⟨run, name, [], rfl, hname, by simp⟩
      · rcases ih with hnone | ⟨before, name, since, rfl, hname, hsince⟩
        · left
          intro y hy
          rw [List.mem_append, List.mem_singleton] at hy
          rcases hy with hy | rfl
          · exact hnone y hy
          · exact hx
        · refine .inr ⟨before, name, since ++ [x], by simp, hname, ?_⟩
          intro y hy
          rw [List.mem_append, List.mem_singleton] at hy
          rcases hy with hy | rfl
          · exact hsince y hy
          · exact hx

theorem exists_follows_afterRun
    (s : Settings) (t : τ) (before : List (Happening τ)) {name : String}
    (hname : checkUser name = .ok ()) {since : List (Happening τ)}
    (hsince : ∀ x ∈ since, ¬x.Joins) :
    ∃ listener,
      (((empty s t).afterRun before).join name).room.session.map (·.listener) = some listener ∧
        ((empty s t).afterRun (before ++ .step (.join name) :: since)).Follows s name listener
          since := by
  obtain ⟨listener, hlistener, hfollows⟩ :=
    exists_follows_join ((empty s t).afterRun before) hname
  rw [settings_afterRun] at hfollows
  refine ⟨listener, hlistener, ?_⟩
  rw [afterRun_append, afterRun_cons]
  exact hfollows.afterRun hsince

/-- Hearing something never brings anybody into the room. -/
theorem user_of_hear {room : Room τ} {arrival : Arrival} {user : String}
    (h : (room.hear arrival).room.user = some user) : room.user = some user := by
  rw [user_eq_map_occupant] at h ⊢
  obtain ⟨-, ⟨-, hoccupant⟩ | ⟨-, -, -, hoccupant⟩ | ⟨-, -, -, hoccupant⟩⟩ :=
    hear_cases room arrival
  · rwa [hoccupant] at h
  · rwa [hoccupant] at h
  · simp [hoccupant] at h

/-- A session where there are personal channels is always connected. -/
theorem connected_of_user
    (s : Settings) (t : τ) (run : List (Happening τ)) (hflavor : s.flavor = .personal)
    (huser : ((empty s t).afterRun run).user.isSome) :
    ((empty s t).afterRun run).connected = true := by
  rcases exists_last_join run with hnone | ⟨before, name, since, rfl, hname, hsince⟩
  · simp [Room.user, (vacant_afterRun s t hnone).1] at huser
  · obtain ⟨listener, -, hfollows⟩ := exists_follows_afterRun s t before hname hsince
    cases hended : Happening.anyEnds s.flavor listener since with
    | true => simp [Room.user, hfollows.ended hended] at huser
    | false => exact hfollows.connected_of_lasting hended hflavor

/-- How a room stands after any run.  If nobody has joined, nobody is in it and it is
not connected.  Otherwise the last who joined got a listener.  If something has ended
that session since, nobody is in the room; if nothing has, the user is in it under
that listener, and inside just if an event for the listener has confirmed the
connection.  The room is connected if the last report that the session heard says so,
or if it heard none.  In particular a session is always connected where there are
personal channels, and nothing that is heard brings anybody in or changes the user's
name. -/
theorem standing_of_history (s : Settings) (t : τ) (run : List (Happening τ)) :
    let room := (empty s t).afterRun run
    ((∀ x ∈ run, ¬x.Joins) →
      room.presence = .out ∧ room.user = none ∧ room.session.map (·.listener) = none ∧
        room.connected = false) ∧
      (∀ before name since, run = before ++ .step (.join name) :: since →
        checkUser name = .ok () → (∀ x ∈ since, ¬x.Joins) →
        ∃ listener,
          (((empty s t).afterRun before).join name).room.session.map (·.listener) =
              some listener ∧
            (Happening.anyEnds s.flavor listener since = true →
              room.presence = .out ∧ room.user = none ∧
                room.session.map (·.listener) = none) ∧
            (Happening.anyEnds s.flavor listener since = false →
              room.presence =
                  (if Happening.anyConfirms listener since then .inside name
                    else .entering name) ∧
                room.user = some name ∧ room.session.map (·.listener) = some listener) ∧
            room.connected =
              (MetaEvent.lastReport? (Happening.heard s.flavor listener since)).getD true) ∧
      (s.flavor = .personal → room.user.isSome → room.connected = true) ∧
      ∀ arrival user, (room.hear arrival).room.user = some user → room.user = some user := by
  intro room
  refine ⟨?_, ?_, connected_of_user s t run, fun arrival user => user_of_hear⟩
  · intro hnone
    obtain ⟨hsession, hconnected⟩ := vacant_afterRun s t hnone
    change room.session = none at hsession
    exact ⟨presence_eq_out_iff.mpr hsession, by simp [Room.user, hsession],
      by simp [hsession], hconnected⟩
  · intro before name since hrun hname hsince
    obtain ⟨listener, hlistener, hfollows⟩ := exists_follows_afterRun s t before hname hsince
    rw [← hrun] at hfollows
    change room.Follows s name listener since at hfollows
    refine ⟨listener, hlistener, ?_, ?_, hfollows.connected⟩
    · intro hended
      have hsession := hfollows.ended hended
      exact ⟨presence_eq_out_iff.mpr hsession, by simp [Room.user, hsession],
        by simp [hsession]⟩
    · intro hlasting
      obtain ⟨handshakes, hsession⟩ := hfollows.lasting hlasting
      rw [Happening.any_confirms_heard_of_lasting hlasting] at hsession
      exact ⟨by simp [presence, hsession], by simp [Room.user, hsession], by simp [hsession]⟩

end Room
end BayeuxChat
