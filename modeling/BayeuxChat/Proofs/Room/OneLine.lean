import BayeuxChat.Proofs.Log.OneLine
import BayeuxChat.Proofs.Room.Coupling
import BayeuxChat.Proofs.Room.Failure
import BayeuxChat.Proofs.Room.Remark
import BayeuxChat.Proofs.Room.Run

/-!
# A room on one line

A room keeps the name of its user, and the loopback keeps what was published until it is
heard.  As long as no text that is given to the room has a line feed in it, nothing that
is kept has one either; so every line that is shown is one line, and so is the wording of
every failure.
-/

namespace BayeuxChat

open Text (OneLine)

/-! ## What comes with texts -/

def Audience.texts : Audience → List String
  | .everyone => []
  | .only user => [user]

/-- The texts that make up a remark. -/
def Remark.texts : Remark → List String
  | .joined user => [user]
  | .said user text audience => user :: text :: audience.texts

/-- The texts in a server's answer. -/
def MetaReply.texts (reply : MetaReply) : List String :=
  reply.clientId.toList ++ reply.error.toList

theorem Remark.oneLine_of_mem_texts_envelope
    {r : Remark} (h : ∀ text ∈ r.texts, OneLine text) (flavor : Flavor) :
    ∀ text ∈ (r.envelope flavor).texts, OneLine text := by
  cases r with
  | joined user =>
      have huser : OneLine user := h user List.mem_cons_self
      cases flavor with
      | personal => simpa [Remark.envelope, Room.joinEnvelope, Envelope.texts] using huser
      | collapsing =>
          simpa [Remark.envelope, Room.joinEnvelope, Envelope.texts, huser] using
            huser.append (by simp [OneLine])
  | said user text audience => cases audience <;> exact h

theorem Envelope.texts_conveyed_subset (flavor : Flavor) (envelope : Envelope) :
    (envelope.conveyed flavor).texts ⊆ envelope.texts := by
  cases flavor with
  | personal => exact List.Subset.refl _
  | collapsing => cases envelope <;> simp [Envelope.conveyed, Envelope.texts]

theorem ChatError.oneLine_refused (refusal : Refusal) :
    OneLine (ChatError.refused refusal).message := by
  cases refusal <;> simp [ChatError.message, Refusal.message, OneLine]

/-! ## What is shown and told -/

/-- Each of the lines is one line, and so is the wording of the failure if there is one. -/
structure OneLineEach (lines : List Line) (result : Except ChatError Unit) : Prop where
  lines : ∀ l ∈ lines, OneLine l.printed
  message : ∀ e, result = .error e → OneLine e.message

abbrev Outcome.OneLined {τ : Type} (o : Outcome τ) : Prop :=
  OneLineEach o.lines o.result

/-- What becomes of the room has no part in what is shown. -/
theorem Outcome.OneLined.withRoom
    {τ : Type} {o : Outcome τ} (h : o.OneLined) (room : Room τ) :
    Outcome.OneLined { o with room := room } :=
  ⟨h.lines, h.message⟩

namespace Room

variable {τ : Type}

theorem oneLined_fail {e : ChatError} (h : OneLine e.message) (room : Room τ) :
    (room.fail e).OneLined where
  lines := by simp [fail]
  message := by
    intro e' he'
    rwa [← Except.error.inj he']

theorem oneLined_done (room : Room τ) : room.done.OneLined where
  lines := by simp [done]
  message := nofun

theorem oneLined_display
    {envelope : Envelope} (h : ∀ text ∈ envelope.texts, OneLine text) (room : Room τ) :
    (room.display envelope).OneLined where
  lines := Renderer.oneLine_of_mem_lines h room.renderer
  message := nofun

theorem oneLined_tell {text : String} (h : OneLine text) (room : Room τ) (topic : MetaTopic) :
    (room.tell topic text).OneLined := by
  have hserver : OneLine "server" ∧ OneLine "SERVER" := by simp [OneLine]
  refine oneLined_display ?_ room
  cases room.settings.flavor <;> cases topic <;> simp [newsEnvelope, Envelope.texts, h, hserver]

/-! ## Operations -/

variable [Transport τ]

theorem oneLined_join (room : Room τ) (name : String) : (room.join name).OneLined := by
  rcases join_cases room name with ⟨refusal, -, hjoin⟩ | ⟨-, hjoin⟩
  · rw [hjoin]
    exact oneLined_fail (ChatError.oneLine_refused refusal) room
  · rw [hjoin]
    exact oneLined_done _

theorem oneLined_send
    {user text : String} {audience : Audience}
    (h : ∀ t ∈ (Remark.said user text audience).texts, OneLine t) (room : Room τ) :
    (room.send user text audience).OneLined := by
  rw [send]
  refine Outcome.OneLined.withRoom ?_ _
  split
  · exact oneLined_display (Remark.oneLine_of_mem_texts_envelope h room.settings.flavor) room
  · exact oneLined_done room

theorem oneLined_say
    {room : Room τ} {text : String} {audience : Audience}
    (huser : ∀ user, room.user = some user → OneLine user)
    (h : ∀ t ∈ text :: audience.texts, OneLine t) : (room.say text audience).OneLined := by
  rw [say]
  split
  · exact oneLined_fail (ChatError.oneLine_refused _) room
  · split
    · exact oneLined_fail (by simp [ChatError.message, OneLine]) room
    · next user hinside =>
      split
      · next refusal _ => exact oneLined_fail (ChatError.oneLine_refused refusal) room
      · refine oneLined_send ?_ room
        exact List.forall_mem_cons.mpr ⟨huser user hinside, h⟩

theorem oneLined_hearHandshake
    {reply : MetaReply} (h : ∀ text ∈ reply.texts, OneLine text) (room : Room τ)
    (successful : Bool) : (room.hearHandshake successful reply).OneLined := by
  have hgiven : ∀ given : Option String, (∀ text ∈ given, text ∈ reply.texts) →
      OneLine (given.getD "") := by
    intro given hmem
    cases given with
    | none => exact Text.oneLine_empty
    | some text => exact h text (hmem text rfl)
  rw [hearHandshake]
  split
  · refine Outcome.OneLined.withRoom (oneLined_tell ?_ _ _) _
    refine OneLine.append (by simp [OneLine]) (hgiven _ ?_)
    exact fun text htext => List.mem_append_left _ (Option.mem_toList.mpr htext)
  · refine oneLined_tell (hgiven _ ?_) room _
    exact fun text htext => List.mem_append_right _ (Option.mem_toList.mpr htext)

theorem oneLined_hearEvent
    {e : MetaEvent} (h : ∀ text ∈ e.reply.texts, OneLine text) (room : Room τ) :
    (room.hearEvent e).OneLined := by
  rw [hearEvent]
  split
  · exact oneLined_hearHandshake h room e.successful
  · split
    · refine Outcome.OneLined.withRoom ?_ _
      split
      · exact oneLined_done room
      · exact oneLined_tell (by simp [OneLine]) room _
    · rw [hearUnanswered]
      split
      · exact (oneLined_tell (by simp [OneLine]) room _).withRoom _
      · exact oneLined_done room
  · exact oneLined_done room

end Room

/-! ## What is kept -/

/-- No text that comes with the arrival has a line feed in it. -/
def Arrival.OneLined (s : Settings) : Arrival → Prop
  | .message m =>
    ∃ r : Remark, r.Proper s.flavor ∧ (∀ text ∈ r.texts, OneLine text) ∧ m.data = some (r.data s)
  | .event _ e => ∀ text ∈ e.reply.texts, OneLine text

theorem Loopback.oneLined_welcome (s : Settings) (listener : Listener) (handshakes : Nat) :
    ∀ x ∈ welcome listener handshakes, x.OneLined s := by
  intro x hx
  simp only [welcome, List.mem_cons, List.not_mem_nil, or_false] at hx
  rcases hx with rfl | rfl
  · simpa [Arrival.OneLined, MetaEvent.welcomed, MetaReply.texts, identity] using
      Text.oneLine_paddedHex (by decide) handshakes
  · simp [Arrival.OneLined, MetaEvent.answered, MetaReply.texts]

/-- Neither the user's name nor anything that waits to be heard has a line feed in it, and
the room reads what it hears in the flavor in which it was published. -/
structure Room.OneLined (room : Room Loopback) : Prop where
  coupled : room.Coupled
  flavor : room.renderer.flavor = room.settings.flavor
  user : ∀ user, room.user = some user → OneLine user
  waiting : ∃ waiting, room.transport.mailbox = some waiting ∧
    ∀ x ∈ waiting, x.OneLined room.settings

namespace Room

theorem oneLined_empty (s : Settings) : (empty s ({} : Loopback)).OneLined where
  coupled := coupled_empty s
  flavor := rfl
  user := nofun
  waiting := ⟨[], rfl, by simp⟩

variable {room : Room Loopback}

/-- What becomes of a room on one line, if what waits for it grows only at its end. -/
theorem OneLined.next
    (h : room.OneLined) {room' : Room Loopback} (hcoupled : room'.Coupled)
    (hsettings : room'.settings = room.settings)
    (hflavor : room'.renderer.flavor = room.renderer.flavor)
    (huser : ∀ user, room'.user = some user → OneLine user) {arrivals : List Arrival}
    (hmailbox : ∀ waiting, room.transport.mailbox = some waiting →
      room'.transport.mailbox = some (waiting ++ arrivals))
    (harrivals : ∀ x ∈ arrivals, x.OneLined room.settings) : room'.OneLined := by
  obtain ⟨waiting, hwaiting, hall⟩ := h.waiting
  refine ⟨hcoupled, ?_, huser, waiting ++ arrivals, hmailbox waiting hwaiting, ?_⟩
  · rw [hflavor, hsettings, h.flavor]
  · rw [hsettings]
    intro x hx
    rw [List.mem_append] at hx
    exact hx.elim (hall x) (harrivals x)

theorem OneLined.join (h : room.OneLined) {name : String} (hname : OneLine name) :
    (room.join name).room.OneLined := by
  rcases join_cases room name with ⟨refusal, -, hjoin⟩ | ⟨hfit, hjoin⟩
  · rw [hjoin]
    exact h
  · have huser : ∀ user, (room.join name).room.user = some user → OneLine user := by
      intro user huser
      rw [hjoin] at huser
      rwa [← Option.some.inj huser]
    refine h.next (coupled_join h.coupled name) (settings_join room name)
      (flavor_of_showsAtMostOne (showsAtMostOne_join room name)) huser
      (fun waiting hwaiting => mailbox_join h.coupled hfit hwaiting) ?_
    -- The announcement of the user arrives, and then the welcome.
    have hannounced : ∀ text ∈ (Remark.joined name).texts, OneLine text := by
      simpa [Remark.texts] using hname
    exact List.forall_mem_cons.mpr ⟨⟨.joined name, trivial, hannounced, data_announcement _ _ name⟩,
      Loopback.oneLined_welcome _ _ _⟩

theorem OneLined.leave (h : room.OneLined) : room.leave.OneLined := by
  have hnobody : room.leave.user = none := by rw [Room.user, session_leave, Option.map_none]
  have hmailbox : ∀ waiting, room.transport.mailbox = some waiting →
      room.leave.transport.mailbox = some (waiting ++ []) := by
    intro waiting hwaiting
    rw [mailbox_leave h.coupled.putsOffInBatch, hwaiting, List.append_nil]
  refine h.next (coupled_leave h.coupled) (settings_leave room) ?_ ?_ hmailbox (by simp)
  · rw [renderer_leave]
  · simp [hnobody]

theorem OneLined.say
    (h : room.OneLined) {text : String} {audience : Audience}
    (htexts : ∀ t ∈ text :: audience.texts, OneLine t) :
    (room.say text audience).room.OneLined := by
  have hcoupled := coupled_say h.coupled text audience
  have hsettings := settings_say room text audience
  have hflavor := flavor_of_showsAtMostOne (showsAtMostOne_say room text audience)
  rcases say_cases room text audience with ⟨e, hsay⟩ | ⟨user, hnonempty, huser, haudience, hsay⟩
  · rw [hsay]
    exact h
  · have hproper : (Remark.said user text audience).Proper room.settings.flavor :=
      ⟨hnonempty, haudience⟩
    have hall : ∀ t ∈ (Remark.said user text audience).texts, OneLine t :=
      List.forall_mem_cons.mpr ⟨h.user user huser, htexts⟩
    rw [hsay] at hcoupled hsettings hflavor ⊢
    refine h.next hcoupled hsettings hflavor ?_
      (fun waiting hwaiting => mailbox_send h.coupled huser hproper hwaiting) ?_
    · intro other hother
      rw [send_room] at hother
      exact h.user other hother
    · split
      · simpa using ⟨_, hproper, hall, rfl⟩
      · simp

theorem OneLined.stall (h : room.OneLined) :
    OneLined { room with transport := room.transport.stall } := by
  have hcoupled := coupled_stall h.coupled
  obtain hsession | ⟨session, hsession⟩ := Option.eq_none_or_eq_some room.session
  · rwa [(h.coupled.idle hsession).stall_eq]
  · rw [(h.coupled.serves hsession).stall_eq] at hcoupled ⊢
    refine h.next hcoupled rfl rfl h.user (fun waiting hwaiting => by rw [hwaiting]; rfl) ?_
    simp [Arrival.OneLined, MetaEvent.unanswered, MetaReply.texts]

theorem OneLined.forget (h : room.OneLined) :
    OneLined { room with transport := room.transport.forget } := by
  have hcoupled := coupled_forget h.coupled
  obtain hsession | ⟨session, hsession⟩ := Option.eq_none_or_eq_some room.session
  · rwa [(h.coupled.idle hsession).forget_eq]
  · rw [(h.coupled.serves hsession).forget_eq] at hcoupled ⊢
    exact h.next hcoupled rfl rfl h.user (fun waiting hwaiting => by rw [hwaiting]; rfl)
      (Loopback.oneLined_welcome _ _ _)

/-- What is taken out to be heard has no line feed in it, and neither has what is left. -/
theorem OneLined.taken
    (h : room.OneLined) {x : Arrival} {taken : Room Loopback}
    (htaken : room.takeWaiting? = some (x, taken)) :
    taken.OneLined ∧ x.OneLined taken.settings := by
  obtain ⟨rest, hmailbox, rfl⟩ := takeWaiting?_eq_some_iff.mp htaken
  obtain ⟨waiting, hwaiting, hall⟩ := h.waiting
  obtain rfl := Option.some.inj (hwaiting.symm.trans hmailbox)
  obtain ⟨hx, hrest⟩ := List.forall_mem_cons.mp hall
  exact ⟨⟨h.coupled.withMailbox _, h.flavor, h.user, rest, rfl, hrest⟩, hx⟩

/-- Nothing arrives by hearing, and the user is the same or is gone. -/
theorem OneLined.hear (h : room.OneLined) (x : Arrival) : (room.hear x).room.OneLined := by
  obtain ⟨hsettings, hoccupant⟩ := hear_cases_of_coupled h.coupled x
  have hmailbox : ∀ waiting, room.transport.mailbox = some waiting →
      (room.hear x).room.transport.mailbox = some (waiting ++ []) := by
    intro waiting hwaiting
    rw [mailbox_hear h.coupled.putsOffInBatch, hwaiting, List.append_nil]
  refine h.next (coupled_hear h.coupled x) hsettings
    (flavor_of_showsAtMostOne (showsAtMostOne_hear room x)) ?_ hmailbox (by simp)
  intro user huser
  rw [user_eq_map_occupant] at huser
  rcases hoccupant with ⟨-, hsame⟩ | ⟨-, hnobody⟩
  · rw [hsame, ← user_eq_map_occupant] at huser
    exact h.user user huser
  · rw [hnobody] at huser
    cases huser

/-- A message is read as the remark that was published, so that it makes one line. -/
theorem OneLined.oneLined_hear
    (h : room.OneLined) {x : Arrival} (hx : x.OneLined room.settings) :
    (room.hear x).OneLined := by
  cases x with
  | message m =>
      obtain ⟨r, hproper, htexts, hdata⟩ := hx
      rw [Remark.hear_message_eq h.flavor hproper hdata]
      refine oneLined_display ?_ room
      intro text htext
      exact Remark.oneLine_of_mem_texts_envelope htexts _ text
        (Envelope.texts_conveyed_subset _ _ htext)
  | event listener e =>
      rcases hear_event_cases room listener e with ⟨-, hhear⟩ | ⟨session, -, -, hhear⟩
      · rw [hhear]
        exact oneLined_done room
      · rw [hhear]
        exact oneLined_hearEvent hx room

/-- However many of the arrivals that wait are heard, the room stays on one line, and so
does all that is shown. -/
theorem OneLined.hearWaiting (h : room.OneLined) (n : Nat) :
    (room.hearWaiting n).2.OneLined ∧
      ∀ reaction ∈ (room.hearWaiting n).1, OneLineEach reaction.lines reaction.result := by
  induction n generalizing room with
  | zero => exact ⟨h, by simp [Room.hearWaiting]⟩
  | succ n ih =>
      rw [Room.hearWaiting]
      split
      · exact ⟨h, by simp⟩
      · next x taken htaken =>
        obtain ⟨htakenRoom, hx⟩ := h.taken htaken
        obtain ⟨hroom, hrest⟩ := ih (htakenRoom.hear x)
        exact ⟨hroom, List.forall_mem_cons.mpr ⟨htakenRoom.oneLined_hear hx, hrest⟩⟩

end Room
end BayeuxChat
