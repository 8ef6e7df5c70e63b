import BayeuxChat.Proofs.Loopback.Silence
import BayeuxChat.Proofs.Room.Operations
import BayeuxChat.Proofs.Settings.Channels
import BayeuxChat.Room.Waiting

/-!
# A room over a loopback

A room and its loopback are two states that are changed by separate calls.  This
file says how they go together: while nobody is in the room the loopback is idle,
and while somebody is it serves exactly that session.  In these two conditions
every operation of the room comes to one equation.
-/

namespace BayeuxChat

/-! ## The conditions of a loopback -/

namespace Loopback

/-- Nothing is connected, subscribed to, listened for or put off. -/
structure Idle (t : Loopback) : Prop where
  address : t.address = none
  clientId : t.clientId = none
  handshakeDue : t.handshakeDue = false
  subscriptions : t.subscriptions = []
  listeners : t.listeners = []
  batchDepth : t.batchDepth = 0
  deferred : t.deferred = []

/-- Connected as the room's settings say, with the channels of `user` and one
listener, and with nothing due or put off. -/
structure Serves
    (t : Loopback) (s : Settings) (user : String) (listener : Listener) : Prop where
  address : t.address = some s.endpoint
  clientId : t.clientId.isSome
  handshakeDue : t.handshakeDue = false
  nodup_subscriptions : t.subscriptions.Nodup
  mem_subscriptions : ∀ channel, channel ∈ t.subscriptions ↔ channel ∈ s.channelsOf user
  listeners : t.listeners = [listener]
  batchDepth : t.batchDepth = 0
  deferred : t.deferred = []

theorem idle_empty : Idle {} :=
  ⟨rfl, rfl, rfl, rfl, rfl, rfl, rfl⟩

/-- The loopback after its user has left. -/
def vacated (t : Loopback) : Loopback :=
  { t with
    address := none, clientId := none, handshakeDue := false, subscriptions := [],
    listeners := [], batchDepth := 0, deferred := [] }

theorem idle_vacated (t : Loopback) : t.vacated.Idle :=
  ⟨rfl, rfl, rfl, rfl, rfl, rfl, rfl⟩

/-- What arrives in a handshake with a single listener. -/
def welcome (listener : Listener) (handshakes : Nat) : List Arrival :=
  [.event listener (.welcomed (identity handshakes)), .event listener .answered]

/-- The message by which a user who has just joined is announced. -/
def announcement (t : Loopback) (s : Settings) (user : String) : Message :=
  t.delivery (s.channel .everyone) ((Room.joinEnvelope s.flavor user).encode s.flavor)

/-- The loopback after a user has joined, it having been idle before. -/
def occupied (t : Loopback) (s : Settings) (user : String) : Loopback :=
  { t with
    address := some s.endpoint
    clientId := some (identity (t.handshakes + 1))
    handshakeDue := false
    subscriptions := subscribing (s.channelsOf user) []
    listeners := [⟨t.nextListener⟩]
    nextListener := t.nextListener + 1
    handshakes := t.handshakes + 1
    messages := t.messages + 1
    mailbox := t.mailbox.map (· ++
      (.message (t.announcement s user) :: welcome ⟨t.nextListener⟩ (t.handshakes + 1))) }

theorem Idle.serves_occupied
    {t : Loopback} (h : t.Idle) (s : Settings) (user : String) :
    (t.occupied s user).Serves s user ⟨t.nextListener⟩ where
  address := rfl
  clientId := rfl
  handshakeDue := rfl
  nodup_subscriptions := nodup_subscribing List.nodup_nil
  mem_subscriptions := by simp [occupied, mem_subscribing_iff]
  listeners := rfl
  batchDepth := h.batchDepth
  deferred := h.deferred

/-- A condition of service depends on nothing that counts or waits. -/
theorem Serves.of_eq
    {t t' : Loopback} {s : Settings} {user : String} {listener : Listener}
    (h : t.Serves s user listener)
    (haddress : t'.address = t.address) (hclientId : t'.clientId.isSome)
    (hdue : t'.handshakeDue = false) (hsubscriptions : t'.subscriptions = t.subscriptions)
    (hlisteners : t'.listeners = t.listeners)
    (hbatchDepth : t'.batchDepth = t.batchDepth) (hdeferred : t'.deferred = t.deferred) :
    t'.Serves s user listener where
  address := haddress.trans h.address
  clientId := hclientId
  handshakeDue := hdue
  nodup_subscriptions := hsubscriptions ▸ h.nodup_subscriptions
  mem_subscriptions := hsubscriptions ▸ h.mem_subscriptions
  listeners := hlisteners.trans h.listeners
  batchDepth := hbatchDepth.trans h.batchDepth
  deferred := hdeferred.trans h.deferred

section Serving

variable {t : Loopback} {s : Settings} {user : String} {listener : Listener}

theorem Serves.connected (h : t.Serves s user listener) : t.connected = true := by
  simp [Loopback.connected, h.address]

theorem Serves.accept_eq (h : t.Serves s user listener) (call : Deferred) :
    t.accept call = t.carryOut call := by
  simp [accept, h.connected, h.batchDepth]

theorem Serves.stall_eq (h : t.Serves s user listener) :
    t.stall =
      { t with mailbox := t.mailbox.map (· ++ [.event listener .unanswered]) } := by
  simp [stall, broadcast_eq, h.listeners, eventsFor]

theorem Serves.forget_eq (h : t.Serves s user listener) :
    t.forget =
      { t with
        handshakes := t.handshakes + 1
        clientId := some (identity (t.handshakes + 1))
        mailbox := t.mailbox.map (· ++ welcome listener (t.handshakes + 1)) } := by
  simp [forget, h.connected, handshake_eq, h.listeners, eventsFor, welcome,
    ← h.handshakeDue]

theorem Serves.stall (h : t.Serves s user listener) : t.stall.Serves s user listener := by
  rw [h.stall_eq]
  exact h.of_eq rfl h.clientId h.handshakeDue rfl rfl rfl rfl

theorem Serves.forget (h : t.Serves s user listener) : t.forget.Serves s user listener := by
  rw [h.forget_eq]
  exact h.of_eq rfl rfl h.handshakeDue rfl rfl rfl rfl

/-- Publishing reaches the user just on the channels that the user listens on. -/
theorem Serves.publish_eq
    (h : t.Serves s user listener) (audience : Audience) (envelope : Envelope) :
    Room.publish s audience envelope t =
      if s.channel audience ∈ s.channelsOf user then
        { t with
          messages := t.messages + 1
          mailbox := t.mailbox.map (· ++
            [.message (t.delivery (s.channel audience) (envelope.encode s.flavor))]) }
      else t := by
  have haccept : Room.publish s audience envelope t =
      t.carryOut (.publish (s.channel audience) (envelope.encode s.flavor)) :=
    h.accept_eq _
  rw [haccept]
  by_cases hmem : s.channel audience ∈ s.channelsOf user
  · rw [if_pos hmem, carryOut_publish_of_mem _ ((h.mem_subscriptions _).mpr hmem)]
  · rw [if_neg hmem, carryOut_publish_of_notMem _ (mt (h.mem_subscriptions _).mp hmem)]

theorem Serves.publish
    (h : t.Serves s user listener) (audience : Audience) (envelope : Envelope) :
    (Room.publish s audience envelope t).Serves s user listener := by
  rw [h.publish_eq]
  split
  · exact h.of_eq rfl h.clientId h.handshakeDue rfl rfl rfl rfl
  · exact h

/-- Subscribing again to a channel of the user changes nothing. -/
theorem Serves.subscribe_eq
    (h : t.Serves s user listener) {channel : String} (hmem : channel ∈ s.channelsOf user) :
    Transport.subscribe channel t = t := by
  have hpresent := (h.mem_subscriptions channel).mpr hmem
  calc
    Transport.subscribe channel t = t.carryOut (.subscribe channel) := h.accept_eq _
    _ = t := by simp [carryOut, hpresent]

/-- The calls of a user who leaves.  The channels are given up before the leave is
announced, so the announcement does not come back. -/
theorem Serves.leave_eq (h : t.Serves s user listener) (envelope : Envelope) :
    Transport.disconnect
        (Transport.batch
          (fun t => Room.publish s .everyone envelope
            (Transport.unsubscribeAll (s.channelsOf user) t))
          (Transport.unlisten listener t)) =
      t.vacated := by
  have hbatch := batch_unsubscribeAll_publish (s.channelsOf user) (s.channel .everyone)
    (envelope.encode s.flavor) (t.unlisten listener) h.connected h.batchDepth h.deferred
  rw [carryOut_publish_of_notMem _ (by simp [Settings.channel_everyone_mem])] at hbatch
  calc
    _ = disconnect { t.unlisten listener with
          subscriptions := (t.unlisten listener).subscriptions.filter
            (· ∉ s.channelsOf user) } := congrArg disconnect hbatch
    _ = t.vacated := by simp [disconnect, vacated, unlisten, h.listeners]

end Serving

/-- The calls of a user who joins. -/
theorem Idle.join_eq {t : Loopback} (h : t.Idle) (s : Settings) (user : String) :
    Transport.listen
        (Transport.batch
          (fun t => Room.publish s .everyone (Room.joinEnvelope s.flavor user)
            (Transport.subscribeAll (s.channelsOf user) t))
          (Transport.connect s.endpoint t)) =
      (⟨t.nextListener⟩, t.occupied s user) := by
  have hconnect : t.connect s.endpoint =
      { t with address := some s.endpoint, handshakeDue := true } := by
    simp [connect, h.listeners]
  have hbatch := batch_subscribeAll_publish (s.channelsOf user) (s.channel .everyone)
    ((Room.joinEnvelope s.flavor user).encode s.flavor)
    { t with address := some s.endpoint, handshakeDue := true } rfl h.batchDepth h.deferred
  rw [carryOut_publish_of_mem _
    (by simp [mem_subscribing_iff, Settings.channel_everyone_mem]), ← hconnect] at hbatch
  calc
    _ = listen _ := congrArg listen hbatch
    _ = (⟨t.nextListener⟩, t.occupied s user) := by
      simp [listen, hconnect, Loopback.connected, handshake_eq, occupied, h.listeners,
        h.subscriptions, eventsFor, welcome, announcement, delivery, Function.comp_def]

theorem Idle.stall_eq {t : Loopback} (h : t.Idle) : t.stall = t := by
  simp [stall, broadcast, h.listeners]

theorem Idle.forget_eq {t : Loopback} (h : t.Idle) : t.forget = t := by
  simp [forget, connected, h.address]

end Loopback

/-! ## The operations of the room -/

namespace Room

/-- The room goes with its loopback: it is served if somebody is in it and the
loopback is idle if nobody is. -/
def Coupled (room : Room Loopback) : Prop :=
  match room.session with
  | none => room.transport.Idle
  | some session => room.transport.Serves room.settings session.user session.listener

theorem Coupled.idle
    {room : Room Loopback} (h : room.Coupled) (hsession : room.session = none) :
    room.transport.Idle := by
  simpa [Coupled, hsession] using h

theorem Coupled.serves
    {room : Room Loopback} (h : room.Coupled)
    {session : Session} (hsession : room.session = some session) :
    room.transport.Serves room.settings session.user session.listener := by
  simpa [Coupled, hsession] using h

theorem coupled_of_idle
    {room : Room Loopback} (hsession : room.session = none)
    (h : room.transport.Idle) : room.Coupled := by
  simpa [Coupled, hsession] using h

theorem coupled_of_serves
    {room : Room Loopback} {session : Session}
    (hsession : room.session = some session)
    (h : room.transport.Serves room.settings session.user session.listener) :
    room.Coupled := by
  simpa [Coupled, hsession] using h

theorem coupled_empty (s : Settings) : (empty s ({} : Loopback)).Coupled :=
  coupled_of_idle rfl Loopback.idle_empty

/-- Whoever is in the room is out after leaving, and nothing arrives by it. -/
theorem leave_of_session
    {room : Room Loopback} (h : room.Coupled)
    {session : Session} (hsession : room.session = some session) :
    room.leave = { room with transport := room.transport.vacated, session := none } := by
  simp only [leave, hsession, (h.serves hsession).leave_eq]

/-- Joining a room that nobody is in. -/
theorem enter_of_idle
    {room : Room Loopback} (h : room.transport.Idle) (user : String) :
    room.enter user =
      { room with
        transport := room.transport.occupied room.settings user
        connected := true
        session := some { user := user, listener := ⟨room.transport.nextListener⟩ } } := by
  simp only [enter, h.join_eq]

/-- Being coupled depends on the transport, the settings, and the occupant. -/
theorem Coupled.congr
    {room room' : Room Loopback} (h : room.Coupled)
    (htransport : room'.transport = room.transport)
    (hsettings : room'.settings = room.settings)
    (hoccupant : room'.occupant = room.occupant) :
    room'.Coupled := by
  obtain hsession | ⟨session, hsession⟩ := Option.eq_none_or_eq_some room.session
  · rw [occupant_eq_none_iff.mpr hsession, occupant_eq_none_iff] at hoccupant
    exact coupled_of_idle hoccupant (htransport ▸ h.idle hsession)
  · rw [occupant_eq_some_iff.mpr ⟨session, hsession, rfl, rfl⟩, occupant_eq_some_iff]
      at hoccupant
    obtain ⟨session', hsession', huser, hlistener⟩ := hoccupant
    refine coupled_of_serves hsession' ?_
    rw [htransport, hsettings, huser, hlistener]
    exact h.serves hsession

theorem coupled_leave {room : Room Loopback} (h : room.Coupled) : room.leave.Coupled := by
  cases hsession : room.session with
  | none => rwa [leave_of_none hsession]
  | some session =>
      rw [leave_of_session h hsession]
      exact coupled_of_idle rfl room.transport.idle_vacated

theorem coupled_enter
    {room : Room Loopback} (h : room.transport.Idle) (user : String) :
    (room.enter user).Coupled := by
  rw [enter_of_idle h]
  exact coupled_of_serves rfl (h.serves_occupied _ _)

theorem coupled_join {room : Room Loopback} (h : room.Coupled) (name : String) :
    (room.join name).room.Coupled := by
  rcases join_cases room name with ⟨refusal, -, hjoin⟩ | ⟨-, hjoin⟩
  · rw [hjoin]
    exact h
  · rw [hjoin]
    exact coupled_enter ((coupled_leave h).idle (session_leave room)) name

theorem coupled_say
    {room : Room Loopback} (h : room.Coupled) (text : String) (audience : Audience) :
    (room.say text audience).room.Coupled := by
  rcases say_cases room text audience with ⟨e, hsay⟩ | ⟨user, -, huser, -, hsay⟩
  · rw [hsay]
    exact h
  · obtain ⟨session, hsession, -⟩ := user_eq_some_iff.mp huser
    rw [hsay, send_room]
    exact coupled_of_serves hsession ((h.serves hsession).publish _ _)

/-- What hearing an arrival does to a coupled room: the transport stays as it is and
so does the occupant, or the user leaves. -/
theorem hear_cases_of_coupled
    {room : Room Loopback} (h : room.Coupled) (x : Arrival) :
    (room.hear x).room.settings = room.settings ∧
      (((room.hear x).room.transport = room.transport ∧
          (room.hear x).room.occupant = room.occupant) ∨
        ((room.hear x).room.transport = room.transport.vacated ∧
          (room.hear x).room.occupant = none)) := by
  obtain ⟨hsettings, hsame | ⟨-, hsome, htransport, hoccupant⟩ |
    ⟨-, hsome, htransport, hoccupant⟩⟩ := hear_cases room x
  · exact ⟨hsettings, .inl hsame⟩
  · obtain ⟨session, hsession⟩ := Option.isSome_iff_exists.mp hsome
    have hsubscribed := (h.serves hsession).subscribe_eq
      (room.settings.channel_everyone_mem session.user)
    exact ⟨hsettings, .inl ⟨htransport.trans hsubscribed, hoccupant⟩⟩
  · obtain ⟨session, hsession⟩ := Option.isSome_iff_exists.mp hsome
    rw [leave_of_session h hsession] at htransport
    exact ⟨hsettings, .inr ⟨htransport, hoccupant⟩⟩

theorem coupled_hear {room : Room Loopback} (h : room.Coupled) (x : Arrival) :
    (room.hear x).room.Coupled := by
  obtain ⟨hsettings, ⟨htransport, hoccupant⟩ | ⟨htransport, hoccupant⟩⟩ :=
    hear_cases_of_coupled h x
  · exact h.congr htransport hsettings hoccupant
  · refine coupled_of_idle (occupant_eq_none_iff.mp hoccupant) ?_
    rw [htransport]
    exact room.transport.idle_vacated

theorem handshakes_leave {room : Room Loopback} (h : room.Coupled) :
    room.leave.transport.handshakes = room.transport.handshakes := by
  obtain hsession | ⟨session, hsession⟩ := Option.eq_none_or_eq_some room.session
  · rw [leave_of_none hsession]
  · rw [leave_of_session h hsession]
    rfl

/-! ## Nothing arrives by leaving or hearing -/

/-- No batch is left open, whether or not anybody is in the room. -/
theorem Coupled.unbatched {room : Room Loopback} (h : room.Coupled) :
    room.transport.batchDepth = 0 ∧ room.transport.deferred = [] := by
  obtain hsession | ⟨session, hsession⟩ := Option.eq_none_or_eq_some room.session
  · have hidle := h.idle hsession
    exact ⟨hidle.batchDepth, hidle.deferred⟩
  · have hserves := h.serves hsession
    exact ⟨hserves.batchDepth, hserves.deferred⟩

theorem Coupled.putsOffInBatch {room : Room Loopback} (h : room.Coupled) :
    room.transport.PutsOffInBatch :=
  fun _ => h.unbatched.2

/-- Even if the loopback is not coupled to the room, nothing arrives by leaving: the
channel of the announcement was given up before. -/
theorem mailbox_leave {room : Room Loopback} (h : room.transport.PutsOffInBatch) :
    room.leave.transport.mailbox = room.transport.mailbox := by
  obtain hsession | ⟨session, hsession⟩ := Option.eq_none_or_eq_some room.session
  · rw [leave_of_none hsession]
  · have hunlistened : (room.transport.unlisten session.listener).PutsOffInBatch := h
    have hmem := room.settings.channel_everyone_mem session.user
    simp only [leave, hsession]
    exact Loopback.mailbox_batch_unsubscribeAll_publish hmem _ hunlistened

theorem mailbox_hear
    {room : Room Loopback} (h : room.transport.PutsOffInBatch) (x : Arrival) :
    (room.hear x).room.transport.mailbox = room.transport.mailbox := by
  obtain ⟨-, ⟨htransport, -⟩ | ⟨-, -, htransport, -⟩ | ⟨-, -, htransport, -⟩⟩ :=
    hear_cases room x
  · rw [htransport]
  · rw [htransport]
    exact Loopback.mailbox_accept_subscribe _ _
  · rw [htransport]
    exact mailbox_leave h

end Room
end BayeuxChat
