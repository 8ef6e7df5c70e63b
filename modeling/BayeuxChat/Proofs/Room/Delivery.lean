import BayeuxChat.Proofs.Room.Coupling
import BayeuxChat.Proofs.Room.Remark

/-!
# Every remark arrives once

In a run of a room over a loopback, remarks come back as messages and wait until
they are heard, perhaps after the user has left or somebody else has joined.  This
file compares the history of a run with its mailbox: the messages are the remarks
that come back, in order and each once, and whenever one of them is heard it makes
one line, by the user who made the remark.
-/

namespace BayeuxChat

/-! ## Histories -/

/-- A move at the point of a run at which it was made. -/
structure Moment where
  before : Room Loopback
  move : Move

namespace Moment

/-- What came of the move. -/
def outcome (m : Moment) : Outcome Loopback :=
  m.before.move m.move

/-- The remark that was made, if one was made that comes back. -/
def remark? (m : Moment) : Option Remark :=
  match m.move, m.outcome.result with
  | .join name, .ok () => some (.joined name)
  | .say text audience, .ok () =>
    (m.before.user.filter fun user => m.before.settings.comesBack user audience).map
      fun user => .said user text audience
  | _, _ => none

/-- The message that was heard, if one was. -/
def heard? (m : Moment) : Option Message :=
  match m.move with
  | .hearOldest => m.before.transport.waiting.head?.bind Arrival.message?
  | _ => none

/-- What still waits of what waited before. -/
def kept (m : Moment) : List Arrival :=
  match m.move with
  | .hearOldest => m.before.transport.waiting.tail
  | _ => m.before.transport.waiting

/-- The messages that the move put into the mailbox. -/
def sent (m : Moment) : List Message :=
  Arrival.messages (m.outcome.room.transport.waiting.drop m.kept.length)

end Moment

/-- The moves of a run, each where it was made. -/
def Room.history (room : Room Loopback) : List Move → List Moment
  | [] => []
  | m :: rest => { before := room, move := m } :: (room.move m).room.history rest

theorem Room.history_concat (room : Room Loopback) (moves : List Move) (m : Move) :
    room.history (moves ++ [m]) =
      room.history moves ++ [{ before := room.afterMoves moves, move := m }] := by
  induction moves generalizing room with
  | nil => rfl
  | cons first rest ih => simp [Room.history, ih, Room.afterMoves]

/-! ## What a move sends -/

/-- The channel and the data of a message. -/
def Message.content (m : Message) : String × Option Json :=
  (m.channel, m.data)

/-- The channel and the data of a remark when it arrives. -/
def Remark.content (s : Settings) (r : Remark) : String × Option Json :=
  (s.channel r.audience, some (r.data s))

namespace Moment

/-- A move puts into the mailbox the message of the remark that it makes, if it
makes one that comes back, and no other message. -/
theorem mailbox_outcome
    {m : Moment} (h : m.before.Coupled) {waiting : List Arrival}
    (hwaiting : m.before.transport.mailbox = some waiting) :
    ∃ posted, m.outcome.room.transport.mailbox = some (m.kept ++ posted) ∧
      (Arrival.messages posted).map Message.content =
        m.remark?.toList.map (Remark.content m.before.settings) := by
  obtain ⟨room, move⟩ := m
  simp only at h hwaiting
  have hheld : room.transport.waiting = waiting := by simp [Loopback.waiting, hwaiting]
  cases move with
  | join name =>
      rcases Room.join_cases room name with ⟨refusal, -, hjoin⟩ | ⟨hname, hjoin⟩
      · refine ⟨[], ?_, ?_⟩
        · simp [outcome, Room.move, hjoin, Room.fail, kept, hwaiting, hheld]
        · simp [remark?, outcome, Room.move, hjoin, Room.fail, Arrival.messages]
      · have hmailbox := Room.mailbox_join h hname hwaiting
        refine ⟨_ :: Loopback.welcome _ _, by simpa [outcome, Room.move, kept, hheld] using
          hmailbox, ?_⟩
        simp [remark?, outcome, Room.move, hjoin, Room.done, Arrival.messages,
          Arrival.message?, Loopback.welcome, Message.content, Remark.content,
          Remark.audience, Loopback.announcement,
          Loopback.delivery, Remark.data, Settings.encode_joinEnvelope]
  | leave =>
      refine ⟨[], ?_, rfl⟩
      simp [outcome, Room.move, Room.done, Room.mailbox_leave h.putsOffInBatch, kept, hwaiting, hheld]
  | say text audience =>
      rcases Room.say_cases room text audience with
        ⟨e, hsay⟩ | ⟨user, htext, huser, haudience, hsay⟩
      · refine ⟨[], ?_, ?_⟩
        · simp [outcome, Room.move, hsay, Room.fail, kept, hwaiting, hheld]
        · simp [remark?, outcome, Room.move, hsay, Room.fail, Arrival.messages]
      · have hmailbox := Room.mailbox_send h huser ⟨htext, haudience⟩ hwaiting
        refine ⟨_, by simpa [outcome, Room.move, hsay, kept, hheld] using hmailbox, ?_⟩
        by_cases hback : room.settings.comesBack user audience
        · simp [remark?, outcome, Room.move, hsay, Room.send_result, huser, hback,
            Option.filter_some, Arrival.messages, Arrival.message?, Loopback.delivery,
            Message.content, Remark.content, Remark.audience]
        · simp [remark?, outcome, Room.move, hsay, Room.send_result, huser, hback,
            Option.filter_some, Arrival.messages]
  | stall =>
      obtain hsession | ⟨session, hsession⟩ := Option.eq_none_or_eq_some room.session
      · refine ⟨[], ?_, rfl⟩
        simp [outcome, Room.move, Room.done, (h.idle hsession).stall_eq, kept, hwaiting, hheld]
      · refine ⟨[.event session.listener .unanswered], ?_, rfl⟩
        simp [outcome, Room.move, Room.done, (h.serves hsession).stall_eq, kept, hwaiting,
          hheld]
  | forget =>
      obtain hsession | ⟨session, hsession⟩ := Option.eq_none_or_eq_some room.session
      · refine ⟨[], ?_, rfl⟩
        simp [outcome, Room.move, Room.done, (h.idle hsession).forget_eq, kept, hwaiting, hheld]
      · refine ⟨Loopback.welcome session.listener (room.transport.handshakes + 1), ?_, rfl⟩
        simp [outcome, Room.move, Room.done, (h.serves hsession).forget_eq, kept, hwaiting,
          hheld]
  | hearOldest =>
      refine ⟨[], ?_, rfl⟩
      simp only [outcome, Room.move, kept, hheld, List.append_nil]
      split
      · next hnothing =>
        cases waiting with
        | nil => simp [Room.done, hwaiting]
        | cons x rest => simp [Room.takeWaiting?, Loopback.take?, hwaiting] at hnothing
      · next x taken htaken =>
        obtain ⟨rest, hmailbox, rfl⟩ := Room.takeWaiting?_eq_some_iff.mp htaken
        rw [hwaiting] at hmailbox
        obtain rfl := Option.some.inj hmailbox
        exact Room.mailbox_hear (h.withMailbox _).putsOffInBatch x

/-- What waits before a move is what it hears and then what still waits. -/
theorem messages_waiting (m : Moment) :
    Arrival.messages m.before.transport.waiting =
      m.heard?.toList ++ Arrival.messages m.kept := by
  obtain ⟨room, move⟩ := m
  cases move with
  | hearOldest =>
      cases hwaiting : room.transport.waiting with
      | nil => simp [heard?, kept, hwaiting, Arrival.messages]
      | cons x rest =>
          cases x <;>
            simp [heard?, kept, hwaiting, Arrival.messages, Arrival.message?,
              List.filterMap_cons]
  | _ => rfl

theorem proper_remark
    {m : Moment} {r : Remark} (h : m.remark? = some r) :
    r.Proper m.before.settings.flavor := by
  obtain ⟨room, move⟩ := m
  cases move with
  | join name =>
      rcases Room.join_cases room name with ⟨refusal, -, hjoin⟩ | ⟨-, hjoin⟩
      · simp [remark?, outcome, Room.move, hjoin, Room.fail] at h
      · simp only [remark?, outcome, Room.move, hjoin, Room.done, Option.some.injEq] at h
        rw [← h]
        trivial
  | say text audience =>
      rcases Room.say_cases room text audience with
        ⟨e, hsay⟩ | ⟨user, htext, huser, haudience, hsay⟩
      · simp [remark?, outcome, Room.move, hsay, Room.fail] at h
      · simp only [remark?, outcome, Room.move, hsay, Room.send_result, huser,
          Option.map_eq_some_iff] at h
        obtain ⟨speaker, -, rfl⟩ := h
        exact ⟨htext, haudience⟩
  | _ => cases h

/-- Every move shows at most one envelope. -/
theorem showsAtMostOne_outcome (m : Moment) : m.outcome.ShowsAtMostOne m.before := by
  obtain ⟨room, move⟩ := m
  cases move with
  | join name => exact Room.showsAtMostOne_join room name
  | leave => exact .inl ⟨rfl, Room.renderer_leave room⟩
  | say text audience => exact Room.showsAtMostOne_say room text audience
  | stall => exact .inl ⟨rfl, rfl⟩
  | forget => exact .inl ⟨rfl, rfl⟩
  | hearOldest =>
      simp only [outcome, Room.move]
      split
      · exact .inl ⟨rfl, rfl⟩
      · next x taken htaken =>
        obtain ⟨rest, -, rfl⟩ := Room.takeWaiting?_eq_some_iff.mp htaken
        exact Room.showsAtMostOne_hear _ x

end Moment

/-! ## Along a run -/

/-- What a run that has come to a room has sent, heard and shown. -/
structure Delivers (s : Settings) (run : List Moment) (room : Room Loopback) : Prop where
  coupled : room.Coupled
  settings : room.settings = s
  flavor : room.renderer.flavor = s.flavor
  remembers : room.renderer.Remembers (run.flatMap fun m => m.outcome.lines)
  proper : ∀ r ∈ run.filterMap Moment.remark?, r.Proper s.flavor
  sent : ∀ m ∈ run,
    m.sent.map Message.content = m.remark?.toList.map (Remark.content s)
  mailbox : ∃ waiting, room.transport.mailbox = some waiting ∧
    run.flatMap Moment.sent = run.filterMap Moment.heard? ++ Arrival.messages waiting

namespace Delivers

theorem empty (s : Settings) : Delivers s [] (Room.empty s {}) where
  coupled := Room.coupled_empty s
  settings := rfl
  flavor := rfl
  remembers := ⟨fun _ => rfl, by simp [Room.empty]⟩
  proper := by simp
  sent := by simp
  mailbox := ⟨[], rfl, rfl⟩

theorem concat
    {s : Settings} {run : List Moment} {room : Room Loopback}
    (h : Delivers s run room) (move : Move) :
    Delivers s (run ++ [{ before := room, move := move }]) (room.move move).room := by
  let m : Moment := { before := room, move := move }
  obtain ⟨waiting, hwaiting, hsent⟩ := h.mailbox
  obtain ⟨posted, hmailbox, hcontent⟩ := m.mailbox_outcome h.coupled hwaiting
  obtain ⟨hremembers, hflavor⟩ := h.remembers.outcome m.showsAtMostOne_outcome
  have hposted : m.sent = Arrival.messages posted := by
    simp [Moment.sent, Loopback.waiting, hmailbox]
  have hheld : room.transport.waiting = waiting := by simp [Loopback.waiting, hwaiting]
  refine ⟨Room.coupled_move h.coupled move, (Room.settings_move room move).trans h.settings,
    hflavor.trans h.flavor, ?_, ?_, ?_, m.kept ++ posted, hmailbox, ?_⟩
  · have hlog : (run ++ [m]).flatMap (fun m => m.outcome.lines) =
        run.flatMap (fun m => m.outcome.lines) ++ m.outcome.lines := by simp
    rw [hlog]
    exact hremembers
  · intro r hr
    rw [List.filterMap_append, List.mem_append] at hr
    rcases hr with hr | hr
    · exact h.proper r hr
    · have hremark : m.remark? = some r := by simpa using hr
      exact h.settings ▸ Moment.proper_remark hremark
  · intro other hother
    rw [List.mem_append, List.mem_singleton] at hother
    rcases hother with hother | rfl
    · exact h.sent other hother
    · exact hposted ▸ h.settings ▸ hcontent
  -- A move adds to the mailbox at its end and takes at most its head, which it hears.
  · calc
      (run ++ [m]).flatMap Moment.sent = run.flatMap Moment.sent ++ m.sent := by simp
      _ = run.filterMap Moment.heard? ++ Arrival.messages waiting ++
            Arrival.messages posted := by rw [hsent, hposted]
      _ = run.filterMap Moment.heard? ++ (m.heard?.toList ++ Arrival.messages m.kept) ++
            Arrival.messages posted := by rw [← hheld, ← m.messages_waiting]
      _ = (run ++ [m]).filterMap Moment.heard? ++ Arrival.messages (m.kept ++ posted) := by
            cases hheard : m.heard? <;>
              simp [Arrival.messages, hheard]

theorem afterMoves (s : Settings) (moves : List Move) :
    Delivers s ((Room.empty s {}).history moves) ((Room.empty s {}).afterMoves moves) := by
  induction moves using List.reverseRecOn with
  | nil => exact empty s
  | append_singleton moves m ih =>
      rw [Room.history_concat, Room.afterMoves_concat]
      exact ih.concat m

/-- In content, the messages that a run has sent are the remarks that were made. -/
theorem content_sent
    {s : Settings} {run : List Moment} {room : Room Loopback} (h : Delivers s run room) :
    (run.flatMap Moment.sent).map Message.content =
      (run.filterMap Moment.remark?).map (Remark.content s) := by
  -- Nothing but `sent` is true of a shorter run as well.
  have hsent := h.sent
  clear h
  induction run with
  | nil => rfl
  | cons m rest ih =>
      have hrest := ih fun other hother => hsent other (List.mem_cons_of_mem m hother)
      rw [List.flatMap_cons, List.map_append, hsent m List.mem_cons_self, hrest,
        List.filterMap_cons]
      cases m.remark? <;> rfl

/-- The message that is heard next carries the first remark that was not heard yet. -/
theorem exists_remark
    {s : Settings} {run : List Moment} {room : Room Loopback} (h : Delivers s run room)
    {m : Message} {rest : List Arrival}
    (hmailbox : room.transport.mailbox = some (.message m :: rest)) :
    ∃ r, (run.filterMap Moment.remark?)[(run.filterMap Moment.heard?).length]? = some r ∧
      m.content = r.content s := by
  obtain ⟨waiting, hwaiting, hsent⟩ := h.mailbox
  obtain rfl := Option.some.inj (hwaiting.symm.trans hmailbox)
  have hnext : (run.flatMap Moment.sent)[(run.filterMap Moment.heard?).length]? = some m := by
    simp [hsent, Arrival.messages, Arrival.message?]
  have hcontent := congrArg
    (fun contents => contents[(run.filterMap Moment.heard?).length]?) h.content_sent
  simp only [List.getElem?_map, hnext, Option.map_some] at hcontent
  obtain ⟨r, hr, heq⟩ := Option.map_eq_some_iff.mp hcontent.symm
  exact ⟨r, hr, heq.symm⟩

end Delivers

/-- In every run, each move puts into the mailbox exactly one message if it makes a
remark that comes back and none if it does not, and the messages are heard in the
order in which they were sent, none lost and none twice.  Whenever a message is the
oldest arrival that waits, hearing it succeeds and shows exactly one line, with the
text of the first remark not yet heard and to the credit of the user who made it. -/
theorem Room.deliveries_of_moves (s : Settings) (moves : List Move) :
    let run := (empty s {}).history moves
    let room := (empty s {}).afterMoves moves
    (∀ m ∈ run, m.sent.map Message.content = m.remark?.toList.map (Remark.content s)) ∧
      run.flatMap Moment.sent =
        run.filterMap Moment.heard? ++ Arrival.messages room.transport.waiting ∧
      ∀ m taken, room.takeWaiting? = some (.message m, taken) →
        ∃ r line,
          (run.filterMap Moment.remark?)[(run.filterMap Moment.heard?).length]? = some r ∧
            m.content = r.content s ∧
            (room.move .hearOldest).result = .ok () ∧
            (room.move .hearOldest).lines = [line] ∧
            line.text = r.text s.flavor ∧
            r.Credits s.flavor (run.flatMap fun m => m.outcome.lines) line := by
  intro run room
  have hdelivers : Delivers s run room := Delivers.afterMoves s moves
  refine ⟨hdelivers.sent, ?_, ?_⟩
  · obtain ⟨waiting, hwaiting, hsent⟩ := hdelivers.mailbox
    simpa [Loopback.waiting, hwaiting] using hsent
  · intro m taken htaken
    obtain ⟨rest, hmailbox, rfl⟩ := takeWaiting?_eq_some_iff.mp htaken
    obtain ⟨r, hr, hcontent⟩ := hdelivers.exists_remark hmailbox
    have hproper := hdelivers.proper r (List.mem_of_getElem? hr)
    have hdata : m.data = some (r.data s) := congrArg Prod.snd hcontent
    have hflavor : (room.withMailbox (some rest)).renderer.flavor = s.flavor :=
      hdelivers.flavor
    have hremembers : (room.withMailbox (some rest)).renderer.Remembers
        (run.flatMap fun m => m.outcome.lines) :=
      hdelivers.remembers
    have hmove : room.move .hearOldest =
        (room.withMailbox (some rest)).hear (.message m) := by
      simp only [move, htaken]
    obtain ⟨hresult, line, hlines, htext, hcredits⟩ :=
      Remark.hear_message hflavor hremembers hproper hdata
    rw [hmove]
    exact ⟨r, line, hr, hcontent, hresult, hlines, htext, hcredits⟩

end BayeuxChat
