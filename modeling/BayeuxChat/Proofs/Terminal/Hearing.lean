import BayeuxChat.Proofs.Room.Draining
import BayeuxChat.Proofs.Room.Remark
import BayeuxChat.Proofs.Terminal.Digest

/-!
# Hearing everything that waits

Whatever waits in the mailbox of a client is news of one of four kinds.  For each
kind this file says what a digest becomes by it, and shows that a room which fits
the digest shows the same lines and fits the digest again.  By induction over the
mailbox, a room that has heard everything fits what its digest has become.
-/

namespace BayeuxChat

/-! ## News -/

/-- What an arrival tells. -/
inductive News where
  | remark (r : Remark)
  | welcomed (handshakes : Nat)
  | answered
  | unanswered

/-- The arrival tells the news to the one who listens as `listener`. -/
inductive News.ToldBy (s : Settings) (listener : Listener) : Arrival → News → Prop
  | remark {m : Message} {r : Remark} :
      r.Proper s.flavor → r.user ≠ "" → m.data = some (r.data s) →
        ToldBy s listener (.message m) (.remark r)
  | welcomed (n : Nat) :
      ToldBy s listener (.event listener (.welcomed (Loopback.identity n))) (.welcomed n)
  | answered : ToldBy s listener (.event listener .answered) .answered
  | unanswered : ToldBy s listener (.event listener .unanswered) .unanswered

namespace Digest

/-- The line of a remark. -/
def remarkLine (flavor : Flavor) (last : Option String) : Remark → Line
  | .joined name => joinLine flavor name
  | .said user text .everyone => chatLine flavor last user text
  | .said user text (.only addressee) => privateLine user addressee text

/-- Who said the last line once a remark is shown. -/
def lastAfter (last : Option String) : Remark → Option String
  | .joined _ => none
  | .said user _ .everyone => some user
  | .said _ _ (.only _) => last

/-- The lines that news makes, and what becomes of the digest. -/
def hear (flavor : Flavor) (d : Digest) : News → List Line × Digest
  | .remark r => ([remarkLine flavor d.last r], { d with last := lastAfter d.last r })
  | .welcomed n =>
    if d.user.isSome then ([clientIdLine flavor n], { d with last := none }) else ([], d)
  | .answered =>
    if d.user.isSome ∧ d.connected = false then
      ([systemLine flavor "reconnected!"], { d with connected := true, last := none })
    else ([], d)
  | .unanswered =>
    if d.user.isSome ∧ d.connected = true then
      ([systemLine flavor "disconnected!"],
        { d with
          user := if flavor = .personal then none else d.user
          connected := false, last := none })
    else ([], d)

def hearAll (flavor : Flavor) (d : Digest) : List News → List Line × Digest
  | [] => ([], d)
  | news :: rest =>
    ((d.hear flavor news).1 ++ ((d.hear flavor news).2.hearAll flavor rest).1,
      ((d.hear flavor news).2.hearAll flavor rest).2)

end Digest

/-! ## Lines of single envelopes -/

namespace Renderer

theorem lines_newsEnvelope
    {r : Renderer} {flavor : Flavor} (hflavor : r.flavor = flavor)
    (topic : MetaTopic) {text : String} (htext : text ≠ "") :
    (r.lines (Room.newsEnvelope flavor topic text)).1 = [Digest.systemLine flavor text] ∧
      (flavor = .collapsing →
        (r.lines (Room.newsEnvelope flavor topic text)).2.last = none) := by
  cases flavor with
  | personal =>
      have hshown : shownText (.chat "server" (some text) none) = some text :=
        shownText_eq rfl htext
      constructor
      · simp [Renderer.lines, line, hflavor, Room.newsEnvelope, personalLine, hshown, title,
          Digest.systemLine]
      · intro hcollapsing
        cases hcollapsing
  | collapsing =>
      have hshown : shownText (Room.newsEnvelope .collapsing topic text) = some text := by
        apply shownText_eq _ htext
        cases topic <;> rfl
      rw [lines_of_collapsing hflavor hshown]
      cases topic <;>
        simp [Room.newsEnvelope, Envelope.sender, Envelope.isAnnouncement, continues, title,
          Digest.systemLine]

theorem lines_remark
    {renderer : Renderer} {flavor : Flavor} (hflavor : renderer.flavor = flavor)
    {last : Option String} (hlast : flavor = .collapsing → renderer.last = last)
    {r : Remark} (hproper : r.Proper flavor) (huser : r.user ≠ "") :
    (renderer.lines ((r.envelope flavor).conveyed flavor)).1 =
        [Digest.remarkLine flavor last r] ∧
      (flavor = .collapsing →
        (renderer.lines ((r.envelope flavor).conveyed flavor)).2.last =
          Digest.lastAfter last r) := by
  cases flavor with
  | personal =>
      have hline : Renderer.personalLine (r.envelope .personal) =
          some (Digest.remarkLine .personal last r) := by
        rw [Remark.personalLine_envelope hproper]
        cases r with
        | joined name => rfl
        | said user text audience => cases audience <;> rfl
      constructor
      · simp [Renderer.lines, line, hflavor, Envelope.conveyed, hline]
      · intro hcollapsing
        cases hcollapsing
  | collapsing =>
      have hshown := Remark.shownText_envelope hproper
      have hremembered := hlast rfl
      rw [lines_of_collapsing hflavor hshown]
      cases r with
      | joined name =>
          simp [Remark.envelope, Room.joinEnvelope, Envelope.conveyed, Envelope.sender,
            Envelope.isAnnouncement, continues, title, Remark.text, Digest.remarkLine,
            Digest.joinLine, Digest.lastAfter]
      | said user text audience =>
          cases audience with
          | only addressee =>
              have hpersonal := ((Room.checkAudience_only_eq_ok_iff _ _).mp hproper.2).1
              cases hpersonal
          | everyone =>
              have hnamed : user ≠ "" := huser
              simp [Remark.envelope, Room.sayEnvelope, Envelope.conveyed, Envelope.sender,
                Envelope.isAnnouncement, continues, hnamed, hremembered, title, sameSender,
                Remark.text, Digest.remarkLine, Digest.chatLine, Digest.lastAfter]

end Renderer

/-! ## Rooms that fit a digest -/

/-- The room fits the digest, listens as `listener` if anybody is in it, and has
just `waiting` in its mailbox.  The audience of the digest is no part of the room. -/
structure Room.Fits
    (room : Room Loopback) (s : Settings) (listener : Listener)
    (waiting : List Arrival) (d : Digest) : Prop where
  coupled : room.Coupled
  settings : room.settings = s
  flavor : room.renderer.flavor = s.flavor
  mailbox : room.transport.mailbox = some waiting
  occupant : room.occupant = d.user.map fun user => (user, listener)
  named : ∀ user, d.user = some user → user ≠ ""
  connected : room.connected = d.connected
  handshakes : room.transport.handshakes = d.handshakes
  last : s.flavor = .collapsing → room.renderer.last = d.last

/-- Hearing an arrival succeeds, shows the lines of `becomes`, and leaves a room that
fits its digest. -/
def Room.Hears
    (room : Room Loopback) (s : Settings) (listener : Listener) (waiting : List Arrival)
    (x : Arrival) (becomes : List Line × Digest) : Prop :=
  (room.hear x).result = .ok () ∧ (room.hear x).lines = becomes.1 ∧
    (room.hear x).room.Fits s listener waiting becomes.2

namespace Room.Fits

variable {room : Room Loopback} {s : Settings} {listener : Listener}
variable {waiting : List Arrival} {d : Digest}

theorem user_eq (h : room.Fits s listener waiting d) : room.user = d.user := by
  rw [user_eq_map_occupant, h.occupant]
  simp [Function.comp_def]

theorem exists_session
    (h : room.Fits s listener waiting d) {user : String} (huser : d.user = some user) :
    ∃ session, room.session = some session ∧
      session.user = user ∧ session.listener = listener := by
  apply occupant_eq_some_iff.mp
  rw [h.occupant, huser]
  rfl

theorem session_eq_none
    (h : room.Fits s listener waiting d) (huser : d.user = none) : room.session = none := by
  apply occupant_eq_none_iff.mp
  rw [h.occupant, huser]
  rfl

/-! ### What keeps a room fitting -/

theorem display
    (h : room.Fits s listener waiting d) (envelope : Envelope) {last : Option String}
    (hlast : s.flavor = .collapsing → (room.renderer.lines envelope).2.last = last) :
    (room.display envelope).room.Fits s listener waiting { d with last := last } where
  coupled := h.coupled.congr rfl rfl rfl
  settings := h.settings
  flavor := (Renderer.flavor_lines _ _).trans h.flavor
  mailbox := h.mailbox
  occupant := h.occupant
  named := h.named
  connected := h.connected
  handshakes := h.handshakes
  last := hlast

theorem setConnected (h : room.Fits s listener waiting d) (connected : Bool) :
    Fits { room with connected := connected } s listener waiting
      { d with connected := connected } where
  coupled := h.coupled.congr rfl rfl rfl
  settings := h.settings
  flavor := h.flavor
  mailbox := h.mailbox
  occupant := h.occupant
  named := h.named
  connected := rfl
  handshakes := h.handshakes
  last := h.last

/-- What a session counts and confirms is no part of the digest. -/
theorem mapSession
    (h : room.Fits s listener waiting d) {f : Session → Session}
    (huser : ∀ session, (f session).user = session.user)
    (hlistener : ∀ session, (f session).listener = session.listener) :
    Fits { room with session := room.session.map f } s listener waiting d := by
  have hsame : Room.occupant { room with session := room.session.map f } =
      room.occupant := by
    simp [Room.occupant, Function.comp_def, huser, hlistener]
  exact ⟨h.coupled.congr rfl rfl hsame, h.settings, h.flavor, h.mailbox,
    hsame.trans h.occupant, h.named, h.connected, h.handshakes, h.last⟩

theorem confirm (h : room.Fits s listener waiting d) :
    room.confirm.Fits s listener waiting d :=
  h.mapSession (fun _ => rfl) (fun _ => rfl)

theorem countHandshake (h : room.Fits s listener waiting d) :
    room.countHandshake.Fits s listener waiting d :=
  h.mapSession (fun _ => rfl) (fun _ => rfl)

/-- Over a loopback a room never loses its subscriptions, so another one to the
channel of everyone is of no effect. -/
theorem resubscribe (h : room.Fits s listener waiting d) :
    room.resubscribe.Fits s listener waiting d := by
  have hsame : room.resubscribe = room := by
    obtain hsession | ⟨session, hsession⟩ := Option.eq_none_or_eq_some room.session
    · simp [Room.resubscribe, hsession]
    · have hsubscribed := (h.coupled.serves hsession).subscribe_eq
        (room.settings.channel_everyone_mem session.user)
      simp only [Room.resubscribe, hsubscribed]
      split <;> rfl
  rwa [hsame]

theorem leave (h : room.Fits s listener waiting d) :
    room.leave.Fits s listener waiting { d with user := none } where
  coupled := coupled_leave h.coupled
  settings := (settings_leave room).trans h.settings
  flavor := (congrArg _ (renderer_leave room)).trans h.flavor
  mailbox := (mailbox_leave h.coupled.putsOffInBatch).trans h.mailbox
  occupant := occupant_eq_none_iff.mpr (session_leave room)
  named := by simp
  connected := (connected_leave room).trans h.connected
  handshakes := (handshakes_leave h.coupled).trans h.handshakes
  last := fun hflavor => (congrArg _ (renderer_leave room)).trans (h.last hflavor)

/-- News of the connection makes one line, after which nobody is continued. -/
theorem tell
    (h : room.Fits s listener waiting d) (topic : MetaTopic) (text : String)
    (htext : text ≠ "") :
    (room.tell topic text).lines = [Digest.systemLine s.flavor text] ∧
      (room.tell topic text).room.Fits s listener waiting { d with last := none } := by
  obtain ⟨hlines, hlast⟩ := Renderer.lines_newsEnvelope h.flavor topic htext
  rw [Room.tell, h.settings]
  exact ⟨hlines, h.display _ hlast⟩

/-! ### Hearing -/

theorem hear_remark
    (h : room.Fits s listener waiting d) {m : Message} {r : Remark}
    (hproper : r.Proper s.flavor) (huser : r.user ≠ "") (hdata : m.data = some (r.data s)) :
    room.Hears s listener waiting (.message m) (d.hear s.flavor (.remark r)) := by
  obtain ⟨hlines, hlast⟩ := Renderer.lines_remark h.flavor h.last hproper huser
  rw [Hears, Remark.hear_message_eq h.flavor hproper hdata]
  exact ⟨rfl, hlines, h.display _ hlast⟩

/-- An event is dealt with if anybody is in the room. -/
theorem hear_event
    (h : room.Fits s listener waiting d) (e : MetaEvent) :
    room.hear (.event listener e) = if d.user.isSome then room.hearEvent e else room.done := by
  obtain huser | ⟨user, huser⟩ := Option.eq_none_or_eq_some d.user
  · simp [Room.hear, h.session_eq_none huser, huser]
  · obtain ⟨session, hsession, -, rfl⟩ := h.exists_session huser
    simp [Room.hear, hsession, huser]

theorem hear_welcomed (h : room.Fits s listener waiting d) (n : Nat) :
    room.Hears s listener waiting (.event listener (.welcomed (Loopback.identity n)))
      (d.hear s.flavor (.welcomed n)) := by
  rw [Hears, h.hear_event, Digest.hear]
  by_cases huser : d.user.isSome
  · have htext : "reinitialized client id: " ++ Loopback.identity n ≠ "" := by simp
    obtain ⟨hlines, hfits⟩ := h.countHandshake.tell .handshake _ htext
    rw [if_pos huser, if_pos huser]
    exact ⟨rfl, hlines, hfits.resubscribe.confirm⟩
  · rw [if_neg huser, if_neg huser]
    exact ⟨rfl, rfl, h⟩

theorem hear_answered (h : room.Fits s listener waiting d) :
    room.Hears s listener waiting (.event listener .answered)
      (d.hear s.flavor .answered) := by
  rw [Hears, h.hear_event, Digest.hear]
  by_cases huser : d.user.isSome
  · rw [if_pos huser]
    cases hconnected : d.connected with
    | true =>
        have hroom : room.hearEvent .answered =
            { room.done with room := Room.confirm { room with connected := true } } := by
          simp [Room.hearEvent, MetaEvent.answered, Room.hearAnswered, h.connected,
            hconnected, Room.done]
        have hsame : { d with connected := true } = d := by rw [← hconnected]
        have hfits := (h.setConnected true).confirm
        rw [hsame] at hfits
        rw [hroom, if_neg (by simp)]
        exact ⟨rfl, rfl, hfits⟩
    | false =>
        have hroom : room.hearEvent .answered =
            { room.tell .connect "reconnected!" with
              room := Room.confirm
                { (room.tell .connect "reconnected!").room with connected := true } } := by
          simp [Room.hearEvent, MetaEvent.answered, Room.hearAnswered, h.connected,
            hconnected]
        obtain ⟨hlines, hfits⟩ := h.tell .connect "reconnected!" (by decide)
        rw [hroom, if_pos ⟨huser, rfl⟩]
        exact ⟨rfl, hlines, (hfits.setConnected true).confirm⟩
  · rw [if_neg huser, if_neg fun hboth => huser hboth.1]
    exact ⟨rfl, rfl, h⟩

theorem hear_unanswered (h : room.Fits s listener waiting d) :
    room.Hears s listener waiting (.event listener .unanswered)
      (d.hear s.flavor .unanswered) := by
  have hevent : room.hearEvent .unanswered = room.hearUnanswered := rfl
  rw [Hears, h.hear_event, hevent, Digest.hear]
  by_cases huser : d.user.isSome
  · obtain ⟨hlines, hfits⟩ := h.tell .connect "disconnected!" (by decide)
    rw [if_pos huser]
    rcases hearUnanswered_cases room with
      ⟨hconnected, hroom⟩ | ⟨hconnected, hflavor, hroom⟩ | ⟨hconnected, hflavor, hroom⟩
    · rw [h.connected] at hconnected
      rw [hroom, if_neg (by simp [hconnected])]
      exact ⟨rfl, rfl, h⟩
    · rw [h.connected] at hconnected
      rw [h.settings] at hflavor
      rw [hroom, if_pos ⟨huser, hconnected⟩]
      refine ⟨rfl, hlines, ?_⟩
      simpa [hflavor] using hfits.setConnected false
    · rw [h.connected] at hconnected
      rw [h.settings] at hflavor
      rw [hroom, if_pos ⟨huser, hconnected⟩]
      refine ⟨rfl, hlines, ?_⟩
      simpa [hflavor] using hfits.leave.setConnected false
  · rw [if_neg huser, if_neg fun hboth => huser hboth.1]
    exact ⟨rfl, rfl, h⟩

/-- Whatever arrives, the room shows what its digest says and fits it again. -/
theorem hears
    (h : room.Fits s listener waiting d) {x : Arrival} {news : News}
    (htold : news.ToldBy s listener x) :
    room.Hears s listener waiting x (d.hear s.flavor news) := by
  cases htold with
  | remark hproper huser hdata => exact h.hear_remark hproper huser hdata
  | welcomed n => exact h.hear_welcomed n
  | answered => exact h.hear_answered
  | unanswered => exact h.hear_unanswered

end Room.Fits

/-! ## Settling -/

namespace Room

theorem Fits.takeOldest
    {room : Room Loopback} {s : Settings} {listener : Listener}
    {x : Arrival} {rest : List Arrival} {d : Digest}
    (h : room.Fits s listener (x :: rest) d) :
    (room.withMailbox (some rest)).Fits s listener rest d where
  coupled := h.coupled.withMailbox _
  settings := h.settings
  flavor := h.flavor
  mailbox := rfl
  occupant := h.occupant
  named := h.named
  connected := h.connected
  handshakes := h.handshakes
  last := h.last

/-- A room that hears everything that waits shows what its digest says and fits what
the digest has become, with nothing left to wait. -/
theorem Fits.settle
    {room : Room Loopback} {s : Settings} {listener : Listener}
    {waiting : List Arrival} {d : Digest} {news : List News}
    (h : room.Fits s listener waiting d)
    (htold : List.Forall₂ (News.ToldBy s listener) waiting news) :
    (room.settle.1.flatMap fun r => Client.printedOf r.lines r.result) =
        (d.hearAll s.flavor news).1.map .line ∧
      room.settle.2.Fits s listener [] (d.hearAll s.flavor news).2 := by
  -- Every arrival changes both the room and the digest, so the induction is over all
  -- that fit each other.
  induction htold generalizing room d with
  | nil =>
      rw [settle_nil (by rw [Loopback.waiting, h.mailbox]; rfl)]
      exact ⟨rfl, h⟩
  | cons hfirst _ ih =>
      obtain ⟨hresult, hlines, hfits⟩ := h.takeOldest.hears hfirst
      obtain ⟨hprinted, hsettled⟩ := ih hfits
      rw [settle_cons h.coupled.putsOffInBatch h.mailbox rfl]
      refine ⟨?_, hsettled⟩
      rw [List.flatMap_cons, hprinted, hresult, hlines, Digest.hearAll, List.map_append]
      simp [Client.printedOf]

end Room
end BayeuxChat
