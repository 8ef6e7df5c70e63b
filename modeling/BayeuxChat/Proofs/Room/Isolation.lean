import BayeuxChat.Proofs.Room.CallGrammar
import BayeuxChat.Proofs.Settings.Channels
import BayeuxChat.Settings.Override

/-!
# Rooms do not reach into each other

Everything that a room does over its transport it does on channels of its own: that of
everyone, or that of one user.  A room's name is a segment of each of them, so rooms of
different names, of whatever flavor they are and whoever is in them, have no channel in
common.
-/

namespace BayeuxChat

/-- The channel that a call is about, if it is about one. -/
def Call.channel? : Call → Option String
  | .subscribe channel => some channel
  | .unsubscribe channel => some channel
  | .publish channel _ => some channel
  | _ => none

/-- The channels that were subscribed to, unsubscribed from or published on. -/
def Journal.channels (j : Journal) : List String :=
  j.calls.filterMap Call.channel?

namespace Settings

/-- If the call is about a channel, it is one of the room's. -/
def Owns (s : Settings) (call : Call) : Prop :=
  ∀ channel, call.channel? = some channel → ∃ audience, channel = s.channel audience

variable {s : Settings}

theorem owns_of_channel?_eq_none {call : Call} (h : call.channel? = none) : s.Owns call := by
  intro channel hchannel
  cases h.symm.trans hchannel

theorem owns_of_channel?_eq_some
    {call : Call} {audience : Audience} (h : call.channel? = some (s.channel audience)) :
    s.Owns call := by
  intro channel hchannel
  exact ⟨audience, Option.some.inj (hchannel.symm.trans h)⟩

theorem owns_of_mem_callEach
    {user : String} {make : String → Call} (hmake : ∀ channel, (make channel).channel? = some channel)
    {call : Call} (hcall : call ∈ s.callEach user make) : s.Owns call := by
  rw [← map_channelsOf, channelsOf, List.map_map] at hcall
  obtain ⟨audience, -, rfl⟩ := List.mem_map.mp hcall
  exact owns_of_channel?_eq_some (hmake _)

/-- Joining and leaving come with a call for each of the user's channels and then an
announcement; the other calls are about no channel. -/
theorem owns_of_mem_announced
    {user : String} {make : String → Call} (hmake : ∀ channel, (make channel).channel? = some channel)
    {before after : List Call} (hbefore : ∀ call ∈ before, call.channel? = none)
    (hafter : ∀ call ∈ after, call.channel? = none) {data : Json} {call : Call}
    (hcall : call ∈ before ++ s.callEach user make ++ .publish (s.channel .everyone) data :: after) :
    s.Owns call := by
  rw [List.mem_append, List.mem_append, List.mem_cons] at hcall
  rcases hcall with (hmem | hmem) | rfl | hmem
  · exact owns_of_channel?_eq_none (hbefore call hmem)
  · exact owns_of_mem_callEach hmake hmem
  · exact owns_of_channel?_eq_some rfl
  · exact owns_of_channel?_eq_none (hafter call hmem)

theorem owns_of_mem_joinCalls
    {user : String} {listener : Listener} {call : Call}
    (hcall : call ∈ s.joinCalls user listener) : s.Owns call :=
  owns_of_mem_announced (fun _ => rfl) (by simp [Call.channel?]) (by simp [Call.channel?]) hcall

theorem owns_of_mem_leaveCalls
    {user : String} {listener : Listener} {call : Call}
    (hcall : call ∈ s.leaveCalls user listener) : s.Owns call :=
  owns_of_mem_announced (fun _ => rfl) (by simp [Call.channel?]) (by simp [Call.channel?]) hcall

theorem InnerCall.owns {user : String} {call : Call} (h : s.InnerCall user call) :
    s.Owns call := by
  cases h with
  | everyone htext => exact owns_of_channel?_eq_some rfl
  | only hflavor htext haddressee => exact owns_of_channel?_eq_some rfl
  | again hflavor => exact owns_of_channel?_eq_some rfl

/-- Stays consist of nothing but calls on the room's own channels. -/
theorem Stays.owns
    {calls : List Call} {ended : List Stay} {current : Option Stay}
    (h : s.Stays calls ended current) {call : Call} (hcall : call ∈ calls) : s.Owns call := by
  have hbegun : ∀ stay ∈ ended ++ current.toList, call ∈ stay.begun s → s.Owns call := by
    intro stay hstay hmem
    rw [Stay.begun, List.mem_append] at hmem
    rcases hmem with hjoin | hinner
    · exact owns_of_mem_joinCalls hjoin
    · exact (h.innerCall stay hstay call hinner).owns
  rw [h.calls_eq, List.mem_append, List.mem_flatMap] at hcall
  rcases hcall with ⟨stay, hstay, hmem⟩ | hmem
  · rw [Stay.whole, List.mem_append] at hmem
    rcases hmem with hmem | hleave
    · exact hbegun stay (List.mem_append_left _ hstay) hmem
    · exact owns_of_mem_leaveCalls hleave
  · obtain hnone | ⟨stay, hsome⟩ := Option.eq_none_or_eq_some current
    · simp [hnone] at hmem
    · rw [hsome, Option.map_some, Option.getD_some] at hmem
      exact hbegun stay (by simp [hsome]) hmem

end Settings

namespace Room

/-- In every run, a room uses no channels but its own. -/
theorem exists_audience_of_mem_channels
    (s : Settings) (steps : List RoomStep) {channel : String}
    (hchannel : channel ∈ ((empty s ({} : Journal)).afterSteps steps).transport.channels) :
    ∃ audience, channel = s.channel audience := by
  obtain ⟨⟨ended, current, hstays, -⟩, hsettings⟩ := followsGrammar_afterSteps s steps
  rw [hsettings] at hstays
  obtain ⟨call, hcall, habout⟩ := List.mem_filterMap.mp hchannel
  exact hstays.owns hcall channel habout

/-- Two rooms of different names, whatever is done with them, use no channel in common.
And within one room no two users have the same channel. -/
theorem channels_disjoint_of_room_ne
    {s s' : Settings} (hroom : Settings.IsRoomName s.room) (hroom' : Settings.IsRoomName s'.room)
    (hne : s.room ≠ s'.room) (steps steps' : List RoomStep) :
    ((empty s ({} : Journal)).afterSteps steps).transport.channels.Disjoint
        ((empty s' ({} : Journal)).afterSteps steps').transport.channels ∧
      ∀ (one : Settings) (user user' : String),
        one.channel (.only user) = one.channel (.only user') → user = user' := by
  refine ⟨?_, fun one user user' => Settings.channel_only_inj.mp⟩
  intro channel hmem hmem'
  obtain ⟨audience, heq⟩ := exists_audience_of_mem_channels s steps hmem
  obtain ⟨audience', heq'⟩ := exists_audience_of_mem_channels s' steps' hmem'
  apply hne
  exact Settings.room_eq_of_channel_eq hroom.2 hroom'.2 (heq.symm.trans heq')

/-- Mark writes to himself in the room `den`, and somebody comes and goes in the room
`denmark`, whose channel has the same letters as Mark's but for a slash. -/
theorem channels_disjoint_of_den_and_denmark :
    let s : Settings := { room := "den" }
    let s' : Settings := { flavor := .collapsing, room := "denmark" }
    let steps : List RoomStep := [.join "mark", .say "hi" (.only "mark"), .leave]
    let steps' : List RoomStep := [.join "mark", .leave]
    Settings.IsRoomName s.room ∧ Settings.IsRoomName s'.room ∧ s.room ≠ s'.room ∧
      ((empty s ({} : Journal)).afterSteps steps).transport.channels.Disjoint
          ((empty s' ({} : Journal)).afterSteps steps').transport.channels ∧
        ∀ (one : Settings) (user user' : String),
          one.channel (.only user) = one.channel (.only user') → user = user' := by
  intro s s' steps steps'
  have hroom : Settings.IsRoomName s.room := by decide
  have hroom' : Settings.IsRoomName s'.room := by decide
  have hne : s.room ≠ s'.room := by decide
  exact ⟨hroom, hroom', hne, channels_disjoint_of_room_ne hroom hroom' hne steps steps'⟩

end Room
end BayeuxChat
