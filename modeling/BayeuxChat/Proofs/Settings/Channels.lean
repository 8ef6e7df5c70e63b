import BayeuxChat.Settings.Basic

/-!
# The channels of a room

The users of a room have channels of their own, no two users the same one.  Where
there are such channels, that of everyone is named like them: it is the one that
a user by the name of `public` has.
-/

namespace BayeuxChat
namespace Settings

/-- The channels of a user: that of everyone and, where there are personal
channels, the user's own. -/
theorem mem_channelsOf_iff
    {s : Settings} {user channel : String} :
    channel ∈ s.channelsOf user ↔
      channel = s.channel .everyone ∨
        (s.flavor = .personal ∧ channel = s.channel (.only user)) := by
  cases h : s.flavor <;> simp [channelsOf, audiencesOf, h]

theorem channel_everyone_mem (s : Settings) (user : String) :
    s.channel .everyone ∈ s.channelsOf user :=
  mem_channelsOf_iff.mpr (.inl rfl)

theorem channel_only_inj {s : Settings} {user user' : String} :
    s.channel (.only user) = s.channel (.only user') ↔ user = user' := by
  simp only [channel]
  exact String.append_right_inj _

theorem channel_everyone_of_personal {s : Settings} (hflavor : s.flavor = .personal) :
    s.channel .everyone = s.channel (.only "public") := by
  simp only [channel, hflavor, String.append_assoc]
  rfl

/-- The channel of one user is among those of nobody else, unless it is that of
everyone. -/
theorem channel_only_mem_channelsOf_iff
    {s : Settings} (hflavor : s.flavor = .personal) (user user' : String) :
    s.channel (.only user) ∈ s.channelsOf user' ↔ user = "public" ∨ user = user' := by
  rw [mem_channelsOf_iff, channel_everyone_of_personal hflavor, channel_only_inj,
    channel_only_inj]
  exact or_congr_right (and_iff_right hflavor)

/-! ## Channels of different rooms -/

/-- The segment of a channel that stands behind `/chat/`. -/
def roomSegment (channel : String) : List Char :=
  (channel.toList.drop "/chat/".length).takeWhile (· != '/')

/-- Whatever follows the room, it begins with a slash, so the segment ends there. -/
theorem takeWhile_room_append
    {name rest : List Char} (hname : '/' ∉ name) (hrest : rest = [] ∨ ∃ cs, rest = '/' :: cs) :
    (name ++ rest).takeWhile (· != '/') = name := by
  have hkept : ∀ c ∈ name, (c != '/') = true := by
    intro c hc
    rw [bne_iff_ne]
    exact ne_of_mem_of_not_mem hc hname
  rw [List.takeWhile_append_of_pos hkept]
  rcases hrest with rfl | ⟨cs, rfl⟩
  · simp
  · simp

/-- The room can be read off each of its channels. -/
theorem roomSegment_channel
    {s : Settings} (hroom : '/' ∉ s.room.toList) (audience : Audience) :
    roomSegment (s.channel audience) = s.room.toList := by
  have hsegment : ∀ rest : List Char, (rest = [] ∨ ∃ cs, rest = '/' :: cs) →
      ∀ channel : String, channel.toList = "/chat/".toList ++ (s.room.toList ++ rest) →
        roomSegment channel = s.room.toList := by
    intro rest hrest channel hchannel
    rw [roomSegment, hchannel]
    exact takeWhile_room_append hroom hrest
  cases audience with
  | only user =>
      apply hsegment ('/' :: user.toList) (.inr ⟨_, rfl⟩)
      simp [channel]
  | everyone =>
      cases hflavor : s.flavor with
      | personal =>
          apply hsegment "/public".toList (.inr ⟨_, rfl⟩)
          simp [channel, hflavor]
      | collapsing =>
          apply hsegment [] (.inl rfl)
          simp [channel, hflavor]

/-- Rooms of different names have no channel in common, whatever their flavors are. -/
theorem room_eq_of_channel_eq
    {s s' : Settings} (hroom : '/' ∉ s.room.toList) (hroom' : '/' ∉ s'.room.toList)
    {audience audience' : Audience} (heq : s.channel audience = s'.channel audience') :
    s.room = s'.room := by
  apply String.toList_injective
  calc
    s.room.toList = roomSegment (s.channel audience) := (roomSegment_channel hroom audience).symm
    _ = roomSegment (s'.channel audience') := by rw [heq]
    _ = s'.room.toList := roomSegment_channel hroom' audience'

end Settings
end BayeuxChat
