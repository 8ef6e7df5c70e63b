import Mathlib
import BayeuxChat.Settings.Sources

/-!
# The name of the room in accepted settings

A name that comes from the environment is checked before the settings are accepted, and
the name that is there by default can name a room.  A name that comes from a file is
taken as it is.  So only with a file can settings be accepted whose room is not a single
segment of its channels.
-/

namespace BayeuxChat
namespace Settings

variable {path : Option String} {read : String → Except FileFault ByteArray}
variable {env : Environment} {before s : Settings}

/-! ## Overrides -/

theorem room_of_overrideFlavor (h : before.overrideFlavor env = .ok s) : s.room = before.room := by
  unfold overrideFlavor at h
  split at h
  · exact congrArg room (Except.ok.inj h).symm
  · next word _ =>
    cases hword : Flavor.ofWord word with
    | error e => simp [hword, Except.map] at h
    | ok flavor =>
        simp only [hword, Except.map, Except.ok.injEq] at h
        rw [← h]

/-- A room is overridden only by a name that can name one. -/
theorem room_of_overrideRoom (h : before.overrideRoom env = .ok s) :
    s.room = (env "CHAT_ROOM").getD before.room ∧
      ∀ name, env "CHAT_ROOM" = some name → IsRoomName name := by
  unfold overrideRoom at h
  split at h
  · next hunset =>
    rw [hunset, ← Except.ok.inj h]
    exact ⟨rfl, by simp⟩
  · next name hset =>
    split at h
    · next hname =>
      rw [hset, ← Except.ok.inj h]
      refine ⟨rfl, ?_⟩
      intro other hother
      rwa [← Option.some.inj hother]
    · cases h

@[simp] theorem room_overrideLocation (env : Environment) (s : Settings) :
    (s.overrideLocation env).room = s.room := by
  unfold overrideLocation
  split <;> rfl

theorem room_of_override (h : before.override env = (.ok (), s)) :
    s.room = (env "CHAT_ROOM").getD before.room ∧
      ∀ name, env "CHAT_ROOM" = some name → IsRoomName name := by
  unfold override at h
  split at h
  · simp at h
  · next flavored hflavored =>
    split at h
    · simp at h
    · next named hnamed =>
      obtain ⟨hroom, hname⟩ := room_of_overrideRoom hnamed
      have hs : named.overrideLocation env = s := (Prod.mk.inj h).2
      rw [← hs, room_overrideLocation, hroom, room_of_overrideFlavor hflavored]
      exact ⟨rfl, hname⟩

/-! ## Files -/

/-- The settings before any override. -/
def ofPath (path : Option String) (read : String → Except FileFault ByteArray) :
    Except SettingsError Settings :=
  match path with
  | none => .ok {}
  | some path => ofFile path (read path)

/-- The name that the settings file gives to the room, if there is a file and it gives one. -/
def roomInFile? (path : Option String) (read : String → Except FileFault ByteArray) :
    Option String := do
  let path ← path
  let bytes ← (read path).toOption
  let text ← String.fromUTF8? bytes
  let given ← (record.ofText text).toOption
  given.text? "room"

theorem room_of_ofPath (h : ofPath path read = .ok before) :
    before.room = (roomInFile? path read).getD ({} : Settings).room := by
  unfold ofPath at h
  split at h
  · rw [← Except.ok.inj h]
    rfl
  · next file =>
    cases hread : read file with
    | error fault => simp [ofFile, hread] at h
    | ok bytes =>
        cases htext : String.fromUTF8? bytes with
        | none => simp [ofFile, hread, htext] at h
        | some text =>
            cases hgiven : record.ofText text with
            | error e => simp [ofFile, hread, htext, ofText, hgiven] at h
            | ok given =>
                simp only [ofFile, hread, htext, ofText, hgiven, Except.ok.injEq] at h
                rw [← h]
                simp [roomInFile?, hread, htext, hgiven, Except.toOption, ofMembers]

theorem exists_ofPath_of_resolve (h : resolve path read env = .ok s) :
    ∃ before, ofPath path read = .ok before ∧ before.override env = (.ok (), s) := by
  have hbind : (ofPath path read).bind (fun before =>
      (before.override env).1.map fun _ => (before.override env).2) = .ok s := by
    cases path with
    | none => exact h
    | some path => exact h
  cases hbefore : ofPath path read with
  | error e => simp [hbefore, Except.bind] at hbind
  | ok before =>
      refine ⟨before, rfl, ?_⟩
      simp only [hbefore, Except.bind] at hbind
      cases hresult : (before.override env).1 with
      | error e => simp [hresult, Except.map] at hbind
      | ok u =>
          simp only [hresult, Except.map, Except.ok.injEq] at hbind
          rw [← hbind, ← hresult]

/-! ## Accepted settings -/

/-- In settings that are accepted, the room has its name from the environment, or else
from the file, or else by default.  The name can name a room unless it is one from a file
that cannot, which the environment leaves as it is. -/
theorem room_of_resolve (h : resolve path read env = .ok s) :
    s.room = ((env "CHAT_ROOM").or (roomInFile? path read)).getD ({} : Settings).room ∧
      (IsRoomName s.room ↔
        (env "CHAT_ROOM" = none →
          ∀ name, roomInFile? path read = some name → IsRoomName name)) := by
  obtain ⟨before, hbefore, hoverride⟩ := exists_ofPath_of_resolve h
  obtain ⟨hroom, hchecked⟩ := room_of_override hoverride
  rw [room_of_ofPath hbefore] at hroom
  cases hset : env "CHAT_ROOM" with
  | some name =>
      rw [hset, Option.getD_some] at hroom
      refine ⟨hroom, ?_⟩
      rw [hroom]
      exact iff_of_true (hchecked name hset) (fun hunset => by cases hunset)
  | none =>
      rw [hset, Option.getD_none] at hroom
      refine ⟨hroom, ?_⟩
      rw [hroom]
      cases hfile : roomInFile? path read with
      | none =>
          have hdefault : IsRoomName ({} : Settings).room := by decide
          exact iff_of_true hdefault (fun _ name hname => by cases hname)
      | some name => simp

/-- The environment has a say in the flavor, but not in the name that the file gives. -/
theorem room_of_resolve_with_flavor :
    let read : String → Except FileFault ByteArray := fun _ =>
      .ok "\x7b\"location\":\"/\",\"room\":\"lobby\"\x7d".toUTF8
    let env : Environment := fun name => if name = "CHAT_VARIANT" then some " 2 " else none
    let s : Settings := { flavor := .collapsing, room := "lobby", location := "/" }
    resolve (some "config.json") read env = .ok s ∧
      s.room = ((env "CHAT_ROOM").or (roomInFile? (some "config.json") read)).getD
        ({} : Settings).room ∧
      (IsRoomName s.room ↔
        (env "CHAT_ROOM" = none →
          ∀ name, roomInFile? (some "config.json") read = some name → IsRoomName name)) := by
  intro read env s
  have haccepted : resolve (some "config.json") read env = .ok s := by cbv
  exact ⟨haccepted, room_of_resolve haccepted⟩

/-- A file can give a room a name that is no segment of a channel: here the channel of
everyone in the one room is that of a single user in another. -/
theorem resolve_of_slash_in_file :
    let read : String → Except FileFault ByteArray := fun _ =>
      .ok "\x7b\"variant\":\"collapsing\",\"room\":\"lobby/alice\"\x7d".toUTF8
    let s : Settings := { flavor := .collapsing, room := "lobby/alice" }
    resolve (some "config.json") read (fun _ => none) = .ok s ∧ ¬IsRoomName s.room ∧
      s.channel .everyone = ({ room := "lobby" } : Settings).channel (.only "alice") := by
  intro read s
  have haccepted : resolve (some "config.json") read (fun _ => none) = .ok s := by cbv
  exact ⟨haccepted, by decide, by decide⟩

end Settings
end BayeuxChat
