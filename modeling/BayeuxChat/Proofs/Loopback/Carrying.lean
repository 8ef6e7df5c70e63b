import BayeuxChat.Bayeux.Loopback
import Mathlib.Data.List.Basic
import Mathlib.Data.List.Induction

/-!
# What the calls of a loopback come to

The loopback is described by its calls one at a time: who hears an event, what a
handshake changes, which message a publish makes, and that a batch of calls does
what the calls would have done without it.  Everything that is proved of a room
over a loopback goes through these equations.
-/

namespace BayeuxChat

/-! ## Messages among arrivals -/

/-- The message that an arrival is, if it is one. -/
def Arrival.message? : Arrival → Option Message
  | .message m => some m
  | .event _ _ => none

/-- The messages among some arrivals. -/
def Arrival.messages (xs : List Arrival) : List Message :=
  xs.filterMap message?

theorem Arrival.messages_append (earlier later : List Arrival) :
    messages (earlier ++ later) = messages earlier ++ messages later :=
  List.filterMap_append

namespace Loopback

/-! ## The mailbox -/

@[simp] theorem post_eq (x : Arrival) (t : Loopback) :
    t.post x = { t with mailbox := t.mailbox.map (· ++ [x]) } :=
  rfl

/-! ## Events and handshakes -/

/-- The events by which listeners are told of something. -/
def eventsFor (listeners : List Listener) (e : MetaEvent) : List Arrival :=
  listeners.map fun listener => .event listener e

theorem messages_eventsFor (listeners : List Listener) (e : MetaEvent) :
    Arrival.messages (eventsFor listeners e) = [] := by
  simp [Arrival.messages, eventsFor, Arrival.message?]

/-- A broadcast reaches every listener and changes nothing else. -/
theorem broadcast_eq (e : MetaEvent) (t : Loopback) :
    t.broadcast e =
      { t with mailbox := t.mailbox.map (· ++ eventsFor t.listeners e) } := by
  have general : ∀ (listeners : List Listener) (t : Loopback),
      listeners.foldl (fun t listener => t.post (.event listener e)) t =
        { t with mailbox := t.mailbox.map (· ++ eventsFor listeners e) } := by
    intro listeners
    induction listeners with
    | nil => intro t; simp [eventsFor]
    | cons listener rest ih =>
        intro t
        rw [List.foldl_cons, ih]
        simp [eventsFor, Function.comp_def]
  exact general t.listeners t

/-- A handshake gives the next identity, and every listener first hears of the
identity and then of the answer. -/
theorem handshake_eq (t : Loopback) :
    t.handshake =
      { t with
        handshakes := t.handshakes + 1
        clientId := some (identity (t.handshakes + 1))
        handshakeDue := false
        mailbox := t.mailbox.map (· ++
          (eventsFor t.listeners (.welcomed (identity (t.handshakes + 1))) ++
            eventsFor t.listeners .answered)) } := by
  simp [handshake, broadcast_eq, Function.comp_def]

/-! ## Calls that are carried out -/

/-- Carries out calls, one after the other. -/
def carryOutAll (calls : List Deferred) (t : Loopback) : Loopback :=
  calls.foldl (fun t call => carryOut call t) t

theorem carryOutAll_concat (calls : List Deferred) (call : Deferred) (t : Loopback) :
    carryOutAll (calls ++ [call]) t = carryOut call (carryOutAll calls t) := by
  simp [carryOutAll]

/-- A call that is carried out changes subscriptions or sends a message, and no more. -/
theorem exists_carryOut_eq (call : Deferred) (t : Loopback) :
    ∃ subscriptions messages mailbox, t.carryOut call =
      { t with subscriptions := subscriptions, messages := messages, mailbox := mailbox } := by
  cases call with
  | subscribe channel =>
      simp only [carryOut]
      split <;> exact ⟨_, _, _, rfl⟩
  | unsubscribe channel => exact ⟨_, _, _, rfl⟩
  | publish channel data =>
      simp only [carryOut]
      split <;> exact ⟨_, _, _, rfl⟩

theorem exists_carryOutAll_eq (calls : List Deferred) (t : Loopback) :
    ∃ subscriptions messages mailbox, carryOutAll calls t =
      { t with subscriptions := subscriptions, messages := messages, mailbox := mailbox } := by
  induction calls using List.reverseRecOn with
  | nil => exact ⟨_, _, _, rfl⟩
  | append_singleton calls call ih =>
      obtain ⟨_, _, _, hearlier⟩ := ih
      obtain ⟨_, _, _, hcall⟩ := exists_carryOut_eq call (carryOutAll calls t)
      rw [carryOutAll_concat, hcall, hearlier]
      exact ⟨_, _, _, rfl⟩

theorem deferred_carryOut (call : Deferred) (t : Loopback) :
    (t.carryOut call).deferred = t.deferred := by
  obtain ⟨_, _, _, hframe⟩ := exists_carryOut_eq call t
  rw [hframe]

/-- The message that arrives when `data` is published on a channel that is
listened to. -/
def delivery (t : Loopback) (channel : String) (data : Json) : Message :=
  { channel := channel
    data := some data
    id := some (Text.decimal (t.messages + 1))
    clientId := t.clientId }

theorem carryOut_publish_of_mem
    {t : Loopback} {channel : String} (data : Json)
    (h : channel ∈ t.subscriptions) :
    t.carryOut (.publish channel data) =
      { t with
        messages := t.messages + 1
        mailbox := t.mailbox.map (· ++ [.message (t.delivery channel data)]) } := by
  simp [carryOut, h, delivery]

theorem carryOut_publish_of_notMem
    {t : Loopback} {channel : String} (data : Json)
    (h : channel ∉ t.subscriptions) :
    t.carryOut (.publish channel data) = t := by
  simp [carryOut, h]

/-- The channels subscribed to once those in `channels` are added, each once. -/
def subscribing (channels present : List String) : List String :=
  channels.foldl
    (fun present channel => if channel ∈ present then present else present ++ [channel])
    present

theorem mem_subscribing_iff
    {channels present : List String} {channel : String} :
    channel ∈ subscribing channels present ↔
      channel ∈ present ∨ channel ∈ channels := by
  induction channels generalizing present with
  | nil => simp [subscribing]
  | cons first rest ih =>
      rw [subscribing, List.foldl_cons, ← subscribing, ih]
      by_cases hfirst : first ∈ present
      · rw [if_pos hfirst, List.mem_cons]
        constructor
        · rintro (h | h)
          · exact .inl h
          · exact .inr (.inr h)
        · rintro (h | rfl | h)
          · exact .inl h
          · exact .inl hfirst
          · exact .inr h
      · rw [if_neg hfirst, List.mem_append, List.mem_singleton, List.mem_cons, or_assoc]

theorem nodup_subscribing
    {channels present : List String} (h : present.Nodup) :
    (subscribing channels present).Nodup := by
  induction channels generalizing present with
  | nil => exact h
  | cons first rest ih =>
      rw [subscribing, List.foldl_cons, ← subscribing]
      apply ih
      by_cases hfirst : first ∈ present
      · rwa [if_pos hfirst]
      · rw [if_neg hfirst]
        rw [List.nodup_append]
        refine ⟨h, by simp, ?_⟩
        intro channel hpresent other hother heq
        rw [List.mem_singleton] at hother
        subst hother heq
        exact hfirst hpresent

theorem carryOutAll_subscribe (channels : List String) (t : Loopback) :
    carryOutAll (channels.map .subscribe) t =
      { t with subscriptions := subscribing channels t.subscriptions } := by
  induction channels generalizing t with
  | nil => rfl
  | cons first rest ih =>
      rw [List.map_cons, carryOutAll, List.foldl_cons, ← carryOutAll, ih]
      by_cases hfirst : first ∈ t.subscriptions
      · simp [carryOut, subscribing, hfirst]
      · simp [carryOut, subscribing, hfirst]

theorem carryOutAll_unsubscribe (channels : List String) (t : Loopback) :
    carryOutAll (channels.map .unsubscribe) t =
      { t with subscriptions := t.subscriptions.filter (· ∉ channels) } := by
  induction channels generalizing t with
  | nil => simp [carryOutAll]
  | cons first rest ih =>
      rw [List.map_cons, carryOutAll, List.foldl_cons, ← carryOutAll, ih]
      simp only [carryOut, List.filter_filter]
      congr 2
      funext channel
      by_cases hfirst : channel = first
      · simp [hfirst]
      · simp [hfirst]

/-! ## Batches -/

/-- A call is lost, carried out, or put off. -/
theorem accept_cases (call : Deferred) (t : Loopback) :
    (t.connected = false ∧ t.accept call = t) ∨
      (t.connected = true ∧ t.batchDepth = 0 ∧ t.accept call = t.carryOut call) ∨
      (t.connected = true ∧ t.batchDepth ≠ 0 ∧
        t.accept call = { t with deferred := t.deferred ++ [call] }) := by
  cases hconnected : t.connected with
  | false => exact .inl ⟨rfl, by simp [accept, hconnected]⟩
  | true =>
      by_cases hdepth : t.batchDepth = 0
      · exact .inr (.inl ⟨rfl, hdepth, by simp [accept, hconnected, hdepth]⟩)
      · have hbatch : 0 < t.batchDepth := Nat.pos_of_ne_zero hdepth
        exact .inr (.inr ⟨rfl, hdepth, by simp [accept, hconnected, hbatch]⟩)

/-- The end of the outermost batch carries out what was put off. -/
theorem endBatch_of_one {t : Loopback} (h : t.batchDepth = 1) :
    t.endBatch = carryOutAll t.deferred { t with batchDepth := 0, deferred := [] } := by
  simp [endBatch, h, carryOutAll]

/-- The end of an inner batch only counts, and without a batch there is nothing to end. -/
theorem endBatch_of_ne_one {t : Loopback} (h : t.batchDepth ≠ 1) :
    t.endBatch = { t with batchDepth := t.batchDepth - 1 } := by
  unfold endBatch
  split
  next hdepth =>
    have hnone : t.batchDepth - 1 = t.batchDepth := by omega
    rw [hnone]
  next hdepth => exact absurd hdepth h
  next n hdepth => simp [hdepth]

/-- Inside a batch, calls are put off in the order in which they were made. -/
theorem foldl_accept_of_batch
    (calls : List Deferred) (t : Loopback)
    (hconnected : t.connected) (hbatch : 0 < t.batchDepth) :
    calls.foldl (fun t call => accept call t) t =
      { t with deferred := t.deferred ++ calls } := by
  induction calls generalizing t with
  | nil => simp
  | cons call rest ih =>
      have hfirst : accept call t = { t with deferred := t.deferred ++ [call] } := by
        rw [accept, if_pos hconnected, if_pos hbatch]
      have hrest := ih { t with deferred := t.deferred ++ [call] } hconnected hbatch
      rw [List.foldl_cons, hfirst, hrest]
      simp

/-- A batch that is not part of another one does what its calls would have done
without it. -/
theorem endBatch_foldl_accept
    (calls : List Deferred) (t : Loopback)
    (hconnected : t.connected)
    (hbatch : t.batchDepth = 0) (hdeferred : t.deferred = []) :
    endBatch (calls.foldl (fun t call => accept call t) t.beginBatch) =
      carryOutAll calls t := by
  rw [foldl_accept_of_batch calls t.beginBatch hconnected (Nat.succ_pos _)]
  simp only [endBatch, beginBatch, hbatch, hdeferred, List.nil_append, carryOutAll]
  congr 1
  rw [← hbatch, ← hdeferred]

/-- Subscriptions and a publish in one batch. -/
theorem batch_subscribeAll_publish
    (channels : List String) (channel : String) (data : Json) (t : Loopback)
    (hconnected : t.connected)
    (hbatch : t.batchDepth = 0) (hdeferred : t.deferred = []) :
    Transport.batch
        (fun t => Transport.publish channel data (Transport.subscribeAll channels t)) t =
      carryOut (.publish channel data)
        { t with subscriptions := subscribing channels t.subscriptions } := by
  have hbatched := endBatch_foldl_accept
    (channels.map .subscribe ++ [.publish channel data]) t hconnected hbatch hdeferred
  rw [carryOutAll_concat, carryOutAll_subscribe, List.foldl_append, List.foldl_map] at hbatched
  exact hbatched

/-- The end of subscriptions and a publish in one batch. -/
theorem batch_unsubscribeAll_publish
    (channels : List String) (channel : String) (data : Json) (t : Loopback)
    (hconnected : t.connected)
    (hbatch : t.batchDepth = 0) (hdeferred : t.deferred = []) :
    Transport.batch
        (fun t => Transport.publish channel data (Transport.unsubscribeAll channels t)) t =
      carryOut (.publish channel data)
        { t with subscriptions := t.subscriptions.filter (· ∉ channels) } := by
  have hbatched := endBatch_foldl_accept
    (channels.map .unsubscribe ++ [.publish channel data]) t hconnected hbatch hdeferred
  rw [carryOutAll_concat, carryOutAll_unsubscribe, List.foldl_append, List.foldl_map] at hbatched
  exact hbatched

end Loopback
end BayeuxChat
