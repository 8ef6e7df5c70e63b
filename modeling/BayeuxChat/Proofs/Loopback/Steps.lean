import BayeuxChat.Proofs.Loopback.CallHistory
import BayeuxChat.Proofs.Loopback.Carrying

/-!
# What a step of a loopback changes

Most steps have to do with the connection and with those who listen, and have no part
in what comes of calls.  This file says once which steps those are, and that the
connection and the batches follow the history of the steps.
-/

namespace BayeuxChat
namespace Loopback

open LoopbackStep

/-- The loopback after some steps. -/
def afterSteps (t : Loopback) (steps : List LoopbackStep) : Loopback :=
  steps.foldl (fun t step => (t.step step).2) t

@[simp] theorem afterSteps_concat
    (t : Loopback) (steps : List LoopbackStep) (step : LoopbackStep) :
    t.afterSteps (steps ++ [step]) = ((t.afterSteps steps).step step).2 := by
  simp [afterSteps]

/-! ## Messages that were sent -/

/-- What publishes have sent, oldest first, unless the mailbox is closed: the channel,
the data and the number of each message. -/
def sent (t : Loopback) : Option (List (String × Option Json × Option String)) :=
  t.mailbox.map fun waiting =>
    (Arrival.messages waiting).map fun m => (m.channel, m.data, m.id)

/-- A message is sent when it is put into the mailbox. -/
theorem sent_message (t : Loopback) (n : Nat) (m : Message) :
    Loopback.sent
        { t with messages := n, mailbox := t.mailbox.map (· ++ [.message m]) } =
      t.sent.map (· ++ [(m.channel, m.data, m.id)]) := by
  simp [sent, Function.comp_def, Arrival.messages, Arrival.message?]

/-! ## Steps that have no part in calls -/

/-- The two loopbacks do not differ in what has come of the calls. -/
structure SameOutcome (t t' : Loopback) : Prop where
  subscriptions : t'.subscriptions = t.subscriptions
  messages : t'.messages = t.messages
  sent : t'.sent = t.sent

/-- The two loopbacks do not differ in what has come of the calls, or may still come of
those that were put off. -/
structure SameCalls (t t' : Loopback) : Prop extends SameOutcome t t' where
  deferred : t'.deferred = t.deferred

theorem SameCalls.trans {t t' t'' : Loopback} (h : SameCalls t t') (h' : SameCalls t' t'') :
    SameCalls t t'' where
  subscriptions := h'.subscriptions.trans h.subscriptions
  messages := h'.messages.trans h.messages
  sent := h'.sent.trans h.sent
  deferred := h'.deferred.trans h.deferred

theorem sameCalls_broadcast (e : MetaEvent) (t : Loopback) : SameCalls t (t.broadcast e) := by
  rw [broadcast_eq]
  refine ⟨⟨rfl, rfl, ?_⟩, rfl⟩
  simp [sent, Function.comp_def, Arrival.messages_append, messages_eventsFor]

theorem sameCalls_handshake (t : Loopback) : SameCalls t t.handshake := by
  rw [handshake_eq]
  refine ⟨⟨rfl, rfl, ?_⟩, rfl⟩
  simp [sent, Function.comp_def, Arrival.messages_append, messages_eventsFor]

theorem sameCalls_connect (address : String) (t : Loopback) :
    SameCalls t (t.connect address) := by
  have hdue : SameCalls t { t with address := some address, handshakeDue := true } :=
    ⟨⟨rfl, rfl, rfl⟩, rfl⟩
  rw [connect]
  split
  · exact hdue
  · exact hdue.trans (sameCalls_handshake _)

theorem sameCalls_listen (t : Loopback) : SameCalls t t.listen.2 := by
  have hlistener : SameCalls t { t with
      nextListener := t.nextListener + 1
      listeners := t.listeners ++ [⟨t.nextListener⟩] } :=
    ⟨⟨rfl, rfl, rfl⟩, rfl⟩
  rw [listen]
  split
  · exact hlistener.trans (sameCalls_handshake _)
  · exact hlistener

theorem sameCalls_forget (t : Loopback) : SameCalls t t.forget := by
  rw [forget]
  split
  · exact sameCalls_handshake t
  · exact ⟨⟨rfl, rfl, rfl⟩, rfl⟩

/-! ## The connection and the batches -/

theorem connection_accept (call : Deferred) (t : Loopback) :
    (t.accept call).connected = t.connected ∧ (t.accept call).batchDepth = t.batchDepth := by
  rcases accept_cases call t with ⟨-, heq⟩ | ⟨-, -, heq⟩ | ⟨-, -, heq⟩
  · rw [heq]
    exact ⟨rfl, rfl⟩
  · obtain ⟨_, _, _, hframe⟩ := exists_carryOut_eq call t
    rw [heq, hframe]
    exact ⟨rfl, rfl⟩
  · rw [heq]
    exact ⟨rfl, rfl⟩

theorem connection_handshake (t : Loopback) :
    t.handshake.connected = t.connected ∧ t.handshake.batchDepth = t.batchDepth := by
  rw [handshake_eq]
  exact ⟨rfl, rfl⟩

/-- The connection and the batches are as the history of the steps says. -/
theorem connection_step (t : Loopback) (step : LoopbackStep) :
    (t.step step).2.connected = step.connectedAfter t.connected ∧
      (t.step step).2.batchDepth = step.levelAfter t.batchDepth := by
  cases step with
  | connect address =>
      simp only [Loopback.step, connect]
      split
      · exact ⟨rfl, rfl⟩
      · exact connection_handshake _
  | endBatch =>
      by_cases hdepth : t.batchDepth = 1
      · obtain ⟨_, _, _, hframe⟩ := exists_carryOutAll_eq t.deferred
          { t with batchDepth := 0, deferred := [] }
        simp only [Loopback.step, endBatch_of_one hdepth, hframe, levelAfter, hdepth]
        exact ⟨rfl, trivial⟩
      · simp only [Loopback.step, endBatch_of_ne_one hdepth]
        exact ⟨rfl, rfl⟩
  | subscribe channel => exact connection_accept (.subscribe channel) t
  | unsubscribe channel => exact connection_accept (.unsubscribe channel) t
  | publish channel data => exact connection_accept (.publish channel data) t
  | listen =>
      simp only [Loopback.step, listen]
      split
      · exact connection_handshake _
      · exact ⟨rfl, rfl⟩
  | stall =>
      simp only [Loopback.step, stall, broadcast_eq]
      exact ⟨rfl, rfl⟩
  | forget =>
      simp only [Loopback.step, forget]
      split
      · exact connection_handshake _
      · exact ⟨rfl, rfl⟩
  | disconnect => exact ⟨rfl, rfl⟩
  | beginBatch => exact ⟨rfl, rfl⟩
  | unlisten listener => exact ⟨rfl, rfl⟩
  | close => exact ⟨rfl, rfl⟩

/-- A step has no part in what comes of calls, or it is a call, or ends the connection
or a batch, or closes the mailbox. -/
theorem step_cases (t : Loopback) (step : LoopbackStep) :
    (SameCalls t (t.step step).2 ∧ step ≠ .disconnect ∧ step.isCall = false ∧
        ∀ level, level ≤ step.levelAfter level) ∨
      (∃ call : Deferred, step = call.step ∧ (t.step step).2 = t.accept call) ∨
      step = .disconnect ∨ step = .endBatch ∨ step = .close := by
  cases step with
  | connect address =>
      exact .inl ⟨sameCalls_connect address t, by simp, rfl, Nat.le_refl⟩
  | listen => exact .inl ⟨sameCalls_listen t, by simp, rfl, Nat.le_refl⟩
  | stall => exact .inl ⟨sameCalls_broadcast .unanswered t, by simp, rfl, Nat.le_refl⟩
  | forget => exact .inl ⟨sameCalls_forget t, by simp, rfl, Nat.le_refl⟩
  | unlisten listener => exact .inl ⟨⟨⟨rfl, rfl, rfl⟩, rfl⟩, by simp, rfl, Nat.le_refl⟩
  | beginBatch => exact .inl ⟨⟨⟨rfl, rfl, rfl⟩, rfl⟩, by simp, rfl, Nat.le_succ⟩
  | subscribe channel => exact .inr (.inl ⟨.subscribe channel, rfl, rfl⟩)
  | unsubscribe channel => exact .inr (.inl ⟨.unsubscribe channel, rfl, rfl⟩)
  | publish channel data => exact .inr (.inl ⟨.publish channel data, rfl, rfl⟩)
  | disconnect => exact .inr (.inr (.inl rfl))
  | endBatch => exact .inr (.inr (.inr (.inl rfl)))
  | close => exact .inr (.inr (.inr (.inr rfl)))

end Loopback
end BayeuxChat
