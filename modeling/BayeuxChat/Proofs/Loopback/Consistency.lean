import BayeuxChat.Proofs.Loopback.Deliveries
import BayeuxChat.Proofs.Loopback.MetaChannel
import BayeuxChat.Proofs.Text.HexNumeral

/-!
# The state of a loopback is consistent

The connection, the client's identity, the handshake that may be due, the listeners and
the calls put off are kept in fields of their own, and most steps change only some of
them.  What the fields say of each other is stated here, and shown to hold in every
state that the steps of a loopback lead to, whether or not its mailbox is open.
-/

namespace BayeuxChat
namespace Loopback

open LoopbackStep

/-- What the fields of a loopback say agrees. -/
structure Consistent (t : Loopback) : Prop where
  /-- Nothing outlasts the connection. -/
  disconnected : t.connected = false →
    t.clientId = none ∧ t.handshakeDue = false ∧ t.subscriptions = [] ∧ t.deferred = []
  unbatched : t.PutsOffInBatch
  /-- A handshake waits for nothing but the first listener of a connection. -/
  due : t.handshakeDue = true → t.connected = true ∧ t.listeners = []
  /-- An identity is lacking only as long as the handshake is due that gives it. -/
  anonymous : t.connected = true → t.clientId = none → t.handshakeDue = true
  identified : ∀ id, t.clientId = some id → id = identity t.handshakes
  numbered : ∀ listener ∈ t.listeners, listener.number < t.nextListener

theorem consistent_empty : Consistent {} where
  disconnected _ := ⟨rfl, rfl, rfl, rfl⟩
  unbatched _ := rfl
  due h := by cases h
  anonymous h := by cases h
  identified _ h := by cases h
  numbered := by simp

/-- A handshake settles all that has to do with it, whatever was the case before. -/
theorem consistent_handshake
    {t : Loopback} (hconnected : t.connected = true) (hunbatched : t.PutsOffInBatch)
    (hnumbered : ∀ listener ∈ t.listeners, listener.number < t.nextListener) :
    t.handshake.Consistent := by
  rw [handshake_eq]
  constructor
  · intro hdisconnected
    cases hconnected.symm.trans hdisconnected
  · exact hunbatched
  · intro hdue
    cases hdue
  · intro _ hanonymous
    cases hanonymous
  · intro id hid
    exact (Option.some.inj hid).symm
  · exact hnumbered

namespace Consistent

variable {t : Loopback}

/-- Whoever listens on a connection hears of the identity at once, so there is one. -/
theorem isSome_clientId
    (h : t.Consistent) (hconnected : t.connected = true) (hlisteners : t.listeners ≠ []) :
    t.clientId.isSome := by
  cases hid : t.clientId with
  | some id => rfl
  | none => exact absurd (h.due (h.anonymous hconnected hid)).2 hlisteners

theorem connect (h : t.Consistent) (address : String) : (t.connect address).Consistent := by
  rw [Loopback.connect]
  split
  · next hlisteners =>
    rw [List.isEmpty_iff] at hlisteners
    constructor
    · intro hdisconnected
      cases hdisconnected
    · exact h.unbatched
    · exact fun _ => ⟨rfl, hlisteners⟩
    · exact fun _ _ => rfl
    · exact h.identified
    · exact h.numbered
  · exact consistent_handshake rfl h.unbatched h.numbered

theorem disconnect (h : t.Consistent) : t.disconnect.Consistent where
  disconnected _ := ⟨rfl, rfl, rfl, rfl⟩
  unbatched _ := rfl
  due hdue := by cases hdue
  anonymous hconnected := by cases hconnected
  identified _ hid := by cases hid
  numbered := h.numbered

theorem listen (h : t.Consistent) : t.listen.2.Consistent := by
  have hnumbered : ∀ listener ∈ t.listeners ++ [⟨t.nextListener⟩],
      listener.number < t.nextListener + 1 := by
    intro listener hlistener
    rw [List.mem_append, List.mem_singleton] at hlistener
    rcases hlistener with hold | rfl
    · exact Nat.lt_succ_of_lt (h.numbered listener hold)
    · exact Nat.lt_succ_self _
  rw [Loopback.listen]
  split
  · next hdue =>
    rw [Bool.and_eq_true] at hdue
    exact consistent_handshake hdue.2 h.unbatched hnumbered
  · next hnone =>
    constructor
    · exact h.disconnected
    · exact h.unbatched
    · intro hdue
      have hconnected : t.connected = true := (h.due hdue).1
      exact absurd (Bool.and_eq_true _ _ ▸ ⟨hdue, hconnected⟩) hnone
    · exact h.anonymous
    · exact h.identified
    · exact hnumbered

theorem unlisten (h : t.Consistent) (listener : Listener) :
    (t.unlisten listener).Consistent where
  disconnected := h.disconnected
  unbatched := h.unbatched
  due hdue := by
    obtain ⟨hconnected, hnobody⟩ := h.due hdue
    exact ⟨hconnected, by simp [Loopback.unlisten, hnobody]⟩
  anonymous := h.anonymous
  identified := h.identified
  numbered other hother := h.numbered other (List.mem_of_mem_filter hother)

theorem forget (h : t.Consistent) : t.forget.Consistent := by
  rw [Loopback.forget]
  split
  · next hconnected => exact consistent_handshake hconnected h.unbatched h.numbered
  · exact h

/-- With a connection, calls have no part in it. -/
theorem of_calls
    (h : t.Consistent) (hconnected : t.connected = true)
    {subscriptions : List String} {messages : Nat} {mailbox : Option (List Arrival)}
    {deferred : List Deferred} {batchDepth : Nat}
    (hunbatched : batchDepth = 0 → deferred = []) :
    Consistent
      { t with
        subscriptions := subscriptions, messages := messages, mailbox := mailbox,
        deferred := deferred, batchDepth := batchDepth } where
  disconnected hdisconnected := by
    cases hconnected.symm.trans hdisconnected
  unbatched := hunbatched
  due := h.due
  anonymous := h.anonymous
  identified := h.identified
  numbered := h.numbered

theorem accept (h : t.Consistent) (call : Deferred) : (t.accept call).Consistent := by
  have hunbatched : (t.accept call).PutsOffInBatch := by
    cases call with
    | subscribe channel => exact putsOffInBatch_step h.unbatched (.subscribe channel)
    | unsubscribe channel => exact putsOffInBatch_step h.unbatched (.unsubscribe channel)
    | publish channel data => exact putsOffInBatch_step h.unbatched (.publish channel data)
  cases hconnected : t.connected with
  | false =>
      have hlost : t.accept call = t := if_neg (ne_true_of_eq_false hconnected)
      rwa [hlost]
  | true =>
      obtain ⟨_, _, _, _, hframe⟩ := exists_accept_eq call t
      rw [hframe] at hunbatched ⊢
      exact h.of_calls hconnected hunbatched

theorem endBatch (h : t.Consistent) : t.endBatch.Consistent := by
  have hunbatched : t.endBatch.PutsOffInBatch := putsOffInBatch_step h.unbatched .endBatch
  cases hconnected : t.connected with
  | false =>
      -- Nothing was put off, so there is nothing to carry out.
      obtain ⟨hid, hdue, hsubscriptions, hdeferred⟩ := h.disconnected hconnected
      have hcounted : t.endBatch = { t with batchDepth := t.batchDepth - 1 } := by
        by_cases hdepth : t.batchDepth = 1
        · rw [endBatch_of_one hdepth]
          simp [hdeferred, carryOutAll, hdepth]
        · exact endBatch_of_ne_one hdepth
      rw [hcounted]
      exact ⟨h.disconnected, fun _ => hdeferred, h.due, h.anonymous, h.identified,
        h.numbered⟩
  | true =>
      obtain ⟨_, _, _, _, _, hframe⟩ := exists_endBatch_eq t
      rw [hframe] at hunbatched ⊢
      exact h.of_calls hconnected hunbatched

theorem step (h : t.Consistent) (step : LoopbackStep) : (t.step step).2.Consistent := by
  cases step with
  | connect address => exact h.connect address
  | disconnect => exact h.disconnect
  | beginBatch =>
      have hunbatched : t.beginBatch.PutsOffInBatch := by
        intro hclosed
        cases hclosed
      exact ⟨h.disconnected, hunbatched, h.due, h.anonymous, h.identified, h.numbered⟩
  | endBatch => exact h.endBatch
  | subscribe channel => exact h.accept (.subscribe channel)
  | unsubscribe channel => exact h.accept (.unsubscribe channel)
  | publish channel data => exact h.accept (.publish channel data)
  | listen => exact h.listen
  | unlisten listener => exact h.unlisten listener
  | stall =>
      simp only [Loopback.step, stall, broadcast_eq]
      exact ⟨h.disconnected, h.unbatched, h.due, h.anonymous, h.identified, h.numbered⟩
  | forget => exact h.forget
  | close =>
      exact ⟨h.disconnected, h.unbatched, h.due, h.anonymous, h.identified, h.numbered⟩

end Consistent

theorem consistent_afterSteps (steps : List LoopbackStep) : (afterSteps {} steps).Consistent := by
  induction steps using List.reverseRecOn with
  | nil => exact consistent_empty
  | append_singleton steps step ih =>
      rw [afterSteps_concat]
      exact ih.step step

/-- In every state that a loopback gets into: without a connection there is no identity,
no handshake due, no subscription and nothing put off; outside of a batch nothing is put
off; a handshake is due only with a connection to which nobody listens; a connection
without an identity has a handshake due, so there is an identity if somebody listens; an
identity is the lower-case hexadecimal numeral, in at least eight places, of the number of
handshakes so far; and the number of every listener was given out before the next one. -/
theorem consistency_of_steps (steps : List LoopbackStep) :
    let t := afterSteps {} steps
    (t.connected = false →
        t.clientId = none ∧ t.handshakeDue = false ∧ t.subscriptions = [] ∧ t.deferred = []) ∧
      (t.batchDepth = 0 → t.deferred = []) ∧
      (t.handshakeDue = true → t.connected = true ∧ t.listeners = []) ∧
      (t.connected = true → t.clientId = none → t.handshakeDue = true) ∧
      (t.connected = true → t.listeners ≠ [] → t.clientId.isSome) ∧
      (∀ id, t.clientId = some id → Text.IsPaddedHex 8 t.handshakes id) ∧
      ∀ listener ∈ t.listeners, listener.number < t.nextListener := by
  intro t
  have h : t.Consistent := consistent_afterSteps steps
  refine ⟨h.disconnected, h.unbatched, h.due, h.anonymous, h.isSome_clientId, ?_, h.numbered⟩
  intro id hid
  rw [h.identified id hid]
  exact Text.isPaddedHex_paddedHex (by decide) t.handshakes

end Loopback
end BayeuxChat
