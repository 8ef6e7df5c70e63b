import BayeuxChat.Bayeux.Journal
import BayeuxChat.Proofs.Loopback.Carrying

/-!
# Numbers of listeners

Whether an event is for somebody who still listens can be told from the listener's
number as long as no number is given out twice.  Both transports of this library
count their listeners, and no call but the one that makes a listener has any part in
the count.
-/

namespace BayeuxChat

namespace Transport

/-- A transport that numbers its listeners one after the other. -/
class Numbering (τ : Type) [Transport τ] where
  /-- The number of the next listener. -/
  next : τ → Nat
  listen_fst : ∀ t : τ, (listen t).1 = ⟨next t⟩
  next_listen : ∀ t : τ, next (listen t).2 = next t + 1
  next_unlisten : ∀ (listener : Listener) (t : τ), next (unlisten listener t) = next t
  next_connect : ∀ (address : String) (t : τ), next (connect address t) = next t
  next_disconnect : ∀ t : τ, next (disconnect t) = next t
  next_beginBatch : ∀ t : τ, next (beginBatch t) = next t
  next_endBatch : ∀ t : τ, next (endBatch t) = next t
  next_subscribe : ∀ (channel : String) (t : τ), next (subscribe channel t) = next t
  next_unsubscribe : ∀ (channel : String) (t : τ), next (unsubscribe channel t) = next t
  next_publish : ∀ (channel : String) (data : Json) (t : τ),
    next (publish channel data t) = next t

namespace Numbering

attribute [simp] listen_fst next_listen next_unlisten next_connect next_disconnect
  next_beginBatch next_endBatch next_subscribe next_unsubscribe next_publish

variable {τ : Type} [Transport τ] [Numbering τ]

theorem next_foldl
    {call : String → τ → τ} (hcall : ∀ channel t, next (call channel t) = next t)
    (channels : List String) (t : τ) :
    next (channels.foldl (fun t channel => call channel t) t) = next t := by
  induction channels generalizing t with
  | nil => rfl
  | cons channel rest ih => rw [List.foldl_cons, ih, hcall]

@[simp] theorem next_subscribeAll (channels : List String) (t : τ) :
    next (subscribeAll channels t) = next t :=
  next_foldl next_subscribe channels t

@[simp] theorem next_unsubscribeAll (channels : List String) (t : τ) :
    next (unsubscribeAll channels t) = next t :=
  next_foldl next_unsubscribe channels t

end Numbering
end Transport

/-! ## The journal -/

instance : Transport.Numbering Journal where
  next j := j.nextListener
  listen_fst _ := rfl
  next_listen _ := rfl
  next_unlisten _ _ := rfl
  next_connect _ _ := rfl
  next_disconnect _ := rfl
  next_beginBatch _ := rfl
  next_endBatch _ := rfl
  next_subscribe _ _ := rfl
  next_unsubscribe _ _ := rfl
  next_publish _ _ _ := rfl

/-! ## The loopback -/

namespace Loopback

@[simp] theorem nextListener_broadcast (e : MetaEvent) (t : Loopback) :
    (t.broadcast e).nextListener = t.nextListener := by
  rw [broadcast_eq]

@[simp] theorem nextListener_handshake (t : Loopback) :
    t.handshake.nextListener = t.nextListener := by
  rw [handshake_eq]

@[simp] theorem nextListener_carryOut (call : Deferred) (t : Loopback) :
    (t.carryOut call).nextListener = t.nextListener := by
  obtain ⟨_, _, _, hframe⟩ := exists_carryOut_eq call t
  rw [hframe]

@[simp] theorem nextListener_accept (call : Deferred) (t : Loopback) :
    (t.accept call).nextListener = t.nextListener := by
  rcases accept_cases call t with ⟨-, heq⟩ | ⟨-, -, heq⟩ | ⟨-, -, heq⟩
  · rw [heq]
  · rw [heq]
    exact nextListener_carryOut call t
  · rw [heq]

@[simp] theorem nextListener_endBatch (t : Loopback) :
    t.endBatch.nextListener = t.nextListener := by
  by_cases hdepth : t.batchDepth = 1
  · obtain ⟨_, _, _, hframe⟩ := exists_carryOutAll_eq t.deferred
      { t with batchDepth := 0, deferred := [] }
    rw [endBatch_of_one hdepth, hframe]
  · rw [endBatch_of_ne_one hdepth]

@[simp] theorem nextListener_connect (address : String) (t : Loopback) :
    (t.connect address).nextListener = t.nextListener := by
  simp only [connect]
  split
  · rfl
  · exact nextListener_handshake _

@[simp] theorem nextListener_listen (t : Loopback) :
    t.listen.2.nextListener = t.nextListener + 1 := by
  simp only [listen]
  split
  · exact nextListener_handshake _
  · rfl

@[simp] theorem nextListener_forget (t : Loopback) :
    t.forget.nextListener = t.nextListener := by
  simp only [forget]
  split
  · exact nextListener_handshake t
  · rfl

/-- Whatever is done to a loopback, it gives no number back. -/
theorem nextListener_le_step (t : Loopback) (step : LoopbackStep) :
    t.nextListener ≤ (t.step step).2.nextListener := by
  cases step with
  | listen => simp [Loopback.step]
  | stall => simp [Loopback.step, stall]
  | _ => simp [Loopback.step, disconnect, beginBatch, unlisten, close]

end Loopback

instance : Transport.Numbering Loopback where
  next t := t.nextListener
  listen_fst _ := rfl
  next_listen := Loopback.nextListener_listen
  next_unlisten _ _ := rfl
  next_connect := Loopback.nextListener_connect
  next_disconnect _ := rfl
  next_beginBatch _ := rfl
  next_endBatch := Loopback.nextListener_endBatch
  next_subscribe _ := Loopback.nextListener_accept _
  next_unsubscribe _ := Loopback.nextListener_accept _
  next_publish _ _ := Loopback.nextListener_accept _

end BayeuxChat
