import BayeuxChat.Proofs.Loopback.Deliveries

/-!
# Calls by which nothing arrives

Only what is published on a channel that is subscribed to comes back.  Subscribing and
unsubscribing never make anything arrive, and neither does a batch that ends with a
publish on a channel that it has unsubscribed from before.  It makes no difference
whether there is a connection, or whether the batch is inside another one.
-/

namespace BayeuxChat
namespace Loopback

theorem mailbox_accept_subscribe (channel : String) (t : Loopback) :
    (t.accept (.subscribe channel)).mailbox = t.mailbox := by
  rcases accept_cases (.subscribe channel) t with ⟨-, heq⟩ | ⟨-, -, heq⟩ | ⟨-, -, heq⟩
  · rw [heq]
  · rw [heq, carryOut]
    split <;> rfl
  · rw [heq]

/-- Nothing arrives by the end of an inner batch. -/
theorem mailbox_endBatch_of_ne_one {t : Loopback} (hdepth : t.batchDepth ≠ 1) :
    t.endBatch.mailbox = t.mailbox := by
  rw [endBatch_of_ne_one hdepth]

/-- Without a connection all calls are lost. -/
theorem foldl_accept_of_disconnected
    (calls : List Deferred) {t : Loopback} (hdisconnected : t.connected = false) :
    calls.foldl (fun t call => accept call t) t = t := by
  induction calls with
  | nil => rfl
  | cons call rest ih =>
      have hlost : accept call t = t := if_neg (ne_true_of_eq_false hdisconnected)
      rw [List.foldl_cons, hlost, ih]

/-- Channels are given up, and then something is published on one of them. -/
theorem mailbox_batch_unsubscribeAll_publish
    {channels : List String} {channel : String} (hmem : channel ∈ channels) (data : Json)
    {t : Loopback} (hunbatched : t.PutsOffInBatch) :
    (Transport.batch
        (fun t => Transport.publish channel data (Transport.unsubscribeAll channels t))
        t).mailbox = t.mailbox := by
  let calls : List Deferred := channels.map .unsubscribe ++ [.publish channel data]
  have hcalls : Transport.batch
      (fun t => Transport.publish channel data (Transport.unsubscribeAll channels t)) t =
        endBatch (calls.foldl (fun t call => accept call t) t.beginBatch) := by
    rw [List.foldl_append, List.foldl_map]
    rfl
  have hone : t.batchDepth = 0 → t.beginBatch.batchDepth = 1 := congrArg (· + 1)
  have hinner : t.batchDepth ≠ 0 → t.beginBatch.batchDepth ≠ 1 := mt Nat.succ.inj
  cases hconnected : t.connected with
  | false =>
      have hdisconnected : t.beginBatch.connected = false := hconnected
      rw [hcalls, foldl_accept_of_disconnected calls hdisconnected]
      by_cases hdepth : t.batchDepth = 0
      · have hnothing : t.beginBatch.deferred = [] := hunbatched hdepth
        rw [endBatch_of_one (hone hdepth), hnothing]
        rfl
      · exact mailbox_endBatch_of_ne_one (hinner hdepth)
  | true =>
      by_cases hdepth : t.batchDepth = 0
      · rw [batch_unsubscribeAll_publish channels channel data t hconnected hdepth
          (hunbatched hdepth)]
        rw [carryOut_publish_of_notMem _ (by simp [hmem])]
      · -- The batch is inside another one, so that its calls are only put off.
        rw [hcalls, foldl_accept_of_batch calls t.beginBatch hconnected (Nat.succ_pos _)]
        exact mailbox_endBatch_of_ne_one (hinner hdepth)

end Loopback
end BayeuxChat
