import BayeuxChat.Proofs.Loopback.Steps
import BayeuxChat.Proofs.Transport.Numbering

/-!
# What a step of a loopback does on the meta channel

Handshakes take place on three occasions, and only they and unanswered connect
requests have anything to tell those who listen.  This file says for each step whether
it performs a handshake, who listens after it, and what everyone who listens is told.
-/

namespace BayeuxChat

/-! ## Events among arrivals -/

/-- The event that an arrival brings to one listener, if it brings any. -/
def Arrival.eventFor? (listener : Listener) : Arrival → Option MetaEvent
  | .message _ => none
  | .event other e => if other = listener then some e else none

/-- Whether somebody begins to listen by the step. -/
def LoopbackStep.isListen : LoopbackStep → Bool
  | .listen => true
  | _ => false

/-- Whether a connect request is left unanswered by the step. -/
def LoopbackStep.isStall : LoopbackStep → Bool
  | .stall => true
  | _ => false

namespace Loopback

open LoopbackStep

/-- The events that were sent to a listener, oldest first, unless the mailbox is closed
or some were taken out. -/
def heardBy (listener : Listener) (t : Loopback) : Option (List MetaEvent) :=
  t.mailbox.map fun waiting => waiting.filterMap (Arrival.eventFor? listener)

theorem heardBy_congr {t t' : Loopback} (h : t'.mailbox = t.mailbox) (listener : Listener) :
    t'.heardBy listener = t.heardBy listener := by
  rw [heardBy, heardBy, h]

/-- Of what everyone is told, each hears once. -/
theorem filterMap_eventsFor
    {listeners : List Listener} (hnodup : listeners.Nodup) (e : MetaEvent)
    (listener : Listener) :
    (eventsFor listeners e).filterMap (Arrival.eventFor? listener) =
      if listener ∈ listeners then [e] else [] := by
  induction listeners with
  | nil => rfl
  | cons first rest ih =>
      rw [List.nodup_cons] at hnodup
      rw [eventsFor, List.map_cons, List.filterMap_cons, ← eventsFor, ih hnodup.2]
      by_cases hfirst : first = listener
      · subst hfirst
        simp [Arrival.eventFor?, hnodup.1]
      · simp [Arrival.eventFor?, hfirst, Ne.symm hfirst]

theorem heardBy_broadcast
    {t : Loopback} (hnodup : t.listeners.Nodup) (e : MetaEvent) (listener : Listener) :
    (t.broadcast e).heardBy listener =
      (t.heardBy listener).map (· ++ if listener ∈ t.listeners then [e] else []) := by
  rw [broadcast_eq]
  simp [heardBy, Function.comp_def, filterMap_eventsFor hnodup]

/-- In a handshake everyone who listens is first told the new identity, and then of the
answer. -/
theorem heardBy_handshake
    {t : Loopback} (hnodup : t.listeners.Nodup) (listener : Listener) :
    t.handshake.heardBy listener =
      (t.heardBy listener).map (· ++
        if listener ∈ t.listeners then
          [.welcomed (identity (t.handshakes + 1)), .answered]
        else []) := by
  rw [handshake_eq]
  by_cases hmem : listener ∈ t.listeners
  · simp [heardBy, Function.comp_def, filterMap_eventsFor hnodup, hmem]
  · simp [heardBy, Function.comp_def, filterMap_eventsFor hnodup, hmem]

/-! ## Calls have no part in it -/

/-- A call changes what is subscribed to, sent or put off, and no more. -/
theorem exists_accept_eq (call : Deferred) (t : Loopback) :
    ∃ subscriptions messages mailbox deferred, t.accept call =
      { t with
        subscriptions := subscriptions, messages := messages, mailbox := mailbox,
        deferred := deferred } := by
  rcases accept_cases call t with ⟨-, heq⟩ | ⟨-, -, heq⟩ | ⟨-, -, heq⟩
  · exact ⟨_, _, _, _, heq⟩
  · obtain ⟨_, _, _, hframe⟩ := exists_carryOut_eq call t
    exact ⟨_, _, _, _, heq.trans hframe⟩
  · exact ⟨_, _, _, _, heq⟩

/-- So does the end of a batch, which is counted besides. -/
theorem exists_endBatch_eq (t : Loopback) :
    ∃ subscriptions messages mailbox deferred batchDepth, t.endBatch =
      { t with
        subscriptions := subscriptions, messages := messages, mailbox := mailbox,
        deferred := deferred, batchDepth := batchDepth } := by
  by_cases hdepth : t.batchDepth = 1
  · obtain ⟨_, _, _, hframe⟩ := exists_carryOutAll_eq t.deferred
      { t with batchDepth := 0, deferred := [] }
    exact ⟨_, _, _, _, _, (endBatch_of_one hdepth).trans hframe⟩
  · exact ⟨_, _, _, _, _, endBatch_of_ne_one hdepth⟩

theorem heardBy_carryOut (call : Deferred) (t : Loopback) (listener : Listener) :
    (t.carryOut call).heardBy listener = t.heardBy listener := by
  cases call with
  | subscribe channel =>
      apply heardBy_congr
      simp only [carryOut]
      split <;> rfl
  | unsubscribe channel => exact heardBy_congr rfl listener
  | publish channel data =>
      by_cases hmem : channel ∈ t.subscriptions
      · rw [carryOut_publish_of_mem data hmem]
        simp [heardBy, Function.comp_def, Arrival.eventFor?, List.filterMap_cons]
      · rw [carryOut_publish_of_notMem data hmem]

theorem heardBy_carryOutAll (calls : List Deferred) (t : Loopback) (listener : Listener) :
    (carryOutAll calls t).heardBy listener = t.heardBy listener := by
  induction calls using List.reverseRecOn with
  | nil => rfl
  | append_singleton calls call ih =>
      rw [carryOutAll_concat, heardBy_carryOut]
      exact ih

theorem heardBy_accept (call : Deferred) (t : Loopback) (listener : Listener) :
    (t.accept call).heardBy listener = t.heardBy listener := by
  rcases accept_cases call t with ⟨-, heq⟩ | ⟨-, -, heq⟩ | ⟨-, -, heq⟩
  · rw [heq]
  · rw [heq]
    exact heardBy_carryOut call t listener
  · rw [heq]
    exact heardBy_congr rfl listener

theorem heardBy_endBatch (t : Loopback) (listener : Listener) :
    t.endBatch.heardBy listener = t.heardBy listener := by
  by_cases hdepth : t.batchDepth = 1
  · rw [endBatch_of_one hdepth, heardBy_carryOutAll]
    exact heardBy_congr rfl listener
  · rw [endBatch_of_ne_one hdepth]
    exact heardBy_congr rfl listener

/-! ## Who listens -/

/-- The next number is taken by each new listener, and by nobody else. -/
theorem nextListener_step (t : Loopback) (step : LoopbackStep) :
    (t.step step).2.nextListener =
      t.nextListener + (if step.isListen then 1 else 0) := by
  cases step <;>
    simp [Loopback.step, isListen, stall, disconnect, beginBatch, unlisten, close]

/-- Somebody begins to listen or is released, and nothing else changes who listens. -/
theorem listeners_step (t : Loopback) (step : LoopbackStep) :
    (t.step step).2.listeners =
      match step with
      | .listen => t.listeners ++ [⟨t.nextListener⟩]
      | .unlisten listener => t.listeners.filter (· != listener)
      | _ => t.listeners := by
  have haccept : ∀ call : Deferred, (t.accept call).listeners = t.listeners := by
    intro call
    obtain ⟨_, _, _, _, hframe⟩ := exists_accept_eq call t
    rw [hframe]
  cases step with
  | connect address =>
      simp only [Loopback.step, connect]
      split
      · rfl
      · rw [handshake_eq]
  | subscribe channel => exact haccept (.subscribe channel)
  | unsubscribe channel => exact haccept (.unsubscribe channel)
  | publish channel data => exact haccept (.publish channel data)
  | endBatch =>
      obtain ⟨_, _, _, _, _, hframe⟩ := exists_endBatch_eq t
      simp only [Loopback.step, hframe]
  | listen =>
      simp only [Loopback.step, listen]
      split
      · rw [handshake_eq]
      · rfl
  | stall => simp only [Loopback.step, stall, broadcast_eq]
  | forget =>
      simp only [Loopback.step, forget]
      split
      · rw [handshake_eq]
      · rfl
  | disconnect => rfl
  | beginBatch => rfl
  | unlisten listener => rfl
  | close => rfl

theorem mem_listeners_step_iff (t : Loopback) (step : LoopbackStep) (listener : Listener) :
    listener ∈ (t.step step).2.listeners ↔
      (step = .listen ∧ listener = ⟨t.nextListener⟩) ∨
        (listener ∈ t.listeners ∧ step ≠ .unlisten listener) := by
  rw [listeners_step]
  cases step with
  | listen => simp [or_comm]
  | unlisten other => simp [@eq_comm _ other listener]
  | _ => simp

/-! ## Handshakes -/

/-- Whether a step makes the loopback perform a handshake. -/
def performs (t : Loopback) : LoopbackStep → Bool
  | .connect _ => !t.listeners.isEmpty
  | .listen => t.handshakeDue && t.connected
  | .forget => t.connected
  | _ => false

/-- A handshake is due from a connection without listeners on, until it takes place or
the connection ends. -/
theorem handshakeDue_step (t : Loopback) (step : LoopbackStep) :
    (t.step step).2.handshakeDue =
      match step with
      | .connect _ => t.listeners.isEmpty
      | .disconnect => false
      | _ => t.handshakeDue && !t.performs step := by
  have haccept : ∀ call : Deferred, (t.accept call).handshakeDue = t.handshakeDue := by
    intro call
    obtain ⟨_, _, _, _, hframe⟩ := exists_accept_eq call t
    rw [hframe]
  cases step with
  | connect address =>
      cases hlisteners : t.listeners.isEmpty <;>
        simp [Loopback.step, connect, hlisteners, handshake_eq]
  | subscribe channel => simp [Loopback.step, haccept, performs]
  | unsubscribe channel => simp [Loopback.step, haccept, performs]
  | publish channel data => simp [Loopback.step, haccept, performs]
  | endBatch =>
      obtain ⟨_, _, _, _, _, hframe⟩ := exists_endBatch_eq t
      simp [Loopback.step, hframe, performs]
  | listen =>
      cases hdue : t.handshakeDue <;> cases hconnected : t.connected <;>
        simp_all [Loopback.step, listen, performs, connected, handshake_eq]
  | stall => simp [Loopback.step, stall, broadcast_eq, performs]
  | forget =>
      cases hconnected : t.connected <;>
        simp [Loopback.step, forget, hconnected, performs, handshake_eq]
  | disconnect => rfl
  | beginBatch => simp [Loopback.step, beginBatch, performs]
  | unlisten listener => simp [Loopback.step, unlisten, performs]
  | close => simp [Loopback.step, close, performs]

/-- A step performs a handshake and does so last, or it leaves a connect request
unanswered, or it counts no handshake and nobody is told of anything. -/
theorem step_meta_cases (t : Loopback) {step : LoopbackStep} (hopen : step ≠ .close) :
    (t.performs step = true ∧ ∃ before : Loopback, (t.step step).2 = before.handshake ∧
        before.handshakes = t.handshakes ∧ before.mailbox = t.mailbox) ∨
      step = .stall ∨
      (t.performs step = false ∧ step ≠ .stall ∧
        (t.step step).2.handshakes = t.handshakes ∧
        ∀ listener, (t.step step).2.heardBy listener = t.heardBy listener) := by
  have haccept : ∀ call : Deferred, (t.accept call).handshakes = t.handshakes := by
    intro call
    obtain ⟨_, _, _, _, hframe⟩ := exists_accept_eq call t
    rw [hframe]
  cases step with
  | connect address =>
      cases hlisteners : t.listeners.isEmpty with
      | true =>
          have hstep : (t.step (.connect address)).2 =
              { t with address := some address, handshakeDue := true } := by
            simp [Loopback.step, connect, hlisteners]
          rw [hstep]
          exact .inr (.inr ⟨by simp [performs, hlisteners], by simp, rfl,
            heardBy_congr rfl⟩)
      | false =>
          have hstep : (t.step (.connect address)).2 =
              handshake { t with address := some address, handshakeDue := true } := by
            simp [Loopback.step, connect, hlisteners]
          exact .inl ⟨by simp [performs, hlisteners], _, hstep, rfl, rfl⟩
  | listen =>
      cases hdue : t.handshakeDue && t.connected with
      | true =>
          have hstep : (t.step .listen).2 =
              handshake { t with
                nextListener := t.nextListener + 1
                listeners := t.listeners ++ [⟨t.nextListener⟩] } :=
            if_pos hdue
          exact .inl ⟨hdue, _, hstep, rfl, rfl⟩
      | false =>
          have hstep : (t.step .listen).2 =
              { t with
                nextListener := t.nextListener + 1
                listeners := t.listeners ++ [⟨t.nextListener⟩] } :=
            if_neg (ne_true_of_eq_false hdue)
          rw [hstep]
          exact .inr (.inr ⟨hdue, by simp, rfl, heardBy_congr rfl⟩)
  | forget =>
      cases hconnected : t.connected with
      | true => exact .inl ⟨hconnected, t, if_pos hconnected, rfl, rfl⟩
      | false =>
          have hstep : (t.step .forget).2 = t := if_neg (ne_true_of_eq_false hconnected)
          rw [hstep]
          exact .inr (.inr ⟨hconnected, by simp, rfl, fun _ => rfl⟩)
  | subscribe channel => exact .inr (.inr ⟨rfl, by simp, haccept _, heardBy_accept _ t⟩)
  | unsubscribe channel => exact .inr (.inr ⟨rfl, by simp, haccept _, heardBy_accept _ t⟩)
  | publish channel data => exact .inr (.inr ⟨rfl, by simp, haccept _, heardBy_accept _ t⟩)
  | endBatch =>
      obtain ⟨_, _, _, _, _, hframe⟩ := exists_endBatch_eq t
      refine .inr (.inr ⟨rfl, by simp, ?_, heardBy_endBatch t⟩)
      simp only [Loopback.step, hframe]
  | stall => exact .inr (.inl rfl)
  | disconnect => exact .inr (.inr ⟨rfl, by simp, rfl, heardBy_congr rfl⟩)
  | beginBatch => exact .inr (.inr ⟨rfl, by simp, rfl, heardBy_congr rfl⟩)
  | unlisten listener => exact .inr (.inr ⟨rfl, by simp, rfl, heardBy_congr rfl⟩)
  | close => exact absurd rfl hopen

theorem handshakes_step (t : Loopback) (step : LoopbackStep) :
    (t.step step).2.handshakes = t.handshakes + (if t.performs step then 1 else 0) := by
  by_cases hopen : step = .close
  · subst hopen
    rfl
  · rcases step_meta_cases t hopen with
      ⟨hperforms, before, hstep, hcount, -⟩ | rfl | ⟨hperforms, -, hcount, -⟩
    · rw [hstep, handshake_eq, hperforms, ← hcount]
      rfl
    · simp [Loopback.step, stall, broadcast_eq, performs]
    · rw [hcount, hperforms]
      rfl

/-- The identity that a handshake gives has the handshake's own number. -/
theorem clientId_of_performs
    {t : Loopback} {step : LoopbackStep} (hperforms : t.performs step = true) :
    (t.step step).2.clientId = some (identity (t.handshakes + 1)) := by
  have hopen : step ≠ .close := by
    rintro rfl
    cases hperforms
  rcases step_meta_cases t hopen with
    ⟨-, before, hstep, hcount, -⟩ | rfl | ⟨hnone, -⟩
  · rw [hstep, handshake_eq, hcount]
  · cases hperforms
  · cases hperforms.symm.trans hnone

/-! ## What is told -/

/-- What everyone who listens is told at once. -/
inductive Tiding where
  /-- The handshake of this number was performed. -/
  | welcome (number : Nat)
  /-- A connect request was left unanswered. -/
  | loss
  deriving DecidableEq

/-- The events by which a listener is told. -/
def Tiding.events : Tiding → List MetaEvent
  | .welcome number => [.welcomed (identity number), .answered]
  | .loss => [.unanswered]

/-- What a step has to tell those who listen after it. -/
def tiding? (t : Loopback) (step : LoopbackStep) : Option Tiding :=
  if t.performs step then some (.welcome (t.handshakes + 1))
  else if step.isStall then some .loss
  else none

theorem tiding?_eq_none
    {t : Loopback} {step : LoopbackStep} (hperforms : t.performs step = false)
    (hstall : step ≠ .stall) : t.tiding? step = none := by
  cases step <;> simp_all [tiding?, isStall]

/-- Everyone who listens after a step is told just what it has to tell. -/
theorem heardBy_step
    {t : Loopback} {step : LoopbackStep} (hnodup : (t.step step).2.listeners.Nodup)
    (hopen : step ≠ .close) (listener : Listener) :
    (t.step step).2.heardBy listener =
      (t.heardBy listener).map (· ++
        if listener ∈ (t.step step).2.listeners then
          (t.tiding? step).toList.flatMap Tiding.events
        else []) := by
  rcases step_meta_cases t hopen with
    ⟨hperforms, before, hstep, hcount, hmailbox⟩ | rfl | ⟨hperforms, hstall, -, hsame⟩
  · have hlisteners : before.handshake.listeners = before.listeners := by
      rw [handshake_eq]
    rw [hstep, hlisteners] at hnodup
    rw [hstep, heardBy_handshake hnodup, hlisteners, heardBy_congr hmailbox, hcount]
    simp [tiding?, hperforms, Tiding.events]
  · have hlisteners : (t.step .stall).2.listeners = t.listeners := listeners_step t .stall
    rw [hlisteners] at hnodup ⊢
    exact heardBy_broadcast hnodup .unanswered listener
  · rw [hsame, tiding?_eq_none hperforms hstall]
    simp

end Loopback
end BayeuxChat
