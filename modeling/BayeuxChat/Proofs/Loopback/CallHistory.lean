import BayeuxChat.Bayeux.Loopback
import Mathlib.Data.List.Basic

/-!
# Histories of calls

A loopback carries out a call at once, or puts it off and carries it out later, or
drops it with its batch or for want of a connection.  Which of these happens can be
seen from the history of the calls alone, without following the loopback, and so can
what the calls that take effect come to: which channels they leave subscribed to, and
which publishes are heard.
-/

namespace BayeuxChat

namespace LoopbackStep

/-! ## Connection and batches along a history -/

/-- Whether there is a connection after the step. -/
def connectedAfter (connected : Bool) : LoopbackStep → Bool
  | .connect _ => true
  | .disconnect => false
  | _ => connected

/-- How many batches are open after the step. -/
def levelAfter (level : Nat) : LoopbackStep → Nat
  | .beginBatch => level + 1
  | .endBatch => level - 1
  | .disconnect => 0
  | _ => level

/-- Whether the step is a call that can be put off. -/
def isCall : LoopbackStep → Bool
  | .subscribe _ => true
  | .unsubscribe _ => true
  | .publish _ _ => true
  | _ => false

instance (step : LoopbackStep) : Decidable (step = .disconnect) :=
  decidable_of_iff ((match step with | .disconnect => true | _ => false) = true)
    (by cases step <;> simp)

/-- How many batches are open after some steps, if `level` were open before. -/
def levelFrom (level : Nat) (steps : List LoopbackStep) : Nat :=
  steps.foldl levelAfter level

/-- Of `level` batches that are open, the outermost one is ended in the following
steps, and not cut off before that by the end of the connection. -/
def BatchEnds (level : Nat) (steps : List LoopbackStep) : Prop :=
  level = 0 ∨ ∃ inside rest,
    steps = inside ++ .endBatch :: rest ∧ .disconnect ∉ inside ∧
      levelFrom level (inside ++ [.endBatch]) = 0

theorem batchEnds_zero (steps : List LoopbackStep) : BatchEnds 0 steps :=
  .inl rfl

theorem not_batchEnds_nil {level : Nat} (hlevel : level ≠ 0) : ¬ BatchEnds level [] := by
  rintro (hzero | ⟨inside, rest, hsteps, -⟩)
  · exact hlevel hzero
  · simp at hsteps

/-- Inside a batch, the next step ends all that is open, or leaves it to the others. -/
theorem batchEnds_cons_iff
    {level : Nat} (hlevel : level ≠ 0) (step : LoopbackStep) (rest : List LoopbackStep) :
    BatchEnds level (step :: rest) ↔
      step ≠ .disconnect ∧ BatchEnds (step.levelAfter level) rest := by
  constructor
  · rintro (hzero | ⟨inside, later, hsteps, hinside, hends⟩)
    · exact absurd hzero hlevel
    · cases inside with
      | nil =>
          obtain ⟨rfl, rfl⟩ := List.cons.inj hsteps
          exact ⟨by simp, .inl hends⟩
      | cons first inside =>
          obtain ⟨rfl, rfl⟩ := List.cons.inj hsteps
          rw [List.mem_cons, not_or] at hinside
          exact ⟨fun h => hinside.1 h.symm, .inr ⟨inside, later, rfl, hinside.2, hends⟩⟩
  · rintro ⟨hstep, hzero | ⟨inside, later, rfl, hinside, hends⟩⟩
    · have hend : step = .endBatch := by
        cases step <;> simp_all [levelAfter]
      subst hend
      exact .inr ⟨[], rest, rfl, by simp, hzero⟩
    · refine .inr ⟨step :: inside, later, rfl, ?_, hends⟩
      rw [List.mem_cons, not_or]
      exact ⟨fun h => hstep h.symm, hinside⟩

instance decidableBatchEnds :
    (level : Nat) → (steps : List LoopbackStep) → Decidable (BatchEnds level steps)
  | 0, steps => isTrue (batchEnds_zero steps)
  | _ + 1, [] => isFalse (not_batchEnds_nil (Nat.succ_ne_zero _))
  | level + 1, step :: rest =>
    have := decidableBatchEnds (step.levelAfter (level + 1)) rest
    decidable_of_iff _ (batchEnds_cons_iff (Nat.succ_ne_zero level) step rest).symm

/-- Once no batch is open, what follows has no part in whether a batch was ended. -/
theorem batchEnds_append_iff
    {level : Nat} {steps : List LoopbackStep} (hclosed : levelFrom level steps = 0)
    (rest : List LoopbackStep) :
    BatchEnds level (steps ++ rest) ↔ BatchEnds level steps := by
  induction steps generalizing level with
  | nil =>
      obtain rfl : level = 0 := hclosed
      simp [batchEnds_zero]
  | cons step steps ih =>
      by_cases hlevel : level = 0
      · simp [hlevel, batchEnds_zero]
      · rw [List.cons_append, batchEnds_cons_iff hlevel, batchEnds_cons_iff hlevel,
          ih hclosed]

/-! ## The calls that take effect -/

/-- The calls among some steps that take effect, and the disconnections between them;
`rest` is what follows the steps.  A call takes effect if it is made while there is a
connection, and outside of any batch or in one that is ended. -/
def effective
    (rest : List LoopbackStep) (connected : Bool) (level : Nat) :
    List LoopbackStep → List LoopbackStep
  | [] => []
  | step :: more =>
    let later := effective rest (step.connectedAfter connected) (step.levelAfter level) more
    if step = .disconnect ∨ step.isCall ∧ connected ∧ BatchEnds level (more ++ rest) then
      step :: later
    else later

/-- A call leaves the batches as they are. -/
theorem levelAfter_of_isCall (level : Nat) {step : LoopbackStep} (h : step.isCall) :
    step.levelAfter level = level := by
  cases step <;> first | rfl | simp [isCall] at h

/-- Once no batch is open, what follows has no part in which calls took effect. -/
theorem effective_of_closed
    (connected : Bool) {level : Nat} {steps : List LoopbackStep}
    (hclosed : levelFrom level steps = 0) (rest : List LoopbackStep) :
    effective rest connected level steps = effective [] connected level steps := by
  induction steps generalizing connected level with
  | nil => rfl
  | cons step steps ih =>
      -- Only of a call does it matter, and a call leaves open what was open before it.
      have hends : step.isCall →
          (BatchEnds level (steps ++ rest) ↔ BatchEnds level (steps ++ [])) := by
        intro hcall
        have hlater : levelFrom level steps = 0 := by
          rw [← levelAfter_of_isCall level hcall]
          exact hclosed
        rw [batchEnds_append_iff hlater, batchEnds_append_iff hlater]
      rw [effective, effective, ih _ hclosed]
      by_cases hcall : step.isCall
      · simp only [hends hcall]
      · simp [hcall]

/-! ## What the calls say -/

/-- What a step says of a channel: that it is subscribed to, or no longer. -/
def setting? (channel : String) : LoopbackStep → Option Bool
  | .subscribe other => if other = channel then some true else none
  | .unsubscribe other => if other = channel then some false else none
  | .disconnect => some false
  | _ => none

/-- The last that the steps say of a channel is that it is subscribed to. -/
def Subscribed (channel : String) (steps : List LoopbackStep) : Prop :=
  (steps.filterMap (setting? channel)).getLast? = some true

instance (channel : String) (steps : List LoopbackStep) :
    Decidable (Subscribed channel steps) :=
  inferInstanceAs (Decidable (_ = _))

theorem not_subscribed_nil (channel : String) : ¬ Subscribed channel [] := by
  simp [Subscribed]

/-- The last step that says anything of a channel decides. -/
theorem subscribed_concat_of_some
    {channel : String} {step : LoopbackStep} {subscribed : Bool}
    (h : step.setting? channel = some subscribed) (past : List LoopbackStep) :
    Subscribed channel (past ++ [step]) ↔ subscribed = true := by
  simp [Subscribed, h]

theorem subscribed_concat_of_none
    {channel : String} {step : LoopbackStep}
    (h : step.setting? channel = none) (past : List LoopbackStep) :
    Subscribed channel (past ++ [step]) ↔ Subscribed channel past := by
  simp [Subscribed, h]

/-- What is heard of a step: a publish on a channel that is subscribed to, as far as
the steps before it say. -/
def heard? (past : List LoopbackStep) : LoopbackStep → Option (String × Json)
  | .publish channel data =>
    if Subscribed channel past then some (channel, data) else none
  | _ => none

/-- The publishes among some steps that are heard, by channel and data; `past` is what
came before them. -/
def heard (past : List LoopbackStep) : List LoopbackStep → List (String × Json)
  | [] => []
  | step :: rest => (step.heard? past).toList ++ heard (past ++ [step]) rest

theorem heard_concat (past steps : List LoopbackStep) (step : LoopbackStep) :
    heard past (steps ++ [step]) =
      heard past steps ++ (step.heard? (past ++ steps)).toList := by
  induction steps generalizing past with
  | nil => simp [heard]
  | cons first steps ih => simp [heard, ih]

end LoopbackStep

/-- The step by which a call is made. -/
def Deferred.step : Deferred → LoopbackStep
  | .subscribe channel => .subscribe channel
  | .unsubscribe channel => .unsubscribe channel
  | .publish channel data => .publish channel data

end BayeuxChat
