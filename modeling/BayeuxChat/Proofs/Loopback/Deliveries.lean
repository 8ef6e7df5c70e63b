import BayeuxChat.Proofs.Loopback.Steps

/-!
# What a loopback delivers

A loopback and the history of its calls are followed side by side.  At any point some
calls have been carried out, and the loopback reflects them; others were put off or
are not made yet, and the history tells which of them will take effect.  Every step
moves some of the latter to the former, in order, and so a run delivers the publishes
that are heard and no others.
-/

namespace BayeuxChat
namespace Loopback

open LoopbackStep

/-! ## What the calls so far have come to -/

/-- Publishes as they are sent: the channel and the data as they were given, and the
numbers counting from one. -/
def numbered (publishes : List (String × Json)) :
    List (String × Option Json × Option String) :=
  publishes.mapIdx fun i (channel, data) => (channel, some data, some (Text.decimal (i + 1)))

theorem numbered_concat (publishes : List (String × Json)) (channel : String) (data : Json) :
    numbered (publishes ++ [(channel, data)]) =
      numbered publishes ++
        [(channel, some data, some (Text.decimal (publishes.length + 1)))] :=
  List.mapIdx_concat

/-- The loopback has come to what `past` says, which are the calls that were carried out
and the disconnections between them. -/
structure Reflects (t : Loopback) (past : List LoopbackStep) : Prop where
  subscriptions : ∀ channel, channel ∈ t.subscriptions ↔ Subscribed channel past
  messages : t.messages = (heard [] past).length
  sent : t.sent = some (numbered (heard [] past))

theorem reflects_empty : Reflects {} [] where
  subscriptions channel := by simp [not_subscribed_nil]
  messages := rfl
  sent := rfl

theorem Reflects.of_sameOutcome
    {t t' : Loopback} {past : List LoopbackStep} (h : t.Reflects past)
    (hsame : SameOutcome t t') : t'.Reflects past where
  subscriptions := by rw [hsame.subscriptions]; exact h.subscriptions
  messages := by rw [hsame.messages]; exact h.messages
  sent := by rw [hsame.sent]; exact h.sent

/-- A step of which nothing is heard sends nothing. -/
theorem Reflects.concat_of_unheard
    {t t' : Loopback} {past : List LoopbackStep} (h : t.Reflects past)
    {step : LoopbackStep} (hunheard : step.heard? past = none)
    (hsubscriptions : ∀ channel,
      channel ∈ t'.subscriptions ↔ Subscribed channel (past ++ [step]))
    (hmessages : t'.messages = t.messages) (hsent : t'.sent = t.sent) :
    t'.Reflects (past ++ [step]) := by
  have hheard : heard [] (past ++ [step]) = heard [] past := by
    simp [heard_concat, hunheard]
  refine ⟨hsubscriptions, ?_, ?_⟩
  · rw [hmessages, hheard]
    exact h.messages
  · rw [hsent, hheard]
    exact h.sent

theorem Reflects.carryOut_subscribe
    {t : Loopback} {past : List LoopbackStep} (h : t.Reflects past) (channel : String) :
    (t.carryOut (.subscribe channel)).Reflects (past ++ [.subscribe channel]) := by
  have hcarried : t.carryOut (.subscribe channel) =
      { t with subscriptions := subscribing [channel] t.subscriptions } :=
    carryOutAll_subscribe [channel] t
  rw [hcarried]
  refine h.concat_of_unheard rfl ?_ rfl rfl
  intro other
  rw [mem_subscribing_iff, List.mem_singleton, h.subscriptions]
  by_cases hother : channel = other
  · have hsetting : setting? other (.subscribe channel) = some true := if_pos hother
    rw [subscribed_concat_of_some hsetting]
    simp [hother]
  · have hsetting : setting? other (.subscribe channel) = none := if_neg hother
    rw [subscribed_concat_of_none hsetting]
    constructor
    · rintro (hpast | hnew)
      · exact hpast
      · exact absurd hnew.symm hother
    · exact .inl

theorem Reflects.carryOut_unsubscribe
    {t : Loopback} {past : List LoopbackStep} (h : t.Reflects past) (channel : String) :
    (t.carryOut (.unsubscribe channel)).Reflects (past ++ [.unsubscribe channel]) := by
  refine h.concat_of_unheard rfl ?_ rfl rfl
  intro other
  simp only [Loopback.carryOut, List.mem_filter, bne_iff_ne, h.subscriptions]
  by_cases hother : channel = other
  · have hsetting : setting? other (.unsubscribe channel) = some false := if_pos hother
    rw [subscribed_concat_of_some hsetting]
    simp [hother]
  · have hsetting : setting? other (.unsubscribe channel) = none := if_neg hother
    rw [subscribed_concat_of_none hsetting]
    constructor
    · exact And.left
    · intro hpast
      exact ⟨hpast, fun hnew => hother hnew.symm⟩

/-- A publish says nothing of any channel, and sends the next message if it is heard. -/
theorem Reflects.carryOut_publish
    {t : Loopback} {past : List LoopbackStep} (h : t.Reflects past)
    (channel : String) (data : Json) :
    (t.carryOut (.publish channel data)).Reflects (past ++ [.publish channel data]) := by
  have hsetting : ∀ other,
      other ∈ t.subscriptions ↔ Subscribed other (past ++ [.publish channel data]) := by
    intro other
    rw [subscribed_concat_of_none rfl]
    exact h.subscriptions other
  by_cases hmem : channel ∈ t.subscriptions
  · have hsubscribed : Subscribed channel past := (h.subscriptions channel).mp hmem
    have hheard : heard [] (past ++ [.publish channel data]) =
        heard [] past ++ [(channel, data)] := by
      simp [heard_concat, heard?, hsubscribed]
    rw [carryOut_publish_of_mem data hmem]
    refine ⟨hsetting, ?_, ?_⟩
    · simp [hheard, h.messages]
    · rw [sent_message, h.sent, hheard, numbered_concat, ← h.messages]
      rfl
  · have hunheard : heard? past (.publish channel data) = none := by
      have hsubscribed : ¬ Subscribed channel past :=
        fun hpast => hmem ((h.subscriptions channel).mpr hpast)
      exact if_neg hsubscribed
    rw [carryOut_publish_of_notMem data hmem]
    exact h.concat_of_unheard hunheard hsetting rfl rfl

theorem Reflects.carryOut
    {t : Loopback} {past : List LoopbackStep} (h : t.Reflects past) (call : Deferred) :
    (t.carryOut call).Reflects (past ++ [call.step]) := by
  cases call with
  | subscribe channel => exact h.carryOut_subscribe channel
  | unsubscribe channel => exact h.carryOut_unsubscribe channel
  | publish channel data => exact h.carryOut_publish channel data

theorem Reflects.carryOutAll
    {t : Loopback} {past : List LoopbackStep} (h : t.Reflects past) (calls : List Deferred) :
    (carryOutAll calls t).Reflects (past ++ calls.map Deferred.step) := by
  induction calls using List.reverseRecOn with
  | nil => simpa [Loopback.carryOutAll] using h
  | append_singleton calls call ih =>
      rw [carryOutAll_concat, List.map_append, ← List.append_assoc]
      exact ih.carryOut call

theorem Reflects.disconnect
    {t : Loopback} {past : List LoopbackStep} (h : t.Reflects past) :
    t.disconnect.Reflects (past ++ [.disconnect]) := by
  refine h.concat_of_unheard rfl ?_ rfl rfl
  intro channel
  have hsetting : setting? channel .disconnect = some false := rfl
  rw [subscribed_concat_of_some hsetting]
  simp [Loopback.disconnect]

/-! ## What is still to come -/

/-- Nothing is put off outside of a batch. -/
def PutsOffInBatch (t : Loopback) : Prop :=
  t.batchDepth = 0 → t.deferred = []

/-- What was put off and will be carried out, if `steps` follow. -/
def comingDue (t : Loopback) (steps : List LoopbackStep) : List LoopbackStep :=
  if BatchEnds t.batchDepth steps then t.deferred.map Deferred.step else []

/-- All that will be carried out, if `steps` follow. -/
def toCome (t : Loopback) (steps : List LoopbackStep) : List LoopbackStep :=
  t.comingDue steps ++ effective [] t.connected t.batchDepth steps

theorem putsOffInBatch_step
    {t : Loopback} (h : t.PutsOffInBatch) (step : LoopbackStep) :
    (t.step step).2.PutsOffInBatch := by
  intro hclosed
  rcases step_cases t step with
    ⟨hsame, -, -, hlevel⟩ | ⟨call, rfl, heq⟩ | rfl | rfl | rfl
  · rw [(connection_step t step).2] at hclosed
    rw [hsame.deferred]
    exact h (Nat.eq_zero_of_le_zero (hclosed ▸ hlevel t.batchDepth))
  · rw [heq] at hclosed ⊢
    rw [(connection_accept call t).2] at hclosed
    rcases accept_cases call t with ⟨-, heq⟩ | ⟨-, -, heq⟩ | ⟨-, hdepth, -⟩
    · rw [heq]
      exact h hclosed
    · rw [heq, deferred_carryOut]
      exact h hclosed
    · exact absurd hclosed hdepth
  · rfl
  · by_cases hdepth : t.batchDepth = 1
    · obtain ⟨_, _, _, hframe⟩ := exists_carryOutAll_eq t.deferred
        { t with batchDepth := 0, deferred := [] }
      simp only [Loopback.step, endBatch_of_one hdepth, hframe]
    · simp only [Loopback.step, endBatch_of_ne_one hdepth] at hclosed ⊢
      have hnone : t.batchDepth = 0 := by omega
      exact h hnone
  · exact h hclosed

/-- Unless the connection ends, what was put off comes due later or not at all. -/
theorem comingDue_cons
    {t : Loopback} (h : t.PutsOffInBatch) {step : LoopbackStep} (hstep : step ≠ .disconnect)
    (rest : List LoopbackStep) :
    t.comingDue (step :: rest) =
      if BatchEnds (step.levelAfter t.batchDepth) rest then t.deferred.map Deferred.step
      else [] := by
  by_cases hdepth : t.batchDepth = 0
  · simp [comingDue, h hdepth]
  · simp only [comingDue, batchEnds_cons_iff hdepth, ne_eq, hstep, not_false_eq_true,
      true_and]

/-! ## Steps and runs -/

/-- The step to `t'` carries out the first part of what is to come, and leaves the rest
to come. -/
def Advances (t : Loopback) (step : LoopbackStep) (t' : Loopback) : Prop :=
  ∀ rest, ∃ done, t.toCome (step :: rest) = done ++ t'.toCome rest ∧
    ∀ past, t.Reflects past → t'.Reflects (past ++ done)

/-- A step that is no call and has no part in what comes of calls. -/
theorem advances_of_sameCalls
    {t : Loopback} (h : t.PutsOffInBatch) {step : LoopbackStep}
    (hstep : step ≠ .disconnect) (hcall : step.isCall = false)
    (hsame : SameCalls t (t.step step).2) : t.Advances step (t.step step).2 := by
  intro rest
  refine ⟨[], ?_, ?_⟩
  · obtain ⟨hconnected, hdepth⟩ := connection_step t step
    rw [toCome, toCome, comingDue_cons h hstep, comingDue, hsame.deferred, hdepth,
      hconnected, effective]
    simp [hstep, hcall]
  · intro past hpast
    rw [List.append_nil]
    exact hpast.of_sameOutcome hsame.toSameOutcome

/-- A call joins what was put off before it, unless it is lost or dropped. -/
theorem toCome_call
    {t : Loopback} (h : t.PutsOffInBatch) (call : Deferred) (rest : List LoopbackStep) :
    t.toCome (call.step :: rest) =
      t.comingDue rest ++
        (if t.connected ∧ BatchEnds t.batchDepth rest then [call.step] else []) ++
        effective [] t.connected t.batchDepth rest := by
  have hstep : call.step ≠ .disconnect := by
    cases call <;> simp [Deferred.step]
  have hcall : call.step.isCall := by
    cases call <;> rfl
  have hconnected : call.step.connectedAfter t.connected = t.connected := by
    cases call <;> rfl
  rw [toCome, comingDue_cons h hstep, effective, hconnected, levelAfter_of_isCall _ hcall,
    List.append_nil, List.append_assoc, comingDue]
  simp only [hstep, hcall, false_or, true_and]
  congr 1
  split <;> rfl

theorem toCome_accept (t : Loopback) (call : Deferred) (rest : List LoopbackStep) :
    (t.accept call).toCome rest =
      (if BatchEnds t.batchDepth rest then (t.accept call).deferred.map Deferred.step
        else []) ++ effective [] t.connected t.batchDepth rest := by
  obtain ⟨hconnected, hdepth⟩ := connection_accept call t
  rw [toCome, comingDue, hconnected, hdepth]

theorem advances_accept {t : Loopback} (h : t.PutsOffInBatch) (call : Deferred) :
    t.Advances call.step (t.accept call) := by
  intro rest
  rw [toCome_call h, toCome_accept, comingDue]
  rcases accept_cases call t with
    ⟨hconnected, heq⟩ | ⟨hconnected, hdepth, heq⟩ | ⟨hconnected, hdepth, heq⟩
  · refine ⟨[], ?_, ?_⟩
    · simp [heq, hconnected]
    · intro past hpast
      rw [heq, List.append_nil]
      exact hpast
  · have hdeferred : (t.carryOut call).deferred = [] :=
      (deferred_carryOut call t).trans (h hdepth)
    refine ⟨[call.step], ?_, ?_⟩
    · simp [heq, hdeferred, h hdepth, hconnected, hdepth, batchEnds_zero]
    · intro past hpast
      rw [heq]
      exact hpast.carryOut call
  · refine ⟨[], ?_, ?_⟩
    · by_cases hends : BatchEnds t.batchDepth rest
      · simp [heq, hends, hconnected]
      · simp [hends]
    · intro past hpast
      rw [heq, List.append_nil]
      exact hpast.of_sameOutcome ⟨rfl, rfl, rfl⟩

theorem advances_endBatch {t : Loopback} (h : t.PutsOffInBatch) :
    t.Advances .endBatch t.endBatch := by
  by_cases hdepth : t.batchDepth = 1
  · intro rest
    refine ⟨t.deferred.map Deferred.step, ?_, ?_⟩
    · obtain ⟨_, _, _, hframe⟩ := exists_carryOutAll_eq t.deferred
        { t with batchDepth := 0, deferred := [] }
      rw [toCome, toCome, comingDue_cons h (by simp), effective, endBatch_of_one hdepth,
        hframe]
      simp [hdepth, levelAfter, connectedAfter, batchEnds_zero, comingDue, isCall, connected]
    · intro past hpast
      have hemptied : Reflects { t with batchDepth := 0, deferred := [] } past :=
        hpast.of_sameOutcome ⟨rfl, rfl, rfl⟩
      rw [endBatch_of_one hdepth]
      exact hemptied.carryOutAll t.deferred
  · have hsame : SameCalls t (t.step .endBatch).2 := by
      rw [Loopback.step, endBatch_of_ne_one hdepth]
      exact ⟨⟨rfl, rfl, rfl⟩, rfl⟩
    exact advances_of_sameCalls h (by simp) rfl hsame

/-- The end of the connection drops what was put off. -/
theorem advances_disconnect {t : Loopback} (h : t.PutsOffInBatch) :
    t.Advances .disconnect t.disconnect := by
  intro rest
  refine ⟨[.disconnect], ?_, ?_⟩
  · have hdropped : t.comingDue (.disconnect :: rest) = [] := by
      by_cases hdepth : t.batchDepth = 0
      · simp [comingDue, h hdepth]
      · simp [comingDue, batchEnds_cons_iff hdepth]
    rw [toCome, hdropped, effective]
    simp [toCome, comingDue, disconnect, connectedAfter, levelAfter, connected]
  · intro past hpast
    exact hpast.disconnect

theorem advances_step
    {t : Loopback} (h : t.PutsOffInBatch) {step : LoopbackStep} (hopen : step ≠ .close) :
    t.Advances step (t.step step).2 := by
  rcases step_cases t step with
    ⟨hsame, hstep, hcall, -⟩ | ⟨call, rfl, heq⟩ | rfl | rfl | rfl
  · exact advances_of_sameCalls h hstep hcall hsame
  · rw [heq]
    exact advances_accept h call
  · exact advances_disconnect h
  · exact advances_endBatch h
  · exact absurd rfl hopen

/-- Along a run the loopback carries out all that was to come. -/
theorem Reflects.afterSteps
    {t : Loopback} {past : List LoopbackStep} (h : t.Reflects past)
    (hputs : t.PutsOffInBatch) {steps : List LoopbackStep} (hopen : .close ∉ steps) :
    (t.afterSteps steps).Reflects (past ++ t.toCome steps) := by
  -- What is to come moves into `past` step by step until nothing is left.
  induction steps generalizing t past with
  | nil =>
      have hnothing : t.toCome [] = [] := by
        by_cases hdepth : t.batchDepth = 0
        · simp [toCome, comingDue, hputs hdepth, effective]
        · simp [toCome, comingDue, not_batchEnds_nil hdepth, effective]
      rw [hnothing, List.append_nil]
      exact h
  | cons step steps ih =>
      rw [List.mem_cons, not_or] at hopen
      obtain ⟨done, hdone, hreflects⟩ := advances_step hputs (Ne.symm hopen.1) steps
      rw [hdone, ← List.append_assoc]
      exact ih (hreflects past h) (putsOffInBatch_step hputs step) hopen.2

/-- In a run without the closing of the mailbox, a loopback sends just the publishes
that are heard, by what the calls say that take effect: in the order in which they were
made, each once, with the channel and the data as they were given, and numbered from one
without a gap.  At any point of the run at which no batch is open, it is subscribed to
just the channels that the calls up to there leave subscribed to. -/
theorem deliveries_of_steps {steps : List LoopbackStep} (hopen : .close ∉ steps) :
    (afterSteps {} steps).sent = some (numbered (heard [] (effective [] false 0 steps))) ∧
      ∀ past rest, steps = past ++ rest → levelFrom 0 past = 0 →
        ∀ channel, channel ∈ (afterSteps {} past).subscriptions ↔
          Subscribed channel (effective rest false 0 past) := by
  have hreflects : ∀ run : List LoopbackStep, .close ∉ run →
      (afterSteps {} run).Reflects (effective [] false 0 run) := by
    intro run hrun
    have hall : toCome {} run = effective [] false 0 run := by
      simp [toCome, comingDue, connected]
    rw [← hall]
    exact reflects_empty.afterSteps (fun _ => rfl) hrun
  constructor
  · exact (hreflects steps hopen).sent
  · intro past rest hsteps hclosed
    have hpast : .close ∉ past := by
      intro hclose
      rw [hsteps] at hopen
      exact hopen (List.mem_append_left rest hclose)
    rw [effective_of_closed false hclosed rest]
    exact (hreflects past hpast).subscriptions

/-- Without a connection a publish is lost, the batches that are ended come through with
the inner one, an end too many does nothing, and the batch that the disconnection cuts
is dropped. -/
theorem deliveries_of_batches :
    let steps : List LoopbackStep :=
      [.publish "/a" .null, .beginBatch, .connect "/u", .subscribe "/a",
        .publish "/a" (.bool true), .beginBatch, .publish "/b" .null, .endBatch, .endBatch,
        .endBatch, .publish "/a" (.bool false), .beginBatch, .unsubscribe "/a", .disconnect,
        .connect "/u", .publish "/a" .null, .subscribe "/a", .publish "/a" .null]
    (afterSteps {} steps).sent = some
        [("/a", some (.bool true), some "1"), ("/a", some (.bool false), some "2"),
          ("/a", some .null, some "3")] ∧
      "/a" ∈ (afterSteps {} steps).subscriptions := by
  intro steps
  have hopen : .close ∉ steps := by simp [steps]
  have hdeliveries := deliveries_of_steps hopen
  constructor
  · exact hdeliveries.1.trans rfl
  · have hsubscribed : Subscribed "/a" (effective [] false 0 steps) := by decide
    have hclosed : levelFrom 0 steps = 0 := rfl
    have hwhole : steps = steps ++ [] := (List.append_nil steps).symm
    exact (hdeliveries.2 steps [] hwhole hclosed "/a").mpr hsubscribed

end Loopback
end BayeuxChat
