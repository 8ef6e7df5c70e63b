import BayeuxChat.Proofs.Loopback.Consistency

/-!
# What listeners are told

From the history of the steps alone it can be seen who listens, and when a handshake is
owed to the first who does.  A listener is told of every handshake and of every loss of
the connection, from the step on by which it began to listen and up to its release, and
of nothing else; and the handshakes of a run are numbered from one without a gap.
-/

namespace BayeuxChat

namespace LoopbackStep

/-! ## Who listens, by the history -/

/-- How often somebody has begun to listen. -/
def listens (past : List LoopbackStep) : Nat :=
  past.countP isListen

/-- Whether there is a connection after some steps. -/
def connectedFrom (connected : Bool) (past : List LoopbackStep) : Bool :=
  past.foldl connectedAfter connected

/-- The listener has begun to listen, under the next number, and was not released
since. -/
def Listening (past : List LoopbackStep) (listener : Listener) : Prop :=
  ∃ before since, past = before ++ .listen :: since ∧ listener = ⟨listens before⟩ ∧
    .unlisten listener ∉ since

theorem listens_concat (past : List LoopbackStep) (step : LoopbackStep) :
    listens (past ++ [step]) = listens past + (if step.isListen then 1 else 0) := by
  simp [listens, List.countP_append, List.countP_singleton]

theorem listens_lt (before since : List LoopbackStep) :
    listens before < listens (before ++ .listen :: since) := by
  simp only [listens, List.countP_append, List.countP_cons, isListen, if_true]
  omega

/-- Two beginnings in one history that take the same number are the same. -/
theorem since_eq_of_listens_eq
    {before since before' since' : List LoopbackStep}
    (hpast : before ++ .listen :: since = before' ++ .listen :: since')
    (hlistens : listens before = listens before') : since = since' := by
  rcases List.append_eq_append_iff.mp hpast with
    ⟨between, hbefore, hsince⟩ | ⟨between, hbefore, hsince⟩
  · cases between with
    | nil => exact (List.cons.inj hsince).2
    | cons first between =>
        obtain ⟨rfl, -⟩ := List.cons.inj hsince
        have hlt := listens_lt before between
        rw [← hbefore, hlistens] at hlt
        exact absurd hlt (Nat.lt_irrefl _)
  · cases between with
    | nil => exact (List.cons.inj hsince).2.symm
    | cons first between =>
        obtain ⟨rfl, -⟩ := List.cons.inj hsince
        have hlt := listens_lt before' between
        rw [← hbefore, hlistens] at hlt
        exact absurd hlt (Nat.lt_irrefl _)

theorem listening_concat_iff
    (past : List LoopbackStep) (step : LoopbackStep) (listener : Listener) :
    Listening (past ++ [step]) listener ↔
      (step = .listen ∧ listener = ⟨listens past⟩) ∨
        (Listening past listener ∧ step ≠ .unlisten listener) := by
  constructor
  · rintro ⟨before, since, hpast, hnumber, hkept⟩
    rcases List.eq_nil_or_concat' since with rfl | ⟨since, last, rfl⟩
    · obtain ⟨rfl, rfl⟩ := List.append_singleton_inj.mp hpast
      exact .inl ⟨rfl, hnumber⟩
    · rw [← List.cons_append, ← List.append_assoc] at hpast
      obtain ⟨rfl, rfl⟩ := List.append_singleton_inj.mp hpast
      rw [List.mem_append, not_or, List.mem_singleton] at hkept
      exact .inr ⟨⟨before, since, rfl, hnumber, hkept.1⟩, fun heq => hkept.2 heq.symm⟩
  · rintro (⟨rfl, rfl⟩ | ⟨⟨before, since, rfl, hnumber, hkept⟩, hstep⟩)
    · exact ⟨past, [], rfl, rfl, by simp⟩
    · refine ⟨before, since ++ [step], by simp, hnumber, ?_⟩
      rw [List.mem_append, not_or, List.mem_singleton]
      exact ⟨hkept, fun heq => hstep heq.symm⟩

/-- Until it begins to listen, nobody does under its number. -/
theorem not_listening_of_prefix
    {before inner : List LoopbackStep} (hinner : inner <+: before) :
    ¬Listening inner ⟨listens before⟩ := by
  rintro ⟨earlier, since, rfl, hnumber, -⟩
  have hlt := listens_lt earlier since
  have hle : listens (earlier ++ .listen :: since) ≤ listens before :=
    hinner.sublist.countP_le
  have heq : listens before = listens earlier := congrArg Listener.number hnumber
  omega

theorem listening_of_kept
    (before : List LoopbackStep) {since : List LoopbackStep}
    (hkept : .unlisten ⟨listens before⟩ ∉ since) :
    Listening (before ++ .listen :: since) ⟨listens before⟩ :=
  ⟨before, since, rfl, rfl, hkept⟩

/-- Whoever is released never listens again. -/
theorem not_listening_of_released
    {before since : List LoopbackStep} (hreleased : .unlisten ⟨listens before⟩ ∈ since) :
    ¬Listening (before ++ .listen :: since) ⟨listens before⟩ := by
  rintro ⟨before', since', hpast, hnumber, hkept⟩
  have hlistens : listens before = listens before' := congrArg Listener.number hnumber
  rw [since_eq_of_listens_eq hpast hlistens] at hreleased
  exact hkept hreleased

end LoopbackStep

namespace Loopback

open LoopbackStep

/-! ## The loopback follows the history -/

theorem nextListener_afterSteps (past : List LoopbackStep) :
    (afterSteps {} past).nextListener = listens past := by
  induction past using List.reverseRecOn with
  | nil => rfl
  | append_singleton past step ih =>
      rw [afterSteps_concat, nextListener_step, listens_concat, ih]

theorem connected_afterSteps (past : List LoopbackStep) :
    (afterSteps {} past).connected = connectedFrom false past := by
  induction past using List.reverseRecOn with
  | nil => rfl
  | append_singleton past step ih =>
      rw [afterSteps_concat, (connection_step _ step).1, ih]
      simp [connectedFrom]

theorem mem_listeners_afterSteps_iff (past : List LoopbackStep) (listener : Listener) :
    listener ∈ (afterSteps {} past).listeners ↔ Listening past listener := by
  induction past using List.reverseRecOn with
  | nil => simp [afterSteps, Listening]
  | append_singleton past step ih =>
      rw [afterSteps_concat, mem_listeners_step_iff, listening_concat_iff, ih,
        nextListener_afterSteps]

theorem nodup_listeners_afterSteps (past : List LoopbackStep) :
    (afterSteps {} past).listeners.Nodup := by
  induction past using List.reverseRecOn with
  | nil => exact List.nodup_nil
  | append_singleton past step ih =>
      rw [afterSteps_concat, listeners_step]
      cases step with
      | listen =>
          have hnew : ∀ other ∈ (afterSteps {} past).listeners,
              other ≠ ⟨(afterSteps {} past).nextListener⟩ := by
            rintro other hother rfl
            exact Nat.lt_irrefl _ ((consistent_afterSteps past).numbered _ hother)
          exact List.nodup_append.mpr ⟨ih, by simp, by simpa using hnew⟩
      | unlisten listener => exact ih.filter _
      | _ => exact ih

theorem step_listen_fst (past : List LoopbackStep) :
    ((afterSteps {} past).step .listen).1 = some ⟨listens past⟩ := by
  rw [← nextListener_afterSteps]
  rfl

/-! ## Handshakes, by the history -/

/-- The step performs a handshake when it follows what is past: the loopback counts one
more. -/
def Performs (past : List LoopbackStep) (step : LoopbackStep) : Prop :=
  (afterSteps {} past).handshakes < (afterSteps {} (past ++ [step])).handshakes

instance (past : List LoopbackStep) (step : LoopbackStep) : Decidable (Performs past step) :=
  inferInstanceAs (Decidable (_ < _))

/-- How many of some steps perform a handshake; `past` is what came before them. -/
def performed (past : List LoopbackStep) : List LoopbackStep → Nat
  | [] => 0
  | step :: rest => (if Performs past step then 1 else 0) + performed (past ++ [step]) rest

/-- A connection was made while nobody listened, and since then there was no other, no
end of it and no handshake. -/
def Owed (past : List LoopbackStep) : Prop :=
  ∃ before address since, past = before ++ .connect address :: since ∧
    (∀ listener, ¬Listening before listener) ∧
    ∀ inner step later, since = inner ++ step :: later →
      (∀ other, step ≠ .connect other) ∧ step ≠ .disconnect ∧
        ¬Performs (before ++ .connect address :: inner) step

theorem performs_iff (past : List LoopbackStep) (step : LoopbackStep) :
    Performs past step ↔ (afterSteps {} past).performs step = true := by
  rw [Performs, afterSteps_concat, handshakes_step]
  cases (afterSteps {} past).performs step <;> simp

theorem performed_concat (past steps : List LoopbackStep) (step : LoopbackStep) :
    performed past (steps ++ [step]) =
      performed past steps + (if Performs (past ++ steps) step then 1 else 0) := by
  induction steps generalizing past with
  | nil => simp [performed]
  | cons first steps ih => simp [performed, ih, Nat.add_assoc]

theorem handshakes_afterSteps (past : List LoopbackStep) :
    (afterSteps {} past).handshakes = performed [] past := by
  induction past using List.reverseRecOn with
  | nil => rfl
  | append_singleton past step ih =>
      rw [afterSteps_concat, handshakes_step, performed_concat, ih, List.nil_append]
      simp only [performs_iff]

theorem owed_concat_iff (past : List LoopbackStep) (step : LoopbackStep) :
    Owed (past ++ [step]) ↔
      ((∃ address, step = .connect address) ∧ ∀ listener, ¬Listening past listener) ∨
        (Owed past ∧ (∀ other, step ≠ .connect other) ∧ step ≠ .disconnect ∧
          ¬Performs past step) := by
  constructor
  · rintro ⟨before, address, since, hpast, hnobody, hsince⟩
    rcases List.eq_nil_or_concat' since with rfl | ⟨since, last, rfl⟩
    · obtain ⟨rfl, rfl⟩ := List.append_singleton_inj.mp hpast
      exact .inl ⟨⟨address, rfl⟩, hnobody⟩
    · rw [← List.cons_append, ← List.append_assoc] at hpast
      obtain ⟨rfl, rfl⟩ := List.append_singleton_inj.mp hpast
      refine .inr ⟨⟨before, address, since, rfl, hnobody, ?_⟩, hsince since step [] rfl⟩
      rintro inner other later rfl
      exact hsince inner other (later ++ [step]) (by simp)
  · rintro (⟨⟨address, rfl⟩, hnobody⟩ | ⟨⟨before, address, since, rfl, hnobody, hsince⟩, hstep⟩)
    · exact ⟨past, address, [], rfl, hnobody, by simp⟩
    · refine ⟨before, address, since ++ [step], by simp, hnobody, ?_⟩
      intro inner other later heq
      rcases List.eq_nil_or_concat' later with rfl | ⟨later, last, rfl⟩
      · obtain ⟨rfl, rfl⟩ := List.append_singleton_inj.mp heq
        exact hstep
      · rw [← List.cons_append, ← List.append_assoc] at heq
        obtain ⟨rfl, -⟩ := List.append_singleton_inj.mp heq
        exact hsince inner other later rfl

theorem listeners_afterSteps_eq_nil_iff (past : List LoopbackStep) :
    (afterSteps {} past).listeners = [] ↔ ∀ listener, ¬Listening past listener := by
  simp only [List.eq_nil_iff_forall_not_mem, mem_listeners_afterSteps_iff]

theorem handshakeDue_afterSteps_iff (past : List LoopbackStep) :
    (afterSteps {} past).handshakeDue = true ↔ Owed past := by
  induction past using List.reverseRecOn with
  | nil => simp [afterSteps, Owed]
  | append_singleton past step ih =>
      rw [afterSteps_concat, owed_concat_iff, ← ih, ← listeners_afterSteps_eq_nil_iff,
        performs_iff, handshakeDue_step]
      cases step <;> simp

/-- The occasions of handshakes. -/
theorem performs_iff_occasion (past : List LoopbackStep) (step : LoopbackStep) :
    Performs past step ↔
      ((∃ address, step = .connect address) ∧ ∃ listener, Listening past listener) ∨
        (step = .listen ∧ connectedFrom false past = true ∧ Owed past) ∨
        (step = .forget ∧ connectedFrom false past = true) := by
  have hsomebody : (∃ listener, Listening past listener) ↔
      (afterSteps {} past).listeners ≠ [] := by
    rw [ne_eq, listeners_afterSteps_eq_nil_iff]
    simp
  rw [performs_iff, hsomebody, ← handshakeDue_afterSteps_iff, ← connected_afterSteps]
  cases step with
  | listen => simp [performs, and_comm]
  | _ => simp [performs]

/-! ## What is told, by the history -/

/-- What some steps have to tell those who listen; `past` is what came before them. -/
def tidings (past : List LoopbackStep) : List LoopbackStep → List Tiding
  | [] => []
  | step :: rest =>
    (if Performs past step then [.welcome (performed [] past + 1)]
      else if step.isStall then [.loss]
      else []) ++ tidings (past ++ [step]) rest

theorem tidings_singleton (past : List LoopbackStep) (step : LoopbackStep) :
    tidings past [step] = ((afterSteps {} past).tiding? step).toList := by
  rw [tidings, tidings, List.append_nil, tiding?, handshakes_afterSteps]
  simp only [performs_iff]
  split
  · rfl
  · split <;> rfl

theorem tidings_concat (past steps : List LoopbackStep) (step : LoopbackStep) :
    tidings past (steps ++ [step]) = tidings past steps ++ tidings (past ++ steps) [step] := by
  induction steps generalizing past with
  | nil => simp [tidings]
  | cons first steps ih => simp [tidings, ih]

theorem heardBy_concat
    (past : List LoopbackStep) {step : LoopbackStep} (hopen : step ≠ .close)
    (listener : Listener) :
    (Listening (past ++ [step]) listener →
        (afterSteps {} (past ++ [step])).heardBy listener =
          ((afterSteps {} past).heardBy listener).map
            (· ++ (tidings past [step]).flatMap Tiding.events)) ∧
      (¬Listening (past ++ [step]) listener →
        (afterSteps {} (past ++ [step])).heardBy listener =
          (afterSteps {} past).heardBy listener) := by
  have hstep := heardBy_step
    (by rw [← afterSteps_concat]; exact nodup_listeners_afterSteps (past ++ [step]))
    hopen listener
  rw [← afterSteps_concat, ← tidings_singleton] at hstep
  rw [← mem_listeners_afterSteps_iff]
  constructor
  · intro hmem
    rw [hstep, if_pos hmem]
  · intro hmem
    rw [hstep, if_neg hmem]
    simp

/-- Whoever listens all along is told all. -/
theorem heardBy_of_listening
    {past more : List LoopbackStep} (hopen : .close ∉ more) {listener : Listener}
    (hlistening : ∀ inner, inner <+: more → inner ≠ [] → Listening (past ++ inner) listener) :
    (afterSteps {} (past ++ more)).heardBy listener =
      ((afterSteps {} past).heardBy listener).map
        (· ++ (tidings past more).flatMap Tiding.events) := by
  induction more using List.reverseRecOn with
  | nil => simp [tidings]
  | append_singleton more step ih =>
      rw [List.mem_append, not_or, List.mem_singleton] at hopen
      have hlast := hlistening (more ++ [step]) (List.prefix_refl _) (by simp)
      rw [← List.append_assoc] at hlast ⊢
      have hmore := ih hopen.1 fun inner hinner =>
        hlistening inner (hinner.trans (List.prefix_append more [step]))
      rw [(heardBy_concat (past ++ more) (Ne.symm hopen.2) listener).1 hlast, hmore,
        tidings_concat]
      simp [Function.comp_def]

/-- Whoever does not listen at any time is told nothing. -/
theorem heardBy_of_not_listening
    {past more : List LoopbackStep} (hopen : .close ∉ more) {listener : Listener}
    (hnot : ∀ inner, inner <+: more → inner ≠ [] → ¬Listening (past ++ inner) listener) :
    (afterSteps {} (past ++ more)).heardBy listener =
      (afterSteps {} past).heardBy listener := by
  induction more using List.reverseRecOn with
  | nil => simp
  | append_singleton more step ih =>
      rw [List.mem_append, not_or, List.mem_singleton] at hopen
      have hlast := hnot (more ++ [step]) (List.prefix_refl _) (by simp)
      rw [← List.append_assoc] at hlast ⊢
      have hmore := ih hopen.1 fun inner hinner =>
        hnot inner (hinner.trans (List.prefix_append more [step]))
      rw [(heardBy_concat (past ++ more) (Ne.symm hopen.2) listener).2 hlast, hmore]

/-- Before it begins to listen, nobody is told anything under its number. -/
theorem heardBy_before
    {before : List LoopbackStep} (hopen : .close ∉ before) :
    (afterSteps {} before).heardBy ⟨listens before⟩ = some [] := by
  have hnot : ∀ inner, inner <+: before → inner ≠ [] →
      ¬Listening ([] ++ inner) ⟨listens before⟩ :=
    fun inner hinner _ => not_listening_of_prefix hinner
  exact heardBy_of_not_listening hopen hnot

theorem heardBy_during
    {before during : List LoopbackStep} (hbefore : .close ∉ before) (hduring : .close ∉ during)
    (hkept : .unlisten ⟨listens before⟩ ∉ during) :
    (afterSteps {} (before ++ .listen :: during)).heardBy ⟨listens before⟩ =
      some ((tidings before (.listen :: during)).flatMap Tiding.events) := by
  have hopen : .close ∉ .listen :: during := by simpa using hduring
  rw [heardBy_of_listening hopen, heardBy_before hbefore]
  · rfl
  · intro inner hinner hne
    obtain ⟨first, since, rfl⟩ := List.exists_cons_of_ne_nil hne
    obtain ⟨rfl, hsince⟩ := List.cons_prefix_cons.mp hinner
    exact listening_of_kept before fun hmem => hkept (hsince.subset hmem)

theorem heardBy_after
    (before during : List LoopbackStep) {after : List LoopbackStep} (hopen : .close ∉ after)
    (hreleased : after = [] ∨ ∃ rest, after = .unlisten ⟨listens before⟩ :: rest) :
    (afterSteps {} (before ++ .listen :: during ++ after)).heardBy ⟨listens before⟩ =
      (afterSteps {} (before ++ .listen :: during)).heardBy ⟨listens before⟩ := by
  apply heardBy_of_not_listening hopen
  intro inner hinner hne
  rcases hreleased with rfl | ⟨rest, rfl⟩
  · exact absurd (List.prefix_nil.mp hinner) hne
  · obtain ⟨first, since, rfl⟩ := List.exists_cons_of_ne_nil hne
    obtain ⟨rfl, -⟩ := List.cons_prefix_cons.mp hinner
    rw [List.append_assoc, List.cons_append]
    exact not_listening_of_released (by simp)

/-- In a run without the closing of the mailbox, no two listeners get the same number.  A
listener is told nothing before the step by which it begins to listen and nothing from its
first release on; in between it is told, in order, of each handshake by the identity that
it gave and directly behind it the answer, and of each connect request that was left
unanswered.  Handshakes are performed on just these occasions: a connection while somebody
listens, a new listener while there is a connection whose handshake is owed, and the
demand for one while there is a connection.  Each gives the client the identity of its own
number among the handshakes of the run, which is the lower-case hexadecimal numeral of
that number in at least eight places, so no two give the same. -/
theorem tidings_of_steps {steps : List LoopbackStep} (hopen : .close ∉ steps) :
    (∀ before between after, steps = before ++ .listen :: between ++ .listen :: after →
        ((afterSteps {} before).step .listen).1 ≠
          ((afterSteps {} (before ++ .listen :: between)).step .listen).1) ∧
      (∀ before during after listener, steps = before ++ .listen :: during ++ after →
        ((afterSteps {} before).step .listen).1 = some listener →
        .unlisten listener ∉ during →
        (after = [] ∨ ∃ rest, after = .unlisten listener :: rest) →
          (afterSteps {} before).heardBy listener = some [] ∧
            (afterSteps {} (before ++ .listen :: during)).heardBy listener =
              some ((tidings before (.listen :: during)).flatMap Tiding.events) ∧
            (afterSteps {} steps).heardBy listener =
              (afterSteps {} (before ++ .listen :: during)).heardBy listener) ∧
      (∀ past step rest, steps = past ++ step :: rest →
        (Performs past step ↔
          ((∃ address, step = .connect address) ∧ ∃ listener, Listening past listener) ∨
            (step = .listen ∧ connectedFrom false past = true ∧ Owed past) ∨
            (step = .forget ∧ connectedFrom false past = true)) ∧
          (Performs past step →
            (afterSteps {} (past ++ [step])).clientId =
              some (identity (performed [] past + 1)))) ∧
      (∀ number, Text.IsPaddedHex 8 number (identity number)) ∧
      ∀ number number', identity number = identity number' → number = number' := by
  refine ⟨?_, ?_, ?_, Text.isPaddedHex_paddedHex (by decide), fun _ _ => Text.paddedHex_inj⟩
  · intro before between after _
    rw [step_listen_fst, step_listen_fst]
    intro heq
    have hnumber : listens before = listens (before ++ .listen :: between) :=
      congrArg Listener.number (Option.some.inj heq)
    exact absurd (hnumber ▸ listens_lt before between) (Nat.lt_irrefl _)
  · intro before during after listener hsteps hlistener hkept hreleased
    rw [step_listen_fst] at hlistener
    obtain rfl := Option.some.inj hlistener
    rw [hsteps, List.mem_append, not_or, List.mem_append, not_or, List.mem_cons, not_or] at hopen
    obtain ⟨⟨hbefore, -, hduring⟩, hafter⟩ := hopen
    rw [hsteps]
    exact ⟨heardBy_before hbefore, heardBy_during hbefore hduring hkept,
      heardBy_after before during hafter hreleased⟩
  · intro past step rest _
    refine ⟨performs_iff_occasion past step, ?_⟩
    intro hperforms
    rw [afterSteps_concat, clientId_of_performs ((performs_iff past step).mp hperforms),
      handshakes_afterSteps]

/-- The first listener finds a handshake owed, and is told of a loss and of the two
handshakes that follow, the last of which a second listener hears as well.  What comes
after its release is told to the second alone. -/
theorem tidings_of_two_listeners :
    let during : List LoopbackStep :=
      [.stall, .forget, .listen, .connect "/u", .unlisten ⟨5⟩]
    let after : List LoopbackStep := [.unlisten ⟨0⟩, .stall, .disconnect, .forget, .stall]
    let steps : List LoopbackStep := [.connect "/u"] ++ .listen :: during ++ after
    .close ∉ steps ∧
      (afterSteps {} steps).heardBy ⟨0⟩ = some
        [.welcomed "00000001", .answered, .unanswered, .welcomed "00000002", .answered,
          .welcomed "00000003", .answered] ∧
      Performs ([.connect "/u"] ++ [.listen, .stall]) .forget := by
  intro during after steps
  have hopen : .close ∉ steps := by simp [steps, during, after]
  obtain ⟨-, htold, hperforms, -⟩ := tidings_of_steps hopen
  refine ⟨hopen, ?_, ?_⟩
  · obtain ⟨-, hduring, hafter⟩ := htold [.connect "/u"] during after ⟨0⟩ rfl rfl
      (by simp [during]) (.inr ⟨_, rfl⟩)
    rw [hafter, hduring]
    rfl
  · have hforget := hperforms ([.connect "/u"] ++ [.listen, .stall]) .forget
      ([.listen, .connect "/u", .unlisten ⟨5⟩] ++ after) rfl
    exact hforget.1.mpr (.inr (.inr ⟨rfl, rfl⟩))

end Loopback
end BayeuxChat
