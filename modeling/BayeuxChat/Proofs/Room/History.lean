import BayeuxChat.Proofs.Room.Run

/-!
# Reading the history of a session

What counts in the history of a session is whether the user has left, and which events
there were for the session's listener.  Where there are personal channels, an event
that reports the loss of the connection ends the session as well, and whatever comes
after the end is not heard in it.
-/

namespace BayeuxChat

namespace MetaEvent

/-- Whether it confirms the connection of the session that hears it. -/
def confirms (e : MetaEvent) : Bool :=
  e.successful && decide (e.topic = .handshake ∨ e.topic = .connect)

/-- Whether it reports that the connection is lost. -/
def reportsLoss (e : MetaEvent) : Bool :=
  decide (e.topic = .connect) && !e.successful

/-- The last report on whether the connection is there. -/
def lastReport? (es : List MetaEvent) : Option Bool :=
  (es.filter (·.topic = .connect)).getLast?.map (·.successful)

theorem lastReport?_concat (es : List MetaEvent) (e : MetaEvent) :
    lastReport? (es ++ [e]) =
      if e.topic = .connect then some e.successful else lastReport? es := by
  by_cases htopic : e.topic = .connect
  · simp [lastReport?, htopic]
  · simp [lastReport?, htopic]

theorem lastReport?_getD_of_no_loss
    {es : List MetaEvent} (h : ∀ e ∈ es, e.reportsLoss = false) :
    (lastReport? es).getD true = true := by
  cases hlast : (es.filter (·.topic = .connect)).getLast? with
  | none => simp [lastReport?, hlast]
  | some e =>
      obtain ⟨hmem, htopic⟩ := List.mem_filter.mp (List.mem_of_getLast? hlast)
      have hkept := h e hmem
      simp only [reportsLoss, htopic, Bool.true_and, Bool.not_eq_false'] at hkept
      simp [lastReport?, hlast, hkept]

end MetaEvent

namespace Happening

variable {τ : Type}

/-- Somebody joins by it. -/
def Joins (x : Happening τ) : Prop :=
  ∃ name, x = .step (.join name) ∧ Room.checkUser name = .ok ()

/-- The event that it brings to the one who listens as `listener`. -/
def event? (listener : Listener) : Happening τ → Option MetaEvent
  | .step (.hear (.event other e)) => if other = listener then some e else none
  | _ => none

def leaves : Happening τ → Bool
  | .step .leave => true
  | _ => false

/-- Whether it ends the session of `listener`: the user leaves or, where there are
personal channels, hears that the connection is lost. -/
def ends (flavor : Flavor) (listener : Listener) (x : Happening τ) : Bool :=
  x.leaves || (flavor == .personal && (x.event? listener).any (·.reportsLoss))

/-- Whether any of it ends the session of `listener`. -/
def anyEnds (flavor : Flavor) (listener : Listener) (since : List (Happening τ)) : Bool :=
  since.any (·.ends flavor listener)

/-- Whether any of it brings an event that confirms the connection of `listener`. -/
def anyConfirms (listener : Listener) (since : List (Happening τ)) : Bool :=
  since.any fun x => (x.event? listener).any (·.confirms)

/-- The events that the session of `listener` hears, up to what ends it. -/
def heard (flavor : Flavor) (listener : Listener) : List (Happening τ) → List MetaEvent
  | [] => []
  | x :: rest =>
    (x.event? listener).toList ++
      if x.ends flavor listener then [] else heard flavor listener rest

section

variable {flavor : Flavor} {listener : Listener} {since : List (Happening τ)}

theorem anyEnds_concat (x : Happening τ) :
    anyEnds flavor listener (since ++ [x]) =
      (anyEnds flavor listener since || x.ends flavor listener) := by
  simp [anyEnds]

theorem heard_concat (x : Happening τ) :
    heard flavor listener (since ++ [x]) =
      heard flavor listener since ++
        if anyEnds flavor listener since then [] else (x.event? listener).toList := by
  induction since with
  | nil => simp [heard, anyEnds]
  | cons y rest ih =>
      by_cases hy : y.ends flavor listener
      · simp [heard, anyEnds, hy]
      · simp only [anyEnds] at ih
        simp [heard, anyEnds, hy, ih]

/-- A session that has not ended has heard every event for its listener. -/
theorem heard_of_lasting (h : anyEnds flavor listener since = false) :
    heard flavor listener since = since.filterMap (·.event? listener) := by
  induction since with
  | nil => rfl
  | cons x rest ih =>
      rw [anyEnds, List.any_cons, Bool.or_eq_false_iff] at h
      rw [heard, h.1, ih h.2, List.filterMap_cons]
      cases x.event? listener <;> rfl

theorem any_confirms_heard_of_lasting (h : anyEnds flavor listener since = false) :
    (heard flavor listener since).any (·.confirms) = anyConfirms listener since := by
  rw [heard_of_lasting h, List.any_filterMap, anyConfirms]
  rfl

/-- Where there are personal channels, no loss is heard that does not end the session. -/
theorem reportsLoss_eq_false_of_lasting
    (h : anyEnds flavor listener since = false) (hflavor : flavor = .personal)
    {e : MetaEvent} (he : e ∈ heard flavor listener since) : e.reportsLoss = false := by
  rw [heard_of_lasting h] at he
  obtain ⟨x, hx, hevent⟩ := List.mem_filterMap.mp he
  have hkept : ¬x.ends flavor listener = true := List.any_eq_false.mp h x hx
  cases hloss : e.reportsLoss with
  | false => rfl
  | true => simp [ends, hflavor, hevent, hloss] at hkept

end

end Happening

end BayeuxChat
