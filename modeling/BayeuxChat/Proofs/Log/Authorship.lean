import BayeuxChat.Proofs.Room.Rendering
import Mathlib.Data.List.Induction

/-!
# Whose line it is

In a collapsing room a line may be titled `...` in place of its sender.  This file
describes the lines of a renderer by what was said before, without the renderer's
memory: an utterance is titled `...` just when it continues the utterance before it.
From that it follows that no sender is lost, since the log alone tells what was said
and by whom.
-/

namespace BayeuxChat

/-! ## What is said -/

/-- What is rendered: an envelope, or a message in which one is looked for. -/
inductive Renderable where
  | envelope (e : Envelope)
  | message (m : Message)

/-- What an envelope with a text says, and who says it. -/
structure Utterance where
  sender : String
  text : String
  /-- Whether somebody comes or goes. -/
  announcement : Bool
  deriving DecidableEq

/-- What the envelope says, unless it has no text or an empty one. -/
def Envelope.utterance? (e : Envelope) : Option Utterance :=
  match e.text with
  | none => none
  | some text =>
    if text = "" then none
    else some { sender := e.sender, text := text, announcement := e.isAnnouncement }

/-- What is said in a collapsing room; nothing if there is no envelope in a message. -/
def Renderable.utterance? : Renderable → Option Utterance
  | .envelope e => e.utterance?
  | .message m =>
    match Envelope.ofMessage .collapsing m with
    | .error _ => none
    | .ok e => e.utterance?

namespace Utterance

/-- What is said goes on where the one before it ended: both are chat by the same
sender, who has a name. -/
def Continues (u : Utterance) (before : List Utterance) : Prop :=
  u.announcement = false ∧ u.sender ≠ "" ∧
    ∃ previous ∈ before.getLast?,
      previous.announcement = false ∧ previous.sender = u.sender

instance (u : Utterance) (before : List Utterance) : Decidable (u.Continues before) :=
  inferInstanceAs (Decidable (_ ∧ _ ∧ _))

/-- The line of an utterance that follows those in `before`. -/
def line (before : List Utterance) (u : Utterance) : Line :=
  { title := if u.Continues before then "..." else u.sender ++ ":"
    text := u.text
    alert := u.announcement }

/-- The lines of utterances, one for each, that follow those in `before`. -/
def linesAfter (before : List Utterance) : List Utterance → List Line
  | [] => []
  | u :: rest => u.line before :: linesAfter (before ++ [u]) rest

/-- Whose line may be continued next. -/
def lastSpeaker (before : List Utterance) : Option String :=
  (before.getLast?.filter fun u => !u.announcement).map (·.sender)

theorem lastSpeaker_concat (before : List Utterance) (u : Utterance) :
    lastSpeaker (before ++ [u]) = if u.announcement then none else some u.sender := by
  cases hannouncement : u.announcement with
  | true => simp [lastSpeaker, hannouncement]
  | false => simp [lastSpeaker, hannouncement]

theorem lastSpeaker_eq_some_iff (before : List Utterance) (sender : String) :
    lastSpeaker before = some sender ↔
      ∃ previous ∈ before.getLast?,
        previous.announcement = false ∧ previous.sender = sender := by
  rw [lastSpeaker, Option.map_eq_some_iff]
  constructor
  · rintro ⟨previous, hprevious, hsender⟩
    obtain ⟨hlast, hchat⟩ := Option.filter_eq_some_iff.mp hprevious
    exact ⟨previous, hlast, by simpa using hchat, hsender⟩
  · rintro ⟨previous, hlast, hchat, hsender⟩
    exact ⟨previous, Option.filter_eq_some_iff.mpr ⟨hlast, by simp [hchat]⟩, hsender⟩

/-- After the same utterances, only the same utterance has the same line. -/
theorem line_inj {before : List Utterance} {u v : Utterance} (h : u.line before = v.line before) :
    u = v := by
  obtain ⟨htitle, htext, halert⟩ := Line.mk.inj h
  have hsender : u.sender = v.sender := by
    by_cases hu : u.Continues before
    · by_cases hv : v.Continues before
      · obtain ⟨-, -, previous, hlast, -, hu⟩ := hu
        obtain ⟨-, -, other, hother, -, hv⟩ := hv
        obtain rfl := Option.mem_unique hlast hother
        exact hu.symm.trans hv
      · rw [if_pos hu, if_neg hv] at htitle
        exact absurd htitle.symm (Log.LastBy.named_ne_continued v.sender)
    · by_cases hv : v.Continues before
      · rw [if_neg hu, if_pos hv] at htitle
        exact absurd htitle (Log.LastBy.named_ne_continued u.sender)
      · rw [if_neg hu, if_neg hv] at htitle
        exact (String.append_left_inj ":").mp htitle
  obtain ⟨sender, text, announcement⟩ := u
  obtain ⟨sender', text', announcement'⟩ := v
  simp only at hsender htext halert
  rw [hsender, htext, halert]

/-- The log tells what was said and by whom. -/
theorem linesAfter_inj
    {before said other : List Utterance} (h : linesAfter before said = linesAfter before other) :
    said = other := by
  induction said generalizing before other with
  | nil =>
      cases other with
      | nil => rfl
      | cons v rest => cases h
  | cons u rest ih =>
      cases other with
      | nil => cases h
      | cons v rest' =>
          obtain ⟨hline, hrest⟩ := List.cons.inj h
          obtain rfl := line_inj hline
          rw [ih hrest]

end Utterance

/-! ## What a renderer shows -/

namespace Renderer

/-- The lines that are appended when the renderer is given something, and the renderer
after it. -/
def render (r : Renderer) : Renderable → List Line × Renderer
  | .envelope e => r.lines e
  | .message m => (r.linesOfMessage m).2

/-- The renderer after it was given one thing after the other. -/
def after (r : Renderer) (xs : List Renderable) : Renderer :=
  xs.foldl (fun r x => (r.render x).2) r

/-- All lines that are appended when the renderer is given one thing after the other. -/
def log (r : Renderer) : List Renderable → List Line
  | [] => []
  | x :: rest => (r.render x).1 ++ (r.render x).2.log rest

theorem after_concat (r : Renderer) (xs : List Renderable) (x : Renderable) :
    r.after (xs ++ [x]) = ((r.after xs).render x).2 := by
  simp [after]

/-- The renderer of a collapsing room in which all that was said is in `before`. -/
def remembering (before : List Utterance) : Renderer :=
  { flavor := .collapsing, last := Utterance.lastSpeaker before }

theorem lines_remembering_of_none
    {e : Envelope} (h : e.utterance? = none) (before : List Utterance) :
    (remembering before).lines e = ([], remembering before) := by
  have hshown : shownText e = none := by
    cases htext : e.text with
    | none => simp [shownText, htext]
    | some text =>
        have hempty : text = "" := by
          by_contra hne
          simp [Envelope.utterance?, htext, hne] at h
        simp [shownText, htext, hempty, Option.filter_some]
  simp [lines, line, remembering, collapsingLine, hshown]

theorem lines_remembering_of_some
    {e : Envelope} {u : Utterance} (h : e.utterance? = some u) (before : List Utterance) :
    (remembering before).lines e = ([u.line before], remembering (before ++ [u])) := by
  cases htext : e.text with
  | none => simp [Envelope.utterance?, htext] at h
  | some text =>
      by_cases hempty : text = ""
      · simp [Envelope.utterance?, htext, hempty] at h
      · have hu : u =
            { sender := e.sender, text := text, announcement := e.isAnnouncement } := by
          simpa [Envelope.utterance?, htext, hempty] using h.symm
        have hcontinues :
            (remembering before).continues e = true ↔ u.Continues before := by
          simp [continues, remembering, Utterance.lastSpeaker_eq_some_iff, hu,
            Utterance.Continues, and_assoc]
        have hline : u.line before =
            { title := if (remembering before).continues e then sameSender
                else title e.sender none
              text := text
              alert := e.isAnnouncement } := by
          by_cases hsame : u.Continues before
          · rw [Utterance.line, if_pos hsame, if_pos (hcontinues.mpr hsame), hu, sameSender]
          · rw [Utterance.line, if_neg hsame, if_neg (mt hcontinues.mp hsame), hu]
            rfl
        have hmemory : remembering (before ++ [u]) =
            { remembering before with
              last := if e.isAnnouncement then none else some e.sender } := by
          rw [remembering, Utterance.lastSpeaker_concat, hu]
          rfl
        rw [hline, hmemory]
        exact lines_of_collapsing rfl (shownText_eq htext hempty)

/-- Rendering depends on nothing but what was said before, and shows a line just for
what is said. -/
theorem render_remembering (before : List Utterance) (x : Renderable) :
    (remembering before).render x =
      (x.utterance?.toList.map (Utterance.line before),
        remembering (before ++ x.utterance?.toList)) := by
  have henvelope : ∀ e : Envelope, (remembering before).lines e =
      (e.utterance?.toList.map (Utterance.line before),
        remembering (before ++ e.utterance?.toList)) := by
    intro e
    cases hu : e.utterance? with
    | none =>
        rw [lines_remembering_of_none hu]
        simp
    | some u => exact lines_remembering_of_some hu before
  cases x with
  | envelope e => exact henvelope e
  | message m =>
      cases hread : Envelope.ofMessage .collapsing m with
      | error fault =>
          have hflavor : Envelope.ofMessage (remembering before).flavor m = .error fault := hread
          simp [render, linesOfMessage, hflavor, Renderable.utterance?, hread]
      | ok e =>
          have hflavor : Envelope.ofMessage (remembering before).flavor m = .ok e := hread
          simp [render, linesOfMessage, hflavor, Renderable.utterance?, hread, henvelope]

theorem after_remembering (before : List Utterance) (xs : List Renderable) :
    (remembering before).after xs =
      remembering (before ++ xs.filterMap Renderable.utterance?) := by
  induction xs using List.reverseRecOn with
  | nil => simp [after]
  | append_singleton xs x ih =>
      rw [after_concat, ih, render_remembering]
      have hsaid : (xs ++ [x]).filterMap Renderable.utterance? =
          xs.filterMap Renderable.utterance? ++ x.utterance?.toList := by
        cases hu : x.utterance? with
        | none => simp [hu]
        | some u => simp [hu]
      rw [hsaid, List.append_assoc]

theorem log_remembering (before : List Utterance) (xs : List Renderable) :
    (remembering before).log xs =
      Utterance.linesAfter before (xs.filterMap Renderable.utterance?) := by
  induction xs generalizing before with
  | nil => rfl
  | cons x rest ih =>
      rw [log, render_remembering, ih]
      cases hu : x.utterance? with
      | none => simp [hu]
      | some u => simp [hu, Utterance.linesAfter]

/-- Whatever a new renderer of a collapsing room is given, what says nothing appends no
line and leaves all other lines as they would be without it.  What says something
appends exactly one line, which carries the text, is highlighted just for an
announcement, and is titled `...` just when what is said continues what was said last,
and otherwise with the sender.  Two logs are equal only if the same was said by the
same senders. -/
theorem collapsing_log (xs : List Renderable) :
    let fresh : Renderer := { flavor := .collapsing }
    (∀ before x later, xs = before ++ x :: later →
      let appended := ((fresh.after before).render x).1
      let said := before.filterMap Renderable.utterance?
      (x.utterance? = none → appended = [] ∧ fresh.log xs = fresh.log (before ++ later)) ∧
        ∀ u, x.utterance? = some u →
          ∃ line, appended = [line] ∧ line.text = u.text ∧ line.alert = u.announcement ∧
            (line.title = "..." ↔ u.Continues said) ∧
            (¬u.Continues said → line.title = u.sender ++ ":")) ∧
      ∀ ys, fresh.log xs = fresh.log ys →
        xs.filterMap Renderable.utterance? = ys.filterMap Renderable.utterance? := by
  intro fresh
  have hfresh : fresh = remembering [] := rfl
  constructor
  · intro before x later hxs appended said
    have happended : appended = x.utterance?.toList.map (Utterance.line said) := by
      simp only [appended, said, hfresh, after_remembering, render_remembering,
        List.nil_append]
    constructor
    · intro hsilent
      constructor
      · rw [happended, hsilent]
        rfl
      · rw [hxs, hfresh, log_remembering, log_remembering]
        simp [hsilent]
    · intro u hu
      refine ⟨u.line said, ?_, rfl, rfl, ?_, ?_⟩
      · rw [happended, hu]
        rfl
      · by_cases hcontinues : u.Continues said
        · simp [Utterance.line, hcontinues]
        · simp [Utterance.line, hcontinues, Log.LastBy.named_ne_continued]
      · intro hcontinues
        rw [Utterance.line, if_neg hcontinues]
  · intro ys hlog
    rw [hfresh, log_remembering, log_remembering] at hlog
    exact Utterance.linesAfter_inj hlog

end Renderer
end BayeuxChat
