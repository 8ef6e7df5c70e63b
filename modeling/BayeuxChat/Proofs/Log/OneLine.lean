import BayeuxChat.Proofs.Room.Rendering
import BayeuxChat.Proofs.Text.HexNumeral
import BayeuxChat.Text.Quoted

/-!
# Texts that stay on one line

A text without a line feed stays on the line on which it is printed.  Whatever is put
together from such texts is such a text again, and so the line of an envelope is one line
if the texts in the envelope are.
-/

namespace BayeuxChat

/-! ## Texts -/

namespace Text

/-- The text has no line feed in it. -/
def OneLine (s : String) : Prop :=
  '\n' ∉ s.toList

theorem OneLine.append {s t : String} (hs : OneLine s) (ht : OneLine t) : OneLine (s ++ t) := by
  rw [OneLine, String.toList_append, List.mem_append]
  exact not_or.mpr ⟨hs, ht⟩

theorem oneLine_empty : OneLine "" := by
  simp [OneLine]

theorem oneLine_quote (s : String) : OneLine (quote s) := by
  rw [OneLine, quote, String.toList_ofList]
  exact newline_notMem_quoted s.toList

theorem oneLine_paddedHex {width : Nat} (hwidth : 0 < width) (n : Nat) :
    OneLine (paddedHex width n) := by
  intro hmem
  have hdigit := (isPaddedHex_paddedHex hwidth n).lowerCase _ hmem
  simp at hdigit

end Text

open Text (OneLine)

/-! ## Envelopes and their lines -/

/-- The texts that make up an envelope. -/
def Envelope.texts : Envelope → List String
  | .join user text => user :: text.toList
  | .leave user text => user :: text.toList
  | .chat sender text addressee => sender :: (text.toList ++ addressee.toList)

theorem Envelope.sender_mem_texts (envelope : Envelope) : envelope.sender ∈ envelope.texts := by
  cases envelope <;> exact List.mem_cons_self

theorem Envelope.mem_texts_of_text
    {envelope : Envelope} {text : String} (h : envelope.text = some text) :
    text ∈ envelope.texts := by
  cases envelope <;> simp_all [Envelope.text, Envelope.texts]

namespace Renderer

theorem mem_texts_of_shownText
    {envelope : Envelope} {text : String} (h : shownText envelope = some text) :
    text ∈ envelope.texts :=
  envelope.mem_texts_of_text (Option.filter_eq_some_iff.mp h).1

theorem oneLine_title
    {sender : String} {addressee : Option String} (hsender : OneLine sender)
    (haddressee : ∀ user ∈ addressee, OneLine user) : OneLine (title sender addressee) := by
  rw [title]
  split
  · next user huser =>
    have huser := haddressee user (Option.filter_eq_some_iff.mp huser).1
    exact ((hsender.append (by simp [OneLine])).append huser).append (by simp [OneLine])
  · exact hsender.append (by simp [OneLine])

end Renderer

theorem Line.oneLine_printed
    {l : Line} (htitle : OneLine l.title) (htext : OneLine l.text) : OneLine l.printed := by
  rw [printed]
  refine ((OneLine.append ?_ htitle).append ?_).append htext
  · split
    · simp [OneLine]
    · simp [OneLine]
  · simp [OneLine]

namespace Renderer

theorem oneLine_personalLine
    {envelope : Envelope} (h : ∀ text ∈ envelope.texts, OneLine text) :
    ∀ l ∈ personalLine envelope, OneLine l.printed := by
  intro l hl
  have hsender := h _ envelope.sender_mem_texts
  cases envelope with
  | join user text =>
      obtain rfl := Option.some.inj hl
      exact Line.oneLine_printed (oneLine_title hsender (by simp))
        (OneLine.append hsender (by simp [OneLine]))
  | leave user text =>
      obtain rfl := Option.some.inj hl
      exact Line.oneLine_printed (oneLine_title hsender (by simp))
        (OneLine.append hsender (by simp [OneLine]))
  | chat sender text addressee =>
      obtain ⟨shown, hshown, rfl⟩ := Option.map_eq_some_iff.mp hl
      refine Line.oneLine_printed (oneLine_title hsender ?_) (h _ (mem_texts_of_shownText hshown))
      intro user huser
      exact h user (by simp [Envelope.texts, Option.mem_def.mp huser])

/-- An envelope of texts on one line makes no line that is more than one. -/
theorem oneLine_of_mem_lines
    {envelope : Envelope} (h : ∀ text ∈ envelope.texts, OneLine text) (r : Renderer) :
    ∀ l ∈ (r.lines envelope).1, OneLine l.printed := by
  intro l hl
  cases hflavor : r.flavor with
  | personal =>
      rw [lines_of_personal hflavor, Option.mem_toList] at hl
      exact oneLine_personalLine h l hl
  | collapsing =>
      cases hshown : shownText envelope with
      | none =>
          rw [lines_of_wordless hflavor hshown] at hl
          cases hl
      | some text =>
          rw [lines_of_collapsing hflavor hshown, List.mem_singleton] at hl
          rw [hl]
          refine Line.oneLine_printed ?_ (h _ (mem_texts_of_shownText hshown))
          simp only
          split
          · simp [OneLine, sameSender]
          · exact oneLine_title (h _ envelope.sender_mem_texts) (by simp)

end Renderer
end BayeuxChat
