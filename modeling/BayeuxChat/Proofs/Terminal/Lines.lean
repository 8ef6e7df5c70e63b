import BayeuxChat.Proofs.Terminal.Serving
import BayeuxChat.Proofs.Text.Encoding
import BayeuxChat.Proofs.Text.Trimming

/-!
# Line ends

A line may end with a line feed or with a carriage return and a line feed.  The reader
takes away one of these ends and the parser of commands takes away all that is left of
any, so that it does not matter which of them an input uses.
-/

namespace BayeuxChat

namespace Command

/-- What a line asks for does not depend on the line ends behind it. -/
theorem ofLine_congr
    {line line' : String}
    (h : Text.dropEndWhile isLineEnd line.toList = Text.dropEndWhile isLineEnd line'.toList) :
    ofLine line = ofLine line' := by
  rw [ofLine, ofLine, h]

theorem ofLine_append
    {ending : String} (h : ∀ c ∈ ending.toList, isLineEnd c = true) (line : String) :
    ofLine (line ++ ending) = ofLine line := by
  apply ofLine_congr
  rw [String.toList_append, Text.dropEndWhile_append h]

end Command

/-! ## Decoded lines -/

namespace InputLine

theorem ofBytes_eq_text_iff {bytes : List UInt8} {line : String} :
    ofBytes bytes = .text line ↔ line.toList.flatMap String.utf8EncodeChar = bytes := by
  rw [← Text.fromUTF8?_eq_some_iff, ofBytes]
  split
  · next decoded hdecoded => simp [hdecoded]
  · next hnone => simp [hnone]

theorem ofBytes_cases (bytes : List UInt8) :
    (∃ line, ofBytes bytes = .text line) ∨ ofBytes bytes = .undecodable := by
  rw [ofBytes]
  split
  · exact .inl ⟨_, rfl⟩
  · exact .inr rfl

/-- A carriage return at the end of a line does not change what it asks for. -/
theorem command?_ofBytes_concat (bytes : List UInt8) :
    (ofBytes (bytes ++ [carriageReturn])).command? = (ofBytes bytes).command? := by
  have hreturn : ('\r' : Char).toNat ≤ 127 := by decide
  have hending : ∀ c ∈ "\r".toList, Command.isLineEnd c = true := by simp [Command.isLineEnd]
  rcases ofBytes_cases bytes with ⟨line, hline⟩ | hnone
  · have hbytes : ofBytes (bytes ++ [carriageReturn]) = .text (line ++ "\r") := by
      rw [ofBytes_eq_text_iff, String.toList_append]
      rw [ofBytes_eq_text_iff] at hline
      rw [← hline]
      exact Text.flatMap_utf8EncodeChar_concat hreturn line.toList
    rw [hbytes, hline, command?, command?, Command.ofLine_append hending]
  · rcases ofBytes_cases (bytes ++ [carriageReturn]) with ⟨line, hline⟩ | hnone'
    · -- Without its carriage return the line could be decoded as well.
      rw [ofBytes_eq_text_iff] at hline
      obtain ⟨before, -, hbefore⟩ :=
        Text.exists_concat_of_flatMap_utf8EncodeChar hreturn hline
      have htext : ofBytes bytes = .text (String.ofList before) := by
        rw [ofBytes_eq_text_iff, String.toList_ofList]
        exact hbefore
      cases hnone.symm.trans htext
    · rw [hnone, hnone']

theorem command?_ofBytes_withoutReturn (bytes : List UInt8) :
    (ofBytes (withoutReturn bytes)).command? = (ofBytes bytes).command? := by
  rw [withoutReturn]
  split
  · next hlast =>
    obtain ⟨before, rfl⟩ := List.getLast?_eq_some_iff.mp hlast
    rw [List.dropLast_concat, command?_ofBytes_concat]
  · rfl

theorem mem_of_mem_withoutReturn {bytes : List UInt8} {b : UInt8} (h : b ∈ withoutReturn bytes) :
    b ∈ bytes := by
  rw [withoutReturn] at h
  split at h
  · exact List.mem_of_mem_dropLast h
  · exact h

theorem withoutReturn_concat (bytes : List UInt8) :
    withoutReturn (bytes ++ [carriageReturn]) = bytes := by
  rw [withoutReturn, if_pos List.getLast?_concat, List.dropLast_concat]

end InputLine

/-! ## The lines of an input -/

namespace Input

/-- The same bytes with a carriage return put before every line feed. -/
def withReturns (bytes : List UInt8) : List UInt8 :=
  bytes.flatMap fun b =>
    if b = InputLine.lineFeed then [InputLine.carriageReturn, InputLine.lineFeed] else [b]

theorem cutLines_cons_of_ne {b : UInt8} (h : b ≠ InputLine.lineFeed) (bytes : List UInt8) :
    cutLines (b :: bytes) =
      match cutLines bytes with
      | ([], rest) => ([], b :: rest)
      | (line :: lines, rest) => ((b :: line) :: lines, rest) :=
  if_neg h

/-- Every line that is ended by a line feed gets a carriage return, and the rest none. -/
theorem cutLines_withReturns (bytes : List UInt8) :
    cutLines (withReturns bytes) =
      ((cutLines bytes).1.map fun line => line ++ [InputLine.carriageReturn],
        (cutLines bytes).2) := by
  have hreturn : InputLine.carriageReturn ≠ InputLine.lineFeed := by decide
  induction bytes with
  | nil => rfl
  | cons b bytes ih =>
      by_cases hb : b = InputLine.lineFeed
      · rw [withReturns, List.flatMap_cons, if_pos hb, List.cons_append, List.singleton_append,
          cutLines_cons_of_ne hreturn, cutLines, if_pos rfl, ← withReturns, ih, cutLines,
          if_pos hb]
        rfl
      · rw [withReturns, List.flatMap_cons, if_neg hb, List.singleton_append,
          cutLines_cons_of_ne hb, ← withReturns, ih, cutLines_cons_of_ne hb]
        cases hcut : (cutLines bytes) with
        | mk lines rest =>
            cases lines with
            | nil => rfl
            | cons line lines => rfl

/-- No line feed is left in any of the lines, nor behind them. -/
theorem lineFeed_notMem_cutLines (bytes : List UInt8) :
    (∀ line ∈ (cutLines bytes).1, InputLine.lineFeed ∉ line) ∧
      InputLine.lineFeed ∉ (cutLines bytes).2 := by
  induction bytes with
  | nil => simp [cutLines]
  | cons b bytes ih =>
      obtain ⟨hlines, hrest⟩ := ih
      by_cases hb : b = InputLine.lineFeed
      · rw [cutLines, if_pos hb]
        exact ⟨List.forall_mem_cons.mpr ⟨List.not_mem_nil, hlines⟩, hrest⟩
      · rw [cutLines_cons_of_ne hb]
        split
        · next rest hcut =>
          rw [hcut] at hrest
          exact ⟨by simp, List.not_mem_cons_of_ne_of_not_mem (Ne.symm hb) hrest⟩
        · next line lines rest hcut =>
          rw [hcut] at hlines hrest
          obtain ⟨hline, hlines⟩ := List.forall_mem_cons.mp hlines
          refine ⟨List.forall_mem_cons.mpr ⟨?_, hlines⟩, hrest⟩
          exact List.not_mem_cons_of_ne_of_not_mem (Ne.symm hb) hline

/-- A line that is read has no line feed in it. -/
theorem newline_notMem_of_mem_ofBytes
    {bytes : List UInt8} {line : String}
    (h : .text line ∈ (ofBytes bytes).lines ++ (ofBytes bytes).rest.toList) :
    '\n' ∉ line.toList := by
  obtain ⟨hlines, hrest⟩ := lineFeed_notMem_cutLines bytes
  have hread : ∃ read, InputLine.ofBytes read = .text line ∧ InputLine.lineFeed ∉ read := by
    rw [List.mem_append] at h
    rcases h with h | h
    · obtain ⟨read, hread, hline⟩ := List.mem_map.mp h
      refine ⟨_, hline, ?_⟩
      intro hmem
      exact hlines read hread (InputLine.mem_of_mem_withoutReturn hmem)
    · simp only [ofBytes] at h
      split at h
      · cases h
      · have hline := Option.some.inj (Option.mem_toList.mp h)
        exact ⟨_, hline, hrest⟩
  obtain ⟨read, hline, hnotMem⟩ := hread
  intro hmem
  apply hnotMem
  rw [← InputLine.ofBytes_eq_text_iff.mp hline]
  exact Text.mem_flatMap_utf8EncodeChar (by decide) hmem

/-- Carriage returns before the line feeds do not change what the lines ask for. -/
theorem commands_ofBytes_withReturns (bytes : List UInt8) :
    (ofBytes (withReturns bytes)).lines.map InputLine.command? =
      (ofBytes bytes).lines.map InputLine.command? := by
  simp only [ofBytes, cutLines_withReturns, List.map_map]
  apply List.map_congr_left
  intro line _
  simp only [Function.comp_apply, InputLine.withoutReturn_concat,
    InputLine.command?_ofBytes_withoutReturn]

theorem rest_ofBytes_withReturns (bytes : List UInt8) :
    (ofBytes (withReturns bytes)).rest = (ofBytes bytes).rest := by
  simp only [ofBytes, cutLines_withReturns]

end Input

/-! ## The session -/

namespace Client

/-- A line counts only for what it asks for. -/
theorem turn_congr {line line' : InputLine} (h : line.command? = line'.command?) (c : Client) :
    c.turn line = c.turn line' := by
  cases line with
  | undecodable =>
      cases line' with
      | undecodable => rfl
      | text line' => cases h
  | text line =>
      cases line' with
      | undecodable => cases h
      | text line' =>
          have hcommand : Command.ofLine line = Command.ofLine line' := Option.some.inj h
          rw [turn, turn, hcommand]

theorem takeLines_congr
    {lines lines' : List InputLine}
    (h : lines.map InputLine.command? = lines'.map InputLine.command?) (c : Client) :
    takeLines lines c = takeLines lines' c := by
  induction lines generalizing lines' c with
  | nil =>
      rw [List.map_nil, eq_comm, List.map_eq_nil_iff] at h
      rw [h]
  | cons line lines ih =>
      rw [List.map_cons] at h
      obtain ⟨line', rest', rfl, hline, hrest⟩ := List.map_eq_cons_iff.mp h.symm
      simp only [takeLines, turn_congr hline.symm c, ih hrest.symm]

/-- Carriage returns before the line feeds do not change the session. -/
theorem serve_withReturns (s : Settings) (bytes : List UInt8) :
    serve s (Input.ofBytes (Input.withReturns bytes)) = serve s (Input.ofBytes bytes) := by
  have hlines := takeLines_congr (Input.commands_ofBytes_withReturns bytes) (initial s)
  simp only [serve, takeInput, hlines, Input.rest_ofBytes_withReturns]

end Client
end BayeuxChat
