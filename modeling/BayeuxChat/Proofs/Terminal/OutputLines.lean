import BayeuxChat.Proofs.Room.OneLine
import BayeuxChat.Proofs.Terminal.Grammar

/-!
# The lines of the output

What the client prints, it prints on lines of their own.  Somebody who types a text that
is printed later, be it a name, an addressee, a word that is no command, or something to
be said, cannot end such a line and begin another: a line that was typed has no line feed
in it, and the client puts texts together but takes none apart.
-/

namespace BayeuxChat

open Text (OneLine)

/-! ## Texts of commands -/

/-- The texts that a command gives to the client to keep; an unknown word is only quoted. -/
def Command.texts : Command → List String
  | .join name => [name]
  | .address audience => audience.texts
  | .say text => [text]
  | _ => []

namespace Command

theorem Orders.eq_argument_of_mem_texts
    {word argument : String} {command : Command} (h : Orders word argument command) :
    ∀ text ∈ command.texts, text = argument := by
  cases h <;> simp [texts, Audience.texts]

theorem HasParts.argument_subset
    {rest word argument : List Char} (h : HasParts rest word argument) : argument ⊆ rest := by
  cases h with
  | word hword => exact List.nil_subset _
  | both hword hcore =>
      exact List.subset_append_of_subset_right _ (List.subset_cons_of_subset _ hcore.subset)

/-- The texts of a command stand in the line that asks for it. -/
theorem oneLine_of_mem_texts_ofLine
    {line : String} (h : OneLine line) : ∀ text ∈ (ofLine line).texts, OneLine text := by
  obtain ⟨body, ⟨ending, hsplit, -⟩, hasks⟩ := exists_asks_ofLine line
  have hbody : '\n' ∉ body := by
    intro hmem
    exact h (hsplit ▸ List.mem_append_left ending hmem)
  intro text htext
  generalize ofLine line = command at hasks htext
  cases hasks with
  | say hcolon =>
      rw [List.mem_singleton.mp htext, OneLine, String.toList_ofList]
      exact hbody
  | order hparts horders =>
      rw [horders.eq_argument_of_mem_texts text htext, OneLine, String.toList_ofList]
      intro hmem
      exact hbody (List.mem_cons_of_mem _ (hparts.argument_subset hmem))

end Command

/-! ## What is printed -/

namespace Printed

/-- The text that appears, without its line end. -/
def body : Printed → String
  | .alert text => "! " ++ text
  | .line l => l.printed

theorem text_eq (p : Printed) : p.text = p.body ++ "\n" := by
  cases p <;> rfl

end Printed

theorem OneLineEach.printedOf
    {lines : List Line} {result : Except ChatError Unit} (h : OneLineEach lines result) :
    ∀ p ∈ Client.printedOf lines result, OneLine p.body := by
  intro p hp
  simp only [Client.printedOf, List.mem_append] at hp
  rcases hp with hp | hp
  · obtain ⟨l, hl, rfl⟩ := List.mem_map.mp hp
    exact h.lines l hl
  · cases hresult : result with
    | ok u =>
        rw [hresult] at hp
        cases hp
    | error e =>
        rw [hresult] at hp
        rw [List.mem_singleton.mp hp]
        exact OneLine.append (by simp [OneLine]) (h.message e hresult)

/-- Nothing that the client keeps has a line feed in it. -/
structure Client.OneLined (c : Client) : Prop where
  room : c.room.OneLined
  audience : ∀ text ∈ c.audience.texts, OneLine text

/-- Nothing that is printed breaks its line, and the client keeps nothing that would. -/
structure Service.OneLined (served : Service) : Prop where
  client : served.client.OneLined
  printed : ∀ p ∈ served.printed, OneLine p.body

theorem Service.OneLined.andThen
    {first : Service} {next : Client → Service} (hfirst : first.OneLined)
    (hnext : ∀ c, c.OneLined → (next c).OneLined) : (first.andThen next).OneLined where
  client := (hnext _ hfirst.client).client
  printed := by
    intro p hp
    rw [Service.andThen, List.mem_append] at hp
    exact hp.elim (hfirst.printed p) ((hnext _ hfirst.client).printed p)

namespace Client

theorem oneLined_initial (s : Settings) : (initial s).OneLined where
  room := Room.oneLined_empty s
  audience := by simp [initial, Audience.texts]

theorem oneLine_help : OneLine help.body := by
  simp [help, Printed.body, OneLine]

variable {c : Client}

theorem OneLined.after
    (h : c.OneLined) {o : Outcome Loopback} (hroom : o.room.OneLined) (ho : o.OneLined)
    {moves : List Move} :
    Service.OneLined
      { printed := (c.after o).printed, moves := moves, client := (c.after o).client } where
  client := ⟨hroom, h.audience⟩
  printed := ho.printedOf

/-- One case for each command: what it gives to the client stays on one line. -/
theorem OneLined.obeying
    (h : c.OneLined) {command : Command} (htexts : ∀ text ∈ command.texts, OneLine text) :
    (c.obeying command).OneLined := by
  cases command with
  | join name =>
      have hname : OneLine name := htexts name List.mem_cons_self
      exact h.after (h.room.join hname) (Room.oneLined_join c.room name)
  | leave => exact h.after h.room.leave (Room.oneLined_done c.room.leave)
  | address audience => exact ⟨⟨h.room, htexts⟩, by simp [Client.obeying, obey, printing]⟩
  | loseConnection =>
      simp only [Client.obeying, obey]
      split
      · exact ⟨⟨h.room.stall, h.audience⟩, by simp [printing]⟩
      · exact ⟨h, by simp [printing, Printed.body, OneLine]⟩
  | forgetClient => exact ⟨⟨h.room.forget, h.audience⟩, by simp [Client.obeying, obey, printing]⟩
  | quit => exact ⟨h, by simp [Client.obeying, obey, stopped]⟩
  | say text =>
      have hall : ∀ t ∈ text :: c.audience.texts, OneLine t :=
        List.forall_mem_cons.mpr ⟨htexts text List.mem_cons_self, h.audience⟩
      exact h.after (h.room.say hall) (Room.oneLined_say h.room.user hall)
  | unknown word =>
      refine ⟨h, List.forall_mem_cons.mpr ⟨?_, List.forall_mem_cons.mpr ⟨oneLine_help, by simp⟩⟩⟩
      exact OneLine.append (by simp [OneLine])
        (OneLine.append (by simp [OneLine]) (Text.oneLine_quote word))

theorem OneLined.hearing (h : c.OneLined) (n : Nat) : (c.hearing n).OneLined := by
  obtain ⟨hroom, hreactions⟩ := h.room.hearWaiting n
  refine ⟨⟨hroom, h.audience⟩, ?_⟩
  intro p hp
  obtain ⟨reaction, hreaction, hp⟩ := List.mem_flatMap.mp hp
  exact (hreactions reaction hreaction).printedOf p hp

theorem OneLined.obeyingAll
    (h : c.OneLined) (pace : Nat → Client → Nat) {commands : List Command}
    (htexts : ∀ command ∈ commands, ∀ text ∈ command.texts, OneLine text) :
    (c.obeyingAll pace commands).OneLined := by
  induction commands generalizing pace c with
  | nil => exact ⟨h, by simp [Client.obeyingAll, idling]⟩
  | cons command commands ih =>
      obtain ⟨hcommand, hrest⟩ := List.forall_mem_cons.mp htexts
      have hfirst := (h.obeying hcommand).andThen fun c hc => hc.hearing (pace 0 c)
      exact hfirst.andThen fun c hc => ih hc _ hrest

/-- At whatever pace an input is served, nothing that is printed breaks its line. -/
theorem oneLined_serving (s : Settings) (bytes : List UInt8) (pace : Nat → Client → Nat) :
    ((initial s).serving pace
      ((Input.ofBytes bytes).lines ++ (Input.ofBytes bytes).rest.toList)).OneLined := by
  rw [serving_eq_obeyingAll]
  apply (oneLined_initial s).obeyingAll
  intro command hcommand
  obtain ⟨line, hline, hasked⟩ := List.mem_filterMap.mp hcommand
  have hread := (List.takeWhile_sublist _).mem hline
  cases line with
  | undecodable => cases hasked
  | text line =>
      obtain rfl := Option.some.inj hasked
      exact Command.oneLine_of_mem_texts_ofLine (Input.newline_notMem_of_mem_ofBytes hread)

end Client

/-! ## The output -/

namespace Printed

theorem toList_text (p : Printed) : p.text.toList = p.body.toList ++ ['\n'] := by
  rw [text_eq, String.toList_append]
  rfl

theorem toList_texts (printed : List Printed) :
    (texts printed).toList = printed.flatMap fun p => p.body.toList ++ ['\n'] := by
  simp only [texts, String.toList_join, List.flatMap_map, toList_text]

theorem texts_append (printed more : List Printed) :
    texts (printed ++ more) = texts printed ++ texts more := by
  apply String.toList_injective
  simp only [String.toList_append, toList_texts, List.flatMap_append]

/-- Printed in pieces, the output is the same. -/
theorem join_texts (pieces : List (List Printed)) :
    String.join (pieces.map texts) = texts pieces.flatten := by
  induction pieces with
  | nil => rfl
  | cons piece rest ih =>
      rw [List.map_cons, String.join_cons, ih, List.flatten_cons, texts_append]

/-- Cut at its line feeds, the output is what was printed, and nothing is left behind the
last of them. -/
theorem splitOn_texts {printed : List Printed} (h : ∀ p ∈ printed, OneLine p.body) :
    (texts printed).toList.splitOn '\n' = printed.map (fun p => p.body.toList) ++ [[]] := by
  rw [toList_texts]
  induction printed with
  | nil => rfl
  | cons p rest ih =>
      obtain ⟨hp, hrest⟩ := List.forall_mem_cons.mp h
      rw [List.flatMap_cons, List.append_assoc, List.singleton_append,
        List.splitOn_append_cons_self_of_not_mem hp, ih hrest, List.map_cons, List.cons_append]

end Printed

/-- Whatever bytes are typed and at whatever pace arrivals are heard, each alert and each
line of the log that the client prints has just one line feed, and this is its last
character.  So the output, cut at its line feeds, is what was printed, one line for each
alert and for each line of the log and nothing else, and so is the output of the session
at the terminal. -/
theorem Client.lines_of_output (s : Settings) (bytes : List UInt8) (pace : Nat → Client → Nat) :
    let input := Input.ofBytes bytes
    let printed := help :: ((initial s).serving pace (input.lines ++ input.rest.toList)).printed
    let session := (serve s input).1
    (∀ p ∈ printed, p.text.toList.count '\n' = 1 ∧ p.text.toList.getLast? = some '\n') ∧
      (Printed.texts printed).toList.splitOn '\n' =
        printed.map (fun p => p.body.toList) ++ [[]] ∧
      (String.join (session.map Printed.texts)).toList.splitOn '\n' =
        session.flatten.map (fun p => p.body.toList) ++ [[]] := by
  intro input printed session
  have hprinted : ∀ p ∈ printed, OneLine p.body :=
    List.forall_mem_cons.mpr ⟨oneLine_help, (oneLined_serving s bytes pace).printed⟩
  have hsession : ∀ p ∈ session.flatten, OneLine p.body := by
    obtain ⟨hflatten, -⟩ := serve_eq_serving s input
    rw [hflatten]
    exact List.forall_mem_cons.mpr ⟨oneLine_help, (oneLined_serving s bytes hearingAll).printed⟩
  refine ⟨?_, Printed.splitOn_texts hprinted, ?_⟩
  · intro p hp
    rw [Printed.toList_text, List.count_append, List.count_eq_zero.mpr (hprinted p hp)]
    exact ⟨rfl, List.getLast?_concat⟩
  · rw [Printed.join_texts]
    exact Printed.splitOn_texts hsession

end BayeuxChat
