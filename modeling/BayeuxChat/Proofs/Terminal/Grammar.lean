import BayeuxChat.Proofs.Terminal.Lines

/-!
# The grammar of commands

What a line can ask for, said without the parser.  Three kinds of characters around a word
do not count, and each only in its place: line ends behind the line, the one space behind
the word, and blanks around the argument.  The parser accepts just this grammar: each line
asks for one thing.
-/

namespace BayeuxChat
namespace Command

/-! ## Words -/

/-- The words that are commands. -/
def words : List String :=
  ["join", "leave", "to", "public", "drop", "rehandshake", "quit"]

/-- What a word with an argument asks for.  Most words do not need their argument. -/
inductive Orders : String → String → Command → Prop
  | join (name : String) : Orders "join" name (.join name)
  | leave (argument : String) : Orders "leave" argument .leave
  | address (name : String) : Orders "to" name (.address (.only name))
  | addressAll (argument : String) : Orders "public" argument (.address .everyone)
  | loseConnection (argument : String) : Orders "drop" argument .loseConnection
  | forgetClient (argument : String) : Orders "rehandshake" argument .forgetClient
  | quit (argument : String) : Orders "quit" argument .quit
  | unknown {word : String} (argument : String) :
      word ∉ words → Orders word argument (.unknown word)

theorem Orders.ne_say
    {word argument : String} {command : Command} (h : Orders word argument command)
    (text : String) : command ≠ .say text := by
  cases h <;> nofun

/-- What stands behind the colon is a word without a space in it, or such a word, a space
and an argument, around which blanks do not count.  Without the space the argument is
empty. -/
inductive HasParts : List Char → List Char → List Char → Prop
  | word {word : List Char} : ' ' ∉ word → HasParts word word []
  | both {word rest argument : List Char} :
      ' ' ∉ word → Text.IsCore rest argument → HasParts (word ++ ' ' :: rest) word argument

/-- What is left of a line without its longest ending of carriage returns and line feeds. -/
def IsBody (line : String) (body : List Char) : Prop :=
  ∃ ending, line.toList = body ++ ending ∧ (∀ c ∈ ending, c = '\r' ∨ c = '\n') ∧
    ∀ c, body.getLast? = some c → c ≠ '\r' ∧ c ≠ '\n'

/-- What is asked for: to say the text as it stands, unless it begins with a colon. -/
inductive Asks : List Char → Command → Prop
  | say {body : List Char} : body.head? ≠ some ':' → Asks body (.say (String.ofList body))
  | order {rest word argument : List Char} {command : Command} :
      HasParts rest word argument →
      Orders (String.ofList word) (String.ofList argument) command → Asks (':' :: rest) command

/-! ## The parser -/

theorem orders_ofWord (word argument : String) : Orders word argument (ofWord word argument) := by
  unfold ofWord
  split
  · exact .join argument
  · exact .leave argument
  · exact .address argument
  · exact .addressAll argument
  · exact .loseConnection argument
  · exact .forgetClient argument
  · exact .quit argument
  · next hjoin hleave hto hpublic hdrop hrehandshake hquit =>
    refine .unknown argument ?_
    simp only [words, List.mem_cons, List.not_mem_nil, or_false, not_or]
    exact ⟨hjoin, hleave, hto, hpublic, hdrop, hrehandshake, hquit⟩

theorem ofWord_eq_iff {word argument : String} {command : Command} :
    ofWord word argument = command ↔ Orders word argument command := by
  constructor
  · rintro rfl
    exact orders_ofWord word argument
  · intro horders
    cases horders with
    | unknown argument hword =>
        -- What the parser finds is an order too, and no other word is unknown.
        have hparsed := orders_ofWord word argument
        generalize ofWord word argument = command at hparsed ⊢
        cases hparsed with
        | unknown _ _ => rfl
        | _ => simp [words] at hword
    | _ => rfl

theorem wordAndArgument_eq_iff {rest word argument : List Char} :
    wordAndArgument rest = (word, argument) ↔ HasParts rest word argument := by
  constructor
  · intro h
    rw [wordAndArgument] at h
    cases hcut : Text.cut ' ' rest with
    | none =>
        rw [hcut] at h
        obtain ⟨rfl, rfl⟩ := Prod.mk.inj h
        exact .word ((Text.cut_eq_none_iff ' ' rest).mp hcut)
    | some parts =>
        rw [hcut] at h
        obtain ⟨rfl, rfl⟩ := Prod.mk.inj h
        obtain ⟨hsplit, hword⟩ := Text.cut_eq_some_iff.mp hcut
        rw [hsplit]
        exact .both hword (Text.trimmed_isCore parts.2)
  · intro hparts
    cases hparts with
    | word hword => rw [wordAndArgument, (Text.cut_eq_none_iff ' ' rest).mpr hword]
    | both hword hcore =>
        rw [wordAndArgument, Text.cut_append hword]
        exact congrArg (Prod.mk word) (Text.trimmed_eq_iff.mpr hcore)

theorem isLineEnd_iff {c : Char} : isLineEnd c = true ↔ c = '\r' ∨ c = '\n' := by
  simp [isLineEnd]

theorem isLineEnd_eq_false_iff {c : Char} : isLineEnd c = false ↔ c ≠ '\r' ∧ c ≠ '\n' := by
  simp [isLineEnd]

theorem dropEndWhile_eq_iff_isBody {line : String} {body : List Char} :
    Text.dropEndWhile isLineEnd line.toList = body ↔ IsBody line body := by
  simp only [Text.dropEndWhile_eq_iff, Text.IsFront, IsBody, isLineEnd_iff, isLineEnd_eq_false_iff]

/-- The parser looks at nothing but what is left without the line ends. -/
theorem ofLine_eq_iff_asks
    {line : String} {body : List Char} (hbody : IsBody line body) {command : Command} :
    ofLine line = command ↔ Asks body command := by
  rw [ofLine, dropEndWhile_eq_iff_isBody.mpr hbody]
  constructor
  · intro hcommand
    split at hcommand
    · exact .order (wordAndArgument_eq_iff.mp rfl) (ofWord_eq_iff.mp hcommand)
    · next hcolon =>
      rw [← hcommand]
      refine .say ?_
      intro hhead
      obtain ⟨rest, rfl⟩ := List.head?_eq_some_iff.mp hhead
      exact hcolon rest rfl
  · intro hasks
    cases hasks with
    | say hcolon =>
        split
        · exact absurd rfl hcolon
        · rfl
    | order hparts horders =>
        simp only [wordAndArgument_eq_iff.mpr hparts]
        exact ofWord_eq_iff.mpr horders

/-- The parser finds what the line asks for, and nothing else. -/
theorem ofLine_eq_iff {line : String} {command : Command} :
    ofLine line = command ↔ ∃ body, IsBody line body ∧ Asks body command := by
  constructor
  · intro hcommand
    have hbody := dropEndWhile_eq_iff_isBody.mp (rfl : _ = Text.dropEndWhile isLineEnd line.toList)
    exact ⟨_, hbody, (ofLine_eq_iff_asks hbody).mp hcommand⟩
  · rintro ⟨body, hbody, hasks⟩
    exact (ofLine_eq_iff_asks hbody).mpr hasks

/-- Every line asks for something. -/
theorem exists_asks_ofLine (line : String) : ∃ body, IsBody line body ∧ Asks body (ofLine line) :=
  ofLine_eq_iff.mp rfl

/-- No blank but a space ends the word of a command. -/
example : ofLine ":to\tbob \r\n" = .unknown "to\tbob" := by
  decide

/-! ## What is typed -/

theorem ne_of_isBlank_eq_false {c : Char} (h : Text.isBlank c = false) : c ≠ '\r' ∧ c ≠ '\n' := by
  constructor
  · rintro rfl
    exact absurd h (by decide)
  · rintro rfl
    exact absurd h (by decide)

/-- A trimmed argument is found as it was typed behind its word and a space. -/
theorem ofLine_order
    {word name : String} (hword : ' ' ∉ word.toList) (hname : Text.trim name = name) :
    ofLine (":" ++ word ++ " " ++ name) = ofWord word name := by
  have hcore : Text.IsCore name.toList name.toList := by
    rw [← Text.trimmed_eq_iff]
    simpa [Text.trim] using congrArg String.toList hname
  have hbody : IsBody (":" ++ word ++ " " ++ name)
      (':' :: (word.toList ++ ' ' :: name.toList)) := by
    refine ⟨[], by simp, by simp, ?_⟩
    intro c hc
    have hlast : name.toList.getLast?.getD ' ' = c := by
      simpa [List.getLast?_cons, List.getLast?_append] using hc
    cases hgetLast : name.toList.getLast? with
    | none =>
        rw [hgetLast, Option.getD_none] at hlast
        rw [← hlast]
        decide
    | some d =>
        obtain ⟨-, -, -, -, -, -, hblank⟩ := hcore
        rw [hgetLast, Option.getD_some] at hlast
        rw [← hlast]
        exact ne_of_isBlank_eq_false (hblank d hgetLast)
  refine (ofLine_eq_iff_asks hbody).mpr (.order (.both hword hcore) ?_)
  rw [String.ofList_toList, String.ofList_toList]
  exact orders_ofWord word name

/-- What is said does not begin like a command, and has no line end behind it. -/
theorem say_of_ofLine {line text : String} (h : ofLine line = .say text) :
    text.toList.head? ≠ some ':' ∧
      ∀ c, text.toList.getLast? = some c → c ≠ '\r' ∧ c ≠ '\n' := by
  obtain ⟨body, ⟨ending, -, -, hlast⟩, hasks⟩ := ofLine_eq_iff.mp h
  cases hasks with
  | say hcolon =>
      rw [String.toList_ofList]
      exact ⟨hcolon, hlast⟩
  | order hparts horders => exact absurd rfl (horders.ne_say text)

/-- A line asks for just one thing, which the grammar gives: a text to be said, or what a
word orders with its argument.  So line ends behind a line do not count, and a name that is
trimmed is understood as it was typed; what is said does not begin with a colon nor end in
a line end.  For a client that hears everything before it takes the next line it makes no
difference whether lines end with line feeds or with carriage returns and line feeds. -/
theorem grammar_of_lines :
    (∀ (line : String) (command : Command),
      ofLine line = command ↔ ∃ body, IsBody line body ∧ Asks body command) ∧
    (∀ line ending : String, (∀ c ∈ ending.toList, c = '\r' ∨ c = '\n') →
      ofLine (line ++ ending) = ofLine line) ∧
    (∀ name ending : String, (∀ c ∈ ending.toList, c = '\r' ∨ c = '\n') →
      Text.trim name = name →
      ofLine (":join " ++ name ++ ending) = .join name ∧
        ofLine (":to " ++ name ++ ending) = .address (.only name)) ∧
    (∀ line text : String, ofLine line = .say text →
      text.toList.head? ≠ some ':' ∧
        ∀ c, text.toList.getLast? = some c → c ≠ '\r' ∧ c ≠ '\n') ∧
    (∀ (s : Settings) (bytes : List UInt8),
      Client.serve s (Input.ofBytes (Input.withReturns bytes)) =
        Client.serve s (Input.ofBytes bytes)) := by
  have hends : ∀ line ending : String, (∀ c ∈ ending.toList, c = '\r' ∨ c = '\n') →
      ofLine (line ++ ending) = ofLine line := by
    intro line ending hending
    exact ofLine_append (fun c hc => isLineEnd_iff.mpr (hending c hc)) line
  refine ⟨?_, hends, ?_, ?_, ?_⟩
  · intro line command
    exact ofLine_eq_iff
  · intro name ending hending hname
    rw [hends _ _ hending, hends _ _ hending]
    have hjoin : ofLine (":" ++ "join" ++ " " ++ name) = .join name :=
      ofLine_order (by decide) hname
    have hto : ofLine (":" ++ "to" ++ " " ++ name) = .address (.only name) :=
      ofLine_order (by decide) hname
    exact ⟨hjoin, hto⟩
  · intro line text hsay
    exact say_of_ofLine hsay
  · intro s bytes
    exact Client.serve_withReturns s bytes

end Command
end BayeuxChat
