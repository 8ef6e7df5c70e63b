import BayeuxChat.Bayeux.Error
import BayeuxChat.Proofs.Text.DecimalNumeral
import BayeuxChat.Proofs.Text.Trimming

/-!
# The form of error texts

What a text has to look like to state an error, said without the reader: two colons cut
it into a number, the arguments and the message.  The reader accepts just this form, and
nothing between or behind the colons is lost.  Errors that are written out read back,
except that one empty argument looks like no argument.
-/

namespace BayeuxChat
namespace BayeuxError

/-! ## The form -/

/-- The arguments as they stand between the colons: nothing is no argument, and anything
else is cut at every comma. -/
inductive WritesArgs : List Char → List String → Prop
  | nothing : WritesArgs [] []
  | something {cs : List Char} :
      cs ≠ [] → WritesArgs cs ((cs.splitOn ',').map String.ofList)

/-- The text has the form `code:args:message` and states the error.  All that stands
before the first colon, less the blanks around it, is a numeral of the code. -/
def IsStatedBy (e : BayeuxError) (text : String) : Prop :=
  ∃ code numeral args : List Char,
    text.toList = code ++ ':' :: (args ++ ':' :: e.message.toList) ∧
      ':' ∉ code ∧ ':' ∉ args ∧
      Text.IsCore code numeral ∧ Text.IsNumeral e.code numeral ∧ e.code ≤ 65535 ∧
      WritesArgs args e.args

theorem writesArgs_iff {cs : List Char} {args : List String} :
    WritesArgs cs args ↔ argsOf cs = args := by
  constructor
  · rintro (_ | hcs)
    · rfl
    · rw [argsOf, Text.pieces_eq_splitOn, if_neg (by simpa using hcs)]
  · rintro rfl
    cases cs with
    | nil => exact .nothing
    | cons c cs =>
        rw [argsOf, Text.pieces_eq_splitOn, if_neg (by simp)]
        exact .something (List.cons_ne_nil c cs)

/-- What is read is found between the colons, piece by piece. -/
theorem ofText?_eq_some_iff {text : String} {e : BayeuxError} :
    ofText? text = some e ↔
      ∃ code rest args message,
        Text.cut ':' text.toList = some (code, rest) ∧
          Text.cut ':' rest = some (args, message) ∧
          Text.boundedNumeral? greatestCode (Text.trimmed code) = some e.code ∧
          argsOf args = e.args ∧ String.ofList message = e.message := by
  obtain ⟨number, arguments, message⟩ := e
  simp only [ofText?, bind, Option.bind_eq_some_iff, Prod.exists, pure, Option.some.injEq,
    mk.injEq]
  grind

theorem ofText?_eq_some_iff_isStatedBy {text : String} {e : BayeuxError} :
    ofText? text = some e ↔ e.IsStatedBy text := by
  rw [ofText?_eq_some_iff]
  constructor
  · rintro ⟨code, rest, args, message, hcode, hargs, hnumeral, hread, hmessage⟩
    obtain ⟨htext, hcolon⟩ := Text.cut_eq_some_iff.mp hcode
    obtain ⟨hrest, hcolon'⟩ := Text.cut_eq_some_iff.mp hargs
    obtain ⟨hstands, hbound⟩ := Text.boundedNumeral?_eq_some_iff.mp hnumeral
    refine ⟨code, Text.trimmed code, args, ?_, hcolon, hcolon', Text.trimmed_isCore code,
      hstands, hbound, writesArgs_iff.mpr hread⟩
    rw [htext, hrest, ← hmessage, String.toList_ofList]
  · rintro ⟨code, numeral, args, htext, hcolon, hcolon', hcore, hnumeral, hbound, hargs⟩
    refine ⟨code, _, args, _, Text.cut_eq_some_iff.mpr ⟨htext, hcolon⟩,
      Text.cut_eq_some_iff.mpr ⟨rfl, hcolon'⟩, ?_, writesArgs_iff.mp hargs,
      String.ofList_toList⟩
    rw [Text.trimmed_eq_iff.mpr hcore]
    exact Text.boundedNumeral?_eq_some_iff.mpr ⟨hnumeral, hbound⟩

/-! ## Putting the parts together again -/

theorem toList_intercalate_of_writesArgs {cs : List Char} {args : List String}
    (h : WritesArgs cs args) : (",".intercalate args).toList = cs := by
  rw [String.toList_intercalate]
  cases h with
  | nothing => rfl
  | something hcs =>
      have hpieces : ((cs.splitOn ',').map String.ofList).map String.toList = cs.splitOn ',' := by
        simp [Function.comp_def]
      rw [hpieces]
      exact List.intercalate_splitOn ','

/-- Nothing comes between the arguments but commas. -/
theorem notMem_intercalate {c : Char} (hc : c ≠ ',') {args : List String}
    (h : ∀ a ∈ args, c ∉ a.toList) : c ∉ (",".intercalate args).toList := by
  induction args with
  | nil => simp
  | cons a rest ih =>
      obtain ⟨ha, hrest⟩ := List.forall_mem_cons.mp h
      cases rest with
      | nil => simpa using ha
      | cons b rest => simpa [ha, hc] using ih hrest

/-- Arguments without commas are found again, unless the only one is empty. -/
theorem writesArgs_intercalate {args : List String}
    (hargs : ∀ a ∈ args, ',' ∉ a.toList) (hone : args ≠ [""]) :
    WritesArgs (",".intercalate args).toList args := by
  cases args with
  | nil => exact .nothing
  | cons a rest =>
      have hsplit : (",".intercalate (a :: rest)).toList.splitOn ',' =
          (a :: rest).map String.toList := by
        rw [String.toList_intercalate]
        exact List.splitOn_intercalate ',' (by simpa using hargs) (by simp)
      have hread : ((",".intercalate (a :: rest)).toList.splitOn ',').map String.ofList =
          a :: rest := by
        rw [hsplit]
        simp [Function.comp_def]
      have hne : (",".intercalate (a :: rest)).toList ≠ [] := by
        intro hempty
        rw [hempty] at hread
        exact hone hread.symm
      have hwrites := WritesArgs.something hne
      rwa [hread] at hwrites

theorem isStatedBy_text (e : BayeuxError) (hcode : e.code ≤ 65535)
    (hargs : ∀ a ∈ e.args, ',' ∉ a.toList ∧ ':' ∉ a.toList) (hone : e.args ≠ [""]) :
    e.IsStatedBy e.text := by
  have hdigits := Text.isDigits_toDigits e.code
  have hblank : ∀ c ∈ Nat.toDigits 10 e.code, Text.isBlank c = false :=
    fun c hc => Text.isBlank_eq_false_of_isDigit (hdigits.digit c hc)
  have hcore : Text.IsCore (Nat.toDigits 10 e.code) (Nat.toDigits 10 e.code) :=
    ⟨[], [], by simp, by simp, by simp, fun c hc => hblank c (List.mem_of_head? hc),
      fun c hc => hblank c (List.mem_of_getLast? hc)⟩
  refine ⟨Nat.toDigits 10 e.code, Nat.toDigits 10 e.code, (",".intercalate e.args).toList, ?_, ?_,
    notMem_intercalate (by decide) fun a ha => (hargs a ha).2, hcore, .inl hdigits, hcode,
    writesArgs_intercalate (fun a ha => (hargs a ha).1) hone⟩
  · simp [text, Text.decimal]
  · intro hcolon
    have hdigit := hdigits.digit ':' hcolon
    contradiction

/-- A text states an error just if it has the form `code:args:message` with a numeral for
the code that is at most 65535, and every other text is refused.  Of a text that is read
nothing is lost: the arguments with a comma between each two stand between the first colon
and the second, and all that follows is the message, with any further colons.  An error
that is written out reads back, if its code is at most 65535, no argument holds a comma or
a colon, and the arguments are not just one that is empty. -/
theorem ofText?_exactly (text : String) :
    (∀ e, ofText? text = some e ↔ e.IsStatedBy text) ∧
      ((∀ e, ¬IsStatedBy e text) → ofText? text = none) ∧
      (∀ e, ofText? text = some e →
        ∃ code, text = code ++ ":" ++ ",".intercalate e.args ++ ":" ++ e.message ∧
          ':' ∉ code.toList ∧ ':' ∉ (",".intercalate e.args).toList) ∧
      ∀ e : BayeuxError, e.code ≤ 65535 →
        (∀ a ∈ e.args, ',' ∉ a.toList ∧ ':' ∉ a.toList) → e.args ≠ [""] →
          ofText? (Text.decimal e.code ++ ":" ++ ",".intercalate e.args ++ ":" ++ e.message) =
            some e := by
  refine ⟨fun e => ofText?_eq_some_iff_isStatedBy, ?_, ?_, ?_⟩
  · intro hnone
    rw [Option.eq_none_iff_forall_ne_some]
    intro e he
    exact hnone e (ofText?_eq_some_iff_isStatedBy.mp he)
  · intro e he
    obtain ⟨code, -, args, htext, hcolon, hcolon', -, -, -, hargs⟩ :=
      ofText?_eq_some_iff_isStatedBy.mp he
    have hjoined := toList_intercalate_of_writesArgs hargs
    refine ⟨String.ofList code, ?_, by simpa using hcolon, by rwa [hjoined]⟩
    apply String.toList_injective
    simp [htext, ← hjoined]
  · intro e hcode hargs hone
    exact ofText?_eq_some_iff_isStatedBy.mpr (isStatedBy_text e hcode hargs hone)

/-- One empty argument is taken for none. -/
example : ofText? (text { code := 7, args := [""], message := "" }) =
    some { code := 7, args := [], message := "" } := by
  decide

end BayeuxError
end BayeuxChat
