import BayeuxChat.Proofs.Text.Offset
import BayeuxChat.Settings.Endpoint
import Mathlib.Data.List.TakeWhile

/-!
# What the endpoint is cut from

The path of a location is what is left without its first scheme and the host behind it, and
the base of a path is what stands in front of its first chat directory.  The endpoint is
derived from the two, and it can be found with searches for offsets in bytes: all slices
that are taken on the way are there to be taken.
-/

namespace BayeuxChat
namespace Settings

/-! ## Paths and bases -/

/-- The text goes on with a slash, if it goes on. -/
def EndsHost (rest : List Char) : Prop :=
  rest = [] ∨ rest.head? = some '/'

/-- What is left of a location without its first scheme and the host behind it. -/
inductive PathOf (location : List Char) : List Char → Prop where
  | stripped {before host rest : List Char}
      (first : Text.FirstBetween scheme location before (host ++ rest))
      (noSlash : '/' ∉ host) (ends : EndsHost rest) : PathOf location (before ++ rest)
  | whole (absent : ¬scheme <:+: location) : PathOf location location

/-- A chat directory begins here. -/
def IsChat (flavor : Flavor) (rest : List Char) : Prop :=
  "/chat/".toList <+: rest ∨
    flavor = .personal ∧
      ∃ digit : Char, digit.isDigit = true ∧ "/chat".toList ++ [digit, '/'] <+: rest

/-- What stands in front of the first chat directory of a path. -/
inductive BaseOf (flavor : Flavor) (path : List Char) : List Char → Prop where
  | cut {base rest : List Char} (split : path = base ++ rest) (chat : IsChat flavor rest)
      (first : ∀ before after, path = before ++ after → IsChat flavor after →
        base.length ≤ before.length) : BaseOf flavor path base
  | whole (absent : ∀ before after, path = before ++ after → ¬IsChat flavor after) :
      BaseOf flavor path path

theorem dropWhile_of_endsHost {host rest : List Char} (hhost : '/' ∉ host)
    (hrest : EndsHost rest) : (host ++ rest).dropWhile (· != '/') = rest := by
  have hbefore : ∀ c ∈ host, (c != '/') = true := by
    intro c hc
    exact bne_iff_ne.mpr (ne_of_mem_of_not_mem hc hhost)
  rw [List.dropWhile_append_of_pos hbefore]
  rcases hrest with rfl | hhead
  · rfl
  · obtain ⟨more, rfl⟩ := List.head?_eq_some_iff.mp hhead
    rfl

theorem endsHost_dropWhile (cs : List Char) : EndsHost (cs.dropWhile (· != '/')) := by
  cases h : cs.dropWhile (· != '/') with
  | nil => exact .inl rfl
  | cons c rest =>
      have hc := List.head?_dropWhile_not (· != '/') cs
      rw [h] at hc
      exact .inr (by simpa using hc)

theorem slash_notMem_takeWhile (cs : List Char) : '/' ∉ cs.takeWhile (· != '/') := by
  intro hmem
  simpa using List.mem_takeWhile_imp hmem

/-- A location has one path only. -/
theorem PathOf.unique {location path path' : List Char} (h : PathOf location path)
    (h' : PathOf location path') : path = path' := by
  have hfound {before after : List Char} (hfirst : Text.FirstBetween scheme location before after) :
      scheme <:+: location := ⟨before, after, hfirst.eq.symm⟩
  cases h with
  | whole absent =>
      cases h' with
      | whole absent' => rfl
      | stripped first' => exact absurd (hfound first') absent
  | @stripped before host rest first noSlash ends =>
      cases h' with
      | whole absent' => exact absurd (hfound first) absent'
      | @stripped before' host' rest' first' noSlash' ends' =>
          have hlength : before.length = before'.length :=
            le_antisymm (first.le _ _ first'.eq) (first'.le _ _ first.eq)
          have heq := first.eq.symm.trans first'.eq
          rw [List.append_assoc, List.append_assoc] at heq
          obtain ⟨rfl, htail⟩ := List.append_inj heq hlength
          have hrest := List.append_cancel_left htail
          rw [← dropWhile_of_endsHost noSlash ends, hrest, dropWhile_of_endsHost noSlash' ends']

theorem pathOf_withoutHost (location : List Char) : PathOf location (withoutHost location) := by
  induction location with
  | nil => exact .whole (by decide)
  | cons c cs ih =>
      unfold withoutHost
      by_cases hhere : scheme <+: c :: cs
      · rw [if_pos (List.isPrefixOf_iff_prefix.mpr hhere)]
        obtain ⟨after, hafter⟩ := hhere
        rw [← hafter, List.drop_left]
        have hfirst : Text.FirstBetween scheme (scheme ++ after) []
            (after.takeWhile (· != '/') ++ after.dropWhile (· != '/')) := by
          rw [List.takeWhile_append_dropWhile]
          exact Text.firstBetween_nil scheme after
        exact .stripped hfirst (slash_notMem_takeWhile after) (endsHost_dropWhile after)
      · rw [if_neg (fun h => hhere (List.isPrefixOf_iff_prefix.mp h))]
        generalize withoutHost cs = path at ih ⊢
        cases ih with
        | stripped first noSlash ends => exact .stripped (first.cons hhere) noSlash ends
        | whole absent =>
            refine .whole ?_
            rw [List.infix_cons_iff]
            exact not_or.mpr ⟨hhere, absent⟩

/-- A path has one base only. -/
theorem BaseOf.unique {flavor : Flavor} {path base base' : List Char}
    (h : BaseOf flavor path base) (h' : BaseOf flavor path base') : base = base' := by
  cases h with
  | whole absent =>
      cases h' with
      | whole absent' => rfl
      | cut split' chat' first' => exact absurd chat' (absent _ _ split')
  | cut split chat first =>
      cases h' with
      | whole absent' => exact absurd chat (absent' _ _ split)
      | cut split' chat' first' =>
          have hlength : base.length = base'.length :=
            le_antisymm (first _ _ split' chat') (first' _ _ split chat)
          exact (List.append_inj (split.symm.trans split') hlength).1

theorem beginsChat_iff (flavor : Flavor) (rest : List Char) :
    beginsChat flavor rest = true ↔ IsChat flavor rest := by
  unfold beginsChat IsChat
  split
  · next more => exact iff_of_true rfl (.inl ⟨more, rfl⟩)
  · next digit more hslash =>
    have hne : '/' ≠ digit := fun h => hslash h.symm
    simp [hne]
  · next hslash hdigit =>
    refine iff_of_false Bool.false_ne_true ?_
    rintro (⟨more, rfl⟩ | ⟨-, digit, -, more, rfl⟩)
    · exact hslash more rfl
    · exact hdigit digit more rfl

theorem baseOf_beforeChat (flavor : Flavor) (path : List Char) :
    BaseOf flavor path (beforeChat flavor path) := by
  induction path with
  | nil =>
      refine .whole ?_
      intro before after hsplit hchat
      obtain ⟨-, rfl⟩ := List.nil_eq_append_iff.mp hsplit
      exact absurd ((beginsChat_iff flavor []).mpr hchat) Bool.false_ne_true
  | cons c cs ih =>
      unfold beforeChat
      by_cases hhere : beginsChat flavor (c :: cs) = true
      · rw [if_pos hhere]
        exact .cut rfl ((beginsChat_iff flavor _).mp hhere) (fun _ _ _ _ => Nat.zero_le _)
      · rw [if_neg hhere]
        rw [beginsChat_iff] at hhere
        generalize beforeChat flavor cs = base at ih ⊢
        cases ih with
        | cut split chat first =>
            refine .cut (congrArg (c :: ·) split) chat ?_
            intro before after hsplit hchat
            cases before with
            | nil => exact absurd (hsplit ▸ hchat) hhere
            | cons c' before =>
                exact Nat.succ_le_succ (first before after (List.cons.inj hsplit).2 hchat)
        | whole absent =>
            refine .whole ?_
            intro before after hsplit hchat
            cases before with
            | nil => exact hhere (hsplit ▸ hchat)
            | cons c' before => exact absent before after (List.cons.inj hsplit).2 hchat

/-! ## Searches for offsets -/

/-- Where the host ends that begins the part `tail` of a location. -/
def hostStop (location : String) (hostStart : Nat) (tail : String) : Nat :=
  match Text.offset? ['/'] tail.toList with
  | none => location.utf8ByteSize
  | some n => hostStart + n

/-- The path of a location, with what is to be left out found by its offsets. -/
def pathBySlices? (location : String) : Option String :=
  match Text.offset? scheme location.toList with
  | none => some location
  | some start => do
    let hostStart := start + (String.ofList scheme).utf8ByteSize
    let tail ← Text.slice? location hostStart location.utf8ByteSize
    let before ← Text.slice? location 0 start
    let after ← Text.slice? location (hostStop location hostStart tail) location.utf8ByteSize
    pure (before ++ after)

/-- The letters that a chat directory begins with. -/
def chatName : List Char := "/chat".toList

/-- Whether a chat directory goes on with these bytes.  That of a slash is 47, and those of
the digits are 48 to 57. -/
def goesOn (flavor : Flavor) : List UInt8 → Bool
  | [] => false
  | first :: more =>
    first == 47 ||
      (flavor == .personal && 48 ≤ first && first ≤ 57 && more.head? == some 47)

/-- The first of the offsets at which there is a chat directory. -/
def firstChat? (flavor : Flavor) (path : String) : List Nat → Option (Option Nat)
  | [] => some none
  | n :: ns => do
    let more ← Text.bytesFrom? path (n + (String.ofList chatName).utf8ByteSize)
    if goesOn flavor more then pure (some n) else firstChat? flavor path ns

/-- The base of a path, with the first chat directory found by its offset. -/
def baseBySlices? (flavor : Flavor) (path : String) : Option String := do
  match ← firstChat? flavor path (Text.offsets chatName 0 path.toList) with
  | none => pure path
  | some n => Text.slice? path 0 n

/-- The endpoint, with all that is left out found by its offset.  There is none if a slice
is out of bounds or at no boundary of characters. -/
def endpointBySlices? (s : Settings) : Option String := do
  let path ← pathBySlices? s.location
  let base ← baseBySlices? s.flavor path
  pure (base ++ "/bayeux")

/-! ## The slices that are taken -/

/-- The host ends at the first slash behind its beginning, or else with the location. -/
theorem exists_hostStop (front tail : List Char) :
    ∃ host rest, tail = host ++ rest ∧ '/' ∉ host ∧ EndsHost rest ∧
      hostStop (String.ofList (front ++ tail)) (String.utf8Len front) (String.ofList tail) =
        String.utf8Len (front ++ host) := by
  unfold hostStop
  rw [String.toList_ofList]
  rcases Text.offset?_cases ['/'] tail with ⟨host, more, hfirst, hstop⟩ | ⟨habsent, hnone⟩
  · refine ⟨host, '/' :: more, by simp [hfirst.eq], ?_, .inr rfl, ?_⟩
    · intro hmem
      obtain ⟨earlier, later, rfl⟩ := List.append_of_mem hmem
      have hle := hfirst.le earlier (later ++ '/' :: more) (by simp [hfirst.eq])
      simp at hle
    · simp only [hstop, String.utf8Len_append]
  · refine ⟨tail, [], (List.append_nil tail).symm, ?_, .inl rfl, ?_⟩
    · intro hmem
      obtain ⟨earlier, later, rfl⟩ := List.append_of_mem hmem
      exact habsent ⟨earlier, later, by simp⟩
    · simp only [hnone, String.utf8ByteSize_ofList]

/-- All slices of a location are there to be taken, and they make its path. -/
theorem pathBySlices?_ofList (location : List Char) :
    ∃ path, PathOf location path ∧
      pathBySlices? (String.ofList location) = some (String.ofList path) := by
  rcases Text.offset?_cases scheme location with
    ⟨before, tail, hfirst, hstart⟩ | ⟨habsent, hnone⟩
  · obtain ⟨host, rest, rfl, hhost, hrest, hstop⟩ := exists_hostStop (before ++ scheme) tail
    refine ⟨before ++ rest, .stripped hfirst hhost hrest, ?_⟩
    have htail := Text.slice?_stop (before ++ scheme) (host ++ rest)
    have hbefore := Text.slice?_start before (scheme ++ (host ++ rest))
    have hafter := Text.slice?_stop (before ++ scheme ++ host) rest
    rw [← List.append_assoc] at hbefore
    rw [List.append_assoc (before ++ scheme)] at hafter
    rw [← hfirst.eq, String.utf8Len_append before scheme] at htail hstop
    rw [← hfirst.eq] at hbefore hafter
    have hjoin : String.ofList (before ++ rest) = String.ofList before ++ String.ofList rest :=
      String.ofList_append
    rw [hjoin]
    simp only [pathBySlices?, String.toList_ofList, hstart, String.utf8ByteSize_ofList, htail,
      hbefore, hstop, hafter, Option.bind_eq_bind, Option.bind_some, Option.pure_def]
  · exact ⟨location, .whole habsent, by simp [pathBySlices?, hnone]⟩

theorem chatName_prefix_of_isChat {flavor : Flavor} {rest : List Char} (h : IsChat flavor rest) :
    ∃ more, rest = chatName ++ more := by
  rcases h with ⟨more, rfl⟩ | ⟨-, digit, -, more, rfl⟩
  · exact ⟨'/' :: more, rfl⟩
  · exact ⟨digit :: '/' :: more, rfl⟩

theorem not_isChat_chatName (flavor : Flavor) : ¬IsChat flavor chatName := by
  rintro (⟨more, hmore⟩ | ⟨-, digit, -, more, hmore⟩)
  · simpa [chatName] using congrArg List.length hmore
  · simpa [chatName] using congrArg List.length hmore

/-- Whether there is a chat directory is told by the one or two characters behind its
letters. -/
theorem isChat_chatName_cons_iff (flavor : Flavor) (c : Char) (more : List Char) :
    IsChat flavor (chatName ++ c :: more) ↔
      c = '/' ∨ flavor = .personal ∧ c.isDigit = true ∧ more.head? = some '/' := by
  have hslash : "/chat/".toList <+: chatName ++ c :: more ↔ c = '/' := by
    have hsplit : "/chat/".toList = chatName ++ ['/'] := rfl
    rw [hsplit, List.prefix_append_right_inj, List.cons_prefix_cons]
    exact (and_iff_left List.nil_prefix).trans eq_comm
  have hdigit : ∀ digit, "/chat".toList ++ [digit, '/'] <+: chatName ++ c :: more ↔
      digit = c ∧ more.head? = some '/' := by
    intro digit
    have hname : "/chat".toList = chatName := rfl
    rw [hname, List.prefix_append_right_inj, List.cons_prefix_cons, List.head?_eq_some_iff]
    exact and_congr_right fun _ => exists_congr fun _ => eq_comm
  simp only [IsChat, hslash, hdigit]
  constructor
  · rintro (hc | ⟨hflavor, digit, hisDigit, rfl, hhead⟩)
    · exact .inl hc
    · exact .inr ⟨hflavor, hisDigit, hhead⟩
  · rintro (hc | ⟨hflavor, hisDigit, hhead⟩)
    · exact .inl hc
    · exact .inr ⟨hflavor, c, hisDigit, rfl, hhead⟩

/-- A character of a single byte is a digit if its byte is that of one. -/
theorem isDigit_iff_of_single {c : Char} (hc : c.toNat ≤ 127) :
    c.isDigit = true ↔
      48 ≤ UInt8.ofNat c.toNat ∧ UInt8.ofNat c.toNat ≤ 57 := by
  have hmod : c.toNat % 2 ^ 8 = c.toNat := Nat.mod_eq_of_lt (by omega)
  rw [Char.isDigit_iff_toNat, UInt8.le_iff_toNat_le, UInt8.le_iff_toNat_le, UInt8.toNat_ofNat',
    hmod]
  rfl

/-- With a greater first byte no chat directory goes on. -/
theorem goesOn_of_lt {flavor : Flavor} {first : UInt8} (h : 127 < first.toNat)
    (more : List UInt8) : goesOn flavor (first :: more) = false := by
  have hslash : first ≠ 47 := by
    rintro rfl
    exact absurd h (by decide)
  have hdigit : ¬first ≤ 57 := by
    rw [UInt8.le_iff_toNat_le, not_le]
    exact lt_of_le_of_lt (by decide) h
  simp [goesOn, hslash, hdigit]

theorem not_isChat_chatName_cons_of_lt (flavor : Flavor) {c : Char} (hc : 127 < c.toNat)
    (more : List Char) : ¬IsChat flavor (chatName ++ c :: more) := by
  rw [isChat_chatName_cons_iff]
  rintro (rfl | ⟨-, hdigit, -⟩)
  · exact absurd hc (by decide)
  · exact absurd (hc.trans_le (Char.isDigit_iff_toNat.mp hdigit).2) (by decide)

/-- The bytes behind the letters tell whether there is a chat directory. -/
theorem goesOn_iff (flavor : Flavor) (more : List Char) :
    goesOn flavor (more.flatMap String.utf8EncodeChar) = true ↔
      IsChat flavor (chatName ++ more) := by
  cases more with
  | nil =>
      rw [List.append_nil]
      exact iff_of_false Bool.false_ne_true (not_isChat_chatName flavor)
  | cons c more =>
      rw [List.flatMap_cons]
      rcases Text.utf8EncodeChar_cases c with ⟨hc, henc⟩ | ⟨hc, first, rest, henc, hfirst⟩
      · have hslash : UInt8.ofNat c.toNat = 47 ↔ c = '/' :=
          Text.ofNat_toNat_eq_iff (a := '/') (by decide) hc
        have hnext : (more.flatMap String.utf8EncodeChar).head? = some 47 ↔
            more.head? = some '/' := Text.head?_flatMap_eq_iff (a := '/') (by decide) more
        rw [henc, List.singleton_append, isChat_chatName_cons_iff, isDigit_iff_of_single hc]
        simp [goesOn, hslash, hnext, and_assoc]
      · rw [henc, List.cons_append, goesOn_of_lt hfirst]
        exact iff_of_false Bool.false_ne_true (not_isChat_chatName_cons_of_lt flavor hc more)

/-- Of the offsets that are gone through, the first is found with a chat directory. -/
theorem firstChat?_cases
    (flavor : Flavor) (path : List Char) (ns : List Nat) (hord : ns.Pairwise (· < ·))
    (hns : ∀ n ∈ ns, Text.OccursAt chatName path n) :
    (∃ base rest, path = base ++ rest ∧ IsChat flavor rest ∧
        firstChat? flavor (String.ofList path) ns = some (some (String.utf8Len base)) ∧
        ∀ before after, path = before ++ after → IsChat flavor after →
          String.utf8Len before ∈ ns → String.utf8Len base ≤ String.utf8Len before) ∨
      ((∀ before after, path = before ++ after → IsChat flavor after →
          String.utf8Len before ∉ ns) ∧
        firstChat? flavor (String.ofList path) ns = some none) := by
  induction ns with
  | nil => exact .inr ⟨fun _ _ _ _ => List.not_mem_nil, rfl⟩
  | cons n ns ih =>
      obtain ⟨hfirst, hlater⟩ := List.pairwise_cons.mp hord
      obtain ⟨base, more, hpath, rfl⟩ := hns n List.mem_cons_self
      have hbytes := Text.bytesFrom?_append (base ++ chatName) more
      rw [← hpath, String.utf8Len_append] at hbytes
      by_cases hchat : goesOn flavor (more.flatMap String.utf8EncodeChar) = true
      · refine .inl ⟨base, chatName ++ more, by rw [hpath, List.append_assoc],
          (goesOn_iff flavor more).mp hchat, ?_, ?_⟩
        · simp [firstChat?, String.utf8ByteSize_ofList, hbytes, hchat]
        · intro before after hsplit hafter hmem
          rcases List.mem_cons.mp hmem with heq | hmem
          · exact heq.ge
          · exact (hfirst _ hmem).le
      · -- The offset is passed over, and there is no chat directory at it.
        have hnext : firstChat? flavor (String.ofList path) (String.utf8Len base :: ns) =
            firstChat? flavor (String.ofList path) ns := by
          simp [firstChat?, String.utf8ByteSize_ofList, hbytes, hchat]
        have hnotHere {before after : List Char} (hsplit : path = before ++ after)
            (hafter : IsChat flavor after) : String.utf8Len before ≠ String.utf8Len base := by
          intro heq
          rw [hpath, List.append_assoc] at hsplit
          obtain ⟨-, rfl⟩ := Text.append_inj_of_utf8Len_eq hsplit.symm heq
          exact hchat ((goesOn_iff flavor more).mpr hafter)
        rw [hnext]
        rcases ih hlater (fun m hm => hns m (List.mem_cons_of_mem _ hm)) with
          ⟨base', rest', hpath', hrest', hfound, hleast⟩ | ⟨hnone, hnotFound⟩
        · refine .inl ⟨base', rest', hpath', hrest', hfound, ?_⟩
          intro before after hsplit hafter hmem
          exact hleast before after hsplit hafter
            (List.mem_of_ne_of_mem (hnotHere hsplit hafter) hmem)
        · refine .inr ⟨?_, hnotFound⟩
          intro before after hsplit hafter
          exact List.not_mem_cons_of_ne_of_not_mem (hnotHere hsplit hafter)
            (hnone before after hsplit hafter)

/-- The search for what a chat directory begins with misses none. -/
theorem mem_offsets_chatName_iff (path : List Char) (n : Nat) :
    n ∈ Text.offsets chatName 0 path ↔ Text.OccursAt chatName path n :=
  Text.mem_offsets_iff_occursAt (by decide) 0 path List.not_mem_nil n

/-- All slices of a path are there to be taken, and they make its base. -/
theorem baseBySlices?_ofList (flavor : Flavor) (path : List Char) :
    ∃ base, BaseOf flavor path base ∧
      baseBySlices? flavor (String.ofList path) = some (String.ofList base) := by
  have hmem {before after : List Char} (hsplit : path = before ++ after)
      (hafter : IsChat flavor after) :
      String.utf8Len before ∈ Text.offsets chatName 0 path := by
    obtain ⟨more, rfl⟩ := chatName_prefix_of_isChat hafter
    rw [mem_offsets_chatName_iff]
    exact ⟨before, more, by rw [hsplit, List.append_assoc], rfl⟩
  unfold baseBySlices?
  rw [String.toList_ofList]
  rcases firstChat?_cases flavor path _ (Text.pairwise_offsets chatName 0 path)
      (fun n hn => (mem_offsets_chatName_iff path n).mp hn) with
    ⟨base, rest, hpath, hrest, hfound, hleast⟩ | ⟨hnone, hnotFound⟩
  · refine ⟨base, .cut hpath hrest ?_, ?_⟩
    · intro before after hsplit hafter
      exact Text.length_le_of_utf8Len_le (hpath.symm.trans hsplit)
        (hleast before after hsplit hafter (hmem hsplit hafter))
    · rw [hfound, hpath]
      exact Text.slice?_start base rest
  · refine ⟨path, .whole ?_, by rw [hnotFound]; rfl⟩
    intro before after hsplit hafter
    exact hnone before after hsplit hafter (hmem hsplit hafter)

/-- The endpoint is found with slices that are there to be taken. -/
theorem endpointBySlices?_eq (s : Settings) : endpointBySlices? s = some s.endpoint := by
  obtain ⟨path, hpath, hpathSlices⟩ := pathBySlices?_ofList s.location.toList
  rw [String.ofList_toList] at hpathSlices
  obtain ⟨base, hbase, hbaseSlices⟩ := baseBySlices?_ofList s.flavor path
  obtain rfl := hpath.unique (pathOf_withoutHost _)
  obtain rfl := hbase.unique (baseOf_beforeChat _ _)
  simp [endpointBySlices?, hpathSlices, hbaseSlices, endpoint]

/-! ## Endpoints -/

/-- The endpoint is behind the base of the path of the location. -/
theorem endpoint_eq_iff (s : Settings) (e : String) :
    s.endpoint = e ↔
      ∃ path base, PathOf s.location.toList path ∧ BaseOf s.flavor path base ∧
        e = String.ofList base ++ "/bayeux" := by
  constructor
  · rintro rfl
    exact ⟨_, _, pathOf_withoutHost _, baseOf_beforeChat _ _, rfl⟩
  · rintro ⟨path, base, hpath, hbase, rfl⟩
    rw [hpath.unique (pathOf_withoutHost _)] at hbase
    rw [hbase.unique (baseOf_beforeChat _ _), endpoint]

/-- Behind a scheme at the beginning, no host has a part in the path. -/
theorem withoutHost_scheme_append {host rest : List Char} (hhost : '/' ∉ host)
    (hrest : EndsHost rest) : withoutHost (scheme ++ host ++ rest) = rest := by
  have hfirst : Text.FirstBetween scheme (scheme ++ host ++ rest) [] (host ++ rest) := by
    rw [List.append_assoc]
    exact Text.firstBetween_nil scheme (host ++ rest)
  exact (pathOf_withoutHost _).unique (.stripped hfirst hhost hrest)

/-- The endpoint of a location is behind what stands in its path before the first chat
directory, and the path is the location without its first scheme and the host behind it.
The search for chat directories comes upon everything that looks like the beginning of
one, and all slices that are taken lie in the text and are at characters' boundaries.
No host behind a scheme at the beginning has a part in the endpoint. -/
theorem endpoint_of_location (s : Settings) :
    (∀ e, s.endpoint = e ↔
      ∃ path base, PathOf s.location.toList path ∧ BaseOf s.flavor path base ∧
        e = String.ofList base ++ "/bayeux") ∧
    (∀ path n, n ∈ Text.offsets chatName 0 path ↔ Text.OccursAt chatName path n) ∧
    endpointBySlices? s = some s.endpoint ∧
    ∀ host host' rest : String, '/' ∉ host.toList → '/' ∉ host'.toList → EndsHost rest.toList →
      { s with location := "http://" ++ host ++ rest : Settings }.endpoint =
        { s with location := "http://" ++ host' ++ rest : Settings }.endpoint := by
  refine ⟨endpoint_eq_iff s, mem_offsets_chatName_iff, endpointBySlices?_eq s, ?_⟩
  intro host host' rest hhost hhost' hrest
  have hpath {name : String} (hname : '/' ∉ name.toList) :
      withoutHost ("http://" ++ name ++ rest).toList = rest.toList := by
    rw [String.toList_append, String.toList_append]
    exact withoutHost_scheme_append hname hrest
  simp only [endpoint, hpath hhost, hpath hhost']

/-- A host may be called like a chat directory, and what only looks like the beginning of
one is passed over. -/
example :
    ({ location := "http://chat/é/chat12/chat3/" } : Settings).endpoint = "/é/chat12/bayeux" := by
  decide

end Settings
end BayeuxChat
