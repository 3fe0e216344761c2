import PipelineLint.Proofs.WrittenScalars

set_option autoImplicit false

namespace PipelineLint.Document

def escaped : List Char → List Char
  | [] => []
  | c :: rest => if c = '"' || c = '\\' then '\\' :: c :: escaped rest else c :: escaped rest

def doubleQuoted (text : List Char) : List Char :=
  '"' :: (escaped text ++ ['"'])

def doubled : List Char → List Char
  | [] => []
  | c :: rest => if c = '\'' then '\'' :: '\'' :: doubled rest else c :: doubled rest

def singleQuoted (text : List Char) : List Char :=
  '\'' :: (doubled text ++ ['\''])

def scalarText : Scalar → List Char
  | .null => "null".toList
  | .bool true => "true".toList
  | .bool false => "false".toList
  | .int i => Numeral.intText i
  | .str s => doubleQuoted s.toList
  | _ => []

def flowGap : List Char := [',', ' ']

mutual

def flowText : Value → List Char
  | .scalar s => scalarText s
  | .list items => '[' :: (flowGap.intercalate (itemTexts items) ++ [']'])
  | .map entries => '\x7b' :: (flowGap.intercalate (entryTexts entries) ++ ['\x7d'])

def itemTexts : List Value → List (List Char)
  | [] => []
  | item :: items => flowText item :: itemTexts items

def entryTexts : List (Scalar × Value) → List (List Char)
  | [] => []
  | (key, value) :: entries => (scalarText key ++ ':' :: ' ' :: flowText value) :: entryTexts entries

end

inductive FlowWritable : Value → Prop where
  | null : FlowWritable .null
  | bool (b : Bool) : FlowWritable (.bool b)
  | int (i : Int) : (Numeral.natText i.natAbs).length ≤ Numeral.maxDigits → FlowWritable (.int i)
  | str (s : String) : FlowWritable (.str s)
  | list (items : List Value) : (∀ item ∈ items, FlowWritable item) → FlowWritable (.list items)
  | map (entries : Entries) : (∀ entry ∈ entries, ∃ key : String, entry.1 = .str key) → (Entries.keys entries).Nodup →
      (∀ entry ∈ entries, FlowWritable entry.2) → FlowWritable (.map entries)

theorem take_escaped (text more : List Char) : takeDouble (escaped text ++ '"' :: more) = .closed text more := by
  induction text with
  | nil => rw [escaped, List.nil_append, takeDouble]
  | cons c text ih =>
      rw [escaped]
      by_cases special : c = '"' ∨ c = '\\'
      · have plain : simpleEscape? c = some c := by rcases special with rfl | rfl <;> rfl
        have no_code : c = 'u' → (escaped text ++ '"' :: more).length < 4 := by
          rintro rfl
          cases plain
        rw [if_pos (by simpa using special), List.cons_append, List.cons_append, take_double_escape c _ no_code, plain, ih]
        rfl
      · obtain ⟨no_quote, no_slash⟩ := not_or.mp special
        rw [if_neg (by simpa using special), List.cons_append, take_double_other c _ no_quote no_slash, ih]
        rfl

theorem take_doubled (text more : List Char) (apart : more.head? ≠ some '\'') :
    takeSingle (doubled text ++ '\'' :: more) = .closed text more := by
  induction text with
  | nil => exact take_single_closed more apart
  | cons c text ih =>
      rw [doubled]
      by_cases quote : c = '\''
      · rw [if_pos quote, List.cons_append, List.cons_append, takeSingle, ih, quote]
        rfl
      · rw [if_neg quote, List.cons_append, take_single_other c _ quote, ih]
        rfl

structure Ends (stops more : List Char) : Prop where
  sparing : ∀ c ∈ stops, isWordLetter c = false
  stopped : ∀ c ∈ more.head?, c ∈ stops

theorem word_trimmed (word : List Char) (ink : word ≠ []) (letters : ∀ c ∈ word, isWordLetter c = true) : IsTrimmed word :=
  trimmed_of_visible word ink fun c member => word_letter_visible c (letters c member)

theorem word_bare (word : List Char) (letters : ∀ c ∈ word, isWordLetter c = true) :
    word.head?.any (fun c => opensFlow c || isQuote c) = false := by
  cases word with
  | nil => rfl
  | cons c rest => simp [word_letter_bare c (letters c List.mem_cons_self)]

theorem word_front (whole stops word more : List Char) (value : Value) (ink : word ≠ [])
    (letters : ∀ c ∈ word, isWordLetter c = true) (coerced : coercePlain word = .ok value) (ends : Ends stops more) :
    flowFront? whole stops (word ++ more) = some (value, more) := by
  refine bare_front whole stops word more value (word_trimmed word ink letters) (word_bare word letters) ?_ coerced ends.stopped
  exact fun c member stop => absurd (letters c member) (by rw [ends.sparing c stop]; decide)

theorem text_front (whole stops more : List Char) (s : String) :
    flowFront? whole stops (doubleQuoted s.toList ++ more) = some (.str s, more) := by
  have closes : quotedFront? '"' (escaped s.toList ++ '"' :: more) = some (s.toList, more) := by
    rw [quotedFront?, if_neg (by decide), take_escaped]
    rfl
  rw [doubleQuoted, List.cons_append, List.append_assoc, List.singleton_append,
    quotation_front whole stops s.toList _ more '"' rfl closes, String.ofList_toList]

theorem scalar_front (whole stops more : List Char) (s : Scalar) (writable : FlowWritable (.scalar s))
    (ends : Ends stops more) : flowFront? whole stops (scalarText s ++ more) = some (.scalar s, more) := by
  cases writable with
  | null => exact word_front whole stops _ more .null (by decide) (by decide) rfl ends
  | bool b =>
      cases b with
      | true => exact word_front whole stops _ more (.bool true) (by decide) (by decide) rfl ends
      | false => exact word_front whole stops _ more (.bool false) (by decide) (by decide) rfl ends
  | int i short => exact word_front whole stops _ more (.int i) (int_word i).1 (int_word i).2 (int_coerced i short) ends
  | str s => exact text_front whole stops more s

theorem gap_joined (first second : List Char) (others : List (List Char)) :
    flowGap.intercalate (first :: second :: others) = first ++ ',' :: ' ' :: flowGap.intercalate (second :: others) := by
  simp [List.intercalate, flowGap]

theorem flow_text_head (value : Value) (writable : FlowWritable value) :
    ∃ c rest, flowText value = c :: rest ∧ isFlowSpace c = false ∧ [',', ']', '\x7d'].contains c = false := by
  cases writable with
  | null => exact ⟨'n', _, rfl, by decide, by decide⟩
  | bool b => cases b <;> exact ⟨_, _, rfl, by decide, by decide⟩
  | int i _ =>
      obtain ⟨c, rest, split, first, -⟩ := int_text_head i
      refine ⟨c, rest, split, ?_⟩
      rcases first with rfl | digit
      · decide
      · have other (d : Char) (no_digit : d.isDigit = false) : c ≠ d := by
          rintro rfl
          rw [digit] at no_digit
          cases no_digit
        simp [isFlowSpace, other ' ' rfl, other '\t' rfl, other '\n' rfl, other ',' rfl, other ']' rfl, other '\x7d' rfl]
  | str s => exact ⟨'"', _, rfl, by decide, by decide⟩
  | list items _ => exact ⟨'[', _, rfl, by decide, by decide⟩
  | map entries _ _ _ => exact ⟨'\x7b', _, rfl, by decide, by decide⟩

def ReadAnywhere (whole : List Char) (value : Value) : Prop :=
  ∀ stops more, Ends stops more → flowFront? whole stops (flowText value ++ more) = some (value, more)

theorem space_entries (whole text : List Char) (done : Entries) :
    entriesFront? whole done (' ' :: text) = entriesFront? whole done text := by
  rw [entries_front, entries_front whole done text, flow_front_cons]
  rfl

theorem flow_text_start (value : Value) (writable : FlowWritable value) :
    (flowText value).head?.any (fun c => !isFlowSpace c && c ≠ ']') = true := by
  obtain ⟨c, rest, split, no_space, no_stop⟩ := flow_text_head value writable
  simp only [List.contains_eq_mem, List.mem_cons, decide_eq_false_iff_not, not_or] at no_stop
  simp [split, no_space, no_stop]

theorem items_front_written (whole more : List Char) (items : List Value) (writable : ∀ item ∈ items, FlowWritable item)
    (read : ∀ item ∈ items, ReadAnywhere whole item) :
    itemsFront? whole (flowGap.intercalate (itemTexts items) ++ ']' :: more) = some (items, more) := by
  induction items with
  | nil =>
      rw [items_front]
      rfl
  | cons item items ih =>
      obtain ⟨first, others⟩ := List.forall_mem_cons.mp writable
      obtain ⟨here, behind⟩ := List.forall_mem_cons.mp read
      cases items with
      | nil =>
          have last := here itemStops (']' :: more) ⟨by decide, by simp [itemStops]⟩
          rw [itemTexts, itemTexts, List.intercalate_singleton, item_front whole _ _ item (flow_text_start item first) last]
          rfl
      | cons next items =>
          have rest := ih others behind
          rw [itemTexts, itemTexts, gap_joined, ← itemTexts, List.append_assoc, List.cons_append, List.cons_append]
          have inner := here itemStops (',' :: ' ' :: (flowGap.intercalate (itemTexts (next :: items)) ++ ']' :: more))
            ⟨by decide, by simp [itemStops]⟩
          rw [item_front whole _ _ item (flow_text_start item first) inner]
          show (itemsFront? whole (' ' :: _)).map _ = _
          rw [space_items, rest]
          rfl

theorem entry_front (whole after : List Char) (done : Entries) (key : String) (value : Value) (writable : FlowWritable value)
    (read : flowFront? whole entryStops (flowText value ++ after) = some (value, after)) :
    entriesFront? whole done (scalarText (.str key) ++ ':' :: ' ' :: (flowText value ++ after)) =
      match skipFlowSpaces after with
      | ',' :: more => entriesFront? whole (done.put (.str key) value) more
      | '\x7d' :: final => some (done.put (.str key) value, final)
      | _ => none := by
  obtain ⟨c, rest, split, no_space, no_stop⟩ := flow_text_head value writable
  have start : skipFlowSpaces (' ' :: (flowText value ++ after)) = c :: (rest ++ after) := by
    rw [split, List.cons_append, skipFlowSpaces, List.dropWhile_cons_of_pos (by decide),
      List.dropWhile_cons_of_neg (by simp [no_space])]
  have held : behindKey? whole (':' :: ' ' :: (flowText value ++ after)) = some (value, after) := by
    show behindColon? whole (' ' :: (flowText value ++ after)) = _
    rw [behindColon?, start, flow_front_cons, if_pos (by decide), read]
    split
    · rename_i same
      cases same
      cases no_stop
    · rename_i same
      cases same
      cases no_stop
    · rfl
  rw [entries_front, scalarText, text_front, Option.bind_some, held]
  rfl

theorem entries_front_written (whole more : List Char) (done entries : Entries)
    (keys : ∀ entry ∈ entries, ∃ key : String, entry.1 = .str key) (apart : KeysApart (done ++ entries))
    (writable : ∀ entry ∈ entries, FlowWritable entry.2) (read : ∀ entry ∈ entries, ReadAnywhere whole entry.2) :
    entriesFront? whole done (flowGap.intercalate (entryTexts entries) ++ '\x7d' :: more) = some (done ++ entries, more) := by
  induction entries generalizing done with
  | nil =>
      rw [entries_front, List.append_nil]
      rfl
  | cons entry entries ih =>
      obtain ⟨key, value⟩ := entry
      obtain ⟨⟨name, rfl⟩, names⟩ := List.forall_mem_cons.mp keys
      obtain ⟨first, others⟩ := List.forall_mem_cons.mp writable
      obtain ⟨here, behind⟩ := List.forall_mem_cons.mp read
      have put : done.put (.str name) value = done ++ [(.str name, value)] := by
        refine put_new done (.str name) value fun old member => ?_
        rw [KeysApart, Entries.keys, List.map_append, List.pairwise_append] at apart
        exact apart.2.2 old member (.str name) List.mem_cons_self
      cases entries with
      | nil =>
          have last := here entryStops ('\x7d' :: more) ⟨by decide, by simp [entryStops]⟩
          rw [entryTexts, entryTexts, List.intercalate_singleton, List.append_assoc, List.cons_append, List.cons_append,
            entry_front whole _ done name value first last, put]
          rfl
      | cons next entries =>
          have rest := ih (done ++ [(.str name, value)]) names (by rwa [List.append_assoc]) others behind
          have inner := here entryStops (',' :: ' ' :: (flowGap.intercalate (entryTexts (next :: entries)) ++ '\x7d' :: more))
            ⟨by decide, by simp [entryStops]⟩
          rw [entryTexts, entryTexts, gap_joined, ← entryTexts]
          simp only [List.append_assoc, List.cons_append]
          rw [entry_front whole _ done name value first inner]
          show entriesFront? whole _ (' ' :: _) = _
          rw [space_entries, put, rest, List.append_assoc]
          rfl

theorem flow_front_written (whole : List Char) (value : Value) (writable : FlowWritable value) : ReadAnywhere whole value := by
  induction writable with
  | null => exact fun stops more ends => scalar_front whole stops more .null .null ends
  | bool b => exact fun stops more ends => scalar_front whole stops more (.bool b) (.bool b) ends
  | int i short => exact fun stops more ends => scalar_front whole stops more (.int i) (.int i short) ends
  | str s => exact fun stops more ends => scalar_front whole stops more (.str s) (.str s) ends
  | list items written read =>
      intro stops more _
      rw [flowText, List.cons_append, List.append_assoc, flow_front_cons, if_neg (by decide), if_pos rfl,
        List.singleton_append, items_front_written whole more items written read]
      rfl
  | map entries keys distinct written read =>
      intro stops more _
      have apart : KeysApart ([] ++ entries) := string_keys_apart entries keys distinct
      rw [flowText, List.cons_append, List.append_assoc, flow_front_cons, if_neg (by decide), if_neg (by decide), if_pos rfl,
        List.singleton_append, entries_front_written whole more [] entries keys apart written read]
      rfl

theorem word_read (word : List Char) (value : Value) (ink : word ≠ []) (letters : ∀ c ∈ word, isWordLetter c = true)
    (coerced : coercePlain word = .ok value) : readInline word = .ok value := by
  have bare := word_bare word letters
  unfold readInline
  rw [trimmed_trim word (word_trimmed word ink letters)]
  cases word with
  | nil => contradiction
  | cons c rest =>
      simp only [List.head?_cons, Option.any_some, Bool.or_eq_false_iff] at bare
      simp only [bare.1, bare.2, Bool.false_eq_true, if_false]
      exact coerced

theorem flow_text_read (value : Value) (writable : FlowWritable value) : readInline (flowText value) = .ok value := by
  have front (whole : List Char) : flowFront? whole (']' :: entryStops) (flowText value) = some (value, []) := by
    have anywhere := flow_front_written whole value writable (']' :: entryStops) [] ⟨by decide, fun c none => by cases none⟩
    rwa [List.append_nil] at anywhere
  cases writable with
  | null => exact word_read _ .null (by decide) (by decide) rfl
  | bool b => cases b <;> exact word_read _ _ (by decide) (by decide) rfl
  | int i short => exact word_read _ (.int i) (int_word i).1 (int_word i).2 (int_coerced i short)
  | str s =>
      have closes : quotedFront? '"' (escaped s.toList ++ ['"']) = some (s.toList, []) := by
        rw [quotedFront?, if_neg (by decide), take_escaped]
        rfl
      have read := quoted_text_read '"' (escaped s.toList) s.toList (by decide) closes
      rwa [String.ofList_toList] at read
  | list items _ => exact collection_read '[' _ ']' (.list items) (by decide) (by decide) front
  | map entries _ _ _ => exact collection_read '\x7b' _ '\x7d' (.map entries) (by decide) (by decide) front

theorem single_quoted_read (s : String) : readInline (singleQuoted s.toList) = .ok (.str s) := by
  have closes : quotedFront? '\'' (doubled s.toList ++ ['\'']) = some (s.toList, []) := by
    rw [quotedFront?, if_pos rfl, take_doubled s.toList [] (by decide)]
    rfl
  have read := quoted_text_read '\'' (doubled s.toList) s.toList (by decide) closes
  rwa [String.ofList_toList] at read

/-- The text of a null, a boolean, an integer, a string, a list or a mapping in flow style is read as that value,
whatever it holds; so is any text between single quotes. -/
theorem flow_texts_read :
    (∀ value, FlowWritable value → readInline (flowText value) = .ok value) ∧
      ∀ s : String, readInline (singleQuoted s.toList) = .ok (.str s) :=
  ⟨flow_text_read, single_quoted_read⟩

def syntaxInside : Value :=
  .map [(.str "a: \"b", .list [.null, .int (-5), .str "], \\u0041 #"]), (.str "", .map [])]

theorem flow_texts_read_inside : FlowWritable syntaxInside ∧
    flowText syntaxInside = "\x7b\"a: \\\"b\": [null, -5, \"], \\\\u0041 #\"], \"\": \x7b\x7d\x7d".toList ∧
    readInline (flowText syntaxInside) = .ok syntaxInside := by
  have items : ∀ item ∈ [Value.null, .int (-5), .str "], \\u0041 #"], FlowWritable item := by
    simp only [List.forall_mem_cons]
    exact ⟨.null, .int (-5) (by decide), .str _, fun _ member => nomatch member⟩
  have writable : FlowWritable syntaxInside := by
    refine .map _ ?_ (by decide) ?_
    · simp only [List.forall_mem_cons]
      exact ⟨⟨_, rfl⟩, ⟨_, rfl⟩, fun _ member => nomatch member⟩
    · simp only [List.forall_mem_cons]
      exact ⟨.list _ items, .map [] (fun _ member => nomatch member) .nil (fun _ member => nomatch member),
        fun _ member => nomatch member⟩
  exact ⟨writable, by decide, flow_texts_read.1 syntaxInside writable⟩

end PipelineLint.Document
