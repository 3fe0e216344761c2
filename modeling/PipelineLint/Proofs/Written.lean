import PipelineLint.Document.BlockScalar
import PipelineLint.Repair.Sites
/-!
Documents as they are written in block style: entries and items on lines of their own, what they
hold behind them or below, texts of several lines under their keys, with blank lines and comments in
between. Main statement: every value of the plain kinds that has parts can be written so, in every
column.
-/

set_option autoImplicit false

namespace PipelineLint.Document

def isWritable (c : Char) : Bool :=
  c ≠ '"' && c ≠ '\\' && c ≠ '\t' && !Text.isLineBreak c

def isKeyLetter (c : Char) : Bool :=
  Text.isNameStart c || c.isDigit

-- A key as it is written: an ASCII letter or an underscore, and then digits too.
def isWrittenKey : List Char → Bool
  | [] => false
  | c :: rest => Text.isNameStart c && rest.all isKeyLetter

def isSingle (c : Char) : Bool :=
  c ≠ '\'' && c ≠ '\t' && !Text.isLineBreak c

def isPlain (c : Char) : Bool :=
  isSingle c && c ≠ '"' && c ≠ '#'

-- No colon stands at the end or in front of a blank, where it would end a key.
def colonsInside : List Char → Bool
  | [] => true
  | c :: rest => (c ≠ ':' || rest.head?.any fun d => !Text.isBlank d) && colonsInside rest

-- A word without quotes that stands for another value than itself.
def isReserved (text : List Char) : Bool :=
  nullWords.contains (String.ofList text) || trueWords.contains (String.ofList (Text.lower text)) ||
    falseWords.contains (String.ofList (Text.lower text))

structure IsPlainText (text : List Char) : Prop where
  starts : text.head?.any Text.isNameStart = true
  ends : text.getLast?.any Text.isBlank = false
  plain : text.all isPlain = true
  colons : colonsInside text = true
  free : isReserved text = false

inductive Spelled : Scalar → List Char → Prop where
  | yes : Spelled (.bool true) "true".toList
  | no : Spelled (.bool false) "false".toList
  | int (i : Int) : (Numeral.natText i.natAbs).length ≤ Numeral.maxDigits → Spelled (.int i) (Numeral.intText i)
  | str (s : String) : s.toList.all isWritable = true → Spelled (.str s) ('"' :: (s.toList ++ ['"']))
  | single (s : String) : s.toList.all isSingle = true → Spelled (.str s) ('\'' :: (s.toList ++ ['\'']))
  | plain (s : String) : IsPlainText s.toList → Spelled (.str s) s.toList

def isFlowMark (c : Char) : Bool :=
  [',', '[', ']', '\x7b', '\x7d'].contains c

inductive FlowItem : Scalar → List Char → Prop where
  | null : FlowItem .null "null".toList
  | spelled {s : Scalar} {text : List Char} : Spelled s text → (text.head?.any isQuote = true ∨ text.any isFlowMark = false) →
      FlowItem s text

inductive FlowItems : List Value → List Char → Prop where
  | last {s : Scalar} {text : List Char} : FlowItem s text → FlowItems [.scalar s] text
  | more {s : Scalar} {items : List Value} {text others : List Char} : FlowItem s text → FlowItems items others →
      FlowItems (.scalar s :: items) (text ++ ',' :: ' ' :: others)

-- How a value is written behind a colon or a dash. Null is nothing at all. A mapping between braces has keys that a repair does
-- not look at, and is left out.
inductive Inline : Value → List Char → Prop where
  | null : Inline .null []
  | scalar {s : Scalar} {text : List Char} : Spelled s text → Inline (.scalar s) text
  | noItems : Inline (.list []) ['[', ']']
  | noEntries : Inline (.map []) ['\x7b', '\x7d']
  | items {items : List Value} {text : List Char} : FlowItems items text → Inline (.list items) ('[' :: (text ++ [']']))

def isFlat (c : Char) : Bool :=
  c ≠ '\t' && !Text.isLineBreak c

/-- Lines that a block scalar can hold. -/
structure BlockLines (lines : List (List Char)) : Prop where
  flat : ∀ line ∈ lines, ∀ c ∈ line, isFlat c = true
  ink : ∀ line ∈ lines, line ≠ [] → ∃ c ∈ line, Text.isBlank c = false
  first : ∃ c rest others, lines = (c :: rest) :: others ∧ c ≠ ' '
  last : ∃ line ∈ lines.getLast?, line ≠ []

def Chomp.mark : Chomp → List Char
  | .clip => []
  | .strip => ['-']
  | .keep => ['+']

def Chomp.feeds (blanks : Nat) : Chomp → List Char
  | .clip => ['\n']
  | .strip => []
  | .keep => List.replicate (blanks + 1) '\n'

def blockMark (folded : Bool) : Char :=
  if folded then '>' else '|'

def indented (depth : Nat) (line : List Char) : List Char :=
  if line = [] then [] else List.replicate depth ' ' ++ line

def blockContent (folds : Bool) (chomp : Chomp) (lines : List (List Char)) (blanks : Nat) : List Char :=
  (if folds then foldLines lines else Text.joinFeeds lines) ++ chomp.feeds blanks

-- A line with a plain key in front, maybe behind a dash.
def leadsKey (line : List Char) : Bool :=
  let ink := line.dropWhile (· = ' ')
  match Repair.dashWidth? ink with
  | some width => ( Repair.plainEntry? (ink.drop width)).isSome
  | none => ( Repair.plainEntry? ink).isSome

-- How a text is written on lines of its own: the mark of the scalar and its lines, the blank ones at the end among them.
-- Lines that lead a key are left out: an edit of one is not told from an edit of a key by the line alone.
inductive BlockText : String → List Char → List (List Char) → Prop where
  | lines (folds : Bool) (chomp : Chomp) (lines : List (List Char)) (blanks : Nat) : BlockLines lines →
      (∀ line ∈ lines, leadsKey line = false) →
      BlockText (String.ofList (blockContent folds chomp lines blanks)) (blockMark folds :: chomp.mark)
        (lines ++ List.replicate blanks [])

theorem Inline.int (i : Int) (short : (Numeral.natText i.natAbs).length ≤ Numeral.maxDigits) :
    Inline (.int i) (Numeral.intText i) :=
  .scalar (.int i short)

theorem Inline.str (s : String) (writable : s.toList.all isWritable = true) : Inline (.str s) ('"' :: (s.toList ++ ['"'])) :=
  .scalar (.str s writable)

theorem flow_items_scalars (items : List Value) (text : List Char) (listed : FlowItems items text) :
    ∀ item ∈ items, ∃ s, item = .scalar s := by
  induction listed with
  | last item => exact List.forall_mem_singleton.mpr ⟨_, rfl⟩
  | more item _ others => exact List.forall_mem_cons.mpr ⟨⟨_, rfl⟩, others⟩

theorem flow_items_inline (items : List Value) (text : List Char) (listed : FlowItems items text) :
    ∀ item ∈ items, ∃ other, Inline item other := by
  have alone {s : Scalar} {text : List Char} (item : FlowItem s text) : ∃ other, Inline (.scalar s) other := by
    cases item with
    | null => exact ⟨_, .null⟩
    | spelled spelled _ => exact ⟨_, .scalar spelled⟩
  induction listed with
  | last item => exact List.forall_mem_singleton.mpr (alone item)
  | more item _ others => exact List.forall_mem_cons.mpr ⟨alone item, others⟩

-- A text of several lines stands under a key, and not in a list.
inductive Writable : Value → Prop where
  | inline (value : Value) (text : List Char) : Inline value text → Writable value
  | text (s : String) (mark : List Char) (lines : List (List Char)) : BlockText s mark lines → Writable (.str s)
  | list (items : List Value) : (∀ item ∈ items, Writable item) →
      (∀ item ∈ items, ∀ s : String, item = .str s → ∃ text, Inline item text) → Writable (.list items)
  | map (entries : Entries) : (∀ entry ∈ entries, ∃ key : String, entry.1 = .str key ∧ isWrittenKey key.toList = true) →
      (Entries.keys entries).Nodup → (∀ entry ∈ entries, Writable entry.2) → Writable (.map entries)

theorem inline_items (items : List Value) (text : List Char) (inline : Inline (.list items) text) :
    ∀ item ∈ items, Writable item := by
  cases inline with
  | noItems => simp
  | items listed =>
      intro item member
      obtain ⟨other, said⟩ := flow_items_inline items _ listed item member
      exact .inline item other said

def HasParts : Value → Prop
  | .list items => items ≠ []
  | .map entries => entries ≠ []
  | .scalar _ => False

mutual

-- A value as it is read: of the entries of one key, the last one counts, in the place of the first one.
def merged : Value → Value
  | .scalar s => .scalar s
  | .list items => .list (mergedItems items)
  | .map entries => .map (mergedEntries [] entries)

def mergedItems : List Value → List Value
  | [] => []
  | item :: items => merged item :: mergedItems items

def mergedEntries (done : Entries) : Entries → Entries
  | [] => done
  | (key, value) :: entries => mergedEntries (done.put key (merged value)) entries

end

def KeysApart (entries : Entries) : Prop :=
  (Entries.keys entries).Pairwise fun first second => first.sameKey second = false

theorem put_new (entries : Entries) (key : Scalar) (value : Value) (new : ∀ old ∈ Entries.keys entries, old.sameKey key = false) :
    Entries.put entries key value = entries ++ [(key, value)] := by
  induction entries with
  | nil => rfl
  | cons entry entries ih =>
      obtain ⟨old, held⟩ := entry
      obtain ⟨here, others⟩ := List.forall_mem_cons.mp new
      rw [Entries.put, if_neg (by simp [here]), ih others]
      rfl

theorem merged_items_same (items : List Value) (same : ∀ item ∈ items, merged item = item) : mergedItems items = items := by
  induction items with
  | nil => rfl
  | cons item items ih =>
      obtain ⟨first, others⟩ := List.forall_mem_cons.mp same
      rw [mergedItems, first, ih others]

theorem inline_merged (value : Value) (text : List Char) (inline : Inline value text) : merged value = value := by
  cases inline with
  | items listed =>
      rw [merged, merged_items_same _ fun item member => ?_]
      obtain ⟨s, rfl⟩ := flow_items_scalars _ _ listed item member
      rfl
  | _ => rfl

theorem merged_entries_apart (done entries : Entries) (apart : KeysApart (done ++ entries)) :
    mergedEntries done entries = done ++ entries.map fun entry => (entry.1, merged entry.2) := by
  induction entries generalizing done with
  | nil => exact (List.append_nil done).symm
  | cons entry entries ih =>
      obtain ⟨key, value⟩ := entry
      have new : ∀ old ∈ Entries.keys done, old.sameKey key = false := fun old member => by
        rw [KeysApart, Entries.keys, List.map_append, List.pairwise_append] at apart
        exact apart.2.2 old member key List.mem_cons_self
      have onward : KeysApart ((done ++ [(key, merged value)]) ++ entries) := by
        simpa [KeysApart, Entries.keys] using apart
      rw [mergedEntries, put_new done key (merged value) new, ih _ onward]
      simp

theorem string_keys_apart (entries : Entries) (keys : ∀ entry ∈ entries, ∃ key : String, entry.1 = .str key)
    (distinct : (Entries.keys entries).Nodup) : KeysApart entries := by
  refine distinct.imp_of_mem fun first second differ => ?_
  obtain ⟨entry, member, rfl⟩ := List.mem_map.mp first
  obtain ⟨other, also, rfl⟩ := List.mem_map.mp second
  obtain ⟨key, same⟩ := keys entry member
  obtain ⟨name, named⟩ := keys other also
  rw [same, named] at differ ⊢
  rw [Scalar.sameKey_str, beq_eq_false_iff_ne]
  rintro rfl
  exact differ rfl

theorem writable_merged (value : Value) (writable : Writable value) : merged value = value := by
  induction writable with
  | inline value text inline => exact inline_merged value text inline
  | text s mark lines _ => rfl
  | list items _ _ same => rw [merged, merged_items_same items same]
  | map entries keys distinct _ same =>
      have kept : entries.map (fun entry => (entry.1, merged entry.2)) = entries := by
        rw [List.map_congr_left fun entry member => by rw [same entry member]]
        exact List.map_id entries
      have names : ∀ entry ∈ entries, ∃ key : String, entry.1 = .str key :=
        fun entry member => (keys entry member).imp fun _ written => written.1
      rw [merged, merged_entries_apart [] entries (string_keys_apart entries names distinct), List.nil_append, kept]

theorem single_writable (key : String) (value : Value) (named : isWrittenKey key.toList = true) (held : Writable value) :
    Writable (.map [(.str key, value)]) :=
  .map _ (List.forall_mem_singleton.mpr ⟨key, rfl, named⟩) (by simp [Entries.keys]) (List.forall_mem_singleton.mpr held)

theorem pair_writable (one other : String) (first second : Value) (named : isWrittenKey one.toList = true)
    (called : isWrittenKey other.toList = true) (differ : one ≠ other) (held : Writable first) (kept : Writable second) :
    Writable (.map [(.str one, first), (.str other, second)]) :=
  .map _ (List.forall_mem_cons.mpr ⟨⟨one, rfl, named⟩, List.forall_mem_singleton.mpr ⟨other, rfl, called⟩⟩)
    (by simpa [Entries.keys] using differ) (List.forall_mem_cons.mpr ⟨held, List.forall_mem_singleton.mpr kept⟩)

-- A line, and the lines of the text that stands below it.
structure Row where
  column : Nat
  text : List Char
  body : List (List Char)

def spaced : List Char → List Char
  | [] => []
  | text => ' ' :: text

def entryText (key : String) (text : List Char) : List Char :=
  key.toList ++ ':' :: spaced text

def itemText (text : List Char) : List Char :=
  '-' :: spaced text

mutual

inductive BlockRows : Nat → Value → List Row → Prop where
  | map {column : Nat} {entries : Entries} {rows : List Row} : entries ≠ [] → EntriesRows column entries rows →
      BlockRows column (.map entries) rows
  | list {column : Nat} {items : List Value} {rows : List Row} : items ≠ [] → ItemsRows column items rows →
      BlockRows column (.list items) rows

inductive EntriesRows : Nat → Entries → List Row → Prop where
  | nil {column : Nat} : EntriesRows column [] []
  | cons {column : Nat} {key : String} {value : Value} {entries : Entries} (rows more : List Row) :
      isWrittenKey key.toList = true → EntryRows column key value rows → EntriesRows column entries more →
      EntriesRows column ((.str key, value) :: entries) (rows ++ more)

-- A key with its value behind the colon or deeper below, and a text on lines of its own. A list may stand right below its key.
inductive EntryRows : Nat → String → Value → List Row → Prop where
  | inline {column : Nat} {key : String} {value : Value} (text : List Char) : Inline value text →
      EntryRows column key value [⟨column, entryText key text, []⟩]
  | text {column : Nat} {key s : String} (mark : List Char) (lines : List (List Char)) (deeper : Nat) : column < deeper →
      BlockText s mark lines → EntryRows column key (.str s) [⟨column, entryText key mark, lines.map (indented deeper)⟩]
  | nested {column : Nat} {key : String} {value : Value} (deeper : Nat) (rows : List Row) : column < deeper →
      BlockRows deeper value rows → EntryRows column key value (⟨column, entryText key [], []⟩ :: rows)
  | level {column : Nat} {key : String} {items : List Value} (rows : List Row) : items ≠ [] →
      ItemsRows column items rows → EntryRows column key (.list items) (⟨column, entryText key [], []⟩ :: rows)

inductive ItemsRows : Nat → List Value → List Row → Prop where
  | nil {column : Nat} : ItemsRows column [] []
  | cons {column : Nat} {item : Value} {items : List Value} (rows more : List Row) : ItemRows column item rows →
      ItemsRows column items more → ItemsRows column (item :: items) (rows ++ more)

-- A dash with its value behind it. Of a list or a mapping the first row stands behind the dash.
inductive ItemRows : Nat → Value → List Row → Prop where
  | inline {column : Nat} {value : Value} (text : List Char) : Inline value text →
      ItemRows column value [⟨column, itemText text, []⟩]
  | inPlace {column : Nat} {value : Value} (text : List Char) (body : List (List Char)) (rows : List Row) :
      BlockRows (column + 2) value (⟨column + 2, text, body⟩ :: rows) →
      ItemRows column value (⟨column, itemText text, body⟩ :: rows)

end

def isSilent (text : List Char) : Bool :=
  (Text.trimLeft text).head?.all (· = '#')

structure IsFiller (line : List Char) : Prop where
  one_line : line.any Text.isLineBreak = false
  silent : isSilent line = true

inductive Trail : List Char → Prop where
  | none : Trail []
  | comment (width : Nat) (text : List Char) : Trail (' ' :: (List.replicate width ' ' ++ '#' :: text))

-- Behind a text of several lines the document ends or says something: a blank line or a comment could be one of the text.
def Resumes (lines : List (List Char)) : Prop :=
  lines = [[]] ∨ lines.head?.any (fun line => !isSilent line) = true

-- The lines of a document that has certain rows.
inductive LaidOut : List Row → List (List Char) → Prop where
  | nil : LaidOut [] []
  | filler {rows : List Row} (line : List Char) (lines : List (List Char)) : IsFiller line → LaidOut rows lines →
      LaidOut rows (line :: lines)
  | row {row : Row} {rows : List Row} (trail : List Char) (lines : List (List Char)) : Trail trail →
      trail.any Text.isLineBreak = false → (row.body = [] ∨ Resumes lines) → LaidOut rows lines →
      LaidOut (row :: rows) ((List.replicate row.column ' ' ++ (row.text ++ trail)) :: (row.body ++ lines))

theorem items_written (items : List Value) (column : Nat)
    (written : ∀ item ∈ items, ∃ rows, ItemRows column item rows) : ∃ rows, ItemsRows column items rows := by
  induction items with
  | nil => exact ⟨[], .nil⟩
  | cons item items ih =>
      obtain ⟨rows, first⟩ := written item List.mem_cons_self
      obtain ⟨more, rest⟩ := ih fun other member => written other (List.mem_cons_of_mem _ member)
      exact ⟨rows ++ more, .cons rows more first rest⟩

theorem inline_written (value : Value) (text : List Char) (inline : Inline value text) (parts : HasParts value) (column : Nat) :
    ∃ rows, BlockRows column value rows := by
  cases inline with
  | null => cases parts
  | scalar spelled => cases parts
  | noItems => exact absurd rfl parts
  | noEntries => exact absurd rfl parts
  | @items items _ listed =>
      obtain ⟨rows, written⟩ := items_written items column fun item member => by
        obtain ⟨other, inline⟩ := flow_items_inline _ _ listed item member
        exact ⟨_, .inline other inline⟩
      exact ⟨rows, .list parts written⟩

theorem entries_written (entries : Entries) (column : Nat)
    (keys : ∀ entry ∈ entries, ∃ key : String, entry.1 = .str key ∧ isWrittenKey key.toList = true)
    (written : ∀ entry ∈ entries, ∀ key, ∃ rows, EntryRows column key entry.2 rows) :
    ∃ rows, EntriesRows column entries rows := by
  induction entries with
  | nil => exact ⟨[], .nil⟩
  | cons entry entries ih =>
      obtain ⟨key, same, name⟩ := keys entry List.mem_cons_self
      obtain ⟨rows, first⟩ := written entry List.mem_cons_self key
      obtain ⟨more, rest⟩ := ih (fun other member => keys other (List.mem_cons_of_mem _ member))
        fun other member => written other (List.mem_cons_of_mem _ member)
      obtain ⟨scalar, value⟩ := entry
      subst same
      exact ⟨rows ++ more, .cons rows more name first rest⟩

theorem entry_rows_first (column : Nat) (key : String) (value : Value) (rows : List Row)
    (written : EntryRows column key value rows) : ∃ text body more, rows = ⟨column, entryText key text, body⟩ :: more := by
  cases written with
  | inline text _ => exact ⟨text, [], [], rfl⟩
  | text mark lines deeper _ _ => exact ⟨mark, _, [], rfl⟩
  | nested deeper rows _ _ => exact ⟨[], [], rows, rfl⟩
  | level rows _ _ => exact ⟨[], [], rows, rfl⟩

theorem item_rows_first (column : Nat) (value : Value) (rows : List Row) (written : ItemRows column value rows) :
    ∃ text body more, rows = ⟨column, itemText text, body⟩ :: more := by
  cases written with
  | inline text _ => exact ⟨text, [], [], rfl⟩
  | inPlace text body rows _ => exact ⟨text, body, rows, rfl⟩

theorem block_rows_first (column : Nat) (value : Value) (rows : List Row) (written : BlockRows column value rows) :
    ∃ text body more, rows = ⟨column, text, body⟩ :: more := by
  cases written with
  | map some_entry written =>
      cases written with
      | nil => contradiction
      | cons first rest name entry others =>
          obtain ⟨text, body, more, rfl⟩ := entry_rows_first column _ _ first entry
          exact ⟨_, body, more ++ rest, rfl⟩
  | list some_item written =>
      cases written with
      | nil => contradiction
      | cons first rest item others =>
          obtain ⟨text, body, more, rfl⟩ := item_rows_first column _ first item
          exact ⟨_, body, more ++ rest, rfl⟩

-- A value is written behind its key or dash, below it, or on lines of its own, which only a text is.
theorem writable_written (value : Value) (writable : Writable value) :
    (∃ text, Inline value text) ∨ (∀ column, ∃ rows, BlockRows column value rows) ∨
      ∃ s mark lines, value = .str s ∧ BlockText s mark lines := by
  induction writable with
  | inline value text inline => exact .inl ⟨text, inline⟩
  | text s mark lines text => exact .inr (.inr ⟨s, mark, lines, rfl, text⟩)
  | list items _ behind written =>
      by_cases empty : items = []
      · subst empty
        exact .inl ⟨_, .noItems⟩
      · refine .inr (.inl fun column => ?_)
        obtain ⟨rows, listed⟩ := items_written items column fun item member => by
          rcases written item member with ⟨text, inline⟩ | block | ⟨s, -, -, same, -⟩
          · exact ⟨_, .inline text inline⟩
          · obtain ⟨rows, below⟩ := block (column + 2)
            obtain ⟨text, body, more, rfl⟩ := block_rows_first (column + 2) item rows below
            exact ⟨_, .inPlace text body more below⟩
          · obtain ⟨text, inline⟩ := behind item member s same
            exact ⟨_, .inline text inline⟩
        exact ⟨rows, .list empty listed⟩
  | map entries keys _ _ written =>
      by_cases empty : entries = []
      · subst empty
        exact .inl ⟨_, .noEntries⟩
      · refine .inr (.inl fun column => ?_)
        obtain ⟨rows, listed⟩ := entries_written entries column keys fun entry member key => by
          rcases written entry member with ⟨text, inline⟩ | block | ⟨s, mark, lines, same, text⟩
          · exact ⟨_, .inline text inline⟩
          · obtain ⟨rows, below⟩ := block (column + 1)
            exact ⟨_, .nested (column + 1) rows (Nat.lt_succ_self column) below⟩
          · rw [same]
            exact ⟨_, .text mark lines (column + 1) (Nat.lt_succ_self column) text⟩
        exact ⟨rows, .map empty listed⟩

theorem parts_written (value : Value) (writable : Writable value) (parts : HasParts value) (column : Nat) :
    ∃ rows, BlockRows column value rows := by
  rcases writable_written value writable with ⟨text, inline⟩ | block | ⟨s, -, -, rfl, -⟩
  · exact inline_written value text inline parts column
  · exact block column
  · cases parts

end PipelineLint.Document
