import PipelineLint.Proofs.Calls
import PipelineLint.Proofs.Lexemes

set_option autoImplicit false

namespace PipelineLint.Expression

structure CallSite.Stands (site : CallSite) (pre tail : List Char) : Prop where
  identifier : Text.isIdentifier site.name = true
  opens : Opens tail
  outside : isOutside (charBehind none pre) = true
  start : site.start = pre.length
  point : site.kind = .method ↔ inkBehind none pre = some '.'

theorem call_stands (kind : CallKind) (masked : List Char) (site : CallSite) (member : site ∈ callsFrom kind 0 masked) :
    site.kind = kind ∧ ∃ pre tail, masked = pre ++ (site.name ++ tail) ∧ site.Stands pre tail := by
  obtain ⟨front, back, found⟩ := List.append_of_mem member
  obtain ⟨pre, tail, split, identifier, opens, outside, place, here, -⟩ := calls_split kind masked front back site found
  have same : site.kind = kind := by rw [place]
  refine ⟨same, pre, tail, split, identifier, opens, outside, by rw [place], ?_⟩
  rw [same]
  cases kind with
  | method =>
      refine ⟨fun _ => ?_, fun _ => rfl⟩
      by_contra ink
      simp [callHere, methodHere, ink] at here
  | function =>
      rcases function_here_cases (charBehind none pre) (inkBehind none pre) site.name pre.length with absent | ⟨-, ink, -⟩
      · rw [callHere, absent] at here
        cases here
      · exact ⟨fun same => absurd same (by decide), fun found => absurd found ink⟩

theorem stands_same (masked pre tail first last : List Char) (site other : CallSite) (stands : site.Stands pre tail)
    (another : other.Stands first last) (split : masked = pre ++ (site.name ++ tail))
    (again : masked = first ++ (other.name ++ last)) (start : site.start = other.start) : site = other := by
  have lengths : pre.length = first.length := stands.start.symm.trans (start.trans another.start)
  obtain ⟨rfl, rest⟩ := List.append_inj (split.symm.trans again) lengths
  have called := called_name_call site.name tail stands.identifier stands.opens
  rw [rest, called_name_call other.name last another.identifier another.opens] at called
  have kinds : site.kind = .method ↔ other.kind = .method := stands.point.trans another.point.symm
  obtain ⟨name, kind, place⟩ := site
  obtain ⟨name, other_kind, place⟩ := other
  cases kind <;> cases other_kind <;> simp_all

theorem stands_behind (masked pre tail first last : List Char) (site other : CallSite) (stands : site.Stands pre tail)
    (another : other.Stands first last) (split : masked = pre ++ (site.name ++ tail))
    (again : masked = first ++ (other.name ++ last)) (start : site.start < other.start) : site.stop ≤ other.start := by
  rw [stands.start, another.start] at start
  have stop : site.stop = pre.length + site.name.length := by rw [CallSite.stop, stands.start]
  rw [stop, another.start]
  rcases List.append_eq_append_iff.mp (split.symm.trans again) with ⟨between, rfl, rest⟩ | ⟨between, rfl, -⟩
  · rcases List.append_eq_append_iff.mp rest with ⟨more, rfl, -⟩ | ⟨more, name, -⟩
    · simp
    · cases between with
      | nil => simp at start
      | cons c between =>
          obtain ⟨letter, member, found⟩ := char_behind_cons (charBehind none pre) c between
          have word := Text.identifier_words site.name stands.identifier letter (name ▸ List.mem_append_left more member)
          have outside := another.outside
          rw [char_behind_append, found] at outside
          simp [isOutside, word] at outside
  · rw [List.length_append] at start
    omega

theorem pairwise_of_split {α : Type} (before : α → α → Prop) (entries : List α)
    (split : ∀ front entry back, entries = front ++ entry :: back → ∀ other ∈ front, before other entry) :
    entries.Pairwise before := by
  induction entries with
  | nil => exact .nil
  | cons first entries ih =>
      refine .cons (fun entry member => ?_) (ih fun front entry back same other member => ?_)
      · obtain ⟨front, back, rfl⟩ := List.append_of_mem member
        exact split (first :: front) entry back rfl first List.mem_cons_self
      · exact split (first :: front) entry back (by rw [same]; rfl) other (List.mem_cons_of_mem _ member)

theorem calls_in_order (kind : CallKind) (masked : List Char) :
    (callsFrom kind 0 masked).Pairwise fun site other => site.stop ≤ other.start := by
  refine pairwise_of_split _ _ fun front site back found other member => ?_
  obtain ⟨pre, tail, -, -, -, -, place, -, rfl⟩ := calls_split kind masked front back site found
  obtain ⟨-, first, last, rfl, stands⟩ := call_stands kind pre other member
  rw [place, CallSite.stop, stands.start]
  simp

def CallSite.IsApart (site other : CallSite) : Prop :=
  site.stop ≤ other.start ∨ other.stop ≤ site.start

theorem calls_apart (text : List Char) : (calls text).Pairwise CallSite.IsApart := by
  refine List.pairwise_append.mpr ⟨?_, ?_, fun site method other function => ?_⟩
  · exact (calls_in_order .method (mask text)).imp .inl
  · exact (calls_in_order .function (mask text)).imp .inl
  · obtain ⟨kind, pre, tail, split, stands⟩ := call_stands .method (mask text) site method
    obtain ⟨another_kind, first, last, again, another⟩ := call_stands .function (mask text) other function
    rcases Nat.lt_trichotomy site.start other.start with before | same | behind
    · exact .inl (stands_behind _ pre tail first last site other stands another split again before)
    · have one := stands_same _ pre tail first last site other stands another split again same
      rw [one, another_kind] at kind
      cases kind
    · exact .inr (stands_behind _ first last pre tail other site another stands again split behind)

-- A name stands at the place of a call in a text and is not part of a longer word there.
structure CallSite.IsWordOf (site : CallSite) (text : List Char) : Prop where
  name : text.extract site.start site.stop = site.name
  front : ∀ c ∈ (text.take site.start).getLast?, Text.isWord c = false
  back : ∃ c, text[site.stop]? = some c ∧ Text.isWord c = false

-- The name of a call is made of lexemes of code, and not inside a literal or a comment.
def CallSite.IsCode (site : CallSite) (lexemes : List Lexeme) : Prop :=
  ∃ front back, lexemes = front ++ (site.name.map .code ++ back) ∧ (front.flatMap Lexeme.written).length = site.start

theorem word_between (pre tail : List Char) (site : CallSite) (start : site.start = pre.length)
    (front : ∀ c ∈ pre.getLast?, Text.isWord c = false) (back : ∃ c, tail.head? = some c ∧ Text.isWord c = false) :
    site.IsWordOf (pre ++ (site.name ++ tail)) := by
  have stop : site.stop = pre.length + site.name.length := by rw [CallSite.stop, start]
  refine ⟨?_, ?_, ?_⟩
  · rw [stop, start]
    simp
  · rw [start, List.take_left]
    exact front
  · obtain ⟨c, head, outside⟩ := back
    refine ⟨c, ?_, outside⟩
    rw [stop, List.getElem?_append_right (by omega), List.getElem?_append_right (by omega)]
    simpa [List.head?_eq_getElem?] using head

theorem char_behind_last (pre : List Char) : charBehind none pre = pre.getLast? := by
  rcases pre.eq_nil_or_concat with rfl | ⟨pre, c, rfl⟩
  · rfl
  · rw [List.concat_eq_append, char_behind_append, List.getLast?_concat]
    rfl

theorem opens_head (tail : List Char) (opens : Opens tail) : ∃ c, tail.head? = some c ∧ Text.isWord c = false := by
  obtain ⟨gap, rest, rfl, blank⟩ := opens
  cases gap with
  | nil => exact ⟨'(', rfl, by decide⟩
  | cons c gap => exact ⟨c, rfl, Text.blank_not_word c (blank c List.mem_cons_self)⟩

theorem call_lexemes (text : List Char) (site : CallSite) (member : site ∈ calls text) (lexemes : List Lexeme)
    (lexed : Lexed lexemes text) : ∃ front back, lexemes = front ++ (site.name.map .code ++ back) ∧
      site.Stands (front.flatMap Lexeme.shown) (back.flatMap Lexeme.shown) := by
  obtain ⟨kind, member⟩ : ∃ kind, site ∈ callsFrom kind 0 (mask text) := by
    rcases List.mem_append.mp member with method | function
    · exact ⟨.method, method⟩
    · exact ⟨.function, function⟩
  obtain ⟨-, pre, tail, masked, stands⟩ := call_stands kind (mask text) site member
  have some_name : site.name ≠ [] := by
    intro empty
    have identifier := stands.identifier
    rw [empty] at identifier
    cases identifier
  have letters := Text.identifier_words site.name stands.identifier
  obtain ⟨front, back, same, rfl, rfl⟩ :=
    word_lexemes lexemes pre site.name tail some_name letters ((mask_lexed lexemes text lexed).symm.trans masked)
  exact ⟨front, back, same, stands⟩

theorem call_exact (text : List Char) (site : CallSite) (member : site ∈ calls text) (lexemes : List Lexeme)
    (lexed : Lexed lexemes text) :
    site.name ≠ [] ∧ site.IsWordOf text ∧ site.IsWordOf (mask text) ∧ site.IsCode lexemes := by
  obtain ⟨front, back, rfl, stands⟩ := call_lexemes text site member lexemes lexed
  have start : site.start = (front.flatMap Lexeme.written).length := stands.start.trans (shown_lengths front)
  have outside : ∀ c ∈ (front.flatMap Lexeme.shown).getLast?, Text.isWord c = false := by
    intro c last
    have outside := stands.outside
    rw [char_behind_last, last] at outside
    simpa [isOutside] using outside
  obtain ⟨c, head, plain⟩ := opens_head _ stands.opens
  obtain ⟨first, letters, name, starts, -⟩ := Text.identifier_cases site.name stands.identifier
  refine ⟨by simp [name], ?_, ?_, front, back, rfl, start.symm⟩
  · have written := lexed_written _ text lexed
    rw [List.flatMap_append, List.flatMap_append, code_written] at written
    rw [written]
    refine word_between _ _ site start ?_ (written_head back c head plain)
    rw [name] at lexed
    exact written_last front _ first text (Text.isWord_of_isNameStart starts) lexed outside
  · have shown := mask_lexed _ text lexed
    rw [List.flatMap_append, List.flatMap_append, code_shown] at shown
    rw [shown]
    exact word_between _ _ site stands.start outside ⟨c, head, plain⟩

-- An expression has lexemes, and by all of them the names of its calls are whole words of code at their places, also under the
-- mask. No two calls share a character.
theorem calls_exact_disjoint (text : List Char) :
    (∃ lexemes, Lexed lexemes text) ∧
      (∀ lexemes, Lexed lexemes text → ∀ site ∈ calls text,
        site.name ≠ [] ∧ site.IsWordOf text ∧ site.IsWordOf (mask text) ∧ site.IsCode lexemes) ∧
      (calls text).Pairwise CallSite.IsApart :=
  ⟨lexed_total text, fun lexemes lexed site member => call_exact text site member lexemes lexed, calls_apart text⟩

def quotedCalls : List Lexeme :=
  "a(".toList.map .code ++ .literal ".b()".toList true :: ").c()".toList.map .code ++ [.comment "d()".toList]

theorem calls_exact_disjoint_quoted :
    Lexed quotedCalls "a(\".b()\").c()#d()".toList ∧
      calls "a(\".b()\").c()#d()".toList = [⟨['c'], .method, 10⟩, ⟨['a'], .function, 0⟩] ∧
      ∀ site ∈ calls "a(\".b()\").c()#d()".toList, site.IsCode quotedCalls := by
  have code (c : Char) (lexemes : List Lexeme) (rest : List Char) (mark : c ≠ '"' ∧ c ≠ '#') (lexed : Lexed lexemes rest) :
      Lexed (.code c :: lexemes) (c :: rest) := .next (.code c) lexemes rest mark lexed
  have comment : Lexed [.comment "d()".toList] "#d()".toList := .next _ [] [] ⟨by decide, nofun⟩ .done
  have behind : Lexed (").c()".toList.map .code ++ [.comment "d()".toList]) ").c()#d()".toList := by
    repeat refine code _ _ _ (by decide) ?_
    exact comment
  have inner : IsInner ".b()".toList := by
    repeat refine .plain _ _ (by decide) (by decide) (by decide) ?_
    exact .done
  have literal := Lexed.next (.literal ".b()".toList true) _ _ ⟨inner, by decide⟩ behind
  have lexed : Lexed quotedCalls "a(\".b()\").c()#d()".toList := code _ _ _ (by decide) (code _ _ _ (by decide) literal)
  refine ⟨lexed, by decide +kernel, fun site member => ?_⟩
  exact ((calls_exact_disjoint _).2.1 _ lexed site member).2.2.2

end PipelineLint.Expression
